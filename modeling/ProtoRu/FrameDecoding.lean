import ProtoRu.NetworkOrderBytes

namespace ProtoRu.FrameDecoding

open List

structure VlanParameters where
  tciVid : Nat
  tciPcp : Nat

structure VlanFrameParams where
  macDstAddress : Bytes
  macSrcAddress : Bytes
  vlanConfig : Option VlanParameters
  ethType : Nat

def minEthFrameLength : Nat := 64

def ethAddrLength : Nat := 6

def vlanTpid : Nat := 0x8100

def ecpriEthType : Nat := 0xaefe

/-- The Ethernet header of a frame, tagged or not. What remains is the eCPRI packet with its
padding. -/
def decodeVlanHeader : Deserializer VlanFrameParams := do
  let macDstAddress ← getViewAndAdvance ethAddrLength
  let macSrcAddress ← getViewAndAdvance ethAddrLength
  let ethType ← readTwoBytes
  if ethType = vlanTpid then
    let tci ← readTwoBytes
    let ethType ← readTwoBytes
    return {
      macDstAddress := macDstAddress
      macSrcAddress := macSrcAddress
      vlanConfig := some { tciVid := tci &&& 0x0fff, tciPcp := tci >>> 13 &&& 0x07 }
      ethType := ethType }
  else
    return {
      macDstAddress := macDstAddress
      macSrcAddress := macSrcAddress
      vlanConfig := none
      ethType := ethType }

def decodeVlanFrame : Deserializer VlanFrameParams := do
  requireRemaining minEthFrameLength
  decodeVlanHeader

def ecpriProtocolRevision : Nat := 1

def ecpriCommonHeaderSize : Nat := 4

def ecpriPacketFieldsSize : Nat := 4

structure CommonHeader where
  revision : Nat
  isLastPacket : Bool
  msgType : Nat
  payloadSize : Nat

inductive TypeParameters where
  | iqData (pcId seqId : Nat)
  | rtControlData (rtcId seqId : Nat)

def TypeParameters.eaxc : TypeParameters → Nat
  | .iqData pcId _ => pcId
  | .rtControlData rtcId _ => rtcId

def deserializeHeader : Deserializer CommonHeader := do
  let value ← readOneByte
  let msgType ← readOneByte
  let payloadSize ← readTwoBytes
  return {
    revision := value >>> 4
    isLastPacket := value &&& 1 = 0
    msgType := msgType
    payloadSize := payloadSize }

def decodeEcpriHeader : Deserializer CommonHeader := do
  requireRemaining ecpriCommonHeaderSize
  let header ← deserializeHeader
  require (header.revision = ecpriProtocolRevision)
  require header.isLastPacket
  return header

def decodeEcpriPayload (header : CommonHeader) : Deserializer (TypeParameters × Bytes) := do
  requireRemaining header.payloadSize
  require (ecpriPacketFieldsSize ≤ header.payloadSize)
  require (header.msgType = 0x00 ∨ header.msgType = 0x02)
  let id ← readTwoBytes
  let seqId ← readTwoBytes
  let payload ← getViewAndAdvance (header.payloadSize - ecpriPacketFieldsSize)
  return (if header.msgType = 0x00 then .iqData id seqId else .rtControlData id seqId, payload)

def decodeEcpriPacket (packet : Bytes) : Option (TypeParameters × Bytes) :=
  (do let header ← decodeEcpriHeader
      decodeEcpriPayload header : Deserializer (TypeParameters × Bytes)).run' packet

def ethTypeAt (frame : Bytes) : Nat := byteAt frame 12 <<< 8 ||| byteAt frame 13

def ecpriOffset (frame : Bytes) : Nat := if ethTypeAt frame = vlanTpid then 18 else 14

def ethParamsAt (frame : Bytes) : VlanFrameParams where
  macDstAddress := frame.take ethAddrLength
  macSrcAddress := (frame.drop ethAddrLength).take ethAddrLength
  vlanConfig :=
    if ethTypeAt frame = vlanTpid then
      some {
        tciVid := (byteAt frame 14 <<< 8 ||| byteAt frame 15) &&& 0x0fff
        tciPcp := (byteAt frame 14 <<< 8 ||| byteAt frame 15) >>> 13 &&& 0x07 }
    else none
  ethType :=
    if ethTypeAt frame = vlanTpid then byteAt frame 16 <<< 8 ||| byteAt frame 17
    else ethTypeAt frame

def ecpriHeaderAt (packet : Bytes) : CommonHeader where
  revision := byteAt packet 0 >>> 4
  isLastPacket := byteAt packet 0 &&& 1 = 0
  msgType := byteAt packet 1
  payloadSize := byteAt packet 2 <<< 8 ||| byteAt packet 3

def typeParametersAt (packet : Bytes) : TypeParameters :=
  if byteAt packet 1 = 0x00 then
    .iqData (byteAt packet 4 <<< 8 ||| byteAt packet 5) (byteAt packet 6 <<< 8 ||| byteAt packet 7)
  else
    .rtControlData (byteAt packet 4 <<< 8 ||| byteAt packet 5)
      (byteAt packet 6 <<< 8 ||| byteAt packet 7)

def ecpriPayloadAt (packet : Bytes) : Bytes :=
  (packet.drop 8).take ((ecpriHeaderAt packet).payloadSize - ecpriPacketFieldsSize)

@[mk_iff] structure EcpriHeaderAccepted (packet : Bytes) : Prop where
  revision_eq : (ecpriHeaderAt packet).revision = ecpriProtocolRevision
  isLastPacket : (ecpriHeaderAt packet).isLastPacket
  fields_le : ecpriPacketFieldsSize ≤ (ecpriHeaderAt packet).payloadSize
  msgType_eq : (ecpriHeaderAt packet).msgType = 0x00 ∨ (ecpriHeaderAt packet).msgType = 0x02

instance (packet : Bytes) : Decidable (EcpriHeaderAccepted packet) :=
  decidable_of_iff _ (ecpriHeaderAccepted_iff packet).symm

@[mk_iff] structure EcpriAccepted (packet : Bytes) : Prop where
  header : EcpriHeaderAccepted packet
  payload_le : ecpriCommonHeaderSize + (ecpriHeaderAt packet).payloadSize ≤ packet.length

instance (packet : Bytes) : Decidable (EcpriAccepted packet) :=
  decidable_of_iff _ (ecpriAccepted_iff packet).symm

lemma decodeVlanHeader_apply (frame : Bytes) : decodeVlanHeader frame =
      if ecpriOffset frame ≤ frame.length then
        some (ethParamsAt frame, frame.drop (ecpriOffset frame))
      else none := by
  have hview (bytes : Bytes) : getViewAndAdvance ethAddrLength bytes =
      some (bytes.take ethAddrLength, bytes.drop ethAddrLength) := rfl
  have hlong {k : Nat} (hk : k + 2 ≤ frame.length) : 1 < (frame.drop k).length := by
    rw [length_drop]
    omega
  have hshort {k : Nat} (hk : ¬ k + 2 ≤ frame.length) : (frame.drop k).length ≤ 1 := by
    rw [length_drop]
    omega
  rw [decodeVlanHeader, bind_of_eq_some (hview _), bind_of_eq_some (hview _), drop_drop,
    show ethAddrLength + ethAddrLength = 12 from rfl]
  by_cases hethType : 12 + 2 ≤ frame.length
  · have hread : readTwoBytes (frame.drop 12) = some (ethTypeAt frame, frame.drop 14) := by
      rw [readTwoBytes_apply (hlong hethType), byteAt_drop, byteAt_drop, drop_drop]
      rfl
    rw [bind_of_eq_some hread]
    by_cases htagged : ethTypeAt frame = vlanTpid
    · rw [if_pos htagged, ecpriOffset, if_pos htagged, bind_apply]
      by_cases htci : 14 + 2 ≤ frame.length
      · rw [readTwoBytes_apply (hlong htci), Option.bind_some, bind_apply, drop_drop]
        by_cases htag : 16 + 2 ≤ frame.length
        · rw [readTwoBytes_apply (hlong htag), if_pos htag, drop_drop]
          simp only [byteAt_drop, ethParamsAt, if_pos htagged]
          rfl
        · rw [readTwoBytes_short (hshort htag), if_neg htag]
          rfl
      · rw [readTwoBytes_short (hshort htci), if_neg (by omega)]
        rfl
    · rw [if_neg htagged, ecpriOffset, if_neg htagged, if_pos hethType, pure_apply]
      simp [ethParamsAt, if_neg htagged]
  · rw [bind_apply, readTwoBytes_short (hshort hethType), if_neg]
    · rfl
    · simp only [ecpriOffset]
      split <;> omega

lemma decodeVlanFrame_eq {frame : Bytes} (h : minEthFrameLength ≤ frame.length) :
    decodeVlanFrame frame = decodeVlanHeader frame :=
  requireRemaining_bind_of h _

variable {packet : Bytes}

lemma deserializeHeader_apply (h : 4 ≤ packet.length) :
    deserializeHeader packet = some (ecpriHeaderAt packet, packet.drop 4) := by
  obtain ⟨_, _, _, _, _, rfl⟩ := exists_four_bytes h
  rfl

lemma decodeEcpriHeader_apply (packet : Bytes) : decodeEcpriHeader packet =
      if ecpriCommonHeaderSize ≤ packet.length ∧
          (ecpriHeaderAt packet).revision = ecpriProtocolRevision ∧
          (ecpriHeaderAt packet).isLastPacket then
        some (ecpriHeaderAt packet, packet.drop ecpriCommonHeaderSize)
      else none := by
  by_cases hlen : ecpriCommonHeaderSize ≤ packet.length
  · rw [decodeEcpriHeader, requireRemaining_bind_of hlen,
      bind_of_eq_some (deserializeHeader_apply hlen)]
    simp only [bind_apply, require_apply, hlen, true_and]
    by_cases hrevision : (ecpriHeaderAt packet).revision = ecpriProtocolRevision
    · by_cases hlast : (ecpriHeaderAt packet).isLastPacket
      · simp [hrevision, hlast, pure_apply, ecpriCommonHeaderSize]
      · simp [hlast]
    · simp [hrevision]
  · rw [decodeEcpriHeader, bind_apply, requireRemaining_apply,
      if_pos (Nat.not_le.mp hlen), if_neg (fun h => hlen h.1)]
    rfl

variable {header : CommonHeader}

lemma decodeEcpriPayload_eq_some (hsize : header.payloadSize ≤ packet.length)
    (hfields : ecpriPacketFieldsSize ≤ header.payloadSize)
    (htype : header.msgType = 0x00 ∨ header.msgType = 0x02) :
    (decodeEcpriPayload header packet).map Prod.fst = some (if header.msgType = 0x00 then
          .iqData (byteAt packet 0 <<< 8 ||| byteAt packet 1)
            (byteAt packet 2 <<< 8 ||| byteAt packet 3)
        else
          .rtControlData (byteAt packet 0 <<< 8 ||| byteAt packet 1)
            (byteAt packet 2 <<< 8 ||| byteAt packet 3),
        (packet.drop 4).take (header.payloadSize - ecpriPacketFieldsSize)) := by
  have hlen : 4 ≤ packet.length := Nat.le_trans hfields hsize
  rw [decodeEcpriPayload, requireRemaining_bind_of hsize, require_bind hfields, require_bind htype]
  obtain ⟨_, _, _, _, _, rfl⟩ := exists_four_bytes hlen
  rfl

lemma of_decodeEcpriPayload_eq_some {result : (TypeParameters × Bytes) × Bytes}
    (h : decodeEcpriPayload header packet = some result) :
    header.payloadSize ≤ packet.length ∧ ecpriPacketFieldsSize ≤ header.payloadSize ∧
      (header.msgType = 0x00 ∨ header.msgType = 0x02) := by
  simp only [decodeEcpriPayload, bind_apply, requireRemaining_apply, require_apply] at h
  by_cases hsize : packet.length < header.payloadSize
  · simp [hsize] at h
  by_cases hfields : ecpriPacketFieldsSize ≤ header.payloadSize
  · by_cases htype : header.msgType = 0x00 ∨ header.msgType = 0x02
    · exact ⟨Nat.not_lt.mp hsize, hfields, htype⟩
    · simp [htype] at h
  · simp [hfields] at h

lemma decodeEcpriPacket_eq (packet : Bytes) : decodeEcpriPacket packet =
      if EcpriAccepted packet then some (typeParametersAt packet, ecpriPayloadAt packet)
      else none := by
  have hrun : decodeEcpriPacket packet = ((decodeEcpriHeader packet).bind
      fun header => decodeEcpriPayload header.1 header.2).map Prod.fst := rfl
  rw [hrun, decodeEcpriHeader_apply]
  split
  case isTrue h =>
    obtain ⟨hlen, hrevision, hlast⟩ := h
    have hbody : (packet.drop ecpriCommonHeaderSize).length =
        packet.length - ecpriCommonHeaderSize := length_drop
    rw [Option.bind_some]
    split_ifs with hacc
    · obtain ⟨⟨-, -, hfields, htype⟩, hpay⟩ := hacc
      have hsize : (ecpriHeaderAt packet).payloadSize ≤
          (packet.drop ecpriCommonHeaderSize).length := by omega
      rw [decodeEcpriPayload_eq_some hsize hfields htype]
      simp [ecpriCommonHeaderSize, typeParametersAt, ecpriPayloadAt, ecpriHeaderAt]
    · rcases hdecode : decodeEcpriPayload (ecpriHeaderAt packet)
        (packet.drop ecpriCommonHeaderSize) with _ | result
      · rfl
      · obtain ⟨hsize, hfields, htype⟩ := of_decodeEcpriPayload_eq_some hdecode
        exact absurd ⟨⟨hrevision, hlast, hfields, htype⟩, by omega⟩ hacc
  case isFalse h =>
    rw [if_neg]
    · rfl
    · rintro ⟨hhdr, hpay⟩
      exact h ⟨by omega, hhdr.revision_eq, hhdr.isLastPacket⟩

lemma length_ecpriPayloadAt (h : EcpriAccepted packet) : (ecpriPayloadAt packet).length =
      (ecpriHeaderAt packet).payloadSize - ecpriPacketFieldsSize := by
  have hpay : 4 + (ecpriHeaderAt packet).payloadSize ≤ packet.length := h.payload_le
  rw [ecpriPayloadAt, length_take, length_drop, ecpriPacketFieldsSize]
  omega

end ProtoRu.FrameDecoding
