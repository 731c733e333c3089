import ProtoRu.MacSubpduGrammar

namespace ProtoRu.MacDlSch

open MacSubpduGrammar

def srb0 : Lcid := 0b000000
def scellActiv4Octet : Lcid := 0b111001
def scellActiv1Octet : Lcid := 0b111010
def taCmd : Lcid := 0b111101
def ueConResId : Lcid := 0b111110

def isSdu (lcid : Lcid) : Bool := lcid.val ≤ 32

/-- LCIDs 33 to 51 are reserved. -/
def isValid (lcid : Lcid) : Bool := lcid.val < 33 ∨ 51 < lcid.val

def sizeofCe (lcid : Lcid) : Nat :=
  if lcid = scellActiv4Octet then 4
  else if lcid = scellActiv1Octet then 1
  else if lcid = taCmd then 1
  else if lcid = ueConResId then 6
  else 0

def macSduSubheaderSize (payload : Nat) : Nat :=
  if payload = 0 then 0 else if 256 ≤ payload then 3 else 2

def macSduRequiredBytes (payload : Nat) : Nat := payload + macSduSubheaderSize payload

/-- No SDU takes 258 bytes with its subheader. -/
def macSduPayloadSize (size : Nat) : Nat := if size ≤ 256 + 2 - 1 then size - 2 else size - 3

/-- Room for a subheader and a byte, and for the header of the RLC but on SRB0. -/
def minMacSubhdrAndSduSpaceRequired (lcid : Lcid) : Nat := 2 + 1 + if lcid ≠ srb0 then 2 else 0

def overwrite (buffer : Bytes) (offset : Nat) (bytes : Bytes) : Option Bytes :=
  if offset + bytes.length ≤ buffer.length then
    some (buffer.take offset ++ bytes ++ buffer.drop (offset + bytes.length))
  else none

structure DlSchPdu where
  pdu : Bytes
  byteOffset : Nat

structure MacSduEncoder where
  lcid : Lcid
  subhrLen : Nat
  maxSduSize : Nat

namespace DlSchPdu

variable (p : DlSchPdu)

def nofEmptyBytes : Nat := p.pdu.length - p.byteOffset

def push (bytes : Bytes) : Option DlSchPdu :=
  (overwrite p.pdu p.byteOffset bytes).map fun pdu => ⟨pdu, p.byteOffset + bytes.length⟩

def firstByte (fBit : Bool) (lcid : Lcid) : UInt8 :=
  UInt8.ofNat ((if fBit then 1 else 0) <<< 6 ||| (lcid.val &&& 0x3f))

/-- A header of another length is a fatal error. -/
def subheader (fBit : Bool) (lcid : Lcid) (headerLen payloadLen : Nat) : Option Bytes :=
  match headerLen with
  | 3 =>
    some [firstByte fBit lcid, UInt8.ofNat ((payloadLen &&& 0xff00) >>> 8),
      UInt8.ofNat (payloadLen &&& 0xff)]
  | 2 => some [firstByte fBit lcid, UInt8.ofNat (payloadLen &&& 0xff)]
  | 1 => some [firstByte fBit lcid]
  | _ => none

def encodeSubheader (fBit : Bool) (lcid : Lcid) (headerLen payloadLen : Nat) : Option DlSchPdu :=
  (subheader fBit lcid headerLen payloadLen).bind p.push

def getSduEncoder (lcid : Lcid) (sduPayloadLenEstimate : Nat) : Option MacSduEncoder :=
  if sduPayloadLenEstimate = 0 then none
  else if p.nofEmptyBytes < minMacSubhdrAndSduSpaceRequired lcid then none
  else
    let spaceEstim := min p.nofEmptyBytes (macSduRequiredBytes sduPayloadLenEstimate)
    let maxSduSize := macSduPayloadSize spaceEstim
    some ⟨lcid, macSduSubheaderSize maxSduSize, maxSduSize⟩

def fillSduBuffer (enc : MacSduEncoder) (written : Bytes) : Option DlSchPdu :=
  if p.byteOffset + enc.subhrLen + enc.maxSduSize ≤ p.pdu.length then
    (overwrite p.pdu (p.byteOffset + enc.subhrLen) written).map fun pdu => { p with pdu := pdu }
  else none

/-- The SDU is moved to the left when its subheader is shorter than the room for it. -/
def moveSdu (enc : MacSduEncoder) (sduBytesWritten : Nat) : Option (DlSchPdu × Nat) :=
  if macSduSubheaderSize sduBytesWritten ≠ enc.subhrLen then
    (overwrite p.pdu (p.byteOffset + 2)
      ((p.pdu.drop (p.byteOffset + 2 + 1)).take sduBytesWritten)).map
        fun pdu => ({ p with pdu := pdu }, 2)
  else some (p, enc.subhrLen)

def encodeSdu (enc : MacSduEncoder) (sduBytesWritten : Nat) : Option (DlSchPdu × Nat) :=
  if sduBytesWritten = 0 ∨ enc.maxSduSize < sduBytesWritten then some (p, 0)
  else do
    let (p, subhrLen) ← p.moveSdu enc sduBytesWritten
    let p ← p.encodeSubheader (2 < subhrLen) enc.lcid subhrLen sduBytesWritten
    some ({ p with byteOffset := p.byteOffset + sduBytesWritten }, subhrLen + sduBytesWritten)

def addUeConResId (conRes : Bytes) : Option DlSchPdu := do
  let p ← p.encodeSubheader false ueConResId 1 (sizeofCe ueConResId)
  p.push conRes

def addTagCmd (tagId : UInt8) (cmd : Nat) : Option DlSchPdu := do
  let p ← p.encodeSubheader false taCmd 1 (sizeofCe taCmd)
  p.push [UInt8.ofNat ((tagId.toNat &&& 0xc0) ||| (cmd &&& 0x3f))]

def addPadding (len : Nat) : Option DlSchPdu := do
  let p ← p.encodeSubheader false paddingLcid 1 (len - 1)
  p.push (List.replicate (len - 1) 0)

end DlSchPdu

/-- The answer of the RLC: the bytes it has written, of which the first ones are the SDU. -/
structure Pulled (σ : Type) where
  state : σ
  written : Bytes
  length : Nat

structure Rlc (σ : Type) where
  onNewTxSdu : σ → Lcid → Nat → Pulled σ
  written_le : ∀ state lcid size, (onNewTxSdu state lcid size).written.length ≤ size
  length_le : ∀ state lcid size,
    (onNewTxSdu state lcid size).length ≤ (onNewTxSdu state lcid size).written.length

structure UeConResId where
  bytes : Bytes
  length_bytes : bytes.length = 6

structure TaCmdCePayload where
  tagId : UInt8
  taCmd : Nat

structure LcInfo where
  lcid : Lcid
  schedBytes : Nat
  cePayload : Option TaCmdCePayload
  schedBytes_le : schedBytes ≤ 65535

def conResToSched : LcInfo := ⟨ueConResId, sizeofCe ueConResId, none, by decide⟩

inductive Content where
  | ueConResId (id : Bytes)
  | taCmd (tagId cmd : Nat)
  | sdu (lcid : Lcid) (bytes : Bytes)
  | padding
  | other

/-- A PDU in the making, with the RLC, the CEs scheduled and the SDUs that the RLC gave. -/
structure Assembly (σ : Type) where
  pdu : DlSchPdu
  rlc : σ
  contents : List Content

section

variable {σ : Type} (rlc : Rlc σ)

/-- An SDU with its subheader and their size. There may be no room, and the RLC may have none. -/
def assembleSdu (lcid : Lcid) (remBytes : Nat) (a : Assembly σ) : Option (Assembly σ × Nat) :=
  match a.pdu.getSduEncoder lcid (macSduPayloadSize remBytes) with
  | none => some (a, 0)
  | some enc =>
    let pulled := rlc.onNewTxSdu a.rlc lcid enc.maxSduSize
    (a.pdu.fillSduBuffer enc pulled.written).bind fun pdu =>
      if pulled.length = 0 then some ({ a with pdu := pdu, rlc := pulled.state }, 0)
      else
        (pdu.encodeSdu enc pulled.length).map fun (pdu, subhAndSduSize) =>
          (⟨pdu, pulled.state,
            a.contents ++ [.sdu lcid (pulled.written.take pulled.length)]⟩, subhAndSduSize)

/-- The loop over the SDUs of a grant. It ends within as many rounds as there are bytes. -/
def assembleSdusFrom (lcid : Lcid) : Nat → Nat → Assembly σ → Option (Assembly σ)
  | 0, _, a => some a
  | rounds + 1, remBytes, a =>
    if remBytes < minMacSubhdrAndSduSpaceRequired lcid then some a
    else
      (assembleSdu rlc lcid remBytes a).bind fun (a, subhAndSduSize) =>
        if subhAndSduSize = 0 then some a
        else if remBytes < subhAndSduSize then none
        else assembleSdusFrom lcid rounds (remBytes - subhAndSduSize) a

def assembleSdus (a : Assembly σ) (info : LcInfo) : Option (Assembly σ) :=
  let totalSpace := min (macSduRequiredBytes info.schedBytes) a.pdu.nofEmptyBytes
  assembleSdusFrom rlc info.lcid totalSpace totalSpace a

def assembleCe (conRes : UeConResId) (a : Assembly σ) (info : LcInfo) : Option (Assembly σ) :=
  if info.lcid = ueConResId then
    (a.pdu.addUeConResId conRes.bytes).map fun pdu =>
      { a with pdu := pdu, contents := a.contents ++ [.ueConResId conRes.bytes] }
  else if info.lcid = taCmd then
    info.cePayload.bind fun ce =>
      (a.pdu.addTagCmd ce.tagId ce.taCmd).map fun pdu =>
        { a with pdu := pdu, contents := a.contents ++ [.taCmd ce.tagId.toNat ce.taCmd] }
  else none

def assembleSubpdu (conRes : UeConResId) (a : Assembly σ) (info : LcInfo) : Option (Assembly σ) :=
  if isSdu info.lcid then assembleSdus rlc a info else assembleCe conRes a info

def assemble (conRes : UeConResId) (lcChsToSched : List LcInfo) (buffer : Bytes) (state : σ) :
    Option (Assembly σ × Bool) := do
  let a ← lcChsToSched.foldlM (assembleSubpdu rlc conRes) ⟨⟨buffer, 0⟩, state, []⟩
  if a.pdu.byteOffset < buffer.length then
    (a.pdu.addPadding (buffer.length - a.pdu.byteOffset)).map fun pdu =>
      ({ a with pdu := pdu }, true)
  else some (a, a.pdu.byteOffset = buffer.length)

end

end ProtoRu.MacDlSch
