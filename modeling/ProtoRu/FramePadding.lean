import ProtoRu.MessageReception

namespace ProtoRu.FramePadding

open FrameDecoding MessageReception SequenceIds List

def unpaddedMessage (config : ReceiverConfig) (frame : Bytes) :
    Option (TypeParameters × Bytes) :=
  (decodeVlanHeader frame).bind (ecpriMessage config)

def declaredPayloadSize (frame : Bytes) : Nat :=
  (ecpriHeaderAt (frame.drop (ecpriOffset frame))).payloadSize

structure DeclaresMoreThanReceived (frame : Bytes) : Prop where
  header_le : ecpriOffset frame + ecpriCommonHeaderSize ≤ frame.length
  received_lt : frame.length < ecpriOffset frame + ecpriCommonHeaderSize + declaredPayloadSize frame

/-- A frame that declares more than was received is dropped; others are processed as if unpadded.
-/
structure PaddingIgnored (config : ReceiverConfig) (checkers : Checkers)
    (frame : Bytes) : Prop where
  truncated_dropped : DeclaresMoreThanReceived frame →
    processFrame config checkers frame = ⟨[], some checkers⟩
  as_unpadded : ¬ DeclaresMoreThanReceived frame → processFrame config checkers frame =
      processMessage config checkers (unpaddedMessage config frame)

def zeroFilledContent (frame : Bytes) : Bytes :=
  let received := frame.drop (ecpriOffset frame + 8)
  received ++ replicate (declaredPayloadSize frame - ecpriPacketFieldsSize - received.length) 0

/-- The declared payload ends in the padding and nothing else makes the receiver
drop the frame. -/
structure CompletedByPadding (config : ReceiverConfig) (frame : Bytes) : Prop where
  declaresMore : DeclaresMoreThanReceived frame
  declared_le : ecpriOffset frame + ecpriCommonHeaderSize + declaredPayloadSize frame ≤
    minEthFrameLength
  notFiltered : shouldEthernetFrameBeFiltered config (ethParamsAt frame) = false
  header : EcpriHeaderAccepted (frame.drop (ecpriOffset frame))
  fields_lt : ecpriPacketFieldsSize < declaredPayloadSize frame
  taken : byteAt frame (ecpriOffset frame + 1) = 0x02 ∨
    (byteAt frame (ecpriOffset frame + 4) <<< 8 ||| byteAt frame (ecpriOffset frame + 5)) ∈
      config.dlEaxc.values ∨
    (peekSlotSymbolPoint (zeroFilledContent frame) config.nofSymbolsPerSlot config.scs).isSome

lemma byteAt_padFrame (frame : Bytes) (offset : Nat) :
    byteAt (padFrame frame) offset = byteAt frame offset := by
  obtain hoff | hoff := Nat.lt_or_ge offset frame.length
  · simp only [byteAt, padFrame, getD_append _ _ _ _ hoff]
  have hzeros (n k : Nat) : (replicate n (0 : UInt8)).getD k 0 = 0 := by
    simp [getD, getElem?_replicate]
    split <;> rfl
  simp only [byteAt, padFrame, getD_append_right _ _ _ _ hoff, hzeros, getD_eq_default _ _ hoff]

variable {frame : Bytes} {config : ReceiverConfig}

lemma length_padFrame (hshort : frame.length < minEthFrameLength) :
    (padFrame frame).length = minEthFrameLength := by
  rw [padFrame, length_append, length_replicate]
  omega

lemma take_drop_padFrame {offset nofBytes : Nat} (h : offset + nofBytes ≤ frame.length) :
    ((padFrame frame).drop offset).take nofBytes = (frame.drop offset).take nofBytes := by
  have hrest : nofBytes ≤ (frame.drop offset).length := by
    rw [length_drop]
    omega
  rw [padFrame, drop_append_of_le_length (by omega), take_append_of_le_length hrest]

variable (offset : Nat)

section

variable (frame : Bytes)

@[simp] lemma ethTypeAt_padFrame : ethTypeAt (padFrame frame) = ethTypeAt frame := by
  simp [ethTypeAt, byteAt_padFrame]

@[simp] lemma ecpriOffset_padFrame : ecpriOffset (padFrame frame) = ecpriOffset frame := by
  simp [ecpriOffset]

lemma le_ecpriOffset : 14 ≤ ecpriOffset frame := by
  rw [ecpriOffset]
  split <;> omega

@[simp] lemma ecpriHeaderAt_padFrame :
    ecpriHeaderAt ((padFrame frame).drop offset) = ecpriHeaderAt (frame.drop offset) := by
  simp [ecpriHeaderAt, byteAt_padFrame]

@[simp] lemma typeParametersAt_padFrame :
    typeParametersAt ((padFrame frame).drop offset) = typeParametersAt (frame.drop offset) := by
  simp [typeParametersAt, byteAt_padFrame]

@[simp] lemma ecpriHeaderAccepted_padFrame : EcpriHeaderAccepted ((padFrame frame).drop offset) ↔
      EcpriHeaderAccepted (frame.drop offset) := by
  simp [ecpriHeaderAccepted_iff]

end

lemma ethParamsAt_padFrame (h : 14 ≤ frame.length) :
    ethParamsAt (padFrame frame) = ethParamsAt frame := by
  have hdst : (padFrame frame).take ethAddrLength = frame.take ethAddrLength :=
    @take_drop_padFrame frame 0 6 (by omega)
  have hsrc : ((padFrame frame).drop ethAddrLength).take ethAddrLength =
      (frame.drop ethAddrLength).take ethAddrLength :=
    take_drop_padFrame (show 6 + 6 ≤ frame.length by omega)
  simp [ethParamsAt, hdst, hsrc, byteAt_padFrame]

@[mk_iff] structure CarriesMessage (config : ReceiverConfig) (frame : Bytes) : Prop where
  offset_le : ecpriOffset frame ≤ frame.length
  notFiltered : shouldEthernetFrameBeFiltered config (ethParamsAt frame) = false
  accepted : EcpriAccepted (frame.drop (ecpriOffset frame))
  fields_lt : ecpriPacketFieldsSize < declaredPayloadSize frame

instance (config : ReceiverConfig) (frame : Bytes) : Decidable (CarriesMessage config frame) :=
  decidable_of_iff _ (carriesMessage_iff config frame).symm

lemma isEmpty_of_accepted {pdu : Bytes} (hacc : EcpriAccepted pdu) :
    pdu.isEmpty = false := by
  have hpay := hacc.payload_le
  rw [Bool.eq_false_iff, ne_eq, List.isEmpty_iff]
  intro hnil
  rw [hnil, length_nil, ecpriCommonHeaderSize] at hpay
  omega

lemma isEmpty_ecpriPayloadAt_iff (hacc : EcpriAccepted (frame.drop (ecpriOffset frame))) :
    (ecpriPayloadAt (frame.drop (ecpriOffset frame))).isEmpty ↔
      ¬ ecpriPacketFieldsSize < declaredPayloadSize frame := by
  rw [List.isEmpty_iff, ← List.length_eq_zero_iff, length_ecpriPayloadAt hacc, declaredPayloadSize]
  omega

lemma unpaddedMessage_eq (config : ReceiverConfig) (frame : Bytes) :
    unpaddedMessage config frame =
      if CarriesMessage config frame then
        some (typeParametersAt (frame.drop (ecpriOffset frame)),
          ecpriPayloadAt (frame.drop (ecpriOffset frame)))
      else none := by
  have hrun : unpaddedMessage config frame = (decodeVlanHeader frame).bind fun header =>
      if header.2.isEmpty || shouldEthernetFrameBeFiltered config header.1 then none
      else (decodeEcpriPacket header.2).bind fun packet =>
        if packet.2.isEmpty then none else some packet := rfl
  rw [hrun, decodeVlanHeader_apply]
  by_cases hoff : ecpriOffset frame ≤ frame.length
  · rw [if_pos hoff, Option.bind_some, decodeEcpriPacket_eq]
    by_cases hacc : EcpriAccepted (frame.drop (ecpriOffset frame))
    · have hmessage := isEmpty_ecpriPayloadAt_iff hacc
      rw [if_pos hacc, Option.bind_some, isEmpty_of_accepted hacc, Bool.false_or]
      cases hfilt : shouldEthernetFrameBeFiltered config (ethParamsAt frame) with
      | true =>
        rw [if_pos rfl, if_neg]
        intro h
        rw [h.notFiltered] at hfilt
        cases hfilt
      | false =>
        rw [if_neg (by decide)]
        by_cases hfields : ecpriPacketFieldsSize < declaredPayloadSize frame
        · rw [if_neg (fun h => hmessage.mp h hfields), if_pos ⟨hoff, hfilt, hacc, hfields⟩]
        · rw [if_pos (hmessage.mpr hfields), if_neg (fun h => hfields h.fields_lt)]
    · rw [if_neg (fun h : CarriesMessage config frame => hacc h.accepted)]
      split <;> rfl
  · rw [if_neg hoff, if_neg (fun h : CarriesMessage config frame => hoff h.offset_le)]
    rfl

lemma receivedMessage_eq (config : ReceiverConfig) (hshort : frame.length < minEthFrameLength) :
    receivedMessage config frame = unpaddedMessage config (padFrame frame) := by
  rw [receivedMessage, decodeVlanFrame_eq (Nat.le_of_eq (length_padFrame hshort).symm)]
  rfl

lemma declaredPayloadSize_padFrame (frame : Bytes) :
    declaredPayloadSize (padFrame frame) = declaredPayloadSize frame := by
  simp [declaredPayloadSize]

section

variable (hshort : frame.length < minEthFrameLength)

include hshort

/-- Zeros never complete a header: no multiple of 256 is a size that fits in a short frame. -/
lemma not_carriesMessage_of_headerMissing
    (hhdr : frame.length < ecpriOffset frame + ecpriCommonHeaderSize) :
    ¬ CarriesMessage config (padFrame frame) := by
  rintro ⟨-, -, hacc, hfields⟩
  have hpay := hacc.payload_le
  rw [length_drop, length_padFrame hshort, ecpriOffset_padFrame, ecpriHeaderAt_padFrame] at hpay
  rw [declaredPayloadSize_padFrame, declaredPayloadSize] at hfields
  have hlow : byteAt frame (ecpriOffset frame + 3) = 0 := by
    have hend : frame.length ≤ ecpriOffset frame + 3 := by
      rw [ecpriCommonHeaderSize] at hhdr
      omega
    rw [byteAt, getD_eq_default _ _ hend]
    rfl
  simp only [ecpriHeaderAt, byteAt_drop, hlow, Nat.or_zero, Nat.shiftLeft_eq,
    ecpriCommonHeaderSize, ecpriPacketFieldsSize, minEthFrameLength] at hpay hfields
  omega

lemma carriesMessage_padFrame_iff
    (hhdr : ecpriOffset frame + ecpriCommonHeaderSize ≤ frame.length) :
    CarriesMessage config (padFrame frame) ↔
      shouldEthernetFrameBeFiltered config (ethParamsAt frame) = false ∧
        EcpriHeaderAccepted (frame.drop (ecpriOffset frame)) ∧
        ecpriPacketFieldsSize < declaredPayloadSize frame ∧
        ecpriOffset frame + ecpriCommonHeaderSize + declaredPayloadSize frame ≤
          minEthFrameLength := by
  have hoff := le_ecpriOffset frame
  have hlen : 14 ≤ frame.length := by omega
  rw [carriesMessage_iff, ecpriAccepted_iff, length_drop, length_padFrame hshort,
    ecpriOffset_padFrame, declaredPayloadSize_padFrame, ethParamsAt_padFrame hlen,
    ecpriHeaderAccepted_padFrame, ecpriHeaderAt_padFrame]
  rw [← declaredPayloadSize]
  constructor
  · rintro ⟨-, hfilt, ⟨hacc, hpay⟩, hfields⟩
    exact ⟨hfilt, hacc, hfields, by omega⟩
  · rintro ⟨hfilt, hacc, hfields, hpay⟩
    exact ⟨by omega, hfilt, ⟨hacc, by omega⟩, hfields⟩

lemma carriesMessage_iff_of_received
    (hhdr : ecpriOffset frame + ecpriCommonHeaderSize + declaredPayloadSize frame ≤ frame.length) :
    CarriesMessage config (padFrame frame) ↔ CarriesMessage config frame := by
  rw [carriesMessage_padFrame_iff hshort (by omega), carriesMessage_iff, ecpriAccepted_iff,
    length_drop]
  rw [← declaredPayloadSize]
  constructor
  · rintro ⟨hfilt, hacc, hfields, -⟩
    exact ⟨by omega, hfilt, ⟨hacc, by omega⟩, hfields⟩
  · rintro ⟨-, hfilt, ⟨hacc, -⟩, hfields⟩
    exact ⟨hfilt, hacc, hfields, by omega⟩

end

lemma ecpriPayloadAt_padFrame_of_received
    (hhdr : ecpriOffset frame + ecpriCommonHeaderSize + declaredPayloadSize frame ≤ frame.length)
    (hfields : ecpriPacketFieldsSize < declaredPayloadSize frame) :
    ecpriPayloadAt ((padFrame frame).drop (ecpriOffset frame)) =
      ecpriPayloadAt (frame.drop (ecpriOffset frame)) := by
  simp only [ecpriPayloadAt, ecpriHeaderAt_padFrame, drop_drop]
  rw [← declaredPayloadSize]
  apply take_drop_padFrame
  simp only [ecpriCommonHeaderSize, ecpriPacketFieldsSize] at hhdr hfields ⊢
  omega

lemma ecpriPayloadAt_padFrame_of_truncated (htrunc : DeclaresMoreThanReceived frame)
    (hdeclared : ecpriOffset frame + ecpriCommonHeaderSize + declaredPayloadSize frame ≤
      minEthFrameLength) :
    ecpriPayloadAt ((padFrame frame).drop (ecpriOffset frame)) = zeroFilledContent frame := by
  obtain ⟨-, hrecv⟩ := htrunc
  simp only [ecpriPayloadAt, ecpriHeaderAt_padFrame, drop_drop, zeroFilledContent]
  rw [← declaredPayloadSize, padFrame, drop_append, take_append, drop_replicate, take_replicate]
  simp only [ecpriCommonHeaderSize, ecpriPacketFieldsSize, minEthFrameLength] at *
  rw [take_of_length_le (by rw [length_drop]; omega), length_drop]
  congr 2
  omega

variable (checkers : Checkers)

lemma checkAndDecode_ne_dropped (before : List Effect) (checker : CheckerId) (eaxc seqId : Nat)
    (decodeMessage : Effect) (after : Option Checkers) :
    checkAndDecode checkers before checker eaxc seqId decodeMessage ≠ ⟨[], after⟩ := fun h =>
  ne_nil_of_mem (checkSeqId_mem_checkAndDecode _ _ _ _ _ _) (congrArg Outcome.effects h)

section

variable (config : ReceiverConfig)

/-- Only IQ data of an eAxC that is not configured, without a slot to count, leaves no trace. -/
lemma processMessage_eq_dropped_iff (packet message : Bytes) :
    processMessage config checkers (some (typeParametersAt packet, message)) = ⟨[], some checkers⟩ ↔
      byteAt packet 1 = 0x00 ∧ (byteAt packet 4 <<< 8 ||| byteAt packet 5) ∉ config.dlEaxc.values ∧
        peekSlotSymbolPoint message config.nofSymbolsPerSlot config.scs = none := by
  rw [typeParametersAt]
  by_cases htype : byteAt packet 1 = 0x00
  · rw [if_pos htype, processMessage]
    by_cases hdl : (byteAt packet 4 <<< 8 ||| byteAt packet 5) ∈ config.dlEaxc.values
    · simp [hdl, checkAndDecode_ne_dropped]
    · simp [htype, hdl, windowEffects]
  · simp [htype, processMessage, checkAndDecode_ne_dropped]

lemma unpaddedMessage_of_headerMissing
    (hhdr : frame.length < ecpriOffset frame + ecpriCommonHeaderSize) :
    unpaddedMessage config frame = none := by
  rw [unpaddedMessage_eq, if_neg]
  rintro ⟨-, -, hacc, -⟩
  have hpay := hacc.payload_le
  rw [length_drop] at hpay
  simp only [ecpriCommonHeaderSize] at hhdr hpay
  omega

lemma receivedMessage_eq_unpaddedMessage (hshort : frame.length < minEthFrameLength)
    (hrecv : ¬ DeclaresMoreThanReceived frame) :
    receivedMessage config frame = unpaddedMessage config frame := by
  rw [receivedMessage_eq config hshort]
  rcases Nat.lt_or_ge frame.length (ecpriOffset frame + ecpriCommonHeaderSize) with
    hhdr | hhdr
  · rw [unpaddedMessage_of_headerMissing config hhdr, unpaddedMessage_eq,
      if_neg (not_carriesMessage_of_headerMissing hshort hhdr)]
  have hpay : ecpriOffset frame + ecpriCommonHeaderSize + declaredPayloadSize frame ≤
      frame.length := Nat.not_lt.mp fun hlt => hrecv ⟨hhdr, hlt⟩
  rw [unpaddedMessage_eq, unpaddedMessage_eq, ecpriOffset_padFrame]
  by_cases hcarr : CarriesMessage config frame
  · rw [if_pos ((carriesMessage_iff_of_received hshort hpay).mpr hcarr),
      if_pos hcarr, typeParametersAt_padFrame,
      ecpriPayloadAt_padFrame_of_received hpay hcarr.fields_lt]
  · rw [if_neg (fun h => hcarr ((carriesMessage_iff_of_received hshort hpay).mp h)), if_neg hcarr]

lemma receivedMessage_of_truncated (hshort : frame.length < minEthFrameLength)
    (htrunc : DeclaresMoreThanReceived frame) : receivedMessage config frame =
      if CarriesMessage config (padFrame frame) then
        some (typeParametersAt (frame.drop (ecpriOffset frame)), zeroFilledContent frame)
      else none := by
  rw [receivedMessage_eq config hshort, unpaddedMessage_eq, ecpriOffset_padFrame]
  split_ifs with hcarr
  · obtain ⟨-, -, -, hdeclared⟩ :=
      (carriesMessage_padFrame_iff hshort htrunc.header_le).mp hcarr
    rw [typeParametersAt_padFrame, ecpriPayloadAt_padFrame_of_truncated htrunc hdeclared]
  · rfl

end

lemma completedByPadding_iff (hshort : frame.length < minEthFrameLength)
    (htrunc : DeclaresMoreThanReceived frame) :
    CompletedByPadding config frame ↔ CarriesMessage config (padFrame frame) ∧
        (byteAt frame (ecpriOffset frame + 1) = 0x02 ∨
          (byteAt frame (ecpriOffset frame + 4) <<< 8 |||
            byteAt frame (ecpriOffset frame + 5)) ∈ config.dlEaxc.values ∨
          (peekSlotSymbolPoint (zeroFilledContent frame) config.nofSymbolsPerSlot
            config.scs).isSome) := by
  rw [carriesMessage_padFrame_iff hshort htrunc.header_le]
  constructor
  · rintro ⟨-, hdeclared, hfilt, hhdr, hfields, htaken⟩
    exact ⟨⟨hfilt, hhdr, hfields, hdeclared⟩, htaken⟩
  · rintro ⟨⟨hfilt, hhdr, hfields, hdeclared⟩, htaken⟩
    exact ⟨htrunc, hdeclared, hfilt, hhdr, hfields, htaken⟩

lemma processFrame_of_truncated_eq_dropped_iff (hshort : frame.length < minEthFrameLength)
    (htrunc : DeclaresMoreThanReceived frame) :
    processFrame config checkers frame = ⟨[], some checkers⟩ ↔
      ¬ CompletedByPadding config frame := by
  rw [processFrame, receivedMessage_of_truncated config hshort htrunc,
    completedByPadding_iff hshort htrunc]
  by_cases hcarr : CarriesMessage config (padFrame frame)
  · have htype := ((carriesMessage_padFrame_iff hshort htrunc.header_le).mp hcarr).2.1.msgType_eq
    simp only [ecpriHeaderAt, byteAt_drop] at htype
    rw [if_pos hcarr, processMessage_eq_dropped_iff]
    simp only [byteAt_drop, hcarr, true_and, not_or, Option.not_isSome_iff_eq_none]
    constructor
    · rintro ⟨hiq, hdl, hpeek⟩
      exact ⟨by omega, hdl, hpeek⟩
    · rintro ⟨hnotControl, hdl, hpeek⟩
      exact ⟨by omega, hdl, hpeek⟩
  · simp [hcarr, processMessage]

/-- The padding is not read exactly if the declared payload was received, does not fit the minimum
frame, or is dropped anyway. -/
theorem paddingIgnored_iff_not_completedByPadding (config : ReceiverConfig)
    (checkers : Checkers) (frame : Bytes) (hshort : frame.length < minEthFrameLength) :
    PaddingIgnored config checkers frame ↔ ¬ CompletedByPadding config frame := by
  constructor
  · intro hignored hcompleted
    have hdropped := hignored.truncated_dropped hcompleted.declaresMore
    exact (processFrame_of_truncated_eq_dropped_iff checkers hshort
      hcompleted.declaresMore).mp hdropped hcompleted
  · intro hcompleted
    constructor
    · intro htruncated
      exact (processFrame_of_truncated_eq_dropped_iff checkers hshort htruncated).mpr hcompleted
    · intro hreceived
      rw [processFrame, receivedMessage_eq_unpaddedMessage config hshort hreceived]

def wholeFrame : Bytes :=
  [0, 0, 0, 0, 0, 2, 0, 0, 0, 0, 0, 1, 0xae, 0xfe, 0x10, 0x02, 0x00, 0x14, 0x00, 0x00, 0x00, 0x80,
    0x90, 0x00, 0x00, 0x00, 0x01, 0x01, 0x00, 0x00, 0x00, 0x10, 0x00, 0x01, 0xff, 0xf1,
    0x00, 0x00]

theorem wholeFrame_paddingIgnored :
    PaddingIgnored exampleConfig (fun _ => SequenceIdChecker.new) wholeFrame :=
  (paddingIgnored_iff_not_completedByPadding exampleConfig _ wholeFrame (by decide)).mpr
    fun hcompleted => absurd hcompleted.declaresMore.received_lt (by decide)

def truncatedFrame : Bytes := wholeFrame.take 28

theorem truncatedFrame_not_paddingIgnored :
    ¬ PaddingIgnored exampleConfig (fun _ => SequenceIdChecker.new) truncatedFrame := by
  intro hignored
  have hdropped := congrArg Outcome.effects (hignored.truncated_dropped ⟨by decide, by decide⟩)
  have hdecoded : Effect.decodeCplaneMessage 0
      [0x90, 0x00, 0x00, 0x00, 0x01, 0x01, 0, 0, 0, 0, 0, 0, 0, 0, 0, 0] ∈
        (processFrame exampleConfig (fun _ => SequenceIdChecker.new) truncatedFrame).effects := by
    decide
  rw [hdropped] at hdecoded
  exact absurd hdecoded not_mem_nil

end ProtoRu.FramePadding
