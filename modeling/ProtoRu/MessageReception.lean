import ProtoRu.FrameDecoding
import ProtoRu.SequenceIdChecking
import ProtoRu.SlotNumbering

namespace ProtoRu.MessageReception

open FrameDecoding SequenceIds

structure ReceiverConfig where
  scs : SubcarrierSpacing
  nofSymbolsPerSlot : Nat
  vlanParams : VlanFrameParams
  dlEaxc : EaxcList

inductive CheckerId where
  | uplane
  | cplaneDl
  | cplaneUl
  deriving DecidableEq

inductive Effect where
  | rxWindowStatistics (symbolPoint : SlotSymbolPoint)
  | checkSeqId (checker : CheckerId) (eaxc seqId : Nat)
  | decodeUplaneMessage (eaxc : Nat) (message : Bytes)
  | decodeCplaneMessage (eaxc : Nat) (message : Bytes)
  deriving DecidableEq

abbrev Checkers := CheckerId → SequenceIdChecker

/-- The effects of a frame, and the checkers after it; none when an assertion
of a checker fails. -/
structure Outcome where
  effects : List Effect
  checkers : Option Checkers

def shouldEthernetFrameBeFiltered (config : ReceiverConfig) (ethParams : VlanFrameParams) :
    Bool :=
  if ethParams.macSrcAddress ≠ config.vlanParams.macSrcAddress then true
  else if ethParams.macDstAddress ≠ config.vlanParams.macDstAddress then true
  else
    match ethParams.vlanConfig, config.vlanParams.vlanConfig with
    | some received, some expected =>
      if received.tciVid ≠ expected.tciVid then true
      else ethParams.ethType ≠ config.vlanParams.ethType
    | _, _ => ethParams.ethType ≠ config.vlanParams.ethType

/-- Received frames may be shorter than the minimum of the Ethernet decoder. -/
def padFrame (frame : Bytes) : Bytes :=
  frame ++ List.replicate (minEthFrameLength - frame.length) 0

/-- What becomes of a frame after its Ethernet header: it is filtered or its eCPRI
packet is decoded. -/
def ecpriMessage (config : ReceiverConfig) :
    VlanFrameParams × Bytes → Option (TypeParameters × Bytes)
  | (ethParams, ecpriPdu) => do
    if ecpriPdu.isEmpty || shouldEthernetFrameBeFiltered config ethParams then none
    else
      let (typeParams, message) ← decodeEcpriPacket ecpriPdu
      if message.isEmpty then none else some (typeParams, message)

def receivedMessage (config : ReceiverConfig) (frame : Bytes) :
    Option (TypeParameters × Bytes) :=
  (decodeVlanFrame (padFrame frame)).bind (ecpriMessage config)

def peekSlotSymbolPoint (message : Bytes) (nofSymbols : Nat)
    (scs : SubcarrierSpacing) : Option SlotSymbolPoint :=
  if message.length < 4 then none
  else
    let subframe := byteAt message 2 >>> 4
    let slotId := (byteAt message 2 &&& 0x0f) <<< 2 ||| byteAt message 3 >>> 6
    let symbolId := byteAt message 3 &&& 0x3f
    if nofSubframesPerFrame ≤ subframe then none
    else if getNofSlotsPerSubframe scs ≤ slotId then none
    else if nofSymbols ≤ symbolId then none
    else some (SlotSymbolPoint.ofSlot
      (SlotPoint.ofSubframe (toNumerologyValue scs) (byteAt message 1) subframe slotId)
      symbolId nofSymbols)

def windowEffects (config : ReceiverConfig) (message : Bytes) : List Effect :=
  ((peekSlotSymbolPoint message config.nofSymbolsPerSlot config.scs).map
    Effect.rxWindowStatistics).toList

/-- Check the sequence identifier. A message from the past is reported, but handed over as well.
-/
def checkAndDecode (checkers : Checkers) (before : List Effect) (checker : CheckerId)
    (eaxc seqId : Nat) (decodeMessage : Effect) : Outcome :=
  match (checkers checker).updateAndCompareSeqId eaxc seqId with
  | none => ⟨before ++ [.checkSeqId checker eaxc seqId], none⟩
  | some (_, updated) =>
    ⟨before ++ [.checkSeqId checker eaxc seqId, decodeMessage],
      some fun other => if other = checker then updated else checkers other⟩

def processMessage (config : ReceiverConfig) (checkers : Checkers) :
    Option (TypeParameters × Bytes) → Outcome
  | none => ⟨[], some checkers⟩
  | some (.iqData pcId seqId, message) =>
    if pcId ∈ config.dlEaxc.values then
      checkAndDecode checkers (windowEffects config message) .uplane pcId (seqId >>> 8)
        (.decodeUplaneMessage pcId message)
    else ⟨windowEffects config message, some checkers⟩
  | some (.rtControlData rtcId seqId, message) =>
    checkAndDecode checkers (windowEffects config message)
      (if byteAt message 0 &&& 0x80 ≠ 0 then .cplaneDl else .cplaneUl) rtcId (seqId >>> 8)
      (.decodeCplaneMessage rtcId message)

def processFrame (config : ReceiverConfig) (checkers : Checkers) (frame : Bytes) : Outcome :=
  processMessage config checkers (receivedMessage config frame)

/-- Every eAxC that indexes a checker is in range, and a frame with any other one is dropped. -/
structure ChecksInRange (config : ReceiverConfig) (checkers : Checkers)
    (frame : Bytes) : Prop where
  eaxc_lt : ∀ checker eaxc seqId,
    Effect.checkSeqId checker eaxc seqId ∈ (processFrame config checkers frame).effects →
      eaxc < maxSupportedEaxcIdValue
  dropped : ∀ typeParams message, receivedMessage config frame = some (typeParams, message) →
      maxSupportedEaxcIdValue ≤ typeParams.eaxc →
        (processFrame config checkers frame).checkers = some checkers ∧
          ∀ effect ∈ (processFrame config checkers frame).effects,
            ∃ symbolPoint, effect = .rxWindowStatistics symbolPoint

variable {config : ReceiverConfig}

lemma mem_windowEffects {message : Bytes} {effect : Effect}
    (h : effect ∈ windowEffects config message) :
    ∃ symbolPoint, effect = .rxWindowStatistics symbolPoint := by
  rw [windowEffects, Option.mem_toList, Option.map_eq_some_iff] at h
  obtain ⟨symbolPoint, -, rfl⟩ := h
  exact ⟨symbolPoint, rfl⟩

lemma checkSeqId_mem_checkAndDecode (checkers : Checkers) (before : List Effect)
    (checker : CheckerId) (eaxc seqId : Nat) (decodeMessage : Effect) :
    Effect.checkSeqId checker eaxc seqId ∈
      (checkAndDecode checkers before checker eaxc seqId decodeMessage).effects := by
  simp only [checkAndDecode]
  split <;> simp

section

variable {checkers : Checkers} {decodeMessage : Effect}

lemma eaxc_of_mem_checkAndDecode {before : List Effect} {checker checker' : CheckerId}
    {eaxc eaxc' seqId seqId' : Nat}
    (hbefore : ∀ effect ∈ before, ∃ symbolPoint, effect = .rxWindowStatistics symbolPoint)
    (hdecode : ∀ checker eaxc seqId, decodeMessage ≠ .checkSeqId checker eaxc seqId)
    (h : Effect.checkSeqId checker' eaxc' seqId' ∈ (checkAndDecode checkers before checker eaxc
      seqId decodeMessage).effects) : eaxc' = eaxc := by
  have hcases : Effect.checkSeqId checker' eaxc' seqId' ∈ before ∨
      Effect.checkSeqId checker' eaxc' seqId' = .checkSeqId checker eaxc seqId ∨
      Effect.checkSeqId checker' eaxc' seqId' = decodeMessage := by
    simp only [checkAndDecode] at h
    split at h
    · obtain hmem | hmem := List.mem_append.mp h
      · exact Or.inl hmem
      · exact Or.inr (Or.inl (List.mem_singleton.mp hmem))
    · obtain hmem | hmem := List.mem_append.mp h
      · exact Or.inl hmem
      · simpa using Or.inr hmem
  obtain hmem | hcheck | heq := hcases
  · obtain ⟨symbolPoint, hcontra⟩ := hbefore _ hmem
    cases hcontra
  · cases hcheck
    rfl
  · exact absurd heq.symm (hdecode checker' eaxc' seqId')

lemma checksInRange_of_checkAndDecode {frame message : Bytes} {typeParams : TypeParameters}
    {checker : CheckerId} {seqId : Nat}
    (hrecv : receivedMessage config frame = some (typeParams, message))
    (hproc : processFrame config checkers frame = checkAndDecode checkers (windowEffects config
      message) checker typeParams.eaxc seqId decodeMessage)
    (hdecode : ∀ checker eaxc seqId, decodeMessage ≠ .checkSeqId checker eaxc seqId)
    (hlt : typeParams.eaxc < maxSupportedEaxcIdValue) : ChecksInRange config checkers frame := by
  constructor
  · intro checker' eaxc' seqId' hmem
    rw [hproc] at hmem
    rwa [eaxc_of_mem_checkAndDecode (fun _ h => mem_windowEffects h) hdecode hmem]
  · intro typeParams' message' hrecv' hge
    rw [hrecv] at hrecv'
    cases hrecv'
    omega

end

/-- Only frames with a real-time control packet of a larger eAxC ask out of range: the IQ path
filters first. -/
theorem checksInRange_iff_rtcId_lt (config : ReceiverConfig) (checkers : Checkers)
    (frame : Bytes) :
    ChecksInRange config checkers frame ↔ ∀ rtcId seqId message,
        receivedMessage config frame = some (.rtControlData rtcId seqId, message) →
          rtcId < maxSupportedEaxcIdValue := by
  constructor
  · intro hrange rtcId seqId message hreceived
    apply hrange.eaxc_lt
    simp only [processFrame, hreceived, processMessage]
    exact checkSeqId_mem_checkAndDecode _ _ _ _ _ _
  · intro hcontrol
    rcases hreceived : receivedMessage config frame with _ | ⟨typeParams, message⟩
    · constructor
      · intro checker eaxc seqId hmem
        simp [processFrame, hreceived, processMessage] at hmem
      · intro typeParams message h
        rw [hreceived] at h
        cases h
    · cases typeParams with
      | iqData pcId seqId =>
        by_cases hdl : pcId ∈ config.dlEaxc.values
        · have hprocess : processFrame config checkers frame =
              checkAndDecode checkers (windowEffects config message) .uplane pcId
                (seqId >>> 8) (.decodeUplaneMessage pcId message) := by
            simp [processFrame, hreceived, processMessage, if_pos hdl]
          apply checksInRange_of_checkAndDecode hreceived hprocess (by simp)
          exact config.dlEaxc.lt_max pcId hdl
        · have hprocess : processFrame config checkers frame =
              ⟨windowEffects config message, some checkers⟩ := by
            simp [processFrame, hreceived, processMessage, if_neg hdl]
          constructor
          · intro checker eaxc seqId' hmem
            rw [hprocess] at hmem
            obtain ⟨symbolPoint, hcontra⟩ := mem_windowEffects hmem
            cases hcontra
          · intro typeParams' message' h hge
            rw [hprocess]
            exact ⟨rfl, fun _ hmem => mem_windowEffects hmem⟩
      | rtControlData rtcId seqId =>
        have hprocess : processFrame config checkers frame =
            checkAndDecode checkers (windowEffects config message)
              (if byteAt message 0 &&& 0x80 ≠ 0 then .cplaneDl else .cplaneUl) rtcId
              (seqId >>> 8) (.decodeCplaneMessage rtcId message) := by
          simp [processFrame, hreceived, processMessage]
        apply checksInRange_of_checkAndDecode hreceived hprocess (by simp)
        exact hcontrol rtcId seqId message hreceived

def exampleConfig : ReceiverConfig where
  scs := .kHz30
  nofSymbolsPerSlot := 14
  vlanParams := ⟨[0, 0, 0, 0, 0, 2], [0, 0, 0, 0, 0, 1], none, ecpriEthType⟩
  dlEaxc := oneEaxc

def rtcId32Frame : Bytes :=
  [0, 0, 0, 0, 0, 2, 0, 0, 0, 0, 0, 1, 0xae, 0xfe, 0x10, 0x02, 0x00, 0x14, 0x00, 0x20, 0x00, 0x80,
    0x90, 0x00, 0x00, 0x00, 0x01, 0x01, 0x00, 0x00, 0x00, 0x00, 0x00, 0x01, 0x00, 0x01,
    0x00, 0x00]

theorem rtcId32Frame_not_checksInRange :
    ¬ ChecksInRange exampleConfig (fun _ => SequenceIdChecker.new) rtcId32Frame := by
  intro hrange
  have hmem : Effect.checkSeqId .cplaneDl 32 0 ∈
      (processFrame exampleConfig (fun _ => SequenceIdChecker.new) rtcId32Frame).effects := by
    decide
  exact absurd (hrange.eaxc_lt _ _ _ hmem) (by decide)

end ProtoRu.MessageReception
