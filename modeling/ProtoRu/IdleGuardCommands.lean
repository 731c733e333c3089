import ProtoRu.DownlinkScheduling
import ProtoRu.UplinkRequestRepository
import ProtoRu.UplinkSymbolBursts

namespace ProtoRu.IdleGuardCommands

open Cplane DownlinkScheduling Uplane UplinkFrames

inductive RuUplinkResponseMode where
  | immediate
  | storeAndRespond

structure RuSectorConfig where
  sector : Nat
  eaxcs : SectorEaxc
  uplinkResponseMode : RuUplinkResponseMode
  uplinkDataFlow : DataFlowUplaneConfig

structure UpperPhy where
  getDownlinkRxGrid : SlotPoint → Option ResourceGrid
  getUplinkTxGrid : SlotPoint → Option ResourceGrid

structure RuSectorState where
  gridRepo : RxGridContextRepository
  ulRequestRepo : RuUplinkRequestRepository
  prachRequestRepo : RuUplinkRequestRepository
  uplinkUplanePool : EthFramePool
  prachPool : EthFramePool

inductive CplaneAction where
  | registerGrid (pending : PendingContext)
  | recordUplinkRequest (eaxc : Nat) (request : RuUplinkRequest)
  | recordPrachRequest (eaxc : Nat) (request : RuUplinkRequest)
  | sendUplane (handle : ScopedFrameBuffer)
  | sendPrach (handle : ScopedFrameBuffer)

abbrev Handled := Option (List CplaneAction × RuSectorState)

def idleGuardSectionType : Nat := 0

section

variable (config : RuSectorConfig) (phy : UpperPhy)

def registerDownlinkGrid (state : RuSectorState) (results : CplaneMessageDecoderResults) :
    Handled :=
  let slot := results.radioHdr.slot
  state.gridRepo.processPendingContexts.map fun gridRepo =>
    match (gridRepo.findGrid slot).or (phy.getDownlinkRxGrid slot) with
    | none => ([], { state with gridRepo := gridRepo })
    | some grid =>
      let pending := ⟨⟨slot, config.sector⟩, grid, symbolRange results⟩
      ([.registerGrid pending], { state with gridRepo := gridRepo.add pending })

def replyImmediately (state : RuSectorState) (results : CplaneMessageDecoderResults) :
    Handled :=
  let slot := results.radioHdr.slot
  match phy.getUplinkTxGrid slot with
  | none => some ([], state)
  | some _ =>
    (enqueueSectionType1MessageSymbolBurst config.uplinkDataFlow slot (symbolRange results)
      state.uplinkUplanePool).map fun burst =>
        (burst.written.map .sendUplane, { state with uplinkUplanePool := burst.frames })

def recordUplink (state : RuSectorState) (eaxc : Nat) (results : CplaneMessageDecoderResults) :
    Handled :=
  some ([.recordUplinkRequest eaxc (toRuUplinkRequest results)],
    { state with ulRequestRepo := handleUplinkScheduling state.ulRequestRepo eaxc results })

def handleUplink (state : RuSectorState) (eaxc : Nat) (results : CplaneMessageDecoderResults) :
    Handled :=
  match config.uplinkResponseMode with
  | .immediate => replyImmediately config phy state results
  | .storeAndRespond => recordUplink state eaxc results

/-- A received message. The handler of PRACH requests is a parameter: it sees section type 3 only.
-/
def decodeMessage (handlePrach : RuSectorState → Nat → CplaneMessageDecoderResults → Handled)
    (state : RuSectorState) (eaxc : Nat) (message : Bytes) : Handled :=
  match decode config.uplinkDataFlow.scs message with
  | none => some ([], state)
  | some results =>
    match onCplaneMessageReceived config.eaxcs eaxc results with
    | none => some ([], state)
    | some .prach => handlePrach state eaxc results
    | some .uplink => handleUplink config phy state eaxc results
    | some .downlink => registerDownlinkGrid config phy state results

/-- The RU is not to act on the periods without allocation that messages of section type 0
announce. -/
def NoEffect (handlePrach : RuSectorState → Nat → CplaneMessageDecoderResults → Handled)
    (state : RuSectorState) (eaxc : Nat) (message : Bytes) : Prop :=
  decodeMessage config phy handlePrach state eaxc message = some ([], state)

structure NothingToRegister (state : RuSectorState) (slot : SlotPoint) : Prop where
  pending_nil : state.gridRepo.pending = []
  findGrid_none : state.gridRepo.findGrid slot = none
  getDownlinkRxGrid_none : phy.getDownlinkRxGrid slot = none

def NothingToSend (state : RuSectorState) (results : CplaneMessageDecoderResults) : Prop :=
  phy.getUplinkTxGrid results.radioHdr.slot = none ∨ results.sectionFields.nofSymbols = 0 ∨
    results.radioHdr.startSymbol < getNsymbPerSlot config.uplinkDataFlow.cp ∧
      state.uplinkUplanePool.reserve (symbolPointAt config.uplinkDataFlow results.radioHdr.slot
        results.radioHdr.startSymbol) = none

/-- A command is only ignored for want of a configured eAxC, a grid, symbols or a frame buffer. -/
@[mk_iff]
structure NothingToActOn (state : RuSectorState) (eaxc : Nat)
    (results : CplaneMessageDecoderResults) : Prop where
  uplink : results.radioHdr.direction = .uplink → eaxc ∈ config.eaxcs.ulEaxc.values →
    config.uplinkResponseMode = .immediate ∧ NothingToSend config phy state results
  downlink : results.radioHdr.direction = .downlink → eaxc ∈ config.eaxcs.dlEaxc.values →
    NothingToRegister phy state results.radioHdr.slot

lemma processPendingContexts_eq_self_iff (repo : RxGridContextRepository) :
    repo.processPendingContexts = some repo ↔ repo.pending = [] := by
  refine ⟨RxGridContextRepository.processPendingContexts_pending, fun hpend => ?_⟩
  obtain ⟨size, pending, buffer⟩ := repo
  obtain rfl : pending = [] := hpend
  rfl

section

variable (state : RuSectorState) (results : CplaneMessageDecoderResults)

lemma registerDownlinkGrid_noEffect_iff :
    registerDownlinkGrid config phy state results = some ([], state) ↔
      NothingToRegister phy state results.radioHdr.slot := by
  simp only [registerDownlinkGrid, Option.map_eq_some_iff]
  constructor
  · rintro ⟨gridRepo, hproc, h⟩
    split at h
    · rename_i hnone
      obtain rfl : gridRepo = state.gridRepo := congrArg (·.2.gridRepo) h
      rw [Option.or_eq_none_iff] at hnone
      exact ⟨(processPendingContexts_eq_self_iff _).mp hproc, hnone.1, hnone.2⟩
    · cases congrArg Prod.fst h
  · rintro ⟨hpend, hfind, hgrid⟩
    refine ⟨_, (processPendingContexts_eq_self_iff _).mpr hpend, ?_⟩
    rw [hfind, hgrid]
    rfl

lemma replyImmediately_noEffect_iff :
    replyImmediately config phy state results = some ([], state) ↔
      NothingToSend config phy state results := by
  simp only [replyImmediately, NothingToSend]
  obtain _ | grid := phy.getUplinkTxGrid results.radioHdr.slot
  · simp
  have hburst := enqueueSymbolBurst_eq_nil_iff config.uplinkDataFlow results.radioHdr.slot
    (symbolRange results) state.uplinkUplanePool
  have hempty : (symbolRange results).start = (symbolRange results).stop ↔
      results.sectionFields.nofSymbols = 0 := by
    simp [symbolRange, OfdmSymbolRange.ofLength]
  rw [hempty] at hburst
  rw [show (some grid = none) ↔ False from by simp, false_or]
  refine Iff.trans ?_ hburst
  rw [Option.map_eq_some_iff]
  constructor
  · rintro ⟨⟨written, frames⟩, hsome, h⟩
    obtain rfl : written = [] := List.map_eq_nil_iff.mp (congrArg Prod.fst h)
    obtain rfl : frames = state.uplinkUplanePool := congrArg (·.2.uplinkUplanePool) h
    exact hsome
  · intro hsome
    exact ⟨_, hsome, rfl⟩

end

lemma handleUplink_noEffect_iff (state : RuSectorState) (eaxc : Nat)
    (results : CplaneMessageDecoderResults) :
    handleUplink config phy state eaxc results = some ([], state) ↔
      config.uplinkResponseMode = .immediate ∧ NothingToSend config phy state results := by
  simp only [handleUplink]
  obtain _ | _ := config.uplinkResponseMode
  · rw [replyImmediately_noEffect_iff]
    simp
  · simp [recordUplink]

/-- The dispatcher treats the section types 0 and 1 alike. -/
theorem idleGuard_noEffect_iff_nothingToActOn
    (handlePrach : RuSectorState → Nat → CplaneMessageDecoderResults → Handled)
    (state : RuSectorState) (eaxc : Nat) (message : Bytes)
    (results : CplaneMessageDecoderResults)
    (hdecode : decode config.uplinkDataFlow.scs message = some results)
    (htype : results.sectionType = idleGuardSectionType) :
    NoEffect config phy handlePrach state eaxc message ↔
      NothingToActOn config phy state eaxc results := by
  simp only [NoEffect, decodeMessage]
  rw [hdecode]
  dsimp only [onCplaneMessageReceived]
  rw [htype, if_neg (show idleGuardSectionType ≠ cplaneSectionTypePrach by decide),
    nothingToActOn_iff]
  obtain _ | _ := results.radioHdr.direction
  · rw [if_pos rfl]
    split_ifs with heaxc
    · rw [handleUplink_noEffect_iff]
      simp [heaxc]
    · simp [heaxc]
  · rw [if_neg (by decide)]
    split_ifs with heaxc
    · rw [registerDownlinkGrid_noEffect_iff]
      simp [heaxc]
    · simp [heaxc]

end

def idleGuardMessage (direction : DataDirection) : Bytes :=
  [.ofNat (direction.toValue <<< 7 ||| 0x10), 0x00, 0x00, 0x00, 0x01, 0x00, 0x00, 0x00,
    0xb1, 0x00, 0x00, 0x00, 0x00, 0x00, 0x00, 0x00, 0x00, 0x01, 0x00, 0x00]

def exampleSector (mode : RuUplinkResponseMode) : RuSectorConfig where
  sector := 0
  eaxcs := ⟨oneEaxc, oneEaxc, oneEaxc⟩
  uplinkResponseMode := mode
  uplinkDataFlow := carrier100MHz .bfp 9000 (by decide) (by decide)

def initialState : RuSectorState where
  gridRepo := .new 40
  ulRequestRepo := .new 40
  prachRequestRepo := .new 40
  uplinkUplanePool := .new 1
  prachPool := .new 1

def noGrids : UpperPhy := ⟨fun _ => none, fun _ => none⟩

def oneGrid : UpperPhy := ⟨fun _ => some ⟨0, 1, 3276⟩, fun _ => none⟩

def ignorePrach (state : RuSectorState) (_ : Nat) (_ : CplaneMessageDecoderResults) : Handled :=
  some ([], state)

def idleGuardResults (direction : DataDirection) : CplaneMessageDecoderResults where
  numSections := 1
  sectionType := idleGuardSectionType
  radioHdr := ⟨direction, .standardChannelFilter, 0, ⟨1, 0⟩⟩
  sectionFields := ⟨0, 0, 0, 0, 1⟩
  frameStructureScs := .kHz30
  fftSize := 11

lemma decode_idleGuardMessage : ∀ direction, decode .kHz30 (idleGuardMessage direction) =
      some (idleGuardResults direction) := by
  rintro (_ | _) <;> decide +kernel

/-- Without an uplink grid there is nothing to reply with. -/
theorem idleGuardMessage_noEffect :
    NoEffect (exampleSector .immediate) noGrids ignorePrach initialState 0
      (idleGuardMessage .uplink) :=
  (idleGuard_noEffect_iff_nothingToActOn (exampleSector .immediate) noGrids ignorePrach
    initialState 0 (idleGuardMessage .uplink) (idleGuardResults .uplink)
    (decode_idleGuardMessage .uplink) rfl).mpr
      ⟨fun _ _ => ⟨rfl, .inl rfl⟩, fun hdownlink => by cases hdownlink⟩

/-- An uplink command is recorded as a request, and a downlink one registers a grid. -/
theorem idleGuardMessage_not_noEffect :
    decode .kHz30 (idleGuardMessage .uplink) = some (idleGuardResults .uplink) ∧
    decode .kHz30 (idleGuardMessage .downlink) = some (idleGuardResults .downlink) ∧
    ¬ NoEffect (exampleSector .storeAndRespond) noGrids ignorePrach initialState 0
      (idleGuardMessage .uplink) ∧
    ¬ NoEffect (exampleSector .storeAndRespond) oneGrid ignorePrach initialState 0
      (idleGuardMessage .downlink) := by
  refine ⟨decode_idleGuardMessage .uplink, decode_idleGuardMessage .downlink, ?_, ?_⟩
  · intro hnone
    have hactions := congrArg (Option.map (·.1.length)) hnone
    revert hactions
    decide +kernel
  · intro hnone
    have hactions := congrArg (Option.map (·.1.length)) hnone
    revert hactions
    decide +kernel

end ProtoRu.IdleGuardCommands
