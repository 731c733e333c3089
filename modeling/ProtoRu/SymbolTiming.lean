import ProtoRu.SymbolIndices
import ProtoRu.TransitionRuns

namespace ProtoRu.SymbolTiming

open SymbolIndices List Nat SlotPoint
open SlotSymbolPoint hiding getSymbolIndex

def nofHyperSfns : Nat := 1024

def circularDistance (cur prev size : Nat) : Nat :=
  if prev ≤ cur then cur - prev else size + cur - prev

def calculateSlotPointExtended (scs : SubcarrierSpacing)
    (gpsSeconds fractionalUs slotDurationUs : Nat) : Nat :=
  let subframeIndex := fractionalUs / 1000 % nofSubframesPerFrame
  let slotSubframeIndex := fractionalUs / slotDurationUs % getNofSlotsPerSubframe scs
  let nofSfnsSinceEpoch := gpsSeconds * 100 + fractionalUs / 10000
  let sfn := nofSfnsSinceEpoch % nofSfns
  let hfn := nofSfnsSinceEpoch / nofSfns % nofHyperSfns
  (hfn * nofSfns + sfn) * nofSubframesPerFrame * getNofSlotsPerSubframe scs +
    (subframeIndex * getNofSlotsPerSubframe scs + slotSubframeIndex)

structure RealtimeTimingWorker where
  previousSymbIndex : Nat
  previousTimeSinceEpoch : Nat

structure SlotSymbolPointContext where
  symbolPoint : SlotSymbolPoint
  hfn : Nat
  deriving DecidableEq

section

-- How the notifiers compute the index of a symbol from a fraction of a second.
variable (symbolIndex : TimingConfig → Nat → Nat)

def RealtimeTimingWorker.poll (config : TimingConfig) (worker : RealtimeTimingWorker)
    (now : Nat) : RealtimeTimingWorker × List SlotSymbolPointContext :=
  let nsFraction := now % nsPerSec
  let currentSymbolIndex := symbolIndex config nsFraction
  let delta := circularDistance currentSymbolIndex worker.previousSymbIndex config.nofSymbolsPerSec
  if now < worker.previousTimeSinceEpoch then (worker, [])
  else
    let slot := calculateSlotPointExtended config.scs (now / nsPerSec) (nsFraction / 1000)
      (1000 / getNofSlotsPerSubframe config.scs)
    let symbolPoint := ofSlot ⟨config.numerology, slot % config.nofSlotsPerHyperSystemFrame⟩
      (currentSymbolIndex % config.nofSymbolsPerSlot) config.nofSymbolsPerSlot
    (⟨currentSymbolIndex, now⟩, (range delta).map fun i =>
      ⟨symbolPoint.sub (delta - 1 - i : Nat), slot / config.nofSlotsPerHyperSystemFrame⟩)

def emulatorPoll (scs : SubcarrierSpacing) (previousSymbIndex now : Nat) :
    Nat × Option SlotSymbolPoint :=
  let config := emulatorConfig scs
  let currentSymbolIndex := symbolIndex config (now % nsPerSec)
  let delta := circularDistance currentSymbolIndex previousSymbIndex config.nofSymbolsPerSec
  if delta = 0 then (currentSymbolIndex, none)
  else
    let slotCount := now / (1000000 / 1 <<< config.numerology) % config.nofSlotsPerHyperSystemFrame
    (currentSymbolIndex, some (ofSlot ⟨config.numerology, slotCount⟩
      (currentSymbolIndex % config.nofSymbolsPerSlot) config.nofSymbolsPerSlot))

/-- Both notifiers reading the same clock, and what they have notified. -/
structure System where
  now : Nat
  worker : RealtimeTimingWorker
  notified : List SlotSymbolPointContext
  previousSymbIndex : Nat
  emulated : List SlotSymbolPoint

def start (config : TimingConfig) (now : Nat) : System :=
  ⟨now, ⟨symbolIndex config (now % nsPerSec), now⟩, [],
    symbolIndex (emulatorConfig config.scs) (now % nsPerSec), []⟩

/-- Both poll a clock that has advanced by less than a second. -/
def step (config : TimingConfig) (system : System) (gap : Fin nsPerSec) : System :=
  let now := system.now + gap
  let polled := system.worker.poll symbolIndex config now
  let emulated := emulatorPoll symbolIndex config.scs system.previousSymbIndex now
  ⟨now, polled.1, system.notified ++ polled.2, emulated.1, system.emulated ++ emulated.2.toList⟩

end

def otaSymbol (config : TimingConfig) (now : Nat) : Nat :=
  now * config.nofSymbolsPerSec / nsPerSec

def nofSymbolsPerHyperFrame (config : TimingConfig) : Nat :=
  wrapLength config.nofSymbolsPerSlot config.numerology

def pointOf (config : TimingConfig) (symbol : Nat) : SlotSymbolPoint :=
  .ofAbsolute config.nofSymbolsPerSlot config.numerology symbol

def contextOf (config : TimingConfig) (symbol : Nat) : SlotSymbolPointContext :=
  ⟨pointOf config symbol, symbol / nofSymbolsPerHyperFrame config % nofHyperSfns⟩

def symbolsBetween (config : TimingConfig) (earlier later : Nat) : List Nat :=
  range' (otaSymbol config earlier + 1) (otaSymbol config later - otaSymbol config earlier)

def lastSymbols (config : TimingConfig) (delta current : Nat) : List SlotSymbolPointContext :=
  (range delta).map fun i =>
    ⟨(pointOf config current).sub (delta - 1 - i : Nat), (contextOf config current).hfn⟩

def indexDistance (config : TimingConfig) (earlier now : Nat) : Nat :=
  (otaSymbol config now - otaSymbol config earlier) % config.nofSymbolsPerSec

/-- Every symbol since the start was notified in order, with its context. -/
def Notified (config : TimingConfig) (now : Nat) (system : System) : Prop :=
  system.notified = (symbolsBetween config now system.now).map (contextOf config)

def pointsBetween (scs : SubcarrierSpacing) (earlier later : Nat) : List SlotSymbolPoint :=
  (symbolsBetween (emulatorConfig scs) earlier later).map (pointOf (emulatorConfig scs))

/-- The emulator notified every symbol since the start, as the worker does up to 120 kHz. -/
def Emulated (scs : SubcarrierSpacing) (now : Nat) (system : System) : Prop :=
  system.emulated = pointsBetween scs now system.now ∧
    (scs ≠ .kHz240 → system.emulated = system.notified.map (·.symbolPoint))

/-- The index computed for the reading is that of the symbol it lies in. -/
def ExactAt (symbolIndex : TimingConfig → Nat → Nat) (config : TimingConfig) (now : Nat) : Prop :=
  symbolIndex config (now % nsPerSec) = exactSymbolIndex config (now % nsPerSec)

/-- No poll finds the index of its predecessor a second later, or catches up over two hyper
frames. -/
def CaughtUp (config : TimingConfig) (system : System) (gap : Fin nsPerSec) : Prop :=
  let current := otaSymbol config (system.now + gap)
  current - otaSymbol config system.now < config.nofSymbolsPerSec ∧
  ∀ symbol ∈ symbolsBetween config system.now (system.now + gap),
    symbol / nofSymbolsPerHyperFrame config = current / nofSymbolsPerHyperFrame config

/-- The poll comes before the second symbol after its predecessor. -/
def OnTime (config : TimingConfig) (system : System) (gap : Fin nsPerSec) : Prop :=
  otaSymbol config (system.now + gap) - otaSymbol config system.now ≤ 1

variable {earlier later : Nat}

section

variable (config : TimingConfig)

lemma nofSymbolsPerSlot_pos : 0 < config.nofSymbolsPerSlot := getNsymbPerSlot_pos config.cp

lemma nofSlots_pos : 0 < getNofSlotsPerSubframe config.scs := by
  rw [getNofSlotsPerSubframe, one_shiftLeft]
  exact Nat.two_pow_pos _

lemma nofSymbolsPerSec_eq : config.nofSymbolsPerSec =
    config.nofSymbolsPerSlot * (getNofSlotsPerSubframe config.scs * 1000) := by
  simp only [TimingConfig.nofSymbolsPerSec, nofSubframesPerFrame]
  ring

lemma nofSymbolsPerSec_pos : 0 < config.nofSymbolsPerSec := by
  rw [nofSymbolsPerSec_eq]
  exact mul_pos (nofSymbolsPerSlot_pos config) (mul_pos (nofSlots_pos config) (by decide))

lemma exactSymbolIndex_mod (now : Nat) :
    exactSymbolIndex config (now % nsPerSec) = otaSymbol config now % config.nofSymbolsPerSec := by
  have hsplit : otaSymbol config now = now / nsPerSec * config.nofSymbolsPerSec +
      exactSymbolIndex config (now % nsPerSec) := by
    rw [otaSymbol, exactSymbolIndex, ← mul_add_div (by decide : 0 < nsPerSec), ← Nat.mul_assoc,
      ← Nat.add_mul, div_add_mod]
  have hlt : exactSymbolIndex config (now % nsPerSec) < config.nofSymbolsPerSec := by
    rw [exactSymbolIndex, div_lt_iff_lt_mul (by decide), Nat.mul_comm]
    exact mul_lt_mul_of_pos_left (mod_lt _ (by decide)) (nofSymbolsPerSec_pos config)
  rw [hsplit, mul_add_mod_self_right, mod_eq_of_lt hlt]

lemma circularDistance_mod {size : Nat} (hsize : 0 < size) (first distance : Nat) :
    circularDistance ((first + distance) % size) (first % size) size = distance % size := by
  have hfirst := mod_lt first hsize
  have hdist := mod_lt distance hsize
  rw [circularDistance, add_mod_eq_ite]
  split <;> split <;> omega

lemma otaSymbol_mono (h : earlier ≤ later) : otaSymbol config earlier ≤ otaSymbol config later :=
  Nat.div_le_div_right (Nat.mul_le_mul_right _ h)

lemma otaSymbol_gap (now : Nat) (gap : Fin nsPerSec) :
    otaSymbol config (now + gap) ≤ otaSymbol config now + config.nofSymbolsPerSec := by
  have hle : (now + gap) * config.nofSymbolsPerSec ≤
      now * config.nofSymbolsPerSec + config.nofSymbolsPerSec * nsPerSec := by
    rw [add_mul, Nat.mul_comm config.nofSymbolsPerSec]
    exact Nat.add_le_add_left (Nat.mul_le_mul_right _ gap.isLt.le) _
  rw [otaSymbol, otaSymbol, ← add_mul_div_right _ _ (by decide : 0 < nsPerSec)]
  exact Nat.div_le_div_right hle

lemma otaSymbol_div (now : Nat) : otaSymbol config now / config.nofSymbolsPerSlot =
    now * getNofSlotsPerSubframe config.scs / 1000000 := by
  rw [otaSymbol, Nat.div_div_eq_div_mul, nofSymbolsPerSec_eq, Nat.mul_left_comm,
    Nat.mul_comm config.nofSymbolsPerSlot, Nat.mul_div_mul_right _ _ (nofSymbolsPerSlot_pos config)]
  rw [← mul_assoc]
  exact Nat.mul_div_mul_right _ 1000000 (by decide)

lemma calculateSlotPointExtended_eq (hscs : config.scs ≠ .kHz240) (now : Nat) :
    calculateSlotPointExtended config.scs (now / nsPerSec) (now % nsPerSec / 1000)
      (1000 / getNofSlotsPerSubframe config.scs) = otaSymbol config now / config.nofSymbolsPerSlot %
        (config.nofSlotsPerHyperSystemFrame * nofHyperSfns) := by
  rw [otaSymbol_div]
  simp only [calculateSlotPointExtended, TimingConfig.nofSlotsPerHyperSystemFrame,
    nofSlotsPerHyperSystemFrame, nofSlotsPerFrame,
    nofSlotsPerSubframe, TimingConfig.numerology, getNofSlotsPerSubframe,
    nofSubframesPerFrame, nofSfns, nofHyperSfns, nsPerSec]
  cases hcase : config.scs with
  | kHz240 => exact absurd hcase hscs
  | _ =>
    simp only [toNumerologyValue, reduceShiftLeft, reduceMul, reduceDiv]
    omega

lemma emulatorSlot_eq (now : Nat) : now / (1000000 / 1 <<< config.numerology) =
    otaSymbol config now / config.nofSymbolsPerSlot := by
  rw [otaSymbol_div, getNofSlotsPerSubframe, TimingConfig.numerology]
  cases config.scs with
  | _ =>
    simp only [toNumerologyValue, reduceShiftLeft, reduceDiv]
    omega

lemma nofSymbolsPerHyperFrame_eq : nofSymbolsPerHyperFrame config =
    config.nofSymbolsPerSlot * config.nofSlotsPerHyperSystemFrame := by
  simp only [nofSymbolsPerHyperFrame, wrapLength,
    TimingConfig.nofSlotsPerHyperSystemFrame, nofSlotsPerHyperSystemFrame,
    nofSlotsPerFrame, nofSlotsPerSubframe]
  ring

lemma ofSlot_eq_pointOf (symbol : Nat) : ofSlot ⟨config.numerology,
      symbol / config.nofSymbolsPerSlot % config.nofSlotsPerHyperSystemFrame⟩
      (symbol % config.nofSymbolsPerSec % config.nofSymbolsPerSlot) config.nofSymbolsPerSlot =
      pointOf config symbol := by
  have hdvd : config.nofSymbolsPerSlot ∣ config.nofSymbolsPerSec :=
    ⟨_, nofSymbolsPerSec_eq config⟩
  have hcount : symbol / config.nofSymbolsPerSlot % config.nofSlotsPerHyperSystemFrame *
      config.nofSymbolsPerSlot + symbol % config.nofSymbolsPerSlot =
        symbol % nofSymbolsPerHyperFrame config := by
    rw [nofSymbolsPerHyperFrame_eq, mod_mul, add_comm, Nat.mul_comm]
  rw [ofSlot, mod_mod_of_dvd _ hdvd, hcount]
  rfl

lemma nofSymbolsPerSec_le : config.nofSymbolsPerSec ≤ nofSymbolsPerHyperFrame config := by
  rw [nofSymbolsPerSec_eq, nofSymbolsPerHyperFrame_eq]
  refine mul_le_mul_left _ ?_
  simp only [TimingConfig.nofSlotsPerHyperSystemFrame, nofSlotsPerHyperSystemFrame,
    nofSlotsPerFrame, nofSlotsPerSubframe, TimingConfig.numerology,
    getNofSlotsPerSubframe, nofSubframesPerFrame, nofSfns]
  omega

end

variable (scs : SubcarrierSpacing)

section

variable (config : TimingConfig)

variable {earlier now : Nat}

lemma circularDistance_eq (hle : earlier ≤ now) :
    circularDistance (exactSymbolIndex config (now % nsPerSec))
      (exactSymbolIndex config (earlier % nsPerSec)) config.nofSymbolsPerSec =
      indexDistance config earlier now := by
  have hdelta := circularDistance_mod (nofSymbolsPerSec_pos config) (otaSymbol config earlier)
    (otaSymbol config now - otaSymbol config earlier)
  rwa [Nat.add_sub_cancel' (otaSymbol_mono config hle), ← exactSymbolIndex_mod,
    ← exactSymbolIndex_mod] at hdelta

variable {symbolIndex : TimingConfig → Nat → Nat}

lemma poll_eq (hscs : config.scs ≠ .kHz240) (hle : earlier ≤ now)
    (hexact : ExactAt symbolIndex config now) :
    RealtimeTimingWorker.poll symbolIndex config
        ⟨exactSymbolIndex config (earlier % nsPerSec), earlier⟩ now =
      (⟨exactSymbolIndex config (now % nsPerSec), now⟩,
        lastSymbols config (indexDistance config earlier now) (otaSymbol config now)) := by
  have hhfn : otaSymbol config now / config.nofSymbolsPerSlot %
      (config.nofSlotsPerHyperSystemFrame * nofHyperSfns) / config.nofSlotsPerHyperSystemFrame =
        (contextOf config (otaSymbol config now)).hfn := by
    rw [Nat.mod_mul_right_div_self, Nat.div_div_eq_div_mul, ← nofSymbolsPerHyperFrame_eq]
    rfl
  rw [ExactAt] at hexact
  simp only [RealtimeTimingWorker.poll, hexact]
  rw [if_neg hle.not_gt, calculateSlotPointExtended_eq config hscs, hhfn, mod_mul_right_mod,
    circularDistance_eq config hle, exactSymbolIndex_mod, ofSlot_eq_pointOf]
  rfl

lemma emulatorPoll_eq (hle : earlier ≤ now)
    (hexact : ExactAt symbolIndex (emulatorConfig scs) now) :
    emulatorPoll symbolIndex scs (exactSymbolIndex (emulatorConfig scs) (earlier % nsPerSec)) now =
      (exactSymbolIndex (emulatorConfig scs) (now % nsPerSec),
        if indexDistance (emulatorConfig scs) earlier now = 0 then none
        else some (pointOf (emulatorConfig scs) (otaSymbol (emulatorConfig scs) now))) := by
  rw [ExactAt] at hexact
  simp only [emulatorPoll, hexact]
  rw [circularDistance_eq _ hle, emulatorSlot_eq, exactSymbolIndex_mod, ofSlot_eq_pointOf]
  split <;> rfl

lemma symbolsBetween_append {first second third : Nat} (hfirst : first ≤ second)
    (hsecond : second ≤ third) : symbolsBetween config first third =
      symbolsBetween config first second ++ symbolsBetween config second third := by
  have hle := otaSymbol_mono config hfirst
  have hle' := otaSymbol_mono config hsecond
  have hstart : otaSymbol config second + 1 =
      otaSymbol config first + 1 + (otaSymbol config second - otaSymbol config first) := by
    omega
  simp only [symbolsBetween]
  rw [hstart, range'_append_1]
  congr 1
  omega

lemma lastSymbols_eq
    (hlt : otaSymbol config now - otaSymbol config earlier < config.nofSymbolsPerSec) :
    lastSymbols config (indexDistance config earlier now) (otaSymbol config now) =
      (symbolsBetween config earlier now).map fun symbol =>
        ⟨pointOf config symbol, (contextOf config (otaSymbol config now)).hfn⟩ := by
  rw [indexDistance, mod_eq_of_lt hlt, symbolsBetween, range'_eq_map_range, map_map]
  refine map_congr_left fun i hi => ?_
  have hsym : (otaSymbol config now : Int) -
      (otaSymbol config now - otaSymbol config earlier - 1 - i : Nat) =
        (otaSymbol config earlier + 1 + i : Nat) := by
    have := mem_range.mp hi
    omega
  rw [pointOf, ofAbsolute_sub (nofSymbolsPerSlot_pos config), hsym]
  rfl

lemma hfn_eq_iff {symbol current : Nat} (hle : symbol ≤ current)
    (hlt : current ≤ symbol + nofSymbolsPerHyperFrame config) :
    (contextOf config symbol).hfn = (contextOf config current).hfn ↔
      symbol / nofSymbolsPerHyperFrame config = current / nofSymbolsPerHyperFrame config := by
  have hpos : 0 < nofSymbolsPerHyperFrame config :=
    (nofSymbolsPerSec_pos config).trans_le (nofSymbolsPerSec_le config)
  have hlow := Nat.div_le_div_right (c := nofSymbolsPerHyperFrame config) hle
  have hhigh := Nat.div_le_div_right (c := nofSymbolsPerHyperFrame config) hlt
  rw [add_div_right _ hpos] at hhigh
  simp only [contextOf, nofHyperSfns]
  omega

lemma lastSymbols_eq_iff (system : System) (gap : Fin nsPerSec) :
    lastSymbols config (indexDistance config system.now (system.now + gap))
        (otaSymbol config (system.now + gap)) =
      (symbolsBetween config system.now (system.now + gap)).map (contextOf config) ↔
      CaughtUp config system gap := by
  have hgap := otaSymbol_gap config system.now gap
  have hhyper := nofSymbolsPerSec_le config
  have hpos := nofSymbolsPerSec_pos config
  simp only [CaughtUp]
  by_cases hlt : otaSymbol config (system.now + gap) - otaSymbol config system.now <
      config.nofSymbolsPerSec
  · rw [lastSymbols_eq config hlt, map_inj_left]
    simp only [hlt, true_and]
    refine forall₂_congr fun symbol hsym => ?_
    obtain ⟨hfrom, hupto⟩ := mem_range'_1.mp hsym
    rw [← hfn_eq_iff config (by omega) (by omega), eq_comm]
    exact ⟨congrArg _, fun h => by rw [← h]; rfl⟩
  · -- The index is that of the predecessor: nothing is notified.
    have hall : otaSymbol config (system.now + gap) - otaSymbol config system.now =
        config.nofSymbolsPerSec := by omega
    simp only [hlt, false_and, iff_false]
    intro heq
    have hlen := congrArg length heq
    simp only [lastSymbols, indexDistance, hall, mod_self, length_map,
      length_range, symbolsBetween, length_range'] at hlen
    omega

end

structure Tracks (config : TimingConfig) (now : Nat) (system : System) : Prop where
  le_now : now ≤ system.now
  worker : config.scs ≠ .kHz240 →
    system.worker = ⟨exactSymbolIndex config (system.now % nsPerSec), system.now⟩
  emulator : system.previousSymbIndex =
    exactSymbolIndex (emulatorConfig config.scs) (system.now % nsPerSec)

section

variable {symbolIndex : TimingConfig → Nat → Nat} {config : TimingConfig} {now : Nat}
  {system : System} {gap : Fin nsPerSec}

lemma tracks_start (hworker : ExactAt symbolIndex config now)
    (hemulator : ExactAt symbolIndex (emulatorConfig config.scs) now) :
    Tracks config now (start symbolIndex config now) where
  le_now := le_rfl
  worker _ := congrArg (RealtimeTimingWorker.mk · now) hworker
  emulator := hemulator

lemma Tracks.notified_step (h : Tracks config now system) (hscs : config.scs ≠ .kHz240)
    (hexact : ExactAt symbolIndex config (system.now + gap)) :
    (step symbolIndex config system gap).notified = system.notified ++
      lastSymbols config (indexDistance config system.now (system.now + gap))
        (otaSymbol config (system.now + gap)) := by
  simp only [SymbolTiming.step, h.worker hscs]
  rw [poll_eq config hscs (le_add_right _ _) hexact]

lemma Tracks.step (h : Tracks config now system)
    (hworker : ExactAt symbolIndex config (system.now + gap))
    (hemulator : ExactAt symbolIndex (emulatorConfig config.scs) (system.now + gap)) :
    Tracks config now (step symbolIndex config system gap) where
  le_now := h.le_now.trans (le_add_right _ _)
  worker hscs := by
    simp only [SymbolTiming.step, h.worker hscs]
    rw [poll_eq config hscs (le_add_right _ _) hworker]
  emulator := by
    simp only [SymbolTiming.step, h.emulator]
    rw [emulatorPoll_eq _ (le_add_right _ _) hemulator]

/-- What the emulator notifies at a reading if its index at the reading before was exact. -/
def emulatedAfter (symbolIndex : TimingConfig → Nat → Nat) (scs : SubcarrierSpacing) (now : Nat)
    (gap : Fin nsPerSec) : List SlotSymbolPoint :=
  (emulatorPoll symbolIndex scs (exactSymbolIndex (emulatorConfig scs) (now % nsPerSec))
    (now + gap)).2.toList

lemma Tracks.emulated_step (h : Tracks config now system) :
    (SymbolTiming.step symbolIndex config system gap).emulated =
      system.emulated ++ emulatedAfter symbolIndex config.scs system.now gap := by
  rw [emulatedAfter, ← h.emulator]
  rfl

lemma length_pointsBetween : (pointsBetween scs earlier later).length =
    otaSymbol (emulatorConfig scs) later - otaSymbol (emulatorConfig scs) earlier := by
  rw [pointsBetween, length_map, symbolsBetween, length_range']

lemma emulatedAfter_eq_iff_of_exact
    (hexact : ExactAt symbolIndex (emulatorConfig scs) (system.now + gap)) :
    emulatedAfter symbolIndex scs system.now gap =
      pointsBetween scs system.now (system.now + gap) ↔ OnTime (emulatorConfig scs) system gap := by
  rw [emulatedAfter, emulatorPoll_eq scs (le_add_right _ _) hexact]
  have hmono := otaSymbol_mono (emulatorConfig scs) (le_add_right system.now gap)
  simp only [OnTime]
  constructor
  · intro heq
    rw [← length_pointsBetween, ← heq]
    split
    · exact zero_le 1
    · exact le_rfl
  · intro hle
    have hone : 1 < (emulatorConfig scs).nofSymbolsPerSec := by cases scs <;> decide
    rw [indexDistance, mod_eq_of_lt (hle.trans_lt hone), pointsBetween, symbolsBetween]
    generalize otaSymbol (emulatorConfig scs) (system.now + gap) = current at *
    obtain rfl | rfl : current = otaSymbol (emulatorConfig scs) system.now ∨
        current = otaSymbol (emulatorConfig scs) system.now + 1 := by omega
    · simp
    · simp

/-- A poll whose index lags counts one symbol less, and notifies when it should not or does not
when it should. -/
lemma emulatedAfter_ne_of_lags (hlags : Lags scs ((system.now + gap) % nsPerSec)) :
    emulatedAfter getSymbolIndex scs system.now gap ≠
      pointsBetween scs system.now (system.now + gap) := by
  have hindex := getSymbolIndex_of_lags (mod_lt _ (by decide)) hlags
  have hone : 1 < (emulatorConfig scs).nofSymbolsPerSec := by cases scs <;> decide
  have hbefore := mod_lt (otaSymbol (emulatorConfig scs) system.now) (zero_lt_of_lt hone)
  have hmono := otaSymbol_mono (emulatorConfig scs) (le_add_right system.now gap)
  intro heq
  have hlen := congrArg length heq
  rw [length_pointsBetween] at hlen
  simp only [emulatedAfter, emulatorPoll] at hlen
  rw [exactSymbolIndex_mod] at hindex hlen
  generalize otaSymbol (emulatorConfig scs) (system.now + gap) = current at *
  by_cases hsame : getSymbolIndex (emulatorConfig scs) ((system.now + gap) % nsPerSec) =
      otaSymbol (emulatorConfig scs) system.now % (emulatorConfig scs).nofSymbolsPerSec
  · -- Nothing is notified, although a symbol has begun.
    rw [if_pos (by rw [hsame, circularDistance, if_pos le_rfl, Nat.sub_self])] at hlen
    have hequal := le_antisymm hmono (Nat.le_of_sub_eq_zero hlen.symm)
    rw [← hequal] at hindex
    omega
  · rw [if_neg (by rw [circularDistance]; split <;> omega)] at hlen
    obtain rfl : current = otaSymbol (emulatorConfig scs) system.now + 1 := by
      simp only [Option.toList_some, length_singleton] at hlen
      omega
    rw [@add_mod_eq_ite _ _ 1, mod_eq_of_lt hone] at hindex
    split at hindex <;> omega

/-- The emulator notifies the symbols between two readings exactly if at most one begins and
the index does not lag. -/
lemma emulatedAfter_eq_iff (gap : Fin nsPerSec) : emulatedAfter getSymbolIndex scs system.now gap =
      pointsBetween scs system.now (system.now + gap) ↔
      OnTime (emulatorConfig scs) system gap ∧ ¬ Lags scs ((system.now + gap) % nsPerSec) := by
  by_cases hlags : Lags scs ((system.now + gap) % nsPerSec)
  · exact iff_of_false (emulatedAfter_ne_of_lags scs hlags) fun h => h.2 hlags
  · rw [emulatedAfter_eq_iff_of_exact scs
      (getSymbolIndex_of_not_lags (mod_lt _ (by decide)) hlags)]
    exact (and_iff_left hlags).symm

end

/-- Up to 120 kHz the worker notifies every symbol in order with its hyper frame exactly if every
poll is caught up, taking indices as exact. -/
theorem notifies_iff_caughtUp (config : TimingConfig) (hscs : config.scs ≠ .kHz240) (now : Nat)
    (gaps : List (Fin nsPerSec)) :
    (∀ earlier later, gaps = earlier ++ later → Notified config now
      (earlier.foldl (step exactSymbolIndex config) (start exactSymbolIndex config now))) ↔
      Guarded (step exactSymbolIndex config) (CaughtUp config)
        (start exactSymbolIndex config now) gaps := by
  refine throughout_iff_guarded (Tracks config now) (fun _ _ h _ => h.step rfl rfl) ?_ gaps
    (tracks_start rfl rfl) ?_
  · intro before gap htracks hbefore
    have hle : before.now ≤ before.now + gap := le_add_right _ _
    rw [← lastSymbols_eq_iff, Notified, htracks.notified_step hscs rfl, hbefore]
    simp only [step]
    rw [symbolsBetween_append config htracks.le_now hle, map_append, append_cancel_left_eq]
  · simp [Notified, start, symbolsBetween]

def carrier15kHz : TimingConfig := emulatorConfig .kHz15

theorem steadyPolls_notify :
    Guarded (step exactSymbolIndex carrier15kHz) (CaughtUp carrier15kHz)
      (start exactSymbolIndex carrier15kHz 0) [⟨100000, by decide⟩, ⟨200000, by decide⟩] ∧
    Notified carrier15kHz 0 ([⟨100000, by decide⟩, ⟨200000, by decide⟩].foldl
      (step exactSymbolIndex carrier15kHz) (start exactSymbolIndex carrier15kHz 0)) := by
  have hguarded : Guarded (step exactSymbolIndex carrier15kHz) (CaughtUp carrier15kHz)
      (start exactSymbolIndex carrier15kHz 0) [⟨100000, by decide⟩, ⟨200000, by decide⟩] :=
    ⟨⟨by decide +kernel, by decide +kernel⟩, ⟨by decide +kernel, by decide +kernel⟩, trivial⟩
  exact ⟨hguarded, (notifies_iff_caughtUp carrier15kHz (by decide) 0 _).mpr hguarded _ []
    (append_nil _).symm⟩

/-- A poll over the end of hyper frame 0 labels all three symbols with hyper frame 1, and one
almost a second late notifies none of 14000 symbols. -/
theorem lateWorker_not_notified :
    (step exactSymbolIndex carrier15kHz (start exactSymbolIndex carrier15kHz 10239900000)
      ⟨200000, by decide⟩).notified.map (·.hfn) = [1, 1, 1] ∧
    ((symbolsBetween carrier15kHz 10239900000 10240100000).map (contextOf carrier15kHz)).map
      (·.hfn) = [0, 1, 1] ∧
    (step exactSymbolIndex carrier15kHz (start exactSymbolIndex carrier15kHz 71428)
      ⟨999999999, by decide⟩).notified = [] ∧
    (symbolsBetween carrier15kHz 71428 1000071427).length = 14000 ∧
    ¬ Notified carrier15kHz 10239900000
      (step exactSymbolIndex carrier15kHz (start exactSymbolIndex carrier15kHz 10239900000)
        ⟨200000, by decide⟩) := by
  rw [Notified]
  decide +kernel

/-- Started at an index that does not lag, the emulator notifies every symbol exactly if no poll
is a symbol late and no index lags. -/
theorem emulates_iff_onTime (scs : SubcarrierSpacing) (now : Nat)
    (hstart : ¬ Lags scs (now % nsPerSec)) (gaps : List (Fin nsPerSec)) :
    (∀ earlier later, gaps = earlier ++ later → Emulated scs now
        (earlier.foldl (step getSymbolIndex (emulatorConfig scs))
          (start getSymbolIndex (emulatorConfig scs) now))) ↔
      Guarded (step getSymbolIndex (emulatorConfig scs)) (fun system gap =>
          OnTime (emulatorConfig scs) system gap ∧ ¬ Lags scs ((system.now + gap) % nsPerSec))
        (start getSymbolIndex (emulatorConfig scs) now) gaps := by
  have hexact {reading : Nat} (hnot : ¬ Lags scs (reading % nsPerSec)) :
      ExactAt getSymbolIndex (emulatorConfig scs) reading :=
    getSymbolIndex_of_not_lags (mod_lt _ (by decide)) hnot
  refine throughout_iff_guarded (Tracks (emulatorConfig scs) now)
    (fun _ _ h hguard => h.step (hexact hguard.2) (hexact hguard.2)) ?_ gaps
    (tracks_start (hexact hstart) (hexact hstart)) ?_
  · intro before gap htracks hbefore
    have hemulated := @htracks.emulated_step getSymbolIndex _ _ _ gap
    have hall : (step getSymbolIndex (emulatorConfig scs) before gap).emulated =
        pointsBetween scs now (before.now + gap) ↔
        OnTime (emulatorConfig scs) before gap ∧ ¬ Lags scs ((before.now + gap) % nsPerSec) := by
      rw [← emulatedAfter_eq_iff, hemulated, hbefore.1, pointsBetween, pointsBetween, pointsBetween,
        symbolsBetween_append _ htracks.le_now (le_add_right _ _), map_append,
        append_cancel_left_eq]
      rfl
    refine ⟨fun h => hall.mp h.1, fun hguard => ⟨hall.mpr hguard, fun hscs => ?_⟩⟩
    have hlt : otaSymbol (emulatorConfig scs) (before.now + gap) -
        otaSymbol (emulatorConfig scs) before.now < (emulatorConfig scs).nofSymbolsPerSec :=
      hguard.1.trans_lt (by cases scs <;> decide)
    rw [hemulated, htracks.notified_step hscs (hexact hguard.2), lastSymbols_eq _ hlt, map_append,
      map_map, ← hbefore.2 hscs]
    exact congrArg (before.emulated ++ ·) ((emulatedAfter_eq_iff scs gap).mpr hguard)
  · simp [Emulated, start, pointsBetween, symbolsBetween]

theorem promptEmulator_notifies :
    ¬ Lags .kHz15 0 ∧ Emulated .kHz15 0 ([⟨100000, by decide⟩, ⟨71428, by decide⟩].foldl
      (step getSymbolIndex carrier15kHz) (start getSymbolIndex carrier15kHz 0)) := by
  refine ⟨by decide +kernel, ?_⟩
  apply (emulates_iff_onTime .kHz15 0 (by decide +kernel) _).mpr _ _ [] (append_nil _).symm
  refine ⟨⟨?_, ?_⟩, ⟨?_, ?_⟩, trivial⟩
  all_goals first | rw [OnTime]; decide +kernel | decide +kernel

/-- Of two symbols between the polls the second is notified only, also when the poll in between
reads an index that lags. -/
theorem lateEmulator_skips :
    (step getSymbolIndex carrier15kHz (start getSymbolIndex carrier15kHz 0)
      ⟨200000, by decide⟩).emulated = [pointOf carrier15kHz 2] ∧
    symbolsBetween carrier15kHz 0 200000 = [1, 2] ∧
    ([⟨1000, by decide⟩, ⟨71429, by decide⟩].foldl (step getSymbolIndex carrier15kHz)
      (start getSymbolIndex carrier15kHz 499000)).emulated = [pointOf carrier15kHz 8] ∧
    symbolsBetween carrier15kHz 499000 571429 = [7, 8] ∧
    ¬ Emulated .kHz15 0 (step getSymbolIndex carrier15kHz (start getSymbolIndex carrier15kHz 0)
      ⟨200000, by decide⟩) := by
  refine ⟨by decide +kernel, by decide +kernel, by decide +kernel, by decide +kernel, fun h => ?_⟩
  exact absurd h.1 (by decide +kernel)

end ProtoRu.SymbolTiming
