import ProtoRu.GpsSlotAlignment
import ProtoRu.OrderStatistics
import ProtoRu.TransitionRuns

namespace ProtoRu.GpsSlots

open OrderStatistics List

structure TtiBoundaryContext where
  scs : SubcarrierSpacing
  count : Nat
  unixNs : Nat

def dlProcessingToAirLeadNs : Nat := 1000000

def nofMeasurements : Nat := 64

structure Aligner where
  nofTtis : Nat
  samples : List Nat
  appliedOffset : Option Nat
  pendingOffset : Option Nat
  deriving DecidableEq

def Aligner.new : Aligner := ⟨0, [], none, none⟩

def settleTtis (scs : SubcarrierSpacing) : Nat := 1000 * getNofSlotsPerSubframe scs

def sampleOf (context : TtiBoundaryContext) : Nat :=
  let numerology := toNumerologyValue context.scs
  measureGpsSlotOffset (context.unixNs + dlProcessingToAirLeadNs)
    ⟨numerology, context.count % nofSlotsPerOfhPeriod numerology⟩

def median (samples : List Nat) : Nat :=
  (samples.insertionSort (· ≤ ·)).getD (samples.length / 2) 0

def Aligner.closeWindow (aligner : Aligner) (samples : List Nat) : Aligner × Option Nat :=
  match aligner.appliedOffset with
  | none => ({ aligner with appliedOffset := some (median samples) }, some (median samples))
  | some applied =>
    if median samples = applied then ({ aligner with pendingOffset := none }, none)
    else if aligner.pendingOffset = some (median samples) then
      ({ aligner with appliedOffset := some (median samples), pendingOffset := none },
        some (median samples))
    else ({ aligner with pendingOffset := some (median samples) }, none)

def Aligner.measure (aligner : Aligner) (context : TtiBoundaryContext) : Aligner × Option Nat :=
  let counted := { aligner with nofTtis := (aligner.nofTtis + 1) % 2 ^ 64 }
  if aligner.nofTtis < settleTtis context.scs then (counted, none)
  else
    let samples := aligner.samples ++ [sampleOf context]
    if samples.length ≠ nofMeasurements then ({ counted with samples := samples }, none)
    else { counted with samples := [] }.closeWindow samples

section

variable {samples : List Nat} {value : Nat}

section

variable (hlength : samples.length = nofMeasurements)

include hlength

lemma getElem?_median : (samples.insertionSort (· ≤ ·))[32]? = some (median samples) := by
  have hlt : 32 < (samples.insertionSort (· ≤ ·)).length := by
    rw [length_insertionSort, hlength]
    decide
  have hsome := getElem?_eq_getElem hlt
  rw [median, hlength, getD_eq_getElem?_getD, hsome]
  exact congrArg some (by rw [nofMeasurements, hsome]; rfl)

lemma median_isRank : IsRank samples 32 (median samples) :=
  insertionSort_isRank (getElem?_median hlength)

lemma median_mem : median samples ∈ samples :=
  (mem_insertionSort (· ≤ ·)).mp (mem_of_getElem? (getElem?_median hlength))

lemma median_eq_of_majority (hmajority : 32 < samples.count value) : median samples = value := by
  apply (median_isRank hlength).eq_of_count hmajority
  rw [hlength, nofMeasurements]
  omega

end

end

section

variable {period k : Nat} {samples : List Nat}

def shifted (period k : Nat) (samples : List Nat) : List Nat :=
  samples.map fun sample => (sample + k) % period

def Aligner.shift (period k : Nat) (aligner : Aligner) : Aligner :=
  { aligner with
    appliedOffset := aligner.appliedOffset.map fun offset => (offset + k) % period
    pendingOffset := aligner.pendingOffset.map fun offset => (offset + k) % period }

/-- Shifting the origin of the numbering shifts state and offset alike. -/
def FollowsOrigin (period : Nat) (samples : List Nat) : Prop :=
  ∀ k (aligner : Aligner), (∀ offset ∈ aligner.appliedOffset, offset < period) →
    (∀ offset ∈ aligner.pendingOffset, offset < period) →
    (aligner.shift period k).closeWindow (shifted period k samples) =
      ((aligner.closeWindow samples).1.shift period k,
        (aligner.closeWindow samples).2.map fun offset => (offset + k) % period)

lemma add_mod_inj {a b : Nat} (ha : a < period) (hb : b < period) :
    (a + k) % period = (b + k) % period ↔ a = b := by
  constructor
  · intro h
    exact (Nat.ModEq.add_right_cancel' k h).eq_of_lt_of_lt ha hb
  · rintro rfl
    rfl

lemma count_shifted (hsamps : ∀ sample ∈ samples, sample < period) {value : Nat}
    (hvalue : value < period) :
    (shifted period k samples).count ((value + k) % period) = samples.count value := by
  rw [shifted, count, countP_map]
  apply countP_congr
  intro sample hsample
  simp [add_mod_inj (hsamps sample hsample) hvalue]

lemma median_shifted (hlength : samples.length = nofMeasurements)
    (hsamps : ∀ sample ∈ samples, sample < period) {value : Nat}
    (hmajority : 32 < samples.count value) :
    median (shifted period k samples) = (median samples + k) % period := by
  have hvalue : value < period :=
    hsamps value (count_pos_iff.mp (Nat.zero_lt_of_lt hmajority))
  rw [median_eq_of_majority hlength hmajority]
  apply median_eq_of_majority
  · rw [shifted, length_map, hlength]
  · rwa [count_shifted hsamps hvalue]

/-- The aligner is independent of the origin exactly on windows with a strict majority value. -/
theorem followsOrigin_iff_majority {scs : SubcarrierSpacing} {samples : List Nat}
    (hlength : samples.length = nofMeasurements)
    (hsamples : ∀ sample ∈ samples, sample < nofSlotsPerOfhPeriod (toNumerologyValue scs)) :
    FollowsOrigin (nofSlotsPerOfhPeriod (toNumerologyValue scs)) samples ↔
      ∃ value, 32 < samples.count value := by
  generalize nofSlotsPerOfhPeriod (toNumerologyValue scs) = period at *
  constructor
  · intro hfollows
    have hlt := hsamples _ (median_mem hlength)
    have hmoved := hfollows (period - median samples) .new nofun nofun
    -- moved so that the median becomes 0, only its own occurrences stay at or below it
    have hzero : median (shifted period (period - median samples) samples) =
        (median samples + (period - median samples)) % period :=
      Option.some.inj (congrArg Prod.snd hmoved)
    have hrank := (@median_isRank (shifted period (period - median samples) samples)
      ((length_map _).trans hlength)).above
    have hcount : (fun a => decide (a ≤ 0)) = fun a : Nat => a == 0 := by
      funext a
      rw [Bool.eq_iff_iff]
      simp
    rw [hzero, Nat.add_sub_of_le hlt.le, Nat.mod_self, hcount] at hrank
    refine ⟨median samples, hrank.trans_eq ?_⟩
    rw [← count_shifted hsamples hlt, Nat.add_sub_of_le hlt.le, Nat.mod_self]
    rfl
  · rintro ⟨value, hmajority⟩ k aligner happlied hpending
    have hlt := hsamples _ (median_mem hlength)
    have hmedian : median (shifted period k samples) = _ :=
      median_shifted hlength hsamples hmajority
    have hagrees : (aligner.shift period k).pendingOffset = some ((median samples + k) % period) ↔
        aligner.pendingOffset = some (median samples) := by
      rw [Aligner.shift, Option.map_eq_some_iff]
      constructor
      · rintro ⟨offset, hoffset, heq⟩
        rw [hoffset, (add_mod_inj (hpending offset hoffset) hlt).mp heq]
      · exact fun hsame => ⟨_, hsame, rfl⟩
    cases happly : aligner.appliedOffset with
    | none => simp [Aligner.closeWindow, Aligner.shift, happly, hmedian]
    | some applied =>
      have hstays := @add_mod_inj period k _ _ hlt (happlied applied happly)
      have happly' : (aligner.shift period k).appliedOffset = some ((applied + k) % period) := by
        rw [Aligner.shift, happly, Option.map_some]
      simp only [Aligner.closeWindow, happly, happly', hagrees, hmedian, hstays]
      split_ifs <;> simp [Aligner.shift]

theorem steadyWindow_followsOrigin : (replicate 64 5119).length = nofMeasurements ∧
      FollowsOrigin (nofSlotsPerOfhPeriod (toNumerologyValue .kHz30)) (replicate 64 5119) :=
  ⟨by decide, (@followsOrigin_iff_majority .kHz30 _ (by decide) (by decide)).mpr
    ⟨5119, by decide⟩⟩

/-- Sorted, the last slot of the period comes after the first two: the offset is one too high. -/
theorem wrappedWindow_not_followsOrigin :
    ¬ FollowsOrigin (nofSlotsPerOfhPeriod (toNumerologyValue .kHz30))
      (replicate 22 5119 ++ replicate 20 0 ++ replicate 22 1) := by
  intro hfollows
  have hmoved := hfollows 1 .new (by decide) (by decide)
  revert hmoved
  decide +kernel

end

section

def measured (contexts : List TtiBoundaryContext) : List Nat :=
  contexts.zipIdx.filterMap fun (context, index) =>
    if index % 2 ^ 64 < settleTtis context.scs then none else some (sampleOf context)

def run (contexts : List TtiBoundaryContext) : Aligner × List Nat :=
  contexts.foldl (fun (aligner, applied) context =>
    ((aligner.measure context).1, applied ++ (aligner.measure context).2.toList)) (.new, [])

def window (n : Nat) (samples : List Nat) : List Nat :=
  (samples.drop (n * nofMeasurements)).take nofMeasurements

variable {contexts : List TtiBoundaryContext} {context : TtiBoundaryContext} {samples : List Nat}

lemma measured_concat : measured (contexts ++ [context]) = measured contexts ++
    if contexts.length % 2 ^ 64 < settleTtis context.scs then [] else [sampleOf context] := by
  rw [measured, zipIdx_append, filterMap_append]
  simp only [zipIdx_singleton, filterMap_cons, filterMap_nil, Nat.zero_add]
  split_ifs <;> rfl

lemma window_concat {n : Nat} (hfull : (n + 1) * nofMeasurements ≤ samples.length)
    (sample : Nat) :
    window n (samples ++ [sample]) = window n samples := by
  rw [Nat.succ_mul] at hfull
  rw [window, drop_append_of_le_length (by omega), take_append_of_le_length, window]
  rw [length_drop]
  omega

inductive Tracks (samples : List Nat) (aligner : Aligner) : Prop where
  | collecting (hnone : samples.length < nofMeasurements) (happlied : aligner.appliedOffset = none)
      (hpending : aligner.pendingOffset = none)
  | aligned {n applied : Nat} (hlength : samples.length / nofMeasurements = n + 1)
      (happlied : aligner.appliedOffset = some applied)
      (hpending : aligner.pendingOffset = if median (window n samples) = applied then none
        else some (median (window n samples)))

structure Inv (contexts : List TtiBoundaryContext) (state : Aligner × List Nat) : Prop where
  nofTtis : state.1.nofTtis = contexts.length % 2 ^ 64
  samples : state.1.samples = (measured contexts).drop
    ((measured contexts).length / nofMeasurements * nofMeasurements)
  tracks : Tracks (measured contexts) state.1
  applied : state.2.getLast? = state.1.appliedOffset

/-- The median of the window is applied: the first one, or one that was pending and is new. -/
def Applies (n : Nat) (samples applied : List Nat) (value : Nat) : Prop :=
  median (window n samples) = value ∧
    (n = 0 ∨ ∃ previous, applied.getLast? = some previous ∧ value ≠ previous ∧
      median (window (n - 1) samples) = value)

lemma closeWindow_tracks {aligner : Aligner} {applied : List Nat} {sample n : Nat}
    (htracks : Tracks samples aligner) (happl : applied.getLast? = aligner.appliedOffset)
    (hlength : (samples ++ [sample]).length = (n + 1) * nofMeasurements) :
    let result := aligner.closeWindow (window n (samples ++ [sample]))
    Tracks (samples ++ [sample]) result.1 ∧
      (applied ++ result.2.toList).getLast? = result.1.appliedOffset ∧
      ∀ value, result.2 = some value ↔ Applies n (samples ++ [sample]) applied value := by
  have hdiv : (samples ++ [sample]).length / nofMeasurements = n + 1 := by
    rw [hlength, Nat.mul_div_cancel _ (by decide)]
  rw [length_append, length_singleton, Nat.succ_mul] at hlength
  cases htracks with
  | collecting hnone hfirst hpend =>
    obtain rfl : n = 0 := by
      by_contra hn
      have := Nat.le_mul_of_pos_left nofMeasurements (Nat.pos_of_ne_zero hn)
      omega
    simp only [Aligner.closeWindow, hfirst]
    refine ⟨.aligned hdiv rfl ?_, by simp, fun value => ?_⟩
    · rw [if_pos rfl]
      exact hpend
    · simp [Applies]
  | @aligned m previous hm hprev hpend =>
    obtain rfl : n = m + 1 := by
      rw [nofMeasurements] at hlength hm
      omega
    have hbefore : window m (samples ++ [sample]) = window m samples := by
      apply window_concat
      rw [nofMeasurements] at hlength ⊢
      omega
    rw [hprev] at happl
    have happlies : ∀ value, Applies (m + 1) (samples ++ [sample]) applied value ↔
        median (window (m + 1) (samples ++ [sample])) = value ∧ value ≠ previous ∧
          median (window m samples) = value := by
      simp [Applies, happl, hbefore]
    simp only [happlies, Aligner.closeWindow, hprev, hpend]
    generalize hnow : median (window (m + 1) (samples ++ [sample])) = now
    by_cases hstays : now = previous
    · rw [if_pos hstays]
      refine ⟨.aligned hdiv rfl ?_, by simpa using happl, fun value => ?_⟩
      · rw [hnow, if_pos hstays]
      · exact iff_of_false (Option.some_ne_none value).symm
          fun ⟨hvalue, hmoved, _⟩ => hmoved (hvalue.symm.trans hstays)
    have hagain : (if median (window m samples) = previous then none
        else some (median (window m samples))) = some now ↔ median (window m samples) = now := by
      split_ifs with heq
      · simp [heq, Ne.symm hstays]
      · simp
    simp only [if_neg hstays, hagain]
    split_ifs with hsame
    · refine ⟨.aligned hdiv rfl ?_, by simp, fun value => ?_⟩
      · rw [hnow, if_pos rfl]
      · rw [Option.some.injEq]
        exact ⟨fun hvalue => hvalue ▸ ⟨rfl, hstays, hsame⟩, And.left⟩
    · refine ⟨.aligned hdiv rfl ?_, by simpa using happl, fun value => ?_⟩
      · rw [hnow, if_neg hstays]
      · exact iff_of_false id fun ⟨hvalue, _, hmedian⟩ => hsame (hmedian.trans hvalue.symm)

lemma closeWindow_keeps (aligner : Aligner) (samples : List Nat) :
    (aligner.closeWindow samples).1.nofTtis = aligner.nofTtis ∧
      (aligner.closeWindow samples).1.samples = aligner.samples := by
  rw [Aligner.closeWindow]
  split
  · exact ⟨rfl, rfl⟩
  · split_ifs <;> exact ⟨rfl, rfl⟩

lemma Tracks.congr {before after : Aligner} (h : Tracks samples before)
    (happl : after.appliedOffset = before.appliedOffset)
    (hpend : after.pendingOffset = before.pendingOffset) : Tracks samples after := by
  cases h with
  | collecting hnone hfirst hempty =>
    exact .collecting hnone (happl.trans hfirst) (hpend.trans hempty)
  | aligned hlength hprev hcandidate =>
    exact .aligned hlength (happl.trans hprev) (hpend.trans hcandidate)

lemma Tracks.concat {aligner : Aligner} {sample : Nat} (h : Tracks samples aligner)
    (hopen : samples.length % nofMeasurements + 1 ≠ nofMeasurements) :
    Tracks (samples ++ [sample]) aligner := by
  have hlength : (samples ++ [sample]).length = samples.length + 1 := by simp
  cases h with
  | collecting hnone hfirst hempty =>
    refine .collecting ?_ hfirst hempty
    rw [nofMeasurements] at *
    omega
  | @aligned n _ hn hprev hcandidate =>
    refine @Tracks.aligned _ _ n _ ?_ hprev ?_
    · rw [nofMeasurements] at *
      omega
    rw [window_concat]
    · exact hcandidate
    · rw [nofMeasurements] at *
      omega

lemma measure_inv {state : Aligner × List Nat} (h : Inv contexts state) :
    let result := state.1.measure context
    Inv (contexts ++ [context]) (result.1, state.2 ++ result.2.toList) ∧
      ∀ value, result.2 = some value ↔ measured (contexts ++ [context]) ≠ measured contexts ∧
          ∃ n, (measured (contexts ++ [context])).length = (n + 1) * nofMeasurements ∧
            Applies n (measured (contexts ++ [context])) state.2 value := by
  obtain ⟨hnofTtis, hsamps, htracks, happl⟩ := h
  have hcount : (contexts.length % 2 ^ 64 + 1) % 2 ^ 64 =
      (contexts ++ [context]).length % 2 ^ 64 := by
    simp
  have hmeas := @measured_concat contexts context
  simp only [Aligner.measure, hnofTtis, hsamps, hcount]
  by_cases hskip : contexts.length % 2 ^ 64 < settleTtis context.scs
  · rw [if_pos hskip, append_nil] at hmeas
    simp only [if_pos hskip, hmeas]
    refine ⟨⟨rfl, ?_, ?_, by simpa using happl⟩, fun _ => by simp⟩
    · rw [hmeas]
    · rw [hmeas]
      exact htracks.congr rfl rfl
  rw [if_neg hskip] at hmeas
  simp only [if_neg hskip, hmeas]
  generalize measured contexts = samples at *
  generalize sampleOf context = sample at *
  have hlength : (samples ++ [sample]).length = samples.length + 1 := by simp
  have hdrop : (samples.drop (samples.length / nofMeasurements * nofMeasurements) ++
      [sample]).length = samples.length % nofMeasurements + 1 := by
    rw [length_append, length_drop, length_singleton, nofMeasurements]
    omega
  rw [hdrop]
  by_cases hopen : samples.length % nofMeasurements + 1 ≠ nofMeasurements
  · rw [if_pos hopen]
    have hsame : (samples ++ [sample]).length / nofMeasurements =
        samples.length / nofMeasurements := by
      rw [nofMeasurements] at *
      omega
    refine ⟨⟨rfl, ?_, ?_, by simpa using happl⟩, fun value => ?_⟩
    · rw [hmeas, hsame, drop_append_of_le_length (Nat.div_mul_le_self _ _)]
    · rw [hmeas]
      exact (htracks.concat hopen).congr rfl rfl
    · refine iff_of_false (Option.some_ne_none value).symm fun ⟨_, n, hfull, _⟩ => hopen ?_
      rw [nofMeasurements] at *
      omega
  · rw [if_neg hopen]
    rw [not_not] at hopen
    have hfull : (samples ++ [sample]).length =
        (samples.length / nofMeasurements + 1) * nofMeasurements := by
      rw [nofMeasurements] at *
      omega
    have hwindow : window (samples.length / nofMeasurements) (samples ++ [sample]) =
        samples.drop (samples.length / nofMeasurements * nofMeasurements) ++ [sample] := by
      rw [window, drop_append_of_le_length (Nat.div_mul_le_self _ _), take_of_length_le]
      rw [hdrop, hopen]
    rw [← hwindow]
    obtain ⟨hafter, hlast, hvalue⟩ := closeWindow_tracks
      (@Tracks.congr _ _ ⟨(contexts ++ [context]).length % 2 ^ 64, [], _, _⟩ htracks rfl rfl)
      happl hfull
    refine ⟨⟨(closeWindow_keeps _ _).1, ?_, ?_, hlast⟩, fun value => ?_⟩
    · rw [(closeWindow_keeps _ _).2, hmeas, hfull, Nat.mul_div_cancel _ (by decide), ← hfull,
        drop_length]
    · rw [hmeas]
      exact hafter
    rw [hvalue]
    refine ⟨fun happlies => ⟨by simp, _, hfull, happlies⟩, fun ⟨_, n, hn, happlies⟩ => ?_⟩
    rw [hfull] at hn
    obtain rfl : n = samples.length / nofMeasurements :=
      (Nat.succ.inj (Nat.eq_of_mul_eq_mul_right (by decide) hn)).symm
    exact happlies

lemma run_inv (contexts : List TtiBoundaryContext) : Inv contexts (run contexts) :=
  foldl_history_invariant Inv ⟨rfl, rfl, .collecting (by decide) rfl rfl, rfl⟩
    (fun _ _ _ h => (measure_inv h).1) contexts

/-- An offset is applied exactly with the first window, or a second consecutive window of another
median; and a strict majority is the median. -/
theorem applied_iff_windows (contexts : List TtiBoundaryContext) (context : TtiBoundaryContext)
    (value : Nat) :
    (((run contexts).1.measure context).2 = some value ↔
      measured (contexts ++ [context]) ≠ measured contexts ∧
        ∃ n, (measured (contexts ++ [context])).length = (n + 1) * nofMeasurements ∧
          Applies n (measured (contexts ++ [context])) (run contexts).2 value) ∧
    ∀ samples : List Nat, samples.length = nofMeasurements →
      nofMeasurements / 2 < samples.count value → median samples = value :=
  ⟨(measure_inv (run_inv contexts)).2 value, fun _ => median_eq_of_majority⟩

end

end ProtoRu.GpsSlots
