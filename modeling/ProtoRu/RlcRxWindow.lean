import ProtoRu.RlcRxAmEntity

namespace ProtoRu.Rlc

open RxEntity CircularMap

variable {cfg : RxConfig} {entity : RxEntity cfg} {r h n c d : Nat}

lemma rxModBase_eq (hnext : entity.rxNext = r % cfg.mod) (hle : r ≤ d)
    (hlt : d < r + cfg.mod) : entity.rxModBase (d % cfg.mod) = d - r := by
  rw [rxModBase, hnext]
  exact unsignedOffset_mod_eq cfg.mod_dvd (Nat.mod_modEq d cfg.mod) hle hlt

lemma exists_count_of_lt {sn : Nat} (hnext : entity.rxNext = r % cfg.mod) (hsn : sn < cfg.mod) :
    sn = (r + entity.rxModBase sn) % cfg.mod := by
  have hmod := modEq_add_unsignedOffset cfg.mod_dvd r sn
  rw [← hnext] at hmod
  rw [← Nat.mod_eq_of_lt hsn]
  exact hmod.trans (by rw [rxModBase, Nat.mod_eq_of_lt hsn])

lemma mod_ne (hd : r ≤ d ∧ d < r + cfg.amWindowSize) (hc : r ≤ c) (hc' : c < r + cfg.mod)
    (hne : d ≠ c) : d % cfg.mod ≠ c % cfg.mod := by
  have hmod := cfg.mod_eq
  exact fun heq => hne (eq_of_mod_eq_of_window hd.1 (by omega) hc hc' heq)

def held (entity : RxEntity cfg) (r d : Nat) : Option RxSduInfo :=
  if r ≤ d ∧ d < r + cfg.amWindowSize then entity.rxWindow.get? (d % cfg.mod) else none

/-- The SDU of a count in the window is fully received. -/
def completed (entity : RxEntity cfg) (r d : Nat) : Bool :=
  (held entity r d).any RxSduInfo.fullyReceived

/-- The counts of RX_Next, RX_Highest_Status and RX_Next_Highest. -/
structure Positions (entity : RxEntity cfg) (r h n : Nat) : Prop where
  rxNext_eq : entity.rxNext = r % cfg.mod
  rxHighestStatus_eq : entity.rxHighestStatus = h % cfg.mod
  rxNextHighest_eq : entity.rxNextHighest = n % cfg.mod
  le_highestStatus : r ≤ h
  highestStatus_le : h ≤ r + cfg.amWindowSize
  le_nextHighest : r ≤ n
  nextHighest_le : n ≤ r + cfg.amWindowSize
  trigger_lt : entity.rxNextStatusTrigger < cfg.mod
  contains : ∀ sn, entity.rxWindow.contains sn → ∃ d, r ≤ d ∧ d < n ∧ sn = d % cfg.mod

lemma held_eq_none_of_lt (hlt : d < r) : held entity r d = none := by
  rw [held, if_neg (by omega)]

namespace Positions

section

variable (hpos : Positions entity r h n)

include hpos

lemma get?_eq_held (hle : r ≤ d) (hlt : d < r + cfg.mod) :
    entity.rxWindow.get? (d % cfg.mod) = held entity r d := by
  rw [held]
  split
  · rfl
  rw [← Option.not_isSome_iff_eq_none]
  intro hsome
  obtain ⟨d', hd', hn', heq⟩ := hpos.contains _ hsome
  have := hpos.nextHighest_le
  have hsame := eq_of_mod_eq_of_window hle hlt hd' (by omega) heq
  omega

lemma isComplete_eq (hle : r ≤ d) (hlt : d < r + cfg.mod) :
    entity.isComplete (d % cfg.mod) = completed entity r d := by
  rw [isComplete, hpos.get?_eq_held hle hlt, completed]

lemma held_eq_none_of_le (hle : n ≤ d) : held entity r d = none := by
  rw [held]
  split_ifs with hin
  · rw [← Option.not_isSome_iff_eq_none]
    intro hsome
    obtain ⟨d', hd', hn', heq⟩ := hpos.contains _ hsome
    have := cfg.mod_eq
    have hsame := @eq_of_mod_eq_of_window cfg.mod r d d' hin.1 (by omega) hd' (by omega) heq
    omega
  · rfl

lemma completed_eq_false_of_le (hle : n ≤ d) : completed entity r d = false := by
  rw [completed, hpos.held_eq_none_of_le hle]
  rfl

lemma round_iff (hle : r ≤ d) (hd : d ≤ r + cfg.amWindowSize) :
    (entity.rxModBase (d % cfg.mod) < entity.rxModBase entity.rxNextHighest ∧
      entity.isComplete (d % cfg.mod)) ↔ d < n ∧ completed entity r d := by
  have hsize := cfg.amWindowSize_pos
  have hmod := cfg.mod_eq
  have hn := hpos.nextHighest_le
  rw [hpos.rxNextHighest_eq, rxModBase_eq hpos.rxNext_eq hle (by omega),
    rxModBase_eq hpos.rxNext_eq hpos.le_nextHighest (by omega), hpos.isComplete_eq hle (by omega)]
  have hiff : d - r < n - r ↔ d < n := by omega
  rw [hiff]

end

end Positions

lemma firstIncomplete_spec (rounds : Nat) {s : Nat} (hpos : Positions entity r h n)
    (hrs : r ≤ s) (hs : s ≤ r + cfg.amWindowSize) (hrounds : n ≤ s + rounds) :
    ∃ s', s ≤ s' ∧ s' ≤ max s n ∧ entity.firstIncomplete rounds (s % cfg.mod) = s' % cfg.mod ∧
      completed entity r s' = false := by
  induction rounds generalizing s with
  | zero =>
    exact ⟨s, Nat.le_refl s, Nat.le_max_left s n, rfl, hpos.completed_eq_false_of_le hrounds⟩
  | succ rounds ih =>
    rw [firstIncomplete, if_congr (hpos.round_iff hrs hs) rfl rfl]
    split_ifs with hround
    · have hn := hpos.nextHighest_le
      obtain ⟨s', hle, hbound, heq, hopen⟩ :=
        @ih (s + 1) (by omega) (by omega) (by omega)
      refine ⟨s', by omega, by omega, ?_, hopen⟩
      rw [Nat.mod_add_mod, heq]
    · refine ⟨s, Nat.le_refl s, Nat.le_max_left s n, rfl, ?_⟩
      obtain hlt | hge := Nat.lt_or_ge s n
      · rw [← Bool.not_eq_true]
        exact fun hcompl => hround ⟨hlt, hcompl⟩
      · exact hpos.completed_eq_false_of_le hge

structure SameWindow (before after : RxEntity cfg) : Prop where
  rxNext : after.rxNext = before.rxNext
  rxHighestStatus : after.rxHighestStatus = before.rxHighestStatus
  rxNextHighest : after.rxNextHighest = before.rxNextHighest
  rxNextStatusTrigger : after.rxNextStatusTrigger = before.rxNextStatusTrigger ∨
    after.rxNextStatusTrigger = before.rxNextHighest
  rxWindow : after.rxWindow = before.rxWindow

namespace SameWindow

variable {before after : RxEntity cfg}

section

variable (hsame : SameWindow before after)

include hsame

lemma held_eq (r d : Nat) : held after r d = held before r d := by
  rw [held, held, hsame.rxWindow]

lemma completed_eq (r d : Nat) : completed after r d = completed before r d := by
  rw [completed, completed, hsame.held_eq]

lemma positions (hpos : Positions before r h n) : Positions after r h n :=
  { hpos with
    rxNext_eq := hsame.rxNext.trans hpos.rxNext_eq
    rxHighestStatus_eq := hsame.rxHighestStatus.trans hpos.rxHighestStatus_eq
    rxNextHighest_eq := hsame.rxNextHighest.trans hpos.rxNextHighest_eq
    trigger_lt := by
      obtain hkept | hupdated := hsame.rxNextStatusTrigger
      · rw [hkept]
        exact hpos.trigger_lt
      · rw [hupdated, hpos.rxNextHighest_eq]
        exact Nat.mod_lt _ cfg.mod_pos
    contains := by
      rw [hsame.rxWindow]
      exact hpos.contains }

end

end SameWindow

/-- Between two PDUs, the SDUs of RX_Next and RX_Highest_Status are not fully received. -/
structure RxTracks (entity : RxEntity cfg) (r h n : Nat) : Prop extends
    Positions entity r h n where
  open_next : completed entity r r = false
  open_highestStatus : completed entity r h = false

lemma SameWindow.tracks {before after : RxEntity cfg} (hsame : SameWindow before after)
    (htracks : RxTracks before r h n) : RxTracks after r h n where
  toPositions := hsame.positions htracks.toPositions
  open_next := (hsame.completed_eq r r).trans htracks.open_next
  open_highestStatus := (hsame.completed_eq r h).trans htracks.open_highestStatus

def placedInfo (old : Option RxSduInfo) (header : PduHeader) (payload : Bytes) : RxSduInfo :=
  if header.si = .fullSdu then { fullyReceived := true, sduData := .slice payload }
  else
    let segments := (old.getD {}).segments
    updateSegmentInventory
      ((storeSegment segments { si := header.si, so := header.so, payload }).getD segments)

lemma placePdu_eq (header : PduHeader) (payload : Bytes) :
    (entity.placePdu header payload).1 = { entity with
        rxWindow := entity.rxWindow.overwrite header.sn
          (placedInfo (entity.rxWindow.get? header.sn) header payload) } := by
  rw [placePdu, placedInfo]
  split <;> rfl

lemma mod_mod_rxWindowSize (d : Nat) :
    d % cfg.mod % cfg.snFieldLength.windowSize = d % cfg.snFieldLength.windowSize :=
  Nat.mod_mod_of_dvd d ⟨2, by rw [RxConfig.mod, SnSize.cardinality_eq, Nat.mul_comm]⟩

section

variable {info : RxSduInfo} {highest : Nat}

lemma held_overwrite (hc : r ≤ c) (hc' : c < r + cfg.amWindowSize) : held { entity with
        rxWindow := entity.rxWindow.overwrite (c % cfg.mod) info
        rxNextHighest := highest } r d =
      if d = c then some info else held entity r d := by
  rw [held, held, get?_overwrite]
  have hmod := cfg.mod_eq
  obtain rfl | hne := eq_or_ne d c
  · rw [if_pos ⟨hc, hc'⟩, if_pos rfl, if_pos rfl]
  split
  · rename_i hin
    have hsn : d % cfg.mod ≠ c % cfg.mod := fun heq =>
      hne (eq_of_mod_eq_of_window hin.1 (by omega) hc (by omega) heq)
    have hslot : d % cfg.snFieldLength.windowSize ≠ c % cfg.snFieldLength.windowSize :=
      fun heq => hne (eq_of_mod_eq_of_window hin.1 hin.2 hc hc' heq)
    rw [if_neg hsn, mod_mod_rxWindowSize, mod_mod_rxWindowSize, if_neg hslot]
  · rfl

lemma contains_overwrite {n' sn : Nat} (hpos : Positions entity r h n) (hc : r ≤ c)
    (hn : n ≤ n') (hcn : c < n')
    (hsn : (entity.rxWindow.overwrite (c % cfg.mod) info).contains sn) :
    ∃ d, r ≤ d ∧ d < n' ∧ sn = d % cfg.mod := by
  rw [CircularMap.contains_overwrite] at hsn
  obtain rfl | hne := eq_or_ne sn (c % cfg.mod)
  · exact ⟨c, hc, hcn, rfl⟩
  · simp only [hne, decide_false, Bool.false_or, Bool.and_eq_true] at hsn
    obtain ⟨d, hd, hdn, heq⟩ := hpos.contains sn hsn.2
    exact ⟨d, hd, by omega, heq⟩

end

lemma place_spec {header : PduHeader} {payload : Bytes} (hpos : Positions entity r h n)
    (hsn : header.sn = c % cfg.mod) (hc : r ≤ c) (hc' : c < r + cfg.amWindowSize) :
    Positions ((entity.placePdu header payload).1.updateNextHighest header.sn) r h (max n (c + 1)) ∧
      ∀ d, held ((entity.placePdu header payload).1.updateNextHighest header.sn) r d =
        if d = c then some (placedInfo (held entity r c) header payload)
        else held entity r d := by
  have hmod := cfg.mod_eq
  have hn := hpos.nextHighest_le
  have hge := hpos.le_nextHighest
  have hupdate : (entity.placePdu header payload).1.updateNextHighest header.sn = { entity with
        rxWindow := entity.rxWindow.overwrite (c % cfg.mod)
          (placedInfo (held entity r c) header payload)
        rxNextHighest := max n (c + 1) % cfg.mod } := by
    rw [placePdu_eq, updateNextHighest, hsn, hpos.get?_eq_held hc (by omega)]
    have hbase : rxModBase { entity with
          rxWindow := entity.rxWindow.overwrite (c % cfg.mod)
            (placedInfo (held entity r c) header payload) } =
        entity.rxModBase := rfl
    rw [hbase, hpos.rxNextHighest_eq, rxModBase_eq hpos.rxNext_eq hge (by omega),
      rxModBase_eq hpos.rxNext_eq hc (by omega)]
    split_ifs with hle
    · rw [max_eq_right (by omega), Nat.mod_add_mod]
    · rw [max_eq_left (by omega), ← hpos.rxNextHighest_eq]
  rw [hupdate]
  refine ⟨{ hpos with
    rxNextHighest_eq := rfl
    le_nextHighest := by omega
    nextHighest_le := by omega
    contains := ?_ }, ?_⟩
  · intro sn hsn'
    exact contains_overwrite hpos hc (Nat.le_max_left _ _) (by omega) hsn'
  · intro d
    exact held_overwrite hc hc'

section

variable (hpos : Positions entity r h n) (hc : r ≤ c)

include hpos hc

lemma releaseData_spec (hc' : c < r + cfg.amWindowSize) :
    Positions (entity.releaseData (c % cfg.mod)) r h n ∧
      ∀ d, held (entity.releaseData (c % cfg.mod)) r d =
        if d = c then (held entity r c).map fun info => { info with sduData := .slice [] }
        else held entity r d := by
  have hmod := cfg.mod_eq
  constructor
  · refine { hpos with contains := fun sn hsn => ?_ }
    rw [releaseData, contains_modify] at hsn
    exact hpos.contains sn hsn
  · intro d
    rw [held, held, held, releaseData, get?_modify]
    obtain rfl | hne := eq_or_ne d c
    · rw [if_pos ⟨hc, hc'⟩, if_pos rfl, if_pos rfl, if_pos ⟨hc, hc'⟩]
    split
    · rename_i hin
      rw [if_neg (mod_ne hin hc (by omega) hne)]
    · rfl

lemma releaseData_completed (hc' : c < r + cfg.amWindowSize) (d : Nat) :
    completed (entity.releaseData (c % cfg.mod)) r d = completed entity r d := by
  rw [completed, completed, (releaseData_spec hpos hc hc').2]
  split_ifs with heq
  · rw [heq, Option.any_map]
  · rfl

lemma updateHighestStatus_spec (hcn : c < n) (hother : h ≠ c → completed entity r h = false) :
    ∃ h', Positions (entity.updateHighestStatus (c % cfg.mod)) r h' n ∧
      (∀ d, held (entity.updateHighestStatus (c % cfg.mod)) r d = held entity r d) ∧
      completed entity r h' = false ∧ h' ≤ max h n := by
  have hmod := cfg.mod_eq
  have hh := hpos.le_highestStatus
  have hh' := hpos.highestStatus_le
  have hn := hpos.nextHighest_le
  rw [updateHighestStatus, hpos.rxHighestStatus_eq,
    rxModBase_eq hpos.rxNext_eq hc (by omega), rxModBase_eq hpos.rxNext_eq hh (by omega)]
  split_ifs with hsame
  · obtain rfl : h = c := by omega
    obtain ⟨h', hle, hbound, heq, hopen⟩ :=
      @firstIncomplete_spec _ _ _ _ _ cfg.mod (h + 1) hpos (by omega) (by omega) (by omega)
    refine ⟨h', { hpos with
      rxHighestStatus_eq := ?_
      le_highestStatus := by omega
      highestStatus_le := by omega }, fun _ => rfl, hopen, by omega⟩
    rw [Nat.mod_add_mod, heq]
  · exact ⟨h, hpos, fun _ => rfl, hother (by omega), Nat.le_max_left h n⟩

end

/-- The loop has taken the SNs of the counts from `s` to `s'` out of the window. -/
structure Removed (before after : RxEntity cfg) (s s' : Nat) : Prop where
  rxNext_eq : after.rxNext = s' % cfg.mod
  rxHighestStatus_eq : after.rxHighestStatus = before.rxHighestStatus
  rxNextHighest_eq : after.rxNextHighest = before.rxNextHighest
  trigger_eq : after.rxNextStatusTrigger = before.rxNextStatusTrigger
  get?_eq : ∀ sn, after.rxWindow.get? sn =
    if ∃ d < s', s ≤ d ∧ sn = d % cfg.mod then none else before.rxWindow.get? sn

lemma removed_self (entity : RxEntity cfg) (s : Nat) :
    Removed entity { entity with rxNext := s % cfg.mod } s s := by
  refine ⟨rfl, rfl, rfl, rfl, fun sn => ?_⟩
  rw [if_neg]
  rintro ⟨d, hlt, hle, -⟩
  omega

lemma Removed.cons {after : RxEntity cfg} {s s' : Nat} (hlt : s < s')
    (hremd : Removed (entity.removeSn (s % cfg.mod)) after (s + 1) s') :
    Removed entity after s s' := by
  refine { hremd with get?_eq := fun sn => ?_ }
  rw [hremd.get?_eq, removeSn, get?_erase, ← ite_or]
  apply if_congr _ rfl rfl
  constructor
  · rintro (⟨d, hd, hle, hsn⟩ | hsn)
    · exact ⟨d, hd, by omega, hsn⟩
    · exact ⟨s, hlt, Nat.le_refl s, hsn⟩
  · rintro ⟨d, hd, hle, hsn⟩
    obtain rfl | hne := eq_or_ne d s
    · exact .inr hsn
    · exact .inl ⟨d, hd, by omega, hsn⟩

lemma removeSn_spec {s : Nat} (hpos : Positions entity r h n) (hrs : r ≤ s)
    (hs : s ≤ r + cfg.amWindowSize) : Positions (entity.removeSn (s % cfg.mod)) r h n ∧
      ∀ d, d ≠ s → completed (entity.removeSn (s % cfg.mod)) r d = completed entity r d := by
  have hmod := cfg.mod_eq
  constructor
  · refine { hpos with contains := fun sn hsn => ?_ }
    rw [removeSn, contains_erase, Bool.and_eq_true] at hsn
    exact hpos.contains sn (by simp_all)
  · intro d hne
    rw [completed, completed, held, held, removeSn, get?_erase]
    split
    · rename_i hin
      rw [if_neg (mod_ne hin hrs (by omega) hne)]
    · rfl

lemma removeLoop_spec (rounds : Nat) {s : Nat} (hpos : Positions entity r h n) (hrs : r ≤ s)
    (hs : s ≤ n) (hrounds : n ≤ s + rounds) :
    ∃ s', s ≤ s' ∧ s' ≤ n ∧ Removed entity (removeLoop rounds entity (s % cfg.mod)) s s' ∧
      (∀ d, s ≤ d → d < s' → completed entity r d) ∧ completed entity r s' = false := by
  have hn := hpos.nextHighest_le
  induction rounds generalizing entity s with
  | zero =>
    exact ⟨s, Nat.le_refl s, hs, removed_self entity s, fun _ _ _ => by omega,
      hpos.completed_eq_false_of_le hrounds⟩
  | succ rounds ih =>
    rw [removeLoop, if_congr (hpos.round_iff hrs (by omega)) rfl rfl]
    split_ifs with hround
    · obtain ⟨hpos', hkept⟩ := removeSn_spec hpos hrs (by omega)
      obtain ⟨s', hle, hbound, hremd, hall, hopen⟩ :=
        @ih _ (s + 1) hpos' (by omega) (by omega) (by omega)
      rw [Nat.mod_add_mod]
      refine ⟨s', by omega, hbound, hremd.cons hle, ?_, ?_⟩
      · intro d hd hd'
        obtain rfl | hne := eq_or_ne d s
        · exact hround.2
        · rw [← hkept d hne]
          exact hall d (by omega) hd'
      · rw [← hkept s' (by omega)]
        exact hopen
    · refine ⟨s, Nat.le_refl s, hs, removed_self entity s, fun d _ _ => by omega, ?_⟩
      obtain hlt | hge := Nat.lt_or_ge s n
      · rw [← Bool.not_eq_true]
        exact fun hcompl => hround ⟨hlt, hcompl⟩
      · exact hpos.completed_eq_false_of_le hge

lemma updateNext_spec (hpos : Positions entity r h n) (hc : r ≤ c) (hcn : c < n)
    (hother : r ≠ c → completed entity r r = false) (hopen : completed entity r h = false) :
    ∃ r', r ≤ r' ∧ r' ≤ n ∧ RxTracks (entity.updateNext (c % cfg.mod)) r' h n ∧
      (∀ d, held (entity.updateNext (c % cfg.mod)) r' d =
        if d < r' then none else held entity r d) ∧
      ∀ d, r ≤ d → d < r' → completed entity r d := by
  have hmod := cfg.mod_eq
  have hh := hpos.le_highestStatus
  have hh' := hpos.highestStatus_le
  have hn := hpos.nextHighest_le
  have hself := @rxModBase_eq _ entity r r hpos.rxNext_eq (Nat.le_refl r) (by omega)
  rw [← hpos.rxNext_eq] at hself
  rw [updateNext, rxModBase_eq hpos.rxNext_eq hc (by omega), hself]
  split_ifs with hsame
  · obtain rfl : r = c := by omega
    obtain ⟨r', hle, hbound, hremd, hall, hnext⟩ :=
      @removeLoop_spec _ _ _ _ _ cfg.mod r hpos (Nat.le_refl r) hpos.le_nextHighest (by omega)
    rw [hpos.rxNext_eq, Nat.mod_mod]
    have hrh : r' ≤ h := by
      by_contra hgt
      have hcompl := hall h hh (by omega)
      rw [hopen] at hcompl
      cases hcompl
    have hcont : ∀ sn, (removeLoop cfg.mod entity (r % cfg.mod)).rxWindow.contains sn →
        ∃ d, r' ≤ d ∧ d < n ∧ sn = d % cfg.mod := by
      intro sn hsn
      rw [contains, hremd.get?_eq] at hsn
      split_ifs at hsn with hkept
      · cases hsn
      obtain ⟨d, hd, hdn, rfl⟩ := hpos.contains sn hsn
      refine ⟨d, ?_, hdn, rfl⟩
      by_contra hlt
      exact hkept ⟨d, by omega, hd, rfl⟩
    have hheld : ∀ d, held (removeLoop cfg.mod entity (r % cfg.mod)) r' d =
        if d < r' then none else held entity r d := by
      intro d
      obtain hlt | hge := Nat.lt_or_ge d r'
      · rw [if_pos hlt, held_eq_none_of_lt hlt]
      rw [if_neg (by omega), held]
      split_ifs with hin
      · rw [hremd.get?_eq, if_neg, hpos.get?_eq_held (by omega) (by omega)]
        rintro ⟨d', hlt', hd', heq⟩
        have := @eq_of_mod_eq_of_window cfg.mod r d d' (by omega) (by omega) hd' (by omega) heq
        omega
      · rw [held, if_neg (by omega)]
    have hcompd (d : Nat) (hd : r' ≤ d) :
        completed (removeLoop cfg.mod entity (r % cfg.mod)) r' d = completed entity r d := by
      rw [completed, completed, hheld, if_neg (by omega)]
    refine ⟨r', hle, hbound, ⟨⟨hremd.rxNext_eq, ?_, ?_, hrh, by omega, hbound, by omega,
      ?_, hcont⟩, ?_, ?_⟩, hheld, hall⟩
    · rw [hremd.rxHighestStatus_eq, hpos.rxHighestStatus_eq]
    · rw [hremd.rxNextHighest_eq, hpos.rxNextHighest_eq]
    · rw [hremd.trigger_eq]
      exact hpos.trigger_lt
    · rw [hcompd r' le_rfl, hnext]
    · rw [hcompd h hrh, hopen]
  · refine ⟨r, Nat.le_refl r, hpos.le_nextHighest, ⟨hpos, hother (by omega), hopen⟩, ?_, ?_⟩
    · intro d
      split_ifs with hlt
      · exact held_eq_none_of_lt hlt
      · rfl
    · intro d hd hd'
      omega

end ProtoRu.Rlc
