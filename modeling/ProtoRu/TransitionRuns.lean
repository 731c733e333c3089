import Mathlib.Algebra.Order.Ring.Nat
import Mathlib.Data.List.Basic
import Mathlib.Data.List.Induction
import Mathlib.Data.List.Perm.Subperm

/-!
Runs of a partial step function over a list of events. A step is undefined when
it violates an assertion of the stepped system. Loops whose rounds may leave the
loop are described by what their rounds do.
-/

namespace ProtoRu

open List

variable {σ ε : Type} {step : σ → ε → Option σ}

variable {events : List ε} {state : σ} {next : σ → ε → σ} {allowed : ε → Prop}

/-- When an invariant lets the event alone decide on a step, a run is defined exactly when every
event allows its step. -/
lemma foldlM_isSome_iff_of_invariant (inv : σ → Prop)
    (hinv : ∀ state event next, inv state → step state event = some next → inv next)
    (hstep : ∀ state, inv state → ∀ event ∈ events, (step state event).isSome ↔ allowed event)
    (hinit : inv state) : (events.foldlM step state).isSome ↔ ∀ event ∈ events, allowed event := by
  induction events generalizing state with
  | nil => simp
  | cons event rest ih =>
    rw [foldlM_cons, forall_mem_cons, ← hstep state hinit event (by simp)]
    rcases hnext : step state event with _ | next
    · simp
    · have hrest := ih (fun state hstate other hother => hstep state hstate other
        (by simp [hother])) (hinv state event next hinit hnext)
      simpa using hrest

/-- When the event alone decides on a step, a run is defined exactly when every event allows its
step. -/
lemma foldlM_isSome_iff (hstep : ∀ state event, (step state event).isSome ↔ allowed event)
    (events : List ε) (state : σ) :
    (events.foldlM step state).isSome ↔ ∀ event ∈ events, allowed event :=
  foldlM_isSome_iff_of_invariant (fun _ => True) (fun _ _ _ _ _ => trivial)
    (fun state _ event _ => hstep state event) trivial

lemma foldlM_invariant (inv : σ → Prop) {final : σ} (hrun : events.foldlM step state = some final)
    (hinit : inv state)
    (hstep : ∀ before event after, event ∈ events → inv before → step before event = some after →
      inv after) : inv final := by
  induction events generalizing state with
  | nil =>
    obtain rfl : state = final := by simpa using hrun
    exact hinit
  | cons event rest ih =>
    rw [foldlM_cons] at hrun
    rcases hnext : step state event with _ | next
    · simp [hnext] at hrun
    rw [hnext] at hrun
    apply ih hrun (hstep state event next (by simp) hinit hnext)
    intro before other after hother
    exact hstep before other after (by simp [hother])

lemma foldlM_map_comm {f : σ → σ}
    (hstep : ∀ state event, step (f state) event = (step state event).map f)
    (events : List ε) (state : σ) :
    events.foldlM step (f state) = (events.foldlM step state).map f := by
  induction events generalizing state with
  | nil => rfl
  | cons event rest ih =>
    rw [foldlM_cons, foldlM_cons, hstep]
    obtain _ | next := step state event
    · rfl
    · exact ih next

/-- A run that ends as soon as a growing size exceeds its capacity is defined exactly when its
last size does not. -/
lemma foldlM_capped (size : σ → Nat) {capacity : Nat}
    (hgrow : ∀ state event, size state ≤ size (next state event))
    (hstep : ∀ state event, size state ≤ capacity → step state event = if size (next state event) ≤
      capacity then some (next state event) else none) (events : List ε)
    (hinit : size state ≤ capacity) : events.foldlM step state =
      if size (events.foldl next state) ≤ capacity then some (events.foldl next state)
      else none := by
  have hmono (events : List ε) (state : σ) : size state ≤ size (events.foldl next state) := by
    induction events generalizing state with
    | nil => exact le_rfl
    | cons event rest ih => exact Nat.le_trans (hgrow state event) (ih _)
  induction events generalizing state with
  | nil => exact (if_pos hinit).symm
  | cons event rest ih =>
    rw [foldlM_cons, hstep state event hinit, foldl_cons]
    split
    · rename_i hnext
      exact ih hnext
    · rename_i hnext
      rw [if_neg (fun h => hnext (Nat.le_trans (hmono rest _) h))]
      rfl

/-- A run is defined when every step is, given what the events before it have achieved. -/
lemma foldlM_history_invariant (inv : List ε → σ → Prop) (hinit : inv [] state)
    (hstep : ∀ history before event, event ∈ events → inv history before → ∃ after, step before
      event = some after ∧ inv (history ++ [event]) after) :
    ∃ final, events.foldlM step state = some final ∧ inv events final := by
  induction events using reverseRecOn with
  | nil => exact ⟨state, rfl, hinit⟩
  | append_singleton events event ih =>
    obtain ⟨middle, hmiddle, hinv⟩ := ih fun history before other hother =>
      hstep history before other (mem_append_left _ hother)
    obtain ⟨final, hfinal, hinv⟩ := hstep events middle event (by simp) hinv
    refine ⟨final, ?_, hinv⟩
    rw [foldlM_append, hmiddle]
    simp [hfinal]

lemma foldl_history_invariant (inv : List ε → σ → Prop) (hinit : inv [] state)
    (hstep : ∀ events before event, inv events before → inv (events ++ [event]) (next before event))
    (events : List ε) : inv events (events.foldl next state) := by
  induction events using reverseRecOn with
  | nil => exact hinit
  | append_singleton events event ih =>
    rw [foldl_append]
    exact hstep events _ event ih

/-- Every event of the run meets a condition on the state it is taken in. -/
def Guarded (next : σ → ε → σ) (guard : σ → ε → Prop) : σ → List ε → Prop
  | _, [] => True
  | state, event :: rest => guard state event ∧ Guarded next guard (next state event) rest

instance Guarded.decidable (next : σ → ε → σ) (guard : σ → ε → Prop)
    [∀ state event, Decidable (guard state event)] :
    ∀ (state : σ) (events : List ε), Decidable (Guarded next guard state events)
  | _, [] => inferInstanceAs (Decidable True)
  | state, event :: rest =>
    have := Guarded.decidable next guard (next state event) rest
    inferInstanceAs (Decidable (_ ∧ _))

section

variable {guard : σ → ε → Prop} (inv : σ → Prop)

/-- A property that every guarded step preserves holds at the end of a guarded run. -/
lemma Guarded.invariant
    (hstep : ∀ before event, inv before → guard before event → inv (next before event))
    (hguard : Guarded next guard state events) (hinit : inv state) :
    inv (events.foldl next state) := by
  induction events generalizing state with
  | nil => exact hinit
  | cons event rest ih =>
    exact ih hguard.2 (hstep state event hinit hguard.1)

/-- When a step keeps a property exactly if guarded, it holds throughout a run exactly if the run
is guarded. -/
lemma throughout_iff_guarded {property : σ → Prop}
    (hinv : ∀ before event, inv before → guard before event → inv (next before event))
    (hstep : ∀ before event, inv before → property before → (property (next before event) ↔ guard
      before event)) (events : List ε) (hinit : inv state) (hproperty : property state) :
    (∀ earlier later, events = earlier ++ later → property (earlier.foldl next state)) ↔
      Guarded next guard state events := by
  induction events generalizing state with
  | nil =>
    refine ⟨fun _ => trivial, ?_⟩
    rintro - earlier later h
    obtain ⟨rfl, -⟩ := append_eq_nil_iff.mp h.symm
    exact hproperty
  | cons event rest ih =>
    constructor
    · intro hall
      have hnext : property (next state event) := hall [event] rest rfl
      have hguard := (hstep state event hinit hproperty).mp hnext
      refine ⟨hguard, ?_⟩
      apply (ih (hinv state event hinit hguard) hnext).mp
      intro earlier later h
      exact hall (event :: earlier) later (by rw [h, cons_append])
    · rintro ⟨hguard, hrest⟩ earlier later h
      have hnext := (hstep state event hinit hproperty).mpr hguard
      cases earlier with
      | nil => exact hproperty
      | cons first earlier =>
        rw [cons_append, cons.injEq] at h
        obtain ⟨rfl, h⟩ := h
        exact (ih (hinv state event hinit hguard) hnext).mpr hrest earlier later h

end

/-- The actions of `remaining` rounds from `first` on. A round says whether the loop goes on. -/
def loopActions {α : Type} (round : Nat → List α × Bool) : Nat → Nat → List α
  | 0, _ => []
  | remaining + 1, first =>
    (round first).1 ++ if (round first).2 then loopActions round remaining (first + 1) else []

lemma mem_loopActions_iff {α : Type} (round : Nat → List α × Bool) (action : α)
    (remaining first : Nat) : action ∈ loopActions round remaining first ↔
      ∃ i, first ≤ i ∧ i < first + remaining ∧ action ∈ (round i).1 ∧
        ∀ j, first ≤ j → j < i → (round j).2 := by
  induction remaining generalizing first with
  | zero =>
    refine ⟨by simp [loopActions], ?_⟩
    rintro ⟨i, hge, hlt, -⟩
    omega
  | succ remaining ih =>
    rw [loopActions, mem_append]
    constructor
    · rintro (hfirst | hlater)
      · exact ⟨first, le_rfl, by omega, hfirst, by omega⟩
      split_ifs at hlater with hgoes
      · obtain ⟨i, hge, hlt, haction, hreach⟩ := (ih (first + 1)).mp hlater
        refine ⟨i, by omega, by omega, haction, fun j hfirst hj => ?_⟩
        obtain rfl | hne := eq_or_ne j first
        · exact hgoes
        · exact hreach j (by omega) hj
      · cases hlater
    · rintro ⟨i, hge, hlt, haction, hreach⟩
      obtain rfl | hne := eq_or_ne i first
      · exact .inl haction
      · right
        rw [if_pos (hreach first le_rfl (by omega))]
        exact (ih (first + 1)).mpr ⟨i, by omega, by omega, haction, fun j _ => hreach j (by omega)⟩

section

variable {φ : Type} {faulting : σ → ε → Except φ σ} {guard : σ → ε → Prop}

section

variable {α β : Type} {x : Except φ α} {y : β}

lemma map_eq_ok_iff {f : α → β} : x.map f = .ok y ↔ ∃ value, x = .ok value ∧ f value = y := by
  cases x with
  | error fault | ok value => simp [Except.map]

lemma bind_eq_ok_iff {f : α → Except φ β} :
    x.bind f = .ok y ↔ ∃ value, x = .ok value ∧ f value = .ok y := by
  cases x with
  | error fault | ok value => simp [Except.bind]

end

variable {state final : σ} {events : List ε}

lemma foldlM_cons_eq_ok_iff {event : ε} {rest : List ε} :
    (event :: rest).foldlM faulting state = .ok final ↔
      ∃ next, faulting state event = .ok next ∧ rest.foldlM faulting next = .ok final := by
  exact bind_eq_ok_iff

lemma foldlM_ok_invariant (inv : σ → Prop) (hrun : events.foldlM faulting state = .ok final)
    (hinit : inv state)
    (hstep : ∀ before event after, event ∈ events → inv before → faulting before event = .ok after →
      inv after) : inv final := by
  induction events generalizing state with
  | nil =>
    cases hrun
    exact hinit
  | cons event rest ih =>
    obtain ⟨next, hnext, hrest⟩ := foldlM_cons_eq_ok_iff.mp hrun
    apply ih hrest (hstep state event next mem_cons_self hinit hnext)
    intro before other after hother
    exact hstep before other after (mem_cons_of_mem event hother)

/-- A size that no event lets grow by more than its cost. -/
lemma foldlM_ok_size_le (size : σ → Nat) (cost : ε → Nat)
    (hstep : ∀ before event after, faulting before event = .ok after → size after ≤ size before +
      cost event) (hrun : events.foldlM faulting state = .ok final) :
    size final ≤ size state + (events.map cost).sum := by
  induction events generalizing state with
  | nil =>
    cases hrun
    exact Nat.le_add_right _ _
  | cons event rest ih =>
    obtain ⟨next, hnext, hrest⟩ := foldlM_cons_eq_ok_iff.mp hrun
    have hfirst := hstep state event next hnext
    have hlater := ih hrest
    rw [map_cons, sum_cons]
    omega

/-- What every event achieves, and no later one undoes, holds of all events at the end. -/
lemma foldlM_ok_forall_mem (achieved : ε → σ → Prop)
    (hkept : ∀ event before other after, achieved event before → faulting before other = .ok after →
      achieved event after) (hrun : events.foldlM faulting state = .ok final)
    (hstep : ∀ before event after, event ∈ events → faulting before event = .ok after → achieved
      event after) : ∀ event ∈ events, achieved event final := by
  induction events generalizing state with
  | nil => exact nofun
  | cons event rest ih =>
    obtain ⟨next, hnext, hrest⟩ := foldlM_cons_eq_ok_iff.mp hrun
    refine forall_mem_cons.mpr ⟨?_, ?_⟩
    · exact foldlM_ok_invariant (achieved event) hrest (hstep state event next mem_cons_self hnext)
        fun before other after _ hbefore => hkept event before other after hbefore
    · apply ih hrest
      intro before other after hother
      exact hstep before other after (mem_cons_of_mem event hother)

/-- The same when an event needs its key to be vacant, and takes no other one. -/
lemma foldlM_ok_forall_mem_of_vacant {κ : Type} (key : ε → κ) (vacant : κ → σ → Prop)
    (achieved : ε → σ → Prop)
    (hkept : ∀ event before other after, achieved event before → faulting before other = .ok after →
      achieved event after)
    (hothers : ∀ place before event after, place ≠ key event → vacant place before → faulting before
      event = .ok after → vacant place after)
    (hstep : ∀ before event after, vacant (key event) before → faulting before event = .ok after →
      achieved event after) (hdistinct : (events.map key).Nodup)
    (hvacant : ∀ event ∈ events, vacant (key event) state)
    (hrun : events.foldlM faulting state = .ok final) : ∀ event ∈ events, achieved event final := by
  induction events generalizing state with
  | nil => exact nofun
  | cons event rest ih =>
    obtain ⟨next, hnext, hrest⟩ := foldlM_cons_eq_ok_iff.mp hrun
    rw [map_cons, nodup_cons] at hdistinct
    refine forall_mem_cons.mpr ⟨?_, ?_⟩
    · exact foldlM_ok_invariant (achieved event) hrest
        (hstep state event next (hvacant event mem_cons_self) hnext)
        fun before other after _ hbefore => hkept event before other after hbefore
    apply ih hdistinct.2 _ hrest
    intro other hother
    have hne : key other ≠ key event := by
      intro heq
      exact hdistinct.1 (heq ▸ mem_map_of_mem hother)
    exact hothers (key other) state event next hne
      (hvacant other (mem_cons_of_mem event hother)) hnext

/-- Every event of a run whose steps may fault meets a condition on the state it is
taken in. -/
def GuardedRun (faulting : σ → ε → Except φ σ) (guard : σ → ε → Prop) : σ → List ε → Prop
  | _, [] => True
  | state, event :: rest =>
    guard state event ∧
      ∀ after, faulting state event = .ok after → GuardedRun faulting guard after rest

instance GuardedRun.decidable (faulting : σ → ε → Except φ σ) (guard : σ → ε → Prop)
    [∀ state event, Decidable (guard state event)] :
    ∀ (state : σ) (events : List ε), Decidable (GuardedRun faulting guard state events)
  | _, [] => inferInstanceAs (Decidable True)
  | state, event :: rest =>
    match hstep : faulting state event with
    | .error _ =>
      decidable_of_iff (guard state event) <| by
        rw [GuardedRun, hstep]
        simp
    | .ok next =>
      have := GuardedRun.decidable faulting guard next rest
      decidable_of_iff (guard state event ∧ GuardedRun faulting guard next rest) <| by
        rw [GuardedRun, hstep]
        simp

variable (inv : σ → Prop)
  (hstep : ∀ before event after, inv before → guard before event → faulting before event = .ok after
    → inv after)

include hstep

lemma GuardedRun.invariant (hguard : GuardedRun faulting guard state events)
    (hrun : events.foldlM faulting state = .ok final) (hinit : inv state) : inv final := by
  induction events generalizing state with
  | nil =>
    cases hrun
    exact hinit
  | cons event rest ih =>
    obtain ⟨next, hnext, hrest⟩ := foldlM_cons_eq_ok_iff.mp hrun
    exact ih (hguard.2 next hnext) hrest (hstep state event next hinit hguard.1 hnext)

/-- A fault that no guarded step has from a state with the invariant is the fault of no
guarded run. -/
lemma GuardedRun.ne_error {fault : φ}
    (hfault : ∀ before event, inv before → guard before event → faulting before event ≠ .error
      fault) (hguarded : GuardedRun faulting guard state events) (hinit : inv state) :
    events.foldlM faulting state ≠ .error fault := by
  induction events generalizing state with
  | nil => exact nofun
  | cons event rest ih =>
    obtain ⟨hguard, hrest⟩ := hguarded
    rw [foldlM_cons]
    cases hnext : faulting state event with
    | error other =>
      intro hrun
      apply hfault state event hinit hguard
      rw [hnext]
      exact hrun
    | ok next => exact ih (hrest next hnext) (hstep state event next hinit hguard hnext)

end

end ProtoRu
