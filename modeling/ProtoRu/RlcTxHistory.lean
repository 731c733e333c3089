import ProtoRu.RlcTxWindowInvariant

/-!
What a transmitter sends, by counts of SDUs. Every SDU that leaves the queue is given a
count, and every data PDU is a segment of an SDU with its count. A count can be given
twice: when the SDU under segmentation is acknowledged, the next one takes its place.
-/

namespace ProtoRu.Rlc

open Nat Option List TxEntity
open WindowView (add advance setSent)

structure TxHistory (cfg : TxConfig) where
  entity : TxEntity cfg := {}
  nofAcked : Nat := 0
  nofSent : Nat := 0

namespace TxHistory

variable {cfg : TxConfig} (history : TxHistory cfg)

def countOf (sn : Nat) : Nat :=
  history.nofSent - unsignedOffset cfg.mod sn history.entity.txNext

def follow (entity : TxEntity cfg) : TxHistory cfg where
  entity
  nofAcked := history.nofAcked + unsignedOffset cfg.mod history.entity.txNextAck entity.txNextAck
  nofSent := history.nofSent + unsignedOffset cfg.mod history.entity.txNext entity.txNext

def step (event : Event) : Option (TxHistory cfg) :=
  (history.entity.step event).map history.follow

def taken (grant : Nat) (required : Option StatusPdu) : List (Nat × Bytes) :=
  (takenSdu history.entity grant required).toList.map fun sdu => (history.nofSent, sdu)

def dataPdu (grant : Nat) (required : Option StatusPdu) : Option (Nat × Bytes) :=
  match (history.entity.pullPdu grant required).2 with
  | .dataPdu _ header payload =>
    some (history.countOf header.sn, writeDataPduHeader cfg.snFieldLength header ++ payload)
  | _ => none

end TxHistory

variable {cfg : TxConfig}

/-- The SDUs taken from the queue under their counts, which are unique from TX_Next_Ack on. -/
structure Taken (cfg : TxConfig) (window : WindowView) (acked next : Nat)
    (taken : List (Nat × Bytes)) : Prop where
  tracks : Tracks cfg window acked next
  unfinished : Unfinished window
  segmented : window.segmented.isSome → acked ≤ next → (window.held window.txNext).isSome
  held : ∀ sn sdu sent, window.held sn = some (sdu, sent) →
    ∃ x, x ≤ next ∧ next ≤ x + cfg.amWindowSize ∧ sn = x % cfg.mod ∧ (x, sdu) ∈ taken
  used : ∀ x sdu, (x, sdu) ∈ taken → x < next ∨ x = next ∧ (window.segmented.isSome ∨ next < acked)
  unique : ∀ x sdu sdu', acked ≤ x → (x, sdu) ∈ taken → (x, sdu') ∈ taken → sdu = sdu'

lemma taken_init (cfg : TxConfig) : Taken cfg (view ({} : TxEntity cfg)) 0 0 [] := by
  refine ⟨tracks_init cfg, ?_, ?_, ?_, ?_, ?_⟩
  · rintro sn ⟨⟩
  · rintro ⟨⟩
  · rintro sn sdu sent ⟨⟩
  · rintro x sdu ⟨⟩
  · rintro x sdu sdu' - ⟨⟩

variable {sdu : Bytes} {sn sent length : Nat}

section

variable {window : WindowView} {acked next : Nat} {taken : List (Nat × Bytes)}

namespace Taken

section

variable (htaken : Taken cfg window acked next taken)

include htaken

lemma fresh (hidle : Idle window) (hacked : acked ≤ next) (sdu : Bytes) :
    (next, sdu) ∉ taken := by
  intro hmem
  obtain hlt | ⟨-, hseg | hlt⟩ := htaken.used next sdu hmem
  · omega
  · have hheld := htaken.segmented hseg hacked
    obtain hnone | hsome := htaken.tracks.segmented
    · rw [hnone] at hseg
      cases hseg
    · rw [hidle _ hsome] at hheld
      cases hheld
  · omega

lemma drop (hidle : Idle window) : Taken cfg (window.segment none) acked next taken where
  tracks := tracks_segment htaken.tracks (.inl rfl)
  unfinished := by simp [Unfinished, WindowView.segment]
  segmented := by rintro ⟨⟩
  held := htaken.held
  used := by
    intro x sdu hmem
    obtain hlt | ⟨rfl, -⟩ := htaken.used x sdu hmem
    · exact .inl hlt
    · obtain hlt | hge := Nat.lt_or_ge x acked
      · exact .inr ⟨rfl, .inr hlt⟩
      · exact absurd hmem (htaken.fresh hidle hge sdu)
  unique := htaken.unique

lemma held_add (sdu : Bytes) (length : Nat) {sn sent : Nat} {other : Bytes}
    (hheld : (window.add cfg sdu length).held sn = some (other, sent)) :
    ∃ x, x ≤ next ∧ next + 1 ≤ x + cfg.amWindowSize ∧ sn = x % cfg.mod ∧
      (x, other) ∈ taken ++ [(next, sdu)] := by
  have hsize := amWindowSize_gt cfg
  simp only [add] at hheld
  split at hheld
  · rename_i hsn
    cases hheld
    exact ⟨next, Nat.le_refl next, by omega, hsn.trans htaken.tracks.txNext_eq, by simp⟩
  split at hheld
  · cases hheld
  rename_i hslot
  obtain ⟨x, hle, hge, rfl, hmem⟩ := htaken.held sn other sent hheld
  refine ⟨x, hle, ?_, rfl, mem_append_left _ hmem⟩
  rw [htaken.tracks.txNext_eq, mod_mod_amWindowSize, mod_mod_amWindowSize] at hslot
  have hne : next ≠ x + cfg.amWindowSize := by
    rintro rfl
    exact hslot (Nat.add_mod_right x _).symm
  omega

lemma unique_add (hidle : Idle window) (sdu : Bytes) (x : Nat) (first second : Bytes)
    (hx : acked ≤ x) (hfirst : (x, first) ∈ taken ++ [(next, sdu)])
    (hsecond : (x, second) ∈ taken ++ [(next, sdu)]) : first = second := by
  simp only [mem_append, mem_singleton, Prod.mk.injEq] at hfirst hsecond
  obtain hfirst | ⟨rfl, rfl⟩ := hfirst
  · obtain hsecond | ⟨rfl, rfl⟩ := hsecond
    · exact htaken.unique x first second hx hfirst hsecond
    · exact absurd hfirst (htaken.fresh hidle hx first)
  · obtain hsecond | ⟨-, rfl⟩ := hsecond
    · exact absurd hsecond (htaken.fresh hidle hx second)
    · rfl

section

variable (hidle : Idle window) (hroom : next < acked + cfg.amWindowSize)

include hidle hroom

lemma fullSdu (sdu : Bytes) :
    Taken cfg (((window.segment none).add cfg sdu 0).advance cfg) acked (next + 1)
      (taken ++ [(next, sdu)]) where
  tracks := tracks_advance (tracks_add (tracks_segment htaken.tracks (.inl rfl)) hroom _ _) hroom
    (by simp [add]) rfl
  unfinished := by simp [Unfinished, WindowView.segment, add, advance]
  segmented := by rintro ⟨⟩
  held := by
    intro sn other sent hheld
    obtain ⟨x, hle, hge, hsn, hmem⟩ := (htaken.drop hidle).held_add sdu 0 hheld
    exact ⟨x, by omega, hge, hsn, hmem⟩
  used := by
    intro x other hmem
    simp only [mem_append, mem_singleton, Prod.mk.injEq] at hmem
    obtain hmem | ⟨rfl, -⟩ := hmem
    · have hused := htaken.used x other hmem
      exact .inl (by omega)
    · exact .inl (lt_succ_self x)
  unique := htaken.unique_add hidle sdu

lemma firstSegment {length : Nat} (hpos : 0 < length) (hlt : length < sdu.length) :
    Taken cfg ((window.segment (some window.txNext)).add cfg sdu length) acked next
      (taken ++ [(next, sdu)]) where
  tracks := tracks_add (tracks_segment htaken.tracks (.inr rfl)) hroom _ _
  unfinished := by
    rintro sn ⟨⟩ other sent hheld
    obtain ⟨rfl, rfl⟩ : _ ∧ _ := by simpa [WindowView.segment, add] using hheld
    exact ⟨hpos, hlt⟩
  segmented := by
    intro _ _
    simp [add]
  held := by
    intro sn other sent hheld
    obtain ⟨x, hle, hge, hsn, hmem⟩ := (htaken.drop hidle).held_add sdu length hheld
    exact ⟨x, hle, by omega, hsn, hmem⟩
  used := by
    intro x other hmem
    have hseg : ((window.segment (some window.txNext)).add cfg sdu length).segmented.isSome :=
      rfl
    simp only [mem_append, mem_singleton, Prod.mk.injEq] at hmem
    obtain hmem | ⟨rfl, -⟩ := hmem
    · obtain hbelow | ⟨rfl, -⟩ := htaken.used x other hmem
      · exact .inl hbelow
      · exact .inr ⟨rfl, .inl hseg⟩
    · exact .inr ⟨rfl, .inl hseg⟩
  unique := htaken.unique_add hidle sdu

end

lemma middleSegment (hseg : window.segmented = some sn)
    (hheld : window.held sn = some (sdu, sent)) (hlt : sent + length < sdu.length) :
    Taken cfg (window.setSent sn sdu (sent + length)) acked next taken where
  tracks := tracks_setSent htaken.tracks _ _ _
  unfinished := by
    intro sn' hsn' other sent' hheld'
    obtain rfl := some.inj (hseg.symm.trans hsn')
    obtain ⟨rfl, rfl⟩ : _ ∧ _ := by simpa [setSent] using hheld'
    have hsent := (htaken.unfinished sn hseg _ _ hheld).1
    exact ⟨by omega, hlt⟩
  segmented := fun hsome hacked =>
    isSome_held_setSent _ _ _ _ _ (htaken.segmented hsome hacked)
  held := by
    intro other sdu' sent' hheld'
    obtain rfl | hne := eq_or_ne other sn
    · obtain ⟨rfl, -⟩ : _ ∧ _ := by simpa [setSent] using hheld'
      exact htaken.held other sdu sent hheld
    · exact htaken.held other sdu' sent' (by simpa [setSent, hne] using hheld')
  used := htaken.used
  unique := htaken.unique

lemma acknowledge {k : Nat} (hk : acked + k ≤ next + 1) :
    Taken cfg (acknowledge cfg window acked k) (acked + k) next taken where
  tracks := htaken.tracks.acknowledge hk
  unfinished := by
    intro sn hsn sdu sent hheld
    simp only [Rlc.acknowledge] at hheld
    split at hheld
    · cases hheld
    · exact htaken.unfinished sn hsn sdu sent hheld
  segmented := by
    intro hsome hacked
    have hmod := mod_eq cfg
    have hnext := htaken.tracks.next_le
    have hkept : ¬∃ i < k, window.txNext = (acked + i) % cfg.mod := by
      rintro ⟨i, hi, heq⟩
      rw [htaken.tracks.txNext_eq, @mod_eq_mod_iff cfg acked] at heq <;> omega
    simp only [Rlc.acknowledge, hkept, if_false]
    exact htaken.segmented hsome (by omega)
  held := by
    intro sn sdu sent hheld
    simp only [Rlc.acknowledge] at hheld
    split at hheld
    · cases hheld
    · exact htaken.held sn sdu sent hheld
  used := by
    intro x sdu hmem
    obtain hlt | ⟨rfl, hseg | hlt⟩ := htaken.used x sdu hmem
    · exact .inl hlt
    · exact .inr ⟨rfl, .inl hseg⟩
    · exact .inr ⟨rfl, .inr (by omega)⟩
  unique := fun x sdu sdu' _ => htaken.unique x sdu sdu' (by omega)

end

end Taken

end

structure Carries (cfg : TxConfig) (taken : List (Nat × Bytes)) (x : Nat)
    (header : PduHeader) (payload : Bytes) : Prop where
  sn_eq : header.sn = x % cfg.mod
  segment : ∃ sdu so, (x, sdu) ∈ taken ∧ IsSegment sdu so header payload

section

variable {entity : TxEntity cfg} {acked next : Nat} {taken : List (Nat × Bytes)}

section

variable (htaken : Taken cfg (view entity) acked next taken)

include htaken

lemma Taken.lt_window {x : Nat} (hle : x ≤ next)
    (hheld : ((view entity).held (x % cfg.mod)).isSome) : x < acked + cfg.amWindowSize := by
  have hnext := htaken.tracks.next_le
  obtain hlt | hge := Nat.lt_or_ge x next
  · omega
  · obtain rfl : x = next := by omega
    rw [← htaken.tracks.txNext_eq, isSome_held] at hheld
    exact next_lt_of_contains htaken.tracks hheld

lemma Taken.lastSegment (hseg : (view entity).segmented = some sn)
    (hheld : (view entity).held sn = some (sdu, sent)) :
    Taken cfg ((((view entity).segment none).setSent sn sdu length).advance cfg) acked (next + 1)
      taken where
  tracks := tracks_lastSegment htaken.tracks hseg (isSome_of_eq_some hheld) _ _
  unfinished := by simp [Unfinished, WindowView.segment, setSent, advance]
  segmented := by rintro ⟨⟩
  held := by
    have hsn : sn = next % cfg.mod := by
      obtain hnone | hsome := htaken.tracks.segmented
      · rw [hnone] at hseg
        cases hseg
      · rw [some.inj (hseg.symm.trans hsome), htaken.tracks.txNext_eq]
    have hsize := amWindowSize_gt cfg
    have hmod := mod_eq cfg
    intro other sdu' sent' hheld'
    obtain ⟨sent₀, hheld₀⟩ : ∃ sent₀, (view entity).held other = some (sdu', sent₀) := by
      obtain rfl | hne := eq_or_ne other sn
      · obtain ⟨rfl, -⟩ : _ ∧ _ := by
          simpa [setSent, advance] using hheld'
        exact ⟨sent, hheld⟩
      · refine ⟨sent', ?_⟩
        simpa [setSent, advance, WindowView.segment, hne] using hheld'
    obtain ⟨x, hle, hge, rfl, hmem⟩ := htaken.held other sdu' sent₀ hheld₀
    refine ⟨x, by omega, ?_, rfl, hmem⟩
    by_contra hfar
    have hnext : next = x + cfg.amWindowSize := by omega
    have hslot : x % cfg.mod % cfg.amWindowSize = sn % cfg.amWindowSize := by
      rw [hsn, mod_mod_amWindowSize, mod_mod_amWindowSize, hnext, add_mod_right]
    have hcont : entity.txWindow.contains (x % cfg.mod) ∧ entity.txWindow.contains sn := by
      rw [← isSome_held, ← isSome_held, hheld₀, hheld]
      exact ⟨rfl, rfl⟩
    have hsame := CircularMap.eq_of_contains _ hcont.1 hcont.2 hslot
    rw [hsn, @mod_eq_mod_iff cfg x] at hsame <;> omega
  used := by
    intro x other hmem
    have hused := htaken.used x other hmem
    exact .inl (by omega)
  unique := htaken.unique

/-- What is taken gets the count of TX_Next, and a data PDU carries a segment of what was taken.
-/
lemma taken_of_move {new : Option Bytes} {after : WindowView} {pulled : Pulled}
    (hmove : PullMove cfg entity.isTxWindowFull (view entity) new after pulled)
    (hpos : ∀ sdu ∈ new, sdu ≠ []) : ∃ next', next ≤ next' ∧ next' ≤ next + 1 ∧
      Taken cfg after acked next' (taken ++ new.toList.map fun sdu => (next, sdu)) ∧
      ∀ isRetx header payload, pulled = .dataPdu isRetx header payload →
        ∃ x, x ≤ next ∧ next ≤ x + cfg.amWindowSize ∧ x < acked + cfg.amWindowSize ∧
          Carries cfg (taken ++ new.toList.map fun sdu => (next, sdu)) x header payload := by
  have hheldPdu {header : PduHeader} {payload sdu : Bytes} {sent so : Nat}
      (hheld : (view entity).held header.sn = some (sdu, sent))
      (hsegm : IsSegment sdu so header payload) :
      ∃ x, x ≤ next ∧ next ≤ x + cfg.amWindowSize ∧ x < acked + cfg.amWindowSize ∧
        Carries cfg taken x header payload := by
    obtain ⟨x, hle, hge, hsn, hmem⟩ := htaken.held header.sn sdu sent hheld
    refine ⟨x, hle, hge, ?_, hsn, sdu, so, hmem, hsegm⟩
    apply htaken.lt_window hle
    rw [← hsn]
    exact isSome_of_eq_some hheld
  have hunder {sn : Nat} (hseg : (view entity).segmented = some sn) :
      (view entity).txNext = sn := by
    obtain hnone | hsome := htaken.tracks.segmented
    · rw [hnone] at hseg
      cases hseg
    · exact some.inj (hsome.symm.trans hseg)
  cases hmove with
  | keep pulled hnodata =>
    refine ⟨next, le_rfl, le_succ _, by simpa using htaken, ?_⟩
    intro isRetx header payload heq
    exact absurd heq (hnodata isRetx header payload)
  | retx hheld hsegm =>
    refine ⟨next, le_rfl, le_succ _, by simpa using htaken, ?_⟩
    rintro isRetx header payload ⟨⟩
    simpa using hheldPdu hheld hsegm
  | drop hidle =>
    refine ⟨next, le_rfl, le_succ _, by simpa using htaken.drop hidle, ?_⟩
    rintro isRetx header payload ⟨⟩
  | finished hseg hheld hdone =>
    have hunfin := htaken.unfinished _ hseg _ _ hheld
    omega
  | fullSdu hidle hfull hsn hsegm =>
    have hroom := next_lt_of_not_full htaken.tracks hfull
    refine ⟨next + 1, le_succ _, le_rfl, htaken.fullSdu hidle hroom _, ?_⟩
    rintro isRetx header payload ⟨⟩
    exact ⟨next, le_rfl, le_add_right _ _, hroom, hsn.trans htaken.tracks.txNext_eq,
      _, 0, by simp, hsegm⟩
  | emptySdu => exact absurd rfl (hpos [] rfl)
  | firstSegment hidle hfull hsn hlt hsegm =>
    have hroom := next_lt_of_not_full htaken.tracks hfull
    refine ⟨next, le_rfl, le_succ _, htaken.firstSegment hidle hroom hsegm.pos hlt, ?_⟩
    rintro isRetx header payload ⟨⟩
    exact ⟨next, le_rfl, le_add_right _ _, hroom, hsn.trans htaken.tracks.txNext_eq,
      _, 0, by simp, hsegm⟩
  | middleSegment hseg hheld hsent hsn hlt hsegm =>
    refine ⟨next, le_rfl, le_succ _, by simpa using htaken.middleSegment hseg hheld hlt, ?_⟩
    rintro isRetx header payload ⟨⟩
    rw [← hunder hseg, ← hsn] at hheld
    simpa using hheldPdu hheld hsegm
  | lastSegment hseg hheld hsent hsn heq hsegm =>
    refine ⟨next + 1, le_succ _, le_rfl, by simpa using htaken.lastSegment hseg hheld, ?_⟩
    rintro isRetx header payload ⟨⟩
    rw [← hunder hseg, ← hsn] at hheld
    simpa using hheldPdu hheld hsegm

end

end

end ProtoRu.Rlc
