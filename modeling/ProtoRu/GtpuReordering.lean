import Mathlib.Data.List.Pairwise
import ProtoRu.CircularMaps
import ProtoRu.TransitionRuns

/-!
The receiving side of a GTP-U tunnel at the NG-U interface. PDUs with a sequence number are
put in order within a window of half of the sequence numbers, and t-Reordering gives up on
missing ones. The timer is stopped when RX_REORD leaves the window, which RX_REORD = RX_DELIV
does not do.
-/

namespace ProtoRu.Gtpu

open UInt16 List

def gtpuRxWindowSize : Nat := 32768

instance : NeZero gtpuRxWindowSize := ⟨by decide⟩

structure RxSduInfo (α : Type) where
  sdu : α
  qosFlowId : Nat
  sn : Option UInt16

structure RxConfig where
  tReordering : Nat
  ignoreUeAmbr : Bool

/-- A dissected PDU, the verdict of the UE-AMBR limiter and the QoS flows of its containers. -/
structure Pdu (α : Type) where
  withinAmbr : Bool
  testMode : Bool
  sessionInfos : List (Option Nat)
  seqNumber : Option UInt16
  sdu : α

/-- An SDU handed down: straight away, or from the window with the count of its RX_DELIV. -/
inductive Delivery (α : Type) where
  | straight (info : RxSduInfo α)
  | ordered (number : Nat) (info : RxSduInfo α)

open Delivery

def Delivery.number? {α : Type} : Delivery α → Option Nat
  | .straight _ => none
  | .ordered number _ => some number

/-- The state variables have a value once a number came in. `number` is RX_DELIV without the wrap.
-/
structure Tunnel (α : Type) where
  initialised : Bool := false
  rxNext : UInt16 := 0
  rxDeliv : UInt16 := 0
  rxReord : UInt16 := 0
  rxWindow : CircularMap gtpuRxWindowSize (RxSduInfo α) := .empty _ _
  reorderingRunning : Bool := false
  number : Nat := 0
  delivered : List (Delivery α) := []

namespace Tunnel

variable {α : Type} (cfg : RxConfig) (t : Tunnel α)

def rxModBase (sn : UInt16) : UInt16 := sn - t.rxDeliv

def insideRxWindow (sn : UInt16) : Bool := (t.rxModBase sn).toNat < gtpuRxWindowSize

def hasSn (sn : UInt16) : Bool := t.rxWindow.contains sn.toNat

def initialise (sn : UInt16) : Tunnel α :=
  if t.initialised then t
  else
    { t with
      initialised := true
      rxNext := sn
      rxDeliv := sn
      rxReord := sn
      number := sn.toNat }

def deliverStraight (info : RxSduInfo α) : Tunnel α :=
  { t with delivered := t.delivered ++ [.straight info] }

def deliverSdu (info : RxSduInfo α) : Tunnel α :=
  { t with
    delivered := t.delivered ++ [.ordered t.number info]
    rxWindow := t.rxWindow.erase t.rxDeliv.toNat }

def advance : Tunnel α := { t with rxDeliv := t.rxDeliv + 1, number := t.number + 1 }

/-- As many rounds as there are sequence numbers up to RX_NEXT. -/
def consecutiveSdus : Nat → Tunnel α → Tunnel α
  | 0, t => t
  | rounds + 1, t =>
    match t.rxWindow.get? t.rxDeliv.toNat with
    | none => t
    | some info => consecutiveSdus rounds (t.deliverSdu info).advance

def deliverAllConsecutiveSdus : Tunnel α :=
  if t.initialised then consecutiveSdus (t.rxModBase t.rxNext).toNat t else t

/-- As many rounds as there are sequence numbers up to RX_REORD. -/
def passSns : Nat → Tunnel α → Tunnel α
  | 0, t => t
  | rounds + 1, t =>
    passSns rounds ((t.rxWindow.get? t.rxDeliv.toNat).elim t t.deliverSdu).advance

def restartReordering : Tunnel α :=
  if t.rxModBase t.rxDeliv < t.rxModBase t.rxNext then
    if cfg.tReordering = 0 then t else { t with rxReord := t.rxNext, reorderingRunning := true }
  else t

def handleTReorderingExpire : Tunnel α :=
  if !t.initialised then t
  else if t.reorderingRunning then t
  else if !t.insideRxWindow t.rxReord then t
  else
    (passSns (t.rxModBase t.rxReord).toNat t).deliverAllConsecutiveSdus.restartReordering cfg

def addSn (sn : UInt16) (info : RxSduInfo α) : Tunnel α :=
  { t with rxWindow := t.rxWindow.overwrite sn.toNat info }

def updateRxNext (sn : UInt16) : Tunnel α :=
  if t.rxModBase t.rxNext ≤ t.rxModBase sn then { t with rxNext := sn + 1 } else t

def deliverIfNext (sn : UInt16) : Tunnel α :=
  if t.rxModBase sn = t.rxModBase t.rxDeliv then t.deliverAllConsecutiveSdus else t

def stopReordering : Tunnel α :=
  if t.reorderingRunning && !t.insideRxWindow t.rxReord then { t with reorderingRunning := false }
  else t

def startReordering : Tunnel α :=
  if cfg.tReordering = 0 then
    ({ t with rxReord := t.rxNext } : Tunnel α).handleTReorderingExpire cfg
  else if !t.reorderingRunning && t.rxModBase t.rxDeliv < t.rxModBase t.rxNext then
    { t with rxReord := t.rxNext, reorderingRunning := true }
  else t

def handleSn (sn : UInt16) (info : RxSduInfo α) : Tunnel α :=
  if !t.insideRxWindow sn then t.deliverStraight info
  else if t.rxModBase sn < t.rxModBase t.rxDeliv then t.deliverStraight info
  else if t.hasSn sn then t
  else
    (((t.addSn sn info).updateRxNext sn).deliverIfNext sn).stopReordering.startReordering cfg

def handlePdu (pdu : Pdu α) : Tunnel α :=
  if !cfg.ignoreUeAmbr && !pdu.withinAmbr then t
  else if pdu.testMode then t.deliverStraight ⟨pdu.sdu, 1, none⟩
  else
    match pdu.sessionInfos.findSome? id with
    | none => t
    | some qosFlowId =>
      match pdu.seqNumber with
      | none => t.deliverStraight ⟨pdu.sdu, qosFlowId, none⟩
      | some sn =>
        if cfg.tReordering = 0 then t.deliverStraight ⟨pdu.sdu, qosFlowId, none⟩
        else (t.initialise sn).handleSn cfg sn ⟨pdu.sdu, qosFlowId, some sn⟩

end Tunnel

inductive Event (α : Type) where
  | pdu (pdu : Pdu α)
  | tReorderingExpired

def next {α : Type} (cfg : RxConfig) (t : Tunnel α) : Event α → Tunnel α
  | .pdu pdu => t.handlePdu cfg pdu
  | .tReorderingExpired =>
    if t.reorderingRunning then
      ({ t with reorderingRunning := false } : Tunnel α).handleTReorderingExpire cfg
    else t

namespace Tunnel

variable {α : Type} (t : Tunnel α)

/-- The timer runs while RX_DELIV waits, for an RX_REORD above it, and what the window
delivers goes up. -/
structure Reorders : Prop where
  running_iff : t.reorderingRunning ↔ t.rxDeliv ≠ t.rxNext
  reord_pos : t.reorderingRunning → 0 < t.rxModBase t.rxReord
  reord_le : t.reorderingRunning → t.rxModBase t.rxReord ≤ t.rxModBase t.rxNext
  ascending : (t.delivered.filterMap number?).Pairwise (· < ·)
  numbered : ∀ number info, .ordered number info ∈ t.delivered →
    info.sn = some (UInt16.ofNat number)

/-- Everything between RX_DELIV and RX_REORD is there, and RX_REORD itself is not. -/
def MissesOnlyRxDeliv : Prop :=
  (∀ i < (t.rxModBase t.rxReord).toNat, 0 < i → t.hasSn (t.rxDeliv + UInt16.ofNat i)) ∧
    t.hasSn t.rxReord = false

end Tunnel

/-- The PDU is not dropped and its sequence number is looked at. -/
def Pdu.Sequenced {α : Type} (cfg : RxConfig) (pdu : Pdu α) : Prop :=
  (cfg.ignoreUeAmbr || pdu.withinAmbr) ∧ pdu.testMode = false ∧
    (pdu.sessionInfos.findSome? id).isSome ∧ cfg.tReordering ≠ 0

/-- No PDU fills the last gap below RX_REORD only, and no expiry finds RX_REORD at the window's
end. -/
def KeepsTime {α : Type} (cfg : RxConfig) (t : Tunnel α) : Event α → Prop
  | .pdu pdu =>
    pdu.Sequenced cfg → pdu.seqNumber = some t.rxDeliv → t.reorderingRunning → ¬ t.MissesOnlyRxDeliv
  | .tReorderingExpired => t.reorderingRunning → t.insideRxWindow t.rxReord

section

variable {base sn other : UInt16} {n : Nat}

lemma distance_inj : (sn - base).toNat = (other - base).toNat ↔ sn = other := by
  rw [UInt16.toNat_inj]
  grind

lemma distance_self : (base - base).toNat = 0 := by
  rw [UInt16.sub_self, UInt16.toNat_zero]

lemma distance_eq_zero_iff : (sn - base).toNat = 0 ↔ sn = base := by
  rw [← @distance_self base, distance_inj]

lemma add_ofNat_zero : base + UInt16.ofNat 0 = base := UInt16.add_zero base

lemma distance_succ (h : (sn - base).toNat < 65535) :
    (sn + 1 - base).toNat = (sn - base).toNat + 1 := by
  have hbase := toNat_lt base
  rw [UInt16.toNat_sub] at h
  rw [UInt16.toNat_sub, UInt16.toNat_sub, UInt16.toNat_add, UInt16.toNat_one]
  omega

lemma distance_add (h : n < 65536) : (base + UInt16.ofNat n - base).toNat = n := by
  have hcancel : base + ofNat n - base = ofNat n := by grind
  rw [hcancel]
  exact toNat_ofNat_of_lt' h

lemma distance_advance (h : n ≤ (sn - base).toNat) :
    (sn - (base + UInt16.ofNat n)).toNat = (sn - base).toNat - n := by
  have hlt := toNat_lt (sn - base)
  have hn : (ofNat n).toNat = n := toNat_ofNat_of_lt' (h.trans_lt hlt)
  have hsub : sn - (base + ofNat n) = (sn - base) - ofNat n := by grind
  rw [hsub, UInt16.toNat_sub_of_le _ _ (UInt16.le_iff_toNat_le.mpr (hn.symm ▸ h)), hn]

lemma distance_passed (h : (sn - base).toNat < n) (hn : n ≤ 32768) :
    32768 ≤ (sn - (base + UInt16.ofNat n)).toNat := by
  have hofNat : (ofNat n).toNat = n :=
    toNat_ofNat_of_lt' (hn.trans_lt (by decide))
  have hsub : sn - (base + UInt16.ofNat n) = (sn - base) - UInt16.ofNat n := by grind
  rw [hsub, UInt16.toNat_sub, hofNat]
  omega

lemma eq_of_slot_eq (hsn : (sn - base).toNat < 32768) (hother : (other - base).toNat < 32768)
    (hslot : sn.toNat % 32768 = other.toNat % 32768) : sn = other := by
  have hltSn := toNat_lt sn
  have hltOther := toNat_lt other
  rw [UInt16.toNat_sub] at hsn hother
  rw [← UInt16.toNat_inj]
  omega

end

variable {α : Type} {t : Tunnel α}

structure InWindow (t : Tunnel α) : Prop where
  next_le : (t.rxNext - t.rxDeliv).toNat ≤ gtpuRxWindowSize
  inside : ∀ key info, t.rxWindow.get? key = some info → ∃ sn : UInt16,
    sn.toNat = key ∧ info.sn = some sn ∧ (sn - t.rxDeliv).toNat < (t.rxNext - t.rxDeliv).toNat
  counted : t.rxDeliv = UInt16.ofNat t.number
  ascending : (t.delivered.filterMap number?).Pairwise (· < ·)
  numbered : ∀ number info, .ordered number info ∈ t.delivered →
    info.sn = some (UInt16.ofNat number)
  delivered_lt : ∀ number ∈ t.delivered.filterMap number?, number < t.number

structure Advanced (n : Nat) (before after : Tunnel α) : Prop where
  rxDeliv : after.rxDeliv = before.rxDeliv + UInt16.ofNat n
  rxNext : after.rxNext = before.rxNext
  rxReord : after.rxReord = before.rxReord
  running : after.reorderingRunning = before.reorderingRunning
  initialised : after.initialised = before.initialised

lemma Advanced.refl (t : Tunnel α) : Advanced 0 t t :=
  ⟨(UInt16.add_zero t.rxDeliv).symm, rfl, rfl, rfl, rfl⟩

lemma Advanced.trans {n m : Nat} {before middle after : Tunnel α} (h : Advanced n before middle)
    (h' : Advanced m middle after) : Advanced (n + m) before after where
  rxDeliv := by rw [h'.rxDeliv, h.rxDeliv, UInt16.ofNat_add, UInt16.add_assoc]
  rxNext := h'.rxNext.trans h.rxNext
  rxReord := h'.rxReord.trans h.rxReord
  running := h'.running.trans h.running
  initialised := h'.initialised.trans h.initialised

lemma InWindow.lt_of_hasSn (h : InWindow t) {sn : UInt16} (hsn : t.hasSn sn) :
    (sn - t.rxDeliv).toNat < (t.rxNext - t.rxDeliv).toNat := by
  obtain ⟨info, hinfo⟩ := t.rxWindow.contains_iff.mp hsn
  obtain ⟨stored, hstored, -, hlt⟩ := h.inside _ info hinfo
  rwa [← UInt16.toNat_inj.mp hstored]

lemma InWindow.of_timer (h : InWindow t) (reord : UInt16) (running : Bool) :
    InWindow { t with rxReord := reord, reorderingRunning := running } :=
  ⟨h.next_le, h.inside, h.counted, h.ascending, h.numbered, h.delivered_lt⟩

open Tunnel

lemma hasSn_of_get?_eq_none {sn : UInt16} (h : t.rxWindow.get? sn.toNat = none) :
    t.hasSn sn = false := by
  rw [hasSn, CircularMap.contains, h]
  rfl

section

lemma InWindow.advance {gone : Tunnel α} (h : InWindow t) (hne : t.rxNext ≠ t.rxDeliv)
    (hsame : Advanced 0 t gone) (hnumber : gone.number = t.number)
    (hgone : gone.hasSn t.rxDeliv = false)
    (hless : ∀ key info, gone.rxWindow.get? key = some info → t.rxWindow.get? key = some info)
    (hascending : (gone.delivered.filterMap number?).Pairwise (· < ·))
    (hnumbered : ∀ number info, .ordered number info ∈ gone.delivered →
      info.sn = some (ofNat number))
    (hlt : ∀ number ∈ gone.delivered.filterMap number?, number < t.number + 1) :
    InWindow gone.advance ∧ Advanced 1 t gone.advance := by
  have hmoved : Advanced 1 t gone.advance := by
    refine ⟨?_, hsame.rxNext, hsame.rxReord, hsame.running, hsame.initialised⟩
    rw [Tunnel.advance, hsame.rxDeliv, UInt16.add_assoc]
    rfl
  have hpos : 1 ≤ (t.rxNext - t.rxDeliv).toNat := by
    rw [Nat.one_le_iff_ne_zero]
    exact fun hzero => hne (distance_eq_zero_iff.mp hzero)
  have hnext : (gone.advance.rxNext - gone.advance.rxDeliv).toNat =
      (t.rxNext - t.rxDeliv).toNat - 1 := by
    rw [hmoved.rxNext, hmoved.rxDeliv]
    exact distance_advance hpos
  refine ⟨⟨?_, ?_, ?_, hascending, hnumbered, ?_⟩, hmoved⟩
  · have hle := h.next_le
    omega
  · intro key info hinfo
    obtain ⟨sn, rfl, hsn, hbelow⟩ := h.inside key info (hless key info hinfo)
    have habove : 1 ≤ (sn - t.rxDeliv).toNat := by
      rw [Nat.one_le_iff_ne_zero]
      intro hzero
      have hpres : gone.hasSn t.rxDeliv :=
        gone.rxWindow.contains_iff.mpr ⟨info, distance_eq_zero_iff.mp hzero ▸ hinfo⟩
      rw [hgone] at hpres
      cases hpres
    refine ⟨sn, rfl, hsn, ?_⟩
    rw [hnext, hmoved.rxDeliv, distance_advance habove]
    omega
  · rw [hmoved.rxDeliv, h.counted, ← ofNat_add, Tunnel.advance, hnumber]
  · intro number hmem
    rw [Tunnel.advance, hnumber]
    exact hlt number hmem

lemma deliverSdu_advance (h : InWindow t) {info : RxSduInfo α}
    (hinfo : t.rxWindow.get? t.rxDeliv.toNat = some info) :
    InWindow (t.deliverSdu info).advance ∧ Advanced 1 t (t.deliverSdu info).advance := by
  obtain ⟨sn, hkey, hsn, hbelow⟩ := h.inside _ info hinfo
  have hget (key : Nat) : (t.deliverSdu info).rxWindow.get? key =
      if key = t.rxDeliv.toNat then none else t.rxWindow.get? key :=
    t.rxWindow.get?_erase t.rxDeliv.toNat key
  have hnumbers : (t.deliverSdu info).delivered.filterMap number? =
      t.delivered.filterMap number? ++ [t.number] := by
    rw [deliverSdu, filterMap_append]
    rfl
  apply h.advance
  · intro heq
    rw [heq, distance_self] at hbelow
    exact absurd hbelow (Nat.not_lt_zero _)
  · exact ⟨(UInt16.add_zero _).symm, rfl, rfl, rfl, rfl⟩
  · rfl
  · apply hasSn_of_get?_eq_none
    rw [hget, if_pos rfl]
  · intro key other hother
    rw [hget] at hother
    split at hother
    · cases hother
    · exact hother
  · rw [hnumbers, pairwise_append]
    refine ⟨h.ascending, pairwise_singleton _ _, ?_⟩
    intro earlier hearl later hlater
    rw [mem_singleton.mp hlater]
    exact h.delivered_lt earlier hearl
  · intro number other hmem
    obtain hold | hnew := mem_append.mp hmem
    · exact h.numbered number other hold
    · obtain ⟨rfl, rfl⟩ := ordered.inj (mem_singleton.mp hnew)
      rw [hsn, UInt16.toNat_inj.mp hkey, h.counted]
  · intro number hmem
    rw [hnumbers, mem_append, mem_singleton] at hmem
    obtain hold | rfl := hmem
    · exact (h.delivered_lt number hold).trans (Nat.lt_succ_self _)
    · exact Nat.lt_succ_self _

lemma hasSn_deliverSdu_advance (info : RxSduInfo α) (sn : UInt16) :
    (t.deliverSdu info).advance.hasSn sn = (!decide (sn = t.rxDeliv) && t.hasSn sn) := by
  have hkey : (sn.toNat = t.rxDeliv.toNat) = (sn = t.rxDeliv) := propext UInt16.toNat_inj
  have hcont := t.rxWindow.contains_erase t.rxDeliv.toNat sn.toNat
  simp only [hkey] at hcont
  exact hcont

lemma consecutiveSdus_spec (rounds : Nat) {t : Tunnel α} (h : InWindow t)
    (hrounds : (t.rxNext - t.rxDeliv).toNat = rounds) :
    ∃ n ≤ rounds, InWindow (consecutiveSdus rounds t) ∧ Advanced n t (consecutiveSdus rounds t) ∧
      (∀ i < n, t.hasSn (t.rxDeliv + ofNat i)) ∧ t.hasSn (t.rxDeliv + ofNat n) = false ∧
      (consecutiveSdus rounds t).hasSn (consecutiveSdus rounds t).rxDeliv =
        false := by
  induction rounds generalizing t with
  | zero =>
    have hmiss : t.hasSn t.rxDeliv = false := by
      rw [← Bool.not_eq_true]
      intro hpres
      have hlt := h.lt_of_hasSn hpres
      omega
    refine ⟨0, le_rfl, h, Advanced.refl t, fun i hi => absurd hi (Nat.not_lt_zero i), ?_, hmiss⟩
    rwa [add_ofNat_zero]
  | succ rounds ih =>
    cases hinfo : t.rxWindow.get? t.rxDeliv.toNat with
    | none =>
      have hstays : consecutiveSdus (rounds + 1) t = t := by
        rw [consecutiveSdus, hinfo]
      have hmiss := hasSn_of_get?_eq_none hinfo
      rw [hstays]
      refine ⟨0, Nat.zero_le _, h, Advanced.refl t,
        fun i hi => absurd hi (Nat.not_lt_zero i), ?_, hmiss⟩
      rwa [add_ofNat_zero]
    | some info =>
      obtain ⟨hwindow, hmoved⟩ := deliverSdu_advance h hinfo
      have hnext : ((t.deliverSdu info).advance.rxNext -
          (t.deliverSdu info).advance.rxDeliv).toNat = rounds := by
        rw [hmoved.rxNext, hmoved.rxDeliv, distance_advance (by omega)]
        omega
      have hshift (i : Nat) : (t.deliverSdu info).advance.rxDeliv + ofNat i =
          t.rxDeliv + ofNat (i + 1) := by
        rw [hmoved.rxDeliv, UInt16.add_assoc, ← UInt16.ofNat_add, Nat.add_comm]
      obtain ⟨n, hn, hfinal, hadvanced, hall, hmiss, hwaits⟩ :=
        ih hwindow hnext
      have hgoes : consecutiveSdus (rounds + 1) t =
          consecutiveSdus rounds (t.deliverSdu info).advance := by
        rw [consecutiveSdus, hinfo]
      have hbound := h.next_le
      rw [gtpuRxWindowSize] at hbound
      rw [hgoes]
      refine ⟨n + 1, by omega, hfinal, Nat.add_comm 1 n ▸ hmoved.trans hadvanced, ?_, ?_, hwaits⟩
      · intro i hi
        cases i with
        | zero =>
          rw [add_ofNat_zero]
          exact t.rxWindow.contains_iff.mpr ⟨info, hinfo⟩
        | succ i =>
          have hpres := hall i (by omega)
          rw [hshift, hasSn_deliverSdu_advance, Bool.and_eq_true] at hpres
          exact hpres.2
      · rw [hshift, hasSn_deliverSdu_advance, Bool.and_eq_false_iff] at hmiss
        refine hmiss.resolve_left fun heq => ?_
        have hback : t.rxDeliv + ofNat (n + 1) = t.rxDeliv := by simpa using heq
        have hdist := @distance_add t.rxDeliv (n + 1) (by omega)
        rw [hback, distance_self] at hdist
        omega

lemma passSns_spec (rounds : Nat) {t : Tunnel α} (h : InWindow t)
    (hrounds : rounds ≤ (t.rxNext - t.rxDeliv).toNat) :
    InWindow (passSns rounds t) ∧ Advanced rounds t (passSns rounds t) := by
  induction rounds generalizing t with
  | zero => exact ⟨h, Advanced.refl t⟩
  | succ rounds ih =>
    have hstep : ∀ after, ((t.rxWindow.get? t.rxDeliv.toNat).elim t t.deliverSdu).advance = after →
        InWindow after ∧ Advanced 1 t after := by
      rintro after rfl
      cases hinfo : t.rxWindow.get? t.rxDeliv.toNat with
      | none =>
        refine h.advance ?_ (Advanced.refl t) rfl ?_ (fun _ _ hstored => hstored) h.ascending
          h.numbered fun number hmem => (h.delivered_lt number hmem).trans (Nat.lt_succ_self _)
        · intro heq
          rw [heq, distance_self] at hrounds
          exact absurd hrounds (Nat.not_succ_le_zero rounds)
        · exact hasSn_of_get?_eq_none hinfo
      | some info => exact deliverSdu_advance h hinfo
    rw [passSns]
    obtain ⟨hwindow, hmoved⟩ := hstep _ rfl
    obtain ⟨hfinal, hrest⟩ := ih hwindow (by
      rw [hmoved.rxNext, hmoved.rxDeliv, distance_advance (by omega)]
      omega)
    exact ⟨hfinal, Nat.add_comm 1 rounds ▸ hmoved.trans hrest⟩

end

end ProtoRu.Gtpu
