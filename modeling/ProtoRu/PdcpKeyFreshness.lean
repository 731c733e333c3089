import ProtoRu.PdcpTxEvents

/-!
The keys of the PDUs that a PDCP entity submits. Every PDU is protected by a task with the
keys a crypto worker finds, and may then wait in the window for its predecessors. A
re-establishment brings new keys and has the SDUs of the window protected again, but leaves
the PDUs that wait there where they are.
-/

namespace ProtoRu.PdcpTx

open TxEntity List

variable {cfg : TxConfig}

/-- A task of an earlier security configuration is of an earlier round of retransmissions. -/
structure Placed (e : TxEntity cfg) (task : Task) : Prop where
  configured_le : task.configured ≤ e.key
  retxId_le : task.retxId ≤ e.retransmitId
  outdated : task.configured < e.key → task.retxId < e.retransmitId
  count_lt : task.configured = e.key → task.count < e.txNext

/-- What waits in the window, and what was submitted, is protected with the keys in use. -/
structure Fresh (e : TxEntity cfg) : Prop where
  tasks : ∀ task ∈ e.tasks, Placed e task
  protectedPdus : ∀ pdu ∈ e.protectedPdus,
    Placed e pdu.task ∧ pdu.task.configured ≤ pdu.key ∧ pdu.key ≤ e.key
  stored : ∀ count elem pdu, e.txWindow.get? count = some elem → elem.pdu = some pdu →
    pdu.key = e.key ∧ pdu.task.configured = e.key ∧ pdu.task.count = count ∧ count < e.txNext
  submitted : ∀ submission ∈ e.submitted, submission.pdu.key = submission.configured ∧
      submission.pdu.task.configured = submission.configured ∧
      submission.pdu.task.count = submission.count

section

variable {e after : TxEntity cfg}

lemma Placed.of_eq {task : Task} (h : Placed e task) (hkey : after.key = e.key)
    (hretx : e.retransmitId ≤ after.retransmitId) (hnext : e.txNext ≤ after.txNext) :
    Placed after task where
  configured_le := by
    rw [hkey]
    exact h.configured_le
  retxId_le := h.retxId_le.trans hretx
  outdated := by
    rw [hkey]
    exact fun hlt => (h.outdated hlt).trans_le hretx
  count_lt := by
    rw [hkey]
    exact fun heq => (h.count_lt heq).trans_le hnext

section

variable (h : Fresh e) (hkey : after.key = e.key) (hretx : e.retransmitId ≤ after.retransmitId)
  (hnext : e.txNext ≤ after.txNext)

include h hkey hretx hnext

lemma Fresh.of_eq (htasks : ∀ task ∈ after.tasks, Placed after task ∨ task ∈ e.tasks)
    (hpdus : ∀ pdu ∈ after.protectedPdus, pdu ∈ e.protectedPdus)
    (hstored : ∀ count elem pdu, after.txWindow.get? count = some elem → elem.pdu = some pdu → ∃
      elem', e.txWindow.get? count = some elem' ∧ elem'.pdu = some pdu)
    (hsubm : after.submitted = e.submitted) : Fresh after where
  tasks := by
    intro task htask
    obtain hplaced | hold := htasks task htask
    · exact hplaced
    · exact (h.tasks task hold).of_eq hkey hretx hnext
  protectedPdus := by
    intro pdu hpdu
    obtain ⟨hplaced, hconf, hle⟩ := h.protectedPdus pdu (hpdus pdu hpdu)
    rw [hkey]
    exact ⟨hplaced.of_eq hkey hretx hnext, hconf, hle⟩
  stored := by
    intro count elem pdu helem hpdu
    obtain ⟨elem', helem', hpdu'⟩ := hstored count elem pdu helem hpdu
    obtain ⟨hkeys, hconf, hcount, hlt⟩ := h.stored count elem' pdu helem' hpdu'
    rw [hkey]
    exact ⟨hkeys, hconf, hcount, hlt.trans_le hnext⟩
  submitted := by
    rw [hsubm]
    exact h.submitted

lemma Fresh.of_less (htasks : after.tasks ⊆ e.tasks)
    (hpdus : after.protectedPdus ⊆ e.protectedPdus) (hwindow : after.txWindow = e.txWindow)
    (hsubm : after.submitted = e.submitted) : Fresh after := by
  refine h.of_eq hkey hretx hnext (fun _ htask => .inr (htasks htask)) (fun _ => @hpdus _) ?_ hsubm
  rw [hwindow]
  exact fun _ elem _ helem hpdu => ⟨elem, helem, hpdu⟩

end

lemma Fresh.shrunk (h : Fresh e) (hshrunk : Shrunk e after) : Fresh after := by
  have hkey : after.key = e.key := (congrArg TxEntity.key hshrunk.frame :)
  have hretx : after.retransmitId = e.retransmitId :=
    (congrArg TxEntity.retransmitId hshrunk.frame :)
  have htasks : after.tasks = e.tasks := (congrArg TxEntity.tasks hshrunk.frame :)
  have hpdus : after.protectedPdus = e.protectedPdus :=
    (congrArg TxEntity.protectedPdus hshrunk.frame :)
  have hsubm : after.submitted = e.submitted := (congrArg TxEntity.submitted hshrunk.frame :)
  refine h.of_eq hkey hretx.ge hshrunk.txNext.ge ?_ ?_ ?_ hsubm
  · rw [htasks]
    exact fun _ htask => .inr htask
  · rw [hpdus]
    exact fun _ hpdu => hpdu
  · exact fun count elem _ helem hpdu => ⟨elem, hshrunk.elements count elem helem, hpdu⟩

lemma loop_fresh : LoopInvariant (@Fresh cfg) where
  write := by
    intro e count elem pdu isRetx h helem hpdu
    obtain ⟨hkey, hconf, hcount, -⟩ := h.stored count elem pdu helem hpdu
    have hwindow : Fresh { e with
        txWindow := e.txWindow.modify count fun elem => { elem with pdu := none } } := by
      refine h.of_eq rfl le_rfl le_rfl (fun _ htask => .inr htask) (fun _ hpdu => hpdu) ?_ rfl
      intro other elem' pdu' helem' hpdu'
      simp only [CircularMap.get?_modify] at helem'
      split at helem'
      · obtain ⟨old, -, rfl⟩ := Option.map_eq_some_iff.mp helem'
        cases hpdu'
      · exact ⟨elem', helem', hpdu'⟩
    refine ⟨fun task htask => (hwindow.tasks task htask).of_eq rfl le_rfl le_rfl,
      fun other hother => ?_, hwindow.stored, ?_⟩
    · obtain ⟨hplaced, hrest⟩ := hwindow.protectedPdus other hother
      exact ⟨hplaced.of_eq rfl le_rfl le_rfl, hrest⟩
    exact forall_mem_append.mpr ⟨h.submitted, forall_mem_singleton.mpr ⟨hkey, hconf, hcount⟩⟩
  notify := fun _ _ _ _ h hok => h.shrunk (handleTransmitNotification_shrunk hok)
  crypto := fun _ _ h => h.of_less rfl le_rfl le_rfl (.refl _) (.refl _) rfl rfl
  reordering := fun _ _ _ h => h.of_less rfl le_rfl le_rfl (.refl _) (.refl _) rfl rfl

end

section

variable {e : TxEntity cfg}

lemma storePdu_fresh (h : Fresh e) {pdu : Pdu} (hplaced : Placed e pdu.task)
    (hkey : pdu.task.configured ≤ pdu.key ∧ pdu.key ≤ e.key)
    (hrecent : e.retransmitId < pdu.task.retxId + 2 ^ 16)
    (hcur : pdu.task.retxId % 2 ^ 16 = e.retransmitId % 2 ^ 16) : Fresh (e.storePdu pdu) := by
  have hconf : pdu.task.configured = e.key := by
    apply Nat.le_antisymm hplaced.configured_le
    by_contra hlt
    have := hplaced.outdated (Nat.lt_of_not_le hlt)
    omega
  refine ⟨fun task htask => (h.tasks task htask).of_eq rfl le_rfl le_rfl,
    fun other hother => ?_, ?_, h.submitted⟩
  · obtain ⟨hother, hrest⟩ := h.protectedPdus other hother
    exact ⟨hother.of_eq rfl le_rfl le_rfl, hrest⟩
  intro count elem stored helem hstored
  simp only [storePdu, CircularMap.get?_modify] at helem
  split_ifs at helem with hcount
  · obtain ⟨old, -, rfl⟩ := Option.map_eq_some_iff.mp helem
    cases hstored
    exact ⟨Nat.le_antisymm hkey.2 (hconf ▸ hkey.1), hconf, hcount.symm,
      hcount ▸ hplaced.count_lt hconf⟩
  · exact h.stored count elem stored helem hstored

lemma applySecurity_fresh (h : Fresh e) {task : Task} (hplaced : Placed e task) :
    Fresh (e.applySecurity task) := by
  refine ⟨fun other hother => (h.tasks other hother).of_eq rfl le_rfl le_rfl,
    fun pdu hpdu => ?_, h.stored, h.submitted⟩
  obtain hold | hnew := mem_append.mp hpdu
  · obtain ⟨hother, hrest⟩ := h.protectedPdus pdu hold
    exact ⟨hother.of_eq rfl le_rfl le_rfl, hrest⟩
  · obtain rfl := mem_singleton.mp hnew
    exact ⟨hplaced.of_eq rfl le_rfl le_rfl, hplaced.configured_le, le_rfl⟩

lemma submitTask_fresh (h : Fresh e) (isRetx : Bool) {count : Nat} (hlt : count < e.txNext)
    (payload : Bytes) : Fresh (e.submitTask isRetx count payload) := by
  refine h.of_eq rfl le_rfl le_rfl ?_ (fun _ hpdu => hpdu)
    (fun _ elem _ helem hpdu => ⟨elem, helem, hpdu⟩) rfl
  intro task htask
  obtain hold | hnew := mem_append.mp htask
  · exact .inr hold
  · obtain rfl := mem_singleton.mp hnew
    exact .inl ⟨le_rfl, le_rfl, fun h => absurd h (Nat.lt_irrefl _), fun _ => hlt⟩

lemma addSdu_fresh (h : Fresh e) (sdu : Bytes) : Fresh (e.addSdu sdu) := by
  refine h.of_eq rfl le_rfl le_rfl (fun _ htask => .inr htask) (fun _ hpdu => hpdu) ?_ rfl
  intro count elem pdu helem hpdu
  simp only [addSdu, CircularMap.get?_overwrite] at helem
  split at helem
  · cases helem
    cases hpdu
  split at helem
  · cases helem
  · exact ⟨elem, helem, hpdu⟩

lemma startDiscardTimer_fresh (h : Fresh e) : Fresh e.startDiscardTimer := by
  rw [startDiscardTimer]
  split
  · split
    · exact h.shrunk (shrunk_discardDeadline e _)
    · exact h
  · exact h

lemma handleSdu_fresh (h : Fresh e) (sdu : Bytes) (copied : Bool)
    (payload : Option Bytes) : Fresh (e.handleSdu sdu copied payload) := by
  rw [handleSdu]
  split
  · exact h
  split
  · exact h
  split
  · exact startDiscardTimer_fresh h
  have hadded := addSdu_fresh (startDiscardTimer_fresh h) sdu
  cases payload with
  | none => exact hadded
  | some payload =>
    have hcounted : Fresh { e.startDiscardTimer.addSdu sdu with
        txNext := (e.startDiscardTimer.addSdu sdu).txNext + 1 } :=
      hadded.of_less rfl le_rfl (Nat.le_succ _) (.refl _) (.refl _) rfl rfl
    exact submitTask_fresh hcounted false (Nat.lt_succ_self _) payload

lemma retransmitFrom_fresh {prepare : Nat → Bytes → Option Bytes} {rounds count : Nat}
    {e : TxEntity cfg} (h : Fresh e) (hle : rounds ≤ e.txNext - count) :
    Fresh (e.retransmitFrom prepare rounds count) := by
  induction rounds generalizing e count with
  | zero => exact h
  | succ rounds ih =>
    rw [retransmitFrom]
    split
    · exact ih h (by omega)
    rename_i elem helem
    cases prepare count elem.sdu with
    | none => exact h
    | some payload =>
      exact ih (submitTask_fresh h true (by omega) payload) (by simp only [submitTask]; omega)

lemma retransmitAllPdus_fresh (h : Fresh e)
    (prepare : Nat → Bytes → Option Bytes) : Fresh (e.retransmitAllPdus prepare) := by
  rw [retransmitAllPdus]
  split
  · refine retransmitFrom_fresh ?_ le_rfl
    exact h.of_less rfl (Nat.le_succ _) le_rfl (.refl _) (.refl _) rfl rfl
  · exact h

/-- New keys, with an empty window or one without PDUs, when nothing is on its way with the old
ones. -/
lemma Fresh.reconfigured (h : Fresh e) {after : TxEntity cfg} (hkey : after.key = e.key + 1)
    (hstored : ∀ count elem pdu, after.txWindow.get? count = some elem → elem.pdu ≠ some pdu)
    (hsubm : after.submitted = e.submitted) (hway : after.tasks = [] ∧ after.protectedPdus = [] ∨
      after.tasks = e.tasks ∧ after.protectedPdus = e.protectedPdus ∧
        e.retransmitId < after.retransmitId) : Fresh after := by
  have hold (task : Task) (hretx : e.retransmitId < after.retransmitId) (hplaced : Placed e task) :
      Placed after task := by
    have hconf := hplaced.configured_le
    have hround := hplaced.retxId_le
    exact ⟨by omega, by omega, fun _ => by omega, fun _ => by omega⟩
  refine ⟨?_, ?_, fun count elem pdu helem hpdu => absurd hpdu (hstored count elem pdu helem), ?_⟩
  · intro task htask
    obtain ⟨hempty, -⟩ | ⟨hsame, -, hretx⟩ := hway
    · rw [hempty] at htask
      cases htask
    · rw [hsame] at htask
      exact hold task hretx (h.tasks task htask)
  · intro pdu hpdu
    obtain ⟨-, hempty⟩ | ⟨-, hsame, hretx⟩ := hway
    · rw [hempty] at hpdu
      cases hpdu
    · rw [hsame] at hpdu
      obtain ⟨hplaced, hconf, hle⟩ := h.protectedPdus pdu hpdu
      exact ⟨hold pdu.task hretx hplaced, hconf, by omega⟩
  · rw [hsubm]
    exact h.submitted

/-- A re-establishment leaves no PDU in the window unless it is emptied, and none with the workers
unless its round tells it apart. -/
def LeavesNothing (e : TxEntity cfg) : Prop :=
  (¬ (cfg.rbType = .srb ∨ cfg.rlcMode = .um) →
      ∀ count < e.txNext, (e.txWindow.get? count).bind Element.pdu = none) ∧
    (cfg.keepsCopy = false → e.tasks = [] ∧ e.protectedPdus = [])

instance (e : TxEntity cfg) : Decidable (LeavesNothing e) :=
  inferInstanceAs (Decidable (_ ∧ _))

lemma reestablish_fresh (h : Fresh e) (hleaves : LeavesNothing e)
    (prepare : Nat → Bytes → Option Bytes) : Fresh (e.reestablish prepare) := by
  rw [reestablish]
  generalize hemptied : (if cfg.rbType = .srb ∨ cfg.rlcMode = .um then e.reset else e) = emptied
  have hstored (count : Nat) (elem : Element) (pdu : Pdu)
      (helem : emptied.txWindow.get? count = some elem) : elem.pdu ≠ some pdu := by
    intro hpdu
    rw [← hemptied] at helem
    split_ifs at helem with hkeeps
    · cases helem
    obtain ⟨-, -, -, hlt⟩ := h.stored count elem pdu helem hpdu
    have hnone := hleaves.1 hkeeps count hlt
    rw [helem, Option.bind_some, hpdu] at hnone
    cases hnone
  have hsame : emptied.key = e.key ∧ emptied.submitted = e.submitted ∧ emptied.tasks = e.tasks ∧
      emptied.protectedPdus = e.protectedPdus ∧ emptied.retransmitId = e.retransmitId := by
    rw [← hemptied]
    split <;> exact ⟨rfl, rfl, rfl, rfl, rfl⟩
  obtain ⟨hkey, hsubm, htasks, hpdus, hretx⟩ := hsame
  have hconf : emptied.configureSecurity.key = e.key + 1 := congrArg (· + 1) hkey
  have hquiet : cfg.keepsCopy = false → Fresh emptied.configureSecurity := by
    intro hcopy
    obtain ⟨hnone, hnothing⟩ := hleaves.2 hcopy
    exact h.reconfigured hconf hstored hsubm (.inl ⟨htasks.trans hnone, hpdus.trans hnothing⟩)
  split_ifs with hmode
  · rw [retransmitAllPdus]
    split_ifs with hcopy
    · refine retransmitFrom_fresh ?_ le_rfl
      refine h.reconfigured ?_ ?_ ?_ (.inr ⟨htasks, hpdus, Nat.lt_succ_of_le hretx.ge⟩)
      · exact hconf
      · exact hstored
      · exact hsubm
    · exact hquiet (by simpa using hcopy)
  · exact hquiet (by simp [TxConfig.keepsCopy, hmode])

end

section

/-- A re-establishment leaves nothing behind, and no PDU is 2^16 rounds of retransmissions old. -/
def Refreshed (e : TxEntity cfg) : Event → Prop
  | .applyReordering i =>
    ∀ pdu ∈ e.protectedPdus[i]?, e.retransmitId < pdu.task.retxId + 2 ^ 16
  | .reestablish _ => LeavesNothing e
  | _ => True

instance (e : TxEntity cfg) : ∀ event, Decidable (Refreshed e event) := by
  rintro ⟨⟩ <;> dsimp only [Refreshed] <;> infer_instance

lemma step_fresh (before : TxEntity cfg) (event : Event) (after : TxEntity cfg)
    (h : Fresh before) (hrefr : Refreshed before event)
    (hok : step before event = .ok after) : Fresh after := by
  cases event with
  | sdu sdu copied payload =>
    cases hok
    exact handleSdu_fresh h sdu copied payload
  | applySecurity i =>
    cases hok
    cases htask : before.tasks[i]? with
    | none => exact h
    | some task =>
      have htaken : Fresh { before with tasks := before.tasks.eraseIdx i } :=
        h.of_less rfl le_rfl le_rfl eraseIdx_subset (.refl _) rfl rfl
      have hplaced := h.tasks task (mem_of_getElem? htask)
      exact applySecurity_fresh htaken (hplaced.of_eq rfl le_rfl le_rfl)
  | dropTask i =>
    cases hok
    exact h.of_less rfl le_rfl le_rfl eraseIdx_subset (.refl _) rfl rfl
  | applyReordering i =>
    obtain rfl | ⟨pdu, hpdu, hok⟩ := step_applyReordering hok
    · exact h
    have htaken : Fresh { before with protectedPdus := before.protectedPdus.eraseIdx i } :=
      h.of_less rfl le_rfl le_rfl (.refl _) eraseIdx_subset rfl rfl
    obtain ⟨hplaced, hkey⟩ := h.protectedPdus pdu (mem_of_getElem? hpdu)
    refine loop_fresh.applyReordering htaken (fun hcur => ?_) hok
    exact storePdu_fresh htaken (hplaced.of_eq rfl le_rfl le_rfl) hkey (hrefr pdu hpdu) hcur
  | dropPdu i =>
    cases hok
    exact h.of_less rfl le_rfl le_rfl (.refl _) eraseIdx_subset rfl rfl
  | cryptoReorderingTimeout =>
    rw [step] at hok
    split at hok
    · exact loop_fresh.cryptoReorderingTimeout h hok
    · cases hok
      exact h
  | tick | desiredBufferSize desired =>
    cases hok
    exact h.of_less rfl le_rfl le_rfl (.refl _) (.refl _) rfl rfl
  | discardCallback =>
    cases hok
    split
    · exact h.shrunk (discardCallback_shrunk before)
    · exact h
  | transmitNotification notifSn => exact h.shrunk (handleTransmitNotification_shrunk hok)
  | deliveryNotification notifSn => exact h.shrunk (handleDeliveryNotification_shrunk hok)
  | retransmitNotification notifSn =>
    rw [step] at hok
    obtain rfl | hok := ifAmDrb_ok hok
    · exact h
    · exact h.shrunk (handleTransmitNotification_shrunk hok)
  | deliveryRetransmittedNotification notifSn =>
    rw [step] at hok
    obtain rfl | hok := ifAmDrb_ok hok
    · exact h
    · exact h.shrunk (handleDeliveryNotification_shrunk hok)
  | statusReport status =>
    cases hok
    exact h.shrunk (handleStatusReport_shrunk before status)
  | dataRecovery prepare =>
    cases hok
    split
    · exact retransmitAllPdus_fresh h prepare
    · exact h
  | reestablish prepare =>
    cases hok
    exact reestablish_fresh h hrefr prepare

lemma initial_fresh (start : Nat) : Fresh ({ now := start } : TxEntity cfg) where
  tasks := nofun
  protectedPdus := nofun
  stored := nofun
  submitted := nofun

def reestablishedEarly : List Event :=
  [.desiredBufferSize 4096, .sdu [1] true (some [1]), .sdu [2] true (some [2]), .applySecurity 0,
    .reestablish fun _ sdu => some sdu, .applySecurity 1, .applySecurity 1, .applyReordering 0,
    .applyReordering 0, .applyReordering 0]

/-- The task of the first SDU is lost, so that the PDU of the second one waits in the window. -/
def reestablishedWaiting : List Event :=
  [.desiredBufferSize 4096, .sdu [1] true (some [1]), .sdu [2] true (some [2]), .dropTask 0,
    .applySecurity 0, .applyReordering 0, .reestablish fun _ sdu => some sdu, .applySecurity 0,
    .applyReordering 0]

end

end ProtoRu.PdcpTx
