import Mathlib.Algebra.BigOperators.Ring.List
import ProtoRu.DrbIdentities

namespace ProtoRu.Drb

open Std (TreeMap)
open OrderedMaps List

def newFlows (ctx : UpContext) : Request → List (PduSessionId × QosFlowId)
  | .setup request => request.items.flatMap fun item =>
    item.qosFlows.items.map fun flow => (item.pduSessionId, flow.qosFlowId)
  | .modify request => request.items.flatMap fun item =>
    (item.qosFlowsToAddOrModify.items.filter fun flow =>
      !ctx.qosFlowMap.contains flow.qosFlowId).map fun flow => (item.pduSessionId, flow.qosFlowId)
  | .release _ => []

variable {update : ConfigUpdate} {session : SessionUpdate}

section

variable {state next : SessionState} {ctx after : UpContext}

lemma applyNewDrb_size {drb : DrbId × DrbContext} (h : applyNewDrb state drb = .ok next) :
    getNofDrbs next.2 ≤ getNofDrbs state.2 + 1 := by
  obtain ⟨-, -, rfl⟩ := applyNewDrb_eq_ok h
  exact TreeMap.size_insertIfNew_le

lemma applyUpdateForNewDrbs_size {drbs : TreeMap DrbId DrbContext}
    (h : applyUpdateForNewDrbs state drbs = .ok next) :
    getNofDrbs next.2 ≤ getNofDrbs state.2 + drbs.keys.length := by
  have hsize := foldlM_ok_size_le (fun state : SessionState => getNofDrbs state.2) (fun _ => 1)
    (fun _ _ _ => applyNewDrb_size) h
  rw [map_const', sum_replicate_nat, mul_one] at hsize
  rwa [TreeMap.length_keys, ← TreeMap.length_toList]

lemma forgetDrb_size (ctx : UpContext) (drb : DrbId × DrbContext) :
    getNofDrbs (forgetDrb ctx drb) ≤ getNofDrbs ctx :=
  TreeMap.size_erase_le

lemma applyUpdateForRemovedDrbs_size {drbIds : List DrbId}
    (h : applyUpdateForRemovedDrbs state drbIds = .ok next) :
    getNofDrbs next.2 ≤ getNofDrbs state.2 := by
  apply foldlM_ok_invariant (fun next : SessionState => getNofDrbs next.2 ≤ getNofDrbs state.2) h
    le_rfl
  intro before drbId after _ hbefore hafter
  obtain ⟨drb, -, rfl⟩ := applyRemovedDrb_eq_ok hafter
  exact Nat.le_trans (forgetDrb_size _ _) hbefore

lemma applyAddedSession_size (h : applyAddedSession ctx session = .ok after) :
    getNofDrbs after ≤ getNofDrbs ctx + (newIds session).length := by
  obtain ⟨state, hstate, rfl⟩ := map_eq_ok_iff.mp h
  exact applyUpdateForNewDrbs_size hstate

lemma applyModifiedSession_size (h : applyModifiedSession ctx session = .ok after) :
    getNofDrbs after ≤ getNofDrbs ctx + (newIds session).length := by
  rw [applyModifiedSession] at h
  split at h
  · cases h
  · obtain ⟨added, hadded, hrest⟩ := bind_eq_ok_iff.mp h
    obtain ⟨removed, hremd, rfl⟩ := map_eq_ok_iff.mp hrest
    exact Nat.le_trans (applyUpdateForRemovedDrbs_size hremd) (applyUpdateForNewDrbs_size hadded)

lemma applyRemovedSession_size {session : PduSessionId}
    (h : applyRemovedSession ctx session = .ok after) : getNofDrbs after ≤ getNofDrbs ctx := by
  rw [applyRemovedSession] at h
  split at h
  · cases h
  rename_i context _
  obtain rfl := Except.ok.inj h
  exact foldlRecOn (motive := fun after => getNofDrbs after ≤ getNofDrbs ctx)
    context.drbs.toList forgetDrb le_rfl
    fun before hbefore drb _ => Nat.le_trans (forgetDrb_size before drb) hbefore

lemma applyConfigUpdate_size (h : applyConfigUpdate ctx update.result = .ok after) :
    getNofDrbs after ≤ getNofDrbs ctx + (newDrbIds update).length := by
  obtain ⟨added, hadded, hrest⟩ := bind_eq_ok_iff.mp h
  obtain ⟨modified, hmod, hremd⟩ := bind_eq_ok_iff.mp hrest
  have hsetup := foldlM_ok_size_le getNofDrbs (fun session => (newIds session).length)
    (fun _ _ _ => applyAddedSession_size) hadded
  have hmodify := foldlM_ok_size_le getNofDrbs (fun session => (newIds session).length)
    (fun _ _ _ => applyModifiedSession_size) hmod
  have hrels : getNofDrbs after ≤ getNofDrbs modified :=
    foldlM_ok_invariant (fun after => getNofDrbs after ≤ getNofDrbs modified) hremd
      le_rfl fun _ _ _ _ hbefore hafter =>
        Nat.le_trans (applyRemovedSession_size hafter) hbefore
  rw [newDrbIds, sessionUpdates, flatMap_append, length_append, length_flatMap, length_flatMap]
  simp only [ConfigUpdate.result] at hsetup hmodify
  omega

end

variable {item : ModifyItem} {id : PduSessionId} {request : Request}

section

variable {cfg : Config} {ctx : UpContext} {update after : ConfigUpdate}

/-- A UE that has reached its limit gets no DRB, and any other one at most one for a flow. -/
def flowCost (cfg : Config) (ctx : UpContext) : Nat :=
  if cfg.maxNofDrbsPerUe ≤ getNofDrbs ctx then 0 else 1

section

variable {progress next : Progress} {flow : QosFlowItem}

lemma allocate_size (h : Progress.allocate cfg ctx update progress flow = .ok next) :
    (newIds next.session).length ≤ (newIds progress.session).length + flowCost cfg ctx := by
  obtain ⟨⟨drbId, session⟩, halloc, rfl⟩ := map_eq_ok_iff.mp h
  obtain ⟨hinval, -⟩ | ⟨-, -, hne, hroom, rfl⟩ := allocateQosFlow_eq_ok halloc
  · rw [if_pos hinval]
    exact Nat.le_add_right _ _
  · rw [if_neg hne, flowCost, getNofDrbs, if_neg (Nat.not_le.mpr hroom)]
    simp only [newIds, TreeMap.length_keys]
    exact TreeMap.size_insertIfNew_le

lemma addOrModify_size (h : Progress.addOrModify cfg ctx update progress flow = .ok next) :
    (newIds next.session).length ≤ (newIds progress.session).length +
      if ctx.qosFlowMap.contains flow.qosFlowId then 0 else flowCost cfg ctx := by
  obtain ⟨hknown, drbId, drb, -, rfl⟩ | ⟨hnew, halloc⟩ := addOrModify_eq_ok h
  · rw [if_pos hknown]
    exact le_rfl
  · rw [if_neg hnew]
    exact allocate_size halloc

end

lemma idsOf_emplace_length (sessions : TreeMap PduSessionId SessionUpdate) (id : PduSessionId)
    (session : SessionUpdate) : (idsOf (sessions.insertIfNew id session)).length ≤
      (idsOf sessions).length + (newIds session).length := by
  obtain hperm | hperm := idsOf_emplace sessions id session
  · rw [hperm.length_eq, length_append, Nat.add_comm]
  · rw [hperm.length_eq]
    exact Nat.le_add_right _ _

lemma newIds_empty (id : PduSessionId) : (newIds { id := id }).length = 0 := by
  rfl

lemma setupSession_size {item : SetupItem} (h : setupSession cfg ctx update item = .ok after) :
    (newDrbIds after).length ≤
      (newDrbIds update).length + item.qosFlows.items.length * flowCost cfg ctx := by
  obtain ⟨progress, -, hflows, -, rfl⟩ := setupSession_eq_ok h
  have hsize := foldlM_ok_size_le (fun progress : Progress => (newIds progress.session).length)
    (fun _ => flowCost cfg ctx) (fun _ _ _ => allocate_size) hflows
  rw [map_const', sum_replicate_nat, newIds_empty] at hsize
  simp only [newDrbIds_eq, length_append]
  split
  · exact Nat.le_add_right _ _
  · have hids := idsOf_emplace_length update.pduSessionsToSetup item.pduSessionId progress.session
    omega

def unknownFlows (ctx : UpContext) (item : ModifyItem) : List QosFlowItem :=
  item.qosFlowsToAddOrModify.items.filter fun flow => !ctx.qosFlowMap.contains flow.qosFlowId

lemma sum_unknown (flows : List QosFlowItem) (cost : Nat) :
    (flows.map fun flow => if ctx.qosFlowMap.contains flow.qosFlowId then 0 else cost).sum =
      (flows.filter fun flow => !ctx.qosFlowMap.contains flow.qosFlowId).length * cost := by
  induction flows with
  | nil => exact (Nat.zero_mul cost).symm
  | cons flow rest ih =>
    rw [map_cons, sum_cons, ih, filter_cons]
    cases ctx.qosFlowMap.contains flow.qosFlowId with
    | true => simp
    | false =>
      simp only [Bool.not_false, if_true, length_cons, Bool.false_eq_true, if_false]
      ring

lemma modifySession_size (h : modifySession cfg ctx update item = .ok after) :
    (newDrbIds after).length ≤
      (newDrbIds update).length + (unknownFlows ctx item).length * flowCost cfg ctx := by
  obtain ⟨context, progress, drbIds, -, hflows, -, -, -, rfl⟩ := modifySession_eq_ok h
  have hsize := foldlM_ok_size_le (fun progress : Progress => (newIds progress.session).length)
    (fun flow : QosFlowItem => if ctx.qosFlowMap.contains flow.qosFlowId then 0
      else flowCost cfg ctx) (fun _ _ _ => addOrModify_size) hflows
  rw [sum_unknown, newIds_empty] at hsize
  have hids := idsOf_emplace_length update.pduSessionsToModify item.pduSessionId
    { progress.session with drbToRemove := drbIds }
  have hsame : newIds { progress.session with drbToRemove := drbIds } =
    newIds progress.session := rfl
  rw [newDrbIds_eq, newDrbIds_eq, length_append, length_append, unknownFlows]
  rw [hsame] at hids
  dsimp only at hids ⊢
  omega

lemma releaseSession_size (h : releaseSession ctx update id = .ok after) :
    (newDrbIds after).length ≤ (newDrbIds update).length + 0 := by
  rw [releaseSession] at h
  split at h
  · cases h
  · cases h
    exact le_rfl

lemma calculateUpdate_size (h : calculateUpdate cfg ctx request = .ok update) :
    (newDrbIds update).length ≤ (newFlows ctx request).length * flowCost cfg ctx := by
  cases request with
  | setup request =>
    have hsize := foldlM_ok_size_le (fun update => (newDrbIds update).length)
      (fun item : SetupItem => item.qosFlows.items.length * flowCost cfg ctx)
      (fun _ _ _ => setupSession_size) h
    rw [sum_map_mul_right] at hsize
    simp only [newFlows, length_flatMap, length_map]
    exact Nat.le_trans hsize (Nat.le_of_eq (Nat.zero_add _))
  | modify request =>
    have hsize := foldlM_ok_size_le (fun update => (newDrbIds update).length)
      (fun item : ModifyItem => (unknownFlows ctx item).length * flowCost cfg ctx)
      (fun _ _ _ => modifySession_size) h
    rw [sum_map_mul_right] at hsize
    simp only [newFlows, length_flatMap, length_map]
    exact Nat.le_trans hsize (Nat.le_of_eq (Nat.zero_add _))
  | release command =>
    have hsize := foldlM_ok_invariant (fun update => (newDrbIds update).length ≤ 0) h
      le_rfl fun _ _ _ _ hbefore hafter =>
        Nat.le_trans (releaseSession_size hafter) hbefore
    exact Nat.le_trans hsize (Nat.zero_le _)

end

variable {progress next : Progress} {flow : PduSessionId × QosFlowId}

section

variable {cfg : Config} {ctx : UpContext} {update after : ConfigUpdate}

def HasDrb (session : SessionUpdate) (qfi : QosFlowId) : Prop :=
  ∃ (drbId : DrbId) (drb : DrbContext),
    session.drbToAdd[drbId]? = some drb ∧ drb.qosFlows.contains qfi

def Accounted (update : ConfigUpdate) (flow : PduSessionId × QosFlowId) : Prop :=
  flow ∈ update.notAllocated ∨ ∃ session, HasDrb session flow.2 ∧
    (update.pduSessionsToSetup[flow.1]? = some session ∨
      update.pduSessionsToModify[flow.1]? = some session)

def Progress.Accounted (flow : QosFlowItem) (progress : Progress) : Prop :=
  (progress.session.id, flow.qosFlowId) ∈ progress.notAllocated ∨
    HasDrb progress.session flow.qosFlowId

lemma allocate_keeps {flow other : QosFlowItem} (hother : Progress.Accounted other progress)
    (h : Progress.allocate cfg ctx update progress flow = .ok next) :
    Progress.Accounted other next := by
  obtain ⟨⟨drbId, session⟩, halloc, rfl⟩ := map_eq_ok_iff.mp h
  obtain ⟨hinval, -⟩ | ⟨-, -, hne, -, rfl⟩ := allocateQosFlow_eq_ok halloc
  · rw [if_pos hinval]
    exact hother.imp (mem_append_left _) id
  rw [if_neg hne]
  refine hother.imp id ?_
  rintro ⟨found, drb, hdrb, hflow⟩
  exact ⟨found, drb, getElem?_emplace_of_some _ hdrb, hflow⟩

lemma allocate_accounts {flow : QosFlowItem}
    (h : Progress.allocate cfg ctx update progress flow = .ok next) :
    Progress.Accounted flow next := by
  obtain ⟨⟨drbId, session⟩, halloc, rfl⟩ := map_eq_ok_iff.mp h
  obtain ⟨hinval, -⟩ | ⟨-, hfree, hne, -, rfl⟩ := allocateQosFlow_eq_ok halloc
  · rw [if_pos hinval]
    exact .inl (mem_append_right _ (mem_singleton.mpr rfl))
  rw [if_neg hne]
  simp only [takenDrb, Bool.or_eq_false_iff] at hfree
  refine .inr ⟨drbId, drbOfFlow drbId progress.session ctx.drbMap.isEmpty flow, ?_, ?_⟩
  · rw [getElem?_emplace, if_pos ⟨rfl, (getElem?_eq_none_of_contains _ hfree.1.2)⟩]
  · simp [drbOfFlow]

lemma setupSession_keeps {item : SetupItem} (hflow : Accounted update flow)
    (h : setupSession cfg ctx update item = .ok after) : Accounted after flow := by
  obtain ⟨progress, -, -, -, rfl⟩ := setupSession_eq_ok h
  refine hflow.imp (mem_append_left _) ?_
  rintro ⟨session, hdrb, hsess⟩
  refine ⟨session, hdrb, hsess.imp ?_ id⟩
  intro hsetup
  split
  · exact hsetup
  · exact getElem?_emplace_of_some _ hsetup

lemma setupSession_accounts {item : SetupItem}
    (hnew : update.pduSessionsToSetup[item.pduSessionId]? = none)
    (h : setupSession cfg ctx update item = .ok after) :
    ∀ flow ∈ item.qosFlows.items, Accounted after (item.pduSessionId, flow.qosFlowId) := by
  obtain ⟨progress, -, hflows, hid, rfl⟩ := setupSession_eq_ok h
  have haccounted := foldlM_ok_forall_mem Progress.Accounted
    (fun _ _ _ _ hother hnext => allocate_keeps hother hnext) hflows
    (fun _ _ _ _ hnext => allocate_accounts hnext)
  intro flow hmem
  obtain hrepd | hdrb := haccounted flow hmem
  · rw [hid] at hrepd
    exact .inl (mem_append_right _ hrepd)
  refine .inr ⟨progress.session, hdrb, .inl ?_⟩
  obtain ⟨drbId, drb, hdrb, -⟩ := hdrb
  have hnil : ¬ progress.session.drbToAdd.isEmpty := by
    rw [TreeMap.isEmpty_iff_forall_not_mem]
    intro hall
    apply hall drbId
    rw [TreeMap.mem_iff_isSome_getElem?, hdrb]
    rfl
  rw [if_neg hnil, getElem?_emplace, hnew, if_pos ⟨rfl, rfl⟩]

lemma setupSession_vacant {item : SetupItem} (hne : id ≠ item.pduSessionId)
    (hvacant : update.pduSessionsToSetup[id]? = none)
    (h : setupSession cfg ctx update item = .ok after) : after.pduSessionsToSetup[id]? = none := by
  obtain ⟨progress, -, -, -, rfl⟩ := setupSession_eq_ok h
  split
  · exact hvacant
  · rwa [getElem?_emplace, if_neg fun heq => hne heq.1]

lemma modifySession_keeps (hflow : Accounted update flow)
    (h : modifySession cfg ctx update item = .ok after) : Accounted after flow := by
  obtain ⟨context, progress, drbIds, -, -, -, -, -, rfl⟩ := modifySession_eq_ok h
  refine hflow.imp (mem_append_left _) ?_
  rintro ⟨session, hdrb, hsess⟩
  exact ⟨session, hdrb, hsess.imp id (getElem?_emplace_of_some _)⟩

lemma modifySession_accounts (hnew : update.pduSessionsToModify[item.pduSessionId]? = none)
    (h : modifySession cfg ctx update item = .ok after) :
    ∀ flow ∈ unknownFlows ctx item, Accounted after (item.pduSessionId, flow.qosFlowId) := by
  obtain ⟨context, progress, drbIds, -, hflows, -, hid, -, rfl⟩ := modifySession_eq_ok h
  have haccounted := foldlM_ok_forall_mem
    (fun flow progress => ¬ ctx.qosFlowMap.contains flow.qosFlowId →
      Progress.Accounted flow progress)
    (fun _ _ _ _ hother hnext => by
      obtain ⟨-, drbId, drb, -, rfl⟩ | ⟨-, halloc⟩ := addOrModify_eq_ok hnext
      · exact hother
      · exact fun hunknown => allocate_keeps (hother hunknown) halloc) hflows
    (fun _ _ _ _ hnext _ => by
      obtain ⟨hknown, -⟩ | ⟨-, halloc⟩ := addOrModify_eq_ok hnext
      · contradiction
      · exact allocate_accounts halloc)
  intro flow hmem
  obtain ⟨hmem, hunknown⟩ := mem_filter.mp hmem
  rw [Bool.not_eq_true'] at hunknown
  obtain hrepd | hdrb := haccounted flow hmem (Bool.eq_false_iff.mp hunknown)
  · rw [hid] at hrepd
    exact .inl (mem_append_right _ hrepd)
  · refine .inr ⟨{ progress.session with drbToRemove := drbIds }, hdrb, .inr ?_⟩
    rw [getElem?_emplace, hnew, if_pos ⟨rfl, rfl⟩]

lemma modifySession_vacant (hne : id ≠ item.pduSessionId)
    (hvacant : update.pduSessionsToModify[id]? = none)
    (h : modifySession cfg ctx update item = .ok after) :
    after.pduSessionsToModify[id]? = none := by
  obtain ⟨context, progress, drbIds, -, -, -, -, -, rfl⟩ := modifySession_eq_ok h
  rwa [getElem?_emplace, if_neg fun heq => hne heq.1]

lemma calculateUpdate_accounts (h : calculateUpdate cfg ctx request = .ok update) :
    ∀ flow ∈ newFlows ctx request, Accounted update flow := by
  intro flow hflow
  cases request with
  | setup request =>
    obtain ⟨item, hitem, hflow⟩ := mem_flatMap.mp hflow
    obtain ⟨flow, hmem, rfl⟩ := mem_map.mp hflow
    have haccounted := foldlM_ok_forall_mem_of_vacant SetupItem.pduSessionId
      (fun id update => update.pduSessionsToSetup[id]? = none)
      (fun item update => ∀ flow ∈ item.qosFlows.items,
        Accounted update (item.pduSessionId, flow.qosFlowId))
      (fun _ _ _ _ hbefore hafter flow hmem =>
        setupSession_keeps (hbefore flow hmem) hafter)
      (fun _ _ _ _ => setupSession_vacant)
      (fun _ _ _ => setupSession_accounts) request.distinct
      (fun item _ => TreeMap.getElem?_emptyc) h
    exact haccounted item hitem flow hmem
  | modify request =>
    obtain ⟨item, hitem, hflow⟩ := mem_flatMap.mp hflow
    obtain ⟨flow, hmem, rfl⟩ := mem_map.mp hflow
    have haccounted := foldlM_ok_forall_mem_of_vacant ModifyItem.pduSessionId
      (fun id update => update.pduSessionsToModify[id]? = none)
      (fun item update => ∀ flow ∈ unknownFlows ctx item,
        Accounted update (item.pduSessionId, flow.qosFlowId))
      (fun _ _ _ _ hbefore hafter flow hmem =>
        modifySession_keeps (hbefore flow hmem) hafter)
      (fun _ _ _ _ => modifySession_vacant)
      (fun _ _ _ => modifySession_accounts) request.distinct
      (fun item _ => TreeMap.getElem?_emptyc) h
    exact haccounted item hitem flow hmem
  | release command => exact absurd hflow not_mem_nil

end

section

variable {cfg : Config}

/-- The UE has reached its limit, or stays within it when every new flow gets a DRB. -/
def Fits (cfg : Config) (ue : Ue) : Event → Prop
  | .calculate request =>
    ue.pending.isSome ∨ isValid cfg ue.context request = false ∨
      cfg.maxNofDrbsPerUe ≤ getNofDrbs ue.context ∨
      getNofDrbs ue.context +
        min (newFlows ue.context request).length (getNofAvailableDrbIds ue.context) ≤
          cfg.maxNofDrbsPerUe
  | .apply => True
  | .refreshKeys => True

instance Fits.decidable (cfg : Config) (ue : Ue) (event : Event) :
    Decidable (Fits cfg ue event) := by
  cases event <;> dsimp only [Fits] <;> infer_instance

structure Limited (cfg : Config) (ue : Ue) : Prop where
  inv : Inv ue
  current : getNofDrbs ue.context ≤ cfg.maxNofDrbsPerUe
  pending : ∀ update, ue.pending = some update →
    getNofDrbs ue.context + (newDrbIds update).length ≤ cfg.maxNofDrbsPerUe

lemma length_newDrbIds_le {given : List DrbId} {ctx : UpContext} (htracks : Tracks given ctx)
    (hprep : Prepared given ctx update) :
    (newDrbIds update).length ≤ getNofAvailableDrbIds ctx := by
  have hnodup : (given ++ newDrbIds update).Nodup := by
    rw [nodup_append]
    refine ⟨htracks.nodup, hprep.ids.nodup, ?_⟩
    rintro drbId hgiven other hnew rfl
    exact hprep.ids.fresh drbId hnew hgiven
  have hsub : given ++ newDrbIds update ⊆ range' 1 maxNofDrbs := by
    intro drbId hmem
    have hvalid : 1 ≤ drbId ∧ drbId ≤ maxNofDrbs :=
      (mem_append.mp hmem).elim (htracks.valid drbId) (hprep.ids.valid drbId)
    rw [mem_range'_1, Nat.add_comm]
    exact ⟨hvalid.1, Nat.lt_succ_of_le hvalid.2⟩
  have hlen := (hnodup.subperm hsub).length_le
  rw [length_append, length_range'] at hlen
  rw [getNofAvailableDrbIds, getNofUsedDrbIds, card_usedDrbIds htracks]
  omega

lemma step_limited {ue next : Ue} {event : Event} (h : Limited cfg ue) (hfits : Fits cfg ue event)
    (hok : step cfg ue event = .ok next) : Limited cfg next := by
  have hinv := step_inv h.inv hok
  obtain ⟨⟨-, htracks, -, -, -⟩, hcur, hpend⟩ := h
  cases event with
  | calculate request =>
    rw [step] at hok
    split_ifs at hok with hready
    · cases hok
      exact ⟨hinv, hcur, hpend⟩
    rw [Bool.or_eq_true, not_or, Bool.not_eq_true', Bool.not_eq_false] at hready
    obtain ⟨update, hupdate, rfl⟩ := map_eq_ok_iff.mp hok
    refine ⟨hinv, hcur, ?_⟩
    intro found hfound
    cases hfound
    have hsize := calculateUpdate_size hupdate
    have havailable :=
      length_newDrbIds_le htracks (calculateUpdate_prepared htracks hupdate)
    rw [flowCost] at hsize
    obtain hwaits | hinval | hfull | hroom := hfits
    · exact absurd hwaits hready.1
    · rw [hready.2] at hinval
      cases hinval
    · rw [if_pos hfull] at hsize
      dsimp only
      omega
    split at hsize
    · dsimp only
      omega
    · dsimp only
      omega
  | apply =>
    rw [step] at hok
    split at hok
    · cases hok
      exact ⟨hinv, hcur, hpend⟩
    rename_i update hupdate
    obtain ⟨context, hctx, rfl⟩ := map_eq_ok_iff.mp hok
    refine ⟨hinv, ?_, fun _ hnone => by cases hnone⟩
    exact Nat.le_trans (applyConfigUpdate_size hctx) (hpend update hupdate)
  | refreshKeys =>
    cases hok
    exact ⟨hinv, hcur, hpend⟩

/-- The UE has no more DRBs than it may have, and every flow that needs one gets it or is
reported. -/
def KeepsLimit (cfg : Config) (ue : Ue) : Prop :=
  getNofDrbs ue.context ≤ cfg.maxNofDrbsPerUe ∧
    ∀ request update, calculateUpdate cfg ue.context request = .ok update →
      ∀ flow ∈ newFlows ue.context request, Accounted update flow

/-- In every run whose requests fit. -/
theorem keepsLimit_of_fits (cfg : Config) (events : List Event) (ue : Ue)
    (hfits : GuardedRun (step cfg) (Fits cfg) {} events)
    (hrun : events.foldlM (step cfg) {} = .ok ue) : KeepsLimit cfg ue := by
  have hinit : Limited cfg {} := ⟨init_inv, Nat.zero_le _, nofun⟩
  have hlimited := GuardedRun.invariant (Limited cfg) (fun _ _ _ => step_limited) hfits hrun hinit
  exact ⟨hlimited.current, fun _ _ => calculateUpdate_accounts⟩

def twoFlows : List Event :=
  [.calculate (setupOf 1 firstFlows firstFlows_nodup), .apply]

theorem twoFlows_keepsLimit : ∃ ue, twoFlows.foldlM (step ⟨[9], 2⟩) {} = .ok ue ∧
    getNofDrbs ue.context = 2 ∧ KeepsLimit ⟨[9], 2⟩ ue := by
  have hnof : (twoFlows.foldlM (step ⟨[9], 2⟩) {}).map (fun ue => getNofDrbs ue.context) =
      .ok 2 := by decide +kernel
  obtain ⟨ue, hrun, heq⟩ := map_eq_ok_iff.mp hnof
  exact ⟨ue, hrun, heq, keepsLimit_of_fits _ _ ue (by decide +kernel) hrun⟩

theorem twoFlows_exceeds : ∃ ue, twoFlows.foldlM (step ⟨[9], 1⟩) {} = .ok ue ∧
    ¬ KeepsLimit ⟨[9], 1⟩ ue := by
  have hnof : (twoFlows.foldlM (step ⟨[9], 1⟩) {}).map (fun ue => getNofDrbs ue.context) =
      .ok 2 := by decide +kernel
  obtain ⟨ue, hrun, heq⟩ := map_eq_ok_iff.mp hnof
  refine ⟨ue, hrun, fun hkeeps => ?_⟩
  have hle := hkeeps.1
  rw [heq] at hle
  exact absurd hle (by decide)

end

end ProtoRu.Drb
