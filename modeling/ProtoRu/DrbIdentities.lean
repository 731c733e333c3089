import ProtoRu.DrbAllocation

/-!
The identities of the DRBs of a UE over its updates and changes of the keys: an update takes
identities that no DRB has had since the last change, so that no key is used with one
identity for two DRBs.
-/

namespace ProtoRu.Drb

open Std (TreeMap)
open OrderedMaps List

section

variable {ctx after : UpContext} {given : List DrbId}

lemma map_id_sessions {sessions : TreeMap PduSessionId SessionUpdate}
    (h : ∀ id (session : SessionUpdate), sessions[id]? = some session → session.id = id) :
    ((sessions.toList.map Prod.snd).map SessionUpdate.id).Nodup := by
  have heq : (sessions.toList.map Prod.snd).map SessionUpdate.id =
      sessions.toList.map Prod.fst := by
    rw [map_map]
    apply map_congr_left
    intro entry hmem
    exact h entry.1 entry.2 ((mem_toList_iff _).mp hmem)
  rw [heq]
  exact nodup_map_fst_toList sessions

lemma applyConfigUpdate_spec {update : ConfigUpdate} (h : Consistent ctx)
    (htracks : Tracks given ctx) (hprep : Prepared given ctx update)
    (hok : applyConfigUpdate ctx update.result = .ok after) :
    Consistent after ∧ Tracks (given ++ newDrbIds update) after := by
  obtain ⟨added, hadded, hrest⟩ := bind_eq_ok_iff.mp hok
  obtain ⟨modified, hmod, hremd⟩ := bind_eq_ok_iff.mp hrest
  obtain ⟨hnodup, -, hfresh⟩ := hprep.ids
  rw [newDrbIds_eq] at hnodup hfresh ⊢
  obtain ⟨hsetup, hmodify, hdisjoint⟩ := nodup_append.mp hnodup
  obtain ⟨hcons, htrack⟩ := foldlM_sessions_spec
    (fun context => context = none) applyAddedSession_spec h htracks
    (fun _ hmem => by
      obtain ⟨entry, hentry, rfl⟩ := mem_map.mp hmem
      obtain ⟨hid, hnone⟩ := hprep.setupIds entry.1 entry.2 ((mem_toList_iff _).mp hentry)
      rw [hid, hnone])
    (map_id_sessions fun id session hsess => (hprep.setupIds id session hsess).1)
    hsetup (fun drbId hmem => hfresh drbId (mem_append_left _ hmem)) hadded
  obtain ⟨hcons, htrack⟩ := foldlM_sessions_spec (fun _ => True)
    (fun hcons htrack _ => applyModifiedSession_spec hcons htrack)
    hcons htrack (fun _ _ => trivial) (map_id_sessions hprep.modifyIds) hmodify
    (fun drbId hmem hgiven => by
      obtain hold | hnow := mem_append.mp hgiven
      · exact hfresh drbId (mem_append_right _ hmem) hold
      · exact hdisjoint drbId hnow drbId hmem rfl) hmod
  rw [← append_assoc]
  exact foldlM_ok_invariant (fun ctx => Consistent ctx ∧ Tracks _ ctx) hremd ⟨hcons, htrack⟩
    fun _ _ _ _ hbefore hnext => applyRemovedSession_spec hbefore.1 hbefore.2 hnext

end

section

def currentDrbs (ctx : UpContext) : List DrbId :=
  ctx.pduSessions.toList.flatMap fun entry => entry.2.drbs.keys

/-- A UE with its pending update, the number of its key, and the identities given with which key.
-/
structure Ue where
  context : UpContext := {}
  pending : Option ConfigUpdate := none
  key : Nat := 0
  given : List DrbId := []
  assigned : List (Nat × DrbId) := []

inductive Event where
  | calculate (request : Request)
  | apply
  | refreshKeys

/-- A request is taken when it is valid and the last update was applied. -/
def step (cfg : Config) (ue : Ue) : Event → Except Fault Ue
  | .calculate request =>
    if ue.pending.isSome || !isValid cfg ue.context request then .ok ue
    else
      (calculateUpdate cfg ue.context request).map fun update =>
        { ue with pending := some update }
  | .apply =>
    match ue.pending with
    | none => .ok ue
    | some update =>
      (applyConfigUpdate ue.context update.result).map fun context =>
        { ue with
          context := context
          pending := none
          given := ue.given ++ newDrbIds update
          assigned := ue.assigned ++ (newDrbIds update).map fun drbId => (ue.key, drbId) }
  | .refreshKeys =>
    .ok { ue with
      context := refreshDrbIdAfterKeyChange ue.context
      key := ue.key + 1
      given := currentDrbs ue.context
      assigned := ue.assigned ++ (currentDrbs ue.context).map fun drbId => (ue.key + 1, drbId) }

variable {cfg : Config} {ctx : UpContext} {given : List DrbId}

variable {drbId : DrbId}

lemma mem_currentDrbs_iff :
    drbId ∈ currentDrbs ctx ↔ ∃ session drb, drb? ctx session drbId = some drb := by
  rw [currentDrbs, mem_flatMap]
  constructor
  · rintro ⟨entry, hentry, hdrb⟩
    obtain ⟨drb, hdrb⟩ := (mem_keys_iff _).mp hdrb
    refine ⟨entry.1, drb, ?_⟩
    rw [drb?, (mem_toList_iff _).mp hentry]
    exact hdrb
  · rintro ⟨session, drb, hdrb⟩
    obtain ⟨context, hctx, hdrb⟩ := Option.bind_eq_some_iff.mp hdrb
    exact ⟨(session, context), (mem_toList_iff _).mpr hctx, (mem_keys_iff _).mpr ⟨drb, hdrb⟩⟩

section

variable (h : Consistent ctx)

include h

lemma mem_currentDrbs_iff_drbMap :
    drbId ∈ currentDrbs ctx ↔ ∃ session, ctx.drbMap[drbId]? = some session := by
  rw [mem_currentDrbs_iff]
  exact exists_congr fun session => (h.drbMap_iff drbId session).symm

lemma mem_keys_drbMap_iff : drbId ∈ ctx.drbMap.keys ↔ drbId ∈ currentDrbs ctx := by
  rw [mem_currentDrbs_iff_drbMap h, mem_keys_iff]

lemma nodup_currentDrbs : (currentDrbs ctx).Nodup := by
  rw [currentDrbs, nodup_flatMap]
  refine ⟨fun entry _ => nodup_keys _, ?_⟩
  apply (pairwise_map.mp (nodup_map_fst_toList ctx.pduSessions)).imp_of_mem
  intro entry other hentry hother hne drbId hhere hthere
  have hsess {entry : PduSessionId × PduSessionContext} (hentry : entry ∈ ctx.pduSessions.toList)
      (hdrb : drbId ∈ entry.2.drbs.keys) : ctx.drbMap[drbId]? = some entry.1 := by
    obtain ⟨drb, hdrb⟩ := (mem_keys_iff _).mp hdrb
    rw [h.drbMap_iff, drb?, (mem_toList_iff _).mp hentry]
    exact ⟨drb, hdrb⟩
  have hsame := (hsess hentry hhere).symm.trans (hsess hother hthere)
  exact hne (Option.some.inj hsame)

lemma refreshDrbIdAfterKeyChange_tracks (htracks : Tracks given ctx) :
    Tracks (currentDrbs ctx) (refreshDrbIdAfterKeyChange ctx) := by
  refine ⟨nodup_currentDrbs h, ?_, ?_, ?_⟩
  · intro drbId hmem
    obtain ⟨session, hsess⟩ := (mem_currentDrbs_iff_drbMap h).mp hmem
    exact htracks.valid drbId (htracks.current drbId session hsess)
  · ext index
    simp [refreshDrbIdAfterKeyChange, mem_keys_drbMap_iff h]
  · intro drbId session hsess
    exact (mem_currentDrbs_iff_drbMap h).mpr ⟨session, hsess⟩

end

lemma card_usedDrbIds (h : Tracks given ctx) : ctx.usedDrbIds.card = given.length := by
  rw [h.used, toFinset_card_of_nodup, length_map]
  apply h.nodup.map_on
  intro drbId hmem other hother heq
  have hpos : 1 ≤ (drbId : Nat) := (h.valid drbId hmem).1
  have hother : 1 ≤ (other : Nat) := (h.valid other hother).1
  exact Nat.sub_one_cancel hpos hother heq

lemma size_drbMap (h : Consistent ctx) (htracks : Tracks given ctx) :
    ctx.drbMap.size = (given.filter fun drbId => drbId ∈ currentDrbs ctx).length := by
  rw [← TreeMap.length_keys]
  apply List.Perm.length_eq
  rw [perm_ext_iff_of_nodup (nodup_keys _) (htracks.nodup.filter _)]
  intro drbId
  rw [mem_keys_drbMap_iff h, mem_filter, decide_eq_true_iff]
  refine ⟨fun hmem => ⟨?_, hmem⟩, And.right⟩
  obtain ⟨session, hsess⟩ := (mem_currentDrbs_iff_drbMap h).mp hmem
  exact htracks.current drbId session hsess

lemma getNofStaleDrbIds_eq (h : Consistent ctx) (htracks : Tracks given ctx) :
    getNofStaleDrbIds ctx = (given.filter fun drbId => drbId ∉ currentDrbs ctx).length := by
  rw [getNofStaleDrbIds, getNofUsedDrbIds, getNofDrbs, card_usedDrbIds htracks,
    size_drbMap h htracks]
  have hsplit := given.length_eq_length_filter_add fun drbId => drbId ∈ currentDrbs ctx
  simp only [decide_not] at hsplit ⊢
  omega

structure Inv (ue : Ue) : Prop where
  consistent : Consistent ue.context
  tracks : Tracks ue.given ue.context
  prepared : ∀ update, ue.pending = some update → Prepared ue.given ue.context update
  assigned : ue.assigned.Nodup
  keys : ∀ entry ∈ ue.assigned, entry.1 ≤ ue.key ∧ (entry.1 = ue.key → entry.2 ∈ ue.given)

lemma nodup_assigned {assigned : List (Nat × DrbId)} {key : Nat} {ids : List DrbId}
    (h : assigned.Nodup) (hids : ids.Nodup) (hnew : ∀ drbId ∈ ids, (key, drbId) ∉ assigned) :
    (assigned ++ ids.map fun drbId => (key, drbId)).Nodup := by
  rw [nodup_append]
  refine ⟨h, hids.map (Prod.mk_right_injective key), ?_⟩
  rintro entry hentry other hother rfl
  obtain ⟨drbId, hmem, rfl⟩ := mem_map.mp hother
  exact hnew drbId hmem hentry

lemma currentDrbs_subset_given (h : Consistent ctx) (htracks : Tracks given ctx)
    (hmem : drbId ∈ currentDrbs ctx) : drbId ∈ given := by
  obtain ⟨session, hsess⟩ := (mem_currentDrbs_iff_drbMap h).mp hmem
  exact htracks.current drbId session hsess

lemma step_inv {ue next : Ue} {event : Event} (h : Inv ue) (hok : step cfg ue event = .ok next) :
    Inv next := by
  obtain ⟨hcons, htracks, hprep, hassigned, hkeys⟩ := h
  cases event with
  | calculate request =>
    rw [step] at hok
    split at hok
    · cases hok
      exact ⟨hcons, htracks, hprep, hassigned, hkeys⟩
    obtain ⟨update, hupdate, rfl⟩ := map_eq_ok_iff.mp hok
    refine ⟨hcons, htracks, ?_, hassigned, hkeys⟩
    intro found hfound
    obtain rfl := Option.some.inj hfound
    exact calculateUpdate_prepared htracks hupdate
  | apply =>
    rw [step] at hok
    split at hok
    · cases hok
      exact ⟨hcons, htracks, hprep, hassigned, hkeys⟩
    rename_i update hpend
    obtain ⟨context, hctx, rfl⟩ := map_eq_ok_iff.mp hok
    have hupdate := hprep update hpend
    obtain ⟨hafter, htrack⟩ := applyConfigUpdate_spec hcons htracks hupdate hctx
    refine ⟨hafter, htrack, nofun, ?_, ?_⟩
    · apply nodup_assigned hassigned hupdate.ids.nodup
      intro drbId hmem hentry
      exact hupdate.ids.fresh drbId hmem ((hkeys _ hentry).2 rfl)
    intro entry hentry
    obtain hold | hnew := mem_append.mp hentry
    · refine ⟨(hkeys entry hold).1, fun heq => mem_append_left _ ?_⟩
      exact (hkeys entry hold).2 heq
    · obtain ⟨drbId, hmem, rfl⟩ := mem_map.mp hnew
      exact ⟨le_rfl, fun _ => mem_append_right _ hmem⟩
  | refreshKeys =>
    cases hok
    refine ⟨⟨hcons.ids, hcons.drbMap_iff⟩,
      refreshDrbIdAfterKeyChange_tracks hcons htracks, ?_, ?_, ?_⟩
    · intro update hpend
      obtain ⟨hsetup, hmodify, hids⟩ := hprep update hpend
      refine ⟨hsetup, hmodify, hids.nodup, hids.valid, ?_⟩
      intro drbId hmem hcur
      exact hids.fresh drbId hmem (currentDrbs_subset_given hcons htracks hcur)
    · apply nodup_assigned hassigned (nodup_currentDrbs hcons)
      intro drbId _ hentry
      have hle := (hkeys _ hentry).1
      exact Nat.not_succ_le_self ue.key hle
    · intro entry hentry
      obtain hold | hnew := mem_append.mp hentry
      · have hle := (hkeys entry hold).1
        refine ⟨Nat.le_succ_of_le hle, fun heq => ?_⟩
        have hkey : entry.1 = ue.key + 1 := heq
        omega
      · obtain ⟨drbId, hmem, rfl⟩ := mem_map.mp hnew
        exact ⟨le_rfl, fun _ => hmem⟩

lemma init_inv : Inv {} where
  consistent := ⟨fun session _ hctx => by simp at hctx, fun _ _ => by
    simp [drb?]⟩
  tracks := ⟨nodup_nil, nofun, rfl, fun _ _ hsess => by simp at hsess⟩
  prepared := nofun
  assigned := nodup_nil
  keys := nofun

/-- The identities in an update are valid, distinct and not given since the last change of keys;
none was given twice with one key, and the stale ones are those of no current DRB. -/
structure Fresh (ue : Ue) : Prop where
  distinct : ∀ update, ue.pending = some update → (newDrbIds update).Nodup
  valid : ∀ update, ue.pending = some update →
    ∀ drbId ∈ newDrbIds update, 1 ≤ drbId ∧ drbId ≤ maxNofDrbs
  unused : ∀ update, ue.pending = some update →
    ∀ drbId ∈ newDrbIds update, drbId ∉ currentDrbs ue.context ∧ drbId ∉ ue.given
  current : (currentDrbs ue.context).Nodup ∧ ∀ drbId ∈ currentDrbs ue.context, drbId ∈ ue.given
  assigned : ue.assigned.Nodup
  stale : getNofStaleDrbIds ue.context =
    (ue.given.filter fun drbId => drbId ∉ currentDrbs ue.context).length

lemma Inv.fresh {ue : Ue} (h : Inv ue) : Fresh ue where
  distinct := fun update hpend => (h.prepared update hpend).ids.nodup
  valid := fun update hpend => (h.prepared update hpend).ids.valid
  unused := by
    intro update hpend drbId hmem
    have hfresh := (h.prepared update hpend).ids.fresh drbId hmem
    exact ⟨fun hcur => hfresh (currentDrbs_subset_given h.consistent h.tracks hcur), hfresh⟩
  current := ⟨nodup_currentDrbs h.consistent,
    fun _ hmem => currentDrbs_subset_given h.consistent h.tracks hmem⟩
  assigned := h.assigned
  stale := getNofStaleDrbIds_eq h.consistent h.tracks

/-- In every run. -/
theorem fresh_of_run (cfg : Config) (events : List Event) (ue : Ue)
    (hrun : events.foldlM (step cfg) {} = .ok ue) : Fresh ue := by
  have hinv : Inv ue := foldlM_ok_invariant Inv hrun init_inv
    fun _ _ _ _ hbefore hafter => step_inv hbefore hafter
  exact hinv.fresh

def setupOf (session : PduSessionId) (flows : List QosFlowItem)
    (h : (flows.map QosFlowItem.qosFlowId).Nodup) : Request :=
  .setup ⟨[⟨session, ⟨flows, h⟩⟩], nodup_singleton _⟩

def modifyOf (session : PduSessionId) (flows : List QosFlowItem) (released : List QosFlowId)
    (h : (flows.map QosFlowItem.qosFlowId).Nodup) (hreleased : (released.map id).Nodup) : Request :=
  .modify ⟨[⟨session, ⟨flows, h⟩, ⟨released, hreleased⟩⟩], nodup_singleton _⟩

def firstFlows : List QosFlowItem := [⟨1, ⟨some 9, 0⟩⟩, ⟨2, ⟨some 9, 0⟩⟩]

lemma firstFlows_nodup : (firstFlows.map QosFlowItem.qosFlowId).Nodup := by decide

def releasedFlow : List Event :=
  [.calculate (setupOf 1 firstFlows firstFlows_nodup), .apply,
    .calculate (modifyOf 1 [] [1] (by decide) (by decide)), .apply,
    .calculate (setupOf 2 [⟨3, ⟨some 9, 0⟩⟩] (by decide)), .apply, .refreshKeys,
    .calculate (modifyOf 1 [⟨4, ⟨some 9, 0⟩⟩] [] (by decide) (by decide)), .apply]

theorem releasedFlow_fresh : ∃ ue, releasedFlow.foldlM (step ⟨[9], 8⟩) {} = .ok ue ∧
    ue.assigned = [(0, 1), (0, 2), (0, 3), (1, 2), (1, 3), (1, 1)] ∧ Fresh ue := by
  have hassigned : (releasedFlow.foldlM (step ⟨[9], 8⟩) {}).map Ue.assigned =
      .ok [(0, 1), (0, 2), (0, 3), (1, 2), (1, 3), (1, 1)] := by decide +kernel
  obtain ⟨ue, hrun, heq⟩ := map_eq_ok_iff.mp hassigned
  exact ⟨ue, hrun, heq, fresh_of_run _ _ ue hrun⟩

/-- The tables of the context agree in every run. -/
theorem consistent_of_run {events : List Event} {ue : Ue}
    (hrun : events.foldlM (step cfg) {} = .ok ue) :
    Consistent ue.context ∧ Tracks ue.given ue.context := by
  have hinv : Inv ue := foldlM_ok_invariant Inv hrun init_inv
    fun _ _ _ _ hbefore hafter => step_inv hbefore hafter
  exact ⟨hinv.consistent, hinv.tracks⟩

theorem releasedFlow_consistent : ∃ ue, releasedFlow.foldlM (step ⟨[9], 8⟩) {} = .ok ue ∧
    Consistent ue.context ∧ Tracks ue.given ue.context := by
  have hkey : (releasedFlow.foldlM (step ⟨[9], 8⟩) {}).map Ue.key = .ok 1 := by decide +kernel
  obtain ⟨ue, hrun, -⟩ := map_eq_ok_iff.mp hkey
  exact ⟨ue, hrun, consistent_of_run hrun⟩

end

end ProtoRu.Drb
