import ProtoRu.UpContextConsistency

namespace ProtoRu.Drb

open Std (TreeMap)
open OrderedMaps Progress List

def sessionUpdates (update : ConfigUpdate) : List SessionUpdate :=
  update.pduSessionsToSetup.toList.map Prod.snd ++ update.pduSessionsToModify.toList.map Prod.snd

def newDrbIds (update : ConfigUpdate) : List DrbId := (sessionUpdates update).flatMap newIds

structure FreshIds (given ids : List DrbId) : Prop where
  nodup : ids.Nodup
  valid : ∀ drbId ∈ ids, 1 ≤ drbId ∧ drbId ≤ maxNofDrbs
  fresh : ∀ drbId ∈ ids, drbId ∉ given

section

variable {cfg : Config} {ctx : UpContext} {given : List DrbId} {ids others : List DrbId}

lemma FreshIds.perm (h : FreshIds given ids) (hperm : ids.Perm others) : FreshIds given others :=
  ⟨hperm.nodup_iff.mp h.nodup, fun drbId hmem => h.valid drbId (hperm.mem_iff.mpr hmem),
    fun drbId hmem => h.fresh drbId (hperm.mem_iff.mpr hmem)⟩

variable {drbId : DrbId} {update after : ConfigUpdate} {session : SessionUpdate}
  {flow : QosFlowItem} {progress : Progress}

lemma FreshIds.cons {ids : List DrbId} (h : FreshIds given ids)
    (hvalid : 1 ≤ drbId ∧ drbId ≤ maxNofDrbs) (hnew : drbId ∉ ids) (hfresh : drbId ∉ given) :
    FreshIds given (drbId :: ids) :=
  ⟨nodup_cons.mpr ⟨hnew, h.nodup⟩, forall_mem_cons.mpr ⟨hvalid, h.valid⟩,
    forall_mem_cons.mpr ⟨hfresh, h.fresh⟩⟩

lemma FreshIds.sublist (h : FreshIds given ids) (hsub : others.Sublist ids) :
    FreshIds given others :=
  ⟨h.nodup.sublist hsub, fun drbId hmem => h.valid drbId (hsub.subset hmem),
    fun drbId hmem => h.fresh drbId (hsub.subset hmem)⟩

lemma FreshIds.nil : FreshIds given [] := ⟨nodup_nil, nofun, nofun⟩

def idsOf (sessions : TreeMap PduSessionId SessionUpdate) : List DrbId :=
  (sessions.toList.map Prod.snd).flatMap newIds

lemma newDrbIds_eq (update : ConfigUpdate) :
    newDrbIds update = idsOf update.pduSessionsToSetup ++ idsOf update.pduSessionsToModify :=
  flatMap_append

lemma idsOf_emplace (sessions : TreeMap PduSessionId SessionUpdate) (id : PduSessionId)
    (session : SessionUpdate) :
    (idsOf (sessions.insertIfNew id session)).Perm (newIds session ++ idsOf sessions) ∨
      (idsOf (sessions.insertIfNew id session)).Perm (idsOf sessions) :=
  flatMap_emplace sessions newIds id session

lemma containsDrb_iff : update.containsDrb drbId ↔ drbId ∈ newDrbIds update := by
  rw [ConfigUpdate.containsDrb, Bool.or_eq_true, any_eq_true, any_eq_true, newDrbIds,
    sessionUpdates, flatMap_append, mem_append, flatMap_map, flatMap_map,
    mem_flatMap, mem_flatMap]
  simp [newIds]

lemma nextFree_spec (taken : DrbId → Bool) (rounds drbId : Nat) (hpos : 1 ≤ drbId)
    (hle : drbId ≤ maxNofDrbs) (hrounds : maxNofDrbs < drbId + rounds) :
    nextFree taken rounds drbId = invalidDrb ∨
      ((1 ≤ nextFree taken rounds drbId ∧ nextFree taken rounds drbId ≤ maxNofDrbs) ∧
        taken (nextFree taken rounds drbId) = false) := by
  induction rounds generalizing drbId with
  | zero => omega
  | succ rounds ih =>
    rw [nextFree]
    split
    · split_ifs with hne
      · exact .inl rfl
      · have hlast : drbId ≠ maxNofDrbs := fun heq => hne (heq ▸ rfl)
        exact ih (drbId + 1) (by omega) (by omega) (by omega)
    · rename_i hfree
      exact .inr ⟨⟨hpos, hle⟩, Bool.eq_false_iff.mpr hfree⟩

lemma allocateQosFlow_eq_ok {after : SessionUpdate}
    (h : allocateQosFlow cfg ctx session flow update = .ok (drbId, after)) :
    (drbId = invalidDrb ∧ after = session) ∨
      ((1 ≤ drbId ∧ drbId ≤ maxNofDrbs) ∧ takenDrb ctx session update drbId = false ∧
        drbId ≠ invalidDrb ∧ ctx.drbMap.size < cfg.maxNofDrbsPerUe ∧
        after = { session with
          drbToAdd := session.drbToAdd.insertIfNew drbId
            (drbOfFlow drbId session ctx.drbMap.isEmpty flow) }) := by
  rw [allocateQosFlow] at h
  split at h
  · cases h
  split_ifs at h with hroom
  · cases h
    exact .inl ⟨rfl, rfl⟩
  dsimp only at h
  split at h
  · rename_i hinval
    cases h
    exact .inl ⟨hinval, rfl⟩
  rename_i hne
  cases h
  rw [allocateDrbId, if_neg hroom] at hne ⊢
  obtain hinval | ⟨hvalid, hfree⟩ := nextFree_spec (takenDrb ctx session update)
    maxNofDrbs drb1 (by decide) (by decide) (by decide)
  · exact absurd hinval hne
  · exact .inr ⟨hvalid, hfree, hne, Nat.lt_of_not_le hroom, rfl⟩

lemma fresh_of_not_taken (htracks : Tracks given ctx)
    (h : takenDrb ctx session update drbId = false) :
    drbId ∉ newIds session ++ newDrbIds update ∧ drbId ∉ given := by
  simp only [takenDrb, Bool.or_eq_false_iff, decide_eq_false_iff_not] at h
  obtain ⟨⟨⟨-, hupdate⟩, hsess⟩, hused⟩ := h
  refine ⟨?_, ?_⟩
  · rw [mem_append, not_or]
    refine ⟨?_, ?_⟩
    · rw [newIds, TreeMap.mem_keys, ← TreeMap.contains_iff_mem, hsess]
      exact nofun
    · rw [← containsDrb_iff, hupdate]
      exact nofun
  · intro hgiven
    apply hused
    rw [htracks.used, mem_toFinset]
    exact mem_map_of_mem hgiven

lemma allocate_frame {after : Progress}
    (hok : allocate cfg ctx update progress flow = .ok after) :
    ∃ drbs, after.session = { progress.session with drbToAdd := drbs } := by
  obtain ⟨⟨drbId, session⟩, halloc, rfl⟩ := map_eq_ok_iff.mp hok
  obtain ⟨hinval, -⟩ | ⟨-, -, hne, -, rfl⟩ := allocateQosFlow_eq_ok halloc
  · rw [if_pos hinval]
    exact ⟨_, rfl⟩
  · rw [if_neg hne]
    exact ⟨_, rfl⟩

lemma allocate_fresh {after : Progress} (htracks : Tracks given ctx)
    (h : FreshIds given (newIds progress.session ++ newDrbIds update))
    (hok : allocate cfg ctx update progress flow = .ok after) :
    FreshIds given (newIds after.session ++ newDrbIds update) := by
  obtain ⟨⟨drbId, session⟩, halloc, rfl⟩ := map_eq_ok_iff.mp hok
  obtain ⟨hinval, -⟩ | ⟨hvalid, hfree, hne, -, rfl⟩ := allocateQosFlow_eq_ok halloc
  · rw [if_pos hinval]
    exact h
  rw [if_neg hne]
  obtain ⟨hnew, hfresh⟩ := fresh_of_not_taken htracks hfree
  apply (h.cons hvalid hnew hfresh).perm
  rw [← cons_append]
  apply List.Perm.append_right
  apply (keys_emplace_perm _ _ _).symm
  rw [mem_append, not_or, newIds, mem_keys_iff] at hnew
  exact Option.eq_none_iff_forall_ne_some.mpr fun drb hdrb => hnew.1 ⟨drb, hdrb⟩

lemma addOrModify_eq_ok {after : Progress}
    (hok : addOrModify cfg ctx update progress flow = .ok after) :
    (ctx.qosFlowMap.contains flow.qosFlowId ∧ ∃ drbId drb,
        ctx.qosFlowMap[flow.qosFlowId]? = some drbId ∧ after =
          { progress with session := { progress.session with
              drbToModify := progress.session.drbToModify.insertIfNew drbId drb } }) ∨
      (¬ ctx.qosFlowMap.contains flow.qosFlowId ∧
        allocate cfg ctx update progress flow = .ok after) := by
  rw [addOrModify] at hok
  split_ifs at hok with hknown
  · refine .inl ⟨hknown, ?_⟩
    obtain ⟨known, hflow⟩ := (contains_iff _).mp hknown
    obtain ⟨⟨drbId, session⟩, hmod, rfl⟩ := map_eq_ok_iff.mp hok
    rw [modifyQosFlow, hflow] at hmod
    dsimp only at hmod
    split at hmod
    · cases hmod
    · cases hmod
      exact ⟨_, _, hflow, rfl⟩
  · exact .inr ⟨hknown, hok⟩

lemma releaseFlow_eq_ok {context : PduSessionContext} {after : SessionUpdate} {qfi : QosFlowId}
    (h : releaseFlow ctx context session qfi = .ok after) :
    ∃ drbIds, after = { session with drbToRemove := session.drbToRemove ++ drbIds } := by
  rw [releaseFlow] at h
  split at h
  · cases h
  split at h
  · cases h
  split at h
  · cases h
  split at h
  · cases h
    exact ⟨_, rfl⟩
  · cases h
    exact ⟨[], by rw [append_nil]⟩

/-- Sessions are under their identifiers, new ones where there are none, with fresh identities. -/
structure Prepared (given : List DrbId) (ctx : UpContext) (update : ConfigUpdate) : Prop where
  setupIds : ∀ id (session : SessionUpdate), update.pduSessionsToSetup[id]? = some session →
    session.id = id ∧ ctx.pduSessions[id]? = none
  modifyIds : ∀ id (session : SessionUpdate), update.pduSessionsToModify[id]? = some session →
    session.id = id
  ids : FreshIds given (newDrbIds update)

lemma setupSession_eq_ok {item : SetupItem} (h : setupSession cfg ctx update item = .ok after) :
    ∃ progress : Progress, ctx.pduSessions.contains item.pduSessionId = false ∧
      item.qosFlows.items.foldlM (allocate cfg ctx update)
        { session := { id := item.pduSessionId } } = .ok progress ∧
      progress.session.id = item.pduSessionId ∧
      after = { update with
        notAllocated := update.notAllocated ++ progress.notAllocated
        pduSessionsToSetup :=
          if progress.session.drbToAdd.isEmpty then update.pduSessionsToSetup
          else update.pduSessionsToSetup.insertIfNew item.pduSessionId progress.session } := by
  rw [setupSession] at h
  split at h
  · cases h
  rename_i hnew
  obtain ⟨progress, hflows, rfl⟩ := map_eq_ok_iff.mp h
  have hid : progress.session.id = item.pduSessionId :=
    foldlM_ok_invariant (fun progress => progress.session.id = item.pduSessionId) hflows rfl
      fun _ _ _ _ hbefore hnext => by
        obtain ⟨drbs, hdrbs⟩ := allocate_frame hnext
        rw [hdrbs]
        exact hbefore
  exact ⟨progress, Bool.eq_false_iff.mpr hnew, hflows, hid, by rw [hid]⟩

lemma addOrModify_frame {after : Progress}
    (hok : addOrModify cfg ctx update progress flow = .ok after) :
    after.session.id = progress.session.id ∧
      after.session.drbToRemove = progress.session.drbToRemove := by
  obtain ⟨-, drbId, drb, -, rfl⟩ | ⟨-, halloc⟩ := addOrModify_eq_ok hok
  · exact ⟨rfl, rfl⟩
  · obtain ⟨drbs, hdrbs⟩ := allocate_frame halloc
    rw [hdrbs]
    exact ⟨rfl, rfl⟩

lemma modifySession_eq_ok {item : ModifyItem} (h : modifySession cfg ctx update item = .ok after)
    :
    ∃ context progress drbIds, ctx.pduSessions[item.pduSessionId]? = some context ∧
      item.qosFlowsToAddOrModify.items.foldlM (addOrModify cfg ctx update)
        { session := { id := item.pduSessionId } } = .ok progress ∧
      item.qosFlowsToRelease.items.foldlM (releaseFlow ctx context) progress.session =
        .ok { progress.session with drbToRemove := drbIds } ∧
      progress.session.id = item.pduSessionId ∧ progress.session.drbToRemove = [] ∧
      after = { update with
        notAllocated := update.notAllocated ++ progress.notAllocated
        pduSessionsFailedToModify := update.pduSessionsFailedToModify ++
          progress.notAllocated.map fun _ => item.pduSessionId
        pduSessionsToModify := update.pduSessionsToModify.insertIfNew item.pduSessionId
          { progress.session with drbToRemove := drbIds } } := by
  rw [modifySession] at h
  split at h
  · cases h
  rename_i context hctx
  obtain ⟨progress, hflows, hrest⟩ := bind_eq_ok_iff.mp h
  obtain ⟨session, hrel, rfl⟩ := map_eq_ok_iff.mp hrest
  obtain ⟨hid, hremove⟩ := foldlM_ok_invariant
    (fun progress : Progress => progress.session.id = item.pduSessionId ∧
      progress.session.drbToRemove = []) hflows ⟨rfl, rfl⟩
    fun _ _ _ _ hbefore hnext => by
      obtain ⟨hsame, hremove⟩ := addOrModify_frame hnext
      exact ⟨hsame.trans hbefore.1, hremove.trans hbefore.2⟩
  obtain ⟨drbIds, rfl⟩ : ∃ drbIds, session = { progress.session with drbToRemove := drbIds } :=
    foldlM_ok_invariant
      (fun session => ∃ drbIds, session = { progress.session with drbToRemove := drbIds })
      hrel ⟨_, rfl⟩
      fun _ _ _ _ hbefore hnext => by
        obtain ⟨drbIds, rfl⟩ := hbefore
        obtain ⟨more, rfl⟩ := releaseFlow_eq_ok hnext
        exact ⟨_, rfl⟩
  exact ⟨context, progress, drbIds, hctx, hflows, hrel, hid, hremove, by rw [hid]⟩

section

variable (htracks : Tracks given ctx) (h : Prepared given ctx update)

include htracks h

lemma setupSession_prepared {item : SetupItem}
    (hok : setupSession cfg ctx update item = .ok after) : Prepared given ctx after := by
  obtain ⟨progress, hnew, hflows, hid, rfl⟩ := setupSession_eq_ok hok
  have hids : FreshIds given (newIds progress.session ++ newDrbIds update) :=
    foldlM_ok_invariant (fun progress => FreshIds given (newIds progress.session ++ _)) hflows h.ids
      fun _ _ _ _ hbefore hnext => allocate_fresh htracks hbefore hnext
  split
  · exact ⟨h.setupIds, h.modifyIds, h.ids⟩
  refine ⟨?_, h.modifyIds, ?_⟩
  · intro id session hsess
    rw [getElem?_emplace] at hsess
    split_ifs at hsess with heq
    · obtain rfl := Option.some.inj hsess
      rw [heq.1]
      exact ⟨hid, getElem?_eq_none_of_contains _ hnew⟩
    · exact h.setupIds id session hsess
  · rw [newDrbIds_eq] at hids ⊢
    obtain hperm | hperm :=
      idsOf_emplace update.pduSessionsToSetup item.pduSessionId progress.session
    · apply hids.perm
      rw [← append_assoc]
      exact hperm.symm.append_right _
    · exact (hids.sublist (sublist_append_right _ _)).perm (hperm.symm.append_right _)

lemma modifySession_prepared {item : ModifyItem}
    (hok : modifySession cfg ctx update item = .ok after) : Prepared given ctx after := by
  obtain ⟨context, progress, drbIds, -, hflows, -, hid, -, rfl⟩ := modifySession_eq_ok hok
  have hids : FreshIds given (newIds progress.session ++ newDrbIds update) :=
    foldlM_ok_invariant (fun progress => FreshIds given (newIds progress.session ++ _)) hflows h.ids
      fun _ _ _ _ hbefore hnext => by
        obtain ⟨-, drbId, drb, -, rfl⟩ | ⟨-, halloc⟩ := addOrModify_eq_ok hnext
        · exact hbefore
        · exact allocate_fresh htracks hbefore halloc
  refine ⟨h.setupIds, ?_, ?_⟩
  · intro id session hsess
    rw [getElem?_emplace] at hsess
    split_ifs at hsess with heq
    · obtain rfl := Option.some.inj hsess
      rw [heq.1]
      exact hid
    · exact h.modifyIds id session hsess
  · rw [newDrbIds_eq] at hids ⊢
    obtain hperm | hperm := idsOf_emplace update.pduSessionsToModify item.pduSessionId
      { progress.session with drbToRemove := drbIds }
    · apply hids.perm
      exact (perm_append_comm_assoc _ _ _).trans (hperm.symm.append_left _)
    · exact (hids.sublist (sublist_append_right _ _)).perm (hperm.symm.append_left _)

end

lemma releaseSession_prepared {id : PduSessionId} (h : Prepared given ctx update)
    (hok : releaseSession ctx update id = .ok after) : Prepared given ctx after := by
  rw [releaseSession] at hok
  split at hok
  · cases hok
  · cases hok
    exact ⟨h.setupIds, h.modifyIds, h.ids⟩

lemma prepared_empty (initial : Bool) :
    Prepared given ctx { initialContextCreation := initial } :=
  ⟨fun _ _ hsess => by simp at hsess, fun _ _ hsess => by simp at hsess, FreshIds.nil⟩

lemma calculateUpdate_prepared {request : Request} (htracks : Tracks given ctx)
    (hok : calculateUpdate cfg ctx request = .ok update) : Prepared given ctx update := by
  cases request with
  | setup request =>
    exact foldlM_ok_invariant (Prepared given ctx) hok (prepared_empty _)
      fun before _ next _ hbefore hnext => setupSession_prepared htracks hbefore hnext
  | modify request =>
    exact foldlM_ok_invariant (Prepared given ctx) hok (prepared_empty _)
      fun _ _ _ _ hbefore hnext => modifySession_prepared htracks hbefore hnext
  | release command =>
    exact foldlM_ok_invariant (Prepared given ctx) hok (prepared_empty _)
      fun _ _ _ _ hbefore hnext => releaseSession_prepared hbefore hnext

end

end ProtoRu.Drb
