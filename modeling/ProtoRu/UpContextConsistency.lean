import ProtoRu.OrderedMaps
import ProtoRu.TransitionRuns
import ProtoRu.UpResourceManager

namespace ProtoRu.Drb

open Std (TreeMap)
open OrderedMaps List

def drb? (ctx : UpContext) (session : PduSessionId) (drbId : DrbId) : Option DrbContext :=
  ctx.pduSessions[session]?.bind fun context => context.drbs[drbId]?

/-- Sessions are stored under their identifiers, and the map has exactly their DRBs. -/
structure Consistent (ctx : UpContext) : Prop where
  ids : ∀ session (context : PduSessionContext),
    ctx.pduSessions[session]? = some context → context.id = session
  drbMap_iff : ∀ drbId session,
    ctx.drbMap[drbId]? = some session ↔ ∃ drb, drb? ctx session drbId = some drb

/-- The identities given since the last change of the keys. -/
structure Tracks (given : List DrbId) (ctx : UpContext) : Prop where
  nodup : given.Nodup
  valid : ∀ drbId ∈ given, 1 ≤ drbId ∧ drbId ≤ maxNofDrbs
  used : ctx.usedDrbIds = (given.map fun drbId => drbId - 1).toFinset
  current : ∀ drbId session, ctx.drbMap[drbId]? = some session → drbId ∈ given

variable {drbId : DrbId} {context : PduSessionContext} {drbs : List (DrbId × DrbContext)}

section

variable {state after : SessionState} {ctx : UpContext} {given : List DrbId}

def join (state : SessionState) : UpContext :=
  { state.2 with pduSessions := state.2.pduSessions.insert state.1.id state.1 }

lemma drb?_join (state : SessionState) (session : PduSessionId) (drbId : DrbId) :
    drb? (join state) session drbId =
      if session = state.1.id then state.1.drbs[drbId]? else drb? state.2 session drbId := by
  rw [drb?, join, getElem?_insert]
  split <;> rfl

variable {session : PduSessionId}

lemma drb?_join_self (hid : context.id = session)
    (hctx : ctx.pduSessions[session]? = some context) (other : PduSessionId) (drbId : DrbId) :
    drb? (join (context, ctx)) other drbId = drb? ctx other drbId := by
  rw [drb?_join]
  split_ifs with heq
  · rw [heq, hid, drb?, hctx]
    rfl
  · rfl

lemma drb?_join_empty (hnew : ctx.pduSessions[session]? = none) (other : PduSessionId)
    (drbId : DrbId) :
    drb? (join ({ id := session }, ctx)) other drbId = drb? ctx other drbId := by
  rw [drb?_join]
  split_ifs with heq
  · rw [heq, drb?, hnew]
    exact TreeMap.getElem?_emptyc
  · rfl

lemma Consistent.congr {other : UpContext} (h : Consistent ctx)
    (hids : ∀ session (context : PduSessionContext),
      other.pduSessions[session]? = some context → context.id = session)
    (hdrbs : ∀ session drbId, drb? other session drbId = drb? ctx session drbId)
    (hmap : other.drbMap = ctx.drbMap) : Consistent other := by
  refine ⟨hids, fun drbId session => ?_⟩
  rw [hmap, hdrbs]
  exact h.drbMap_iff drbId session

lemma ids_join (hids : ∀ session (context : PduSessionContext), session ≠ state.1.id →
      state.2.pduSessions[session]? = some context → context.id = session)
    (session : PduSessionId) (context : PduSessionContext)
    (hctx : (join state).pduSessions[session]? = some context) : context.id = session := by
  rw [join, getElem?_insert] at hctx
  split_ifs at hctx with heq
  · rw [heq, ← Option.some.inj hctx]
  · exact hids session context heq hctx

lemma Consistent.ids_of_join (h : Consistent (join state)) (session : PduSessionId)
    (context : PduSessionContext) (hne : session ≠ state.1.id)
    (hctx : state.2.pduSessions[session]? = some context) : context.id = session := by
  apply h.ids session context
  rw [join, getElem?_insert, if_neg hne]
  exact hctx

section

variable (h : Consistent ctx)

include h

lemma join_self_consistent (hctx : ctx.pduSessions[session]? = some context) :
    Consistent (join (context, ctx)) :=
  h.congr (ids_join fun other found _ => h.ids other found)
    (drb?_join_self (h.ids session context hctx) hctx) rfl

lemma join_empty_consistent (hnew : ctx.pduSessions[session]? = none) :
    Consistent (join ({ id := session }, ctx)) :=
  h.congr (ids_join fun other found _ => h.ids other found) (drb?_join_empty hnew) rfl

lemma Consistent.drb?_eq_none (hnew : ctx.drbMap[drbId]? = none) (session : PduSessionId) :
    drb? ctx session drbId = none := by
  apply Option.eq_none_iff_forall_ne_some.mpr
  intro drb hdrb
  have hsess := (h.drbMap_iff drbId session).mpr ⟨drb, hdrb⟩
  rw [hnew] at hsess
  cases hsess

lemma Consistent.session_eq {other : PduSessionId} {drb found : DrbContext}
    (hdrb : drb? ctx session drbId = some drb) (hfound : drb? ctx other drbId = some found) :
    other = session := by
  have hsess := (h.drbMap_iff drbId session).mpr ⟨drb, hdrb⟩
  have hother := (h.drbMap_iff drbId other).mpr ⟨found, hfound⟩
  exact Option.some.inj (hother.symm.trans hsess)

end

section

variable {drb : DrbId × DrbContext}

lemma applyNewDrb_eq_ok (h : applyNewDrb state drb = .ok after) : 1 ≤ drb.1 ∧ drb.1 ≤ maxNofDrbs ∧
      after = ({ state.1 with drbs := state.1.drbs.insertIfNew drb.1 drb.2 }, { state.2 with
          drbMap := state.2.drbMap.insertIfNew drb.1 state.1.id
          usedDrbIds := insert (drb.1 - 1) state.2.usedDrbIds
          qosFlowMap := drb.2.qosFlows.keys.foldl (fun flows qfi => flows.insertIfNew qfi drb.1)
            state.2.qosFlowMap }) := by
  rw [applyNewDrb, getUsedDrbIndex] at h
  split at h
  · cases h
  rename_i index hindex
  split at hindex
  · rename_i hvalid
    obtain rfl := Option.some.inj hindex
    exact ⟨hvalid.1, Nat.le_of_pred_lt hvalid.2, (Except.ok.inj h).symm⟩
  · cases hindex

section

variable (h : Consistent (join state)) (hnew : state.2.drbMap[drb.1]? = none)
  (hok : applyNewDrb state drb = .ok after)

include h hnew hok

lemma drb?_applyNewDrb (session : PduSessionId) (drbId : DrbId) :
    drb? (join after) session drbId =
      if drbId = drb.1 then (if session = state.1.id then some drb.2 else none)
      else drb? (join state) session drbId := by
  have hnone := h.drb?_eq_none hnew
  have habsent : state.1.drbs[drb.1]? = none := by
    rw [← hnone state.1.id, drb?_join, if_pos rfl]
  obtain ⟨-, -, rfl⟩ := applyNewDrb_eq_ok hok
  rw [drb?_join, drb?_join]
  simp only [getElem?_emplace, habsent, and_true]
  obtain rfl | hne := eq_or_ne drbId drb.1
  · rw [if_pos rfl, if_pos rfl]
    split_ifs with hother
    · rfl
    · rw [← hnone session, drb?_join, if_neg hother]
      rfl
  · rw [if_neg hne, if_neg hne]
    rfl

lemma applyNewDrb_consistent : Consistent (join after) := by
  have hdrbs := drb?_applyNewDrb h hnew hok
  obtain ⟨-, -, rfl⟩ := applyNewDrb_eq_ok hok
  refine ⟨ids_join h.ids_of_join, ?_⟩
  intro drbId session
  rw [hdrbs]
  simp only [join, getElem?_emplace, hnew, and_true]
  split
  · split
    · rename_i heq
      exact iff_of_true (heq ▸ rfl) ⟨_, rfl⟩
    · rename_i hne
      exact iff_of_false (fun heq => hne (Option.some.inj heq).symm) nofun
  · exact h.drbMap_iff drbId session

end

lemma applyNewDrb_tracks (h : Tracks given state.2) (hnew : drb.1 ∉ given)
    (hok : applyNewDrb state drb = .ok after) : Tracks (given ++ [drb.1]) after.2 := by
  obtain ⟨hpos, hle, rfl⟩ := applyNewDrb_eq_ok hok
  refine ⟨?_, ?_, ?_, ?_⟩
  · rw [nodup_append]
    refine ⟨h.nodup, nodup_singleton _, ?_⟩
    rintro drbId hmem other hother rfl
    exact hnew (mem_singleton.mp hother ▸ hmem)
  · intro drbId hmem
    obtain hold | hlast := mem_append.mp hmem
    · exact h.valid drbId hold
    · rw [mem_singleton.mp hlast]
      exact ⟨hpos, hle⟩
  · rw [map_append, toFinset_append, ← h.used]
    ext index
    simp
  · intro drbId session hdrb
    simp only [getElem?_emplace] at hdrb
    split_ifs at hdrb with heq
    · exact mem_append_right _ (mem_singleton.mpr heq.1)
    · exact mem_append_left _ (h.current drbId session hdrb)

lemma Tracks.drbMap_eq_none (h : Tracks given ctx) (hnew : drbId ∉ given) :
    ctx.drbMap[drbId]? = none :=
  Option.eq_none_iff_forall_ne_some.mpr fun session heq => hnew (h.current drbId session heq)

lemma applyNewDrbs_spec (h : Consistent (join state)) (htracks : Tracks given state.2)
    (hnodup : (drbs.map Prod.fst).Nodup) (hnew : ∀ drb ∈ drbs, drb.1 ∉ given)
    (hok : drbs.foldlM applyNewDrb state = .ok after) :
    Consistent (join after) ∧ Tracks (given ++ drbs.map Prod.fst) after.2 ∧
      after.1.id = state.1.id ∧ after.2.pduSessions = state.2.pduSessions := by
  induction drbs generalizing state given with
  | nil =>
    cases hok
    rw [map_nil, append_nil]
    exact ⟨h, htracks, rfl, rfl⟩
  | cons drb rest ih =>
    obtain ⟨next, hnext, hrest⟩ := foldlM_cons_eq_ok_iff.mp hok
    rw [map_cons, nodup_cons] at hnodup
    have hfirst := hnew drb mem_cons_self
    have hcons := applyNewDrb_consistent h (htracks.drbMap_eq_none hfirst) hnext
    have hfresh : ∀ other ∈ rest, other.1 ∉ given ++ [drb.1] := by
      intro other hmem hgiven
      obtain hold | hlast := mem_append.mp hgiven
      · exact hnew other (mem_cons_of_mem drb hmem) hold
      · apply hnodup.1
        rw [← mem_singleton.mp hlast]
        exact mem_map_of_mem hmem
    obtain ⟨hafter, htrack, hid, hsesss⟩ :=
      ih hcons (applyNewDrb_tracks htracks hfirst hnext) hnodup.2 hfresh hrest
    obtain ⟨-, -, rfl⟩ := applyNewDrb_eq_ok hnext
    rw [append_assoc] at htrack
    exact ⟨hafter, htrack, hid, hsesss⟩

end

section

def removeDrb (state : SessionState) (drb : DrbId × DrbContext) : SessionState :=
  ({ state.1 with drbs := state.1.drbs.erase drb.1 }, forgetDrb state.2 drb)

lemma applyRemovedDrb_eq_ok (h : applyRemovedDrb state drbId = .ok after) :
    ∃ drb, state.1.drbs[drbId]? = some drb ∧ after = removeDrb state (drbId, drb) := by
  rw [applyRemovedDrb] at h
  split at h
  · cases h
  · rename_i drb hdrb
    exact ⟨drb, hdrb, (Except.ok.inj h).symm⟩

section

variable {drb : DrbId × DrbContext} (h : Consistent (join state))
  (hdrb : state.1.drbs[drb.1]? = some drb.2)

include h hdrb

lemma drb?_removeDrb (session : PduSessionId) (drbId : DrbId) :
    drb? (join (removeDrb state drb)) session drbId =
      if drbId = drb.1 then none else drb? (join state) session drbId := by
  have hhere : drb? (join state) state.1.id drb.1 = some drb.2 := by
    rw [drb?_join, if_pos rfl]
    exact hdrb
  rw [drb?_join, drb?_join]
  simp only [removeDrb, getElem?_erase]
  obtain rfl | hne := eq_or_ne drbId drb.1
  · rw [if_pos rfl, if_pos rfl]
    split_ifs with hother
    · rfl
    apply Option.eq_none_iff_forall_ne_some.mpr
    intro found hfound
    have helse : drb? (join state) session drb.1 = some found := by
      rw [drb?_join, if_neg hother]
      exact hfound
    exact hother (h.session_eq hhere helse)
  · rw [if_neg hne, if_neg hne]
    rfl

lemma removeDrb_consistent : Consistent (join (removeDrb state drb)) := by
  have hdrbs := drb?_removeDrb h hdrb
  refine ⟨ids_join h.ids_of_join, ?_⟩
  intro drbId session
  rw [hdrbs]
  simp only [join, removeDrb, forgetDrb, getElem?_erase]
  split
  · exact iff_of_false nofun nofun
  · exact h.drbMap_iff drbId session

end

lemma Tracks.of_drbMap (h : Tracks given ctx) (other : UpContext)
    (hused : other.usedDrbIds = ctx.usedDrbIds)
    (hless : ∀ (drbId : DrbId) (session : PduSessionId), other.drbMap[drbId]? = some session →
      ctx.drbMap[drbId]? = some session) : Tracks given other :=
  ⟨h.nodup, h.valid, hused.trans h.used, fun drbId session hdrb =>
    h.current drbId session (hless drbId session hdrb)⟩

lemma forgetDrb_tracks (h : Tracks given ctx) (drb : DrbId × DrbContext) :
    Tracks given (forgetDrb ctx drb) := by
  refine h.of_drbMap (forgetDrb ctx drb) rfl ?_
  intro drbId session hdrb
  rw [forgetDrb, getElem?_erase] at hdrb
  split at hdrb
  · cases hdrb
  · exact hdrb

lemma applyRemovedDrbs_spec {drbIds : List DrbId} (h : Consistent (join state))
    (htracks : Tracks given state.2) (hok : drbIds.foldlM applyRemovedDrb state = .ok after) :
    Consistent (join after) ∧ Tracks given after.2 ∧ after.1.id = state.1.id ∧
      after.2.pduSessions = state.2.pduSessions := by
  apply foldlM_ok_invariant (fun after => Consistent (join after) ∧ Tracks given after.2 ∧
    after.1.id = state.1.id ∧ after.2.pduSessions = state.2.pduSessions) hok
    ⟨h, htracks, rfl, rfl⟩
  rintro before drbId next - ⟨hcons, htrack, hid, hsesss⟩ hnext
  obtain ⟨drb, hdrb, rfl⟩ := applyRemovedDrb_eq_ok hnext
  exact ⟨removeDrb_consistent hcons hdrb, forgetDrb_tracks htrack _, hid, hsesss⟩

lemma foldl_removeDrb_snd (drbs : List (DrbId × DrbContext)) (state : SessionState) :
    (drbs.foldl removeDrb state).2 = drbs.foldl forgetDrb state.2 := by
  induction drbs generalizing state with
  | nil => rfl
  | cons drb rest ih => exact ih (removeDrb state drb)

lemma foldl_removeDrb_spec (h : Consistent (join state)) (hnodup : (drbs.map Prod.fst).Nodup)
    (hdrbs : ∀ drb ∈ drbs, state.1.drbs[drb.1]? = some drb.2) :
    Consistent (join (drbs.foldl removeDrb state)) ∧
      (drbs.foldl removeDrb state).1.id = state.1.id ∧
      (drbs.foldl removeDrb state).2.pduSessions = state.2.pduSessions ∧
      ∀ drbId drb, (drbs.foldl removeDrb state).1.drbs[drbId]? = some drb →
        state.1.drbs[drbId]? = some drb ∧ drbId ∉ drbs.map Prod.fst := by
  induction drbs generalizing state with
  | nil => exact ⟨h, rfl, rfl, fun _ _ hdrb => ⟨hdrb, not_mem_nil⟩⟩
  | cons first rest ih =>
    rw [map_cons, nodup_cons] at hnodup
    have hnext := removeDrb_consistent h (hdrbs first mem_cons_self)
    have hkept : ∀ drb ∈ rest, (removeDrb state first).1.drbs[drb.1]? = some drb.2 := by
      intro drb hmem
      have hne : drb.1 ≠ first.1 := by
        intro heq
        exact hnodup.1 (heq ▸ mem_map_of_mem hmem)
      rw [removeDrb, getElem?_erase, if_neg hne]
      exact hdrbs drb (mem_cons_of_mem first hmem)
    obtain ⟨hafter, hid, hsesss, hleft⟩ := ih hnext hnodup.2 hkept
    refine ⟨hafter, hid, hsesss, ?_⟩
    intro drbId drb hdrb
    obtain ⟨hstill, hnot⟩ := hleft drbId drb hdrb
    rw [removeDrb, getElem?_erase] at hstill
    split at hstill
    · cases hstill
    rename_i hne
    refine ⟨hstill, ?_⟩
    rw [map_cons, mem_cons]
    exact fun hor => hor.elim hne hnot

lemma drb?_erase (hempty : ∀ drbId : DrbId, state.1.drbs[drbId]? = none)
    (session : PduSessionId) (drbId : DrbId) :
    drb? { state.2 with pduSessions := state.2.pduSessions.erase state.1.id } session drbId =
      drb? (join state) session drbId := by
  rw [drb?_join, hempty]
  simp only [drb?, getElem?_erase]
  split <;> rfl

lemma erase_consistent (h : Consistent (join state))
    (hempty : ∀ drbId : DrbId, state.1.drbs[drbId]? = none) :
    Consistent { state.2 with pduSessions := state.2.pduSessions.erase state.1.id } := by
  refine h.congr ?_ (drb?_erase hempty) rfl
  intro session context hctx
  rw [getElem?_erase] at hctx
  split at hctx
  · cases hctx
  · rename_i hne
    exact h.ids_of_join session context hne hctx

end

end

section

variable {ctx after : UpContext} {given : List DrbId}

def newIds (session : SessionUpdate) : List DrbId := session.drbToAdd.keys

structure Applied (given : List DrbId) (ctx : UpContext) (session : SessionUpdate)
    (after : UpContext) : Prop where
  consistent : Consistent after
  tracks : Tracks (given ++ newIds session) after
  others : ∀ other : PduSessionId, other ≠ session.id →
    after.pduSessions[other]? = ctx.pduSessions[other]?

variable {session : SessionUpdate}

lemma applyUpdateForNewDrbs_spec {state next : SessionState} (h : Consistent (join state))
    (htracks : Tracks given state.2) (hids : ∀ drbId ∈ newIds session, drbId ∉ given)
    (hok : applyUpdateForNewDrbs state session.drbToAdd = .ok next) :
    Consistent (join next) ∧ Tracks (given ++ newIds session) next.2 ∧
      next.1.id = state.1.id ∧ next.2.pduSessions = state.2.pduSessions := by
  have hkeys : session.drbToAdd.toList.map Prod.fst = newIds session :=
    TreeMap.map_fst_toList_eq_keys
  rw [← hkeys]
  apply applyNewDrbs_spec h htracks (nodup_map_fst_toList _) _ hok
  intro drb hmem
  apply hids
  rw [← hkeys]
  exact mem_map_of_mem hmem

lemma applyAddedSession_spec (h : Consistent ctx) (htracks : Tracks given ctx)
    (hnew : ctx.pduSessions[session.id]? = none) (hids : ∀ drbId ∈ newIds session, drbId ∉ given)
    (hok : applyAddedSession ctx session = .ok after) : Applied given ctx session after := by
  obtain ⟨state, hstate, rfl⟩ := map_eq_ok_iff.mp hok
  obtain ⟨hjoined, htrack, hid, hsesss⟩ :=
    applyUpdateForNewDrbs_spec (join_empty_consistent h hnew) htracks hids hstate
  have hemplaced (other : PduSessionId) :
      (state.2.pduSessions.insertIfNew state.1.id state.1)[other]? =
        if other = state.1.id then some state.1 else ctx.pduSessions[other]? := by
    rw [getElem?_emplace, hsesss, hid, hnew]
    simp
  have hsame (other : PduSessionId) : (state.2.pduSessions.insertIfNew state.1.id state.1)[other]? =
        (join state).pduSessions[other]? := by
    rw [hemplaced, join, getElem?_insert, hsesss]
  refine ⟨hjoined.congr ?_ ?_ rfl, htrack.of_drbMap _ rfl fun _ _ => id, ?_⟩
  · intro other context hctx
    exact hjoined.ids other context (hsame other ▸ hctx)
  · intro other drbId
    simp [drb?, hsame]
  · intro other hne
    have hother := hemplaced other
    rwa [hid, if_neg hne, ← hid] at hother

lemma applyModifiedSession_spec (h : Consistent ctx) (htracks : Tracks given ctx)
    (hids : ∀ drbId ∈ newIds session, drbId ∉ given)
    (hok : applyModifiedSession ctx session = .ok after) : Applied given ctx session after := by
  rw [applyModifiedSession] at hok
  split at hok
  · cases hok
  rename_i context hctx
  obtain ⟨added, hadded, hrest⟩ := bind_eq_ok_iff.mp hok
  obtain ⟨removed, hremd, rfl⟩ := map_eq_ok_iff.mp hrest
  obtain ⟨hjoined, htrack, hid, hsesss⟩ :=
    applyUpdateForNewDrbs_spec (join_self_consistent h hctx) htracks hids hadded
  obtain ⟨hjoined, htrack, hid', hsesss'⟩ := applyRemovedDrbs_spec hjoined htrack hremd
  have hsess : removed.1.id = session.id :=
    hid'.trans (hid.trans (h.ids session.id context hctx))
  refine ⟨hsess ▸ hjoined, htrack.of_drbMap _ rfl fun _ _ => id, ?_⟩
  intro other hne
  rw [getElem?_insert, if_neg hne, hsesss', hsesss]

lemma foldl_removeDrb_empty (h : Consistent (join (context, ctx))) (drbId : DrbId) :
    (context.drbs.toList.foldl removeDrb (context, ctx)).1.drbs[drbId]? = none := by
  obtain ⟨-, -, -, hleft⟩ := foldl_removeDrb_spec h (nodup_map_fst_toList context.drbs)
    fun drb hmem => (mem_toList_iff _).mp hmem
  apply Option.eq_none_iff_forall_ne_some.mpr
  intro drb hdrb
  obtain ⟨hstill, hnot⟩ := hleft drbId drb hdrb
  rw [TreeMap.map_fst_toList_eq_keys, mem_keys_iff] at hnot
  exact hnot ⟨drb, hstill⟩

lemma applyRemovedSession_spec {session : PduSessionId} (h : Consistent ctx)
    (htracks : Tracks given ctx) (hok : applyRemovedSession ctx session = .ok after) :
    Consistent after ∧ Tracks given after := by
  rw [applyRemovedSession] at hok
  split at hok
  · cases hok
  rename_i context hcontext
  obtain rfl := Except.ok.inj hok
  have hid := h.ids session context hcontext
  have hjoin := join_self_consistent h hcontext
  obtain ⟨hjoined, hkept, -, -⟩ := foldl_removeDrb_spec hjoin (nodup_map_fst_toList context.drbs)
    fun drb hmem => (mem_toList_iff _).mp hmem
  have herased := erase_consistent hjoined (foldl_removeDrb_empty hjoin)
  rw [hkept, foldl_removeDrb_snd] at herased
  have htrack : Tracks given (context.drbs.toList.foldl forgetDrb ctx) :=
    foldlRecOn _ _ htracks fun _ hctx drb _ => forgetDrb_tracks hctx drb
  exact ⟨hid ▸ herased, htrack.of_drbMap _ rfl fun _ _ => id⟩

lemma foldlM_sessions_spec {apply : UpContext → SessionUpdate → Except Fault UpContext}
    (ready : Option PduSessionContext → Prop)
    (happly : ∀ {ctx after given session}, Consistent ctx → Tracks given ctx →
      ready ctx.pduSessions[session.id]? → (∀ drbId ∈ newIds session, drbId ∉ given) →
      apply ctx session = .ok after → Applied given ctx session after)
    {sessions : List SessionUpdate} (h : Consistent ctx) (htracks : Tracks given ctx)
    (hready : ∀ session ∈ sessions, ready ctx.pduSessions[session.id]?)
    (hsesss : (sessions.map SessionUpdate.id).Nodup) (hnodup : (sessions.flatMap newIds).Nodup)
    (hids : ∀ drbId ∈ sessions.flatMap newIds, drbId ∉ given)
    (hok : sessions.foldlM apply ctx = .ok after) :
    Consistent after ∧ Tracks (given ++ sessions.flatMap newIds) after := by
  induction sessions generalizing ctx given with
  | nil =>
    cases hok
    rw [flatMap_nil, append_nil]
    exact ⟨h, htracks⟩
  | cons session rest ih =>
    obtain ⟨next, hnext, hrest⟩ := foldlM_cons_eq_ok_iff.mp hok
    rw [map_cons, nodup_cons] at hsesss
    rw [flatMap_cons, nodup_append] at hnodup
    obtain ⟨-, hrestnodup, hdisjoint⟩ := hnodup
    obtain ⟨hcons, htrack, hothers⟩ :=
      happly h htracks (hready session mem_cons_self)
        (fun drbId hmem => hids drbId (mem_flatMap.mpr ⟨session, mem_cons_self, hmem⟩))
        hnext
    have hstill : ∀ other ∈ rest, ready next.pduSessions[other.id]? := by
      intro other hmem
      have hne : other.id ≠ session.id := by
        intro heq
        exact hsesss.1 (heq ▸ mem_map_of_mem hmem)
      rw [hothers other.id hne]
      exact hready other (mem_cons_of_mem session hmem)
    have hfresh : ∀ drbId ∈ rest.flatMap newIds, drbId ∉ given ++ newIds session := by
      intro drbId hmem hgiven
      obtain hold | hnow := mem_append.mp hgiven
      · apply hids drbId _ hold
        exact mem_append_right _ hmem
      · exact hdisjoint drbId hnow drbId hmem rfl
    rw [flatMap_cons, ← append_assoc]
    exact ih hcons htrack hstill hsesss.2 hrestnodup hfresh hrest

end

end ProtoRu.Drb
