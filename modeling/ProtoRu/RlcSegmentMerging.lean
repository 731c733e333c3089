import ProtoRu.RlcReassembly
import ProtoRu.RlcRxAmEntity

namespace ProtoRu.Rlc

open List

variable {sdu : Bytes} {segments received : List Segment} {info : RxSduInfo}

/-- A byte range of an SDU as it is received. The range at the end is a last segment. -/
structure IsRange (sdu : Bytes) (segment : Segment) : Prop extends IsPiece sdu segment where
  ends : segment.stop = sdu.length → segment.si = .lastSegment

/-- What a segment makes of the entry of its SN. -/
def receiveSegment (info : RxSduInfo) (new : Segment) : RxSduInfo :=
  updateSegmentInventory ((storeSegment info.segments new).getD info.segments)

lemma handleSegmentDataSdu_eq {cfg : RxConfig} (entity : RxEntity cfg)
    (header : PduHeader) (payload : Bytes) :
    (entity.handleSegmentDataSdu header payload).1.rxWindow = entity.rxWindow.overwrite header.sn
      (receiveSegment ((entity.rxWindow.get? header.sn).getD {})
        { si := header.si, so := header.so, payload }) := rfl

lemma le_so_of_covers {first offset : Nat} (hfirst : ∀ segment ∈ segments, first ≤ segment.so)
    (hcovers : Covers segments offset) : first ≤ offset := by
  obtain ⟨segment, hin, hle, -⟩ := hcovers
  exact (hfirst segment hin).trans hle

lemma segmentInventory_iff {nextByte : Nat} (hpieces : Pieces sdu segments)
    (hends : ∀ segment ∈ segments, segment.stop = sdu.length → segment.si = .lastSegment)
    (hnext : ∀ segment ∈ segments, nextByte ≤ segment.so) :
    ((segmentInventory nextByte segments).fullyReceived ↔ nextByte < sdu.length ∧
        ∀ offset, nextByte ≤ offset → offset < sdu.length → Covers segments offset) ∧
      ((segmentInventory nextByte segments).hasGap ↔ ∃ offset, nextByte ≤ offset ∧
        ¬Covers segments offset ∧ ∃ later, offset < later ∧ Covers segments later) := by
  induction segments generalizing nextByte with
  | nil =>
    have hnone (offset : Nat) : ¬Covers [] offset := by simp [Covers]
    refine ⟨iff_of_false (by simp [segmentInventory]) ?_,
      iff_of_false (by simp [segmentInventory]) ?_⟩
    · exact fun h => hnone nextByte (h.2 nextByte le_rfl h.1)
    · rintro ⟨-, -, -, later, -, hlater⟩
      exact hnone later hlater
  | cons segm rest ih =>
    obtain ⟨hpiece, hsegm, hrest⟩ := pieces_cons.mp hpieces
    obtain ⟨hle, -⟩ := forall_mem_cons.mp hnext
    have hlt := hpiece.lt_stop
    have hstop := hpiece.le
    have hbehind {offset : Nat} := @le_so_of_covers rest segm.stop offset hsegm
    have hsplit (offset : Nat) := @covers_cons segm rest offset
    have hself : Covers (segm :: rest) segm.so := covers_cons.mpr (.inl ⟨le_rfl, hlt⟩)
    rw [segmentInventory]
    split
    · have hopen : ¬Covers (segm :: rest) nextByte := fun h => by
        obtain hin | hin := (hsplit nextByte).mp h
        · omega
        · have := hbehind hin
          omega
      refine ⟨iff_of_false (by simp) fun h => hopen (h.2 _ le_rfl h.1), iff_of_true rfl ?_⟩
      exact ⟨nextByte, le_rfl, hopen, segm.so, by omega, hself⟩
    rename_i hso
    obtain rfl : segm.so = nextByte := by simpa using hso
    split_ifs with hlast
    · have hend := hpiece.last hlast
      have hall (offset : Nat) (hin : Covers (segm :: rest) offset) : offset < segm.stop := by
        obtain ⟨segment, hmem, -, hlt⟩ := hin
        exact hlt.trans_le ((hpieces.piece segment hmem).le.trans hend.ge)
      refine ⟨iff_of_true rfl ⟨by omega, fun offset _ _ => (hsplit offset).mpr (.inl (by omega))⟩,
        iff_of_false (by simp) ?_⟩
      rintro ⟨offset, hle, hopen, later, hlt, hlater⟩
      have := hall later hlater
      exact hopen ((hsplit offset).mpr (.inl (by omega)))
    · have hne : segm.stop ≠ sdu.length := fun h => hlast (hends segm mem_cons_self h)
      obtain ⟨hfull, hgap⟩ := @ih segm.stop hrest (fun segment hin =>
        hends segment (mem_cons_of_mem segm hin)) hsegm
      have hafter {offset : Nat} (hge : segm.stop ≤ offset) :
          Covers (segm :: rest) offset ↔ Covers rest offset := by
        rw [hsplit]
        exact or_iff_right_of_imp fun h => by omega
      refine ⟨hfull.trans ⟨fun h => ⟨by omega, fun offset hle hlt => ?_⟩,
        fun h => ⟨by omega, fun offset hle hlt => ?_⟩⟩, hgap.trans ⟨?_, ?_⟩⟩
      · obtain hin | hge := Nat.lt_or_ge offset segm.stop
        · exact (hsplit offset).mpr (.inl ⟨hle, hin⟩)
        · exact (hafter hge).mpr (h.2 offset hge hlt)
      · exact (hafter hle).mp (h.2 offset (by omega) hlt)
      · rintro ⟨offset, hle, hopen, later, hlt, hlater⟩
        exact ⟨offset, by omega, (hafter hle).not.mpr hopen, later, hlt,
          (hsplit later).mpr (.inr hlater)⟩
      · rintro ⟨offset, hle, hopen, later, hlt, hlater⟩
        have hge : segm.stop ≤ offset := by
          by_contra hin
          exact hopen ((hsplit offset).mpr (.inl (by omega)))
        exact ⟨offset, hge, (hafter hge).not.mp hopen, later, hlt, (hafter (by omega)).mp hlater⟩

/-- What is stored of the segments received so far. -/
structure Stored (sdu : Bytes) (received : List Segment) (info : RxSduInfo) : Prop where
  pieces : Pieces sdu info.segments
  covers : ∀ offset, Covers info.segments offset ↔ Covers received offset
  ends : ∀ segment ∈ info.segments, segment.stop = sdu.length → segment.si = .lastSegment
  fullyReceived : info.fullyReceived = (segmentInventory 0 info.segments).fullyReceived
  hasGap : info.hasGap = (segmentInventory 0 info.segments).hasGap
  reassembled : info.fullyReceived → reassembleSdu info = chainSegments info.segments

section

variable (hsdu : sdu.length ≤ 2 ^ 16) (h : Stored sdu received info)

include hsdu h

lemma stored_receiveSegment {new : Segment} (hnew : IsRange sdu new) :
    Stored sdu (received ++ [new]) (receiveSegment info new) := by
  have hmerged := mergeSegment_merged hsdu h.pieces hnew.toIsPiece
  rw [← (storeSegment_eq_merge hsdu h.pieces hnew.toIsPiece).1] at hmerged
  refine ⟨hmerged.pieces, fun offset => (hmerged.covers offset).trans ?_, ?_, rfl, rfl,
    fun _ => rfl⟩
  · rw [h.covers, Covers, Covers]
    simp
  · intro segment hin hstop
    obtain ⟨source, hsource, -, hends, hsi⟩ := hmerged.sources segment hin
    rw [hends] at hstop
    rw [hsi]
    obtain rfl | hin := mem_cons.mp hsource
    · exact hnew.ends hstop
    · exact h.ends source hin hstop

lemma stored_foldl {later : List Segment} (hlater : ∀ segment ∈ later, IsRange sdu segment) :
    Stored sdu (received ++ later) (later.foldl receiveSegment info) := by
  induction later generalizing received info with
  | nil => simpa using h
  | cons new rest ih =>
    obtain ⟨hnew, hrest⟩ := forall_mem_cons.mp hlater
    rw [append_cons]
    exact ih (stored_receiveSegment hsdu h hnew) hrest

end

/-- The segments of an SDU are merged into its bytes received, and the flags tell what is missing.
-/
theorem received_segments_merged (hsdu : sdu.length ≤ 2 ^ 16)
    (hreceived : ∀ segment ∈ received, IsRange sdu segment) :
    let info := received.foldl receiveSegment {}
    Pieces sdu info.segments ∧ (∀ offset, Covers info.segments offset ↔ Covers received offset) ∧
      (info.fullyReceived ↔ (∃ segment ∈ received, segment.si = .lastSegment) ∧
        ∀ offset < sdu.length, Covers received offset) ∧
      (info.hasGap ↔ ∃ offset, ¬Covers received offset ∧
        ∃ later, offset < later ∧ Covers received later) ∧
      (info.fullyReceived → reassembleSdu info = sdu) := by
  intro info
  have hempty : Stored sdu [] {} :=
    ⟨⟨List.Pairwise.nil, by simp [RxSduInfo.segments]⟩, by simp [RxSduInfo.segments],
      by simp [RxSduInfo.segments], rfl, rfl, by simp⟩
  have hstored : Stored sdu received info := stored_foldl hsdu hempty hreceived
  obtain ⟨hfull, hgap⟩ := @segmentInventory_iff _ _ 0 hstored.pieces hstored.ends (by simp)
  rw [← hstored.fullyReceived] at hfull
  rw [← hstored.hasGap] at hgap
  simp only [hstored.covers, Nat.zero_le, true_and, forall_const] at hfull hgap
  refine ⟨hstored.pieces, hstored.covers, hfull.trans ?_, hgap, fun h => ?_⟩
  · refine and_congr_left fun hall => ⟨fun hpos => ?_, ?_⟩
    · obtain ⟨segment, hin, -, hlt⟩ := hall (sdu.length - 1) (by omega)
      have hle := (hreceived segment hin).le
      exact ⟨segment, hin, (hreceived segment hin).ends (by omega)⟩
    · rintro ⟨segment, hin, hlast⟩
      have hlt := (hreceived segment hin).lt_stop
      have hend := (hreceived segment hin).last hlast
      omega
  · rw [hstored.reassembled h]
    exact chainSegments_eq hstored.pieces (hstored.fullyReceived ▸ h)

/-- The end of an SDU of four bytes comes first, and then a segment that overlaps it. -/
def overlappingSegments : List Segment :=
  [{ si := .lastSegment, so := 2, payload := [3, 4] },
    { si := .firstSegment, so := 0, payload := [1, 2, 3] }]

theorem overlappingSegments_merged :
    reassembleSdu (overlappingSegments.foldl receiveSegment {}) = [1, 2, 3, 4] := by
  have hrange : ∀ segment ∈ overlappingSegments, IsRange [1, 2, 3, 4] segment := by
    simp only [overlappingSegments, List.forall_mem_cons, List.not_mem_nil]
    exact ⟨⟨⟨by decide, by decide, by decide, by decide⟩, by decide⟩,
      ⟨⟨by decide, by decide, by decide, by decide⟩, by decide⟩, by simp⟩
  exact (received_segments_merged (by decide) hrange).2.2.2.2 (by decide)

end ProtoRu.Rlc
