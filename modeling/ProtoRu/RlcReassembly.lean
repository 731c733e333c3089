import ProtoRu.RlcSegments
import ProtoRu.RlcTxAmWindow

namespace ProtoRu.Rlc

open Segment List

variable {sdu : Bytes}

/-- Some bytes of an SDU at their offset. A last segment ends where the SDU ends. -/
structure IsPiece (sdu : Bytes) (segment : Segment) : Prop where
  pos : 0 < segment.payload.length
  le : segment.stop ≤ sdu.length
  payload_eq : segment.payload = slice sdu segment.so segment.payload.length
  last : segment.si = .lastSegment → segment.stop = sdu.length

/-- Disjoint segments of the SDU, in order. -/
structure Pieces (sdu : Bytes) (segments : List Segment) : Prop where
  ordered : segments.Pairwise fun first second => first.stop ≤ second.so
  piece : ∀ segment ∈ segments, IsPiece sdu segment

variable {segment cur new : Segment} {segments added kept : List Segment}

section

variable (hpiece : IsPiece sdu segment)

include hpiece

lemma IsPiece.lastByte_eq : segment.lastByte + 1 = segment.stop := by
  have hpos := hpiece.pos
  rw [lastByte, stop]
  omega

lemma IsPiece.lt_stop : segment.so < segment.stop := by
  have hpos := hpiece.pos
  rw [stop]
  omega

lemma advance_isPiece {so : Nat} (hsdu : sdu.length ≤ 2 ^ 16) (hle : segment.so ≤ so)
    (hlt : so < segment.stop) :
    (segment.advance so).so = so ∧ (segment.advance so).stop = segment.stop ∧
      IsPiece sdu (segment.advance so) := by
  have hstop := hpiece.le
  have hso : (segment.advance so).so = so := Nat.mod_eq_of_lt (by omega)
  have hlen : (segment.advance so).payload.length = segment.payload.length - (so - segment.so) :=
    length_drop
  have hend : (segment.advance so).stop = segment.stop := by
    rw [stop] at hlt ⊢
    rw [stop]
    omega
  refine ⟨hso, hend, ?_, by omega, ?_, fun hlast => hend.trans (hpiece.last hlast)⟩
  · rw [stop] at hlt
    omega
  rw [hso, hlen]
  have hpay : (segment.advance so).payload = segment.payload.drop (so - segment.so) := rfl
  conv_lhs => rw [hpay, hpiece.payload_eq]
  rw [slice, slice, drop_take, drop_drop, Nat.add_sub_cancel' hle]

end

lemma insertSegment_of_lt (hlt : ∀ segment ∈ segments, new.so < segment.so) :
    insertSegment new segments = new :: segments := by
  cases segments with
  | nil => rfl
  | cons cur rest => rw [insertSegment, if_pos (hlt cur mem_cons_self)]

lemma foldr_insertSegment_cons (hlt : ∀ segment ∈ added, cur.so < segment.so) :
    added.foldr insertSegment (cur :: kept) = cur :: added.foldr insertSegment kept := by
  induction added with
  | nil => rfl
  | cons new rest ih =>
    obtain ⟨hnew, hrest⟩ := forall_mem_cons.mp hlt
    rw [foldr_cons, ih hrest, insertSegment, if_neg (by omega), if_neg (by omega), foldr_cons]

def mergeSegment : List Segment → Segment → Option (List Segment)
  | [], new => some [new]
  | cur :: rest, new =>
    if cur.lastByte < new.so then (mergeSegment rest new).map (cur :: ·)
    else if cur.so ≤ new.so then
      if new.lastByte ≤ cur.lastByte then none
      else (mergeSegment rest (new.advance (cur.lastByte + 1))).map (cur :: ·)
    else if new.lastByte < cur.so then some (new :: cur :: rest)
    else if new.lastByte < cur.lastByte then some (new :: cur.advance (new.lastByte + 1) :: rest)
    else mergeSegment rest new

lemma pieces_cons : Pieces sdu (cur :: segments) ↔
    IsPiece sdu cur ∧ (∀ segment ∈ segments, cur.stop ≤ segment.so) ∧ Pieces sdu segments := by
  constructor
  · rintro ⟨hordered, hpiece⟩
    obtain ⟨hcur, hrest⟩ := pairwise_cons.mp hordered
    obtain ⟨hcurPiece, hrestPiece⟩ := forall_mem_cons.mp hpiece
    exact ⟨hcurPiece, hcur, hrest, hrestPiece⟩
  · rintro ⟨hpiece, hcur, hrest⟩
    exact ⟨pairwise_cons.mpr ⟨hcur, hrest.ordered⟩, forall_mem_cons.mpr ⟨hpiece, hrest.piece⟩⟩

lemma storeSegment_eq_merge (hsdu : sdu.length ≤ 2 ^ 16) (hpieces : Pieces sdu segments)
    (hnew : IsPiece sdu new) : storeSegment segments new = mergeSegment segments new ∧
      ∀ fit, fitSegment segments new = some fit → ∀ segment ∈ fit.2, new.so ≤ segment.so := by
  rw [storeSegment]
  induction segments generalizing new with
  | nil => simp [fitSegment, mergeSegment, insertSegment]
  | cons cur rest ih =>
    obtain ⟨hcurPiece, hcur, hrest⟩ := pieces_cons.mp hpieces
    have hcurLast := hcurPiece.lastByte_eq
    have hnewLast := hnew.lastByte_eq
    have hcurLt := hcurPiece.lt_stop
    have hkeep {new' : Segment} (hnew' : IsPiece sdu new') (hlt : cur.so < new'.so)
        (hle : new.so ≤ new'.so) :
        ((fitSegment rest new').map fun fit => (cur :: fit.1, fit.2)).map
            (fun fit => fit.2.foldr insertSegment fit.1) =
          (mergeSegment rest new').map (cur :: ·) ∧
        ∀ fit, ((fitSegment rest new').map fun fit => (cur :: fit.1, fit.2)) = some fit →
          ∀ segment ∈ fit.2, new.so ≤ segment.so := by
      obtain ⟨heq, hadded⟩ := ih hrest hnew'
      rw [← heq]
      rcases hfit : fitSegment rest new' with _ | ⟨kept, added⟩
      · simp
      have hbound := hadded _ hfit
      constructor
      · simp only [Option.map_some, Option.some.injEq]
        exact foldr_insertSegment_cons fun segment hin => hlt.trans_le (hbound segment hin)
      · rintro _ ⟨⟩ segment hin
        exact hle.trans (hbound segment hin)
    rw [fitSegment, mergeSegment]
    split
    · exact hkeep hnew (by omega) le_rfl
    split
    · split
      · simp
      obtain ⟨hso, -, hpiece⟩ :=
        advance_isPiece hnew hsdu (by omega) (by omega : cur.lastByte + 1 < new.stop)
      exact hkeep hpiece (by omega) (by omega)
    split
    · simp [insertSegment, show new.so < cur.so by omega]
    split
    · obtain ⟨hso, -, -⟩ :=
        advance_isPiece hcurPiece hsdu (by omega) (by omega : new.lastByte + 1 < cur.stop)
      have hfront : insertSegment (cur.advance (new.lastByte + 1)) rest = _ :=
        insertSegment_of_lt fun segment hin => by have := hcur segment hin; omega
      simp [hfront, insertSegment]
      omega
    · exact ih hrest hnew

/-- A segment has the byte at the offset. -/
def Covers (segments : List Segment) (offset : Nat) : Prop :=
  ∃ segment ∈ segments, segment.so ≤ offset ∧ offset < segment.stop

lemma covers_cons {offset : Nat} : Covers (cur :: segments) offset ↔
    cur.so ≤ offset ∧ offset < cur.stop ∨ Covers segments offset := by
  simp [Covers]

/-- A new segment adds its own bytes. What is stored of a segment is the end of it. -/
structure Merged (sdu : Bytes) (segments : List Segment) (new : Segment)
    (merged : List Segment) : Prop where
  pieces : Pieces sdu merged
  covers : ∀ offset, Covers merged offset ↔
    Covers segments offset ∨ new.so ≤ offset ∧ offset < new.stop
  sources : ∀ segment ∈ merged, ∃ source ∈ new :: segments,
    source.so ≤ segment.so ∧ segment.stop = source.stop ∧ segment.si = source.si

lemma Merged.self (hpieces : Pieces sdu segments)
    (hcovers : ∀ offset, new.so ≤ offset ∧ offset < new.stop → Covers segments offset) :
    Merged sdu segments new segments :=
  ⟨hpieces, fun offset => (or_iff_left_of_imp (hcovers offset)).symm,
    fun segment hin => ⟨segment, mem_cons_of_mem new hin, le_rfl, rfl, rfl⟩⟩

lemma Merged.cons {new' : Segment} (h : Merged sdu segments new' kept)
    (hpieces : Pieces sdu (cur :: segments)) (hbefore : cur.stop ≤ new'.so)
    (hso : new'.so = new.so ∨ cur.so ≤ new.so ∧ new.so ≤ new'.so ∧ new'.so = cur.stop)
    (hstop : new'.stop = new.stop) (hsi : new'.si = new.si) :
    Merged sdu (cur :: segments) new (cur :: kept) := by
  obtain ⟨hpiece, hcur, -⟩ := pieces_cons.mp hpieces
  refine ⟨pieces_cons.mpr ⟨hpiece, fun segment hin => ?_, h.pieces⟩, fun offset => ?_, ?_⟩
  · obtain ⟨source, hsource, hle, -⟩ := h.sources segment hin
    obtain rfl | hin := mem_cons.mp hsource
    · exact hbefore.trans hle
    · exact (hcur source hin).trans hle
  · rw [covers_cons, covers_cons, h.covers, hstop]
    by_cases Covers segments offset
    · simp_all
    · simp_all
      omega
  · refine forall_mem_cons.mpr ⟨⟨cur, by simp, le_rfl, rfl, rfl⟩, fun segment hin => ?_⟩
    obtain ⟨source, hsource, hle, hends⟩ := h.sources segment hin
    obtain rfl | hin := mem_cons.mp hsource
    · exact ⟨new, by simp, by omega, hends.1.trans hstop, hends.2.trans hsi⟩
    · exact ⟨source, by simp [hin], hle, hends⟩

section

variable (hsdu : sdu.length ≤ 2 ^ 16) (hpieces : Pieces sdu segments) (hnew : IsPiece sdu new)

include hsdu hpieces hnew

lemma mergeSegment_merged :
    Merged sdu segments new ((mergeSegment segments new).getD segments) := by
  induction segments generalizing new with
  | nil =>
    rw [mergeSegment, Option.getD_some]
    exact ⟨pieces_cons.mpr ⟨hnew, by simp, hpieces⟩, by simp [Covers], by simp⟩
  | cons cur rest ih =>
    obtain ⟨hcurPiece, hcur, hrest⟩ := pieces_cons.mp hpieces
    have hcurLast := hcurPiece.lastByte_eq
    have hnewLast := hnew.lastByte_eq
    have hcurLt := hcurPiece.lt_stop
    have hmap (new : Segment) : ((mergeSegment rest new).map (cur :: ·)).getD (cur :: rest) =
        cur :: (mergeSegment rest new).getD rest := by
      cases mergeSegment rest new <;> rfl
    have hlater : ∀ segment ∈ rest, cur.so < segment.so := fun segment hin =>
      hcurLt.trans_le (hcur segment hin)
    rw [mergeSegment]
    split
    · rw [hmap]
      exact (ih hrest hnew).cons hpieces (by omega) (.inl rfl) rfl rfl
    split
    · split
      · exact .self hpieces fun offset hin => covers_cons.mpr (.inl (by omega))
      obtain ⟨hso, hstop, hpiece⟩ :=
        advance_isPiece hnew hsdu (by omega) (by omega : cur.lastByte + 1 < new.stop)
      rw [hmap]
      exact (ih hrest hpiece).cons hpieces (by omega) (.inr (by omega)) hstop rfl
    split
    · refine ⟨pieces_cons.mpr ⟨hnew, ?_, hpieces⟩, fun offset => covers_cons.trans or_comm, ?_⟩
      · exact forall_mem_cons.mpr
          ⟨by omega, fun segment hin => by have := hlater segment hin; omega⟩
      · exact fun segment hin => ⟨segment, hin, le_rfl, rfl, rfl⟩
    split
    · -- the front of the current segment is in the new one
      obtain ⟨hso, hstop, hpiece⟩ :=
        advance_isPiece hcurPiece hsdu (by omega) (by omega : new.lastByte + 1 < cur.stop)
      rw [Option.getD_some]
      refine ⟨pieces_cons.mpr ⟨hnew, ?_, pieces_cons.mpr ⟨hpiece, hstop ▸ hcur, hrest⟩⟩,
        fun offset => ?_, ?_⟩
      · exact forall_mem_cons.mpr ⟨by omega, fun segment hin => by have := hcur segment hin; omega⟩
      · rw [covers_cons, covers_cons, covers_cons, hso, hstop]
        by_cases Covers rest offset
        · simp_all
        · simp_all
          omega
      · simp only [forall_mem_cons]
        exact ⟨⟨new, by simp⟩, ⟨cur, by simp, by omega, hstop, rfl⟩,
          fun segment hin => ⟨segment, by simp [hin]⟩⟩
    · have hmerged := ih hrest hnew
      rcases hrec : mergeSegment rest new with _ | merged
      · rw [hrec] at hmerged
        exact .self hpieces fun offset hin =>
          covers_cons.mpr (.inr ((hmerged.covers offset).mpr (.inr hin)))
      · rw [hrec, Option.getD_some] at hmerged
        refine ⟨hmerged.pieces, fun offset => ?_, fun segment hin => ?_⟩
        · rw [Option.getD_some, hmerged.covers, covers_cons, or_assoc]
          exact (or_iff_right_of_imp fun _ => .inr (by omega)).symm
        · obtain ⟨source, hsource, hends⟩ := hmerged.sources segment hin
          exact ⟨source, by simp at hsource ⊢; tauto, hends⟩

lemma storeSegment_pieces {stored : List Segment}
    (hstored : storeSegment segments new = some stored) : Pieces sdu stored := by
  rw [(storeSegment_eq_merge hsdu hpieces hnew).1] at hstored
  have hmerged := mergeSegment_merged hsdu hpieces hnew
  rw [hstored] at hmerged
  exact hmerged.pieces

end

lemma chainSegments_eq {nextByte : Nat} (hpieces : Pieces sdu segments)
    (hfull : (segmentInventory nextByte segments).fullyReceived) :
    chainSegments segments = sdu.drop nextByte := by
  induction segments generalizing nextByte with
  | nil => cases hfull
  | cons segm rest ih =>
    obtain ⟨hord, hall⟩ := hpieces
    obtain ⟨hsegm, hrest⟩ := pairwise_cons.mp hord
    have hpiece := hall segm mem_cons_self
    have hle := hpiece.le
    rw [segmentInventory] at hfull
    split at hfull
    · cases hfull
    rename_i hso
    obtain rfl : segm.so = nextByte := by simpa using hso
    have hchain : chainSegments (segm :: rest) = segm.payload ++ chainSegments rest := rfl
    rw [stop] at hle
    split_ifs at hfull with hlast
    · have hstop := hpiece.last hlast
      obtain rfl : rest = [] := by
        rw [eq_nil_iff_forall_not_mem]
        intro other hother
        have hotherPiece := hall other (mem_cons_of_mem segm hother)
        have hlt := hotherPiece.lt_stop
        have hend := hotherPiece.le
        have := hsegm other hother
        omega
      rw [stop] at hstop
      rw [hchain, hpiece.payload_eq, slice, take_of_length_le (by simp; omega)]
      exact append_nil _
    · have hpieces' : Pieces sdu rest :=
        ⟨hrest, fun segment hsegment => hall segment (mem_cons_of_mem segm hsegment)⟩
      rw [hchain, ih hpieces' hfull, hpiece.payload_eq, slice, length_take,
        length_drop, Nat.min_eq_left (by omega), ← drop_drop]
      exact take_append_drop _ _

section

variable {so : Nat} {header : PduHeader} {payload : Bytes}

lemma payload_eq_of_fullSdu (hsegment : IsSegment sdu so header payload)
    (hfull : header.si = .fullSdu) : payload = sdu := by
  have hsi := hsegment.si_eq
  rw [hfull, segmentSi] at hsi
  split at hsi
  · rename_i hzero
    split at hsi
    · rw [hsegment.payload_eq, hsegment.so_eq, hzero, slice, Nat.zero_mod, drop_zero,
        take_of_length_le (by omega)]
    · cases hsi
  · split at hsi <;> cases hsi

section

variable (hsdu : sdu.length ≤ 2 ^ 16) (hsegment : IsSegment sdu so header payload)

include hsdu hsegment

lemma so_eq_of_isSegment : header.so = so := by
  have hle := hsegment.le
  have hpos := hsegment.pos
  rw [hsegment.so_eq, Nat.mod_eq_of_lt (by omega)]

lemma isPiece_of_isSegment : IsPiece sdu { si := header.si, so := header.so, payload } := by
  have hso := so_eq_of_isSegment hsdu hsegment
  have hle := hsegment.le
  refine ⟨hsegment.pos, ?_, hsegment.payload_eq, fun hlast => ?_⟩
  · rw [hso]
    exact hle
  have hsi := hsegment.si_eq
  simp only at hlast
  rw [hlast, segmentSi] at hsi
  rw [stop]
  split at hsi
  · split at hsi <;> cases hsi
  split at hsi
  · simp only
    omega
  · cases hsi

lemma hasOffset_of_isSegment : header.si.hasOffset = decide (header.so ≠ 0) := by
  rw [hsegment.si_eq, so_eq_of_isSegment hsdu hsegment, segmentSi]
  split
  · rename_i hzero
    split <;> simp [hzero, SiField.hasOffset]
  · rename_i hne
    split <;> simp [hne, SiField.hasOffset]

end

end

end ProtoRu.Rlc
