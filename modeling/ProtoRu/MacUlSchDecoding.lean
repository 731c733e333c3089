import ProtoRu.MacUlSchPdu

namespace ProtoRu.MacUl

open ProtoRu.MacSubpduGrammar (Lcid LcidTable Subheader fBitOf lcidOf paddingLcid)
open Tilings List

lemma paddingLcid_hasLengthField : hasLengthField paddingLcid = false := rfl

def ulSch : LcidTable where
  valid := isValidLcid
  sized := hasLengthField
  ceSize := sizeofCe
  padding_not_sized := paddingLcid_hasLengthField

def Encodes (bytes : Bytes) (s : Subpdu) : Prop :=
  ∃ header, Subheader ulSch header s.lcid s.payload.length ∧
    header.length = s.headerLength ∧ (∀ first ∈ header.head?, s.fBit = fBitOf first) ∧
    bytes = header ++ s.payload

def Subpdus : Bytes → List Subpdu → Bytes → Prop :=
  Tiles Encodes fun s => s.lcid = paddingLcid

variable {s : Subpdu} {rest : Bytes} {bytes : Bytes}

lemma Encodes.length_eq (h : Encodes bytes s) : bytes.length = s.totalLength := by
  obtain ⟨header, -, hlen, -, rfl⟩ := h
  rw [length_append, hlen, Subpdu.totalLength]

lemma Encodes.length_pos (h : Encodes bytes s) : 0 < bytes.length := by
  obtain ⟨header, hhdr, -, -, rfl⟩ := h
  rw [length_append]
  exact Nat.add_pos_left hhdr.length_pos _

variable {reader : Bytes}

lemma takePayload_eq_ok_iff {what : String} {lcid : Lcid} {headerLength length : Nat}
    {fBit : Bool} : Subpdu.takePayload what lcid headerLength fBit length reader = .ok (s, rest) ↔
      ∃ payload, payload.length = length ∧ reader = payload ++ rest ∧
        s = ⟨lcid, headerLength, fBit, payload⟩ := by
  rw [Subpdu.takePayload]
  split_ifs with hshort
  · refine ⟨nofun, ?_⟩
    rintro ⟨payload, rfl, rfl, rfl⟩
    rw [length_append] at hshort
    omega
  · constructor
    · intro h
      cases h
      exact ⟨reader.take length, length_take_of_le (Nat.le_of_not_lt hshort),
        (take_append_drop length reader).symm, rfl⟩
    · rintro ⟨payload, rfl, rfl, rfl⟩
      rw [take_left, drop_left]

lemma encodes_of_unpack (h : Subpdu.unpack reader = .ok (s, rest)) :
    ∃ front, reader = front ++ rest ∧ Encodes front s ∧ (s.lcid = paddingLcid → rest = []) := by
  cases reader with
  | nil => cases h
  | cons first reader =>
    simp only [Subpdu.unpack] at h
    split at h
    · cases h
    rename_i hvalid
    have hvalid : ulSch.valid (lcidOf first) := eq_true_of_ne_false hvalid
    split at h
    · rename_i hsized
      have hother : lcidOf first ≠ paddingLcid := by
        intro hpad
        rw [hpad] at hsized
        cases hsized
      cases hfBit : fBitOf first with
      | false =>
        rw [hfBit] at h
        cases reader with
        | nil => cases h
        | cons length reader =>
          obtain ⟨payload, hlen, rfl, rfl⟩ := takePayload_eq_ok_iff.mp h
          refine ⟨first :: length :: payload, rfl, ⟨[first, length], ?_, rfl, ?_, rfl⟩,
            fun hpad => absurd hpad hother⟩
          · rw [hlen]
            exact .short hvalid hsized hfBit
          · intro other hother
            cases hother
            exact hfBit.symm
      | true =>
        rw [hfBit] at h
        cases reader with
        | nil => cases h
        | cons high reader =>
          cases reader with
          | nil => cases h
          | cons low reader =>
            obtain ⟨payload, hlen, rfl, rfl⟩ := takePayload_eq_ok_iff.mp h
            refine ⟨first :: high :: low :: payload, rfl, ⟨[first, high, low], ?_, rfl, ?_, rfl⟩,
              fun hpad => absurd hpad hother⟩
            · rw [hlen]
              exact .long hvalid hsized hfBit
            · intro other hother
              cases hother
              exact hfBit.symm
    · rename_i hfixed
      have hfixed : ulSch.sized (lcidOf first) = false := eq_false_of_ne_true hfixed
      split at h
      · rename_i hpad
        cases h
        refine ⟨first :: reader, (append_nil _).symm, ⟨[first], .padding hpad _, rfl, ?_, rfl⟩,
          fun _ => rfl⟩
        intro other hother
        cases hother
        rfl
      · rename_i hother
        obtain ⟨payload, hlen, rfl, rfl⟩ := takePayload_eq_ok_iff.mp h
        refine ⟨first :: payload, rfl, ⟨[first], ?_, rfl, ?_, rfl⟩, fun hpad => absurd hpad hother⟩
        · rw [hlen]
          exact .ce hvalid hfixed hother
        · intro other hother
          cases hother
          rfl

lemma unpack_of_encodes {front : Bytes} (h : Encodes front s)
    (hlast : s.lcid = paddingLcid → rest = []) : Subpdu.unpack (front ++ rest) = .ok (s, rest) := by
  obtain ⟨lcid, headerLength, fBit, payload⟩ := s
  obtain ⟨header, hhdr, hlen, hfBit, rfl⟩ := h
  simp only at hhdr hlen hfBit hlast ⊢
  generalize hpay : payload.length = length at hhdr
  cases hhdr with
  | short hvalid hsized hflag | long hvalid hsized hflag =>
    have hvalid : isValidLcid (lcidOf _) = true := hvalid
    have hsized : hasLengthField (lcidOf _) = true := hsized
    simp only [cons_append, nil_append, Subpdu.unpack, hvalid, hsized, hflag]
    rw [hfBit _ rfl, hflag, ← hlen]
    exact takePayload_eq_ok_iff.mpr ⟨payload, hpay, rfl, rfl⟩
  | ce hvalid hfixed hother =>
    have hvalid : isValidLcid (lcidOf _) = true := hvalid
    have hfixed : hasLengthField (lcidOf _) = false := hfixed
    simp only [cons_append, nil_append, Subpdu.unpack, hvalid, hfixed, if_neg hother]
    rw [hfBit _ rfl, ← hlen]
    exact takePayload_eq_ok_iff.mpr ⟨payload, hpay, rfl, rfl⟩
  | padding hpad =>
    rename_i first
    obtain rfl := hlast hpad
    have hvalid : isValidLcid (lcidOf first) = true := by
      rw [hpad]
      rfl
    have hfixed : hasLengthField (lcidOf first) = false := by
      rw [hpad]
      rfl
    simp only [cons_append, nil_append, append_nil, Subpdu.unpack, hvalid, hfixed, if_pos hpad]
    rw [hfBit _ rfl, ← hlen]
    rfl

variable {subpdus : List Subpdu}

section

variable {payload : Bytes}

lemma unpackFrom_eq_of_subpdus {rest : Bytes} (h : Subpdus payload subpdus rest) {room : Nat}
    (hroom : subpdus.length ≤ room) (hrest : rest = [] ∨ subpdus.length = room)
    (earlier : List Subpdu) : unpackFrom room earlier payload = (earlier ++ subpdus, .ok ()) := by
  induction h generalizing room earlier with
  | nil rest =>
    rw [append_nil]
    obtain rfl | rfl := hrest
    · rw [unpackFrom]
    · exact unpackFrom_full earlier rest
  | cons hpiece hlast htiles ih =>
    rename_i front middle rest s subpdus
    obtain ⟨room, rfl⟩ : ∃ fewer, room = fewer + 1 := ⟨room - 1, by simp at hroom; omega⟩
    have hunpack : Subpdu.unpack (front ++ middle) = .ok (s, middle) :=
      unpack_of_encodes hpiece hlast
    cases hwhole : front ++ middle with
    | nil =>
      rw [hwhole] at hunpack
      cases hunpack
    | cons first reader =>
      rw [hwhole] at hunpack
      rw [unpackFrom_cons, hunpack]
      simp only
      rw [ih (by simpa using hroom) (by simpa using hrest), append_assoc]
      rfl

variable {room : Nat} {earlier result : List Subpdu}

lemma subpdus_of_unpackFrom (h : unpackFrom room earlier payload = (result, .ok ())) :
    ∃ subpdus rest, result = earlier ++ subpdus ∧ Subpdus payload subpdus rest ∧
      (rest = [] ∨ subpdus.length = room) := by
  induction room generalizing earlier payload with
  | zero =>
    rw [unpackFrom_full] at h
    cases h
    exact ⟨[], payload, (append_nil _).symm, .nil payload, .inr rfl⟩
  | succ room ih =>
    cases payload with
    | nil =>
      cases h
      exact ⟨[], [], (append_nil _).symm, .nil [], .inl rfl⟩
    | cons first payload =>
      rw [unpackFrom_cons] at h
      split at h
      · cases h
      rename_i s middle hunpack
      obtain ⟨front, hfront, hencodes, hlast⟩ := encodes_of_unpack hunpack
      obtain ⟨subpdus, rest, rfl, hsubs, hrest⟩ := ih h
      refine ⟨s :: subpdus, rest, append_assoc _ _ _, ?_, ?_⟩
      · rw [hfront]
        exact .cons hencodes hlast hsubs
      · obtain hnil | hfull := hrest
        · exact .inl hnil
        · exact .inr (by rw [length_cons, hfull])

lemma unpackFrom_error {cause : String}
    (h : unpackFrom room earlier payload = (result, .error cause)) : result = [] := by
  induction room generalizing earlier payload with
  | zero =>
    rw [unpackFrom_full] at h
    cases h
  | succ room ih =>
    cases payload with
    | nil =>
      cases h
    | cons first payload =>
      rw [unpackFrom_cons] at h
      split at h
      · cases h
        rfl
      · exact ih h

end

section

def announced (bitmap : UInt8) (lcgs : List Nat) : Nat :=
  (lcgs.filter fun i => bitmap.toNat &&& 1 <<< i ≠ 0).length

/-- A report has its first byte and, in the long format, a size for each LCG it announces. -/
def CompleteBsr (s : Subpdu) : Prop :=
  (s.lcid ∈ [shortBsr, shortTruncBsr, longBsr, longTruncBsr] → s.payload ≠ []) ∧
    (s.lcid = longBsr → ∀ bitmap ∈ s.payload.head?,
      announced bitmap (range maxNofLcgs) ≤ s.payload.tail.length)

lemma decodeLbsr_cons (format : BsrFormat) (bitmap : UInt8) (sizes : Bytes) :
    ∃ reports, decodeLbsr format (bitmap :: sizes) = .ok reports := by
  rw [decodeLbsr]
  split <;> exact ⟨_, rfl⟩

lemma bsrInfo_of_complete {s : Subpdu} (h : CompleteBsr s) : ∃ info, s.bsrInfo = .ok info := by
  rw [Subpdu.bsrInfo]
  split
  · rename_i hshort
    cases hpay : s.payload with
    | nil => exact absurd hpay (h.1 (by obtain h | h := hshort <;> simp [h]))
    | cons first payload => exact ⟨_, rfl⟩
  split
  · rename_i hlong
    cases hpay : s.payload with
    | nil => exact absurd hpay (h.1 (by obtain h | h := hlong <;> simp [h]))
    | cons bitmap sizes =>
      obtain ⟨reports, hreps⟩ := decodeLbsr_cons
        (if s.lcid = longBsr then .longBsr else .longTruncBsr) bitmap sizes
      simp only [hreps]
      exact ⟨_, rfl⟩
  · exact ⟨_, rfl⟩

end

/-- A failure leaves nothing, a success gives all subPDUs, and their BSRs can be read. -/
structure Exact (pdu : Bytes) : Prop where
  failed : ∀ subpdus cause, unpack pdu = (subpdus, .error cause) → subpdus = []
  tiled : ∀ subpdus, unpack pdu = (subpdus, .ok ()) → Subpdus pdu subpdus []
  complete : ∀ subpdus, unpack pdu = (subpdus, .ok ()) →
    ∀ s ∈ subpdus, CompleteBsr s ∧ ∃ info, s.bsrInfo = .ok info

/-- The list can hold all subPDUs, and the buffer status reports of a well-formed PDU are
complete. -/
structure Regular (pdu : Bytes) : Prop where
  fits : ∀ subpdus rest, Subpdus pdu subpdus rest → subpdus.length = maxSubpdusPerPdu → rest = []
  complete : ∀ subpdus, Subpdus pdu subpdus [] → ∀ s ∈ subpdus, CompleteBsr s

lemma Regular.length_le {pdu : Bytes}
    (hfits : ∀ subpdus rest, Subpdus pdu subpdus rest → subpdus.length = maxSubpdusPerPdu → rest =
      []) (h : Subpdus pdu subpdus []) : subpdus.length ≤ maxSubpdusPerPdu := by
  by_contra hmore
  rw [← take_append_drop maxSubpdusPerPdu subpdus] at h
  obtain ⟨middle, hfirst, hsecond⟩ := h.split
  obtain rfl := hfits _ _ hfirst (length_take_of_le (by omega))
  have hle := hsecond.length_le fun _ _ => Encodes.length_pos
  rw [length_drop] at hle
  omega

/-- A PDU is decoded exactly if its subPDUs fit the list and its buffer status reports are
complete. -/
theorem unpack_exact_iff (pdu : Bytes) : Exact pdu ↔ Regular pdu := by
  constructor
  · intro h
    have hfits : ∀ subpdus rest, Subpdus pdu subpdus rest →
        subpdus.length = maxSubpdusPerPdu → rest = [] := by
      intro subpdus rest hsubpdus hfull
      have hunpack : unpack pdu = (subpdus, .ok ()) :=
        unpackFrom_eq_of_subpdus hsubpdus (Nat.le_of_eq hfull) (.inr hfull) []
      have hall := (h.tiled subpdus hunpack).length_rest_eq Subpdu.totalLength
        (fun _ _ => Encodes.length_eq) hsubpdus
      exact length_eq_zero_iff.mp hall.symm
    refine ⟨hfits, ?_⟩
    intro subpdus hsubpdus s hs
    have hunpack : unpack pdu = (subpdus, .ok ()) :=
      unpackFrom_eq_of_subpdus hsubpdus (Regular.length_le hfits hsubpdus) (.inl rfl) []
    exact (h.complete subpdus hunpack s hs).1
  · intro h
    have htiled : ∀ subpdus, unpack pdu = (subpdus, .ok ()) → Subpdus pdu subpdus [] := by
      intro subpdus hunpack
      obtain ⟨found, rest, rfl, hfound, hrest⟩ := subpdus_of_unpackFrom hunpack
      obtain rfl | hfull := hrest
      · exact hfound
      · obtain rfl := h.fits _ rest hfound hfull
        exact hfound
    refine ⟨?_, htiled, ?_⟩
    · intro subpdus cause hunpack
      exact unpackFrom_error hunpack
    · intro subpdus hunpack s hs
      have hcomplete := h.complete subpdus (htiled subpdus hunpack) s hs
      exact ⟨hcomplete, bsrInfo_of_complete hcomplete⟩

/-- A long buffer status report of no bytes is decoded, and its bitmap read from behind it. -/
theorem emptyLongBsr_not_exact : unpack [0x3e, 0x00] = ([⟨longBsr, 2, false, []⟩], .ok ()) ∧
      Subpdu.bsrInfo ⟨longBsr, 2, false, []⟩ = .error .readsOutside ∧ ¬ Exact [0x3e, 0x00] := by
  have hunpack : unpack [0x3e, 0x00] = ([⟨longBsr, 2, false, []⟩], .ok ()) := rfl
  refine ⟨hunpack, rfl, fun h => ?_⟩
  obtain ⟨-, info, hinfo⟩ := h.complete _ hunpack _ (mem_singleton_self _)
  cases hinfo

end ProtoRu.MacUl
