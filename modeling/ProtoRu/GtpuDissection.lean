import ProtoRu.GtpuPdu

/-!
Which GTP-U PDUs the dissection accepts. The chain of extension headers is read without a look
at whether its reads succeed: an extension header without length, or one that goes beyond the
PDU, counts as one with an empty container, and past the end of the PDU zeros are read.
-/

namespace ProtoRu.Gtpu

open BitEncoding ExtensionHeaderType List

/-- The chain of extension headers that an announced type starts, up to the SDU. -/
inductive Chain : ExtensionHeaderType → Bytes → List ExtensionHeader → Bytes → Prop
  | last (type : ExtensionHeaderType) {length : UInt8} {container : Bytes} (sdu : Bytes)
      (hsize : container.length + 2 = 4 * length.toNat) :
      Chain type (length :: (container ++ noMoreExtensionHeaders :: sdu)) [⟨type, container⟩] sdu
  | more (type : ExtensionHeaderType) {next : ExtensionHeaderType} {length : UInt8}
      {container bytes : Bytes} {exts : List ExtensionHeader} {sdu : Bytes}
      (hsize : container.length + 2 = 4 * length.toNat) (hnext : next ≠ noMoreExtensionHeaders)
      (hchain : Chain next bytes exts sdu) :
      Chain type (length :: (container ++ next :: bytes)) (⟨type, container⟩ :: exts) sdu

def extBit (fixed : Bytes) : Bool := (fixed.headD 0).toNat.testBit 2
def seqBit (fixed : Bytes) : Bool := (fixed.headD 0).toNat.testBit 1
def nPduBit (fixed : Bytes) : Bool := (fixed.headD 0).toNat.testBit 0

/-- A PDU that has all parts of its header, with its extension headers and its SDU. -/
inductive WellFormed : Bytes → List ExtensionHeader → Bytes → Prop
  | base {fixed : Bytes} (sdu : Bytes) (hfixed : fixed.length = baseHeaderLen)
      (hflags : (extBit fixed || seqBit fixed || nPduBit fixed) = false) :
      WellFormed (fixed ++ sdu) [] sdu
  | optional {fixed optional : Bytes} (sdu : Bytes)
      (hfixed : fixed.length = baseHeaderLen) (hoptional : optional.length = 4)
      (hext : extBit fixed = false) (hflags : seqBit fixed || nPduBit fixed) :
      WellFormed (fixed ++ (optional ++ sdu)) [] sdu
  | extended {fixed optional : Bytes} {type : ExtensionHeaderType} {bytes : Bytes}
      {exts : List ExtensionHeader} {sdu : Bytes} (hfixed : fixed.length = baseHeaderLen)
      (hoptional : optional.length = 3) (hext : extBit fixed) (hchain : Chain type bytes exts sdu) :
      WellFormed (fixed ++ (optional ++ type :: bytes)) exts sdu

/-- What is accepted is well formed, and the SDU is what comes after the header. -/
def AcceptsWellFormed (pdu : Bytes) : Prop :=
  ∀ dissected, dissectPdu pdu = some dissected →
    WellFormed pdu dissected.hdr.extList (extractMsg dissected)

/-- How an extension header is taken: its container, the next type, the rest, and whether it is
one. -/
inductive Piece : Bytes → Bytes → ExtensionHeaderType → Bytes → Bool → Prop
  | sound {length : UInt8} {container : Bytes} (next : ExtensionHeaderType)
      (rest : Bytes) (hsize : container.length + 2 = 4 * length.toNat) :
      Piece (length :: (container ++ next :: rest)) container next rest true
  -- The PDU has ended.
  | missing : Piece [] [] noMoreExtensionHeaders [] false
  -- The container goes beyond the PDU, or the length is zero.
  | overrun {length : UInt8} {tail : Bytes}
      (hsize : tail.length < (containerSize length).toNat) :
      Piece (length :: tail) [] (tail.headD noMoreExtensionHeaders) tail.tail false
  -- The PDU ends in front of the next type.
  | cut {length : UInt8} {container : Bytes}
      (hsize : container.length + 2 = 4 * length.toNat) :
      Piece (length :: container) container noMoreExtensionHeaders [] false
  -- The length is zero, and the PDU is long enough for its size in 16 bits.
  | wrapped {container rest : Bytes} (hsize : container.length = 65534) :
      Piece (0 :: (container ++ rest)) container (rest.headD noMoreExtensionHeaders) rest.tail
        false

/-- A chain of at most so many extension headers, as it is taken, and whether all of them are
ones. -/
inductive Reading :
    Nat → ExtensionHeaderType → Bytes → List ExtensionHeader → Bytes → Bool → Prop
  | last {room : Nat} {type : ExtensionHeaderType} {bytes container sdu : Bytes} {sound : Bool}
      (htype : extensionHeaderComprehensionCheck type)
      (hpiece : Piece bytes container noMoreExtensionHeaders sdu sound) :
      Reading (room + 1) type bytes [⟨type, container⟩] sdu sound
  | more {room : Nat} {type next : ExtensionHeaderType} {bytes container rest sdu : Bytes}
      {exts : List ExtensionHeader} {sound soundRest : Bool}
      (htype : extensionHeaderComprehensionCheck type) (hnext : next ≠ noMoreExtensionHeaders)
      (hpiece : Piece bytes container next rest sound)
      (hreading : Reading room next rest exts sdu soundRest) :
      Reading (room + 1) type bytes (⟨type, container⟩ :: exts) sdu (sound && soundRest)

/-- A chain taken up to its end although not all of it are extension headers. -/
structure Misleading (pdu : Bytes) : Prop where
  size : extendedHeaderLen ≤ pdu.length
  version : (pdu.getD 0 0).toNat / 16 = 3
  extHdr : extBit pdu
  nPdu : nPduBit pdu = false
  length : (pdu.getD 2 0).toNat * 256 + (pdu.getD 3 0).toNat =
    (pdu.length - baseHeaderLen) % 65536
  type : pdu.getD 11 0 ≠ noMoreExtensionHeaders
  chain : ∃ exts sdu,
    Reading maxNumHeaderExtensions (pdu.getD 11 0) (pdu.drop extendedHeaderLen) exts sdu false

variable {type : ExtensionHeaderType} {room : Nat} {sdu : Bytes}

section

lemma containerSize_toNat {length : UInt8} (h : length ≠ 0) :
    (containerSize length).toNat + 2 = 4 * length.toNat := by
  have hlt := length.toNat_lt
  have hpos : length.toNat ≠ 0 := fun hzero => h (UInt8.toNat_inj.mp hzero)
  rw [containerSize, UInt16.toNat_sub, UInt16.toNat_mul, UInt8.toNat_toUInt16]
  have htwo : (2 : UInt16).toNat = 2 := rfl
  have hfour : (4 : UInt16).toNat = 4 := rfl
  rw [hfour]
  omega

lemma containerSize_zero : (containerSize 0).toNat = 65534 := by decide

lemma containerSize_ne_zero (length : UInt8) : (containerSize length).toNat ≠ 0 := by
  obtain rfl | hne := eq_or_ne length 0
  · decide
  · have hsize := containerSize_toNat hne
    omega

variable {container bytes : Bytes} {sound : Bool}

lemma length_ne_zero {length : UInt8} (hsize : container.length + 2 = 4 * length.toNat) :
    length ≠ 0 := by
  rintro rfl
  rw [show (0 : UInt8).toNat = 0 from rfl] at hsize
  omega

def takePiece : Bytes → Bytes × ExtensionHeaderType × Bytes
  | [] => ([], noMoreExtensionHeaders, [])
  | length :: tail =>
    let size := (containerSize length).toNat
    if tail.length < size then ([], tail.headD noMoreExtensionHeaders, tail.tail)
    else (tail.take size, (tail.drop size).headD noMoreExtensionHeaders, (tail.drop size).tail)

def isSound : Bytes → Bool
  | [] => false
  | length :: tail => length ≠ 0 && (containerSize length).toNat < tail.length

section

variable {rest : Bytes} {next : ExtensionHeaderType}
  (h : Piece bytes container next rest sound)

include h

lemma Piece.eq : takePiece bytes = (container, next, rest) ∧ isSound bytes = sound := by
  cases h with
  | @sound length container next rest hsize =>
    have hne := length_ne_zero hsize
    have heq : (containerSize length).toNat = container.length := by
      have := containerSize_toNat hne
      omega
    simp [takePiece, isSound, heq, hne]
  | missing => exact ⟨rfl, rfl⟩
  | overrun hsize =>
    refine ⟨by rw [takePiece]; exact if_pos hsize, ?_⟩
    simp [isSound, hsize.le]
  | @cut length container hsize =>
    have heq : (containerSize length).toNat = container.length := by
      have := containerSize_toNat (length_ne_zero hsize)
      omega
    simp [takePiece, isSound, heq]
  | wrapped hsize => simp [takePiece, isSound, containerSize_zero, hsize]

lemma Piece.exists_of_sound (hsound : sound = true) :
    ∃ length : UInt8, bytes = length :: (container ++ next :: rest) ∧
      container.length + 2 = 4 * length.toNat := by
  cases h with
  | sound _ _ hsize => exact ⟨_, rfl, hsize⟩
  | missing | overrun | cut | wrapped => cases hsound

end

lemma exists_piece (bytes : Bytes) :
    ∃ sound, Piece bytes (takePiece bytes).1 (takePiece bytes).2.1 (takePiece bytes).2.2 sound := by
  cases bytes with
  | nil => exact ⟨false, .missing⟩
  | cons length tail =>
    rw [takePiece]
    split_ifs with hsize
    · exact ⟨false, .overrun hsize⟩
    have hle := Nat.le_of_not_lt hsize
    have htake : (tail.take (containerSize length).toNat).length =
        (containerSize length).toNat := length_take_of_le hle
    have hsplit := take_append_drop (containerSize length).toNat tail
    obtain rfl | hne := eq_or_ne length 0
    · refine ⟨false, ?_⟩
      conv => enter [1, 2]; rw [← hsplit]
      exact .wrapped (htake.trans containerSize_zero)
    have hcontainer := containerSize_toNat hne
    rw [← htake] at hcontainer
    cases hrest : tail.drop (containerSize length).toNat with
    | nil =>
      refine ⟨false, ?_⟩
      rw [hrest, append_nil] at hsplit
      conv => enter [1, 2]; rw [← hsplit]
      exact .cut hcontainer
    | cons next rest =>
      refine ⟨true, ?_⟩
      conv => enter [1, 2]; rw [← hsplit, hrest]
      exact .sound next rest hcontainer

lemma Reading.eq_of_chain {sdu other : Bytes} {exts chained : List ExtensionHeader}
    (h : Reading room type bytes exts sdu sound) (hchain : Chain type bytes chained other) :
    sound = true ∧ exts = chained ∧ sdu = other := by
  induction h generalizing chained with
  | last htype hpiece =>
    cases hchain with
    | last _ _ hsize =>
      obtain ⟨htake, hsound⟩ := hpiece.eq
      obtain ⟨htake', hsound'⟩ := (Piece.sound noMoreExtensionHeaders other hsize).eq
      rw [htake'] at htake
      obtain ⟨rfl, -, rfl⟩ := htake
      exact ⟨hsound.symm.trans hsound', rfl, rfl⟩
    | more _ hsize hnext =>
      have htake := hpiece.eq.1
      rw [(Piece.sound _ _ hsize).eq.1, Prod.mk.injEq, Prod.mk.injEq] at htake
      exact absurd htake.2.1 hnext
  | more htype hnext hpiece hread ih =>
    cases hchain with
    | last _ _ hsize =>
      have htake := hpiece.eq.1
      rw [(Piece.sound _ _ hsize).eq.1, Prod.mk.injEq, Prod.mk.injEq] at htake
      exact absurd htake.2.1.symm hnext
    | more _ hsize _ hrest =>
      obtain ⟨htake, hsound⟩ := hpiece.eq
      obtain ⟨htake', hsound'⟩ := (Piece.sound _ _ hsize).eq
      rw [htake'] at htake
      obtain ⟨rfl, rfl, rfl⟩ := htake
      obtain ⟨rfl, rfl, rfl⟩ := ih hrest
      rw [← hsound, hsound']
      exact ⟨rfl, rfl, rfl⟩

lemma Reading.chain {exts : List ExtensionHeader} (h : Reading room type bytes exts sdu sound)
    (hsound : sound = true) : Chain type bytes exts sdu := by
  induction h with
  | last htype hpiece =>
    obtain ⟨length, rfl, hsize⟩ := hpiece.exists_of_sound hsound
    exact .last _ _ hsize
  | more htype hnext hpiece hread ih =>
    obtain ⟨hfirst, hrest⟩ := (Bool.and_eq_true _ _).mp hsound
    obtain ⟨length, rfl, hsize⟩ := hpiece.exists_of_sound hfirst
    exact .more _ hsize hnext (ih hrest)

end

section

structure Reads (pdu : Bytes) (d : BitDecoder) (bytes : Bytes) : Prop where
  buffer : d.buffer = pdu
  aligned : d.offset = 0
  inside : d.it ≤ pdu.length
  rest : pdu.drop d.it = bytes

variable {pdu : Bytes} {d : BitDecoder} {bytes : Bytes}

section

variable (h : Reads pdu d bytes)

include h

lemma Reads.length : bytes.length = pdu.length - d.it := by
  rw [← h.rest, length_drop]

lemma Reads.unpack_byte :
    (d.unpack 8).val = (bytes.headD 0).toNat ∧ Reads pdu (d.unpack 8).decoder bytes.tail := by
  obtain ⟨hbuf, halign, hinside, hrest⟩ := h
  subst hbuf
  rw [BitEncoding.unpack_byte halign, hrest]
  cases bytes with
  | nil =>
    have hend := drop_eq_nil_iff.mp hrest
    simp only [if_neg (Nat.not_lt.mpr hend)]
    exact ⟨rfl, rfl, halign, hinside, hrest⟩
  | cons byte bytes =>
    have hlt : d.it < d.buffer.length := by
      by_contra hend
      rw [drop_eq_nil_of_le (Nat.le_of_not_lt hend)] at hrest
      cases hrest
    simp only [if_pos hlt]
    refine ⟨rfl, rfl, halign, hlt, ?_⟩
    rw [← drop_drop, hrest]
    rfl

lemma Reads.unpackAlignedBytes {size : Nat} (hsize : size ≠ 0) :
    (bytes.length < size → d.unpackAlignedBytes size = ([], d)) ∧
      (size ≤ bytes.length → (d.unpackAlignedBytes size).1 = bytes.take size ∧
        Reads pdu (d.unpackAlignedBytes size).2 (bytes.drop size)) := by
  have hlen := h.length
  obtain ⟨hbuf, halign, hinside, hrest⟩ := h
  subst hbuf
  rw [BitDecoder.unpackAlignedBytes, BitDecoder.alignBytes, if_pos halign, if_neg hsize, ← hlen,
    hrest]
  refine ⟨fun hlt => if_pos hlt, fun hle => ?_⟩
  rw [if_neg (Nat.not_lt.mpr hle)]
  refine ⟨rfl, rfl, halign, ?_, ?_⟩
  · change d.it + size ≤ d.buffer.length
    omega
  · rw [← hrest, drop_drop]

lemma readExtHeader_eq (type : ExtensionHeaderType) :
    (readExtHeader d type).1 = ⟨type, (takePiece bytes).1⟩ ∧
      (readExtHeader d type).2.1 = (takePiece bytes).2.1 ∧
      Reads pdu (readExtHeader d type).2.2 (takePiece bytes).2.2 := by
  obtain ⟨hlen, htail⟩ := h.unpack_byte
  rw [readExtHeader]
  simp only [hlen, UInt8.ofNat_toNat, unpackExtHeaderType]
  cases bytes with
  | nil =>
    have hsize : ([] : Bytes).length < (containerSize 0).toNat := by decide
    obtain ⟨hempty, -⟩ := htail.unpackAlignedBytes (containerSize_ne_zero 0)
    rw [headD_nil, hempty hsize]
    obtain ⟨hnext, hend⟩ := htail.unpack_byte
    refine ⟨rfl, ?_, hend⟩
    rw [hnext]
    rfl
  | cons length tail =>
    obtain ⟨hempty, hfull⟩ := htail.unpackAlignedBytes (containerSize_ne_zero length)
    rw [headD_cons, takePiece]
    split_ifs with hsize
    · rw [hempty hsize]
      obtain ⟨hnext, hend⟩ := htail.unpack_byte
      refine ⟨rfl, ?_, hend⟩
      rw [hnext, UInt8.ofNat_toNat]
      rfl
    · obtain ⟨hcontainer, hafter⟩ := hfull (Nat.le_of_not_lt hsize)
      obtain ⟨hnext, hend⟩ := hafter.unpack_byte
      refine ⟨by rw [hcontainer]; rfl, ?_, hend⟩
      rw [hnext, UInt8.ofNat_toNat]
      rfl

end

variable {room : Nat} {type : ExtensionHeaderType} {exts : List ExtensionHeader}
  {bytes : Bytes}

lemma readExtensions_sound {result : List ExtensionHeader × BitDecoder}
    (hreads : Reads pdu d bytes) (h : readExtensions (room + 1) type exts d = some result) :
    ∃ new sdu sound, result.1 = exts ++ new ∧ Reading room type bytes new sdu sound ∧
      Reads pdu result.2 sdu := by
  induction room generalizing type exts d bytes with
  | zero => simp [readExtensions] at h
  | succ room ih =>
    obtain ⟨hext, hnext, hrest⟩ := readExtHeader_eq hreads type
    obtain ⟨sound, hpiece⟩ := exists_piece bytes
    rw [readExtensions] at h
    split at h
    · cases h
    rename_i htype
    have htype : extensionHeaderComprehensionCheck type := by simpa using htype
    simp only [Nat.succ_ne_zero, if_false, hext, hnext] at h
    split_ifs at h with hlast
    · obtain rfl := Option.some.inj h
      rw [hlast] at hpiece
      exact ⟨_, _, sound, rfl, .last htype hpiece, hrest⟩
    · obtain ⟨new, sdu, soundRest, hresl, hread, hend⟩ := ih hrest h
      refine ⟨_, sdu, _, ?_, .more htype hlast hpiece hread, hend⟩
      rw [hresl, append_assoc]
      rfl

lemma readExtensions_complete {new : List ExtensionHeader} {sound : Bool}
    (h : Reading room type bytes new sdu sound) (exts : List ExtensionHeader)
    (hreads : Reads pdu d bytes) :
    ∃ after, readExtensions (room + 1) type exts d = some (exts ++ new, after) ∧
      Reads pdu after sdu := by
  induction h generalizing exts d with
  | @last room type bytes container sdu sound htype hpiece =>
    obtain ⟨hext, hnext, hrest⟩ := readExtHeader_eq hreads type
    rw [hpiece.eq.1] at hext hnext hrest
    refine ⟨_, ?_, hrest⟩
    rw [readExtensions, htype]
    simp [hext, hnext]
  | @more room type next bytes container rest sdu new sound soundRest htype hmore hpiece hread
      ih =>
      obtain ⟨hext, hnext, hrest⟩ := readExtHeader_eq hreads type
      rw [hpiece.eq.1] at hext hnext hrest
      obtain ⟨after, hafter, hend⟩ := ih (exts ++ [⟨type, container⟩]) hrest
      refine ⟨after, ?_, hend⟩
      rw [readExtensions, htype]
      simp only [Bool.not_true, Bool.false_eq_true, if_false, Nat.succ_ne_zero, hext, hnext,
        if_neg hmore]
      rw [hafter, append_assoc]
      rfl

section

variable {sdu : Bytes} {sound : Bool} (h : Reading room type bytes exts sdu sound)

include h

lemma Reading.comprehended : extensionHeaderComprehensionCheck type := by
  cases h with
  | last htype _ | more htype _ _ _ => exact htype

lemma Reading.length_le : exts.length ≤ room := by
  induction h with
  | last _ _ => exact Nat.le_add_left 1 _
  | more _ _ _ _ ih => exact Nat.succ_le_succ ih

end

lemma Reads.extractMsg {pdu : Bytes} {d : BitDecoder} (h : Reads pdu d bytes)
    (header : Header) : extractMsg ⟨pdu, header, d.nofBytes⟩ = bytes := by
  rw [Gtpu.extractMsg, BitDecoder.nofBytes, if_pos h.aligned, Nat.add_zero]
  exact h.rest

end

end ProtoRu.Gtpu
