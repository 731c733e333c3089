import ProtoRu.GtpuDissection

namespace ProtoRu.Gtpu

open BitEncoding ExtensionHeaderType BitDecoder List UInt16 Option

variable {s1 s0 nPdu type : UInt8} {dissected : DissectedPdu} {exts : List ExtensionHeader}
  {sdu : Bytes}

section

def flagsOf (byte : UInt8) : Flags where
  version := byte.toNat / 32
  protocolType := byte.toNat / 16 % 2
  extHdr := byte.toNat.testBit 2
  seqNumber := byte.toNat.testBit 1
  nPdu := byte.toNat.testBit 0

lemma readFlags_cons (byte : UInt8) (rest : Bytes) :
    readFlags ⟨byte :: rest, 0, 0⟩ = (flagsOf byte, ⟨byte :: rest, 1, 0⟩) := by
  have hbit (offset width : Nat) (hwidth : 0 < width) (h : offset + width < 8) :
      unpack ⟨byte :: rest, 0, offset⟩ width =
        ⟨byte.toNat >>> (8 - offset - width) % 2 ^ width, true,
          ⟨byte :: rest, 0, offset + width⟩⟩ :=
    @unpack_within ⟨byte :: rest, 0, offset⟩ width byte hwidth h rfl
  have hlast : unpack ⟨byte :: rest, 0, 7⟩ 1 = ⟨byte.toNat % 2 ^ 1, true, ⟨byte :: rest, 1, 0⟩⟩ :=
    @unpack_rest_of_byte ⟨byte :: rest, 0, 7⟩ 1 byte (by decide) rfl rfl
  have hvers : byte.toNat >>> 5 % 2 ^ 3 = byte.toNat / 32 := by
    have hlt := byte.toNat_lt
    omega
  have hflag (i : Nat) : (byte.toNat >>> i % 2 ^ 1 == 1) = byte.toNat.testBit i := by
    rw [Nat.testBit_eq_decide_div_mod_eq, Nat.shiftRight_eq_div_pow]
    rfl
  rw [readFlags, hbit 0 3 (by decide) (by decide)]
  rw [hbit 3 1 (by decide) (by decide)]
  rw [hbit 4 1 (by decide) (by decide)]
  rw [hbit 5 1 (by decide) (by decide)]
  rw [hbit 6 1 (by decide) (by decide)]
  rw [hlast]
  refine Prod.ext ?_ rfl
  rw [Flags.mk.injEq]
  exact ⟨hvers, by rw [Nat.shiftRight_eq_div_pow]; rfl, hflag 2, hflag 1, hflag 0⟩

variable {pdu tail rest : Bytes} {header : Header}
  {flags messageType l1 l0 t3 t2 t1 t0 : UInt8}

lemma dissectPdu_cons
    (hpdu : pdu = flags :: messageType :: l1 :: l0 :: t3 :: t2 :: t1 :: t0 :: tail) :
    dissectPdu pdu =
      if supportedFlagsCheck (flagsOf flags) ∧ ofNat (ofBytes [l1, l0]) = ofNat tail.length then
        (dissectOptional (fixedHeader (flagsOf flags) messageType (ofNat (ofBytes [l1, l0]))
              (UInt32.ofNat (ofBytes [t3, t2, t1, t0]))) ⟨pdu, 8, 0⟩).bind fun optional =>
          (dissectExtensions optional.1 optional.2).bind fun extensions =>
            some ⟨pdu, extensions.1, extensions.2.nofBytes⟩
      else none := by
  have hflags : readFlags ⟨pdu, 0, 0⟩ = (flagsOf flags, ⟨pdu, 1, 0⟩) := by
    rw [hpdu]
    exact readFlags_cons _ _
  have hmessage : unpack ⟨pdu, 1, 0⟩ 8 = ⟨messageType.toNat, true, ⟨pdu, 2, 0⟩⟩ :=
    @unpack_aligned ⟨pdu, 1, 0⟩ [messageType] _ rfl (by rw [hpdu]; rfl)
  have hlen : unpack ⟨pdu, 2, 0⟩ 16 = ⟨ofBytes [l1, l0], true, ⟨pdu, 4, 0⟩⟩ :=
    @unpack_aligned ⟨pdu, 2, 0⟩ [l1, l0] _ rfl (by rw [hpdu]; rfl)
  have hteid : unpack ⟨pdu, 4, 0⟩ 32 = ⟨ofBytes [t3, t2, t1, t0], true, ⟨pdu, 8, 0⟩⟩ :=
    @unpack_aligned ⟨pdu, 4, 0⟩ [t3, t2, t1, t0] _ rfl (by rw [hpdu]; rfl)
  have hsize : pdu.length - baseHeaderLen = tail.length := by
    rw [hpdu]
    rfl
  rw [dissectPdu, if_neg (by rw [hpdu]; exact Nat.not_lt.mpr (Nat.le_add_left 8 tail.length)),
    hflags]
  simp only [hmessage, hlen, hteid, hsize, UInt8.ofNat_toNat]
  cases supportedFlagsCheck (flagsOf flags)
  · simp
  simp only [Bool.not_true, Bool.false_eq_true, if_false, true_and]
  split
  · rfl
  · rename_i heq
    rw [if_pos (not_not.mp heq)]
    rfl

lemma exists_fixed (h : baseHeaderLen ≤ pdu.length) : ∃ flags messageType l1 l0 t3 t2 t1 t0 tail,
      pdu = flags :: messageType :: l1 :: l0 :: t3 :: t2 :: t1 :: t0 :: tail := by
  rw [baseHeaderLen] at h
  obtain ⟨flags, messageType, l1, l0, rest, rfl⟩ := exists_four_bytes (le_trans (by decide) h)
  simp only [length_cons] at h
  obtain ⟨t3, t2, t1, t0, tail, rfl⟩ := @exists_four_bytes rest (by omega)
  exact ⟨flags, messageType, l1, l0, t3, t2, t1, t0, tail, rfl⟩

lemma dissectOptional_cons (hrest : pdu.drop 8 = s1 :: s0 :: nPdu :: type :: rest)
    (hflags : header.flags.extHdr || header.flags.seqNumber || header.flags.nPdu) :
    dissectOptional header ⟨pdu, 8, 0⟩ =
      if extensionHeaderComprehensionCheck type then
        some ({ header with
          seqNumber := ofNat (ofBytes [s1, s0])
          nPdu := nPdu
          nextExtHdrType := type }, ⟨pdu, 12, 0⟩)
      else none := by
  have hdrop (n : Nat) : pdu.drop (8 + n) = (s1 :: s0 :: nPdu :: type :: rest).drop n := by
    rw [← drop_drop, hrest]
  have hseq : unpack ⟨pdu, 8, 0⟩ 16 = ⟨ofBytes [s1, s0], true, ⟨pdu, 10, 0⟩⟩ :=
    @unpack_aligned ⟨pdu, 8, 0⟩ [s1, s0] _ rfl hrest
  have hnumber : unpack ⟨pdu, 10, 0⟩ 8 = ⟨nPdu.toNat, true, ⟨pdu, 11, 0⟩⟩ :=
    @unpack_aligned ⟨pdu, 10, 0⟩ [nPdu] _ rfl (hdrop 2)
  have htype : unpack ⟨pdu, 11, 0⟩ 8 = ⟨type.toNat, true, ⟨pdu, 12, 0⟩⟩ :=
    @unpack_aligned ⟨pdu, 11, 0⟩ [type] _ rfl (hdrop 3)
  have hlength : ¬ pdu.length < extendedHeaderLen := by
    have hlen := congrArg length hrest
    simp only [length_drop, length_cons] at hlen
    rw [extendedHeaderLen]
    omega
  rw [dissectOptional, if_pos hflags, if_neg hlength]
  simp only [hseq, hnumber, unpackExtHeaderType, htype, UInt8.ofNat_toNat]
  cases extensionHeaderComprehensionCheck type <;> rfl

lemma dissectExtensions_of_eq {d : BitDecoder} {result : List ExtensionHeader × BitDecoder}
    (hext : header.flags.extHdr) (htype : header.nextExtHdrType ≠ noMoreExtensionHeaders)
    (h : readExtensions (maxNumHeaderExtensions + 1) header.nextExtHdrType [] d = some result)
    (hle : result.1.length ≤ maxNumHeaderExtensions) :
    dissectExtensions header d =
      some ({ header with extList := result.1, extList_le := hle }, result.2) := by
  rw [dissectExtensions, if_pos hext, if_neg htype]
  split
  · rename_i hnone
    rw [h] at hnone
    cases hnone
  · rename_i other hother
    obtain rfl := some.inj (h.symm.trans hother)
    rfl

structure Start (pdu : Bytes) (header : Header) (tail : Bytes) : Prop where
  flags : supportedFlagsCheck header.flags
  extHdr : header.flags.extHdr = extBit pdu
  seqNumber : header.flags.seqNumber = seqBit pdu
  nPdu : header.flags.nPdu = nPduBit pdu
  extList : header.extList = []
  tail_eq : ∃ fixed, fixed.length = baseHeaderLen ∧ pdu = fixed ++ tail
  dissect_eq : dissectPdu pdu = (dissectOptional header ⟨pdu, 8, 0⟩).bind fun optional =>
      (dissectExtensions optional.1 optional.2).bind fun extensions =>
        some ⟨pdu, extensions.1, extensions.2.nofBytes⟩

lemma start_of_cons
    (hpdu : pdu = flags :: messageType :: l1 :: l0 :: t3 :: t2 :: t1 :: t0 :: tail)
    (hflags : supportedFlagsCheck (flagsOf flags))
    (hlen : ofNat (ofBytes [l1, l0]) = ofNat tail.length) :
    Start pdu (fixedHeader (flagsOf flags) messageType (ofNat (ofBytes [l1, l0]))
        (UInt32.ofNat (ofBytes [t3, t2, t1, t0]))) tail where
  flags := hflags
  extHdr := by rw [hpdu]; rfl
  seqNumber := by rw [hpdu]; rfl
  nPdu := by rw [hpdu]; rfl
  extList := rfl
  tail_eq := ⟨[flags, messageType, l1, l0, t3, t2, t1, t0], rfl, hpdu⟩
  dissect_eq := by
    have heq := dissectPdu_cons hpdu
    rwa [if_pos ⟨hflags, hlen⟩] at heq

lemma exists_start (h : dissectPdu pdu = some dissected) :
    ∃ header tail, Start pdu header tail := by
  obtain hlt | hle := Nat.lt_or_ge pdu.length baseHeaderLen
  · rw [dissectPdu, if_pos hlt] at h
    cases h
  obtain ⟨flags, messageType, l1, l0, t3, t2, t1, t0, tail, hpdu⟩ := exists_fixed hle
  rw [dissectPdu_cons hpdu] at h
  split at h
  · rename_i hstart
    exact ⟨_, tail, start_of_cons hpdu hstart.1 hstart.2⟩
  · cases h

lemma Start.drop (h : Start pdu header tail) : pdu.drop 8 = tail := by
  obtain ⟨fixed, hfixed, rfl⟩ := h.tail_eq
  exact drop_left' hfixed

lemma Start.reads_optional (h : Start pdu header (s1 :: s0 :: nPdu :: type :: rest)) :
    Reads pdu ⟨pdu, 12, 0⟩ rest := by
  obtain ⟨fixed, hfixed, rfl⟩ := h.tail_eq
  rw [baseHeaderLen] at hfixed
  refine ⟨rfl, rfl, ?_, ?_⟩
  · simp only [length_append, length_cons, hfixed]
    omega
  · change (fixed ++ s1 :: s0 :: nPdu :: type :: rest).drop 12 = rest
    rw [drop_append, hfixed, drop_eq_nil_of_le (by rw [hfixed]; decide)]
    rfl

/-- An accepted PDU without extension headers ends with its SDU, any other has a chain as it is
taken. -/
lemma Start.cases (hstart : Start pdu header tail) (h : dissectPdu pdu = some dissected) :
    ((extBit pdu || seqBit pdu || nPduBit pdu) = false ∧ dissected.hdr.extList = [] ∧
        extractMsg dissected = tail) ∨
      ∃ optional type rest, optional.length = 3 ∧ tail = optional ++ type :: rest ∧
        (extBit pdu || seqBit pdu || nPduBit pdu) ∧
        (extBit pdu = false → dissected.hdr.extList = [] ∧ extractMsg dissected = rest) ∧
        (extBit pdu → type ≠ noMoreExtensionHeaders ∧ ∃ sound,
          Reading maxNumHeaderExtensions type rest dissected.hdr.extList (extractMsg dissected)
            sound) := by
  obtain ⟨optional, hopt, hrest⟩ := bind_eq_some_iff.mp (hstart.dissect_eq.symm.trans h)
  obtain ⟨extensions, hextensions, hlast⟩ := bind_eq_some_iff.mp hrest
  obtain rfl := some.inj hlast
  have hflagBits : (header.flags.extHdr || header.flags.seqNumber || header.flags.nPdu) =
      (extBit pdu || seqBit pdu || nPduBit pdu) := by
    rw [hstart.extHdr, hstart.seqNumber, hstart.nPdu]
  by_cases hflags : header.flags.extHdr || header.flags.seqNumber || header.flags.nPdu
  · have hlen : 4 ≤ tail.length := by
      by_contra hshort
      have hbuf : pdu.length < extendedHeaderLen := by
        obtain ⟨fixed, hfixed, rfl⟩ := hstart.tail_eq
        rw [length_append, hfixed, baseHeaderLen, extendedHeaderLen]
        omega
      rw [dissectOptional, if_pos hflags, if_pos hbuf] at hopt
      cases hopt
    obtain ⟨s1, s0, nPdu, type, rest, rfl⟩ := exists_four_bytes hlen
    rw [dissectOptional_cons hstart.drop hflags] at hopt
    split at hopt
    · obtain rfl := some.inj hopt
      have hafter := hstart.reads_optional
      refine .inr ⟨[s1, s0, nPdu], type, rest, rfl, rfl, hflagBits ▸ hflags, ?_, ?_⟩
      · intro hext
        rw [dissectExtensions, if_neg (by rw [hstart.extHdr, hext]; exact Bool.false_ne_true)]
          at hextensions
        obtain rfl := some.inj hextensions
        exact ⟨hstart.extList, hafter.extractMsg _⟩
      · intro hext
        rw [dissectExtensions, if_pos (hstart.extHdr.trans hext)] at hextensions
        split at hextensions
        · cases hextensions
        rename_i htype
        split at hextensions
        · cases hextensions
        rename_i result hresl
        obtain rfl := some.inj hextensions
        obtain ⟨exts, sdu, sound, hexts, hread, hend⟩ := readExtensions_sound hafter hresl
        refine ⟨htype, sound, ?_⟩
        rw [hend.extractMsg]
        have hlist : result.1 = exts := hexts
        rw [← hlist] at hread
        exact hread
    · cases hopt
  · have hnone : (extBit pdu || seqBit pdu || nPduBit pdu) = false := by
      rw [← hflagBits]
      exact Bool.eq_false_iff.mpr hflags
    have hext : header.flags.extHdr = false := by
      rw [← Bool.not_eq_true]
      exact fun hset => hflags (by rw [hset]; rfl)
    rw [dissectOptional, if_neg hflags] at hopt
    obtain rfl := some.inj hopt
    rw [dissectExtensions, if_neg (Bool.eq_false_iff.mp hext)] at hextensions
    obtain rfl := some.inj hextensions
    exact .inl ⟨hnone, hstart.extList, hstart.drop⟩

lemma dissectPdu_of_reading {sound : Bool}
    (hstart : Start pdu header (s1 :: s0 :: nPdu :: type :: rest)) (hext : header.flags.extHdr)
    (htype : type ≠ noMoreExtensionHeaders)
    (h : Reading maxNumHeaderExtensions type rest exts sdu sound) :
    ∃ hdrLen, dissectPdu pdu = some ⟨pdu, { header with
          seqNumber := ofNat (ofBytes [s1, s0])
          nPdu := nPdu
          nextExtHdrType := type
          extList := exts
          extList_le := h.length_le }, hdrLen⟩ ∧
      pdu.drop hdrLen = sdu := by
  obtain ⟨after, hafter, hend⟩ := readExtensions_complete h [] (hstart.reads_optional)
  have hexts := @dissectExtensions_of_eq { header with
      seqNumber := ofNat (ofBytes [s1, s0])
      nPdu := nPdu
      nextExtHdrType := type } _ _ hext htype hafter h.length_le
  refine ⟨after.nofBytes, ?_, hend.extractMsg header⟩
  rw [hstart.dissect_eq, dissectOptional_cons hstart.drop (by rw [hext]; rfl),
    if_pos h.comprehended, bind_some, hexts]
  rfl

end

section

variable {pdu : Bytes}

lemma headD_append {fixed rest : Bytes} (h : fixed.length = baseHeaderLen) :
    (fixed ++ rest).headD 0 = fixed.headD 0 := by
  cases fixed with
  | nil => cases h
  | cons byte fixed => rfl

lemma wellFormed_of_dissectPdu (h : dissectPdu pdu = some dissected)
    (hsound : ∀ type rest sound, pdu.drop 11 = type :: rest → extBit pdu → type ≠
      noMoreExtensionHeaders → Reading maxNumHeaderExtensions type rest dissected.hdr.extList
      (extractMsg dissected) sound → sound = true)
    : WellFormed pdu dissected.hdr.extList (extractMsg dissected) := by
  obtain ⟨header, tail, hstart⟩ := exists_start h
  obtain ⟨fixed, hfixed, hpdu⟩ := hstart.tail_eq
  have hhead : pdu.headD 0 = fixed.headD 0 := by rw [hpdu, headD_append hfixed]
  obtain ⟨hflags, hexts, hmsg⟩ | ⟨optional, type, rest, hopt, htail, hflags, hplain, hchain⟩ :=
    hstart.cases h
  · rw [hexts, hmsg, hpdu]
    apply WellFormed.base _ hfixed
    rwa [extBit, seqBit, nPduBit, ← hhead]
  · rw [htail] at hpdu
    cases hext : extBit pdu with
    | false =>
      obtain ⟨hexts, hmsg⟩ := hplain hext
      rw [hexts, hmsg, hpdu, ← singleton_append, ← append_assoc optional]
      refine WellFormed.optional _ hfixed ?_ ?_ ?_
      · rw [length_append, hopt]
        rfl
      · rwa [extBit, ← hhead]
      · rw [hext] at hflags
        rwa [seqBit, nPduBit, ← hhead]
    | true =>
      obtain ⟨htype, sound, hread⟩ := hchain hext
      have hdrop : pdu.drop 11 = type :: rest := by
        rw [hpdu, ← append_assoc]
        apply drop_left'
        rw [length_append, hfixed, hopt]
        rfl
      have hall := hsound type rest sound hdrop hext htype hread
      rw [hpdu]
      refine WellFormed.extended hfixed hopt ?_ (hread.chain hall)
      rwa [extBit, ← hhead]

lemma WellFormed.chain (h : WellFormed pdu exts sdu) (hext : extBit pdu) :
    ∃ type rest, pdu.drop 11 = type :: rest ∧ Chain type rest exts sdu := by
  cases h with
  | @base fixed sdu hfixed hflags =>
    rw [extBit, headD_append hfixed] at hext
    rw [extBit, hext] at hflags
    cases hflags
  | @optional fixed optional sdu hfixed hopt hnot =>
    rw [extBit, headD_append hfixed] at hext
    rw [extBit, hext] at hnot
    cases hnot
  | @extended fixed optional type bytes exts sdu hfixed hopt hext hchain =>
    refine ⟨type, bytes, ?_, hchain⟩
    rw [← append_assoc]
    apply drop_left'
    rw [length_append, hfixed, hopt]
    rfl

lemma supportedFlagsCheck_flagsOf {flags : UInt8} :
    supportedFlagsCheck (flagsOf flags) ↔ flags.toNat / 16 = 3 ∧ flags.toNat.testBit 0 = false := by
  have hvers : flags.toNat / 32 = 1 ∧ flags.toNat / 16 % 2 = 1 ↔ flags.toNat / 16 = 3 := by
    omega
  rw [← hvers]
  simp [supportedFlagsCheck, flagsOf]

lemma lengthField_eq_iff {l1 l0 : UInt8} {size : Nat} : ofNat (ofBytes [l1, l0]) = ofNat size ↔
      l1.toNat * 256 + l0.toNat = size % 65536 := by
  have hl1 := l1.toNat_lt
  have hl0 := l0.toNat_lt
  have hbytes : ofBytes [l1, l0] = l1.toNat * 256 + l0.toNat := by
    simp [ofBytes, Nat.shiftLeft_eq]
  rw [← UInt16.toNat_inj, UInt16.toNat_ofNat', UInt16.toNat_ofNat', hbytes]
  omega

/-- What is accepted is well formed exactly if no broken chain is taken up to its end. -/
lemma acceptsWellFormed_iff (pdu : Bytes) : AcceptsWellFormed pdu ↔ ¬ Misleading pdu := by
  constructor
  · intro haccs hmisl
    obtain ⟨flags, messageType, l1, l0, t3, t2, t1, t0, tail, rfl⟩ :=
      exists_fixed (le_trans (by decide) hmisl.size)
    have hsize : 4 ≤ tail.length := by
      have hlong := hmisl.size
      rw [extendedHeaderLen] at hlong
      simp only [length_cons] at hlong
      omega
    obtain ⟨s1, s0, nPdu, type, rest, rfl⟩ := exists_four_bytes hsize
    have hflags : supportedFlagsCheck (flagsOf flags) :=
      supportedFlagsCheck_flagsOf.mpr ⟨hmisl.version, hmisl.nPdu⟩
    have hlen : ofNat (ofBytes [l1, l0]) = ofNat (s1 :: s0 :: nPdu :: type :: rest).length :=
      lengthField_eq_iff.mpr hmisl.length
    have hstart := @start_of_cons _ _ flags messageType l1 l0 t3 t2 t1 t0 rfl hflags hlen
    obtain ⟨exts, sdu, hread⟩ := hmisl.chain
    obtain ⟨hdrLen, hdiss, hdrop⟩ :=
      dissectPdu_of_reading hstart hmisl.extHdr hmisl.type hread
    obtain ⟨other, bytes, hbytes, hchain⟩ :=
      WellFormed.chain (haccs _ hdiss) hmisl.extHdr
    obtain ⟨rfl, rfl⟩ := cons.inj hbytes
    exact absurd (hread.eq_of_chain hchain).1 Bool.false_ne_true
  · intro hnot dissected hdiss
    apply wellFormed_of_dissectPdu hdiss
    intro type rest sound hdrop hext htype hread
    by_contra hbroken
    rw [Bool.not_eq_true] at hbroken
    subst hbroken
    obtain hlt | hle := Nat.lt_or_ge pdu.length baseHeaderLen
    · rw [dissectPdu, if_pos hlt] at hdiss
      cases hdiss
    obtain ⟨flags, messageType, l1, l0, t3, t2, t1, t0, tail, rfl⟩ := exists_fixed hle
    rw [dissectPdu_cons rfl] at hdiss
    split at hdiss
    · rename_i hstart
      have hsize := congrArg length hdrop
      simp only [length_drop, length_cons] at hsize
      obtain ⟨s1, s0, nPdu, first, bytes, rfl⟩ := @exists_four_bytes tail (by omega)
      obtain ⟨rfl, rfl⟩ := cons.inj hdrop
      obtain ⟨hvers, hnPdu⟩ := supportedFlagsCheck_flagsOf.mp hstart.1
      refine hnot ⟨?_, hvers, hext, hnPdu, lengthField_eq_iff.mp hstart.2, htype, ?_⟩
      · exact Nat.le_add_left 12 _
      · exact ⟨_, _, hread⟩
    · cases hdiss

end

end ProtoRu.Gtpu
