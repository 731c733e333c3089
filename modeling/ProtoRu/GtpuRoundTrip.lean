import ProtoRu.GtpuAcceptance

namespace ProtoRu.Gtpu

open BitEncoding ExtensionHeaderType List

def receivedFlags (header : Header) : Flags :=
  { header.flags with extHdr := !header.extList.isEmpty }

/-- The header with the E flag, the length and the first type. Optional fields are sent if any is
needed. -/
def received (header : Header) (sduLength : Nat) : Header where
  flags := receivedFlags header
  messageType := header.messageType
  length := getLength header sduLength
  teid := header.teid
  seqNumber := if header.optional then header.seqNumber else 0
  nPdu := if header.optional then header.nPdu else 0
  nextExtHdrType := firstType header.extList
  extList := header.extList
  extList_le := header.extList_le

def SupportedTypes (exts : List ExtensionHeader) : Prop :=
  ∀ ext ∈ exts, extensionHeaderComprehensionCheck ext.extensionHeaderType ∧
    ext.extensionHeaderType ≠ noMoreExtensionHeaders

/-- A written PDU is dissected to its header and its SDU. -/
def RoundTrips (header : Header) (sdu : Bytes) : Prop :=
  ∀ pdu, SupportedTypes header.extList → writeHeader header sdu = some pdu →
    ∃ dissected, dissectPdu pdu = some dissected ∧
      dissected.hdr = received header sdu.length ∧ extractMsg dissected = sdu

/-- A header with supported flags and message type, whose containers are aligned. -/
structure Writable (header : Header) : Prop where
  flags : supportedFlagsCheck header.flags
  messageType : supportedMsgTypeCheck header.messageType
  aligned : ∀ ext ∈ header.extList, (ext.container.length + 2) % 4 = 0

/-- Containers whose size fits into eight bits, or is 2 ^ 16 bytes in all, as which zero is read.
-/
def FittingContainers (exts : List ExtensionHeader) : Prop :=
  ∀ ext ∈ exts, ext.container.length ≤ 250 ∨ ext.container.length = 65534

variable (exts : List ExtensionHeader)

section

variable {header : Header}

def lengthByte (container : Bytes) : UInt8 := UInt8.ofNat (1 + container.length + 1) / 4

def encodeExts : List ExtensionHeader → Bytes
  | [] => []
  | ext :: exts =>
    lengthByte ext.container :: (ext.container ++ firstType exts :: encodeExts exts)

variable {e : BitEncoder}

lemma pack_byte (h : e.offset = 0) (byte : UInt8) :
    e.pack byte.toNat 8 = ⟨e.bytes ++ [byte], 0⟩ := by
  have hpack := pack_aligned 1 byte.toNat h
  rw [toBytes, toBytes, Nat.mul_zero, Nat.shiftRight_zero, UInt8.ofNat_toNat] at hpack
  exact hpack

lemma size_mod_four (size : Nat) : UInt8.ofNat size % 4 = 0 ↔ size % 4 = 0 := by
  have hfour : (4 : UInt8).toNat = 4 := rfl
  rw [← UInt8.toNat_inj, UInt8.toNat_mod, UInt8.toNat_ofNat', hfour, UInt8.toNat_zero]
  omega

lemma writeExtHeader_eq (h : e.offset = 0) (ext : ExtensionHeader) (next : ExtensionHeaderType) :
    writeExtHeader e ext next =
      if (ext.container.length + 2) % 4 = 0 then
        some ⟨e.bytes ++ lengthByte ext.container :: (ext.container ++ [next]), 0⟩
      else none := by
  have hsize : UInt8.ofNat (1 + ext.container.length + 1) % 4 = 0 ↔
      (ext.container.length + 2) % 4 = 0 := by
    rw [size_mod_four, Nat.add_comm 1]
  rw [writeExtHeader]
  simp only [hsize]
  split
  · rw [pack_byte h, packBytes_aligned _ rfl, pack_byte rfl, lengthByte]
    simp
  · rfl

lemma writeExtensions_eq (h : e.offset = 0) : writeExtensions exts e =
      if ∀ ext ∈ exts, (ext.container.length + 2) % 4 = 0 then
        some ⟨e.bytes ++ encodeExts exts, 0⟩
      else none := by
  induction exts generalizing e with
  | nil =>
    obtain ⟨bytes, offset⟩ := e
    obtain rfl : offset = 0 := h
    simp [writeExtensions, encodeExts]
  | cons ext exts ih =>
    rw [writeExtensions, writeExtHeader_eq h]
    by_cases hfirst : (ext.container.length + 2) % 4 = 0
    · rw [if_pos hfirst]
      change writeExtensions exts ⟨e.bytes ++ lengthByte ext.container ::
        (ext.container ++ [firstType exts]), 0⟩ = _
      rw [ih rfl]
      simp [hfirst, encodeExts]
    · rw [if_neg hfirst, if_neg fun hall => hfirst (hall ext mem_cons_self)]
      rfl

def flagsByte (extHdr seqNumber : Bool) : UInt8 :=
  0x30 + (if extHdr then 4 else 0) + (if seqNumber then 2 else 0)

lemma supportedFlags_iff {flags : Flags} : supportedFlagsCheck flags ↔
    flags.version = 1 ∧ flags.protocolType = 1 ∧ flags.nPdu = false := by
  simp [supportedFlagsCheck, and_assoc]

lemma writeFlags_eq (h : supportedFlagsCheck header.flags) :
    writeFlags {} header = ⟨[flagsByte (!header.extList.isEmpty) header.flags.seqNumber], 0⟩ := by
  obtain ⟨hvers, hprotocol, hnPdu⟩ := supportedFlags_iff.mp h
  rw [writeFlags, hvers, hprotocol, hnPdu]
  cases header.extList.isEmpty <;> cases header.flags.seqNumber <;> rfl

lemma flagsOf_flagsByte (extHdr seqNumber : Bool) :
    flagsOf (flagsByte extHdr seqNumber) = ⟨1, 1, extHdr, seqNumber, false⟩ := by
  cases extHdr <;> cases seqNumber <;> decide

def encodeOptional (header : Header) : Bytes :=
  if header.optional then
    toBytes 2 header.seqNumber.toNat ++ [header.nPdu, firstType header.extList]
  else []

lemma writeOptional_eq (h : e.offset = 0) :
    writeOptional e header = ⟨e.bytes ++ encodeOptional header, 0⟩ := by
  rw [writeOptional, encodeOptional]
  split
  · rw [pack_aligned 2 _ h, pack_byte rfl, pack_byte rfl]
    simp
  · obtain ⟨bytes, offset⟩ := e
    obtain rfl : offset = 0 := h
    simp

lemma writeHeader_eq_some_iff {sdu pdu : Bytes} :
    writeHeader header sdu = some pdu ↔ Writable header ∧
      pdu = flagsByte (!header.extList.isEmpty) header.flags.seqNumber :: header.messageType ::
        (toBytes 2 (getLength header sdu.length).toNat ++ (toBytes 4 header.teid.toNat ++
          (encodeOptional header ++ (encodeExts header.extList ++ sdu)))) := by
  rw [writeHeader]
  by_cases hflags : supportedFlagsCheck header.flags
  · by_cases htype : supportedMsgTypeCheck header.messageType
    · simp only [hflags, htype, Bool.not_true, Bool.false_eq_true, if_false]
      rw [writeFlags_eq hflags, pack_byte rfl, pack_aligned 2 _ rfl, pack_aligned 4 _ rfl,
        writeOptional_eq rfl, writeExtensions_eq _ rfl]
      split_ifs with halign
      · rw [and_iff_right ⟨hflags, htype, halign⟩, eq_comm]
        simp
      · exact iff_of_false nofun fun hwable => halign hwable.1.aligned
    · simp only [hflags, htype, Bool.not_true, Bool.false_eq_true, if_false, Bool.not_false,
        if_true]
      exact iff_of_false nofun fun hwable => htype hwable.1.messageType
  · simp only [hflags, Bool.not_false, if_true]
    exact iff_of_false nofun fun hwable => hflags hwable.1.flags

lemma foldl_length (len : UInt16) :
    exts.foldl (fun len ext => len + 2 + UInt16.ofNat ext.container.length) len =
      len + UInt16.ofNat (encodeExts exts).length := by
  induction exts generalizing len with
  | nil => exact (UInt16.add_zero len).symm
  | cons ext exts ih =>
    have hlen : (encodeExts (ext :: exts)).length =
        2 + ext.container.length + (encodeExts exts).length := by
      rw [encodeExts, length_cons, length_append, length_cons]
      omega
    rw [foldl_cons, ih, hlen, UInt16.ofNat_add, UInt16.ofNat_add, UInt16.add_assoc len,
      UInt16.add_assoc]
    rfl

lemma getLength_eq (header : Header) (sdu : Bytes) : getLength header sdu.length =
      UInt16.ofNat (encodeOptional header ++ (encodeExts header.extList ++ sdu)).length := by
  rw [getLength, foldl_length, length_append, length_append, encodeOptional]
  split
  · rw [length_append, length_toBytes, ← Nat.add_assoc, Nat.add_comm _ sdu.length,
      ← Nat.add_assoc, UInt16.ofNat_add, UInt16.ofNat_add]
    rfl
  · rw [length_nil, Nat.zero_add, Nat.add_comm, UInt16.ofNat_add]

end

variable {ext : ExtensionHeader} {room : Nat} {sound : Bool}

section

lemma lengthByte_toNat (container : Bytes) :
    (lengthByte container).toNat = (container.length + 2) % 256 / 4 := by
  have hfour : (4 : UInt8).toNat = 4 := rfl
  rw [lengthByte, UInt8.toNat_div, UInt8.toNat_ofNat', hfour, Nat.add_comm 1]

variable {container : Bytes} {exts : List ExtensionHeader}

lemma lengthByte_of_whole (hwhole : container.length = 65534) : lengthByte container = 0 := by
  rw [← UInt8.toNat_inj, lengthByte_toNat, hwhole]
  rfl

lemma exists_piece_written (next : ExtensionHeaderType) (rest : Bytes)
    (halign : (container.length + 2) % 4 = 0)
    (hfits : container.length ≤ 250 ∨ container.length = 65534) :
    ∃ sound, Piece (lengthByte container :: (container ++ next :: rest)) container next rest
      sound := by
  obtain hfits | hwhole := hfits
  · exact ⟨true, .sound next rest (by rw [lengthByte_toNat]; omega)⟩
  · rw [lengthByte_of_whole hwhole]
    exact ⟨false, @Piece.wrapped container (next :: rest) hwhole⟩

lemma fits_of_piece {rest after : Bytes} {next last : ExtensionHeaderType}
    (halign : (container.length + 2) % 4 = 0)
    (h : Piece (lengthByte container :: (container ++ next :: rest)) container last after sound) :
    container.length ≤ 250 ∨ container.length = 65534 := by
  have htake := congrArg Prod.fst h.eq.1
  rw [takePiece] at htake
  split_ifs at htake with hsize
  · have hempty : container = [] := htake.symm
    rw [hempty] at halign
    cases halign
  have hlength := congrArg length htake
  rw [length_take_of_le (Nat.le_of_not_lt hsize)] at hlength
  obtain hzero | hne := eq_or_ne (lengthByte container) 0
  · rw [hzero] at hlength
    exact .inr hlength.symm
  have hcontainer := containerSize_toNat hne
  have hbyte := lengthByte_toNat container
  have hlen : container.length = (containerSize (lengthByte container)).toNat := hlength.symm
  omega

lemma SupportedTypes.tail (h : SupportedTypes (ext :: exts)) : SupportedTypes exts :=
  fun other hmem => h other (mem_cons_of_mem ext hmem)

lemma exists_reading_written (sdu : Bytes) (hroom : (ext :: exts).length ≤ room)
    (htypes : SupportedTypes (ext :: exts))
    (halign : ∀ other ∈ ext :: exts, (other.container.length + 2) % 4 = 0)
    (hfits : FittingContainers (ext :: exts)) :
    ∃ sound, Reading room ext.extensionHeaderType (encodeExts (ext :: exts) ++ sdu) (ext :: exts)
      sdu sound := by
  induction exts generalizing ext room with
  | nil =>
    obtain ⟨room, rfl⟩ := Nat.exists_eq_add_of_le' hroom
    obtain ⟨sound, hpiece⟩ := exists_piece_written noMoreExtensionHeaders sdu
      (halign ext mem_cons_self) (hfits ext mem_cons_self)
    refine ⟨sound, .last (htypes ext mem_cons_self).1 ?_⟩
    rw [encodeExts, cons_append, append_assoc]
    exact hpiece
  | cons second exts ih =>
    cases room with
    | zero => cases hroom
    | succ room =>
      obtain ⟨sound, hpiece⟩ := exists_piece_written second.extensionHeaderType
        (encodeExts (second :: exts) ++ sdu) (halign ext mem_cons_self)
        (hfits ext mem_cons_self)
      obtain ⟨soundRest, hread⟩ := ih (Nat.le_of_succ_le_succ hroom) htypes.tail
        (fun other hmem => halign other (mem_cons_of_mem ext hmem))
        (fun other hmem => hfits other (mem_cons_of_mem ext hmem))
      have hsecond := htypes second (mem_cons_of_mem ext mem_cons_self)
      have hbytes : encodeExts (ext :: second :: exts) ++ sdu =
          lengthByte ext.container :: (ext.container ++
            second.extensionHeaderType :: (encodeExts (second :: exts) ++ sdu)) := by
        rw [encodeExts, cons_append, append_assoc]
        rfl
      rw [hbytes]
      exact ⟨_, .more (htypes ext mem_cons_self).1 hsecond.2 hpiece hread⟩

lemma fits_of_reading {sdu other : Bytes} {type : ExtensionHeaderType}
    (halign : ∀ ext ∈ exts, (ext.container.length + 2) % 4 = 0)
    (h : Reading room type (encodeExts exts ++ sdu) exts other sound) : FittingContainers exts := by
  induction exts generalizing room type sound with
  | nil => exact nofun
  | cons ext exts ih =>
    have hfirst := halign ext mem_cons_self
    rw [encodeExts, cons_append, append_assoc] at h
    cases h with
    | last htype hpiece =>
      rintro only hmem
      rw [mem_singleton.mp hmem]
      exact fits_of_piece hfirst hpiece
    | more htype hnext hpiece hread =>
      have hfits := fits_of_piece hfirst hpiece
      obtain ⟨soundFirst, hwrit⟩ :=
        exists_piece_written (firstType exts) (encodeExts exts ++ sdu) hfirst hfits
      have heq := hpiece.eq.1.symm.trans hwrit.eq.1
      rw [Prod.mk.injEq, Prod.mk.injEq] at heq
      rw [heq.2.2] at hread
      rw [FittingContainers, forall_mem_cons]
      exact ⟨hfits, ih (fun other hmem => halign other (mem_cons_of_mem _ hmem)) hread⟩

end

section

variable {header : Header} {sdu : Bytes}

lemma exists_toBytes_two (val : UInt16) :
    ∃ high low, toBytes 2 val.toNat = [high, low] ∧ UInt16.ofNat (ofBytes [high, low]) = val := by
  refine ⟨_, _, rfl, ?_⟩
  have hbytes := ofBytes_toBytes 2 val.toNat
  rw [Nat.mod_eq_of_lt val.toNat_lt] at hbytes
  exact (congrArg UInt16.ofNat hbytes).trans UInt16.ofNat_toNat

lemma exists_toBytes_four (val : UInt32) : ∃ b3 b2 b1 b0, toBytes 4 val.toNat = [b3, b2, b1, b0] ∧
      UInt32.ofNat (ofBytes [b3, b2, b1, b0]) = val := by
  refine ⟨_, _, _, _, rfl, ?_⟩
  have hbytes := ofBytes_toBytes 4 val.toNat
  rw [Nat.mod_eq_of_lt val.toNat_lt] at hbytes
  exact (congrArg UInt32.ofNat hbytes).trans UInt32.ofNat_toNat

def fixedReceived (header : Header) (sduLength : Nat) : Header :=
  fixedHeader (receivedFlags header) header.messageType (getLength header sduLength) header.teid

variable {pdu : Bytes} {ext : ExtensionHeader} {exts : List ExtensionHeader}

lemma start_of_written (h : writeHeader header sdu = some pdu) :
    Start pdu (fixedReceived header sdu.length)
      (encodeOptional header ++ (encodeExts header.extList ++ sdu)) := by
  obtain ⟨hwable, hpdu⟩ := writeHeader_eq_some_iff.mp h
  obtain ⟨hvers, hprotocol, hnPdu⟩ := supportedFlags_iff.mp hwable.flags
  obtain ⟨l1, l0, hlen, hlengthField⟩ := exists_toBytes_two (getLength header sdu.length)
  obtain ⟨t3, t2, t1, t0, hteid, hteidField⟩ := exists_toBytes_four header.teid
  rw [hlen, hteid] at hpdu
  have hflags : flagsOf (flagsByte (!header.extList.isEmpty) header.flags.seqNumber) =
      receivedFlags header := by
    rw [flagsOf_flagsByte, receivedFlags, hvers, hprotocol, hnPdu]
  have hstart := start_of_cons hpdu (by rw [flagsOf_flagsByte]; rfl)
    (hlengthField.trans (getLength_eq header sdu))
  rwa [hflags, hlengthField, hteidField] at hstart

lemma roundTrip_of_nil (hexts : header.extList = []) (h : writeHeader header sdu = some pdu) :
    ∃ dissected, dissectPdu pdu = some dissected ∧
      dissected.hdr = received header sdu.length ∧ extractMsg dissected = sdu := by
  have hstart := start_of_written h
  have hext (hdr : Header) (d : BitDecoder) (hflags : hdr.flags = receivedFlags header) :
      dissectExtensions hdr d = some (hdr, d) := by
    apply if_neg
    rw [hflags, receivedFlags, hexts]
    exact Bool.false_ne_true
  have hencode : encodeExts header.extList ++ sdu = sdu := by
    rw [hexts]
    rfl
  have hfirst : firstType header.extList = noMoreExtensionHeaders := by
    rw [hexts]
    rfl
  rw [hencode, encodeOptional] at hstart
  by_cases hopt : header.optional
  · obtain ⟨s1, s0, hseq, hseqField⟩ := exists_toBytes_two header.seqNumber
    rw [if_pos hopt, hseq] at hstart
    have hdiss := hstart.dissect_eq
    have hread := @dissectOptional_cons _ _ _ _ _ _ (fixedReceived header sdu.length) hstart.drop
      hopt
    rw [hread, if_pos (by rw [hfirst]; rfl), Option.bind_some, hext _ _ rfl] at hdiss
    refine ⟨_, hdiss, ?_, hstart.reads_optional.extractMsg _⟩
    rw [received, Header.mk.injEq, if_pos hopt, if_pos hopt]
    exact ⟨rfl, rfl, rfl, rfl, hseqField, rfl, rfl, hexts.symm⟩
  · rw [if_neg hopt] at hstart
    have hdiss := hstart.dissect_eq
    have hread : dissectOptional (fixedReceived header sdu.length) ⟨pdu, 8, 0⟩ =
        some (fixedReceived header sdu.length, ⟨pdu, 8, 0⟩) := if_neg hopt
    rw [hread, Option.bind_some, hext _ _ rfl] at hdiss
    refine ⟨_, hdiss, ?_, hstart.drop⟩
    rw [received, Header.mk.injEq, if_neg hopt, if_neg hopt]
    exact ⟨rfl, rfl, rfl, rfl, rfl, rfl, hfirst.symm, hexts.symm⟩

section

variable (hexts : header.extList = ext :: exts)

include hexts

lemma start_of_cons_exts (h : writeHeader header sdu = some pdu) :
    ∃ s1 s0, UInt16.ofNat (ofBytes [s1, s0]) = header.seqNumber ∧
      Start pdu (fixedReceived header sdu.length)
        (s1 :: s0 :: header.nPdu :: ext.extensionHeaderType ::
          (encodeExts header.extList ++ sdu)) := by
  have hopt : header.optional := by
    rw [Header.optional, hexts]
    rfl
  have hfirst : firstType header.extList = ext.extensionHeaderType := by
    rw [hexts]
    rfl
  obtain ⟨s1, s0, hseq, hseqField⟩ := exists_toBytes_two header.seqNumber
  have hstart := start_of_written h
  rw [encodeOptional, if_pos hopt, hseq, hfirst] at hstart
  exact ⟨s1, s0, hseqField, hstart⟩

lemma receivedFlags_extHdr : (receivedFlags header).extHdr := by
  rw [receivedFlags, hexts]
  rfl

lemma roundTrip_of_cons (htypes : SupportedTypes header.extList)
    (hfits : FittingContainers header.extList) (h : writeHeader header sdu = some pdu) :
    ∃ dissected, dissectPdu pdu = some dissected ∧
      dissected.hdr = received header sdu.length ∧ extractMsg dissected = sdu := by
  obtain ⟨hwable, -⟩ := writeHeader_eq_some_iff.mp h
  obtain ⟨s1, s0, hseq, hstart⟩ := start_of_cons_exts hexts h
  have hmem : ext ∈ header.extList := by rw [hexts]; exact mem_cons_self
  have hopt : header.optional := by
    rw [Header.optional, hexts]
    rfl
  obtain ⟨sound, hread⟩ : ∃ sound, Reading maxNumHeaderExtensions ext.extensionHeaderType
      (encodeExts header.extList ++ sdu) header.extList sdu sound := by
    have hroom := header.extList_le
    have halign := hwable.aligned
    rw [hexts] at htypes hfits hroom halign ⊢
    exact exists_reading_written sdu hroom htypes halign hfits
  obtain ⟨hdrLen, hdiss, hdrop⟩ := dissectPdu_of_reading hstart (receivedFlags_extHdr hexts)
    (htypes ext hmem).2 hread
  refine ⟨_, hdiss, ?_, hdrop⟩
  rw [received, Header.mk.injEq, if_pos hopt, if_pos hopt]
  exact ⟨rfl, rfl, rfl, rfl, hseq, rfl, by rw [hexts]; rfl, rfl⟩

end

lemma fits_of_roundTrips (h : RoundTrips header sdu) (hwable : Writable header)
    (htypes : SupportedTypes header.extList) : FittingContainers header.extList := by
  cases hexts : header.extList with
  | nil => exact nofun
  | cons ext exts =>
    rw [← hexts]
    have hwrit := (@writeHeader_eq_some_iff header sdu _).mpr ⟨hwable, rfl⟩
    obtain ⟨dissected, hdiss, hhdr, -⟩ := h _ htypes hwrit
    obtain ⟨s1, s0, -, hstart⟩ := start_of_cons_exts hexts hwrit
    have hbit := hstart.extHdr.symm.trans (receivedFlags_extHdr hexts)
    obtain ⟨hnone, -⟩ | ⟨optional, type, rest, hopt, htail, -, -, hchain⟩ :=
      hstart.cases hdiss
    · rw [hbit] at hnone
      cases hnone
    obtain ⟨-, sound, hread⟩ := hchain hbit
    obtain ⟨-, hrest⟩ := @append_inj _ [s1, s0, header.nPdu] _ _ _ htail hopt.symm
    obtain ⟨rfl, rfl⟩ := cons.inj hrest
    rw [hhdr] at hread
    exact fits_of_reading hwable.aligned hread

lemma roundTrips_iff (header : Header) (sdu : Bytes) : RoundTrips header sdu ↔
      (Writable header → SupportedTypes header.extList → FittingContainers header.extList) := by
  constructor
  · exact fits_of_roundTrips
  · intro hfits pdu htypes h
    have hcontainers := hfits (writeHeader_eq_some_iff.mp h).1 htypes
    cases hexts : header.extList with
    | nil => exact roundTrip_of_nil hexts h
    | cons ext exts => exact roundTrip_of_cons hexts htypes hcontainers h

end

/-- No PDU with a broken chain is accepted exactly if none is taken to its end, and PDUs are read
back exactly if their containers fit. -/
theorem dissection_iff (pdu : Bytes) (header : Header) (sdu : Bytes) :
    (AcceptsWellFormed pdu ↔ ¬ Misleading pdu) ∧ (RoundTrips header sdu ↔
        (Writable header → SupportedTypes header.extList → FittingContainers header.extList)) :=
  ⟨acceptsWellFormed_iff pdu, roundTrips_iff header sdu⟩

def zeroLengthPdu : Bytes :=
  [0x34, 0xff, 0x00, 0x08, 0x00, 0x00, 0x00, 0x01, 0x00, 0x00, 0x00, 0x85, 0x00, 0x00, 0xaa, 0xbb]

theorem zeroLengthPdu_accepted : (dissectPdu zeroLengthPdu).map extractMsg = some [0xaa, 0xbb] ∧
      ¬ AcceptsWellFormed zeroLengthPdu := by
  refine ⟨by decide, ?_⟩
  rw [acceptsWellFormed_iff, not_not]
  refine ⟨by decide, by decide, by decide, by decide, by decide, by decide,
    [⟨pduSessionContainer, []⟩], [0xaa, 0xbb], ?_⟩
  exact .last (by decide) (.overrun (by decide))

end ProtoRu.Gtpu
