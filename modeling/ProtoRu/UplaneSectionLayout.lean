import ProtoRu.UplaneRoundTrip

namespace ProtoRu.Uplane

open List

variable (config : UplaneDecoderConfig)

def headerSlotId (message : Bytes) : Nat :=
  (byteAt message 2 &&& 0x0f) <<< 2 ||| byteAt message 3 >>> 6

/-- What the radio application header has to say for the message to be looked at. -/
@[mk_iff]
structure HeaderWellFormed (message : Bytes) : Prop where
  complete : nofBytesUpHeader ≤ message.length
  subframe : byteAt message 2 >>> 4 < nofSubframesPerFrame
  slot : headerSlotId message < getNofSlotsPerSubframe config.scs
  direction : toDataDirection (byteAt message 0 >>> 7) = config.expectedDirection
  version : byteAt message 0 >>> 4 &&& 7 = ofhPayloadVersion
  filterIndex : toFilterIndexType (byteAt message 0 &&& 0xf) ≠ .reserved
  symbol : byteAt message 3 &&& 0x3f < config.nofSymbols

instance (message : Bytes) : Decidable (HeaderWellFormed config message) :=
  decidable_of_iff _ (headerWellFormed_iff config message).symm

def headerAt (message : Bytes) : UplaneHeader where
  direction := toDataDirection (byteAt message 0 >>> 7)
  slot := SlotPoint.ofSubframe (toNumerologyValue config.scs) (byteAt message 1)
    (byteAt message 2 >>> 4) (headerSlotId message)
  filterIndex := toFilterIndexType (byteAt message 0 &&& 0xf)
  symbolId := byteAt message 3 &&& 0x3f

lemma require_bind {α : Type} (condition : Prop) [Decidable condition]
    (p : Deserializer α) (remaining : Bytes) :
    (require condition >>= fun _ => p) remaining = if condition then p remaining else none := by
  rw [bind_apply, require_apply]
  split <;> rfl

variable {message bytes : Bytes} {decoded : UplaneSectionParams}

lemma decodeHeader_eq (message : Bytes) : decodeHeader config message =
      if HeaderWellFormed config message then
        some (headerAt config message, message.drop nofBytesUpHeader)
      else none := by
  rw [if_congr (headerWellFormed_iff config message) rfl rfl, decodeHeader, bind_apply,
    requireRemaining_apply]
  simp only [ite_and]
  obtain hshort | hlen := Nat.lt_or_ge message.length nofBytesUpHeader
  · rw [if_pos hshort, if_neg (not_le.mpr hshort)]
    rfl
  rw [if_neg (not_lt.mpr hlen), if_pos hlen, Option.bind_some]
  obtain ⟨_, _, _, _, _, rfl⟩ := exists_four_bytes hlen
  rw [readOneByte_bind, readOneByte_bind, readOneByte_bind, readOneByte_bind]
  simp only [require_bind]
  rfl

def sectionNofPrbs (bytes : Bytes) : Nat :=
  if byteAt bytes 3 = 0 then config.ruNofPrbs else byteAt bytes 3

def sectionStartPrb (bytes : Bytes) : Nat :=
  if byteAt bytes 3 = 0 then 0 else (byteAt bytes 1 &&& 0x03) <<< 8 ||| byteAt bytes 2

def comprHeaderSize : ComprHeaderConfig → Nat
  | .staticHeader _ => 0
  | .dynamicHeader => 2

/-- The compression of a section: configured, or named by the byte after the section
header. -/
def sectionCompression (bytes : Bytes) : RuCompressionParams :=
  match config.comprHeader with
  | .staticHeader params => params
  | .dynamicHeader => ⟨toCompressionType (byteAt bytes 4 &&& 0x0f),
      if byteAt bytes 4 >>> 4 = 0 then maxIqWidth else byteAt bytes 4 >>> 4⟩

def comprLengthSize : CompressionType → Nat
  | .none | .bfp | .blockScaling | .muLaw | .modulation => 0
  | _ => 2

def comprLengthOffset : Nat := sectionIdHeaderNoCompressionSize + comprHeaderSize config.comprHeader

def iqDataOffset (bytes : Bytes) : Nat :=
  comprLengthOffset config + comprLengthSize (sectionCompression config bytes).type

def iqDataSize (bytes : Bytes) : Nat :=
  sectionNofPrbs config bytes * getCompressedPrbSize (sectionCompression config bytes)

def sectionSize (bytes : Bytes) : Nat := iqDataOffset config bytes + iqDataSize config bytes

/-- A compression header is there and names a reserved type. -/
def NamesReserved (bytes : Bytes) : Prop :=
  config.comprHeader = .dynamicHeader ∧ comprLengthOffset config ≤ bytes.length ∧
    (sectionCompression config bytes).type = .reserved
  deriving Decidable

/-- The bytes start with all the bytes of a section. -/
def SectionComplete (bytes : Bytes) : Prop :=
  ¬NamesReserved config bytes ∧ sectionSize config bytes ≤ bytes.length
  deriving Decidable

def udCompLenAt (bytes : Bytes) : Option Nat :=
  if comprLengthSize (sectionCompression config bytes).type = 0 then none
  else some (byteAt bytes (comprLengthOffset config) <<< 8 |||
    byteAt bytes (comprLengthOffset config + 1))

def sectionAt (bytes : Bytes) : UplaneSectionParams where
  sectionId := byteAt bytes 0 <<< 4 ||| byteAt bytes 1 >>> 4
  isEveryRbUsed := decide (byteAt bytes 1 >>> 3 &&& 1 = 0)
  useCurrentSymbolNumber := decide (byteAt bytes 1 >>> 2 &&& 1 = 0)
  startPrb := sectionStartPrb bytes
  nofPrbs := sectionNofPrbs config bytes
  udCompHdr := sectionCompression config bytes
  udCompLen := udCompLenAt config bytes
  compressedData := (bytes.drop (iqDataOffset config bytes)).take (iqDataSize config bytes)

def bytesAfterSection (bytes : Bytes) : Bytes := bytes.drop (sectionSize config bytes)

/-- The complete sections that the bytes start with, up to the given number. -/
def completeSections : Nat → Bytes → List UplaneSectionParams
  | 0, _ => []
  | count + 1, bytes =>
    if SectionComplete config bytes then
      sectionAt config bytes :: completeSections count (bytesAfterSection config bytes)
    else []

/-- The section is one of the complete ones of a well-formed message. -/
def HasSection (message : Bytes) (decoded : UplaneSectionParams) : Prop :=
  HeaderWellFormed config message ∧ decoded ∈ completeSections config resultsMaxNofSupportedSections
      (message.drop nofBytesUpHeader)

lemma decodeSectionHeader_of_le (hlen : sectionIdHeaderNoCompressionSize ≤ bytes.length) :
    decodeSectionHeader config bytes = .ok ((byteAt bytes 0 <<< 4 ||| byteAt bytes 1 >>> 4,
        decide (byteAt bytes 1 >>> 3 &&& 1 = 0), decide (byteAt bytes 1 >>> 2 &&& 1 = 0),
        sectionStartPrb bytes, sectionNofPrbs config bytes),
        bytes.drop sectionIdHeaderNoCompressionSize) := by
  simp only [decodeSectionHeader]
  obtain ⟨_, _, _, _, _, rfl⟩ := exists_four_bytes hlen
  rfl

lemma decodeSectionHeader_of_lt (hlen : bytes.length < sectionIdHeaderNoCompressionSize) :
    decodeSectionHeader config bytes = .error .incomplete := by
  simp only [decodeSectionHeader]
  rw [bind_of_eq_error (requireBytes_of_lt hlen)]

lemma comprLengthOffset_of_dynamic (hcfg : config.comprHeader = .dynamicHeader) :
    comprLengthOffset config = 6 := by
  rw [comprLengthOffset, hcfg]
  rfl

lemma decodeCompressionHeader_of_dynamic (hcfg : config.comprHeader = .dynamicHeader)
    (hlen : comprLengthOffset config ≤ bytes.length) :
    decodeCompressionHeader config (bytes.drop sectionIdHeaderNoCompressionSize) =
      if (sectionCompression config bytes).type = .reserved then .error .malformed
      else .ok (sectionCompression config bytes, bytes.drop (comprLengthOffset config)) := by
  rw [comprLengthOffset_of_dynamic config hcfg] at hlen ⊢
  simp only [decodeCompressionHeader, sectionCompression, hcfg]
  obtain ⟨_, _, _, _, remaining, rfl⟩ := exists_four_bytes (Nat.le_trans (by decide) hlen)
  obtain ⟨value, _, rest, rfl⟩ : ∃ value reserved rest, remaining = value :: reserved :: rest := by
    apply exists_two_bytes
    simp only [length_cons] at hlen
    omega
  simp only [sectionIdHeaderNoCompressionSize, drop_succ_cons, drop_zero]
  rw [bind_of_eq_ok (requireBytes_of_le (by simp)), bind_of_eq_ok (read_readOneByte_cons value _)]
  split
  · rename_i hresd
    exact (if_pos hresd).symm
  · rename_i hresd
    exact (if_neg hresd).symm

lemma decodeCompressionHeader_of_le (hlen : comprLengthOffset config ≤ bytes.length) :
    decodeCompressionHeader config (bytes.drop sectionIdHeaderNoCompressionSize) =
      if NamesReserved config bytes then .error .malformed
      else .ok (sectionCompression config bytes, bytes.drop (comprLengthOffset config)) := by
  cases hcfg : config.comprHeader with
  | staticHeader params =>
    have hnames : ¬NamesReserved config bytes := by
      rintro ⟨hdynamic, -, -⟩
      rw [hcfg] at hdynamic
      contradiction
    simp only [if_neg hnames, decodeCompressionHeader, sectionCompression, comprLengthOffset, hcfg]
    rfl
  | dynamicHeader =>
    rw [decodeCompressionHeader_of_dynamic config hcfg hlen]
    simp only [NamesReserved, hcfg, hlen, true_and]

lemma decodeCompressionHeader_of_lt (hhdr : sectionIdHeaderNoCompressionSize ≤ bytes.length)
    (hlen : bytes.length < comprLengthOffset config) :
    decodeCompressionHeader config (bytes.drop sectionIdHeaderNoCompressionSize) =
      .error .incomplete := by
  cases hcfg : config.comprHeader with
  | staticHeader params =>
    rw [comprLengthOffset, hcfg] at hlen
    exact absurd hlen (not_lt.mpr hhdr)
  | dynamicHeader =>
    rw [comprLengthOffset_of_dynamic config hcfg] at hlen
    have hshort : (bytes.drop sectionIdHeaderNoCompressionSize).length < 2 := by
      rw [length_drop]
      simp only [sectionIdHeaderNoCompressionSize]
      omega
    simp only [decodeCompressionHeader, hcfg]
    rw [bind_of_eq_error (requireBytes_of_lt hshort)]

lemma decodeCompressionLength_of_size_eq_zero {type : CompressionType}
    (htype : comprLengthSize type = 0) (remaining : Bytes) :
    decodeCompressionLength type remaining = .ok (none, remaining) := by
  cases type <;> first | rfl | simp [comprLengthSize] at htype

lemma decodeCompressionLength_of_size_ne_zero (type : CompressionType)
    (htype : comprLengthSize type ≠ 0) :
    comprLengthSize type = 2 ∧ decodeCompressionLength type = do
      requireBytes 2
      let length ← read readTwoBytes
      return some length := by
  cases type <;> first | exact ⟨rfl, rfl⟩ | simp [comprLengthSize] at htype

lemma decodeCompressionLength_of_le (hlen : iqDataOffset config bytes ≤ bytes.length) :
    decodeCompressionLength (sectionCompression config bytes).type
        (bytes.drop (comprLengthOffset config)) =
      .ok (udCompLenAt config bytes, bytes.drop (iqDataOffset config bytes)) := by
  simp only [iqDataOffset, udCompLenAt] at hlen ⊢
  by_cases hsize : comprLengthSize (sectionCompression config bytes).type = 0
  · rw [decodeCompressionLength_of_size_eq_zero hsize, if_pos hsize, hsize, Nat.add_zero]
  obtain ⟨htwo, hdecode⟩ := decodeCompressionLength_of_size_ne_zero _ hsize
  have hrem : 2 ≤ (bytes.drop (comprLengthOffset config)).length := by
    rw [length_drop]
    omega
  have hread : read readTwoBytes (bytes.drop (comprLengthOffset config)) =
      .ok (byteAt bytes (comprLengthOffset config) <<< 8 |||
        byteAt bytes (comprLengthOffset config + 1),
        bytes.drop (comprLengthOffset config + 2)) := by
    simp only [read]
    rw [readTwoBytes_apply (by omega), byteAt_drop, byteAt_drop, drop_drop]
    rfl
  rw [hdecode, bind_of_eq_ok (requireBytes_of_le hrem), bind_of_eq_ok hread, htwo]
  rfl

lemma decodeCompressionLength_of_lt (hhdr : comprLengthOffset config ≤ bytes.length)
    (hlen : bytes.length < iqDataOffset config bytes) :
    decodeCompressionLength (sectionCompression config bytes).type
        (bytes.drop (comprLengthOffset config)) = .error .incomplete := by
  simp only [iqDataOffset] at hlen
  obtain ⟨htwo, hdecode⟩ := decodeCompressionLength_of_size_ne_zero
    (sectionCompression config bytes).type (by omega)
  have hshort : (bytes.drop (comprLengthOffset config)).length < 2 := by
    rw [length_drop]
    omega
  rw [hdecode, bind_of_eq_error (requireBytes_of_lt hshort)]

lemma sectionIdHeader_le_comprLengthOffset :
    sectionIdHeaderNoCompressionSize ≤ comprLengthOffset config := Nat.le_add_right _ _

lemma comprLengthOffset_le_iqDataOffset (bytes : Bytes) :
    comprLengthOffset config ≤ iqDataOffset config bytes := Nat.le_add_right _ _

lemma iqDataOffset_le_sectionSize (bytes : Bytes) :
    iqDataOffset config bytes ≤ sectionSize config bytes := Nat.le_add_right _ _

lemma not_namesReserved_nil : ¬NamesReserved config [] := by
  rintro ⟨-, hlen, -⟩
  have hhdr := sectionIdHeader_le_comprLengthOffset config
  simp only [sectionIdHeaderNoCompressionSize, length_nil] at hhdr hlen
  omega

lemma not_sectionComplete_nil : ¬SectionComplete config [] := by
  rintro ⟨-, hlen⟩
  have hhdr := sectionIdHeader_le_comprLengthOffset config
  have hoff := comprLengthOffset_le_iqDataOffset config []
  have hsize := iqDataOffset_le_sectionSize config []
  simp only [sectionIdHeaderNoCompressionSize, length_nil] at hhdr hlen
  omega

lemma decodeSection_of_namesReserved (hnames : NamesReserved config bytes) :
    decodeSection config bytes = .error .malformed := by
  have hlen := hnames.2.1
  have hcompr := decodeCompressionHeader_of_le config hlen
  rw [if_pos hnames] at hcompr
  simp only [decodeSection]
  rw [bind_of_eq_ok (decodeSectionHeader_of_le config
    ((sectionIdHeader_le_comprLengthOffset config).trans hlen))]
  rw [bind_of_eq_error hcompr]

lemma decodeSection_of_iqDataOffset_le (hnames : ¬NamesReserved config bytes)
    (hlen : iqDataOffset config bytes ≤ bytes.length) : decodeSection config bytes =
      if sectionSize config bytes ≤ bytes.length then
        .ok (sectionAt config bytes, bytesAfterSection config bytes)
      else .error .incomplete := by
  have hhdr := (comprLengthOffset_le_iqDataOffset config bytes).trans hlen
  have hcompr := decodeCompressionHeader_of_le config hhdr
  rw [if_neg hnames] at hcompr
  have hrequired : prbIqDataSize (sectionCompression config bytes) *
      sectionNofPrbs config bytes = iqDataSize config bytes := by
    rw [prbIqDataSize_eq, Nat.mul_comm]
    rfl
  simp only [decodeSection]
  rw [bind_of_eq_ok (decodeSectionHeader_of_le config
    ((sectionIdHeader_le_comprLengthOffset config).trans hhdr))]
  rw [bind_of_eq_ok hcompr, bind_of_eq_ok (decodeCompressionLength_of_le config hlen), hrequired]
  have hrem : (bytes.drop (iqDataOffset config bytes)).length =
      bytes.length - iqDataOffset config bytes := length_drop
  rw [bytesAfterSection, sectionSize]
  split_ifs with hcompl
  · rw [bind_of_eq_ok (requireBytes_of_le (by omega)), ← drop_drop]
    rfl
  · rw [bind_of_eq_error (requireBytes_of_lt (by omega))]

lemma decodeSection_of_complete (hcompl : SectionComplete config bytes) :
    decodeSection config bytes = .ok (sectionAt config bytes, bytesAfterSection config bytes) := by
  rw [decodeSection_of_iqDataOffset_le config hcompl.1
    ((iqDataOffset_le_sectionSize config bytes).trans hcompl.2), if_pos hcompl.2]

lemma decodeSection_of_incomplete (hnames : ¬NamesReserved config bytes)
    (hincompl : bytes.length < sectionSize config bytes) :
    decodeSection config bytes = .error .incomplete := by
  obtain hshort | hlen := Nat.lt_or_ge bytes.length (iqDataOffset config bytes)
  · simp only [decodeSection]
    obtain hshorter | hhdr := Nat.lt_or_ge bytes.length sectionIdHeaderNoCompressionSize
    · rw [bind_of_eq_error (decodeSectionHeader_of_lt config hshorter)]
    rw [bind_of_eq_ok (decodeSectionHeader_of_le config hhdr)]
    obtain hnoCompr | hcompr := Nat.lt_or_ge bytes.length (comprLengthOffset config)
    · rw [bind_of_eq_error (decodeCompressionHeader_of_lt config hhdr hnoCompr)]
    have hcompression := decodeCompressionHeader_of_le config hcompr
    rw [if_neg hnames] at hcompression
    rw [bind_of_eq_ok hcompression,
      bind_of_eq_error (decodeCompressionLength_of_lt config hcompr hshort)]
  · rw [decodeSection_of_iqDataOffset_le config hnames hlen, if_neg (not_le.mpr hincompl)]

variable {config}

lemma exists_of_mem_completeSections {count : Nat}
    (hdec : decoded ∈ completeSections config count bytes) :
    ∃ start, SectionComplete config start ∧ decoded = sectionAt config start := by
  induction count generalizing bytes with
  | zero => simp [completeSections] at hdec
  | succ count ih =>
    rw [completeSections] at hdec
    split_ifs at hdec with hcompl
    · obtain rfl | hrest := mem_cons.mp hdec
      · exact ⟨bytes, hcompl, rfl⟩
      · exact ih hrest
    · simp at hdec

/-- The results have room for the sections of two rounds. -/
lemma mem_completeSections_iff :
    decoded ∈ completeSections config resultsMaxNofSupportedSections bytes ↔
      SectionComplete config bytes ∧ (decoded = sectionAt config bytes ∨
        SectionComplete config (bytesAfterSection config bytes) ∧
          decoded = sectionAt config (bytesAfterSection config bytes)) := by
  simp only [resultsMaxNofSupportedSections, completeSections]
  split_ifs with hfirst hsecond <;> simp [*]

lemma HasSection.exists_sectionAt (hsect : HasSection config message decoded) :
    ∃ start, SectionComplete config start ∧ decoded = sectionAt config start :=
  exists_of_mem_completeSections hsect.2

lemma SectionComplete.length_compressedData (hcompl : SectionComplete config bytes) :
    (sectionAt config bytes).compressedData.length = iqDataSize config bytes := by
  have hsize := hcompl.2
  rw [sectionSize] at hsize
  simp only [sectionAt, length_take, length_drop]
  omega

end ProtoRu.Uplane
