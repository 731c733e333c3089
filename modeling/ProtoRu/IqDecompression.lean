import ProtoRu.UplaneMessageBuilding

namespace ProtoRu

open Option

/-- A decompressor fills the samples it is given, or stops the application. -/
structure IqDecompressor (Sample : Type) where
  decompress : List Sample → Bytes → RuCompressionParams → Option (List Sample)
  length_decompress : ∀ {iqData compressedData params iqSamples},
    decompress iqData compressedData params = some iqSamples → iqSamples.length = iqData.length

def maskLsbOnes (count : Nat) : Nat := 1 <<< count - 1

def extract (buffer : Bytes) (startpos count : Nat) : Option Nat :=
  if 8 < count then none
  else if 8 * buffer.length < startpos + count then none
  else if startpos % 8 = 0 then some (byteAt buffer (startpos / 8) >>> (8 - count))
  else if startpos % 8 + count ≤ 8 then
    some (byteAt buffer (startpos / 8) >>> (8 - startpos % 8 - count) &&& maskLsbOnes count)
  else
    some ((byteAt buffer (startpos / 8) <<< 8 ||| byteAt buffer (startpos / 8 + 1)) >>>
      (16 - startpos % 8 - count) &&& maskLsbOnes count)

/-- The rounds of `unpackBits`; the value is the bit pattern of a 16-bit integer. -/
def unpackBitsLoop (buffer : Bytes) : Nat → Nat → Nat → Nat → Option Nat
  | 0, value, _, _ => some value
  | rounds + 1, value, offset, bitsLeftToRead =>
    if bitsLeftToRead = 0 then some value
    else if 8 < bitsLeftToRead then do
      let msb ← extract buffer offset 8
      unpackBitsLoop buffer rounds (msb <<< (bitsLeftToRead - 8) % 65536) (offset + 8)
        (bitsLeftToRead - 8)
    else do
      let lsb ← extract buffer offset bitsLeftToRead
      return value ||| lsb

def unpackBits (buffer : Bytes) (offset length : Nat) : Option Nat :=
  unpackBitsLoop buffer length 0 offset length

def qBitWidth : Nat := maxIqWidth

def signExtend (bitWidth value : Nat) : Int :=
  ((BitVec.ofNat 16 value <<< (16 - bitWidth)).sshiftRight (16 - bitWidth)).toInt

def quantizerGain (bitWidth : Nat) : Nat := 1 <<< (bitWidth - 1) - 1

def unpackSamples (buffer : Bytes) (dataWidth : Nat) : Nat → Nat → Option (List (Int × Int))
  | 0, _ => some []
  | count + 1, readPos => do
      let re ← unpackBits buffer readPos dataWidth
      let im ← unpackBits buffer (readPos + dataWidth) dataWidth
      let rest ← unpackSamples buffer dataWidth count (readPos + dataWidth * 2)
      return (signExtend dataWidth re, signExtend dataWidth im) :: rest

variable {buffer : Bytes} {dataWidth count readPos : Nat} {values : List (Int × Int)}

lemma length_unpackSamples (hvalues : unpackSamples buffer dataWidth count readPos = some values)
    : values.length = count := by
  induction count generalizing readPos values with
  | zero =>
    simp only [unpackSamples, some.injEq] at hvalues
    simp [← hvalues]
  | succ count ih =>
    simp only [unpackSamples, bind_eq_bind, pure_def, bind_eq_some_iff, some.injEq] at hvalues
    obtain ⟨re, -, im, -, rest, hrest, rfl⟩ := hvalues
    rw [List.length_cons, ih hrest]

lemma exists_extract {startpos : Nat} (hcount : count ≤ 8)
    (hbits : startpos + count ≤ 8 * buffer.length) :
    ∃ value, extract buffer startpos count = some value := by
  rw [extract, if_neg (not_lt.mpr hcount), if_neg (not_lt.mpr hbits)]
  split
  · exact ⟨_, rfl⟩
  · split <;> exact ⟨_, rfl⟩

lemma exists_unpackBitsLoop (rounds value : Nat) {offset bitsLeftToRead : Nat}
    (hbits : offset + bitsLeftToRead ≤ 8 * buffer.length) :
    ∃ unpacked, unpackBitsLoop buffer rounds value offset bitsLeftToRead = some unpacked := by
  induction rounds generalizing value offset bitsLeftToRead with
  | zero => exact ⟨value, rfl⟩
  | succ rounds ih =>
    simp only [unpackBitsLoop]
    split
    · exact ⟨value, rfl⟩
    split_ifs with hshort
    · have hfirst : offset + 8 ≤ 8 * buffer.length := by omega
      obtain ⟨msb, hmsb⟩ := exists_extract (le_refl 8) hfirst
      simp only [hmsb, bind_eq_bind, bind_some]
      apply ih
      omega
    · obtain ⟨lsb, hlsb⟩ := exists_extract (not_lt.mp hshort) hbits
      exact ⟨value ||| lsb, by simp [hlsb]⟩

lemma exists_unpackSamples (hbits : readPos + dataWidth * 2 * count ≤ 8 * buffer.length) :
    ∃ values, unpackSamples buffer dataWidth count readPos = some values := by
  induction count generalizing readPos with
  | zero => exact ⟨[], rfl⟩
  | succ count ih =>
    rw [Nat.mul_add] at hbits
    have hre : readPos + dataWidth ≤ 8 * buffer.length := by omega
    have him : readPos + dataWidth + dataWidth ≤ 8 * buffer.length := by omega
    obtain ⟨re, hre⟩ := exists_unpackBitsLoop dataWidth 0 hre
    obtain ⟨im, him⟩ := exists_unpackBitsLoop dataWidth 0 him
    have hrest : readPos + dataWidth * 2 + dataWidth * 2 * count ≤ 8 * buffer.length := by
      omega
    obtain ⟨rest, hrest⟩ := ih hrest
    exact ⟨_, by simp only [unpackSamples, unpackBits, hre, him, hrest]; rfl⟩

lemma le_of_extract_eq_some {startpos value : Nat}
    (hvalue : extract buffer startpos count = some value) :
    startpos + count ≤ 8 * buffer.length := by
  by_contra hbits
  rw [extract, if_pos (not_le.mp hbits), ite_self] at hvalue
  contradiction

lemma le_of_unpackBitsLoop_eq_some {rounds value offset bitsLeftToRead unpacked : Nat}
    (hpos : 0 < bitsLeftToRead) (hrounds : bitsLeftToRead ≤ rounds)
    (hunpacked : unpackBitsLoop buffer rounds value offset bitsLeftToRead = some unpacked) :
    offset + bitsLeftToRead ≤ 8 * buffer.length := by
  induction rounds generalizing value offset bitsLeftToRead with
  | zero => omega
  | succ rounds ih =>
    rw [unpackBitsLoop, if_neg hpos.ne'] at hunpacked
    split at hunpacked
    · obtain ⟨msb, -, hrest⟩ := bind_eq_some_iff.mp hunpacked
      have hbits := ih (by omega) (by omega) hrest
      omega
    · obtain ⟨lsb, hlsb, -⟩ := bind_eq_some_iff.mp hunpacked
      exact le_of_extract_eq_some hlsb

lemma le_of_unpackSamples_eq_some (hwidth : 0 < dataWidth)
    (hvalues : unpackSamples buffer dataWidth (count + 1) readPos = some values) :
    readPos + dataWidth * 2 * (count + 1) ≤ 8 * buffer.length := by
  induction count generalizing readPos values with
  | zero =>
    obtain ⟨re, -, him⟩ := bind_eq_some_iff.mp hvalues
    obtain ⟨im, him, -⟩ := bind_eq_some_iff.mp him
    have hbits := le_of_unpackBitsLoop_eq_some hwidth (le_refl dataWidth) him
    omega
  | succ count ih =>
    obtain ⟨re, -, him⟩ := bind_eq_some_iff.mp hvalues
    obtain ⟨im, -, hrest⟩ := bind_eq_some_iff.mp him
    obtain ⟨rest, hrest, -⟩ := bind_eq_some_iff.mp hrest
    have hbits := ih hrest
    rw [Nat.mul_add (dataWidth * 2) (count + 1)]
    omega

section

variable {Sample : Type} (decompressPrb : Bytes → Option (List Sample)) (prbSize : Nat)

def decompressPrbs : Nat → Bytes → Option (List Sample)
  | 0, _ => some []
  | nofPrbs + 1, compressedData => do
      let output ← decompressPrb (compressedData.take prbSize)
      let rest ← decompressPrbs nofPrbs (compressedData.drop prbSize)
      return output ++ rest

variable {compressedData : Bytes} {nofPrbs : Nat}

lemma length_decompressPrbs
    (hprb : ∀ {prb output}, decompressPrb prb = some output → output.length = nofSubcarriersPerRb)
    {output : List Sample}
    (houtput : decompressPrbs decompressPrb prbSize nofPrbs compressedData = some output) :
    output.length = nofPrbs * nofSubcarriersPerRb := by
  induction nofPrbs generalizing compressedData output with
  | zero =>
    simp only [decompressPrbs, some.injEq] at houtput
    simp [← houtput]
  | succ nofPrbs ih =>
    simp only [decompressPrbs, bind_eq_bind, pure_def, bind_eq_some_iff, some.injEq] at houtput
    obtain ⟨first, hfirst, rest, hrest, rfl⟩ := houtput
    rw [List.length_append, hprb hfirst, ih hrest]
    ring

lemma exists_decompressPrbs
    (hprb : ∀ {prb : Bytes}, prb.length = prbSize → ∃ output, decompressPrb prb = some output)
    (hlen : nofPrbs * prbSize ≤ compressedData.length) :
    ∃ output, decompressPrbs decompressPrb prbSize nofPrbs compressedData = some output := by
  induction nofPrbs generalizing compressedData with
  | zero => exact ⟨[], rfl⟩
  | succ nofPrbs ih =>
    rw [Nat.add_mul] at hlen
    have htake : (compressedData.take prbSize).length = prbSize := by
      rw [List.length_take]
      omega
    have hdrop : nofPrbs * prbSize ≤ (compressedData.drop prbSize).length := by
      rw [List.length_drop]
      omega
    obtain ⟨output, houtput⟩ := hprb htake
    obtain ⟨rest, hrest⟩ := ih hdrop
    exact ⟨output ++ rest, by simp only [decompressPrbs, houtput, hrest]; rfl⟩

def prbDecompressor (decompressPrb : Nat → Bytes → Option (List Sample))
    (hprb : ∀ {dataWidth prb output}, decompressPrb dataWidth prb = some output →
      output.length = nofSubcarriersPerRb) : IqDecompressor Sample where
  decompress iqData compressedData params :=
    let nofPrbs := iqData.length / nofSubcarriersPerRb
    if compressedData.length < nofPrbs * getCompressedPrbSize params then none
    else (decompressPrbs (decompressPrb params.dataWidth) (getCompressedPrbSize params) nofPrbs
      compressedData).map (· ++ iqData.drop (nofPrbs * nofSubcarriersPerRb))
  length_decompress := by
    intro iqData compressedData params iqSamples hsamples
    dsimp only at hsamples
    split at hsamples
    · contradiction
    obtain ⟨output, houtput, rfl⟩ := map_eq_some_iff.mp hsamples
    have hlength := length_decompressPrbs _ _ hprb houtput
    have hle := Nat.div_mul_le_self iqData.length nofSubcarriersPerRb
    rw [List.length_append, hlength, List.length_drop]
    omega

lemma exists_prbDecompressor_decompress {decompressPrb : Nat → Bytes → Option (List Sample)}
    {hprb : ∀ {dataWidth prb output}, decompressPrb dataWidth prb = some output → output.length =
      nofSubcarriersPerRb} {params : RuCompressionParams}
    (hret : ∀ {prb : Bytes}, prb.length = getCompressedPrbSize params → ∃ output,
      decompressPrb params.dataWidth prb = some output) {iqData : List Sample}
    (hlen : iqData.length / nofSubcarriersPerRb * getCompressedPrbSize params ≤
      compressedData.length) :
    ∃ iqSamples, (prbDecompressor decompressPrb hprb).decompress iqData compressedData params =
      some iqSamples := by
  obtain ⟨output, houtput⟩ := exists_decompressPrbs _ _ hret hlen
  simp only [prbDecompressor]
  rw [if_neg (not_lt.mpr hlen), houtput]
  exact ⟨_, rfl⟩

end

section

variable {Value : Type} (toFloat : Int → Nat → Value)

/-- The quotient of a fixed-point value and a gain is left abstract, with its rounding. -/
def toSample (gain : Nat) (value : Int × Int) : Value × Value :=
  (toFloat value.1 gain, toFloat value.2 gain)

def decompressPrbNone (dataWidth : Nat) (prb : Bytes) : Option (List (Value × Value)) := do
  let values ← unpackSamples prb dataWidth nofSubcarriersPerRb 0
  return values.map (toSample toFloat (quantizerGain dataWidth))

def bfpScaler (exponent : UInt8) : Int := (BitVec.ofNat 16 (1 <<< exponent.toNat)).toInt

def scale (scaler : Int) (value : Int × Int) : Int × Int := (value.1 * scaler, value.2 * scaler)

def decompressPrbGeneric (dataWidth : Nat) : Bytes → Option (List (Value × Value))
  | [] => none
  | exponent :: prb => do
      let values ← unpackSamples prb dataWidth nofSubcarriersPerRb 0
      return values.map fun value =>
        toSample toFloat (quantizerGain qBitWidth) (scale (bfpScaler exponent) value)

variable {toFloat}

variable {dataWidth : Nat}

section

variable {prb : Bytes} {output : List (Value × Value)}

lemma length_decompressPrbNone (houtput : decompressPrbNone toFloat dataWidth prb = some output) :
    output.length = nofSubcarriersPerRb := by
  simp only [decompressPrbNone, bind_eq_bind, pure_def, bind_eq_some_iff, some.injEq] at houtput
  obtain ⟨values, hvalues, rfl⟩ := houtput
  rw [List.length_map, length_unpackSamples hvalues]

lemma length_decompressPrbGeneric
    (houtput : decompressPrbGeneric toFloat dataWidth prb = some output) :
    output.length = nofSubcarriersPerRb := by
  cases prb with
  | nil => contradiction
  | cons exponent prb =>
    simp only [decompressPrbGeneric, bind_eq_bind, pure_def,
      bind_eq_some_iff, some.injEq] at houtput
    obtain ⟨values, hvalues, rfl⟩ := houtput
    rw [List.length_map, length_unpackSamples hvalues]

end

variable (toFloat)

def iqCompressionNone : IqDecompressor (Value × Value) :=
  prbDecompressor (decompressPrbNone toFloat) length_decompressPrbNone

def iqCompressionBfp : IqDecompressor (Value × Value) :=
  prbDecompressor (decompressPrbGeneric toFloat) length_decompressPrbGeneric

def iqCompressionDeath : IqDecompressor (Value × Value) where
  decompress _ _ _ := none
  length_decompress := by simp

/-- The application does not start with a reserved type. -/
def createIqDecompressor : CompressionType → Option (IqDecompressor (Value × Value))
  | .none => some (iqCompressionNone toFloat)
  | .bfp => some (iqCompressionBfp toFloat)
  | .blockScaling => some iqCompressionDeath
  | .muLaw => some iqCompressionDeath
  | .modulation => some iqCompressionDeath
  | .bfpSelective => some iqCompressionDeath
  | .modSelective => some iqCompressionDeath
  | .reserved => none

def iqDecompressorSelector : IqDecompressor (Value × Value) where
  decompress iqData compressedData params := do
    let decompressor ← createIqDecompressor toFloat params.type
    decompressor.decompress iqData compressedData params
  length_decompress := by
    intro iqData compressedData params iqSamples hsamples
    obtain ⟨decompressor, -, hdecompress⟩ := bind_eq_some_iff.mp hsamples
    exact decompressor.length_decompress hdecompress

variable {params : RuCompressionParams} {iqData : List (Value × Value)}
  {compressedData : Bytes}

lemma getCompressedPrbSize_of_none (htype : params.type = .none) :
    getCompressedPrbSize params = 3 * params.dataWidth := by
  simp only [getCompressedPrbSize, htype, roundUpToBytes, nofSubcarriersPerRb]
  change (12 * 2 * params.dataWidth + 0 + 7) / 8 = _
  omega

lemma getCompressedPrbSize_of_bfp (htype : params.type = .bfp) :
    getCompressedPrbSize params = 3 * params.dataWidth + 1 := by
  simp only [getCompressedPrbSize, htype, roundUpToBytes, nofSubcarriersPerRb]
  change (12 * 2 * params.dataWidth + 8 + 7) / 8 = _
  omega

lemma exists_unpackSamples_of_length {buffer : Bytes}
    (hlen : buffer.length = 3 * dataWidth) :
    ∃ values, unpackSamples buffer dataWidth nofSubcarriersPerRb 0 = some values := by
  apply exists_unpackSamples
  rw [hlen, nofSubcarriersPerRb]
  omega

lemma exists_iqCompressionNone_decompress (htype : params.type = .none)
    (hlen : iqData.length / nofSubcarriersPerRb * getCompressedPrbSize params ≤
      compressedData.length) :
    ∃ iqSamples, (iqCompressionNone toFloat).decompress iqData compressedData params =
      some iqSamples := by
  apply exists_prbDecompressor_decompress ?_ hlen
  intro prb hprb
  rw [getCompressedPrbSize_of_none htype] at hprb
  obtain ⟨values, hvalues⟩ := exists_unpackSamples_of_length hprb
  exact ⟨_, by simp only [decompressPrbNone, hvalues]; rfl⟩

lemma exists_iqCompressionBfp_decompress (htype : params.type = .bfp)
    (hlen : iqData.length / nofSubcarriersPerRb * getCompressedPrbSize params ≤
      compressedData.length) :
    ∃ iqSamples, (iqCompressionBfp toFloat).decompress iqData compressedData params =
      some iqSamples := by
  apply exists_prbDecompressor_decompress ?_ hlen
  intro prb hprb
  rw [getCompressedPrbSize_of_bfp htype] at hprb
  cases prb with
  | nil => simp at hprb
  | cons exponent prb =>
    rw [List.length_cons, Nat.add_right_cancel_iff] at hprb
    obtain ⟨values, hvalues⟩ := exists_unpackSamples_of_length hprb
    exact ⟨_, by simp only [decompressPrbGeneric, hvalues]; rfl⟩

end

end ProtoRu
