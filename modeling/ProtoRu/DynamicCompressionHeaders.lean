import ProtoRu.UplaneDecoderAcceptance

namespace ProtoRu.DynamicCompression

open UplaneIq Uplane

/-- The receivers of dynamic headers: an RU has the decompressor of its configuration, an O-DU
selects one for each section. -/
inductive Receiver where
  | ruSector (dlComprType : CompressionType) (hcreated : dlComprType ≠ .reserved)
  | oduReceiver

structure ReceiverConfig where
  scs : SubcarrierSpacing
  cp : CyclicPrefix
  ruNofPrbs : Nat
  ruNofPrbs_pos : 0 < ruNofPrbs
  ruNofPrbs_le : ruNofPrbs ≤ maxNofPrbs

section

variable {Value : Type} (toFloat : Int → Nat → Value)

def createdDecompressor (type : CompressionType) (hcreated : type ≠ .reserved) :
    IqDecompressor (Value × Value) :=
  (createIqDecompressor toFloat type).get (by cases type <;> first | rfl | contradiction)

def Receiver.decompressor : Receiver → IqDecompressor (Value × Value)
  | .ruSector dlComprType hcreated => createdDecompressor toFloat dlComprType hcreated
  | .oduReceiver => iqDecompressorSelector toFloat

def Receiver.expectedDirection : Receiver → DataDirection
  | .ruSector _ _ => .downlink
  | .oduReceiver => .uplink

def Receiver.decoderConfig (receiver : Receiver) (config : ReceiverConfig) :
    CarrierDecoderConfig where
  scs := config.scs
  nofSymbols := getNsymbPerSlot config.cp
  ruNofPrbs := config.ruNofPrbs
  comprHeader := .dynamicHeader
  expectedDirection := receiver.expectedDirection
  ruNofPrbs_pos := config.ruNofPrbs_pos
  ruNofPrbs_le := config.ruNofPrbs_le

variable [Inhabited Value]

def Receiver.decode (receiver : Receiver) (config : ReceiverConfig) (message : Bytes) :
    DecodeOutcome (UplaneMessageDecoderResults (Value × Value)) :=
  UplaneIq.decode (receiver.decompressor toFloat) (receiver.decoderConfig config)
    resultsMaxNofSupportedSections message

def algorithm : CompressionType → Option (IqDecompressor (Value × Value))
  | .none => some (iqCompressionNone toFloat)
  | .bfp => some (iqCompressionBfp toFloat)
  | _ => none

def NamedSamples (decoded : Uplane.UplaneSectionParams)
    (iqSamples : List (Value × Value)) : Prop :=
  ∃ decompressor, algorithm toFloat decoded.udCompHdr.type = some decompressor ∧
    decompressSamples decompressor decoded.nofPrbs decoded.compressedData decoded.udCompHdr =
      some iqSamples

/-- The receiver stores what the headers name, drops messages of algorithms without an
implementation, and goes on running. -/
structure HandledAsNamed (receiver : Receiver) (config : ReceiverConfig)
    (message : Bytes) : Prop where
  stored : ∀ results, receiver.decode toFloat config message = .accepted results →
    ∃ decoded iqSamples, HasSection (receiver.decoderConfig config) message decoded ∧
      results.sections = [fillResults decoded iqSamples] ∧
      NamedSamples toFloat decoded iqSamples
  dropped : ∀ decoded, HasSection (receiver.decoderConfig config) message decoded →
    ¬isImplemented decoded.udCompHdr.type → receiver.decode toFloat config message = .rejected
  running : receiver.decode toFloat config message ≠ .faulted .applicationStopped

end

/-- A compression that a dynamic header can name. -/
structure OnTheWire (params : RuCompressionParams) : Prop where
  type_ne : params.type ≠ .reserved
  dataWidth_pos : 0 < params.dataWidth
  dataWidth_le : params.dataWidth ≤ maxIqWidth

def Receiver.Serves (receiver : Receiver) (params : RuCompressionParams) : Prop :=
  isImplemented params.type ∧
    match receiver with
    | .ruSector dlComprType _ => params.type = dlComprType
    | .oduReceiver => True

section

variable {receiver : Receiver} {config : ReceiverConfig} {message : Bytes}
  {decoded : Uplane.UplaneSectionParams}

section

variable (hsect : HasSection (receiver.decoderConfig config) message decoded)

include hsect

lemma onTheWire_of_hasSection : OnTheWire decoded.udCompHdr := by
  obtain ⟨start, hcompl, rfl⟩ := hsect.exists_sectionAt
  have hbyte := byteAt_lt start 4
  constructor
  · intro hresd
    have hsize := hcompl.2
    apply hcompl.1
    exact ⟨rfl, by simp only [sectionSize, iqDataOffset] at hsize; omega, hresd⟩
  · change 0 < if byteAt start 4 >>> 4 = 0 then maxIqWidth else byteAt start 4 >>> 4
    split
    · exact Nat.succ_pos 15
    · omega
  · change (if byteAt start 4 >>> 4 = 0 then maxIqWidth else byteAt start 4 >>> 4) ≤ maxIqWidth
    split
    · exact le_refl _
    · simp only [maxIqWidth]
      omega

lemma nofPrbs_le_of_hasSection : decoded.nofPrbs ≤ maxNofPrbs := by
  obtain ⟨start, -, rfl⟩ := hsect.exists_sectionAt
  have hbyte := byteAt_lt start 3
  change sectionNofPrbs _ start ≤ maxNofPrbs
  rw [sectionNofPrbs]
  split
  · exact config.ruNofPrbs_le
  · simp only [maxNofPrbs]
    omega

end

variable {Value : Type} (toFloat : Int → Nat → Value) {params : RuCompressionParams}

lemma exists_algorithm_of_serves (hserves : receiver.Serves params) :
    ∃ decompressor, algorithm toFloat params.type = some decompressor ∧ ∀ iqData compressedData,
        (receiver.decompressor toFloat).decompress iqData compressedData params =
          decompressor.decompress iqData compressedData params := by
  obtain ⟨himpl, hreceiver⟩ := hserves
  obtain ⟨type, dataWidth⟩ := params
  cases receiver with
  | ruSector dlComprType hcreat =>
    dsimp only at hreceiver
    subst hreceiver
    cases type <;> first | exact ⟨_, rfl, fun _ _ => rfl⟩ | simp [isImplemented] at himpl
  | oduReceiver =>
    cases type <;> first | exact ⟨_, rfl, fun _ _ => rfl⟩ | simp [isImplemented] at himpl

lemma exists_decompress_of_algorithm {decompressor : IqDecompressor (Value × Value)}
    (halg : algorithm toFloat params.type = some decompressor) {iqData : List (Value × Value)}
    {compressedData : Bytes}
    (hlen : iqData.length / nofSubcarriersPerRb * getCompressedPrbSize params ≤
      compressedData.length)
    : ∃ iqSamples, decompressor.decompress iqData compressedData params = some iqSamples := by
  cases htype : params.type <;> rw [htype] at halg
  case none =>
    cases halg
    exact exists_iqCompressionNone_decompress toFloat htype hlen
  case bfp =>
    cases halg
    exact exists_iqCompressionBfp_decompress toFloat htype hlen
  all_goals contradiction

variable [Inhabited Value]

lemma exists_namedSamples_of_serves
    (hsect : HasSection (receiver.decoderConfig config) message decoded)
    (hserves : receiver.Serves decoded.udCompHdr) :
    ∃ iqSamples, NamedSamples toFloat decoded iqSamples ∧
      decompressSection (receiver.decompressor toFloat) decoded =
        some (fillResults decoded iqSamples) := by
  obtain ⟨decompressor, halg, hagrees⟩ := exists_algorithm_of_serves toFloat hserves
  have hcapacity : ¬maxNofPrbs * nofSubcarriersPerRb < decoded.nofPrbs * nofSubcarriersPerRb :=
    not_lt.mpr (Nat.mul_le_mul_right _ (nofPrbs_le_of_hasSection hsect))
  have hlen : (List.replicate (decoded.nofPrbs * nofSubcarriersPerRb)
      (default : Value × Value)).length / nofSubcarriersPerRb *
        getCompressedPrbSize decoded.udCompHdr ≤ decoded.compressedData.length := by
    obtain ⟨start, hcompl, rfl⟩ := hsect.exists_sectionAt
    rw [hcompl.length_compressedData, List.length_replicate,
      Nat.mul_div_cancel _ (by decide : 0 < nofSubcarriersPerRb)]
    exact le_refl _
  obtain ⟨iqSamples, hsamps⟩ := exists_decompress_of_algorithm toFloat halg hlen
  refine ⟨iqSamples, ⟨decompressor, halg, ?_⟩, ?_⟩
  · rw [decompressSamples, if_neg hcapacity, hsamps]
  · rw [decompressSection, decompressSamples, if_neg hcapacity, hagrees, hsamps]
    rfl

lemma handledAsNamed_of_serves
    (hserves : ∀ decoded, HasSection (receiver.decoderConfig config) message decoded →
      receiver.Serves decoded.udCompHdr) : HandledAsNamed toFloat receiver config message := by
  constructor
  · intro results hacc
    obtain ⟨hhdr, hfirst, -, -, filled, hfilled, rfl⟩ :=
      (decode_eq_accepted_iff (receiver.decompressor toFloat)).mp hacc
    have hsect := hasSection_first hhdr hfirst
    obtain ⟨iqSamples, hnamed, hdecompressed⟩ :=
      exists_namedSamples_of_serves toFloat hsect (hserves _ hsect)
    rw [hdecompressed, Option.some.injEq] at hfilled
    exact ⟨_, iqSamples, hsect, by rw [hfilled], hnamed⟩
  · intro decoded hsect himpl
    exact absurd (hserves decoded hsect).1 himpl
  · intro hstop
    obtain ⟨decoded, hsect, hnone⟩ :=
      (decode_eq_stopped_iff (receiver.decompressor toFloat)).mp hstop
    obtain ⟨iqSamples, -, hdecompressed⟩ :=
      exists_namedSamples_of_serves toFloat hsect (hserves _ hsect)
    rw [hdecompressed] at hnone
    contradiction

open Receiver

lemma serves_of_oduReceiver_running {config : ReceiverConfig} {message : Bytes}
    (hruns : oduReceiver.decode toFloat config message ≠ .faulted .applicationStopped)
    (hsect : HasSection (oduReceiver.decoderConfig config)
      message decoded) : oduReceiver.Serves decoded.udCompHdr := by
  refine ⟨?_, trivial⟩
  by_contra himpl
  apply hruns
  apply (decode_eq_stopped_iff _).mpr
  refine ⟨decoded, hsect, ?_⟩
  have hnone : ∀ iqData compressedData,
      (iqDecompressorSelector toFloat).decompress iqData compressedData decoded.udCompHdr =
        none := by
    intro iqData compressedData
    simp only [iqDecompressorSelector]
    cases htype : decoded.udCompHdr.type <;> rw [htype] at himpl
    case none => exact absurd rfl himpl
    case bfp => exact absurd rfl himpl
    all_goals rfl
  simp [decompressor, decompressSection, decompressSamples, hnone]

lemma oduReceiver_handled_iff (config : ReceiverConfig) (message : Bytes) :
    HandledAsNamed toFloat .oduReceiver config message ↔
      ∀ decoded, HasSection (oduReceiver.decoderConfig config)
        message decoded → oduReceiver.Serves decoded.udCompHdr := by
  constructor
  · intro hhand decoded hsect
    exact serves_of_oduReceiver_running toFloat hhand.running hsect
  · exact handledAsNamed_of_serves toFloat

end

end ProtoRu.DynamicCompression
