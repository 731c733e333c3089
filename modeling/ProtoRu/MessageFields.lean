import Mathlib.Data.List.Nodup

namespace ProtoRu

inductive DataDirection where
  | uplink
  | downlink
  deriving DecidableEq

def toDataDirection (value : Nat) : DataDirection :=
  if value = 0 then .uplink else .downlink

def DataDirection.toValue : DataDirection → Nat
  | .uplink => 0
  | .downlink => 1

inductive FilterIndexType where
  | standardChannelFilter
  | ulPrachPreamble1p25khz
  | ulPrachPreamble5kHz
  | ulPrachPreambleShort
  | ulNprachPreamble
  | ulPrachPreamble7p5kHz
  | ulPrachPreambleShort15kHz
  | ulPrachPreambleShort30kHz
  | reserved
  deriving DecidableEq

def FilterIndexType.toValue : FilterIndexType → Nat
  | .standardChannelFilter => 0
  | .ulPrachPreamble1p25khz => 1
  | .ulPrachPreamble5kHz => 2
  | .ulPrachPreambleShort => 3
  | .ulNprachPreamble => 4
  | .ulPrachPreamble7p5kHz => 5
  | .ulPrachPreambleShort15kHz => 6
  | .ulPrachPreambleShort30kHz => 7
  | .reserved => 8

def toFilterIndexType : Nat → FilterIndexType
  | 0 => .standardChannelFilter
  | 1 => .ulPrachPreamble1p25khz
  | 2 => .ulPrachPreamble5kHz
  | 3 => .ulPrachPreambleShort
  | 4 => .ulNprachPreamble
  | 5 => .ulPrachPreamble7p5kHz
  | 6 => .ulPrachPreambleShort15kHz
  | 7 => .ulPrachPreambleShort30kHz
  | _ => .reserved

inductive CompressionType where
  | none
  | bfp
  | blockScaling
  | muLaw
  | modulation
  | bfpSelective
  | modSelective
  | reserved
  deriving DecidableEq

def CompressionType.toValue : CompressionType → Nat
  | .none => 0
  | .bfp => 1
  | .blockScaling => 2
  | .muLaw => 3
  | .modulation => 4
  | .bfpSelective => 5
  | .modSelective => 6
  | .reserved => 7

def toCompressionType : Nat → CompressionType
  | 0 => .none
  | 1 => .bfp
  | 2 => .blockScaling
  | 3 => .muLaw
  | 4 => .modulation
  | 5 => .bfpSelective
  | 6 => .modSelective
  | _ => .reserved

lemma toCompressionType_toValue (type : CompressionType) :
    toCompressionType type.toValue = type := by
  cases type <;> rfl

structure RuCompressionParams where
  type : CompressionType
  dataWidth : Nat
  deriving DecidableEq

def maxIqWidth : Nat := 16

def ofhPayloadVersion : Nat := 1

def nofSubcarriersPerRb : Nat := 12

def maxNofPrbs : Nat := 275

def maxSupportedEaxcIdValue : Nat := 32

def maxNofSupportedEaxc : Nat := 4

/-- A list of eAxC identifiers that the configuration accepts. -/
structure EaxcList where
  values : List Nat
  length_le : values.length ≤ maxNofSupportedEaxc
  lt_max : ∀ eaxc ∈ values, eaxc < maxSupportedEaxcIdValue
  nodup : values.Nodup

def EaxcList.singleton (eaxc : Nat) (heaxc : eaxc < maxSupportedEaxcIdValue) : EaxcList where
  values := [eaxc]
  length_le := by simp [maxNofSupportedEaxc]
  lt_max := List.forall_mem_singleton.mpr heaxc
  nodup := List.nodup_singleton eaxc

def oneEaxc : EaxcList := .singleton 0 (by decide)

end ProtoRu
