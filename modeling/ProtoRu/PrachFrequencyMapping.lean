import ProtoRu.CplaneMessageDecoding

namespace ProtoRu

open Cplane

inductive PrachSubcarrierSpacing where
  | kHz15
  | kHz30
  | kHz60
  | kHz120
  | kHz1p25
  | kHz5
  | invalid
  deriving DecidableEq

def toRaSubcarrierSpacing : SubcarrierSpacing → PrachSubcarrierSpacing
  | .kHz15 => .kHz15
  | .kHz30 => .kHz30
  | .kHz60 => .kHz60
  | .kHz120 => .kHz120
  | .kHz240 => .invalid

def toPrachSubcarrierSpacing : CplaneScs → PrachSubcarrierSpacing
  | .kHz15 => .kHz15
  | .kHz30 => .kHz30
  | .kHz60 => .kHz60
  | .kHz120 => .kHz120
  | .kHz1p25 => .kHz1p25
  | .kHz5 => .kHz5
  | .other _ => .invalid

def isShortPreamble : PrachSubcarrierSpacing → Bool
  | .kHz15 | .kHz30 | .kHz60 | .kHz120 => true
  | .kHz1p25 | .kHz5 | .invalid => false

def isPrachFilterCompatible (filter : FilterIndexType) (prachScs : PrachSubcarrierSpacing) :
    Bool :=
  match filter with
  | .ulPrachPreamble1p25khz => prachScs = .kHz1p25
  | .ulPrachPreamble5kHz => prachScs = .kHz5
  | .ulPrachPreambleShort => isShortPreamble prachScs
  | .ulPrachPreambleShort15kHz => prachScs = .kHz15
  | .ulPrachPreambleShort30kHz => prachScs = .kHz30
  | _ => false

/-- The PRACH subcarrier spacing in hertz; the source asserts it to be valid. -/
def raScsToHz : PrachSubcarrierSpacing → Nat
  | .kHz15 => 15000
  | .kHz30 => 30000
  | .kHz60 => 60000
  | .kHz120 => 120000
  | .kHz1p25 => 1250
  | .kHz5 => 5000
  | .invalid => 0

def scsToKhz : SubcarrierSpacing → Nat
  | .kHz15 => 15
  | .kHz30 => 30
  | .kHz60 => 60
  | .kHz120 => 120
  | .kHz240 => 240

structure PrachFrequencyMappingInformation where
  nofRbRa : Nat
  kBar : Nat

def prachFrequencyMappingGet (prachScs : PrachSubcarrierSpacing)
    (puschScs : SubcarrierSpacing) : PrachFrequencyMappingInformation :=
  match prachScs, puschScs with
  | .kHz1p25, .kHz15 => ⟨6, 7⟩
  | .kHz1p25, .kHz30 => ⟨3, 1⟩
  | .kHz1p25, .kHz60 => ⟨2, 133⟩
  | .kHz5, .kHz15 => ⟨24, 12⟩
  | .kHz5, .kHz30 => ⟨12, 10⟩
  | .kHz5, .kHz60 => ⟨6, 7⟩
  | .kHz15, .kHz15 => ⟨12, 2⟩
  | .kHz15, .kHz30 => ⟨6, 2⟩
  | .kHz15, .kHz60 => ⟨3, 2⟩
  | .kHz30, .kHz15 => ⟨24, 2⟩
  | .kHz30, .kHz30 => ⟨12, 2⟩
  | .kHz30, .kHz60 => ⟨6, 2⟩
  | .kHz60, .kHz60 => ⟨12, 2⟩
  | .kHz60, .kHz120 => ⟨6, 2⟩
  | .kHz120, .kHz60 => ⟨24, 2⟩
  | .kHz120, .kHz120 => ⟨12, 2⟩
  | _, _ => ⟨0, 0⟩

/-- The first resource block of an allocation, from its offset in half PRACH subcarriers. -/
def calculatePrachRbOffset (frequencyOffset : Int) (prachScs : PrachSubcarrierSpacing)
    (puschScs : SubcarrierSpacing) (ruNofPrbs : Nat) : Option Nat :=
  let mapping := prachFrequencyMappingGet prachScs puschScs
  if mapping.nofRbRa = 0 then none
  else
    let rbBwHz : Int := scsToKhz puschScs * 1000 * nofSubcarriersPerRb
    let twiceOffsetFromLowerEdgeHz : Int :=
      rbBwHz * ruNofPrbs + frequencyOffset * raScsToHz prachScs
    let twiceRbBwHz := 2 * rbBwHz
    if twiceOffsetFromLowerEdgeHz < 0 ∨ twiceOffsetFromLowerEdgeHz.tmod twiceRbBwHz ≠ 0 then none
    else
      let rbOffset := (twiceOffsetFromLowerEdgeHz.tdiv twiceRbBwHz).toNat
      if ruNofPrbs < rbOffset + mapping.nofRbRa then none else some rbOffset

end ProtoRu
