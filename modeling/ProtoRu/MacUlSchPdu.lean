import ProtoRu.MacSubpduGrammar

namespace ProtoRu.MacUl

open MacSubpduGrammar

def ccchSize64 : Lcid := 0b000000
def ccchSize48 : Lcid := 0b110100
def sePhr : Lcid := 0b111001
def crnti : Lcid := 0b111010
def shortTruncBsr : Lcid := 0b111011
def longTruncBsr : Lcid := 0b111100
def shortBsr : Lcid := 0b111101
def longBsr : Lcid := 0b111110

def isCcch (lcid : Lcid) : Bool := lcid = ccchSize48 ∨ lcid = ccchSize64

def isSdu (lcid : Lcid) : Bool := lcid.val ≤ 32 ∧ 1 ≤ lcid.val

def isValidLcid (lcid : Lcid) : Bool := lcid.val < 33 ∨ 51 < lcid.val

def isVarLenCe (lcid : Lcid) : Bool := lcid = longTruncBsr ∨ lcid = longBsr

def hasLengthField (lcid : Lcid) : Bool := !isCcch lcid && (isSdu lcid || isVarLenCe lcid)

def sizeofCe (lcid : Lcid) : Nat :=
  if lcid = ccchSize48 then 6
  else if lcid = ccchSize64 then 8
  else if lcid = crnti then 2
  else if lcid = shortBsr ∨ lcid = shortTruncBsr then 1
  else if lcid = sePhr then 2
  else if lcid = longBsr ∨ lcid = longTruncBsr then 1
  else 0

structure Subpdu where
  lcid : Lcid
  headerLength : Nat
  fBit : Bool
  payload : Bytes

namespace Subpdu

def takePayload (what : String) (lcid : Lcid) (headerLength : Nat) (fBit : Bool)
    (length : Nat) (reader : Bytes) : Except String (Subpdu × Bytes) :=
  if reader.length < length then
    .error <| s!"Not enough bytes remaining in PDU to decode {what} payload " ++
      s!"({reader.length} < {length})."
  else .ok (⟨lcid, headerLength, fBit, reader.take length⟩, reader.drop length)

def takeSized (lcid : Lcid) (fBit : Bool) (reader : Bytes) :
    Except String (Subpdu × Bytes) :=
  match fBit, reader with
  | false, length :: reader => takePayload "SDU" lcid 2 false length.toNat reader
  | true, high :: low :: reader =>
    takePayload "SDU" lcid 3 true (high.toNat <<< 8 ||| (low.toNat &&& 0xff)) reader
  | _, _ => .error "Not enough bytes remaining in PDU to decode length prefix."

/-- A subPDU and what is left after it. Padding takes all there is. -/
def unpack (reader : Bytes) : Except String (Subpdu × Bytes) :=
  match reader with
  | [] => .error "Empty subPDU."
  | first :: reader =>
    let lcid := lcidOf first
    if isValidLcid lcid = false then .error s!"Unrecognized lcid={lcid.val}."
    else if hasLengthField lcid then takeSized lcid (fBitOf first) reader
    else if lcid = paddingLcid then .ok (⟨lcid, 1, fBitOf first, reader⟩, [])
    else takePayload "CE" lcid 1 (fBitOf first) (sizeofCe lcid) reader

def totalLength (s : Subpdu) : Nat := s.headerLength + s.payload.length

end Subpdu

def maxSubpdusPerPdu : Nat := 4096

/-- The loop over a PDU, with the room left in the list of subPDUs. A full list ends it. -/
def unpackFrom : Nat → List Subpdu → Bytes → List Subpdu × Except String Unit
  | _, subpdus, [] => (subpdus, .ok ())
  | 0, subpdus, _ => (subpdus, .ok ())
  | room + 1, subpdus, reader =>
    match Subpdu.unpack reader with
    | .error cause => ([], .error cause)
    | .ok (subpdu, reader) => unpackFrom room (subpdus ++ [subpdu]) reader

lemma unpackFrom_full (subpdus : List Subpdu) (reader : Bytes) :
    unpackFrom 0 subpdus reader = (subpdus, .ok ()) := by
  cases reader with
  | nil | cons => rfl

lemma unpackFrom_cons (room : Nat) (subpdus : List Subpdu) (first : UInt8) (reader : Bytes) :
    unpackFrom (room + 1) subpdus (first :: reader) =
      match Subpdu.unpack (first :: reader) with
      | .error cause => ([], .error cause)
      | .ok (subpdu, rest) => unpackFrom room (subpdus ++ [subpdu]) rest := rfl

def unpack (payload : Bytes) : List Subpdu × Except String Unit :=
  unpackFrom maxSubpdusPerPdu [] payload

inductive BsrFormat where
  | shortBsr
  | shortTruncBsr
  | longBsr
  | longTruncBsr
deriving DecidableEq

structure LcgBsrReport where
  lcgId : Nat
  bufferSize : Nat

inductive Fault where
  | readsOutside

def maxNofLcgs : Nat := 8

def decodeSbsr : Bytes → Except Fault LcgBsrReport
  | [] => .error .readsOutside
  | first :: _ => .ok ⟨(first.toNat &&& 0xe0) >>> 5, first.toNat &&& 0x1f⟩

/-- The loop over the LCGs. In a truncated report, an LCG without a buffer size has data. -/
def decodeLcgs (format : BsrFormat) (bitmap : UInt8) :
    List Nat → Bytes → Option (List LcgBsrReport)
  | [], _ => some []
  | i :: lcgs, sizes =>
    if bitmap.toNat &&& 1 <<< i ≠ 0 then
      match sizes with
      | size :: sizes =>
        if size = 255 then none
        else (decodeLcgs format bitmap lcgs sizes).map (⟨i, size.toNat⟩ :: ·)
      | [] =>
        if format = .longTruncBsr then
          (decodeLcgs format bitmap lcgs []).map (⟨i, 64⟩ :: ·)
        else none
    else if format = .longTruncBsr then (decodeLcgs format bitmap lcgs sizes).map (⟨i, 0⟩ :: ·)
    else decodeLcgs format bitmap lcgs sizes

/-- An empty bitmap stands for buffers that are all empty. -/
def decodeLbsr (format : BsrFormat) (payload : Bytes) :
    Except Fault (Option (List LcgBsrReport)) :=
  match payload with
  | [] => .error .readsOutside
  | bitmap :: sizes =>
    if bitmap = 0 then .ok (some ((List.range maxNofLcgs).map fun i => ⟨i, 0⟩))
    else .ok (decodeLcgs format bitmap (List.range maxNofLcgs) sizes)

structure BsrInfo where
  bsrFmt : BsrFormat
  lcgReports : List LcgBsrReport

def Subpdu.bsrInfo (s : Subpdu) : Except Fault (Option BsrInfo) :=
  if s.lcid = shortBsr ∨ s.lcid = shortTruncBsr then
    (decodeSbsr s.payload).map fun report =>
      some ⟨if s.lcid = shortBsr then .shortBsr else .shortTruncBsr, [report]⟩
  else if s.lcid = longBsr ∨ s.lcid = longTruncBsr then
    let format := if s.lcid = longBsr then BsrFormat.longBsr else BsrFormat.longTruncBsr
    (decodeLbsr format s.payload).map fun reports => reports.map (⟨format, ·⟩)
  else .ok none

end ProtoRu.MacUl
