import Mathlib.Data.List.Range
import Mathlib.Data.Nat.Bitwise
import ProtoRu.SlotNumbering

namespace ProtoRu.UplinkSymbols

open Nat

def validSymbolBitmaskStartBit : Nat := 16

def extendedCpBit : Nat := 14

def usedSlotBit : Nat := 15

def usedSlotBitmap : Nat := 1 <<< usedSlotBit

def extendedCpBitmap : Nat := 1 <<< extendedCpBit

def allSymbolsNotified (cp : CyclicPrefix) : Nat := 1 <<< getNsymbPerSlot cp - 1

/-- An uplink symbol with the grid of its slot and whether its data is valid. -/
structure UplinkSymbol (Grid : Type) where
  slot : SlotPoint
  symbol : Nat
  sector : Nat
  grid : Grid
  isValid : Bool

structure UplinkSlot where
  slot : SlotPoint
  startSymbol : Nat
  cp : CyclicPrefix
  startSymbol_lt : startSymbol < maxNsymbPerSlot

section

def isSlotUsed (value : Nat) : Bool := value &&& usedSlotBitmap != 0

def getCyclicPrefix (value : Nat) : CyclicPrefix :=
  if value &&& extendedCpBitmap != 0 then .extended else .normal

def areAllSymbolsNotified (value : Nat) : Bool :=
  value &&& allSymbolsNotified (getCyclicPrefix value) == allSymbolsNotified (getCyclicPrefix value)

def isAnyPreviousSymbolMissed (value symbol : Nat) : Bool :=
  (List.range symbol).any fun i => value >>> i &&& 1 == 0

def getNofSymbols (value : Nat) : Nat := getNsymbPerSlot (getCyclicPrefix value)

def contiguous (set : Nat → Bool) : Nat → Nat → Nat
  | 0, _ => 0
  | remaining + 1, position =>
    if set position then contiguous set remaining (position + 1) + 1 else 0

/-- The symbol and the received ones that follow without a gap. The bound is an unsigned
difference. -/
def getNofSymbolsToNotify (value symbol : Nat) : Nat :=
  contiguous (fun i => value >>> i &&& 1 != 0)
    ((2 ^ 32 + getNofSymbols value - symbol - 1) % 2 ^ 32) (symbol + 1) + 1

/-- The word of a slot for which the symbols before the start symbol count as notified. -/
def initialValue (request : UplinkSlot) : Nat :=
  usedSlotBitmap ||| (if request.cp = .extended then extendedCpBitmap else 0) |||
    (1 <<< request.startSymbol - 1)

def receivedBits (symbol : Nat) (isValid : Bool) : Nat :=
  1 <<< symbol ||| if isValid then 1 <<< (symbol + validSymbolBitmaskStartBit) else 0

end

structure Results where
  nofSymbols : Nat
  validSymbols : Nat

structure UplinkNotifiedGridSymbolRepository where
  size : Nat
  repo : Nat → Nat

variable (value : Nat)

namespace UplinkNotifiedGridSymbolRepository

variable (repository : UplinkNotifiedGridSymbolRepository)

def index (slot : SlotPoint) : Nat := slot.count % repository.size

def getEntry (slot : SlotPoint) : Nat := repository.repo (repository.index slot)

def store (slot : SlotPoint) (value : Nat) : UplinkNotifiedGridSymbolRepository :=
  { repository with repo := Function.update repository.repo (repository.index slot) value }

def add (request : UplinkSlot) : UplinkNotifiedGridSymbolRepository :=
  repository.store request.slot (initialValue request)

/-- Record a symbol, also one of a slot not in use, and return the symbols to notify with it. -/
def updateRxSymbolAndComputeSymbolsToNotify (slot : SlotPoint) (symbol : Nat) (isValid : Bool) :
    UplinkNotifiedGridSymbolRepository × Option Results :=
  let value := repository.getEntry slot
  let updated := value ||| receivedBits symbol isValid
  if !isSlotUsed value || isAnyPreviousSymbolMissed value symbol then
    (repository.store slot updated, none)
  else
    (repository.store slot (if areAllSymbolsNotified updated then 0 else updated),
      some ⟨getNofSymbolsToNotify value symbol, updated >>> validSymbolBitmaskStartBit⟩)

@[simp] lemma size_store (slot : SlotPoint) (value : Nat) :
    (repository.store slot value).size = repository.size := rfl

@[simp] lemma getEntry_store (slot : SlotPoint) (value : Nat) :
    (repository.store slot value).getEntry slot = value := by
  simp [getEntry, store, index]

lemma getEntry_store_of_ne {slot other : SlotPoint}
    (h : other.count % repository.size ≠ slot.count % repository.size) :
    (repository.store slot value).getEntry other = repository.getEntry other :=
  Function.update_of_ne h _ _

end UplinkNotifiedGridSymbolRepository

open UplinkNotifiedGridSymbolRepository

variable {Grid : Type}

/-- A new slot of the transmitter, or a symbol of the receiver, asserted to be one of a slot. -/
inductive Event (Grid : Type) where
  | newSlot (request : UplinkSlot)
  | uplinkSymbol (received : UplinkSymbol Grid) (hsymbol : received.symbol < maxNsymbPerSlot)

def Event.slot : Event Grid → SlotPoint
  | .newSlot request => request.slot
  | .uplinkSymbol received _ => received.slot

/-- Every symbol released is notified with its context and a copy of its grid. -/
def notifications (received : UplinkSymbol Grid) : Option Results → List (UplinkSymbol Grid)
  | none => []
  | some results =>
    (List.range' received.symbol results.nofSymbols).map fun i =>
      { received with symbol := i, isValid := results.validSymbols.testBit i }

def onNewUplinkSymbol (repository : UplinkNotifiedGridSymbolRepository)
    (received : UplinkSymbol Grid) :
    UplinkNotifiedGridSymbolRepository × List (UplinkSymbol Grid) :=
  let (repository, results) := repository.updateRxSymbolAndComputeSymbolsToNotify
    received.slot received.symbol received.isValid
  (repository, notifications received results)

structure Reorderer (Grid : Type) where
  repository : UplinkNotifiedGridSymbolRepository
  notified : List (UplinkSymbol Grid)

def step (state : Reorderer Grid) : Event Grid → Reorderer Grid
  | .newSlot request => { state with repository := state.repository.add request }
  | .uplinkSymbol received _ =>
    let (repository, notified) := onNewUplinkSymbol state.repository received
    ⟨repository, state.notified ++ notified⟩

def run (state : Reorderer Grid) (events : List (Event Grid)) : Reorderer Grid :=
  events.foldl step state

def ofSlot (slot : SlotPoint) (symbols : List (UplinkSymbol Grid)) : List (UplinkSymbol Grid) :=
  symbols.filter fun symbol => symbol.slot = slot

def arrivals (slot : SlotPoint) (events : List (Event Grid)) : List (UplinkSymbol Grid) :=
  ofSlot slot (events.filterMap fun
    | .newSlot _ => none
    | .uplinkSymbol received _ => some received)

section

lemma bit_ne_zero (value i : Nat) : (value >>> i &&& 1 != 0) = value.testBit i := by
  rw [Nat.testBit, Nat.and_comm]

lemma and_bit_ne_zero (value i : Nat) : (value &&& 1 <<< i != 0) = value.testBit i := by
  rw [one_shiftLeft, and_two_pow]
  cases value.testBit i <;> simp

lemma isSlotUsed_eq : isSlotUsed value = value.testBit usedSlotBit :=
  and_bit_ne_zero value _

lemma getCyclicPrefix_eq :
    getCyclicPrefix value = if value.testBit extendedCpBit then .extended else .normal := by
  rw [getCyclicPrefix, extendedCpBitmap, and_bit_ne_zero]

lemma isAnyPreviousSymbolMissed_iff (value symbol : Nat) :
    isAnyPreviousSymbolMissed value symbol ↔ ∃ i < symbol, value.testBit i = false := by
  rw [isAnyPreviousSymbolMissed, List.any_eq_true]
  apply exists_congr
  intro i
  rw [List.mem_range, ← bit_ne_zero, bne, Bool.not_eq_false']

lemma contiguous_le (set : Nat → Bool) (remaining position : Nat) :
    contiguous set remaining position ≤ remaining := by
  induction remaining generalizing position with
  | zero => simp [contiguous]
  | succ remaining ih =>
    have := ih (position + 1)
    rw [contiguous]
    split <;> omega

lemma set_of_lt_contiguous {set : Nat → Bool} {remaining position i : Nat}
    (hlow : position ≤ i) (hhigh : i < position + contiguous set remaining position) : set i := by
  induction remaining generalizing position with
  | zero =>
    rw [contiguous] at hhigh
    omega
  | succ remaining ih =>
    rw [contiguous] at hhigh
    split at hhigh
    case isTrue hset =>
      obtain rfl | hlt := hlow.eq_or_lt
      · exact hset
      · have hnext : position + 1 ≤ i := hlt
        exact ih hnext (by omega)
    case isFalse => omega

lemma not_set_contiguous {set : Nat → Bool} {remaining position : Nat}
    (h : contiguous set remaining position < remaining) :
    set (position + contiguous set remaining position) = false := by
  induction remaining generalizing position with
  | zero => omega
  | succ remaining ih =>
    rw [contiguous] at h ⊢
    split at h
    case isTrue hset =>
      rw [if_pos hset]
      have hnext : set (position + 1 + contiguous set remaining (position + 1)) = false :=
        ih (by omega)
      rw [← hnext]
      congr 1
      omega
    case isFalse hset =>
      rw [if_neg hset]
      simpa using hset

end

/-- What the word of a slot says after the given symbols of it have arrived. -/
structure EntryHolds (value : Nat) (request : UplinkSlot) (symbols : List (UplinkSymbol Grid)) :
    Prop where
  used : value.testBit usedSlotBit
  cp : getCyclicPrefix value = request.cp
  received : ∀ i < maxNsymbPerSlot, value.testBit i ↔
    i < request.startSymbol ∨ ∃ symbol ∈ symbols, symbol.symbol = i
  valid : ∀ i < maxNsymbPerSlot, value.testBit (validSymbolBitmaskStartBit + i) ↔
    ∃ symbol ∈ symbols, symbol.symbol = i ∧ symbol.isValid

variable (request : UplinkSlot)

lemma testBit_initialValue (i : Nat) : (initialValue request).testBit i ↔
      i = usedSlotBit ∨ (request.cp = .extended ∧ i = extendedCpBit) ∨ i < request.startSymbol := by
  have hif : (if request.cp = .extended then 1 <<< extendedCpBit else 0).testBit i =
      decide (request.cp = .extended ∧ i = extendedCpBit) := by
    split <;> simp_all [one_shiftLeft, testBit_two_pow, @eq_comm _ i]
  rw [initialValue, testBit_or, testBit_or, usedSlotBitmap, extendedCpBitmap, hif]
  simp [one_shiftLeft, testBit_two_pow, or_assoc, @eq_comm _ i]

lemma testBit_receivedBits (symbol : Nat) (isValid : Bool) (i : Nat) :
    (receivedBits symbol isValid).testBit i ↔
      i = symbol ∨ (isValid ∧ i = symbol + validSymbolBitmaskStartBit) := by
  rw [receivedBits, testBit_or]
  cases isValid <;> simp [one_shiftLeft, testBit_two_pow, @eq_comm _ i]

lemma entryHolds_initialValue :
    EntryHolds (initialValue request) request ([] : List (UplinkSymbol Grid)) := by
  have hstart := request.startSymbol_lt
  have hmax : maxNsymbPerSlot = 14 := rfl
  constructor
  case used => exact (testBit_initialValue request _).mpr (Or.inl rfl)
  case cp =>
    have hbit := testBit_initialValue request extendedCpBit
    rw [getCyclicPrefix_eq]
    rcases hcp : request.cp with _ | _
    · rw [if_neg]
      rw [hbit, hcp]
      simp [extendedCpBit, usedSlotBit]
      omega
    · rw [if_pos]
      exact hbit.mpr (Or.inr (Or.inl ⟨hcp, rfl⟩))
  case received =>
    intro i hi
    rw [testBit_initialValue]
    simp [extendedCpBit, usedSlotBit]
    omega
  case valid =>
    intro i hi
    rw [testBit_initialValue]
    simp [extendedCpBit, usedSlotBit, validSymbolBitmaskStartBit]
    omega

lemma EntryHolds.receive {value : Nat} {request : UplinkSlot}
    {symbols : List (UplinkSymbol Grid)} (h : EntryHolds value request symbols)
    (arrival : UplinkSymbol Grid) (hlt : arrival.symbol < maxNsymbPerSlot) :
    EntryHolds (value ||| receivedBits arrival.symbol arrival.isValid) request
      (symbols ++ [arrival]) := by
  have hmax : maxNsymbPerSlot = 14 := rfl
  have hbit : ∀ i, (value ||| receivedBits arrival.symbol arrival.isValid).testBit i ↔
      value.testBit i ∨ i = arrival.symbol ∨
        (arrival.isValid ∧ i = arrival.symbol + validSymbolBitmaskStartBit) := by
    intro i
    rw [testBit_or, Bool.or_eq_true, testBit_receivedBits]
  constructor
  case used => exact (hbit _).mpr (Or.inl h.used)
  case cp =>
    have hsame : (value ||| receivedBits arrival.symbol arrival.isValid).testBit extendedCpBit =
        value.testBit extendedCpBit := by
      rw [Bool.eq_iff_iff, hbit]
      simp [extendedCpBit, validSymbolBitmaskStartBit]
      omega
    rw [getCyclicPrefix_eq, hsame, ← getCyclicPrefix_eq, h.cp]
  case received =>
    intro i hi
    have hne : i ≠ arrival.symbol + validSymbolBitmaskStartBit := by
      rw [validSymbolBitmaskStartBit]
      omega
    rw [hbit, h.received i hi]
    simp [hne, or_assoc, @eq_comm _ i]
  case valid =>
    intro i hi
    have hne : validSymbolBitmaskStartBit + i ≠ arrival.symbol := by
      rw [validSymbolBitmaskStartBit]
      omega
    have hsame : validSymbolBitmaskStartBit + i = arrival.symbol + validSymbolBitmaskStartBit ↔
        arrival.symbol = i := by omega
    rw [hbit, h.valid i hi, hsame]
    simp [hne, and_comm (b := arrival.symbol = i)]

lemma areAllSymbolsNotified_eq_false {value i : Nat}
    (hi : i < getNsymbPerSlot (getCyclicPrefix value)) (hbit : value.testBit i = false) :
    areAllSymbolsNotified value = false := by
  rw [areAllSymbolsNotified, beq_eq_false_iff_ne]
  intro hall
  have hmask : (allSymbolsNotified (getCyclicPrefix value)).testBit i := by
    rw [allSymbolsNotified, one_shiftLeft, testBit_two_pow_sub_one]
    simpa using hi
  rw [← hall, testBit_and, hbit, Bool.false_and] at hmask
  exact Bool.false_ne_true hmask

lemma getNofSymbolsToNotify_eq_contiguous {value symbol : Nat}
    (h : symbol < getNofSymbols value) : getNofSymbolsToNotify value symbol =
      contiguous value.testBit (getNofSymbols value - symbol - 1) (symbol + 1) + 1 := by
  have hle := getNsymbPerSlot_le_max (getCyclicPrefix value)
  have hmax : maxNsymbPerSlot = 14 := rfl
  have hbound : (2 ^ 32 + getNofSymbols value - symbol - 1) % 2 ^ 32 =
      getNofSymbols value - symbol - 1 := by
    rw [getNofSymbols] at h ⊢
    omega
  rw [getNofSymbolsToNotify, hbound]
  simp only [bit_ne_zero]

/-- The symbols behind a received one, in a row, that have arrived before it. -/
def nofBehind (value : Nat) (request : UplinkSlot) (symbol : Nat) : Nat :=
  contiguous value.testBit (getNsymbPerSlot request.cp - symbol - 1) (symbol + 1)

lemma nofBehind_le (request : UplinkSlot) (symbol : Nat) :
    nofBehind value request symbol ≤ getNsymbPerSlot request.cp - symbol - 1 :=
  contiguous_le _ _ _

namespace EntryHolds

variable {value : Nat} {request : UplinkSlot} {symbols : List (UplinkSymbol Grid)}

variable (h : EntryHolds value request symbols)

include h

lemma getNofSymbolsToNotify_eq {symbol : Nat} (hlt : symbol < getNsymbPerSlot request.cp) :
    getNofSymbolsToNotify value symbol = nofBehind value request symbol + 1 := by
  have hnof : getNofSymbols value = getNsymbPerSlot request.cp := by
    rw [getNofSymbols, h.cp]
  rw [getNofSymbolsToNotify_eq_contiguous (by omega), hnof, nofBehind]

lemma exists_arrived_behind {symbol i : Nat} (hstart : request.startSymbol ≤ symbol)
    (hlow : symbol < i) (hhigh : i ≤ symbol + nofBehind value request symbol) :
    ∃ other ∈ symbols, other.symbol = i := by
  have hle := nofBehind_le value request symbol
  have hmax := getNsymbPerSlot_le_max request.cp
  have hwithin : i < symbol + 1 +
      contiguous value.testBit (getNsymbPerSlot request.cp - symbol - 1) (symbol + 1) := by
    rw [nofBehind] at hhigh
    omega
  have hbit : value.testBit i := set_of_lt_contiguous hlow hwithin
  obtain hbefore | harrived := (h.received i (by omega)).mp hbit
  · omega
  · exact harrived

lemma symbol_ne_after_behind {symbol : Nat}
    (hlt : symbol + (nofBehind value request symbol + 1) < getNsymbPerSlot request.cp)
    {other : UplinkSymbol Grid} (hmem : other ∈ symbols) :
    other.symbol ≠ symbol + (nofBehind value request symbol + 1) := by
  intro heq
  have hmax := getNsymbPerSlot_le_max request.cp
  have hunset : value.testBit (symbol + 1 + nofBehind value request symbol) = false := by
    apply not_set_contiguous
    rw [nofBehind] at hlt
    omega
  have hset := (h.received other.symbol (by omega)).mpr (Or.inr ⟨other, hmem, rfl⟩)
  rw [heq, ← Nat.add_assoc, Nat.add_right_comm, hunset] at hset
  exact Bool.false_ne_true hset

end EntryHolds

section

variable {repository : UplinkNotifiedGridSymbolRepository}

variable {received : UplinkSymbol Grid}

lemma exists_onNewUplinkSymbol_store (repository : UplinkNotifiedGridSymbolRepository)
    (received : UplinkSymbol Grid) :
    ∃ value, (onNewUplinkSymbol repository received).1 = repository.store received.slot value := by
  simp only [onNewUplinkSymbol, updateRxSymbolAndComputeSymbolsToNotify]
  split <;> exact ⟨_, rfl⟩

lemma slot_of_mem_onNewUplinkSymbol {symbol : UplinkSymbol Grid}
    (hmem : symbol ∈ (onNewUplinkSymbol repository received).2) : symbol.slot = received.slot := by
  rw [onNewUplinkSymbol] at hmem
  generalize repository.updateRxSymbolAndComputeSymbolsToNotify received.slot received.symbol
    received.isValid = update at hmem
  obtain ⟨after, _ | results⟩ := update
  · contradiction
  · obtain ⟨i, -, rfl⟩ := List.mem_map.mp hmem
    rfl

end

end ProtoRu.UplinkSymbols
