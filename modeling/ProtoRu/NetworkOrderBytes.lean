import Mathlib.Data.List.GetD
import Mathlib.Data.Nat.Bitwise
import Mathlib.Tactic.Ring

/-!
Bytes in network order, and bit fields packed side by side into one value: the upper field is
shifted over the lower one, and each is read back by a shift or by a mask.
-/

/-- The bytes of a message. -/
abbrev ProtoRu.Bytes := List UInt8

namespace ProtoRu

section

variable {high low width : Nat}

section

variable (hlow : low < 2 ^ width)

include hlow

lemma shiftLeft_or_eq : high <<< width ||| low = high * 2 ^ width + low := by
  rw [← Nat.shiftLeft_add_eq_or_of_lt hlow, Nat.shiftLeft_eq]

lemma shiftRight_shiftLeft_or : (high <<< width ||| low) >>> width = high := by
  rw [shiftLeft_or_eq hlow, Nat.shiftRight_eq_div_pow, Nat.mul_comm,
    Nat.mul_add_div (Nat.two_pow_pos width), Nat.div_eq_of_lt hlow, Nat.add_zero]

lemma shiftLeft_or_mod : (high <<< width ||| low) % 2 ^ width = low := by
  rw [shiftLeft_or_eq hlow, Nat.mul_comm, Nat.mul_add_mod, Nat.mod_eq_of_lt hlow]

lemma shiftLeft_or_and : (high <<< width ||| low) &&& (2 ^ width - 1) = low := by
  rw [Nat.and_two_pow_sub_one_eq_mod, shiftLeft_or_mod hlow]

end

lemma shiftLeft_or_lt (total : Nat) (hhigh : high < 2 ^ total) (hlow : low < 2 ^ width) :
    high <<< width ||| low < 2 ^ (total + width) :=
  Nat.or_lt_two_pow (Nat.shiftLeft_lt hhigh)
    (hlow.trans_le (Nat.pow_le_pow_right (by decide) (Nat.le_add_left width total)))

lemma shiftRight_shiftLeft_or_and (value width : Nat) :
    (value >>> width) <<< width ||| (value &&& (2 ^ width - 1)) = value := by
  rw [Nat.and_two_pow_sub_one_eq_mod, shiftLeft_or_eq (Nat.mod_lt _ (Nat.two_pow_pos width)),
    Nat.shiftRight_eq_div_pow]
  exact Nat.div_add_mod' value (2 ^ width)

end

/-- The state of a deserializer is the unconsumed bytes; a decoder fails when it rejects them. -/
abbrev Deserializer := StateT Bytes Option

def byteAt (message : Bytes) (offset : Nat) : Nat :=
  (message.getD offset 0).toNat

def requireRemaining (nofBytes : Nat) : Deserializer Unit := do
  let remaining ← get
  if remaining.length < nofBytes then failure else return ()

def readOneByte : Deserializer Nat := fun remaining =>
  match remaining with
  | [] => none
  | value :: rest => some (value.toNat, rest)

def readTwoBytes : Deserializer Nat := do
  let msb ← readOneByte
  let lsb ← readOneByte
  return msb <<< 8 ||| lsb

def Deserializer.advance (nofBytes : Nat) : Deserializer Unit :=
  modify (List.drop nofBytes)

def getViewAndAdvance (nofBytes : Nat) : Deserializer Bytes := fun remaining =>
  some (remaining.take nofBytes, remaining.drop nofBytes)

def require (condition : Prop) [Decidable condition] : Deserializer Unit :=
  if condition then return () else failure

variable (message : Bytes)

lemma byteAt_lt (offset : Nat) : byteAt message offset < 256 :=
  (message.getD offset 0).toNat_lt

@[simp] lemma byteAt_drop (offset i : Nat) :
    byteAt (message.drop offset) i = byteAt message (offset + i) := by
  simp [byteAt]

variable (value : UInt8) (rest : Bytes)

lemma byteAt_cons_zero : byteAt (value :: rest) 0 = value.toNat := rfl

lemma byteAt_cons_succ (i : Nat) : byteAt (value :: rest) (i + 1) = byteAt rest i := rfl

variable {α : Type}

lemma pure_apply (a : α) (remaining : Bytes) :
    (pure a : Deserializer α) remaining = some (a, remaining) := rfl

lemma bind_apply {α β : Type} (p : Deserializer α) (f : α → Deserializer β)
    (remaining : Bytes) :
    (p >>= f) remaining = (p remaining).bind fun result => f result.1 result.2 := rfl

variable {remaining : Bytes}

lemma bind_of_eq_some {α β : Type} {p : Deserializer α} {a : α} {rest : Bytes}
    (h : p remaining = some (a, rest)) (f : α → Deserializer β) :
    (p >>= f) remaining = f a rest := by
  rw [bind_apply, h, Option.bind_some]

lemma requireRemaining_apply (nofBytes : Nat) (remaining : Bytes) :
    requireRemaining nofBytes remaining =
      if remaining.length < nofBytes then none else some ((), remaining) := by
  change (if remaining.length < nofBytes then failure else
    pure () : Deserializer Unit) remaining = _
  split <;> rfl

lemma require_apply (condition : Prop) [Decidable condition] (remaining : Bytes) :
    require condition remaining = if condition then some ((), remaining) else none := by
  simp only [require]
  split <;> rfl

lemma readOneByte_bind (f : Nat → Deserializer α) (rest : Bytes) :
    (readOneByte >>= f) (value :: rest) = f value.toNat rest := rfl

lemma require_bind {condition : Prop} [Decidable condition] (h : condition)
    (f : Unit → Deserializer α) : (require condition >>= f) remaining = f () remaining := by
  rw [bind_apply, require_apply, if_pos h, Option.bind_some]

lemma exists_two_bytes (h : 2 ≤ remaining.length) :
    ∃ first second rest, remaining = first :: second :: rest := by
  match remaining, h with
  | first :: second :: rest, _ => exact ⟨first, second, rest, rfl⟩

lemma readTwoBytes_apply (h : 1 < remaining.length) : readTwoBytes remaining =
      some (byteAt remaining 0 <<< 8 ||| byteAt remaining 1, remaining.drop 2) := by
  obtain ⟨first, second, rest, rfl⟩ := exists_two_bytes h
  rfl

lemma requireRemaining_bind {nofBytes : Nat} {p : Deserializer α} {result : α × Bytes}
    (h : nofBytes ≤ remaining.length → p remaining = some result) :
    (requireRemaining nofBytes >>= fun _ => p) remaining =
      if remaining.length < nofBytes then none else some result := by
  rw [bind_apply, requireRemaining_apply]
  split
  · rfl
  · exact h (by omega)

lemma requireRemaining_bind_of {nofBytes : Nat} {remaining : Bytes}
    (h : nofBytes ≤ remaining.length) {α : Type} (f : Unit → Deserializer α) :
    (requireRemaining nofBytes >>= f) remaining = f () remaining := by
  rw [bind_apply, requireRemaining_apply, if_neg (by omega), Option.bind_some]

lemma readTwoBytes_short (h : remaining.length ≤ 1) : readTwoBytes remaining = none := by
  match remaining, h with
  | [], _ | [_], _ => rfl

lemma exists_four_bytes (h : 4 ≤ remaining.length) : ∃ first second third fourth rest,
      remaining = first :: second :: third :: fourth :: rest := by
  obtain ⟨first, second, rest, rfl⟩ := exists_two_bytes (Nat.le_trans (by decide) h)
  obtain ⟨third, fourth, rest, rfl⟩ :=
    exists_two_bytes (Nat.le_of_succ_le_succ (Nat.le_of_succ_le_succ h))
  exact ⟨first, second, third, fourth, rest, rfl⟩

lemma exists_six_bytes (h : 6 ≤ remaining.length) : ∃ first second third fourth fifth sixth rest,
      remaining = first :: second :: third :: fourth :: fifth :: sixth :: rest := by
  obtain ⟨first, second, rest, rfl⟩ := exists_two_bytes (Nat.le_trans (by decide) h)
  obtain ⟨third, fourth, fifth, sixth, rest, rfl⟩ :=
    exists_four_bytes (Nat.le_of_succ_le_succ (Nat.le_of_succ_le_succ h))
  exact ⟨first, second, third, fourth, fifth, sixth, rest, rfl⟩

end ProtoRu
