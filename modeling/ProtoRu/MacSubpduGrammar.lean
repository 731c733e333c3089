import ProtoRu.NetworkOrderBytes
import ProtoRu.Tilings

namespace ProtoRu.MacSubpduGrammar

open Tilings List

abbrev Lcid := Fin 64

instance neZero_lcids : NeZero 64 := ⟨by decide⟩

def paddingLcid : Lcid := 63

/-- What is said about the LCIDs of a direction. Padding has no length. -/
structure LcidTable where
  valid : Lcid → Bool
  sized : Lcid → Bool
  ceSize : Lcid → Nat
  padding_not_sized : sized paddingLcid = false

lemma lcid_lt (first : UInt8) : first.toNat &&& 0x3f < 64 :=
  Nat.lt_succ_of_le Nat.and_le_right

def lcidOf (first : UInt8) : Lcid := ⟨first.toNat &&& 0x3f, lcid_lt first⟩

def fBitOf (first : UInt8) : Bool := first.toNat &&& 0x40 ≠ 0

inductive Subheader (table : LcidTable) : Bytes → Lcid → Nat → Prop
  | short {first length : UInt8} (hvalid : table.valid (lcidOf first))
      (hsized : table.sized (lcidOf first)) (hfBit : fBitOf first = false) :
      Subheader table [first, length] (lcidOf first) length.toNat
  | long {first high low : UInt8} (hvalid : table.valid (lcidOf first))
      (hsized : table.sized (lcidOf first)) (hfBit : fBitOf first = true) :
      Subheader table [first, high, low] (lcidOf first) (high.toNat <<< 8 ||| (low.toNat &&& 0xff))
  | ce {first : UInt8} (hvalid : table.valid (lcidOf first))
      (hfixed : table.sized (lcidOf first) = false) (hother : lcidOf first ≠ paddingLcid) :
      Subheader table [first] (lcidOf first) (table.ceSize (lcidOf first))
  | padding {first : UInt8} (hpadding : lcidOf first = paddingLcid) (length : Nat) :
      Subheader table [first] (lcidOf first) length

variable {table : LcidTable}

lemma Subheader.length_pos {header : Bytes} {lcid : Lcid}
    {length : Nat} (h : Subheader table header lcid length) : 0 < header.length := by
  cases h with
  | short | long | ce | padding => exact Nat.succ_pos _

lemma Subheader.unique {header header' rest rest' : Bytes} {lcid lcid' : Lcid}
    {length length' : Nat} (h : Subheader table header lcid length)
    (h' : Subheader table header' lcid' length')
    (heq : header ++ rest = header' ++ rest') :
    header = header' ∧ lcid = lcid' ∧ (lcid ≠ paddingLcid → length = length') := by
  have hpad := table.padding_not_sized
  cases h <;> cases h' <;> obtain rfl := head_eq_of_cons_eq heq
  case short.short =>
    obtain ⟨-, rfl, -⟩ := heq
    exact ⟨rfl, rfl, fun _ => rfl⟩
  case long.long =>
    obtain ⟨-, rfl, rfl, -⟩ := heq
    exact ⟨rfl, rfl, fun _ => rfl⟩
  case ce.ce => exact ⟨rfl, rfl, fun _ => rfl⟩
  case padding.padding hpadding _ => exact ⟨rfl, rfl, fun hother => absurd hpadding hother⟩
  -- The first byte tells the other pairs apart.
  all_goals simp_all

structure Subpdu where
  lcid : Lcid
  payload : Bytes

def Encodes (table : LcidTable) (bytes : Bytes) (s : Subpdu) : Prop :=
  ∃ header, Subheader table header s.lcid s.payload.length ∧ bytes = header ++ s.payload

def Parses (table : LcidTable) (pdu : Bytes) (subpdus : List Subpdu) : Prop :=
  Tiles (Encodes table) (fun s => s.lcid = paddingLcid) pdu subpdus []

lemma Parses.unique {pdu : Bytes} {subpdus others : List Subpdu}
    (h : Parses table pdu subpdus) (h' : Parses table pdu others) : subpdus = others := by
  apply Tiles.unique _ _ h h'
  · rintro front tile ⟨header, hhdr, rfl⟩
    rw [length_append]
    exact Nat.add_pos_left hhdr.length_pos _
  rintro front front' middle middle' ⟨lcid, payload⟩ ⟨lcid', payload'⟩ ⟨header, hhdr, rfl⟩
    ⟨header', hhdr', rfl⟩ hlast hlast' heq
  simp only [append_assoc] at heq
  obtain ⟨rfl, rfl, hlen⟩ := hhdr.unique hhdr' heq
  have hpay := append_cancel_left heq
  by_cases hpad : lcid = paddingLcid
  · rw [hlast hpad, hlast' hpad, append_nil, append_nil] at hpay
    rw [hlast hpad, hlast' hpad]
    rw [hpay]
    exact ⟨rfl, rfl⟩
  · obtain ⟨hpay, hmiddle⟩ := append_inj hpay (hlen hpad)
    rw [hpay, hmiddle]
    exact ⟨rfl, rfl⟩

end ProtoRu.MacSubpduGrammar
