import ProtoRu.RlcAmPdus

namespace ProtoRu.Rlc

open List UInt8 Nat StatusPdu

lemma toNat_ofNat_of_lt {value : Nat} (h : value < 256) : (ofNat value).toNat = value := by
  exact mod_eq_of_lt h

lemma and_255 (value : Nat) : value &&& 0xff = value % 256 :=
  and_two_pow_sub_one_eq_mod value 8

lemma toNat_ofNat_and (value : Nat) : (ofNat (value &&& 0xff)).toNat = value % 256 := by
  rw [and_255]
  exact toNat_ofNat_of_lt (Nat.mod_lt _ (by decide))

lemma join_two (value b : Nat) : (value / 2 ^ b) <<< b ||| value % 2 ^ b = value := by
  rw [shiftLeft_or_eq (Nat.mod_lt _ (Nat.two_pow_pos b)), Nat.div_add_mod']

lemma join_three (value a b : Nat) : (value / 2 ^ (b + a)) <<< (a + b) |||
    (value / 2 ^ b % 2 ^ a) <<< b ||| value % 2 ^ b = value := by
  rw [Nat.shiftLeft_add, ← Nat.shiftLeft_or_distrib, Nat.pow_add, ← Nat.div_div_eq_div_mul,
    join_two, join_two]

lemma shiftLeft_and_mask (value width count : Nat) :
    value <<< width &&& (2 ^ count - 1) <<< width = (value % 2 ^ count) <<< width := by
  rw [← shiftLeft_and_distrib, and_two_pow_sub_one_eq_mod]

variable {byte : Nat}

lemma firstByte_12 (p : Bool) (si : SiField) (high : Fin 16)
    (hbyte : byte = 1 <<< 7 ||| p.toNat <<< 6 ||| (si.toNumber &&& 0x03) <<< 4 ||| high.val) :
    byte < 256 ∧ byte &&& 0x0f = high ∧ decide (byte >>> 6 &&& 0x01 = 1) = p ∧
      SiField.ofNumber (byte >>> 4 &&& 0x03) = si ∧ byte >>> 7 &&& 0x01 = 1 := by
  subst hbyte
  cases p <;> cases si <;> revert high <;> decide

lemma firstByte_18 (p : Bool) (si : SiField) (high : Fin 4)
    (hbyte : byte = 1 <<< 7 ||| p.toNat <<< 6 ||| (si.toNumber &&& 0x03) <<< 4 ||| high.val) :
    byte &&& 0x03 = high ∧ byte &&& 0x0c = 0 := by
  subst hbyte
  cases p <;> cases si <;> revert high <;> decide

structure Writable (snSize : SnSize) (header : PduHeader) : Prop where
  sn_lt : header.sn < snSize.cardinality
  so_lt : header.so < 2 ^ 16
  hasOffset : header.si.hasOffset = decide (header.so ≠ 0)

variable {snSize : SnSize} {header : PduHeader} {nack : Nack}

lemma length_writeDataPduHeader (hwable : Writable snSize header) :
    (writeDataPduHeader snSize header).length = header.packedSize snSize := by
  rw [PduHeader.packedSize, hwable.hasOffset]
  by_cases hso : header.so = 0 <;> cases snSize <;> simp [writeDataPduHeader, hso] <;> rfl

lemma readSn_write (hsn : header.sn < snSize.cardinality) (rest : Bytes) :
    ∃ first : UInt8, first.toNat >>> 7 &&& 0x01 = 1 ∧
      decide (first.toNat >>> 6 &&& 0x01 = 1) = header.p ∧
      SiField.ofNumber (first.toNat >>> 4 &&& 0x03) = header.si ∧
      readSn snSize (writeDataPduHeader snSize { header with so := 0 } ++ rest) =
        some ((first.toNat, header.sn), rest) ∧
      (writeDataPduHeader snSize { header with so := 0 }).head? = some first := by
  obtain ⟨p, si, sn, so⟩ := header
  cases snSize with
  | size12bits =>
    have hlt : sn < 4096 := hsn
    have hhigh : sn >>> 8 &&& 0x0f = sn / 256 := by
      rw [and_two_pow_sub_one_eq_mod _ 4]
      omega
    obtain ⟨hbyte, hlow, hp, hsi, hdc⟩ := firstByte_12 p si ⟨sn / 256, by omega⟩ rfl
    refine ⟨ofNat (headerFlags { p, si, sn, so := 0 } ||| (sn >>> 8 &&& 0x0f)), ?_⟩
    simp only [headerFlags, hhigh, toNat_ofNat_of_lt hbyte]
    refine ⟨hdc, hp, hsi, ?_, by simp only [writeDataPduHeader, headerFlags, hhigh]; rfl⟩
    simp only [writeDataPduHeader, headerFlags, hhigh, ne_eq, not_true_eq_false, if_false,
      append_nil, cons_append, nil_append, readSn]
    rw [readOneByte_bind, readOneByte_bind,
      pure_apply, toNat_ofNat_of_lt hbyte, hlow, toNat_ofNat_and, and_255, mod_mod]
    have hjoin : (sn / 256) <<< 8 ||| sn % 256 = sn := join_two sn 8
    simp only [hjoin]
  | size18bits =>
    have hlt : sn < 262144 := hsn
    have hhigh : sn >>> 16 &&& 0x3 = sn / 65536 := by
      rw [and_two_pow_sub_one_eq_mod _ 2]
      omega
    have hmiddle : sn >>> 8 = sn / 256 := shiftRight_eq_div_pow sn 8
    obtain ⟨hbyte, -, hp, hsi, hdc⟩ := firstByte_12 p si ⟨sn / 65536, by omega⟩ rfl
    obtain ⟨hlow, hzero⟩ := firstByte_18 p si ⟨sn / 65536, by omega⟩ rfl
    refine ⟨ofNat (headerFlags { p, si, sn, so := 0 } ||| (sn >>> 16 &&& 0x3)), ?_⟩
    simp only [headerFlags, hhigh, toNat_ofNat_of_lt hbyte]
    refine ⟨hdc, hp, hsi, ?_, by simp only [writeDataPduHeader, headerFlags, hhigh]; rfl⟩
    simp only [writeDataPduHeader, headerFlags, hhigh, ne_eq, not_true_eq_false, if_false,
      append_nil, cons_append, nil_append, readSn]
    rw [readOneByte_bind, toNat_ofNat_of_lt hbyte,
      require_bind hzero, readOneByte_bind,
      readOneByte_bind, pure_apply, hlow, hmiddle, toNat_ofNat_and,
      and_255, and_255, UInt8.toNat_ofNat', mod_mod, mod_mod]
    have hjoin : (sn / 65536) <<< 16 ||| (sn / 256 % 256) <<< 8 ||| sn % 256 = sn :=
      join_three sn 8 8
    simp only [hjoin]

lemma readTwoBytes_write {value : Nat} (hvalue : value < 2 ^ 16) (rest : Bytes) :
    readTwoBytes (ofNat (value >>> 8) :: ofNat value :: rest) = some (value, rest) := by
  rw [readTwoBytes, readOneByte_bind, readOneByte_bind,
    pure_apply, toNat_ofNat_of_lt (by omega), UInt8.toNat_ofNat',
    shiftLeft_or_eq (Nat.mod_lt _ (by decide))]
  simp only [Option.some.injEq, Prod.mk.injEq, and_true]
  omega

lemma writeDataPduHeader_eq (snSize : SnSize) (header : PduHeader) :
    writeDataPduHeader snSize header = writeDataPduHeader snSize { header with so := 0 } ++
      if header.so ≠ 0 then [ofNat (header.so >>> 8), ofNat header.so] else [] := by
  have hbyte : ofNat (header.so &&& 0xff) = ofNat header.so := by
    apply UInt8.toNat_inj.mp
    rw [toNat_ofNat_and, UInt8.toNat_ofNat']
  cases snSize <;> simp only [writeDataPduHeader, headerFlags, hbyte, ne_eq, not_true_eq_false,
    if_false, append_nil]

lemma readDataPduHeader_write (hwable : Writable snSize header) {payload : Bytes}
    (hpay : payload ≠ []) :
    readDataPduHeader snSize (writeDataPduHeader snSize header ++ payload) = some header := by
  have hlen : ¬(writeDataPduHeader snSize header ++ payload).length ≤
      snSize.pduHeaderMinSize := by
    have hpos := length_pos_iff.mpr hpay
    have hsize : snSize.pduHeaderMinSize ≤ header.packedSize snSize := by
      rw [PduHeader.packedSize, SnSize.pduHeaderMaxSize]
      split <;> omega
    rw [length_append, length_writeDataPduHeader hwable]
    omega
  obtain ⟨first, -, hp, hsi, hread, -⟩ := readSn_write hwable.sn_lt
    ((if header.so ≠ 0 then [ofNat (header.so >>> 8), ofNat header.so] else []) ++
      payload)
  have hso : readSo header.si.hasOffset
      ((if header.so ≠ 0 then [ofNat (header.so >>> 8), ofNat header.so] else []) ++
        payload) = some (header.so, payload) := by
    rw [hwable.hasOffset]
    by_cases hzero : header.so = 0
    · simp only [hzero, ne_eq, not_true_eq_false, decide_false, if_false, nil_append]
      rfl
    · simp only [ne_eq, hzero, not_false_eq_true, decide_true, if_true, cons_append,
        nil_append]
      exact readTwoBytes_write hwable.so_lt payload
  rw [readDataPduHeader, if_neg hlen, writeDataPduHeader_eq, append_assoc,
    readHeaderFields, bind_of_eq_some hread]
  simp only [hsi]
  rw [bind_of_eq_some hso, hp]
  rfl

/-- The fields that a NACK does not announce are lost on the way. -/
def transmitted (nack : Nack) : Nack where
  nackSn := nack.nackSn
  hasSo := nack.hasSo
  soStart := if nack.hasSo then nack.soStart else 0
  soEnd := if nack.hasSo then nack.soEnd else soEndOfSdu
  hasNackRange := nack.hasNackRange
  nackRange := if nack.hasNackRange then nack.nackRange else 0

lemma nackByte_12 (low : Fin 16) (e1 e2 e3 : Bool)
    (hbyte : byte = low.val <<< 4 ||| (e1.toNat <<< 2 ||| e2.toNat <<< 1 ||| e3.toNat) <<< 1) :
    byte < 256 ∧ byte &&& 0x01 = 0 ∧ (byte &&& 0xf0) >>> 4 = low ∧
      decide (byte &&& 0x08 ≠ 0) = e1 ∧ decide (byte &&& 0x04 ≠ 0) = e2 ∧
      decide (byte &&& 0x02 ≠ 0) = e3 := by
  subst hbyte
  cases e1 <;> cases e2 <;> cases e3 <;> revert low <;> decide

lemma nackByte_18 (low : Fin 4) (e1 e2 e3 : Bool)
    (hbyte : byte = low.val <<< 6 ||| (e1.toNat <<< 2 ||| e2.toNat <<< 1 ||| e3.toNat) <<< 3) :
    byte < 256 ∧ byte &&& 0x07 = 0 ∧ (byte &&& 0xc0) >>> 6 = low ∧
      decide (byte &&& 0x20 ≠ 0) = e1 ∧ decide (byte &&& 0x10 ≠ 0) = e2 ∧
      decide (byte &&& 0x08 ≠ 0) = e3 := by
  subst hbyte
  cases e1 <;> cases e2 <;> cases e3 <;> revert low <;> decide

lemma readNackSn_pack (hsn : nack.nackSn < snSize.cardinality) (more : Bool) (rest : Bytes) :
    readNackSn snSize (packNack snSize more nack ++ rest) =
      some ((nack.nackSn, more, nack.hasSo, nack.hasNackRange),
        packNackExtensions nack ++ rest) := by
  generalize hvalue : nack.nackSn = sn at hsn
  cases snSize with
  | size12bits =>
    have hlt : sn < 4096 := hsn
    have hhigh : sn >>> 4 = sn / 16 := shiftRight_eq_div_pow sn 4
    have hmask : sn &&& 0x0f = sn % 16 := and_two_pow_sub_one_eq_mod sn 4
    have hjoin : (sn / 16 % 256) <<< 4 ||| sn % 16 = sn := by
      rw [mod_eq_of_lt (by omega)]
      exact join_two sn 4
    obtain ⟨hbyte, hzero, hlow, he1, he2, he3⟩ := nackByte_12 ⟨sn % 16, Nat.mod_lt _ (by decide)⟩
      more nack.hasSo nack.hasNackRange rfl
    simp only [packNack, extensionFlags, hvalue, hhigh, hmask, cons_append,
      nil_append, readNackSn]
    rw [requireRemaining_bind_of (by simp), readOneByte_bind,
      readOneByte_bind, toNat_ofNat_of_lt hbyte,
      require_bind hzero, pure_apply, hlow, he1, he2, he3, toNat_ofNat_and,
      and_255, mod_mod]
    simp [hjoin]
  | size18bits =>
    have hlt : sn < 262144 := hsn
    have hhigh : sn >>> 10 = sn / 1024 := shiftRight_eq_div_pow sn 10
    have hmiddle : sn >>> 2 = sn / 4 := shiftRight_eq_div_pow sn 2
    have hmask : sn <<< 6 &&& 0xc0 = (sn % 4) <<< 6 := shiftLeft_and_mask sn 6 2
    have hjoin : (sn / 1024 % 256) <<< 10 ||| (sn / 4 % 256) <<< 2 ||| sn % 4 = sn := by
      rw [@mod_eq_of_lt (sn / 1024) _ (by omega)]
      exact join_three sn 8 2
    obtain ⟨hbyte, hzero, hlow, he1, he2, he3⟩ := nackByte_18 ⟨sn % 4, Nat.mod_lt _ (by decide)⟩
      more nack.hasSo nack.hasNackRange rfl
    simp only [packNack, extensionFlags, hvalue, hhigh, hmiddle, hmask, cons_append,
      nil_append, readNackSn]
    rw [requireRemaining_bind_of (by simp), readOneByte_bind,
      readOneByte_bind, readOneByte_bind,
      toNat_ofNat_of_lt hbyte, require_bind hzero, pure_apply, hlow, he1, he2,
      he3, toNat_ofNat_and, toNat_ofNat_and, and_255, and_255, mod_mod, mod_mod]
    simp [hjoin]

lemma readNackOffsets_pack (hstart : nack.soStart < 2 ^ 16) (hend : nack.soEnd < 2 ^ 16)
    (rest : Bytes) :
    readNackOffsets { nackSn := nack.nackSn } nack.hasSo
        ((if nack.hasSo then
          [ofNat (nack.soStart >>> 8), ofNat nack.soStart,
            ofNat (nack.soEnd >>> 8), ofNat nack.soEnd]
        else []) ++ rest) =
      some ({ transmitted nack with hasNackRange := false, nackRange := 0 }, rest) := by
  cases hso : nack.hasSo with
  | false => simp [readNackOffsets, pure_apply, transmitted, hso]
  | true =>
    simp only [if_true, cons_append, nil_append, readNackOffsets]
    rw [requireRemaining_bind_of (by simp),
      bind_of_eq_some (readTwoBytes_write hstart _), bind_of_eq_some (readTwoBytes_write hend _),
      pure_apply]
    simp [transmitted, hso]

lemma readNackRange_pack (hrange : nack.nofSdus ≤ 255) (rest : Bytes) :
    readNackRange { transmitted nack with hasNackRange := false, nackRange := 0 }
        nack.hasNackRange
        ((if nack.hasNackRange then [ofNat nack.nackRange] else []) ++ rest) =
      some (transmitted nack, rest) := by
  cases hflag : nack.hasNackRange with
  | false => simp [readNackRange, pure_apply, transmitted, hflag]
  | true =>
    rw [Nack.nofSdus, hflag, if_pos rfl] at hrange
    simp only [if_true, cons_append, nil_append, readNackRange]
    rw [requireRemaining_bind_of (by simp), readOneByte_bind,
      pure_apply, toNat_ofNat_of_lt (by omega)]
    simp [transmitted, hflag]

lemma readNack_pack (hnack : nack.Encodable snSize) (more : Bool) (rest : Bytes) :
    readNack snSize (packNack snSize more nack ++ rest) =
      some ((transmitted nack, more), rest) := by
  rw [readNack, bind_of_eq_some (readNackSn_pack hnack.nackSn_lt more rest), packNackExtensions,
    append_assoc]
  simp only
  rw [bind_of_eq_some (readNackOffsets_pack hnack.soStart_lt hnack.soEnd_lt _),
    bind_of_eq_some (readNackRange_pack hnack.nofSdus_le rest), pure_apply]

lemma readNacks_pack {nacks : List Nack} (hnacks : ∀ nack ∈ nacks, nack.Encodable snSize)
    {rounds : Nat} (hrounds : nacks.length ≤ rounds) (before : List Nack) (rest : Bytes) :
    readNacks snSize rounds (!nacks.isEmpty) before (packNacks snSize nacks ++ rest) =
      some ((nacks.map transmitted).foldl (pushNack snSize) before, rest) := by
  induction nacks generalizing rounds before with
  | nil => cases rounds <;> rfl
  | cons nack others ih =>
    cases rounds with
    | zero => simp at hrounds
    | succ rounds =>
      rw [packNacks, append_assoc, isEmpty_cons, Bool.not_false, readNacks,
        bind_of_eq_some (readNack_pack (hnacks nack (by simp)) _ _)]
      simp only
      rw [ih (fun other hother => hnacks other (by simp [hother]))
        (by simpa using hrounds)]
      rfl

lemma ackByte_18 (low : Fin 64) (e1 : Bool) (hbyte : byte = low.val <<< 2 ||| e1.toNat <<< 1) :
    byte < 256 ∧ byte &&& 0x01 = 0 ∧ (byte &&& 0xfc) >>> 2 = low ∧
      decide (byte &&& 0x02 ≠ 0) = e1 := by
  subst hbyte
  cases e1 <;> revert low <;> decide

lemma upperAckBits (high : Fin 16) :
    high.val >>> 7 &&& 0x01 = 0 ∧ high.val >>> 4 &&& 0x07 = 0 ∧ high.val &&& 0x0f = high := by
  revert high
  decide

lemma readAckSn_pack {status : StatusPdu} (hack : status.ackSn < snSize.cardinality) :
    readAckSn snSize (status.pack snSize) =
      some ((status.ackSn, !status.nacks.isEmpty), packNacks snSize status.nacks) := by
  generalize hvalue : status.ackSn = sn at hack
  cases snSize with
  | size12bits =>
    have hlt : sn < 4096 := hack
    have hhigh : sn >>> 8 &&& 0x0f = sn / 256 := by
      rw [and_two_pow_sub_one_eq_mod _ 4]
      omega
    have hjoin : (sn / 256) <<< 8 ||| sn % 256 = sn := join_two sn 8
    obtain ⟨hdc, hcpt, hmask⟩ := upperAckBits ⟨sn / 256, by omega⟩
    simp only [pack, hvalue, hhigh, cons_append, nil_append, readAckSn]
    rw [requireRemaining_bind_of (by simp [sizeofHeaderAckSn]),
      readOneByte_bind, toNat_ofNat_of_lt (by omega),
      require_bind hdc, require_bind hcpt,
      readOneByte_bind, hmask, toNat_ofNat_and, and_255, mod_mod]
    simp only [hjoin]
    cases status.nacks.isEmpty <;> rfl
  | size18bits =>
    have hlt : sn < 262144 := hack
    have hhigh : sn >>> 14 &&& 0x0f = sn / 16384 := by
      rw [and_two_pow_sub_one_eq_mod _ 4]
      omega
    have hmiddle : sn >>> 6 = sn / 64 := shiftRight_eq_div_pow sn 6
    have hmask : sn <<< 2 &&& 0xfc = (sn % 64) <<< 2 := shiftLeft_and_mask sn 2 6
    have hjoin : (sn / 16384) <<< 14 ||| (sn / 64 % 256) <<< 6 ||| sn % 64 = sn :=
      join_three sn 8 6
    obtain ⟨hdc, hcpt, hupper⟩ := upperAckBits ⟨sn / 16384, by omega⟩
    obtain ⟨hbyte, hzero, hlow, he1⟩ :=
      ackByte_18 ⟨sn % 64, Nat.mod_lt _ (by decide)⟩ (!status.nacks.isEmpty) rfl
    simp only [pack, hvalue, hhigh, hmiddle, hmask, cons_append, nil_append,
      readAckSn]
    rw [requireRemaining_bind_of (by simp [sizeofHeaderAckSn]),
      readOneByte_bind, toNat_ofNat_of_lt (by omega),
      require_bind hdc, require_bind hcpt,
      readOneByte_bind, readOneByte_bind,
      toNat_ofNat_of_lt hbyte, require_bind hzero, pure_apply, hupper, hlow,
      he1, toNat_ofNat_and, and_255, mod_mod]
    simp [hjoin]

lemma length_le_packNacks (snSize : SnSize) (nacks : List Nack) :
    nacks.length ≤ (packNacks snSize nacks).length := by
  induction nacks with
  | nil => exact le_rfl
  | cons nack rest ih =>
    have hpos : 0 < (packNack snSize (!rest.isEmpty) nack).length := by
      cases snSize <;> simp [packNack]
    rw [packNacks, length_append, length_cons]
    omega

/-- A status PDU is read back, with its NACKs merged where that is possible. -/
lemma unpack_pack {status : StatusPdu} (hstatus : status.Encodable snSize) :
    StatusPdu.unpack snSize (status.pack snSize) =
      some { ackSn := status.ackSn
             nacks := (status.nacks.map transmitted).foldl (pushNack snSize) [] } := by
  have hrounds : status.nacks.length ≤ (status.pack snSize).length := by
    have hle := length_le_packNacks snSize status.nacks
    cases snSize <;> simp only [pack, length_append] <;> omega
  have hnacks := readNacks_pack hstatus.nacks hrounds [] []
  rw [append_nil] at hnacks
  rw [unpack, readStatus, bind_of_eq_some (readAckSn_pack hstatus.ackSn_lt)]
  simp only
  rw [bind_of_eq_some hnacks]
  rfl

end ProtoRu.Rlc
