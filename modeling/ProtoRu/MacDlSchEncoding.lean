import ProtoRu.MacDlHarqBuffers
import ProtoRu.TransitionRuns
import Mathlib.Tactic.Ring

namespace ProtoRu.MacDlSch

open MacSubpduGrammar DlSchPdu List Option UInt8

lemma paddingLcid_isSdu : isSdu paddingLcid = false := rfl

def dlSch : LcidTable where
  valid := isValid
  sized := isSdu
  ceSize := sizeofCe
  padding_not_sized := paddingLcid_isSdu

section

lemma lcidOf_firstByte : ∀ fBit lcid, lcidOf (firstByte fBit lcid) = lcid := by
  decide +kernel

lemma fBitOf_firstByte : ∀ fBit lcid, fBitOf (firstByte fBit lcid) = fBit := by
  decide +kernel

lemma isValid_of_isSdu : ∀ lcid : Lcid, isSdu lcid → isValid lcid := by
  decide +kernel

lemma subheader_sdu {lcid : Lcid} (hsdu : isSdu lcid) {length : Nat} (hpos : 0 < length)
    (hlt : length < 2 ^ 16) : ∃ header, subheader (2 < macSduSubheaderSize length) lcid
        (macSduSubheaderSize length) length = some header ∧
      header.length = macSduSubheaderSize length ∧ Subheader dlSch header lcid length := by
  have hvalid (fBit : Bool) : dlSch.valid (lcidOf (firstByte fBit lcid)) := by
    rw [lcidOf_firstByte]
    exact isValid_of_isSdu lcid hsdu
  have hsized (fBit : Bool) : dlSch.sized (lcidOf (firstByte fBit lcid)) := by
    rwa [lcidOf_firstByte]
  have hbyte (x : Nat) : x &&& 0xff = x % 256 := Nat.and_two_pow_sub_one_eq_mod x 8
  rw [macSduSubheaderSize, if_neg (Nat.pos_iff_ne_zero.mp hpos)]
  split
  · refine ⟨_, rfl, rfl, ?_⟩
    have hlong := @Subheader.long dlSch _ (ofNat ((length &&& 0xff00) >>> 8))
      (ofNat (length &&& 0xff)) (hvalid true) (hsized true) (fBitOf_firstByte true lcid)
    have hhigh : (length &&& 0xff00) >>> 8 = length / 256 := by
      rw [Nat.shiftRight_and_distrib, show 0xff00 >>> 8 = 2 ^ 8 - 1 from rfl,
        Nat.and_two_pow_sub_one_eq_mod]
      omega
    have hlen : (ofNat ((length &&& 0xff00) >>> 8)).toNat <<< 8 |||
        ((ofNat (length &&& 0xff)).toNat &&& 0xff) = length := by
      rw [toNat_ofNat', toNat_ofNat', hbyte, hbyte, @shiftLeft_or_eq _ _ 8 (by omega)]
      omega
    rw [hlen, lcidOf_firstByte] at hlong
    exact hlong
  · refine ⟨_, rfl, rfl, ?_⟩
    have hshort := @Subheader.short dlSch _ (ofNat (length &&& 0xff)) (hvalid false)
      (hsized false) (fBitOf_firstByte false lcid)
    have hlen : (ofNat (length &&& 0xff)).toNat = length := by
      rw [hbyte, toNat_ofNat']
      omega
    rw [hlen, lcidOf_firstByte] at hshort
    exact hshort

lemma subheader_ce {lcid : Lcid} (hvalid : isValid lcid) (hfixed : isSdu lcid = false)
    (hother : lcid ≠ paddingLcid) :
    Subheader dlSch [firstByte false lcid] lcid (sizeofCe lcid) := by
  have hce := @Subheader.ce dlSch (firstByte false lcid)
  rw [lcidOf_firstByte] at hce
  exact hce hvalid hfixed hother

lemma subheader_padding (length : Nat) :
    Subheader dlSch [firstByte false paddingLcid] paddingLcid length := by
  have hpad := @Subheader.padding dlSch (firstByte false paddingLcid)
  exact hpad rfl length

end

variable {written : Bytes} (front room sdu rest : Bytes)

section

variable {bytes : Bytes} {enc : MacSduEncoder}

section

variable (front old back : Bytes) (hlen : old.length = bytes.length)

include hlen

lemma overwrite_append :
    overwrite (front ++ (old ++ back)) front.length bytes = some (front ++ (bytes ++ back)) := by
  rw [overwrite, if_pos (by simp only [length_append]; omega), take_left,
    ← drop_drop, drop_left, ← hlen, drop_left, append_assoc]

lemma push_append : push ⟨front ++ (old ++ back), front.length⟩ bytes =
      some ⟨(front ++ bytes) ++ back, (front ++ bytes).length⟩ := by
  rw [push, overwrite_append front old back hlen, map_some, append_assoc, length_append]

end

lemma push_eq (front free : Bytes) (hroom : bytes.length ≤ free.length) :
    push ⟨front ++ free, front.length⟩ bytes =
      some ⟨(front ++ bytes) ++ free.drop bytes.length, (front ++ bytes).length⟩ := by
  conv_lhs => rw [← take_append_drop bytes.length free]
  exact push_append front _ _ (length_take_of_le hroom)

lemma encodeFixed_eq (front free payload : Bytes) (lcid : Lcid) (payloadLen : Nat)
    (hroom : 1 + payload.length ≤ free.length) :
    ((encodeSubheader ⟨front ++ free, front.length⟩ false lcid 1 payloadLen).bind
        fun p => p.push payload) =
      some ⟨(front ++ ([firstByte false lcid] ++ payload)) ++ free.drop (1 + payload.length),
        (front ++ ([firstByte false lcid] ++ payload)).length⟩ := by
  have hsubheader : subheader false lcid 1 payloadLen = some [firstByte false lcid] := rfl
  have hfirst : [firstByte false lcid].length ≤ free.length :=
    (Nat.le_add_right 1 _).trans hroom
  have hrest : payload.length ≤ (free.drop [firstByte false lcid].length).length := by
    simp only [length_drop, length_cons, length_nil]
    omega
  rw [encodeSubheader, hsubheader, bind_some, push_eq front free hfirst,
    bind_some, push_eq _ _ hrest, drop_drop]
  simp only [append_assoc]
  rfl

lemma fillSduBuffer_eq (front free : Bytes)
    (hfits : enc.subhrLen + enc.maxSduSize ≤ free.length) (hwrit : written.length ≤ enc.maxSduSize)
    : fillSduBuffer ⟨front ++ free, front.length⟩ enc written =
      some ⟨front ++ (free.take enc.subhrLen ++
        (written ++ free.drop (enc.subhrLen + written.length))), front.length⟩ := by
  have hroom : (free.take enc.subhrLen).length = enc.subhrLen :=
    length_take_of_le (by omega)
  have hold : ((free.drop enc.subhrLen).take written.length).length = written.length := by
    rw [length_take_of_le]
    rw [length_drop]
    omega
  have hsplit : front ++ free = (front ++ free.take enc.subhrLen) ++
      ((free.drop enc.subhrLen).take written.length ++
        free.drop (enc.subhrLen + written.length)) := by
    rw [← drop_drop, take_append_drop, append_assoc, take_append_drop]
  have hplace : front.length + enc.subhrLen = (front ++ free.take enc.subhrLen).length := by
    rw [length_append, hroom]
  rw [fillSduBuffer, if_pos (by simp only [length_append]; omega)]
  rw [hsplit, hplace, overwrite_append _ _ _ hold, map_some, append_assoc]

lemma moveSdu_eq (hroom : room.length = enc.subhrLen)
    (hsubhr : enc.subhrLen = macSduSubheaderSize sdu.length ∨ enc.subhrLen = 3 ∧ macSduSubheaderSize
      sdu.length = 2) : ∃ room' rest', room'.length = macSduSubheaderSize sdu.length ∧
      room'.length + rest'.length = room.length + rest.length ∧
      moveSdu ⟨front ++ (room ++ (sdu ++ rest)), front.length⟩ enc sdu.length =
        some (⟨front ++ (room' ++ (sdu ++ rest')), front.length⟩,
          macSduSubheaderSize sdu.length) := by
  obtain hsame | ⟨hthree, htwo⟩ := hsubhr
  · refine ⟨room, rest, hroom.trans hsame, rfl, ?_⟩
    rw [moveSdu, if_neg (by rw [hsame]; exact not_not_intro rfl), hsame]
  rw [hthree] at hroom
  obtain ⟨r0, r1, r2, rfl⟩ := length_eq_three.mp hroom
  have hlen : ((r2 :: (sdu ++ rest)).take sdu.length).length = sdu.length := by
    rw [length_take_of_le]
    simp only [length_cons, length_append]
    omega
  have hdrop : (front ++ ([r0, r1, r2] ++ (sdu ++ rest))).drop (front.length + 2 + 1) =
      sdu ++ rest := by
    rw [Nat.add_assoc, ← drop_drop, drop_left]
    rfl
  have hsplit : front ++ ([r0, r1, r2] ++ (sdu ++ rest)) = (front ++ [r0, r1]) ++
      ((r2 :: (sdu ++ rest)).take sdu.length ++ (r2 :: (sdu ++ rest)).drop sdu.length) := by
    rw [take_append_drop, append_assoc]
    rfl
  have hplace : front.length + 2 = (front ++ [r0, r1]).length := by
    rw [length_append]
    rfl
  refine ⟨[r0, r1], (r2 :: (sdu ++ rest)).drop sdu.length, htwo.symm, ?_, ?_⟩
  · simp only [length_drop, length_cons, length_append, length_nil]
    omega
  · rw [moveSdu, if_pos (by rw [hthree, htwo]; decide)]
    simp only [hdrop, take_left]
    rw [hsplit, hplace, overwrite_append _ _ _ hlen, map_some, append_assoc, htwo]

lemma encodeSdu_spec (hsdu : isSdu enc.lcid) (hroom : room.length = enc.subhrLen)
    (hpos : 0 < sdu.length) (hmax : sdu.length ≤ enc.maxSduSize) (hlt : sdu.length < 2 ^ 16)
    (hsubhr : enc.subhrLen = macSduSubheaderSize enc.maxSduSize) :
    ∃ header back, Subheader dlSch header enc.lcid sdu.length ∧
      header.length + back.length = room.length + rest.length ∧
      header.length + sdu.length = macSduRequiredBytes sdu.length ∧
      encodeSdu ⟨front ++ (room ++ (sdu ++ rest)), front.length⟩ enc sdu.length =
        some (⟨(front ++ (header ++ sdu)) ++ back, (front ++ (header ++ sdu)).length⟩,
          macSduRequiredBytes sdu.length) := by
  obtain ⟨header, hhdr, hlen, hsubheader⟩ := subheader_sdu hsdu hpos hlt
  have hcases : enc.subhrLen = macSduSubheaderSize sdu.length ∨
      enc.subhrLen = 3 ∧ macSduSubheaderSize sdu.length = 2 := by
    rw [hsubhr, macSduSubheaderSize, macSduSubheaderSize]
    split_ifs <;> omega
  obtain ⟨room', rest', hroom', hrest', hmove⟩ := moveSdu_eq front room sdu rest hroom hcases
  refine ⟨header, rest', hsubheader, ?_, ?_, ?_⟩
  · rw [hlen, ← hroom', hrest']
  · rw [hlen, macSduRequiredBytes, Nat.add_comm]
  rw [encodeSdu, if_neg (by omega), hmove]
  simp only [bind_eq_bind, bind_some, encodeSubheader, hhdr]
  rw [push_append front room' (sdu ++ rest') (by rw [hroom', hlen])]
  simp only [bind_some, some.injEq, Prod.mk.injEq, mk.injEq, append_assoc, length_append, true_and]
  rw [macSduRequiredBytes]
  omega

end

variable {conRes : UeConResId} {sduBytesWritten : Nat}

section

def Grows (p q : DlSchPdu) : Prop :=
  q.pdu.length = p.pdu.length ∧ (p.byteOffset ≤ p.pdu.length → q.byteOffset ≤ q.pdu.length)

lemma Grows.refl (p : DlSchPdu) : Grows p p := ⟨rfl, id⟩

variable {p q : DlSchPdu} {bytes : Bytes} {lcid : Lcid} {enc : MacSduEncoder}

lemma Grows.trans {r : DlSchPdu} (h : Grows p q) (h' : Grows q r) : Grows p r :=
  ⟨h'.1.trans h.1, fun hin => h'.2 (h.2 hin)⟩

lemma length_of_overwrite {buffer after : Bytes} {offset : Nat}
    (h : overwrite buffer offset bytes = some after) :
    after.length = buffer.length ∧ offset + bytes.length ≤ buffer.length := by
  rw [overwrite] at h
  split at h
  · rename_i hin
    cases h
    simp only [length_append, length_take, length_drop]
    omega
  · cases h

lemma push_bounds (h : p.push bytes = some q) :
    q.pdu.length = p.pdu.length ∧ q.byteOffset = p.byteOffset + bytes.length ∧
      q.byteOffset ≤ q.pdu.length := by
  obtain ⟨after, hafter, rfl⟩ := map_eq_some_iff.mp h
  obtain ⟨hlen, hin⟩ := length_of_overwrite hafter
  refine ⟨hlen, rfl, ?_⟩
  rw [hlen]
  exact hin

section

variable {fBit : Bool} {headerLen payloadLen : Nat}

lemma encodeSubheader_bounds (h : p.encodeSubheader fBit lcid headerLen payloadLen = some q) :
    q.pdu.length = p.pdu.length ∧ q.byteOffset = p.byteOffset + headerLen ∧
      q.byteOffset ≤ q.pdu.length := by
  obtain ⟨header, hhdr, hpush⟩ := bind_eq_some_iff.mp h
  have hlen : header.length = headerLen := by
    unfold subheader at hhdr
    split at hhdr <;> cases hhdr <;> rfl
  rw [← hlen]
  exact push_bounds hpush

lemma grows_of_subheader_push
    (h : ((p.encodeSubheader fBit lcid headerLen payloadLen).bind fun p => p.push bytes) = some q) :
    Grows p q := by
  obtain ⟨middle, hhdr, hpush⟩ := bind_eq_some_iff.mp h
  obtain ⟨hlen, -, -⟩ := encodeSubheader_bounds hhdr
  obtain ⟨hlen', -, hin⟩ := push_bounds hpush
  exact ⟨hlen'.trans hlen, fun _ => hin⟩

end

lemma fillSduBuffer_bounds (h : p.fillSduBuffer enc written = some q) :
    Grows p q ∧ q.byteOffset + enc.subhrLen + enc.maxSduSize ≤ q.pdu.length := by
  rw [fillSduBuffer] at h
  split at h
  · rename_i hin
    obtain ⟨after, hafter, rfl⟩ := map_eq_some_iff.mp h
    obtain ⟨hlen, -⟩ := length_of_overwrite hafter
    refine ⟨⟨hlen, fun _ => ?_⟩, ?_⟩
    · rwa [hlen]
    · rwa [hlen]
  · cases h

lemma moveSdu_bounds {moved : DlSchPdu × Nat} (h : p.moveSdu enc sduBytesWritten = some moved)
    (hsubhr : enc.subhrLen = macSduSubheaderSize enc.maxSduSize) (hpos : 0 < enc.maxSduSize) :
    moved.1.pdu.length = p.pdu.length ∧ moved.1.byteOffset = p.byteOffset ∧
      moved.2 ≤ enc.subhrLen := by
  rw [moveSdu] at h
  split at h
  · obtain ⟨after, hafter, rfl⟩ := map_eq_some_iff.mp h
    refine ⟨(length_of_overwrite hafter).1, rfl, ?_⟩
    rw [hsubhr, macSduSubheaderSize]
    split_ifs <;> omega
  · cases h
    exact ⟨rfl, rfl, le_rfl⟩

lemma encodeSdu_bounds {added : DlSchPdu × Nat} (h : p.encodeSdu enc sduBytesWritten = some added)
    (hsubhr : enc.subhrLen = macSduSubheaderSize enc.maxSduSize)
    (hroom : p.byteOffset + enc.subhrLen + enc.maxSduSize ≤ p.pdu.length) : Grows p added.1 := by
  rw [encodeSdu] at h
  split at h
  · cases h
    exact .refl p
  obtain ⟨moved, hmoved, h⟩ := bind_eq_some_iff.mp h
  obtain ⟨headed, hheaded, h⟩ := bind_eq_some_iff.mp h
  cases h
  obtain ⟨hlen, hoff, hle⟩ := moveSdu_bounds hmoved hsubhr (by omega)
  obtain ⟨hlen', hoff', -⟩ := encodeSubheader_bounds hheaded
  refine ⟨hlen'.trans hlen, fun _ => ?_⟩
  simp only
  omega

variable {σ : Type} {rlc : Rlc σ}

lemma assembleSdu_grows {remBytes : Nat} {a : Assembly σ} {added : Assembly σ × Nat}
    (h : assembleSdu rlc lcid remBytes a = some added) : Grows a.pdu added.1.pdu := by
  rw [assembleSdu] at h
  split at h
  · cases h
    exact .refl _
  rename_i enc henc
  have hsubhr : enc.subhrLen = macSduSubheaderSize enc.maxSduSize := by
    rw [getSduEncoder] at henc
    split at henc
    · cases henc
    split at henc
    · cases henc
    cases henc
    rfl
  obtain ⟨filled, hfilled, h⟩ := bind_eq_some_iff.mp h
  obtain ⟨hgrows, hroom⟩ := fillSduBuffer_bounds hfilled
  split at h
  · cases h
    exact hgrows
  obtain ⟨encoded, hencd, rfl⟩ := map_eq_some_iff.mp h
  exact hgrows.trans (encodeSdu_bounds hencd hsubhr hroom)

lemma assembleSdusFrom_grows {rounds remBytes : Nat} {a after : Assembly σ}
    (h : assembleSdusFrom rlc lcid rounds remBytes a = some after) : Grows a.pdu after.pdu := by
  induction rounds generalizing remBytes a with
  | zero =>
    cases h
    exact .refl _
  | succ rounds ih =>
    rw [assembleSdusFrom] at h
    split at h
    · cases h
      exact .refl _
    obtain ⟨added, hadded, h⟩ := bind_eq_some_iff.mp h
    have hgrows := assembleSdu_grows hadded
    simp only at h
    split at h
    · cases h
      exact hgrows
    split at h
    · cases h
    exact hgrows.trans (ih h)

lemma assembleSubpdu_grows {a after : Assembly σ} {info : LcInfo}
    (h : assembleSubpdu rlc conRes a info = some after) : Grows a.pdu after.pdu := by
  rw [assembleSubpdu] at h
  split at h
  · exact assembleSdusFrom_grows h
  rw [assembleCe] at h
  split at h
  · obtain ⟨p, hp, rfl⟩ := map_eq_some_iff.mp h
    exact grows_of_subheader_push hp
  split at h
  · obtain ⟨ce, -, h⟩ := bind_eq_some_iff.mp h
    obtain ⟨p, hp, rfl⟩ := map_eq_some_iff.mp h
    exact grows_of_subheader_push hp
  · cases h

lemma assemble_fits {infos : List LcInfo} {buffer : Bytes} {state : σ}
    {result : Assembly σ × Bool} (h : assemble rlc conRes infos buffer state = some result) :
    result.2 = true := by
  obtain ⟨a, hfold, h⟩ := bind_eq_some_iff.mp h
  have hgrows : Grows ⟨buffer, 0⟩ a.pdu :=
    foldlM_invariant (fun b => Grows ⟨buffer, 0⟩ b.pdu) hfold (.refl _)
      fun _ _ _ _ hbefore hstep => hbefore.trans (assembleSubpdu_grows hstep)
  split_ifs at h with hmore
  · obtain ⟨p, -, rfl⟩ := map_eq_some_iff.mp h
    rfl
  cases h
  have hin : a.pdu.byteOffset ≤ a.pdu.pdu.length := hgrows.2 (Nat.zero_le _)
  rw [hgrows.1] at hin
  simp only [decide_eq_true_eq]
  exact Nat.le_antisymm hin (Nat.le_of_not_lt hmore)

end

end ProtoRu.MacDlSch
