import ProtoRu.MacDlSchEncoding

namespace ProtoRu.MacDlSch

open MacSubpduGrammar List Nat Option UInt8 DlSchPdu

def content (s : Subpdu) : Content :=
  if isSdu s.lcid then .sdu s.lcid s.payload
  else if s.lcid = ueConResId then .ueConResId s.payload
  else if s.lcid = taCmd then
    .taCmd ((s.payload.getD 0 0).toNat >>> 6) ((s.payload.getD 0 0).toNat &&& 0x3f)
  else if s.lcid = paddingLcid then .padding
  else .other

/-- What becomes of a content on its way: of a TAG, only the upper two bits are kept. -/
def received : Content → Content
  | .taCmd tagId cmd => .taCmd (tagId >>> 6) (cmd &&& 0x3f)
  | c => c

def Encoded {σ : Type} (a : Assembly σ) (size used : Nat) : Prop :=
  ∃ front free tiles, a.pdu = ⟨front ++ free, front.length⟩ ∧ front.length = used ∧
    used + free.length = size ∧ Parses dlSch front tiles ∧
    (∀ tile ∈ tiles, tile.lcid ≠ paddingLcid) ∧ tiles.map content = a.contents.map received

section

lemma macSduPayloadSize_required {payload : Nat} :
    macSduPayloadSize (macSduRequiredBytes payload) = payload := by
  rw [macSduPayloadSize, macSduRequiredBytes, macSduSubheaderSize]
  split_ifs <;> omega

lemma macSduRequiredBytes_payload_le (size : Nat) :
    macSduRequiredBytes (macSduPayloadSize size) ≤ size := by
  rw [macSduPayloadSize, macSduRequiredBytes, macSduSubheaderSize]
  split_ifs <;> omega

lemma macSduPayloadSize_pos {size : Nat} (hsize : 3 ≤ size) : 0 < macSduPayloadSize size := by
  rw [macSduPayloadSize]
  split_ifs <;> omega

lemma macSduRequiredBytes_mono {payload larger : Nat} (hle : payload ≤ larger) :
    macSduRequiredBytes payload ≤ macSduRequiredBytes larger := by
  rw [macSduRequiredBytes, macSduRequiredBytes, macSduSubheaderSize, macSduSubheaderSize]
  split_ifs <;> omega

lemma three_le_minMacSubhdrAndSduSpaceRequired (lcid : Lcid) :
    3 ≤ minMacSubhdrAndSduSpaceRequired lcid := Nat.le_add_right 3 _

lemma getSduEncoder_eq (p : DlSchPdu) (lcid : Lcid) {remBytes : Nat}
    (hmin : minMacSubhdrAndSduSpaceRequired lcid ≤ remBytes) (hrem : remBytes ≤ p.nofEmptyBytes) :
    p.getSduEncoder lcid (macSduPayloadSize remBytes) =
      some ⟨lcid, macSduSubheaderSize (macSduPayloadSize remBytes),
        macSduPayloadSize remBytes⟩ := by
  have hthree := (three_le_minMacSubhdrAndSduSpaceRequired lcid).trans hmin
  have hpos := macSduPayloadSize_pos hthree
  have hle := macSduRequiredBytes_payload_le remBytes
  rw [getSduEncoder, if_neg (Nat.pos_iff_ne_zero.mp hpos), if_neg (by omega)]
  simp only
  rw [Nat.min_eq_right (hle.trans hrem), macSduPayloadSize_required]

end

variable {lcid : Lcid} (tagId : UInt8) {contents : List Content} (cmd : Nat)

section

variable {σ : Type} {size used : Nat} {c : Content}

lemma encoded_snoc (front : Bytes) {tiles : List Subpdu} (hused : front.length = used)
    (hparses : Parses dlSch front tiles) (hopen : ∀ tile ∈ tiles, tile.lcid ≠ paddingLcid)
    (hconts : tiles.map content = contents.map received) {header : Bytes} {s : Subpdu}
    (hhdr : Subheader dlSch header s.lcid s.payload.length) (hother : s.lcid ≠ paddingLcid)
    {back : Bytes} (hsize : used + (header.length + s.payload.length) + back.length = size)
    (hc : content s = received c) (state : σ) :
    Encoded ⟨⟨(front ++ (header ++ s.payload)) ++ back, (front ++ (header ++ s.payload)).length⟩,
      state, contents ++ [c]⟩ size (used + (header.length + s.payload.length)) := by
  refine ⟨front ++ (header ++ s.payload), back, tiles ++ [s], rfl, ?_, hsize, ?_, ?_, ?_⟩
  · rw [length_append, length_append, hused]
  · exact hparses.snoc hopen ⟨header, hhdr, rfl⟩
  · exact forall_mem_append.mpr ⟨hopen, forall_mem_singleton.mpr hother⟩
  · rw [map_append, map_append, hconts, map_singleton, map_singleton, hc]

def AddsSdus (lcid : Lcid) (a after : Assembly σ) : Prop :=
  ∃ sdus, after.contents = a.contents ++ sdus ∧ ∀ c ∈ sdus, ∃ bytes, c = .sdu lcid bytes

variable {a : Assembly σ}

lemma AddsSdus.refl (lcid : Lcid) {after : Assembly σ} (h : after.contents = a.contents) :
    AddsSdus lcid a after :=
  ⟨[], by rw [h, append_nil], nofun⟩

lemma AddsSdus.trans {middle after : Assembly σ} (h : AddsSdus lcid a middle)
    (h' : AddsSdus lcid middle after) : AddsSdus lcid a after := by
  obtain ⟨sdus, hsdus, hall⟩ := h
  obtain ⟨sdus', hsdus', hall'⟩ := h'
  exact ⟨sdus ++ sdus', by rw [hsdus', hsdus, append_assoc],
    forall_mem_append.mpr ⟨hall, hall'⟩⟩

variable (rlc : Rlc σ)

lemma assembleSdu_spec (hsdu : isSdu lcid) {remBytes : Nat} (h : Encoded a size used)
    (hmin : minMacSubhdrAndSduSpaceRequired lcid ≤ remBytes) (hrem : used + remBytes ≤ size)
    (hlt : macSduPayloadSize remBytes < 2 ^ 16) :
    ∃ after added, assembleSdu rlc lcid remBytes a = some (after, added) ∧ added ≤ remBytes ∧
      Encoded after size (used + added) ∧ AddsSdus lcid a after := by
  obtain ⟨front, free, tiles, hpdu, hused, hsize, hparses, hopen, hconts⟩ := h
  have hthree := (three_le_minMacSubhdrAndSduSpaceRequired lcid).trans hmin
  have hle := macSduRequiredBytes_payload_le remBytes
  have hempty : remBytes ≤ a.pdu.nofEmptyBytes := by
    rw [hpdu, nofEmptyBytes]
    simp only [length_append]
    omega
  rw [assembleSdu, getSduEncoder_eq a.pdu lcid hmin hempty]
  simp only
  have hwrit := rlc.written_le a.rlc lcid (macSduPayloadSize remBytes)
  have hlen := rlc.length_le a.rlc lcid (macSduPayloadSize remBytes)
  generalize rlc.onNewTxSdu a.rlc lcid (macSduPayloadSize remBytes) = pulled at hwrit hlen ⊢
  generalize hmax : macSduPayloadSize remBytes = maxSduSize at hle hlt hwrit ⊢
  rw [macSduRequiredBytes] at hle
  rw [hpdu, fillSduBuffer_eq front free (by simp only; omega) hwrit, bind_some]
  split
  · refine ⟨_, 0, rfl, zero_le _, ⟨front, _, tiles, rfl, hused, ?_, hparses, hopen, hconts⟩,
      .refl lcid rfl⟩
    simp only [length_append, length_take, length_drop]
    omega
  · have hsplit : pulled.written = pulled.written.take pulled.length ++
        pulled.written.drop pulled.length := (take_append_drop _ _).symm
    have htake : (pulled.written.take pulled.length).length = pulled.length :=
      length_take_of_le hlen
    generalize hsduBytes : pulled.written.take pulled.length = sdu at hsplit htake ⊢
    have hroom : (free.take (macSduSubheaderSize maxSduSize)).length =
        macSduSubheaderSize maxSduSize := length_take_of_le (by omega)
    rw [hsplit, append_assoc]
    obtain ⟨header, back, hhdr, hback, hadded, hencode⟩ := @encodeSdu_spec
      front (free.take (macSduSubheaderSize maxSduSize)) sdu
      (pulled.written.drop pulled.length ++ free.drop (macSduSubheaderSize maxSduSize +
        (sdu ++ pulled.written.drop pulled.length).length))
      ⟨lcid, macSduSubheaderSize maxSduSize, maxSduSize⟩ hsdu hroom (by omega)
      (by simp only; omega) (by omega) rfl
    rw [htake] at hencode
    rw [hencode]
    refine ⟨_, _, rfl, ?_, ?_, ⟨[.sdu lcid sdu], rfl, ?_⟩⟩
    · have hmono := macSduRequiredBytes_mono (hlen.trans hwrit)
      rw [macSduRequiredBytes] at hmono
      rw [macSduRequiredBytes] at hmono ⊢
      omega
    · rw [htake] at hadded
      rw [← hadded]
      have hother : lcid ≠ paddingLcid := by
        rintro rfl
        cases hsdu
      have hcontn : content ⟨lcid, sdu⟩ = received (.sdu lcid sdu) := if_pos hsdu
      have hbytes : pulled.written.length = sdu.length +
          (pulled.written.drop pulled.length).length := by
        conv_lhs => rw [hsplit]
        exact length_append
      have hsum : used + (header.length + sdu.length) + back.length = size := by
        simp only [length_append, length_drop] at hback hbytes
        omega
      have hnew := encoded_snoc front hused hparses hopen hconts (s := ⟨lcid, sdu⟩) hhdr
        hother hsum hcontn pulled.state
      rwa [← htake]
    · intro c hc
      exact ⟨sdu, mem_singleton.mp hc⟩

lemma assembleSdusFrom_spec (hsdu : isSdu lcid) (rounds : Nat) {remBytes used : Nat}
    (h : Encoded a size used) (hrem : used + remBytes ≤ size)
    (hlt : remBytes ≤ macSduRequiredBytes (2 ^ 16 - 1)) :
    ∃ after added, assembleSdusFrom rlc lcid rounds remBytes a = some after ∧ added ≤ remBytes ∧
      Encoded after size (used + added) ∧ AddsSdus lcid a after := by
  induction rounds generalizing remBytes used a with
  | zero => exact ⟨a, 0, rfl, Nat.zero_le _, h, .refl lcid rfl⟩
  | succ rounds ih =>
    rw [assembleSdusFrom]
    split_ifs with hmin
    · exact ⟨a, 0, rfl, Nat.zero_le _, h, .refl lcid rfl⟩
    have hpay : macSduPayloadSize remBytes < 2 ^ 16 := by
      have hmax : macSduRequiredBytes (2 ^ 16 - 1) = 65538 := by decide
      rw [macSduPayloadSize]
      split_ifs <;> omega
    obtain ⟨middle, added, hround, hadded, hencd, hsdus⟩ :=
      assembleSdu_spec rlc hsdu h (Nat.le_of_not_lt hmin) hrem hpay
    rw [hround, bind_some]
    simp only
    split
    · exact ⟨middle, added, rfl, hadded, hencd, hsdus⟩
    rw [if_neg (Nat.not_lt.mpr hadded)]
    have hleft : used + added + (remBytes - added) ≤ size := by omega
    obtain ⟨after, more, hrest, hmore, hfinal, hothers⟩ := ih hencd hleft (by omega)
    refine ⟨after, added + more, hrest, by omega, ?_, hsdus.trans hothers⟩
    rwa [← Nat.add_assoc]

def scheduledSize (info : LcInfo) : Nat :=
  if isSdu info.lcid then macSduRequiredBytes info.schedBytes else 1 + sizeofCe info.lcid

def Schedulable (info : LcInfo) : Prop :=
  isSdu info.lcid ∨ info.lcid = ueConResId ∨ info.lcid = taCmd ∧ info.cePayload.isSome

def tagCmdOf (info : LcInfo) : Option Content :=
  if info.lcid = taCmd then info.cePayload.map fun ce => .taCmd ce.tagId.toNat ce.taCmd else none

def isTagCmd : Content → Bool
  | .taCmd _ _ => true
  | _ => false

def Assembles (a after : Assembly σ) (info : LcInfo) (size used : Nat) : Prop :=
  (∃ added ≤ scheduledSize info, Encoded after size (used + added)) ∧
    after.contents.filter isTagCmd = a.contents.filter isTagCmd ++ (tagCmdOf info).toList

lemma assembleSdus_spec (h : Encoded a size used) {info : LcInfo} (hsdu : isSdu info.lcid)
    (hroom : used + scheduledSize info ≤ size) :
    ∃ after, assembleSdus rlc a info = some after ∧ Assembles a after info size used := by
  rw [scheduledSize, if_pos hsdu] at hroom
  have hempty : a.pdu.nofEmptyBytes = size - used := by
    obtain ⟨front, free, tiles, hpdu, hused, hsize, -⟩ := h
    rw [hpdu, nofEmptyBytes]
    simp only [length_append]
    omega
  have hspace : min (macSduRequiredBytes info.schedBytes) a.pdu.nofEmptyBytes =
      macSduRequiredBytes info.schedBytes := by
    exact Nat.min_eq_left (by omega)
  have hle := info.schedBytes_le
  obtain ⟨after, added, hassemble, hadded, hencd, sdus, hsdus, hall⟩ :=
    assembleSdusFrom_spec rlc hsdu (macSduRequiredBytes info.schedBytes) h hroom
      (macSduRequiredBytes_mono (by omega))
  refine ⟨after, ?_, ⟨added, ?_, hencd⟩, ?_⟩
  · rw [assembleSdus]
    simp only [hspace]
    exact hassemble
  · rwa [scheduledSize, if_pos hsdu]
  have hnone : sdus.filter isTagCmd = [] := by
    rw [filter_eq_nil_iff]
    intro c hc
    obtain ⟨bytes, rfl⟩ := hall c hc
    exact nofun
  have hother : info.lcid ≠ taCmd := by
    intro htaCmd
    rw [htaCmd] at hsdu
    cases hsdu
  rw [hsdus, filter_append, hnone, tagCmdOf, if_neg hother]
  rfl

lemma addCe_spec (h : Encoded a size used) (lcid : Lcid) (payload : Bytes)
    (hlen : payload.length = sizeofCe lcid) (hvalid : isValid lcid) (hfixed : isSdu lcid = false)
    (hother : lcid ≠ paddingLcid) (hroom : used + (1 + sizeofCe lcid) ≤ size)
    (hc : content ⟨lcid, payload⟩ = received c) :
    ∃ pdu, ((a.pdu.encodeSubheader false lcid 1 (sizeofCe lcid)).bind fun p => p.push payload) =
        some pdu ∧ Encoded ⟨pdu, a.rlc, a.contents ++ [c]⟩ size (used + (1 + sizeofCe lcid)) := by
  obtain ⟨front, free, tiles, hpdu, hused, hsize, hparses, hopen, hconts⟩ := h
  have hhdr := subheader_ce hvalid hfixed hother
  rw [← hlen] at hroom hhdr ⊢
  have hpush := encodeFixed_eq front free payload lcid payload.length (by omega)
  refine ⟨_, by rw [hpdu, hpush], ?_⟩
  have hsum : used + ([firstByte false lcid].length + payload.length) +
      (free.drop (1 + payload.length)).length = size := by
    simp only [length_drop, length_cons, length_nil]
    omega
  exact encoded_snoc front hused hparses hopen hconts (s := ⟨lcid, payload⟩) hhdr hother
    hsum hc a.rlc

lemma received_taCmd :
    content ⟨taCmd, [UInt8.ofNat ((tagId.toNat &&& 0xc0) ||| (cmd &&& 0x3f))]⟩ =
      received (.taCmd tagId.toNat cmd) := by
  have hsplit : (ofNat ((tagId.toNat &&& 0xc0) ||| (cmd &&& 0x3f))).toNat =
      (tagId.toNat >>> 6) * 64 + (cmd &&& 0x3f) := by
    have hcmd : cmd &&& 0x3f < 64 := lt_succ_of_le and_le_right
    have htag : tagId.toNat &&& 0xc0 = (tagId.toNat >>> 6) <<< 6 := by
      have hall : ∀ byte : Fin 256, byte.val &&& 0xc0 = (byte.val >>> 6) <<< 6 := by
        decide +kernel
      exact hall ⟨tagId.toNat, tagId.toNat_lt⟩
    have hlt := tagId.toNat_lt
    rw [htag, @shiftLeft_or_eq _ _ 6 hcmd, toNat_ofNat', shiftRight_eq_div_pow]
    omega
  have hmask (x : Nat) : x &&& 0x3f = x % 64 := and_two_pow_sub_one_eq_mod x 6
  have hcontn : content ⟨taCmd, [ofNat ((tagId.toNat &&& 0xc0) ||| (cmd &&& 0x3f))]⟩ =
      .taCmd ((ofNat ((tagId.toNat &&& 0xc0) ||| (cmd &&& 0x3f))).toNat >>> 6)
        ((ofNat ((tagId.toNat &&& 0xc0) ||| (cmd &&& 0x3f))).toNat &&& 0x3f) := rfl
  rw [hcontn, hsplit, received]
  simp only [hmask, shiftRight_eq_div_pow, Content.taCmd.injEq]
  omega

section

variable (conRes : UeConResId) (h : Encoded a size used) {info : LcInfo}

include h

lemma assembleCe_spec (hce : info.lcid = ueConResId ∨ info.lcid = taCmd ∧ info.cePayload.isSome)
    (hroom : used + scheduledSize info ≤ size) :
    ∃ after, assembleCe conRes a info = some after ∧ Assembles a after info size used := by
  obtain hid | ⟨hcmd, hpay⟩ := hce
  · have hsize : scheduledSize info = 1 + sizeofCe ueConResId := by
      rw [scheduledSize, hid]
      rfl
    obtain ⟨pdu, hadd, hencd⟩ := addCe_spec h ueConResId conRes.bytes
      conRes.length_bytes rfl rfl (by decide) (hsize ▸ hroom) (c := .ueConResId conRes.bytes) rfl
    refine ⟨⟨pdu, a.rlc, a.contents ++ [.ueConResId conRes.bytes]⟩, ?_, ⟨_, hsize.ge, hencd⟩, ?_⟩
    · rw [assembleCe, if_pos hid]
      exact congrArg (Option.map _) hadd
    · rw [tagCmdOf, if_neg (by rw [hid]; decide), filter_append]
      rfl
  · obtain ⟨ce, hce⟩ := isSome_iff_exists.mp hpay
    have hsize : scheduledSize info = 1 + sizeofCe taCmd := by
      rw [scheduledSize, hcmd]
      rfl
    obtain ⟨pdu, hadd, hencd⟩ := addCe_spec h taCmd
      [ofNat ((ce.tagId.toNat &&& 0xc0) ||| (ce.taCmd &&& 0x3f))] rfl rfl rfl
      (by decide) (hsize ▸ hroom) (received_taCmd ce.tagId ce.taCmd)
    refine ⟨⟨pdu, a.rlc, a.contents ++ [.taCmd ce.tagId.toNat ce.taCmd]⟩, ?_,
      ⟨_, hsize.ge, hencd⟩, ?_⟩
    · rw [assembleCe, if_neg (by rw [hcmd]; decide), if_pos hcmd, hce, bind_some]
      exact congrArg (Option.map _) hadd
    · rw [tagCmdOf, if_pos hcmd, hce, filter_append]
      rfl

lemma assembleSubpdu_spec (hinfo : Schedulable info) (hroom : used + scheduledSize info ≤ size) :
    ∃ after, assembleSubpdu rlc conRes a info = some after ∧ Assembles a after info size used := by
  rw [assembleSubpdu]
  split_ifs with hsdu
  · exact assembleSdus_spec rlc h hsdu hroom
  · exact assembleCe_spec conRes h (hinfo.resolve_left hsdu) hroom

end

lemma assembleSubpdus_spec (conRes : UeConResId) (infos : List LcInfo) {used : Nat}
    (h : Encoded a size used) (hinfos : ∀ info ∈ infos, Schedulable info)
    (hroom : used + (infos.map scheduledSize).sum ≤ size) :
    ∃ after total, infos.foldlM (assembleSubpdu rlc conRes) a = some after ∧ total ≤ size ∧
      Encoded after size total ∧
      after.contents.filter isTagCmd = a.contents.filter isTagCmd ++ infos.filterMap tagCmdOf := by
  induction infos generalizing a used with
  | nil =>
    have hle : used ≤ size := by simpa using hroom
    exact ⟨a, used, rfl, hle, h, (append_nil _).symm⟩
  | cons info infos ih =>
    rw [map_cons, sum_cons] at hroom
    obtain ⟨middle, hfirst, ⟨added, hadded, hmiddle⟩, hcmds⟩ :=
      assembleSubpdu_spec rlc conRes h (hinfos info mem_cons_self) (by omega)
    obtain ⟨after, total, hrest, htotal, hafter, hothers⟩ := ih hmiddle
      (fun other hother => hinfos other (mem_cons_of_mem _ hother)) (by omega)
    refine ⟨after, total, ?_, htotal, hafter, ?_⟩
    · rwa [foldlM_cons, hfirst]
    rw [hothers, hcmds, append_assoc]
    cases hcmd : tagCmdOf info with
    | none => rw [filterMap_cons_none hcmd]; rfl
    | some c => rw [filterMap_cons_some hcmd]; rfl

/-- The PDU has the size of the transport block, and only one reading, which is the contents. -/
structure Carries (contents : List Content) (pdu : Bytes) (tbSizeBytes : Nat) : Prop where
  length_eq : pdu.length = tbSizeBytes
  parsed : ∃ subpdus, (∀ other, Parses dlSch pdu other ↔ other = subpdus) ∧
    (subpdus.map content = contents ∨ subpdus.map content = contents ++ [.padding])

lemma assemble_spec (conRes : UeConResId) (infos : List LcInfo) (buffer : Bytes) (state : σ)
    (hinfos : ∀ info ∈ infos, Schedulable info)
    (hfits : (infos.map scheduledSize).sum ≤ buffer.length) :
    ∃ a, assemble rlc conRes infos buffer state = some (a, true) ∧
      a.pdu.byteOffset = a.pdu.pdu.length ∧ a.pdu.pdu.length = buffer.length ∧
      a.contents.filter isTagCmd = infos.filterMap tagCmdOf ∧
      ∃ subpdus, Parses dlSch a.pdu.pdu subpdus ∧ (subpdus.map content = a.contents.map received ∨
          subpdus.map content = a.contents.map received ++ [.padding]) := by
  have hinitial : Encoded (⟨⟨buffer, 0⟩, state, []⟩ : Assembly σ) buffer.length 0 :=
    ⟨[], buffer, [], rfl, rfl, Nat.zero_add _, .nil [], nofun, rfl⟩
  obtain ⟨a, total, hfold, htotal, hencd, hcmds⟩ := assembleSubpdus_spec rlc conRes infos
    hinitial hinfos (by omega)
  obtain ⟨front, free, tiles, hpdu, hused, hsize, hparses, hopen, hconts⟩ := hencd
  rw [assemble, hfold]
  simp only [bind_eq_bind, bind_some, hpdu]
  split_ifs with hmore
  · have hlen : (replicate (buffer.length - front.length - 1) (0 : UInt8)).length =
        free.length - 1 := by
      rw [length_replicate]
      omega
    have hpush := encodeFixed_eq front free
      (replicate (buffer.length - front.length - 1) (0 : UInt8)) paddingLcid
      (buffer.length - front.length - 1) (by rw [hlen]; omega)
    have hback : free.drop (1 +
        (replicate (buffer.length - front.length - 1) (0 : UInt8)).length) = [] :=
      drop_eq_nil_of_le (by rw [hlen]; omega)
    rw [hback, append_nil] at hpush
    have hadd : addPadding ⟨front ++ free, front.length⟩ (buffer.length - front.length) =
        some _ := hpush
    rw [hadd]
    refine ⟨_, rfl, rfl, ?_, hcmds, tiles ++ [⟨paddingLcid, _⟩],
      hparses.snoc hopen ⟨_, subheader_padding _, rfl⟩, .inr ?_⟩
    · simp only [length_append, length_cons, length_nil, hlen]
      omega
    · rw [map_append, hconts]
      rfl
  · have hnil : free = [] := length_eq_zero_iff.mp (by rw [hused] at hmore; omega)
    have hwhole : front.length = buffer.length := by
      omega
    refine ⟨a, by simp [hwhole], ?_, ?_, hcmds, tiles, ?_, .inl hconts⟩
    · rw [hpdu, hnil, append_nil]
    · rw [hpdu, hnil, append_nil, hwhole]
    · rw [hpdu, hnil, append_nil]
      exact hparses

end

def TagsZero (infos : List LcInfo) : Prop :=
  ∀ info ∈ infos, info.lcid = taCmd → ∀ ce ∈ info.cePayload, ce.tagId = 0 ∧ ce.taCmd < 64

lemma received_taCmd_eq_iff :
    received (.taCmd tagId.toNat cmd) = .taCmd tagId.toNat cmd ↔ tagId = 0 ∧ cmd < 64 := by
  have hmask : cmd &&& 0x3f = cmd % 64 := and_two_pow_sub_one_eq_mod cmd 6
  rw [received, Content.taCmd.injEq]
  have hzero : tagId = 0 ↔ tagId.toNat = 0 := by
    rw [← UInt8.toNat_inj]
    rfl
  rw [hzero]
  omega

lemma map_received_eq_iff {infos : List LcInfo}
    (hcmds : contents.filter isTagCmd = infos.filterMap tagCmdOf) :
    contents.map received = contents ↔ TagsZero infos := by
  have hall : contents.map received = contents ↔ ∀ c ∈ contents, received c = c := by
    conv_lhs => rhs; rw [← map_id contents]
    exact map_inj_left
  have hcmd : (∀ c ∈ contents, received c = c) ↔
      ∀ c ∈ contents.filter isTagCmd, received c = c := by
    constructor
    · intro h c hc
      exact h c (mem_filter.mp hc).1
    · intro h c hc
      cases c with
      | taCmd tagId cmd => exact h _ (mem_filter.mpr ⟨hc, rfl⟩)
      | ueConResId id | sdu lcid bytes | padding | other => rfl
  rw [hall, hcmd, hcmds]
  constructor
  · intro h info hinfo hlcid ce hce
    apply (received_taCmd_eq_iff ce.tagId ce.taCmd).mp
    apply h
    rw [mem_filterMap]
    exact ⟨info, hinfo, by rw [tagCmdOf, if_pos hlcid, hce]; rfl⟩
  · intro h c hc
    obtain ⟨info, hinfo, hcmd⟩ := mem_filterMap.mp hc
    rw [tagCmdOf] at hcmd
    split at hcmd
    · rename_i hlcid
      obtain ⟨ce, hce, rfl⟩ := map_eq_some_iff.mp hcmd
      exact (received_taCmd_eq_iff ce.tagId ce.taCmd).mpr (h info hinfo hlcid ce hce)
    · cases hcmd

/-- The UE and its HARQ buffer exist and are free, and what is scheduled fits. -/
structure Ready {σ : Type} (m : MacDl) (rnti harqId : Nat) (newTx : NewTx σ) (tbSizeBytes : Nat)
    (ueIndex id : Nat) : Prop where
  ue : m.rntiTable rnti = some ueIndex
  harq : (m.pool.cellBuffers ueIndex)[harqId]? = some id
  free : (m.pool.storages id).refCnt = 0
  buffer : tbSizeBytes ≤ (m.pool.storages id).buffer.length
  schedulable : ∀ info ∈ newTx.lcChsToSched, Schedulable info
  fits : (newTx.lcChsToSched.map scheduledSize).sum ≤ tbSizeBytes

lemma newtx_spec {σ : Type} {m : MacDl} {rnti harqId : Nat} {newTx : NewTx σ}
    {tbSizeBytes ueIndex id : Nat} (h : Ready m rnti harqId newTx tbSizeBytes ueIndex id) :
    ∃ after block contents,
      m.assembleNewtxPdu rnti harqId newTx tbSizeBytes = some (after, block, contents) ∧
        contents.filter isTagCmd = newTx.lcChsToSched.filterMap tagCmdOf ∧
        (Carries contents block.bytes tbSizeBytes ↔ contents.map received = contents) := by
  have htake : ((m.pool.storages id).buffer.take tbSizeBytes).length = tbSizeBytes :=
    length_take_of_le h.buffer
  obtain ⟨a, hassemble, hoff, hlen, hcmds, subpdus, hparses, hconts⟩ :=
    assemble_spec newTx.rlc newTx.conRes newTx.lcChsToSched
      ((m.pool.storages id).buffer.take tbSizeBytes) newTx.rlcState h.schedulable
      (by rw [htake]; exact h.fits)
  refine ⟨(m.writeBuffer id a.pdu.pdu).transferBuffer id, ⟨a.pdu.pdu, some id⟩, a.contents, ?_,
    hcmds, ?_, ?_⟩
  · rw [MacDl.assembleNewtxPdu, h.ue]
    simp [MacDl.allocateDlHarqBuffer, h.harq, h.free, Nat.not_lt.mpr h.buffer, hassemble, hoff]
  · intro hcarr
    obtain ⟨others, hunique, hothers⟩ := hcarr.parsed
    obtain rfl := (hunique subpdus).mp hparses
    obtain hplain | hpadded := hconts
    · obtain hsame | hmore := hothers
      · exact hplain.symm.trans hsame
      · have hcount := congrArg length (hplain.symm.trans hmore)
        simp at hcount
    · obtain hsame | hmore := hothers
      · have hcount := congrArg length (hpadded.symm.trans hsame)
        simp at hcount
      · exact append_cancel_right (hpadded.symm.trans hmore)
  · intro hsame
    refine ⟨hlen.trans htake, subpdus, ?_, ?_⟩
    · intro others
      exact ⟨fun hother => hother.unique hparses, fun hother => hother ▸ hparses⟩
    · rw [hsame] at hconts
      exact hconts

/-- A new transmission carries what was scheduled and given exactly if all TAGs are zero. -/
theorem newtx_carries_iff {σ : Type} (m : MacDl) (rnti ueIndex harqId id : Nat) (newTx : NewTx σ)
    (tbSizeBytes : Nat) (h : Ready m rnti harqId newTx tbSizeBytes ueIndex id) :
    (∃ after block contents,
      m.assembleNewtxPdu rnti harqId newTx tbSizeBytes = some (after, block, contents) ∧
        Carries contents block.bytes tbSizeBytes) ↔ TagsZero newTx.lcChsToSched := by
  obtain ⟨after, block, contents, hnewtx, hcmds, hcarries⟩ := newtx_spec h
  rw [← map_received_eq_iff hcmds, ← hcarries, hnewtx]
  constructor
  · rintro ⟨after', block', contents', hsame, hcarried⟩
    cases hsame
    exact hcarried
  · intro hcarried
    exact ⟨after, block, contents, rfl, hcarried⟩

section

def oneUe : MacDl where
  pool :=
    { maxPduLen := 16
      storages := fun _ => ⟨0, replicate 16 0⟩
      cellBuffers := fun ueIndex => if ueIndex = 0 then [5] else []
      bufferCache := []
      poolElemIndex := 5 }
  rntiTable := fun rnti => if rnti = 0x4601 then some 0 else none
  inFlight := []

lemma shortSdus_le (size : Nat) : (if size < 2 then [] else [0xab, 0xcd] : Bytes).length ≤
    size := by
  split
  · exact zero_le _
  · simp only [length_cons, length_nil]
    omega

def shortSdus : Rlc Unit where
  onNewTxSdu := fun _ _ size =>
    let written := if size < 2 then [] else [0xab, 0xcd]
    ⟨(), written, written.length⟩
  written_le := fun _ _ size => shortSdus_le size
  length_le := fun _ _ _ => le_rfl

lemma exampleId_length : [1, 2, 3, 4, 5, (6 : UInt8)].length = 6 := rfl

def commandFor (tagId : UInt8) : NewTx Unit where
  conRes := ⟨[1, 2, 3, 4, 5, 6], exampleId_length⟩
  rlc := shortSdus
  rlcState := ()
  lcChsToSched :=
    [conResToSched, ⟨taCmd, 1, some ⟨tagId, 31⟩, by decide⟩, ⟨1, 3, none, by decide⟩]

lemma commandFor_ready : Ready oneUe 0x4601 0 (commandFor tagId) 16 0 5 where
  ue := rfl
  harq := rfl
  free := rfl
  buffer := le_rfl
  schedulable := by
    simp [commandFor, conResToSched, Schedulable, isSdu]
  fits := by
    show 14 ≤ 16
    decide

theorem firstTag_carried : TagsZero (commandFor 0).lcChsToSched ∧ ∃ after block contents,
      oneUe.assembleNewtxPdu 0x4601 0 (commandFor 0) 16 = some (after, block, contents) ∧
        Carries contents block.bytes 16 := by
  have hzero : TagsZero (commandFor 0).lcChsToSched := by
    simp [TagsZero, commandFor, conResToSched]
  exact ⟨hzero, (newtx_carries_iff oneUe 0x4601 0 0 5 (commandFor 0) 16
    (commandFor_ready 0)).mpr hzero⟩

/-- TAG 1 arrives as TAG 0. -/
theorem secondTag_lost :
    (oneUe.assembleNewtxPdu 0x4601 0 (commandFor 1) 16).map (fun result => result.2.1.bytes) =
        some [0x3e, 1, 2, 3, 4, 5, 6, 0x3d, 0x1f, 0x01, 0x02, 0xab, 0xcd, 0x3f, 0, 0] ∧
      ¬ ∃ after block contents,
        oneUe.assembleNewtxPdu 0x4601 0 (commandFor 1) 16 = some (after, block, contents) ∧
          Carries contents block.bytes 16 := by
  refine ⟨by decide +kernel, ?_⟩
  obtain ⟨after, block, contents, hnewtx, hcmds, hcarries⟩ := newtx_spec (commandFor_ready 1)
  rintro ⟨after', block', contents', hnewtx', hcarried⟩
  rw [hnewtx] at hnewtx'
  cases hnewtx'
  have hzero := (map_received_eq_iff hcmds).mp (hcarries.mp hcarried)
  have htag := hzero ⟨taCmd, 1, some ⟨1, 31⟩, by decide⟩ (by simp [commandFor]) rfl ⟨1, 31⟩ rfl
  contradiction

end

end ProtoRu.MacDlSch
