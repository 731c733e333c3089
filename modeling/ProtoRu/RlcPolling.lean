import ProtoRu.RlcTxAmWindow

namespace ProtoRu.Rlc

open TxEntity

variable {cfg : TxConfig}

/-- A new PDU of the size reaches `pollPDU` or `pollByte`. -/
def PollDue (entity : TxEntity cfg) (size : Nat) : Prop :=
  (0 < cfg.pollPdu ∧ cfg.pollPdu ≤ (entity.pduWithoutPoll + 1 : Nat)) ∨
    (0 < cfg.pollByte ∧ cfg.pollByte ≤ (entity.byteWithoutPoll + size : Nat))

/-- The edges of the window are more than a nonzero `maxWindow` apart. -/
def PassedMaxWindow (entity : TxEntity cfg) : Prop :=
  cfg.maxWindow ≠ 0 ∧ cfg.maxWindow < entity.txModBase entity.txNext

variable (entity : TxEntity cfg)

lemma isTxWindowFull_iff :
    entity.isTxWindowFull ↔ entity.txWindow.full ∨ PassedMaxWindow entity := by
  simp [isTxWindowFull, PassedMaxWindow]

structure Polled (entity after : TxEntity cfg) (isRetx : Bool) (size : Nat) (p : Bool) :
    Prop where
  p_iff : p ↔ (isRetx = false ∧ PollDue entity size) ∨ after.buffersEmpty ∨
    after.txWindow.full ∨ PassedMaxWindow entity
  pdus : after.pduWithoutPoll =
    if p then 0 else entity.pduWithoutPoll + if isRetx then 0 else 1
  bytes : after.byteWithoutPoll =
    if p then 0 else entity.byteWithoutPoll + if isRetx then 0 else size

section

variable (entity : TxEntity cfg)

lemma pollDue_countPdu (size : Nat) :
    (entity.countPdu false size).pollDue ↔ PollDue entity size := by
  simp [pollDue, countPdu, PollDue]

lemma includesPoll_countPdu (isRetx : Bool) (size : Nat) :
    (entity.countPdu isRetx size).includesPoll isRetx ↔
      (isRetx = false ∧ PollDue entity size) ∨ entity.buffersEmpty ∨ entity.txWindow.full ∨
        PassedMaxWindow entity := by
  have hempty : (entity.countPdu isRetx size).buffersEmpty = entity.buffersEmpty := by
    cases isRetx <;> rfl
  have hfull : (entity.countPdu isRetx size).isTxWindowFull = entity.isTxWindowFull := by
    cases isRetx <;> rfl
  rw [includesPoll, hempty, hfull, Bool.or_eq_true, Bool.or_eq_true, isTxWindowFull_iff, or_assoc]
  cases isRetx with
  | false => simp [pollDue_countPdu]
  | true => simp

lemma buffersEmpty_getPollingBit (sn : Nat) (isRetx : Bool) (size : Nat) :
    (entity.getPollingBit sn isRetx size).1.buffersEmpty = entity.buffersEmpty := by
  have hcount : (entity.countPdu isRetx size).buffersEmpty = entity.buffersEmpty := by
    cases isRetx <;> rfl
  rw [getPollingBit]
  split <;> exact hcount

lemma getPollingBit_polled (sn : Nat) (isRetx : Bool) (size : Nat) :
    Polled entity (entity.getPollingBit sn isRetx size).1 isRetx size
      (entity.getPollingBit sn isRetx size).2 := by
  have hincludes := includesPoll_countPdu entity isRetx size
  refine ⟨?_, ?_, ?_⟩
  · rw [buffersEmpty_getPollingBit, txWindow_getPollingBit, ← hincludes, getPollingBit]
    split_ifs with hpoll <;> simp [hpoll]
  · rw [getPollingBit]
    split
    · rfl
    · cases isRetx <;> rfl
  · rw [getPollingBit]
    split
    · rfl
    · cases isRetx <;> rfl

end

lemma Polled.congr {entity middle polled after : TxEntity cfg} {isRetx p : Bool} {size : Nat}
    (h : Polled middle polled isRetx size p) (hpdus : middle.pduWithoutPoll = entity.pduWithoutPoll)
    (hbytes : middle.byteWithoutPoll = entity.byteWithoutPoll)
    (hack : middle.txNextAck = entity.txNextAck) (hnext : middle.txNext = entity.txNext)
    (hempty : after.buffersEmpty = polled.buffersEmpty)
    (hfull : after.txWindow.full = polled.txWindow.full)
    (hafterPdus : after.pduWithoutPoll = polled.pduWithoutPoll)
    (hafterBytes : after.byteWithoutPoll = polled.byteWithoutPoll) :
    Polled entity after isRetx size p := by
  obtain ⟨hp, hpolledPdus, hpolledBytes⟩ := h
  simp only [PollDue, PassedMaxWindow, txModBase, hpdus, hbytes, hack, hnext] at hp
  rw [hpdus] at hpolledPdus
  rw [hbytes] at hpolledBytes
  refine ⟨?_, hafterPdus.trans hpolledPdus, hafterBytes.trans hpolledBytes⟩
  rwa [hempty, hfull]

/-- The bytes of a new PDU that are counted: those of whole SDUs are not. -/
def countedSize (header : PduHeader) (payload : Bytes) : Nat :=
  if header.si = .fullSdu then 0 else payload.length

def PollSpec (entity after : TxEntity cfg) : Pulled → Prop
  | .nothing => after.pduWithoutPoll = entity.pduWithoutPoll ∧
      after.byteWithoutPoll = entity.byteWithoutPoll
  | .statusPdu _ => after.pduWithoutPoll = entity.pduWithoutPoll ∧
      after.byteWithoutPoll = entity.byteWithoutPoll
  | .dataPdu isRetx header payload =>
    Polled entity after isRetx (countedSize header payload) header.p
  | .noPayload isRetx header => Polled entity after isRetx 0 header.p

section

variable {entity middle : TxEntity cfg} (hpdus : middle.pduWithoutPoll = entity.pduWithoutPoll)
  (hbytes : middle.byteWithoutPoll = entity.byteWithoutPoll)
  (hack : middle.txNextAck = entity.txNextAck) (hnext : middle.txNext = entity.txNext)

include hpdus hbytes hack hnext

lemma buildFirstSduSegment_pollSpec {grant : Nat} {sdu : Bytes}
    (hlt : grant < sdu.length + cfg.headMinSize) :
    PollSpec entity (middle.buildFirstSduSegment grant { sdu }).1
      (middle.buildFirstSduSegment grant { sdu }).2 := by
  have hlen := @length_slice sdu 0 (grant - cfg.headMinSize) (by omega)
  have hpolled := getPollingBit_polled (middle.segment (some middle.txNext)) middle.txNext false
    (grant - cfg.headMinSize)
  simp only [buildFirstSduSegment, PollSpec, countedSize, hlen]
  exact hpolled.congr hpdus hbytes hack hnext rfl (by simp [updateNextSo]) rfl rfl

lemma buildFullSdu_pollSpec (sdu : Bytes) :
    PollSpec entity (middle.buildFullSdu sdu).1 (middle.buildFullSdu sdu).2 := by
  have hpolled := getPollingBit_polled middle middle.txNext false 0
  rw [buildFullSdu]
  split <;> exact hpolled.congr hpdus hbytes hack hnext rfl rfl rfl rfl

lemma pullNewPdu_pollSpec (grant : Nat) :
    PollSpec entity (middle.pullNewPdu grant).1 (middle.pullNewPdu grant).2 := by
  rw [pullNewPdu]
  split
  · exact ⟨hpdus, hbytes⟩
  rw [buildNewPdu]
  split
  · exact ⟨hpdus, hbytes⟩
  split
  · exact ⟨hpdus, hbytes⟩
  rename_i sdu sduQueue _
  split_ifs with hlt
  · have hspec := @buildFirstSduSegment_pollSpec cfg entity
      ((middle.setSduQueue sduQueue).addSn sdu.buf) hpdus hbytes hack hnext _ _ hlt
    exact hspec
  · exact @buildFullSdu_pollSpec cfg entity
      ((middle.setSduQueue sduQueue).addSn sdu.buf) hpdus hbytes hack hnext sdu.buf

end

lemma buildContinuedSduSegment_pollSpec (grant sn : Nat) (info : SduInfo) :
    PollSpec entity (entity.buildContinuedSduSegment grant sn info).1
      (entity.buildContinuedSduSegment grant sn info).2 := by
  rw [buildContinuedSduSegment]
  split
  · exact ⟨rfl, rfl⟩
  split
  · exact ⟨rfl, rfl⟩
  split
  · have hlen := @length_slice info.sdu info.nextSo (grant - cfg.headMaxSize) (by omega)
    have hpolled := getPollingBit_polled entity entity.txNext false (grant - cfg.headMaxSize)
    simp only [buildMiddleSegment, PollSpec, countedSize, hlen]
    exact hpolled.congr rfl rfl rfl rfl rfl (by simp [updateNextSo]) rfl rfl
  · have hlen := @length_slice info.sdu info.nextSo (info.sdu.length - info.nextSo) (by omega)
    have hpolled := getPollingBit_polled (entity.segment none) entity.txNext false
      (info.sdu.length - info.nextSo)
    simp only [buildLastSegment, PollSpec, countedSize, hlen]
    exact hpolled.congr rfl rfl rfl rfl rfl (by simp [updateNextSo, advanceTxNext]) rfl rfl

section

variable (entity : TxEntity cfg) (grant : Nat)

lemma sendRetx_pollSpec (retx : Retx) (info : SduInfo) (rest : List Retx) :
    PollSpec entity (entity.sendRetx grant retx info rest).1
      (entity.sendRetx grant retx info rest).2 := by
  rw [sendRetx]
  generalize min retx.length (grant - retxExpectedHdrLen cfg retx) = payloadLen
  have hpolled (size : Nat) : Polled entity
      ((entity.consumeRetx retx info rest payloadLen).getPollingBit retx.sn true 0).1 true size
      ((entity.consumeRetx retx info rest payloadLen).getPollingBit retx.sn true 0).2 := by
    apply (getPollingBit_polled _ retx.sn true size).congr
    all_goals first | rfl | (rw [consumeRetx]; split <;> rfl)
  split
  · exact hpolled 0
  · exact hpolled _

lemma buildRetxPdu_pollSpec :
    PollSpec entity (entity.buildRetxPdu grant).1 (entity.buildRetxPdu grant).2 := by
  rw [buildRetxPdu]
  split
  · exact ⟨rfl, rfl⟩
  rename_i retx info rest _
  split
  · exact ⟨rfl, rfl⟩
  split
  · exact ⟨rfl, rfl⟩
  have hspec := sendRetx_pollSpec (entity.selectRetx retx rest) grant retx info rest
  generalize (entity.selectRetx retx rest).sendRetx grant retx info rest = sent at hspec ⊢
  obtain ⟨after, pulled⟩ := sent
  cases pulled with
  | nothing | statusPdu => exact hspec
  | dataPdu | noPayload => exact hspec.congr rfl rfl rfl rfl rfl rfl rfl rfl

lemma pullPdu_pollSpec (required : Option StatusPdu) :
    PollSpec entity (entity.pullPdu grant required).1 (entity.pullPdu grant required).2 := by
  unfold pullPdu
  split
  · exact ⟨rfl, rfl⟩
  split
  · rw [pullStatusPdu]
    split
    · exact ⟨rfl, rfl⟩
    · split <;> exact ⟨rfl, rfl⟩
  · rw [pullDataPdu]
    split
    · exact buildRetxPdu_pollSpec entity grant
    split
    · exact pullNewPdu_pollSpec rfl rfl rfl rfl grant
    rename_i sn _
    split
    · rename_i info _
      exact buildContinuedSduSegment_pollSpec entity grant sn info
    · exact @pullNewPdu_pollSpec cfg entity (entity.segment none) rfl rfl rfl rfl grant

end

end ProtoRu.Rlc
