import ProtoRu.RlcTxAmEntity
import ProtoRu.TransitionRuns

namespace ProtoRu.Rlc

open TxEntity CircularMap Option

/-- The edges, the SN partly sent, and for each SN its SDU and the bytes sent in segments. -/
structure WindowView where
  txNextAck : Nat
  txNext : Nat
  segmented : Option Nat
  held : Nat → Option (Bytes × Nat)

variable {cfg : TxConfig}

def view (entity : TxEntity cfg) : WindowView where
  txNextAck := entity.txNextAck
  txNext := entity.txNext
  segmented := entity.snUnderSegmentation
  held := fun sn => (entity.txWindow.get? sn).map fun info => (info.sdu, info.nextSo)

namespace WindowView

def add (cfg : TxConfig) (window : WindowView) (sdu : Bytes) (sent : Nat) :
    WindowView :=
  { window with
    held := fun sn =>
      if sn = window.txNext then some (sdu, sent)
      else if sn % cfg.amWindowSize = window.txNext % cfg.amWindowSize then none
      else window.held sn }

def setSent (window : WindowView) (sn : Nat) (sdu : Bytes) (sent : Nat) : WindowView :=
  { window with held := Function.update window.held sn (some (sdu, sent)) }

def segment (window : WindowView) (segmented : Option Nat) : WindowView :=
  { window with segmented }

def advance (cfg : TxConfig) (window : WindowView) : WindowView :=
  { window with txNext := (window.txNext + 1) % cfg.mod }

end WindowView

lemma isSome_held (entity : TxEntity cfg) (sn : Nat) :
    ((view entity).held sn).isSome = entity.txWindow.contains sn := by
  simp [view, contains]

lemma view_addSn (entity : TxEntity cfg) (sdu : Bytes) :
    view (entity.addSn sdu) = (view entity).add cfg sdu 0 := by
  simp only [view, addSn, WindowView.add, WindowView.mk.injEq, true_and]
  funext sn
  rw [get?_overwrite, TxConfig.amWindowSize]
  obtain rfl | hne := eq_or_ne sn entity.txNext
  · simp
  rcases eq_or_ne (sn % cfg.snFieldLength.windowSize)
    (entity.txNext % cfg.snFieldLength.windowSize) with hslot | hslot
  · simp [hslot]
  · simp [hne, hslot]

variable {sn : Nat} {info : SduInfo} {entity : TxEntity cfg}

lemma held_of_get? (hinfo : entity.txWindow.get? sn = some info) :
    (view entity).held sn = some (info.sdu, info.nextSo) := by
  simp [view, hinfo]

section

variable (entity : TxEntity cfg)

lemma view_modify (f : SduInfo → SduInfo) (hinfo : entity.txWindow.get? sn = some info) :
    view { entity with txWindow := entity.txWindow.modify sn f } =
      (view entity).setSent sn (f info).sdu (f info).nextSo := by
  simp only [view, WindowView.setSent, WindowView.mk.injEq, true_and]
  funext other
  rw [get?_modify]
  obtain rfl | hne := eq_or_ne other sn
  · simp [hinfo]
  · simp [hne]

lemma view_modify_eq (sn : Nat) (f : SduInfo → SduInfo)
    (hf : ∀ info, (f info).sdu = info.sdu ∧ (f info).nextSo = info.nextSo) :
    view { entity with txWindow := entity.txWindow.modify sn f } = view entity := by
  simp only [view, WindowView.mk.injEq, true_and]
  funext other
  rw [get?_modify]
  split_ifs with heq
  · rw [heq, map_map]
    congr 1
    funext info
    simp [hf]
  · rfl

@[simp]
lemma view_segment (segmented : Option Nat) :
    view (entity.segment segmented) = (view entity).segment segmented := rfl

@[simp]
lemma txWindow_segment (segmented : Option Nat) :
    (entity.segment segmented).txWindow = entity.txWindow := rfl

@[simp]
lemma view_setSduQueue (sduQueue : SduQueue) :
    view (entity.setSduQueue sduQueue) = view entity := rfl

@[simp]
lemma view_selectRetx (retx : Retx) (rest : List Retx) :
    view (entity.selectRetx retx rest) = view entity := rfl

@[simp]
lemma view_getPollingBit (sn : Nat) (isRetx : Bool) (size : Nat) :
    view (entity.getPollingBit sn isRetx size).1 = view entity := by
  have hcount : view (entity.countPdu isRetx size) = view entity := by
    cases isRetx <;> rfl
  rw [getPollingBit]
  split <;> exact hcount

@[simp]
lemma view_handleSdu (sdu : RlcSdu) : view (entity.handleSdu sdu) = view entity := by
  rw [handleSdu]
  split <;> rfl

@[simp]
lemma view_discardSdu (pdcpSn : Nat) : view (entity.discardSdu pdcpSn) = view entity := by
  rw [discardSdu]
  split <;> rfl

@[simp]
lemma view_updateMacBufferState : view entity.updateMacBufferState = view entity := rfl

end

/-- What depends neither on the retransmissions, queued or counted, nor on the poll timer. -/
structure IgnoresRetx {α : Type} (observe : TxEntity cfg → α) : Prop where
  queue : ∀ entity retxQueue retxSn running, observe { entity with
    retxQueue, retxSn, pollRetransmitTimerRunning := running } = observe entity
  count : ∀ entity sn f, (∀ info, (f info).sdu = info.sdu ∧ (f info).nextSo = info.nextSo) →
    observe { entity with txWindow := entity.txWindow.modify sn f } = observe entity

variable {retx : Retx}

namespace IgnoresRetx

variable {α : Type} {observe : TxEntity cfg → α} (h : IgnoresRetx observe)
  {after : TxEntity cfg} {nack : Nack} {status : StatusPdu}

include h

lemma countRetx (entity : TxEntity cfg) (sn : Nat) :
    observe (entity.countRetx sn) = observe entity :=
  h.count entity sn _ fun _ => ⟨rfl, rfl⟩

lemma tryPushRetx (hpush : entity.tryPushRetx retx = some after) :
    observe after = observe entity := by
  rw [TxEntity.tryPushRetx, ite_none_right_eq_some] at hpush
  rw [← some.inj hpush.2]
  exact h.queue entity _ _ _

lemma onExpiredPollRetransmitTimer (entity : TxEntity cfg) :
    ∃ expired, observe expired = observe entity ∧ (entity.onExpiredPollRetransmitTimer = expired ∨
      entity.onExpiredPollRetransmitTimer = expired.updateMacBufferState) := by
  rw [TxEntity.onExpiredPollRetransmitTimer]
  have hexpired : observe { entity with pollRetransmitTimerRunning := false } = observe entity :=
    h.queue entity _ _ _
  split
  · split
    · exact ⟨_, hexpired, .inl rfl⟩
    split
    · exact ⟨_, hexpired, .inl rfl⟩
    refine ⟨_, ?_, .inr rfl⟩
    rcases hpush : TxEntity.tryPushRetx _ _ with _ | pushed
    · exact hexpired
    · rw [elim_some, h.countRetx, h.tryPushRetx hpush, hexpired]
  · exact ⟨_, hexpired, .inl rfl⟩

lemma stopPollRetransmitTimer (entity : TxEntity cfg) (ackSn : Nat) :
    observe (entity.stopPollRetransmitTimer ackSn) = observe entity := by
  rw [TxEntity.stopPollRetransmitTimer]
  split
  · exact h.queue entity _ _ _
  · rfl

omit h in
lemma ackLoop (hremove : ∀ entity sn, observe (removeAcked entity sn) = observe entity)
    (stopSn rounds : Nat) (entity : TxEntity cfg) (sn : Nat) :
    observe (ackLoop stopSn rounds entity sn) = observe entity := by
  induction rounds generalizing entity sn with
  | zero => rfl
  | succ rounds ih =>
    rw [TxEntity.ackLoop]
    split
    · split
      · exact (ih _ _).trans (hremove entity sn)
      · rfl
    · rfl

lemma clearRetx (entity : TxEntity cfg) : observe entity.clearRetx = observe entity := by
  rw [TxEntity.clearRetx]
  generalize entity.retxQueue = queue
  induction queue generalizing entity with
  | nil => exact h.queue entity _ _ _
  | cons retx rest ih =>
    rw [clearRetxLoop]
    split
    · rw [ih]
      exact (h.queue (entity.decrementRetxCount retx.sn) _ _ _).trans
        (h.count entity retx.sn _ fun _ => ⟨rfl, rfl⟩)
    · exact ih entity

lemma handleNack {scheduled : Bool} (hnack : entity.handleNack nack = some (after, scheduled)) :
    observe after = observe entity ∧ (scheduled → entity.txWindow.contains nack.nackSn) := by
  rw [TxEntity.handleNack] at hnack
  split at hnack
  · cases hnack
    simp
  split at hnack
  · cases hnack
    simp
  obtain ⟨info, hinfo, hnack⟩ := map_eq_some_iff.mp hnack
  have hcont : entity.txWindow.contains nack.nackSn :=
    (contains_iff _).mpr ⟨info, hinfo⟩
  split at hnack
  · cases hnack
    simp
  dsimp only at hnack
  rcases hpush : TxEntity.tryPushRetx _ _ with _ | pushed
  · rw [hpush] at hnack
    cases hnack
    simp
  · rw [hpush] at hnack
    cases hnack
    exact ⟨h.tryPushRetx hpush, fun _ => hcont⟩

lemma scheduleNack {progress after : TxEntity cfg × Option Nat}
    (hstep : scheduleNack progress nack = some after) : observe after.1 = observe progress.1 := by
  obtain ⟨⟨handled, scheduled⟩, hhandle, hstep⟩ := bind_eq_some_iff.mp hstep
  rw [← (h.handleNack hhandle).1]
  dsimp only at hstep
  split at hstep
  · obtain ⟨counted, hcounted, rfl⟩ := map_eq_some_iff.mp hstep
    rw [incrementRetxCount, ite_none_right_eq_some] at hcounted
    rw [← some.inj hcounted.2, h.countRetx]
  · rw [← some.inj hstep]

lemma processNacks (hnacks : entity.processNacks status = some after) :
    observe after = observe entity := by
  obtain ⟨progress, hfold, rfl⟩ := map_eq_some_iff.mp hnacks
  exact foldlM_invariant (fun progress => observe progress.1 = observe entity) hfold
    rfl fun _ _ _ _ hobserve hstep => (h.scheduleNack hstep).trans hobserve

end IgnoresRetx

lemma view_ignoresRetx : IgnoresRetx (@view cfg) := ⟨fun _ _ _ _ => rfl, view_modify_eq⟩

@[simp]
lemma view_onExpiredPollRetransmitTimer (entity : TxEntity cfg) :
    view entity.onExpiredPollRetransmitTimer = view entity := by
  obtain ⟨expired, hview, heq | heq⟩ := view_ignoresRetx.onExpiredPollRetransmitTimer entity
  · rw [heq, hview]
  · rw [heq, view_updateMacBufferState, hview]

def segmentSi (so length sduLength : Nat) : SiField :=
  if so = 0 then
    if sduLength ≤ so + length then .fullSdu else .firstSegment
  else if sduLength ≤ so + length then .lastSegment else .middleSegment

/-- A PDU carries the bytes of the SDU from an offset on. The header has 16 bits for the
offset. -/
structure IsSegment (sdu : Bytes) (so : Nat) (header : PduHeader) (payload : Bytes) :
    Prop where
  so_eq : header.so = so % 2 ^ 16
  payload_eq : payload = slice sdu header.so payload.length
  pos : 0 < payload.length
  le : so + payload.length ≤ sdu.length
  si_eq : header.si = segmentSi so payload.length sdu.length

variable {sdu : Bytes} {so length : Nat}

lemma length_slice (h : so + length ≤ sdu.length) :
    (slice sdu (so % 2 ^ 16) length).length = length := by
  rw [slice, List.length_take, List.length_drop]
  omega

lemma isSegment_slice (p : Bool) (sn : Nat) (hpos : 0 < length) (h : so + length ≤ sdu.length) :
    IsSegment sdu so { p, si := segmentSi so length sdu.length, sn, so := so % 2 ^ 16 }
      (slice sdu (so % 2 ^ 16) length) := by
  have hlen := length_slice h
  refine ⟨rfl, ?_, ?_, ?_, ?_⟩
  · rw [hlen]
  · rw [hlen]
    exact hpos
  · rw [hlen]
    exact h
  · rw [hlen]

/-- No segment is left to send: either no SDU is being segmented, or it has left the
window. -/
def Idle (window : WindowView) : Prop :=
  ∀ sn ∈ window.segmented, window.held sn = none

def newSdu (entity : TxEntity cfg) (grant : Nat) : Option Bytes :=
  if entity.sduQueue.isEmpty ∨ grant ≤ cfg.headMinSize ∨ entity.isTxWindowFull then none
  else (entity.sduQueue.read cfg.queueSize).1.map RlcSdu.buf

def takenSdu (entity : TxEntity cfg) (grant : Nat) (required : Option StatusPdu) :
    Option Bytes :=
  if entity.maxRetxReached ∨ required.isSome ∨ ¬entity.retxQueue.isEmpty ∨
      entity.snUnderSegmentation.any entity.txWindow.contains then none
  else newSdu entity grant

/-- The changes that a pull can make, with the SDU it takes from the queue and what it returns. -/
inductive PullMove (cfg : TxConfig) (full : Bool) (before : WindowView) :
    Option Bytes → WindowView → Pulled → Prop where
  | keep (pulled : Pulled) (hnodata : ∀ isRetx header payload,
      pulled ≠ .dataPdu isRetx header payload) : PullMove cfg full before none before pulled
  | retx {sdu : Bytes} {sent so : Nat} {header : PduHeader} {payload : Bytes}
      (hheld : before.held header.sn = some (sdu, sent))
      (hsegment : IsSegment sdu so header payload) :
      PullMove cfg full before none before (.dataPdu true header payload)
  | drop (hidle : Idle before) : PullMove cfg full before none (before.segment none) .nothing
  | finished {sn : Nat} {sdu : Bytes} {sent : Nat}
      (hsegmented : before.segmented = some sn) (hheld : before.held sn = some (sdu, sent))
      (hdone : sent = 0 ∨ sdu.length ≤ sent) :
      PullMove cfg full before none (before.segment none) .nothing
  | fullSdu {sdu : Bytes} {header : PduHeader} (hidle : Idle before) (hfull : full = false)
      (hsn : header.sn = before.txNext) (hsegment : IsSegment sdu 0 header sdu) :
      PullMove cfg full before (some sdu) (((before.segment none).add cfg sdu 0).advance cfg)
        (.dataPdu false header sdu)
  | emptySdu {header : PduHeader} (hidle : Idle before) (hfull : full = false) :
      PullMove cfg full before (some []) ((before.segment none).add cfg [] 0)
        (.noPayload false header)
  | firstSegment {sdu : Bytes} {header : PduHeader} {payload : Bytes}
      (hidle : Idle before) (hfull : full = false) (hsn : header.sn = before.txNext)
      (hlt : payload.length < sdu.length) (hsegment : IsSegment sdu 0 header payload) :
      PullMove cfg full before (some sdu)
        ((before.segment (some before.txNext)).add cfg sdu payload.length)
        (.dataPdu false header payload)
  | middleSegment {sn : Nat} {sdu : Bytes} {sent : Nat} {header : PduHeader}
      {payload : Bytes} (hsegmented : before.segmented = some sn)
      (hheld : before.held sn = some (sdu, sent)) (hsent : 0 < sent)
      (hsn : header.sn = before.txNext) (hlt : sent + payload.length < sdu.length)
      (hsegment : IsSegment sdu sent header payload) :
      PullMove cfg full before none (before.setSent sn sdu (sent + payload.length))
        (.dataPdu false header payload)
  | lastSegment {sn : Nat} {sdu : Bytes} {sent : Nat} {header : PduHeader}
      {payload : Bytes} (hsegmented : before.segmented = some sn)
      (hheld : before.held sn = some (sdu, sent)) (hsent : 0 < sent)
      (hsn : header.sn = before.txNext) (heq : sent + payload.length = sdu.length)
      (hsegment : IsSegment sdu sent header payload) :
      PullMove cfg full before none
        (((before.segment none).setSent sn sdu (sent + payload.length)).advance cfg)
        (.dataPdu false header payload)

lemma frontRetx_spec {queue rest : List Retx}
    (h : entity.frontRetx queue = some (retx, info, rest)) :
    entity.txWindow.get? retx.sn = some info := by
  induction queue with
  | nil => cases h
  | cons first others ih =>
    rw [frontRetx] at h
    split at h
    · rename_i other hother
      obtain ⟨rfl, rfl, -⟩ := h
      exact hother
    · exact ih h

lemma view_consumeRetx (entity : TxEntity cfg) (retx : Retx) (info : SduInfo)
    (rest : List Retx) (payloadLen : Nat) :
    view (entity.consumeRetx retx info rest payloadLen) = view entity := by
  rw [consumeRetx]
  split <;> rfl

lemma retxSi_eq (retx : Retx) (payloadLen sduLength : Nat) :
    retxSi retx (sduLength ≤ retx.so + payloadLen) = segmentSi retx.so payloadLen sduLength := by
  simp [retxSi, segmentSi]

section

variable (full : Bool) (entity : TxEntity cfg) (grant : Nat)

lemma sendRetx_move (rest : List Retx) (hinfo : entity.txWindow.get? retx.sn = some info)
    (hfits : retx.so + retx.length ≤ info.sdu.length) :
    PullMove cfg full (view entity) none (view (entity.sendRetx grant retx info rest).1)
      (entity.sendRetx grant retx info rest).2 := by
  simp only [sendRetx, view_getPollingBit, view_consumeRetx, retxSi_eq]
  split
  · exact .keep _ (by simp)
  · exact .retx (held_of_get? hinfo) (isSegment_slice _ _ (by omega) (by omega))

lemma buildRetxPdu_move :
    PullMove cfg full (view entity) none (view (entity.buildRetxPdu grant).1)
      (entity.buildRetxPdu grant).2 := by
  rw [buildRetxPdu]
  split
  · exact .keep _ (by simp)
  rename_i retx info rest hfront
  rw [← view_selectRetx entity retx rest]
  split
  · exact .keep _ (by simp)
  split
  · exact .keep _ (by simp)
  · have hinfo := frontRetx_spec hfront
    exact sendRetx_move full _ grant rest hinfo (by omega)

end

lemma view_updateNextSo (payloadLen : Nat) (hinfo : entity.txWindow.get? sn = some info) :
    view (entity.updateNextSo sn payloadLen) =
      (view entity).setSent sn info.sdu (info.nextSo + payloadLen) :=
  view_modify entity _ hinfo

lemma view_advanceTxNext (entity : TxEntity cfg) :
    view entity.advanceTxNext = (view entity).advance cfg := rfl

@[simp]
lemma txWindow_getPollingBit (entity : TxEntity cfg) (sn : Nat) (isRetx : Bool) (size : Nat) :
    (entity.getPollingBit sn isRetx size).1.txWindow = entity.txWindow := by
  have hcount : (entity.countPdu isRetx size).txWindow = entity.txWindow := by
    cases isRetx <;> rfl
  rw [getPollingBit]
  split <;> exact hcount

section

variable (full : Bool) (hseg : entity.snUnderSegmentation = some sn)
  (hinfo : entity.txWindow.get? sn = some info) (hsent : 0 < info.nextSo)

include hseg hinfo hsent

lemma buildMiddleSegment_move {grant : Nat} (hgrant : cfg.headMaxSize < grant)
    (hmiddle : grant < info.sdu.length - info.nextSo + cfg.headMaxSize) :
    PullMove cfg full (view entity) none (view (entity.buildMiddleSegment grant sn info).1)
      (entity.buildMiddleSegment grant sn info).2 := by
  have hsi : SiField.middleSegment =
      segmentSi info.nextSo (grant - cfg.headMaxSize) info.sdu.length := by
    rw [segmentSi, if_neg (by omega), if_neg (by omega)]
  have hlen := @length_slice info.sdu info.nextSo (grant - cfg.headMaxSize) (by omega)
  rw [buildMiddleSegment]
  rw [view_updateNextSo _ (by simpa using hinfo), view_getPollingBit, hsi]
  conv => enter [5]; rw [← hlen]
  apply PullMove.middleSegment hseg (held_of_get? hinfo) hsent rfl
  · omega
  · exact isSegment_slice _ _ (by omega) (by omega)

lemma buildLastSegment_move (hlt : info.nextSo < info.sdu.length) :
    PullMove cfg full (view entity) none (view (entity.buildLastSegment sn info).1)
      (entity.buildLastSegment sn info).2 := by
  have hsi : SiField.lastSegment =
      segmentSi info.nextSo (info.sdu.length - info.nextSo) info.sdu.length := by
    rw [segmentSi, if_neg (by omega), if_pos (by omega)]
  have hlen := @length_slice info.sdu info.nextSo (info.sdu.length - info.nextSo) (by omega)
  rw [buildLastSegment]
  rw [view_advanceTxNext, view_updateNextSo _ (by simpa using hinfo), view_getPollingBit, hsi]
  conv => enter [5]; rw [← hlen]
  apply PullMove.lastSegment hseg (held_of_get? hinfo) hsent rfl
  · omega
  · exact isSegment_slice _ _ (by omega) (by omega)

end

lemma buildContinuedSduSegment_move (full : Bool) (grant : Nat)
    (hseg : entity.snUnderSegmentation = some sn) (hinfo : entity.txWindow.get? sn = some info) :
    PullMove cfg full (view entity) none (view (entity.buildContinuedSduSegment grant sn info).1)
      (entity.buildContinuedSduSegment grant sn info).2 := by
  rw [buildContinuedSduSegment]
  split
  · rename_i hdone
    exact .finished hseg (held_of_get? hinfo) hdone
  split
  · exact .keep _ (by simp)
  · split
    · exact buildMiddleSegment_move full hseg hinfo (by omega) (by omega) (by omega)
    · exact buildLastSegment_move full hseg hinfo (by omega) (by omega)

lemma setSent_add (window : WindowView) (sdu : Bytes) (sent : Nat) :
    (window.add cfg sdu 0).setSent window.txNext sdu sent = window.add cfg sdu sent := by
  simp only [WindowView.setSent, WindowView.add, WindowView.mk.injEq, true_and]
  funext sn
  obtain rfl | hne := eq_or_ne sn window.txNext
  · simp
  · simp [hne]

@[simp]
lemma txNext_addSn (entity : TxEntity cfg) (sdu : Bytes) :
    (entity.addSn sdu).txNext = entity.txNext := rfl

section

variable {full : Bool} {entity : TxEntity cfg} {before : WindowView}
  (hidle : Idle before) (hview : view entity = before.segment none)

include hidle hview

lemma buildFirstSduSegment_move {grant : Nat} (hfull : full = false)
    (hgrant : cfg.headMinSize < grant) (hlt : grant < sdu.length + cfg.headMinSize) :
    PullMove cfg full before (some sdu)
      (view ((entity.addSn sdu).buildFirstSduSegment grant { sdu }).1)
      ((entity.addSn sdu).buildFirstSduSegment grant { sdu }).2 := by
  have hnext : before.txNext = entity.txNext := (congrArg WindowView.txNext hview).symm
  have hlen := @length_slice sdu 0 (grant - cfg.headMinSize) (by omega)
  have hsi : SiField.firstSegment = segmentSi 0 (grant - cfg.headMinSize) sdu.length := by
    rw [segmentSi, if_pos rfl, if_neg (by omega)]
  have hinfo : (entity.addSn sdu).txWindow.get? entity.txNext = some { sdu } := by
    simp [addSn, get?_overwrite]
  have hadded : (view (entity.addSn sdu)).segment (some entity.txNext) =
      (before.segment (some before.txNext)).add cfg sdu 0 := by
    rw [view_addSn, hview, hnext]
    rfl
  have hmove (p : Bool) : PullMove cfg full before (some sdu)
      ((before.segment (some before.txNext)).add cfg sdu
        (slice sdu (0 % 2 ^ 16) (grant - cfg.headMinSize)).length)
      (.dataPdu false
        { p, si := segmentSi 0 (grant - cfg.headMinSize) sdu.length, sn := entity.txNext,
          so := 0 % 2 ^ 16 }
        (slice sdu (0 % 2 ^ 16) (grant - cfg.headMinSize))) :=
    .firstSegment hidle hfull hnext.symm (by omega)
      (isSegment_slice p entity.txNext (by omega) (by omega))
  have hkey : (before.segment (some before.txNext)).txNext = entity.txNext := hnext
  rw [hlen, ← setSent_add, hkey, ← hadded] at hmove
  rw [buildFirstSduSegment, hsi]
  rw [view_updateNextSo _ (by simpa using hinfo), view_getPollingBit, Nat.zero_add]
  exact hmove _

lemma buildFullSdu_move (sdu : Bytes) (hfull : full = false) :
    PullMove cfg full before (some sdu) (view ((entity.addSn sdu).buildFullSdu sdu).1)
      ((entity.addSn sdu).buildFullSdu sdu).2 := by
  have hnext : before.txNext = entity.txNext := (congrArg WindowView.txNext hview).symm
  rw [buildFullSdu]
  split_ifs with hempty
  · obtain rfl := List.isEmpty_iff.mp hempty
    rw [view_getPollingBit, view_addSn, hview]
    exact .emptySdu hidle hfull
  · have hpos : 0 < sdu.length := List.length_pos_iff.mpr (by simpa using hempty)
    rw [view_advanceTxNext, view_getPollingBit, view_addSn, hview]
    apply PullMove.fullSdu hidle hfull hnext.symm
    refine ⟨rfl, ?_, hpos, by omega, ?_⟩
    · simp [slice]
    · rw [segmentSi, if_pos rfl, if_pos (by omega)]

lemma buildNewPdu_move (grant : Nat) (hqueue : entity.sduQueue.isEmpty = false)
    (hfull : entity.isTxWindowFull = full) :
    PullMove cfg full before (newSdu entity grant) (view (entity.buildNewPdu grant).1)
      (entity.buildNewPdu grant).2 := by
  rw [buildNewPdu]
  split_ifs with hstop
  · rw [hview, newSdu, if_pos (.inr hstop)]
    exact .drop hidle
  obtain ⟨hgrant, hnotFull⟩ := not_or.mp hstop
  have hfalse : full = false := by simpa [hfull] using hnotFull
  rw [newSdu, if_neg (by simp [hqueue, hstop])]
  split
  · rename_i sduQueue hread
    rw [view_setSduQueue, hview, hread]
    exact .drop hidle
  rename_i sdu sduQueue hread
  rw [hread]
  have htaken := (view_setSduQueue entity sduQueue).trans hview
  split
  · exact buildFirstSduSegment_move hidle htaken hfalse (by omega) (by omega)
  · exact buildFullSdu_move hidle htaken sdu.buf hfalse

lemma pullNewPdu_move (grant : Nat) (hfull : entity.isTxWindowFull = full) :
    PullMove cfg full before (newSdu entity grant) (view (entity.pullNewPdu grant).1)
      (entity.pullNewPdu grant).2 := by
  rw [pullNewPdu]
  split_ifs with hempty
  · rw [hview, newSdu, if_pos (.inl hempty)]
    exact .drop hidle
  · exact buildNewPdu_move hidle hview grant (by simpa using hempty) hfull

end

lemma pullDataPdu_move (entity : TxEntity cfg) (grant : Nat)
    (hretx : entity.maxRetxReached = false) :
    PullMove cfg entity.isTxWindowFull (view entity) (takenSdu entity grant none)
      (view (entity.pullDataPdu grant).1) (entity.pullDataPdu grant).2 := by
  rw [pullDataPdu]
  split
  · rename_i hqueue
    rw [takenSdu, if_pos (.inr (.inr (.inl hqueue)))]
    exact buildRetxPdu_move _ entity grant
  rename_i hqueue
  have hempty : entity.retxQueue.isEmpty := by simpa using hqueue
  split
  · rename_i hnone
    have hidle : Idle (view entity) := by simp [Idle, view, hnone]
    have hsegm : view entity = (view entity).segment none := by
      simp [WindowView.segment, view, hnone]
    rw [takenSdu, if_neg (by simp [hretx, hempty, hnone])]
    exact pullNewPdu_move hidle hsegm grant rfl
  · rename_i sn hsn
    split
    · rename_i info hinfo
      rw [takenSdu, if_pos (by simp [hsn, contains, hinfo])]
      exact buildContinuedSduSegment_move _ grant hsn hinfo
    rename_i hinfo
    have hidle : Idle (view entity) := by simp [Idle, view, hsn, hinfo]
    rw [takenSdu, if_neg (by simp [hretx, hempty, hsn, contains, hinfo])]
    exact pullNewPdu_move hidle (view_segment entity none) grant rfl

lemma pullPdu_move (entity : TxEntity cfg) (grant : Nat) (required : Option StatusPdu) :
    PullMove cfg entity.isTxWindowFull (view entity) (takenSdu entity grant required)
      (view (entity.pullPdu grant required).1) (entity.pullPdu grant required).2 := by
  unfold pullPdu
  split_ifs with hretx
  · rw [takenSdu, if_pos (.inl hretx)]
    exact .keep _ (by simp)
  split
  · rw [takenSdu, if_pos (.inr (.inl rfl))]
    apply PullMove.keep
    intro isRetx header payload
    rw [pullStatusPdu]
    split
    · simp
    · split <;> simp
  · exact pullDataPdu_move entity grant (by simpa using hretx)

end ProtoRu.Rlc
