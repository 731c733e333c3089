import ProtoRu.PdcpRxEntity

namespace ProtoRu.PdcpRx

open PdcpCounts RxEntity List SecurityEngine

variable {cfg : RxConfig}

/-- Neither of the notifications that end the use of a bearer. -/
def Quiet (raised : List Notification) : Prop :=
  .maxCountReached ∉ raised ∧ .protocolFailure ∉ raised

/-- A PDU that comes in at one state, goes to a worker at another and is back at a third raises
nothing, and no assertion fails. -/
structure Harmless (e worker later : RxEntity cfg)
    (decompress : Nat → Bytes → Option Bytes) (pdu : Bytes) : Prop where
  arrives : Quiet (e.handleDataPdu pdu).2
  returns : ∀ info, (e.handleDataPdu pdu).1.queued = e.queued ++ [info] →
    ∃ secured, worker.applySecurity info = some secured ∧
      Quiet (later.handleSecured decompress secured).2
  unverified : ∀ info, (e.handleDataPdu pdu).1.queued = e.queued ++ [info] →
    ∀ secured, worker.applySecurity info = some secured →
      secured.result = .error .integrityFailure →
      (e.handleDataPdu pdu).1 = e.enqueue info ∧
        later.handleSecured decompress secured = (later, [.integrityFailure])

/-- The SN is taken for that of a COUNT below zero, and this COUNT reaches a threshold. -/
def WrapsTo (e : RxEntity cfg) (sn threshold : Nat) : Prop :=
  e.rxDeliv + cfg.snSize.windowSize ≤ sn ∧ threshold ≤ 2 ^ 32 - cfg.snSize.cardinality + sn

/-- A PDU shorter than a header and a MAC is unprotected, not verified, or fails the verification.
-/
def ShortOnlyUnverified (worker : RxEntity cfg) (info : PduInfo) : Prop :=
  info.buf.length < cfg.snSize.dataHeaderSize + macLength →
    match worker.engine with
    | none => cfg.rbType = .drb
    | some engine => engine.mac.isSome → engine.decryptAndVerifyIntegrity info.buf
        cfg.snSize.dataHeaderSize info.count = .error .integrityFailure

/-- What a PDU may be like. -/
def Tame (e worker : RxEntity cfg) (pdu : Bytes) : Prop :=
  ∀ sn ∈ readDataPduHeader cfg.snSize pdu,
    (WrapsTo e sn (cfg.maxCountNotify + 1) → e.maxCountNotified) ∧
      (WrapsTo e sn cfg.maxCountHard → e.maxCountOverflow) ∧
      (¬ WrapsTo e sn cfg.maxCountHard → ShortOnlyUnverified worker ⟨pdu, e.rcvdCount sn⟩)

variable {e worker later : RxEntity cfg} {decompress : Nat → Bytes → Option Bytes}

lemma quiet_nil : Quiet [] := ⟨not_mem_nil, not_mem_nil⟩

lemma quiet_append {raised other : List Notification} :
    Quiet (raised ++ other) ↔ Quiet raised ∧ Quiet other := by
  simp only [Quiet, mem_append, not_or]
  constructor
  · rintro ⟨⟨hmax, hmax'⟩, hfailure, hfailure'⟩
    exact ⟨⟨hmax, hfailure⟩, hmax', hfailure'⟩
  · rintro ⟨⟨hmax, hfailure⟩, hmax', hfailure'⟩
    exact ⟨⟨hmax, hmax'⟩, hfailure, hfailure'⟩

lemma notifyMaxCount_eq {count : Nat} (htold : cfg.maxCountNotify < count → e.maxCountNotified) :
    e.notifyMaxCount count = (e, []) := by
  rw [notifyMaxCount, if_neg]
  rintro ⟨hover, hfirst⟩
  rw [htold hover] at hfirst
  cases hfirst

lemma quiet_notifyMaxCount_iff {count : Nat} :
    Quiet (e.notifyMaxCount count).2 ↔ (cfg.maxCountNotify < count → e.maxCountNotified) := by
  constructor
  · intro hquiet hover
    by_contra hfirst
    rw [notifyMaxCount, if_pos ⟨hover, by simpa using hfirst⟩] at hquiet
    exact hquiet.1 (mem_singleton_self _)
  · intro htold
    rw [notifyMaxCount_eq htold]
    exact quiet_nil

lemma notifyMaxCount_maxCountOverflow (count : Nat) :
    (e.notifyMaxCount count).1.maxCountOverflow = e.maxCountOverflow := by
  rw [notifyMaxCount]
  split <;> rfl

lemma notifyMaxCount_queued (count : Nat) : (e.notifyMaxCount count).1.queued = e.queued := by
  rw [notifyMaxCount]
  split <;> rfl

lemma quiet_refuse_iff : Quiet e.refuse.2 ↔ e.maxCountOverflow := by
  rw [refuse]
  cases e.maxCountOverflow with
  | false =>
    exact ⟨fun hquiet => absurd (mem_singleton_self _) hquiet.2, nofun⟩
  | true =>
    rw [if_neg nofun]
    exact ⟨fun _ => rfl, fun _ => quiet_nil⟩

lemma refuse_queued : e.refuse.1.queued = e.queued := by
  rw [refuse]
  split <;> rfl

variable (engine : SecurityEngine)

lemma length_applyCiphering (buf : Bytes) (offset count : Nat) :
    (engine.applyCiphering buf offset count).length = buf.length := by
  rw [applyCiphering]
  cases hcipher : engine.cipher with
  | none => rfl
  | some cipher =>
    rw [Option.elim_some, length_append, engine.length_cipher cipher hcipher, ← length_append,
      take_append_drop]

/-- Either the verification fails, or it takes off the MAC if there is one. -/
lemma decryptAndVerifyIntegrity_cases (buf : Bytes) (offset count : Nat) :
    engine.decryptAndVerifyIntegrity buf offset count = .error .integrityFailure ∨
      ∃ message, engine.decryptAndVerifyIntegrity buf offset count = .ok message ∧
        message.length = buf.length - if engine.mac.isSome then macLength else 0 := by
  have hlength := length_applyCiphering engine buf offset count
  rw [decryptAndVerifyIntegrity, verifyIntegrity]
  cases engine.mac with
  | none => exact .inr ⟨_, rfl, hlength⟩
  | some mac =>
    simp only [Option.elim_some]
    split
    · exact .inl rfl
    split
    · exact .inl rfl
    · refine .inr ⟨_, rfl, ?_⟩
      rw [length_take, hlength]
      exact Nat.min_eq_left (Nat.sub_le _ _)

variable {info : PduInfo}

lemma applySecurity_of_ok {buf : Bytes}
    (hok : worker.applyDecipheringAndIntegrityCheck info = .ok buf) :
    (∃ secured, worker.applySecurity info = some secured ∧
      Quiet (later.handleSecured decompress secured).2) ↔
        cfg.snSize.dataHeaderSize ≤ buf.length := by
  rw [applySecurity, hok]
  simp only
  split_ifs with hshort
  · refine ⟨?_, fun hle => absurd hshort (Nat.not_lt.mpr hle)⟩
    rintro ⟨_, ⟨⟩, _⟩
  · exact ⟨fun _ => Nat.le_of_not_lt hshort, fun _ => ⟨_, rfl, quiet_nil⟩⟩

lemma applySecurity_of_error {err : SecurityError}
    (herror : worker.applyDecipheringAndIntegrityCheck info = .error err) :
    (∃ secured, worker.applySecurity info = some secured ∧
      Quiet (later.handleSecured decompress secured).2) ↔ err = .integrityFailure := by
  rw [applySecurity, herror]
  constructor
  · rintro ⟨_, ⟨⟩, hquiet⟩
    cases err with
    | integrityFailure => rfl
    | cipheringFailure | bufferFailure | engineFailure =>
      exact absurd (mem_singleton_self _) hquiet.2
  · rintro rfl
    refine ⟨_, rfl, ?_⟩
    show Quiet [.integrityFailure]
    exact ⟨by decide, by decide⟩

lemma applySecurity_quiet_iff (hheader : cfg.snSize.dataHeaderSize < info.buf.length) :
    (∃ secured, worker.applySecurity info = some secured ∧
      Quiet (later.handleSecured decompress secured).2) ↔ ShortOnlyUnverified worker info := by
  have hpos : 0 < cfg.snSize.dataHeaderSize := by cases cfg.snSize <;> decide
  rw [ShortOnlyUnverified]
  cases hengine : worker.engine with
  | some engine =>
    have hcheck : worker.applyDecipheringAndIntegrityCheck info =
        engine.decryptAndVerifyIntegrity info.buf cfg.snSize.dataHeaderSize info.count := by
      rw [applyDecipheringAndIntegrityCheck, hengine]
    obtain herror | ⟨message, hok, hlength⟩ := decryptAndVerifyIntegrity_cases engine info.buf
      cfg.snSize.dataHeaderSize info.count
    · rw [applySecurity_of_error (hcheck.trans herror)]
      exact ⟨fun _ _ _ => herror, fun _ => rfl⟩
    · rw [applySecurity_of_ok (hcheck.trans hok), hlength]
      simp only [hok]
      cases engine.mac.isSome with
      | false => exact ⟨fun _ _ => nofun, fun _ => hheader.le⟩
      | true =>
        refine ⟨fun hle hshort => ?_, fun h => ?_⟩
        · simp only [if_true] at hle
          omega
        · by_contra hlt
          simp only [if_true] at hlt
          cases h (by omega) rfl
  | none =>
    by_cases hsrb : cfg.rbType = .srb
    · by_cases hshort : info.buf.length ≤ macLength
      · rw [applySecurity_of_error (by
          rw [applyDecipheringAndIntegrityCheck, hengine, if_pos hsrb, if_pos hshort])]
        refine ⟨nofun, fun h => ?_⟩
        rw [hsrb] at h
        cases h (by omega)
      · rw [applySecurity_of_ok (by
          rw [applyDecipheringAndIntegrityCheck, hengine, if_pos hsrb, if_neg hshort]),
          length_take, hsrb]
        refine ⟨fun hle hlt => ?_, fun h => ?_⟩
        · omega
        · by_contra hlt
          cases h (by omega)
    · rw [applySecurity_of_ok (by rw [applyDecipheringAndIntegrityCheck, hengine, if_neg hsrb])]
      refine ⟨fun _ _ => ?_, fun _ => hheader.le⟩
      cases hrb : cfg.rbType with
      | srb => exact absurd hrb hsrb
      | drb => rfl

lemma le_rcvdCount_iff {sn threshold : Nat} (hsn : sn < cfg.snSize.cardinality)
    (hwindow : e.rxDeliv + cfg.snSize.windowSize ≤ threshold) :
    threshold ≤ e.rcvdCount sn ↔ WrapsTo e sn threshold := by
  rw [WrapsTo, rcvdCount]
  obtain hnear | hwraps := Nat.lt_or_ge sn (e.rxDeliv + cfg.snSize.windowSize)
  · have := estimateCount_lt cfg.snSize hsn hnear
    omega
  · rw [estimateCount_of_wraps cfg.snSize hsn hwraps]
    exact ⟨fun hreach => ⟨hwraps, hreach⟩, fun hreach => hreach.2⟩

section

variable {pdu : Bytes} {sn : Nat} (hsn : readDataPduHeader cfg.snSize pdu = some sn)

include hsn

lemma harmless_of_accepted (hbelow : ¬ cfg.maxCountHard ≤ e.rcvdCount sn) :
    Harmless e worker later decompress pdu ↔
      (cfg.maxCountNotify < e.rcvdCount sn → e.maxCountNotified) ∧
        ShortOnlyUnverified worker ⟨pdu, e.rcvdCount sn⟩ := by
  have hpdu : e.handleDataPdu pdu = ((e.notifyMaxCount (e.rcvdCount sn)).1.enqueue
      ⟨pdu, e.rcvdCount sn⟩, (e.notifyMaxCount (e.rcvdCount sn)).2) := by
    simp [handleDataPdu, hsn, if_neg hbelow]
  have hqueued : (e.handleDataPdu pdu).1.queued = e.queued ++ [⟨pdu, e.rcvdCount sn⟩] := by
    rw [hpdu, enqueue, notifyMaxCount_queued]
  have hinfo (info : PduInfo) (h : (e.handleDataPdu pdu).1.queued = e.queued ++ [info]) :
      info = ⟨pdu, e.rcvdCount sn⟩ := by
    rw [hqueued] at h
    exact (singleton_inj.mp (append_cancel_left h)).symm
  constructor
  · intro h
    have harrives := h.arrives
    rw [hpdu] at harrives
    exact ⟨quiet_notifyMaxCount_iff.mp harrives,
      (applySecurity_quiet_iff (lt_length_of_readDataPduHeader hsn)).mp (h.returns _ hqueued)⟩
  · rintro ⟨htold, hlong⟩
    refine ⟨?_, ?_, ?_⟩
    · rw [hpdu]
      exact quiet_notifyMaxCount_iff.mpr htold
    · intro info hnew
      obtain rfl := hinfo info hnew
      exact (applySecurity_quiet_iff (lt_length_of_readDataPduHeader hsn)).mpr hlong
    intro info hnew secured _ hresl
    obtain rfl := hinfo info hnew
    refine ⟨?_, by rw [handleSecured, hresl]⟩
    rw [hpdu, notifyMaxCount_eq htold]

lemma harmless_of_refused (hreach : cfg.maxCountHard ≤ e.rcvdCount sn) :
    Harmless e worker later decompress pdu ↔
      (cfg.maxCountNotify < e.rcvdCount sn → e.maxCountNotified) ∧ e.maxCountOverflow := by
  have hpdu : e.handleDataPdu pdu = ((e.notifyMaxCount (e.rcvdCount sn)).1.refuse.1,
      (e.notifyMaxCount (e.rcvdCount sn)).2 ++ (e.notifyMaxCount (e.rcvdCount sn)).1.refuse.2) := by
    simp [handleDataPdu, hsn, if_pos hreach]
  have hnone (info : PduInfo) : (e.handleDataPdu pdu).1.queued ≠ e.queued ++ [info] := by
    rw [hpdu, refuse_queued, notifyMaxCount_queued]
    exact fun h => cons_ne_nil _ _ (self_eq_append_right.mp h)
  have hquiet : Quiet (e.handleDataPdu pdu).2 ↔
      (cfg.maxCountNotify < e.rcvdCount sn → e.maxCountNotified) ∧ e.maxCountOverflow := by
    rw [hpdu, quiet_append, quiet_notifyMaxCount_iff, quiet_refuse_iff,
      notifyMaxCount_maxCountOverflow]
  constructor
  · intro h
    exact hquiet.mp h.arrives
  · intro h
    exact ⟨hquiet.mpr h, fun info hnew => absurd hnew (hnone info),
      fun info hnew => absurd hnew (hnone info)⟩

end

lemma harmless_of_short {pdu : Bytes}
    (hsn : readDataPduHeader cfg.snSize pdu = none) : Harmless e worker later decompress pdu := by
  have hpdu : e.handleDataPdu pdu = (e, []) := by
    simp [handleDataPdu, hsn]
  have hnone (info : PduInfo) : (e.handleDataPdu pdu).1.queued ≠ e.queued ++ [info] := by
    rw [hpdu]
    exact fun h => cons_ne_nil _ _ (self_eq_append_right.mp h)
  refine ⟨?_, fun info hnew => absurd hnew (hnone info), fun info hnew => absurd hnew (hnone info)⟩
  rw [hpdu]
  exact quiet_nil

end ProtoRu.PdcpRx
