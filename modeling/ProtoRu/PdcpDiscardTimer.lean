import ProtoRu.PdcpTxEvents

/-!
The discard timer of a transmitting PDCP entity. One timer serves all SDUs of the window:
it runs for the oldest one and is armed again, by differences of 32 bit ticks, whenever the
oldest one changes. A status report that takes the oldest SDU away leaves the timer as it
is, a callback that comes late arms it relative to its own time, and a notification after
the due time of the next SDU makes the difference wrap around.
-/

namespace ProtoRu.PdcpTx

open TxEntity TxEntity Option

variable {cfg : TxConfig}

def arrival (e : TxEntity cfg) (count : Nat) : Option Nat :=
  (e.txWindow.get? count).map Element.tickPointOfArrival

variable {count tick : Nat}

lemma arrival_eq_some_iff {e : TxEntity cfg} : arrival e count = some tick ↔
      ∃ elem, e.txWindow.get? count = some elem ∧ elem.tickPointOfArrival = tick :=
  map_eq_some_iff

lemma hasSn_eq_isSome (e : TxEntity cfg) (count : Nat) :
    e.hasSn count = (arrival e count).isSome := by
  rw [arrival, isSome_map]
  rfl

lemma exists_arrival {e : TxEntity cfg} {count : Nat} (hsn : e.hasSn count) :
    ∃ tick, arrival e count = some tick := by
  rw [hasSn_eq_isSome] at hsn
  exact isSome_iff_exists.mp hsn

lemma arrival_of_shrunk {e after : TxEntity cfg} (h : Shrunk e after)
    (harr : arrival after count = some tick) : arrival e count = some tick := by
  obtain ⟨elem, helem, htick⟩ := arrival_eq_some_iff.mp harr
  exact arrival_eq_some_iff.mpr ⟨elem, h.elements count elem helem, htick⟩

/-- The SDUs are in order of arrival, the timer runs for the oldest, and none was discarded early.
-/
structure Timed (ms : Nat) (e : TxEntity cfg) : Prop where
  inside : ∀ count tick, arrival e count = some tick →
    e.txNextAck ≤ count ∧ count < e.txNext ∧ tick ≤ e.now
  oldest : e.txNextAck < e.txNext → e.hasSn e.txNextAck
  le_next : e.txNextAck ≤ e.txNext
  sorted : ∀ count later tick tick', arrival e count = some tick →
    arrival e later = some tick' → count ≤ later → tick ≤ tick'
  armed : ∀ tick, arrival e e.txNextAck = some tick →
    ∃ deadline, e.discardDeadline = some deadline ∧ tick + ms ≤ deadline ∧
      deadline ≤ max (tick + ms) (e.now + 1)
  idle : e.txNextAck = e.txNext → e.discardDeadline = none
  never_early : ∀ discard ∈ e.timerDiscards, discard.arrival + ms ≤ discard.time

section

variable {ms : Nat} {e after : TxEntity cfg}

lemma Timed.of_eq (h : Timed ms e) (harr : ∀ count, arrival after count = arrival e count)
    (hack : after.txNextAck = e.txNextAck) (hnext : after.txNext = e.txNext)
    (hnow : after.now = e.now) (hdeadline : after.discardDeadline = e.discardDeadline)
    (hdisc : after.timerDiscards = e.timerDiscards) : Timed ms after where
  inside := by
    simpa [harr, hack, hnext, hnow] using h.inside
  oldest := by
    simpa [hasSn_eq_isSome, harr, hack, hnext] using h.oldest
  le_next := by
    simpa [hack, hnext] using h.le_next
  sorted := by
    simpa [harr] using h.sorted
  armed := by
    simpa [harr, hack, hnow, hdeadline] using h.armed
  idle := by
    simpa [hack, hnext, hdeadline] using h.idle
  never_early := by
    simpa [hdisc] using h.never_early

lemma Timed.lower (h : Timed ms e) : Lower e := by
  intro count hsn
  obtain ⟨tick, htick⟩ := exists_arrival hsn
  exact (h.inside count tick htick).1

lemma Timed.shrunk (h : Timed ms e) (hshrunk : Shrunk e after)
    (holdest : after.txNextAck < after.txNext → after.hasSn after.txNextAck)
    (harmed : ∀ tick, arrival after after.txNextAck = some tick →
      ∃ deadline, after.discardDeadline = some deadline ∧ tick + ms ≤ deadline ∧
        deadline ≤ max (tick + ms) (e.now + 1))
    (hidle : after.txNextAck = after.txNext → after.discardDeadline = none)
    (hearly : ∀ discard ∈ after.timerDiscards, discard.arrival + ms ≤ discard.time) :
    Timed ms after where
  inside := by
    intro count tick harr
    have hnow : after.now = e.now := (congrArg now hshrunk.frame :)
    obtain ⟨-, hlt, htick⟩ := h.inside count tick (arrival_of_shrunk hshrunk harr)
    refine ⟨hshrunk.lower h.lower count ?_, ?_, ?_⟩
    · rw [hasSn_eq_isSome, harr]
      rfl
    · rwa [hshrunk.txNext]
    · rwa [hnow]
  oldest := holdest
  le_next := by
    rw [hshrunk.txNext]
    exact hshrunk.le_txNext h.le_next
  sorted := by
    intro count later tick tick' hcount hlater
    exact h.sorted count later tick tick' (arrival_of_shrunk hshrunk hcount)
      (arrival_of_shrunk hshrunk hlater)
  armed := by
    have hnow : after.now = e.now := (congrArg now hshrunk.frame :)
    rwa [hnow]
  idle := hidle
  never_early := hearly

lemma Timed.rearmed (h : Timed ms e) (hshrunk : Shrunk e after) {tick deadline : Nat}
    (htick : arrival after after.txNextAck = some tick)
    (hdeadline : after.discardDeadline = some deadline) (hlow : tick + ms ≤ deadline)
    (hhigh : deadline ≤ max (tick + ms) (e.now + 1))
    (hearly : ∀ discard ∈ after.timerDiscards, discard.arrival + ms ≤ discard.time) :
    Timed ms after := by
  refine h.shrunk hshrunk (fun _ => ?_) (fun other hother => ?_) (fun hempty => ?_) hearly
  · rw [hasSn_eq_isSome, htick]
    rfl
  · obtain rfl : tick = other := some.inj (htick.symm.trans hother)
    exact ⟨deadline, hdeadline, hlow, hhigh⟩
  · have hlast := (h.inside _ tick (arrival_of_shrunk hshrunk htick)).2.1
    rw [hshrunk.txNext] at hempty
    omega

end

section

variable {ms : Nat} {e after : TxEntity cfg}

def Overdue (e : TxEntity cfg) (count : Nat) : Prop :=
  ∃ tick ∈ arrival e count, ∃ ms ∈ cfg.duration, tick + ms < e.now
  deriving Decidable

section

variable (hms : cfg.duration = some ms)

include hms

lemma le_of_not_overdue (hdue : ¬ Overdue e count) (htick : arrival e count = some tick) :
    e.now ≤ tick + ms := by
  by_contra hlate
  exact hdue ⟨tick, htick, ms, hms, Nat.lt_of_not_le hlate⟩

lemma rearmDiscardTimer_timed (hmax : ms < 2 ^ 32) (hdue : ¬ Overdue e e.txNextAck)
    (hpast : ∀ tick, arrival e e.txNextAck = some tick → tick ≤ e.now)
    (hok : e.rearmDiscardTimer = .ok after) : after = e ∧ e.txNextAck = e.txNext ∨
      ∃ tick, arrival e e.txNextAck = some tick ∧
        after = { e with discardDeadline := some (e.now + max (tick + ms - e.now) 1) } := by
  rw [rearmDiscardTimer] at hok
  simp only [hms] at hok
  split_ifs at hok with hempty
  · cases hok
    exact .inl ⟨rfl, hempty⟩
  split at hok
  · cases hok
  rename_i elem helem
  cases hok
  have htick : arrival e e.txNextAck = some elem.tickPointOfArrival :=
    arrival_eq_some_iff.mpr ⟨elem, helem, rfl⟩
  have hleft := le_of_not_overdue hms hdue htick
  have hbefore := hpast _ htick
  refine .inr ⟨_, htick, ?_⟩
  rw [runDiscardTimer, unsignedOffset_mod_eq (Nat.dvd_refl _) (Nat.ModEq.refl _) hleft (by omega)]

lemma stopDiscardTimer_timed (hmax : ms < 2 ^ 32) (h : Timed ms e) {highestCount : Nat}
    (hdue : ¬ Overdue e (highestCount + 1)) (hok : e.stopDiscardTimer highestCount = .ok after) :
    Timed ms after := by
  have hshrunk := stopDiscardTimer_shrunk hok
  obtain heq | ⟨hle, hlt, -, heq⟩ := stopDiscardTimer_cases e highestCount
  · rw [heq] at hok
    cases hok
    exact h
  rw [heq] at hok
  obtain ⟨hack, hget, -, hdeadline, hdisc, hframe⟩ := stopped_spec e hle
  have hnow : (stopped e highestCount).now = e.now := (congrArg now hframe :)
  have hnext : (stopped e highestCount).txNext = e.txNext := (congrArg txNext hframe :)
  have harr : arrival (stopped e highestCount) (highestCount + 1) =
      arrival e (highestCount + 1) := by
    rw [arrival, arrival, hget, if_neg (by omega)]
  have hrearmed := rearmDiscardTimer_timed hms hmax (by rw [hack, Overdue, harr, hnow]; exact hdue)
    (by
      rw [hack, harr, hnow]
      intro tick htick
      exact (h.inside _ tick htick).2.2)
    hok
  have hearly : ∀ discard ∈ (stopped e highestCount).timerDiscards,
      discard.arrival + ms ≤ discard.time := by
    rw [hdisc]
    exact h.never_early
  obtain ⟨rfl, hempty⟩ | ⟨tick, htick, rfl⟩ := hrearmed
  · refine h.shrunk hshrunk (by omega) ?_ (fun _ => hdeadline) hearly
    intro tick htick
    have := (h.inside _ tick (arrival_of_shrunk hshrunk htick)).2.1
    omega
  · exact h.rearmed hshrunk htick rfl (by omega) (by rw [hnow]; omega) hearly

end

section

variable (hms : cfg.duration = some ms) (hmax : ms < 2 ^ 32) (h : Timed ms e) {notifSn : Nat}
  (hdue : ¬ Overdue e (e.notificationCountEstimation notifSn + 1))

include hms hmax h hdue

lemma handleTransmitNotification_timed (hok : e.handleTransmitNotification notifSn = .ok after) :
    Timed ms after := by
  have hraised (count : Nat) : Timed ms { e with txTrans := count } :=
    h.of_eq (fun _ => rfl) rfl rfl rfl rfl rfl
  obtain rfl | ⟨count, rfl, -, -, hok | rfl⟩ := handleTransmitNotification_ok hok
  · exact h
  · exact stopDiscardTimer_timed hms hmax (hraised (_ + 1)) hdue hok
  · exact hraised _

lemma handleDeliveryNotification_timed (hok : e.handleDeliveryNotification notifSn = .ok after) :
    Timed ms after := by
  obtain rfl | ⟨-, hok⟩ := handleDeliveryNotification_ok hok
  · exact h
  · exact stopDiscardTimer_timed hms hmax h hdue hok

end

end

section

variable {ms : Nat} {e : TxEntity cfg}

lemma handleStatusReport_timed (h : Timed ms e) {status : Bytes}
    (hspares : e.txNextAck < e.txNext → ¬ Acknowledges status e.txNextAck) :
    Timed ms (e.handleStatusReport status) := by
  have hshrunk := handleStatusReport_shrunk e status
  have htimer : (e.handleStatusReport status).discardDeadline = e.discardDeadline ∧
      (e.handleStatusReport status).timerDiscards = e.timerDiscards := by
    obtain heq | ⟨counts, heq, -⟩ := handleStatusReport_cases e status
    · rw [heq]
      exact ⟨rfl, rfl⟩
    · rw [heq]
      exact discardPdus_timer counts e
  have hkept : e.txNextAck < e.txNext → (e.handleStatusReport status).hasSn e.txNextAck :=
    fun hlt => handleStatusReport_hasSn e (hspares hlt) (h.oldest hlt)
  have hack : (e.handleStatusReport status).txNextAck = e.txNextAck := by
    apply Nat.le_antisymm _ hshrunk.txNextAck_le
    obtain heq | hlt := h.le_next.eq_or_lt
    · rw [heq]
      exact hshrunk.le_txNext h.le_next
    · exact hshrunk.lower h.lower _ (hkept hlt)
  apply h.shrunk hshrunk
  · rwa [hack, hshrunk.txNext]
  · intro tick htick
    rw [hack] at htick
    rw [htimer.1]
    exact h.armed tick (arrival_of_shrunk hshrunk htick)
  · rw [hack, hshrunk.txNext, htimer.1]
    exact h.idle
  · rw [htimer.2]
    exact h.never_early

/-- The SDUs that arrived with the oldest are discarded, and the timer is armed for the next one.
-/
lemma discardOldest_timed (hcfg : cfg.discardTimer ≠ none) (hmax : ms < 2 ^ 32) {oldest : Nat}
    (rounds : Nat) {e : TxEntity cfg}
    (h : Timed ms { e with discardDeadline := some (oldest + ms) })
    (holdest : arrival e e.txNextAck = some oldest) (hnow : oldest + ms = e.now)
    (hexpd : e.discardDeadline = none) (hrounds : e.txNext - e.txNextAck ≤ rounds) :
    Timed ms (discardOldest oldest rounds e) := by
  induction rounds generalizing e with
  | zero =>
    have hlt : e.txNextAck < e.txNext := (h.inside _ _ holdest).2.1
    omega
  | succ rounds ih =>
    have hlt : e.txNextAck < e.txNext := (h.inside _ _ holdest).2.1
    have hsn : e.hasSn e.txNextAck := by
      rw [hasSn_eq_isSome, holdest]
      rfl
    obtain ⟨ack, heq, hle, hbound, -, hfound⟩ :=
      discardPdu_eq e hcfg le_rfl hlt hsn
    have hack : e.discardFirst.txNextAck = ack := (congrArg txNextAck heq :)
    have hnext : e.discardFirst.txNext = e.txNext := (congrArg txNext heq :)
    have hclock : e.discardFirst.now = e.now := (congrArg now heq :)
    have hdeadline : e.discardFirst.discardDeadline = none :=
      (congrArg discardDeadline heq :).trans hexpd
    have hshrunk : Shrunk { e with discardDeadline := some (oldest + ms) } e.discardFirst :=
      (shrunk_discardDeadline { e with discardDeadline := some (oldest + ms) }
        e.discardDeadline).trans (discardFirst_shrunk e)
    have hearly : ∀ discard ∈ e.discardFirst.timerDiscards,
        discard.arrival + ms ≤ discard.time := by
      intro discard hdiscard
      obtain ⟨elem, helem, htick⟩ := arrival_eq_some_iff.mp holdest
      rw [discardFirst, helem] at hdiscard
      obtain hold | hnew := List.mem_append.mp hdiscard
      · exact h.never_early discard hold
      · simp only [toList_some, List.map_cons, List.map_nil, List.mem_singleton] at hnew
        rw [hnew]
        simp [htick, hnow]
    rw [discardOldest]
    split
    · -- Nothing is left in the window.
      rename_i hnone
      refine h.shrunk hshrunk ?_ ?_ (fun _ => hdeadline) hearly
      · rw [hack, hnext]
        intro hack
        obtain ⟨hne, hthere⟩ := hfound hack
        exact discardPdu_hasSn e hne hthere
      · rw [arrival, hnone]
        intro tick htick
        cases htick
    rename_i elem helem
    have hfirst : arrival e.discardFirst e.discardFirst.txNextAck =
        some elem.tickPointOfArrival := arrival_eq_some_iff.mpr ⟨elem, helem, rfl⟩
    have hold := arrival_of_shrunk hshrunk hfirst
    obtain ⟨-, hinside, hpast⟩ := h.inside _ _ hold
    have hsorted := h.sorted _ _ _ _ holdest hold (by rw [hack]; exact hle)
    simp only [hack] at hinside
    simp only at hpast
    split
    · -- The next SDU arrived later.
      rename_i hlater
      have hoff : unsignedOffset (2 ^ 32) (oldest % 2 ^ 32) elem.tickPointOfArrival =
          elem.tickPointOfArrival - oldest :=
        unsignedOffset_mod_eq (Nat.dvd_refl _) (Nat.ModEq.refl _) hsorted (by omega)
      rw [runDiscardTimer, hoff]
      exact h.rearmed (hshrunk.trans (shrunk_discardDeadline _ _)) hfirst rfl (by omega)
        (by rw [hclock]; omega) hearly
    rename_i hsame
    obtain rfl : oldest = elem.tickPointOfArrival :=
      eq_of_mod_eq_of_window le_rfl (by omega) hsorted (by omega) (not_not.mp hsame).symm
    split_ifs with hempty
    · rw [hack, hnext] at hempty
      omega
    apply ih _ hfirst (by rw [hclock]; exact hnow) hdeadline
    · have hne : ack ≠ e.txNextAck := (hfound hinside).1
      rw [hack, hnext]
      omega
    exact h.rearmed (hshrunk.trans (shrunk_discardDeadline _ _)) hfirst rfl le_rfl
      (Nat.le_max_left _ _) hearly

lemma discardCallback_timed (hms : cfg.duration = some ms) (hmax : ms < 2 ^ 32) (h : Timed ms e)
    (hdue : ∃ deadline ∈ e.discardDeadline, deadline ≤ e.now) (hontime : ¬ Overdue e e.txNextAck) :
    Timed ms e.discardCallback := by
  have hcfg : cfg.discardTimer ≠ none := by
    intro hnone
    rw [TxConfig.duration, hnone] at hms
    cases hms
  obtain ⟨deadline, hdeadline, hexpd⟩ := hdue
  have hlt : e.txNextAck < e.txNext := by
    apply Nat.lt_of_le_of_ne h.le_next
    intro hempty
    rw [h.idle hempty] at hdeadline
    cases hdeadline
  obtain ⟨tick, htick⟩ := exists_arrival (h.oldest hlt)
  obtain ⟨armed, harmed, hlow, -⟩ := h.armed tick htick
  obtain rfl : armed = deadline := some.inj (harmed.symm.trans hdeadline)
  have hnow : tick + ms = e.now :=
    Nat.le_antisymm (hlow.trans hexpd) (le_of_not_overdue hms hontime htick)
  obtain ⟨elem, helem, rfl⟩ := arrival_eq_some_iff.mp htick
  rw [discardCallback, helem]
  refine @discardOldest_timed cfg ms hcfg hmax _ _ { e with discardDeadline := none } ?_ htick hnow
    rfl le_rfl
  have hruns : armed = elem.tickPointOfArrival + ms := by omega
  rw [← hruns]
  exact h.of_eq (fun _ => rfl) rfl rfl rfl harmed.symm rfl

end

section

variable {ms : Nat} {e : TxEntity cfg}

lemma duration_bounds (hms : cfg.duration = some ms) : 10 ≤ ms ∧ ms < 2 ^ 32 := by
  obtain ⟨timer, -, htimer⟩ := bind_eq_some_iff.mp hms
  cases timer <;> cases htimer <;> decide

lemma arrival_addSdu (h : Timed ms e) (hroom : e.txNext < e.txNextAck + cfg.snSize.windowSize)
    (sdu : Bytes) (count : Nat) :
    arrival (e.addSdu sdu) count = if count = e.txNext then some e.now else arrival e count := by
  have hget : (e.addSdu sdu).txWindow.get? count = _ :=
    CircularMap.get?_overwrite e.txWindow e.txNext count _
  rw [arrival, hget]
  split
  · rfl
  split
  · rename_i hne hslot
    rcases htick : arrival e count with _ | tick
    · rfl
    · obtain ⟨hge, hlt, -⟩ := h.inside count tick htick
      exact absurd (eq_of_mod_eq_of_window hge (by omega) h.le_next hroom hslot) hne
  · rfl

lemma startDiscardTimer_timed (hms : cfg.duration = some ms) (h : Timed ms e) :
    e.txNextAck < e.txNext ∧ e.startDiscardTimer = e ∨ e.txNextAck = e.txNext ∧
        e.startDiscardTimer = { e with discardDeadline := some (e.now + ms) } := by
  have hmin := (duration_bounds hms).1
  rw [startDiscardTimer]
  simp only [hms]
  obtain hempty | hlt := h.le_next.eq_or_lt
  · refine .inr ⟨hempty, ?_⟩
    rw [if_pos (by rw [h.idle hempty]; rfl), runDiscardTimer, Nat.max_eq_left (by omega)]
  obtain ⟨tick, htick⟩ := exists_arrival (h.oldest hlt)
  obtain ⟨deadline, hdeadline, -⟩ := h.armed tick htick
  refine .inl ⟨hlt, ?_⟩
  rw [if_neg (by rw [hdeadline]; simp)]

lemma Timed.append (h : Timed ms e) {after : TxEntity cfg} (harr : ∀ count, arrival after count =
      if count = e.txNext then some e.now else arrival e count)
    (hack : after.txNextAck = e.txNextAck) (hnext : after.txNext = e.txNext + 1)
    (hnow : after.now = e.now)
    (hdeadline : after.discardDeadline =
      if e.txNextAck = e.txNext then some (e.now + ms) else e.discardDeadline)
    (hdisc : after.timerDiscards = e.timerDiscards) : Timed ms after where
  inside := by
    intro count tick htick
    rw [harr] at htick
    rw [hack, hnext, hnow]
    split_ifs at htick with heq
    · cases htick
      exact ⟨h.le_next.trans_eq heq.symm, by omega, le_rfl⟩
    · obtain ⟨hge, hlt, hpast⟩ := h.inside count tick htick
      exact ⟨hge, by omega, hpast⟩
  oldest := by
    intro _
    rw [hasSn_eq_isSome, harr, hack]
    split_ifs with hne
    · rfl
    · rw [← hasSn_eq_isSome]
      exact h.oldest (Nat.lt_of_le_of_ne h.le_next hne)
  le_next := by
    have hle := h.le_next
    omega
  sorted := by
    intro count later tick tick' hcount hlater hle
    rw [harr] at hcount hlater
    split at hlater
    · cases hlater
      split at hcount
      · cases hcount
        exact le_rfl
      · exact (h.inside count tick hcount).2.2
    · have hlt := (h.inside later tick' hlater).2.1
      rw [if_neg (by omega)] at hcount
      exact h.sorted count later tick tick' hcount hlater hle
  armed := by
    intro tick htick
    rw [harr, hack] at htick
    rw [hdeadline, hnow]
    split_ifs at htick with hempty
    · cases htick
      rw [if_pos hempty]
      exact ⟨_, rfl, le_rfl, Nat.le_max_left _ _⟩
    · rw [if_neg hempty]
      exact h.armed tick htick
  idle := by
    intro hempty
    have hle := h.le_next
    omega
  never_early := by
    rw [hdisc]
    exact h.never_early

lemma handleSdu_timed (hms : cfg.duration = some ms) (h : Timed ms e)
    (hroom : cfg.rbType = .srb → e.txNext < e.txNextAck + cfg.snSize.windowSize)
    (sdu payload : Bytes) : Timed ms (e.handleSdu sdu true (some payload)) := by
  rw [handleSdu]
  split
  · exact h
  rename_i hkeep
  have hroom : e.txNext < e.txNextAck + cfg.snSize.windowSize := by
    cases hbearer : cfg.rbType with
    | srb => exact hroom hbearer
    | drb =>
      have hdrop : e.checkEarlyDrop sdu = .noDrop := by simpa [hbearer] using hkeep
      rw [checkEarlyDrop] at hdrop
      split at hdrop
      · cases hdrop
      split at hdrop
      · cases hdrop
      split at hdrop
      · cases hdrop
      · have := h.le_next
        omega
  split
  · exact h
  split
  · rename_i hcopied
    cases hcopied.2
  obtain ⟨hlt, hstart⟩ | ⟨hempty, hstart⟩ := startDiscardTimer_timed hms h
  · rw [hstart]
    exact h.append (arrival_addSdu h hroom sdu) rfl rfl rfl (if_neg hlt.ne).symm rfl
  · rw [hstart]
    exact h.append (arrival_addSdu h hroom sdu) rfl rfl rfl (if_pos hempty).symm rfl

end

end ProtoRu.PdcpTx
