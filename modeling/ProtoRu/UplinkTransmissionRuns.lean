import ProtoRu.GpsSlotAlignment
import ProtoRu.UplinkTransmission

namespace ProtoRu.UplinkFrames

open FramePool Int List Function SlotSymbolPoint EthFramePool

def nofSymbolsPerFrame (scs : SubcarrierSpacing) (cp : CyclicPrefix) : Nat :=
  nofSubframesPerFrame * getNofSlotsPerSubframe scs * getNsymbPerSlot cp

/-- The window in symbols after the captured one. The command line bounds it by 5 ms. -/
structure RuMessageTransmitterConfig where
  scs : SubcarrierSpacing
  cp : CyclicPrefix
  numOfFrames : Nat
  txWindowStart : Nat
  txWindowEnd : Nat
  txWindowStart_le : txWindowStart ≤ nofSymbolsPerFrame scs cp
  txWindowEnd_le : txWindowEnd ≤ nofSymbolsPerFrame scs cp

inductive FramePoolKind where
  | uplinkUplane
  | prach
  deriving DecidableEq

structure FrameHandle where
  kind : FramePoolKind
  buffer : ScopedFrameBuffer
  deriving DecidableEq

section

variable (config : RuMessageTransmitterConfig)

def dueInterval (symbolPoint : SlotSymbolPoint) : FramePoolInterval :=
  ⟨symbolPoint.sub config.txWindowStart, symbolPoint.sub config.txWindowEnd⟩

def onNewSymbol (pools : FramePoolKind → EthFramePool) (symbolPoint : SlotSymbolPoint) :
    List FrameHandle × (FramePoolKind → EthFramePool) :=
  let uplink := sendPending (pools .uplinkUplane) (dueInterval config symbolPoint)
  let prach := sendPending (pools .prach) (dueInterval config symbolPoint)
  (uplink.1.map (FrameHandle.mk .uplinkUplane) ++ prach.1.map (FrameHandle.mk .prach), fun
      | .uplinkUplane => uplink.2
      | .prach => prach.2)

def otaSymbolPoint (symbol : Int) : SlotSymbolPoint :=
  .ofAbsolute (getNsymbPerSlot config.cp) (toNumerologyValue config.scs) symbol

def wireSymbolPoint (symbol : Int) : SlotSymbolPoint :=
  .ofSlot ⟨toNumerologyValue config.scs,
      (symbol / getNsymbPerSlot config.cp % wirePeriod (toNumerologyValue config.scs)).toNat⟩
    (symbol % getNsymbPerSlot config.cp).toNat (getNsymbPerSlot config.cp)

def ringSymbols : Nat := ringLength (getNsymbPerSlot config.cp) (toNumerologyValue config.scs)

section

variable (pools : FramePoolKind → EthFramePool) (symbolPoint : SlotSymbolPoint)

lemma mem_onNewSymbol (handle : FrameHandle) : handle ∈ (onNewSymbol config pools symbolPoint).1 ↔
      handle.buffer ∈ (sendPending (pools handle.kind) (dueInterval config symbolPoint)).1 := by
  obtain ⟨kind, buffer⟩ := handle
  simp only [onNewSymbol]
  cases kind <;> simp

lemma onNewSymbol_pool (kind : FramePoolKind) : (onNewSymbol config pools symbolPoint).2 kind =
      (sendPending (pools kind) (dueInterval config symbolPoint)).2 := by
  cases kind <;> rfl

end

lemma nofSymbols_pos : 0 < getNsymbPerSlot config.cp := getNsymbPerSlot_pos config.cp

lemma ring_dvd_wire :
    ringSymbols config ∣ getNsymbPerSlot config.cp * wirePeriod (toNumerologyValue config.scs) := by
  apply Nat.mul_dvd_mul_left
  apply Nat.dvd_trans (ringSlots_dvd (toNumerologyValue_lt config.scs))
  refine ⟨256, ?_⟩
  simp only [wirePeriod, sfnMaxValue]
  ring

lemma ring_dvd_wrapLength :
    ringSymbols config ∣ wrapLength (getNsymbPerSlot config.cp) (toNumerologyValue config.scs) := by
  apply Nat.dvd_trans (ring_dvd_wire config)
  refine ⟨4, ?_⟩
  simp only [wirePeriod, sfnMaxValue, wrapLength, nofSfns]
  ring

lemma otaSymbolPoint_count_emod (symbol : Int) :
    ((otaSymbolPoint config symbol).count : Int) % ringSymbols config =
      symbol % ringSymbols config := by
  simp only [otaSymbolPoint]
  rw [ofAbsolute_count_cast (nofSymbols_pos config)]
  exact emod_emod_of_dvd symbol (natCast_dvd_natCast.mpr (ring_dvd_wrapLength config))

lemma wireSymbolPoint_count_emod (symbol : Int) :
    ((wireSymbolPoint config symbol).count : Int) % ringSymbols config =
      symbol % ringSymbols config := by
  have hsyms : (0 : Int) < getNsymbPerSlot config.cp :=
    natCast_pos.mpr (nofSymbols_pos config)
  have hper : (0 : Int) < wirePeriod (toNumerologyValue config.scs) :=
    natCast_pos.mpr (wirePeriod_pos _)
  have hdvd : (ringSymbols config : Int) ∣
      getNsymbPerSlot config.cp * wirePeriod (toNumerologyValue config.scs) := by
    exact_mod_cast ring_dvd_wire config
  have hcount : ((wireSymbolPoint config symbol).count : Int) =
      getNsymbPerSlot config.cp * (symbol / getNsymbPerSlot config.cp) %
          (getNsymbPerSlot config.cp * wirePeriod (toNumerologyValue config.scs)) +
        symbol % getNsymbPerSlot config.cp := by
    change (((_ : Nat) * getNsymbPerSlot config.cp + (_ : Nat) : Nat) : Int) = _
    rw [natCast_add, natCast_mul, toNat_of_nonneg (emod_nonneg _ hper.ne'),
      toNat_of_nonneg (emod_nonneg _ hsyms.ne'),
      mul_emod_mul_of_pos _ _ hsyms, mul_comm]
  rw [hcount, ← emod_add_emod, emod_emod_of_dvd _ hdvd, emod_add_emod,
    mul_ediv_add_emod]

lemma poolEntryIndex_otaSymbolPoint_eq_iff (symbol reserved : Int) :
    poolEntryIndex (otaSymbolPoint config symbol) =
        poolEntryIndex (wireSymbolPoint config reserved) ↔
      symbol % ringSymbols config = reserved % ringSymbols config := by
  rw [← otaSymbolPoint_count_emod config symbol, ← wireSymbolPoint_count_emod config reserved]
  have hiff := poolEntryIndex_eq_iff (toNumerologyValue_lt config.scs) (nofSymbols_pos config)
    (getNsymbPerSlot_le_max config.cp) (otaSymbolPoint config symbol).count
    (wireSymbolPoint config reserved).count
  exact_mod_cast hiff

lemma mem_dueInterval_entries (now : Int) (entry : Nat) :
    entry ∈ (dueInterval config (otaSymbolPoint config now)).entries ↔
      ∃ symbol, now - config.txWindowStart ≤ symbol ∧ symbol ≤ now - config.txWindowEnd ∧
        poolEntryIndex (otaSymbolPoint config symbol) = entry := by
  have hwrap : wrapLength (getNsymbPerSlot config.cp)
      (toNumerologyValue config.scs) = 1024 * nofSymbolsPerFrame config.scs config.cp := by
    simp only [wrapLength, nofSymbolsPerFrame, getNofSlotsPerSubframe, nofSfns]
    ring
  have hframe : 0 < nofSymbolsPerFrame config.scs config.cp := by
    have := wrapLength_pos (nofSymbols_pos config) (toNumerologyValue config.scs)
    omega
  have hstart := config.txWindowStart_le
  have hend := config.txWindowEnd_le
  unfold dueInterval FramePoolInterval.entries otaSymbolPoint
  rw [ofAbsolute_sub (nofSymbols_pos config), ofAbsolute_sub (nofSymbols_pos config),
    ofAbsolute_distance (nofSymbols_pos config) _ (by omega) (by omega)]
  split_ifs with hgt
  · rw [ofAbsolute_gt_iff (nofSymbols_pos config) _ (by omega) (by omega)] at hgt
    constructor
    · simp
    · rintro ⟨symbol, hlow, hhigh, -⟩
      omega
  · rw [mem_map]
    constructor
    · rintro ⟨i, hi, rfl⟩
      rw [mem_range] at hi
      refine ⟨now - config.txWindowStart + i, by omega, by omega, ?_⟩
      rw [ofAbsolute_add (nofSymbols_pos config)]
    · rintro ⟨symbol, hlow, hhigh, rfl⟩
      refine ⟨(symbol - (now - config.txWindowStart)).toNat, ?_, ?_⟩
      · rw [mem_range]
        omega
      · rw [ofAbsolute_add (nofSymbols_pos config), toNat_of_nonneg (by omega), add_sub_cancel]

/-- The window of a frame has not closed, and none of an earlier symbol with its ring entry is to
pass. -/
def InTime (symbol now : Int) : Prop :=
  now < symbol + config.txWindowStart ∧
    (symbol - ringSymbols config + config.txWindowStart ≤ now ∨
      symbol + config.txWindowEnd ≤ now + 1)
  deriving Decidable

def InWindow (symbol tick : Int) : Prop :=
  config.txWindowEnd ≤ tick - symbol ∧ tick - symbol ≤ config.txWindowStart
  deriving Decidable

lemma InTime.inWindow {symbol now : Int} (hin : InTime config symbol now)
    (hvisit : poolEntryIndex (wireSymbolPoint config symbol) ∈
      (dueInterval config (otaSymbolPoint config (now + 1))).entries) :
    InWindow config symbol (now + 1) := by
  obtain ⟨due, hlow, hhigh, hentry⟩ := (mem_dueInterval_entries config _ _).mp hvisit
  rw [poolEntryIndex_otaSymbolPoint_eq_iff] at hentry
  obtain ⟨hopen, hpassed⟩ := hin
  refine ⟨?_, by omega⟩
  by_contra hearly
  have hdvd : (ringSymbols config : Int) ∣ symbol - due := Int.ModEq.dvd hentry
  have hle := le_of_dvd (by omega) hdvd
  omega

lemma InTime.next {symbol now : Int} (hin : InTime config symbol now)
    (hwindow : config.txWindowEnd ≤ config.txWindowStart)
    (hvisit : poolEntryIndex (wireSymbolPoint config symbol) ∉
      (dueInterval config (otaSymbolPoint config (now + 1))).entries) :
    InTime config symbol (now + 1) := by
  obtain ⟨hopen, hpassed⟩ := hin
  have hearly : now + 1 < symbol + config.txWindowEnd := by
    by_contra hlate
    apply hvisit
    rw [mem_dueInterval_entries]
    exact ⟨symbol, by omega, by omega, (poolEntryIndex_otaSymbolPoint_eq_iff config _ _).mpr rfl⟩
  exact ⟨by omega, by omega⟩

end

inductive Event where
  | reserve (kind : FramePoolKind) (symbol : Int)
  | complete (handle : FrameHandle) (written : Option Nat)
  | tick

structure SentFrame where
  handle : FrameHandle
  symbol : Int
  tick : Int
  deriving DecidableEq

/-- The pools after the OTA symbol `now`, the frames held, the symbol each was reserved for, and
all sent. -/
structure State where
  pools : FramePoolKind → EthFramePool
  now : Int
  held : List FrameHandle
  reservedFor : FrameHandle → Int
  sent : List SentFrame

section

variable (config : RuMessageTransmitterConfig)

def initial (now : Int) : State :=
  ⟨fun _ => new config.numOfFrames, now, [], fun _ => 0, []⟩

def completeFrame (frames : EthFramePool) (buffer : ScopedFrameBuffer) : Option Nat → EthFramePool
  | none => frames.release buffer
  | some size => (frames.setSize buffer size).release buffer

def step (state : State) : Event → State
  | .reserve kind symbol =>
    match (state.pools kind).reserve (wireSymbolPoint config symbol) with
    | none => state
    | some (buffer, frames) =>
      { state with
        pools := update state.pools kind frames
        held := ⟨kind, buffer⟩ :: state.held
        reservedFor := update state.reservedFor ⟨kind, buffer⟩ symbol }
  | .complete handle written =>
    if handle ∈ state.held then
      { state with
        pools := update state.pools handle.kind
          (completeFrame (state.pools handle.kind) handle.buffer written)
        held := state.held.erase handle }
    else state
  | .tick =>
    let now := state.now + 1
    let burst := onNewSymbol config state.pools (otaSymbolPoint config now)
    { state with
      pools := burst.2
      now := now
      sent := state.sent ++ burst.1.map fun handle => ⟨handle, state.reservedFor handle, now⟩ }

def run (now : Int) (events : List Event) : State :=
  events.foldl (step config) (initial config now)

/-- Every frame sent so far was sent in the window of its symbol. -/
def AllInWindow (state : State) : Prop :=
  ∀ frame ∈ state.sent, InWindow config frame.symbol frame.tick
  deriving Decidable

def CompletesInTime (state : State) : Event → Prop
  | .complete handle (some _) =>
    handle ∈ state.held → InTime config (state.reservedFor handle) state.now
  | _ => True

instance (state : State) (event : Event) : Decidable (CompletesInTime config state event) := by
  unfold CompletesInTime
  split <;> infer_instance

def State.buffer (state : State) (handle : FrameHandle) : FrameBuffer :=
  (state.pools handle.kind).buffer handle.buffer

def State.IsPending (state : State) (handle : FrameHandle) : Prop :=
  (state.pools handle.kind).IsPending handle.buffer

/-- Held frames are reserved and empty, and each frame is in the entry of the symbol it is
reserved for. -/
structure Inv (state : State) : Prop where
  consistent : ∀ kind, (state.pools kind).Consistent
  held_nodup : state.held.Nodup
  held_inPool : ∀ handle ∈ state.held, (state.pools handle.kind).InPool handle.buffer
  held_buffer : ∀ handle ∈ state.held, state.buffer handle =
    ⟨.reserved, 0, wireSymbolPoint config (state.reservedFor handle)⟩
  held_entry : ∀ handle ∈ state.held,
    handle.buffer.entry = poolEntryIndex (wireSymbolPoint config (state.reservedFor handle))
  pending_entry : ∀ handle, state.IsPending handle →
    handle.buffer.entry = poolEntryIndex (wireSymbolPoint config (state.reservedFor handle))
  pending_inTime : ∀ handle, state.IsPending handle → config.txWindowEnd ≤ config.txWindowStart →
      InTime config (state.reservedFor handle) state.now
  sent_inWindow : AllInWindow config state

lemma inv_initial (now : Int) : Inv config (initial config now) := by
  have hnot : ∀ handle, ¬ (initial config now).IsPending handle := by
    intro handle
    simp [State.IsPending, EthFramePool.IsPending, initial, new, FrameBufferPool.new]
  constructor
  · exact fun _ => consistent_new _
  · exact nodup_nil
  · simp [initial]
  · simp [initial]
  · simp [initial]
  · exact fun handle h => absurd h (hnot handle)
  · exact fun handle h => absurd h (hnot handle)
  · simp [initial, AllInWindow]

variable {state : State} {handle : FrameHandle}

lemma Inv.state_of_isPending (hinv : Inv config state) (hpend : state.IsPending handle) :
    (state.buffer handle).state = .pending :=
  ((hinv.consistent handle.kind).pool_consistent handle.buffer.entry).pendingList_state _ hpend

lemma Inv.state_of_mem_held (hinv : Inv config state) (hheld : handle ∈ state.held) :
    (state.buffer handle).state = .reserved :=
  congrArg FrameBuffer.state (hinv.held_buffer handle hheld)

lemma Inv.notMem_held (hinv : Inv config state) (hpend : state.IsPending handle) :
    handle ∉ state.held := by
  intro hheld
  have hstate := hinv.state_of_isPending config hpend
  rw [hinv.state_of_mem_held config hheld] at hstate
  contradiction

section

omit config

variable {pools : FramePoolKind → EthFramePool} {kind : FramePoolKind} {frames : EthFramePool}
  {buffer : ScopedFrameBuffer} (hframe : EthFramePool.Frame (pools kind) frames buffer)

include hframe

lemma update_consistent (hpools : ∀ kind, (pools kind).Consistent) (other : FramePoolKind) :
    (update pools kind frames other).Consistent := by
  obtain rfl | hne := eq_or_ne other kind
  · rw [update_self]
    exact hframe.consistent
  · rw [update_of_ne hne]
    exact hpools other

lemma update_inPool (handle : FrameHandle) :
    (update pools kind frames handle.kind).InPool handle.buffer ↔
      (pools handle.kind).InPool handle.buffer := by
  obtain heq | hne := eq_or_ne handle.kind kind
  · rw [heq, update_self]
    exact hframe.inPool handle.buffer
  · rw [update_of_ne hne]

lemma update_buffer {handle : FrameHandle} (hhandle : handle ≠ ⟨kind, buffer⟩) :
    (update pools kind frames handle.kind).buffer handle.buffer =
      (pools handle.kind).buffer handle.buffer := by
  obtain heq | hne := eq_or_ne handle.kind kind
  · rw [heq, update_self]
    apply hframe.buffer_eq
    rintro hbuf
    apply hhandle
    rw [← heq, ← hbuf]
  · rw [update_of_ne hne]

omit hframe in
lemma update_isPending_cases {handle : FrameHandle}
    (hpending : (update pools kind frames handle.kind).IsPending handle.buffer) :
    handle.kind = kind ∧ frames.IsPending handle.buffer ∨
      (pools handle.kind).IsPending handle.buffer := by
  obtain heq | hne := eq_or_ne handle.kind kind
  · rw [heq, update_self] at hpending
    exact Or.inl ⟨heq, hpending⟩
  · rw [update_of_ne hne] at hpending
    exact Or.inr hpending

end

lemma inv_reserve (hinv : Inv config state) (kind : FramePoolKind) (symbol : Int) :
    Inv config (step config state (.reserve kind symbol)) := by
  simp only [step]
  split
  · exact hinv
  rename_i buffer frames hresv
  obtain ⟨hframe, hentry, hin, hfree, hbuf, hpend⟩ :=
    reserve_spec (hinv.consistent kind) hresv
  -- The reserved buffer was free: it was neither held nor pending.
  have hnotHeld : ⟨kind, buffer⟩ ∉ state.held := by
    intro hheld
    have hstate := hinv.state_of_mem_held config hheld
    rw [State.buffer, hfree] at hstate
    contradiction
  have hisPending : ∀ handle : FrameHandle,
      (update state.pools kind frames handle.kind).IsPending handle.buffer →
        state.IsPending handle ∧ handle ≠ ⟨kind, buffer⟩ := by
    intro handle hhandle
    have hbefore : state.IsPending handle := by
      obtain ⟨rfl, hsame⟩ | hother := update_isPending_cases hhandle
      · exact (hpend _).mp hsame
      · exact hother
    refine ⟨hbefore, ?_⟩
    rintro rfl
    have hstate := hinv.state_of_isPending config hbefore
    rw [State.buffer, hfree] at hstate
    contradiction
  have hheldNe : ∀ handle ∈ state.held, handle ≠ ⟨kind, buffer⟩ := by
    rintro handle hheld rfl
    exact hnotHeld hheld
  constructor
  · exact update_consistent hframe hinv.consistent
  · exact nodup_cons.mpr ⟨hnotHeld, hinv.held_nodup⟩
  · intro handle hheld
    rw [update_inPool hframe]
    obtain rfl | hheld := mem_cons.mp hheld
    · exact hin
    · exact hinv.held_inPool handle hheld
  · intro handle hheld
    obtain rfl | hheld := mem_cons.mp hheld
    · dsimp only [State.buffer]
      rw [update_self, update_self, hbuf]
    dsimp only [State.buffer]
    rw [update_buffer hframe (hheldNe handle hheld), update_of_ne (hheldNe handle hheld)]
    exact hinv.held_buffer handle hheld
  · intro handle hheld
    dsimp only
    obtain rfl | hheld := mem_cons.mp hheld
    · rwa [update_self]
    · rw [update_of_ne (hheldNe handle hheld)]
      exact hinv.held_entry handle hheld
  · intro handle hhandle
    obtain ⟨hhandle, hne⟩ := hisPending handle hhandle
    dsimp only
    rw [update_of_ne hne]
    exact hinv.pending_entry handle hhandle
  · intro handle hhandle
    obtain ⟨hhandle, hne⟩ := hisPending handle hhandle
    dsimp only
    rw [update_of_ne hne]
    exact hinv.pending_inTime handle hhandle
  · exact hinv.sent_inWindow

omit config in
lemma completeFrame_spec {frames : EthFramePool} (hframes : frames.Consistent)
    {buffer : ScopedFrameBuffer} {symbolPoint : SlotSymbolPoint} (hin : frames.InPool buffer)
    (hbuffer : frames.buffer buffer = ⟨.reserved, 0, symbolPoint⟩) (written : Option Nat) :
    EthFramePool.Frame frames (completeFrame frames buffer written) buffer ∧
      ∀ other, (completeFrame frames buffer written).IsPending other →
        frames.IsPending other ∨ other = buffer ∧ written.isSome := by
  have hreserved : (frames.buffer buffer).state = .reserved := by rw [hbuffer]
  obtain _ | size := written
  · obtain ⟨hframe, hpending⟩ := release_of_reserved hframes hin hreserved
    refine ⟨hframe, ?_⟩
    intro other hother
    obtain hother | ⟨-, hsize⟩ := (hpending other).mp hother
    · exact Or.inl hother
    · simp [hbuffer] at hsize
  · obtain ⟨hset, hsetBuffer, hsetPending⟩ :=
      setSize_spec hframes hreserved size
    have hstate : ((frames.setSize buffer size).buffer buffer).state = .reserved := by
      rw [hsetBuffer, hbuffer]
      rfl
    obtain ⟨hframe, hpending⟩ := release_of_reserved hset.consistent
      ((hset.inPool buffer).mpr hin) hstate
    refine ⟨hset.trans hframe, ?_⟩
    intro other hother
    obtain hother | ⟨rfl, -⟩ := (hpending other).mp hother
    · exact Or.inl ((hsetPending other).mp hother)
    · exact Or.inr ⟨rfl, rfl⟩

lemma inv_complete (hinv : Inv config state) (handle : FrameHandle) (written : Option Nat)
    (hinTime : CompletesInTime config state (.complete handle written)) :
    Inv config (step config state (.complete handle written)) := by
  simp only [step]
  split_ifs with hheld
  · obtain ⟨hframe, hpend⟩ := completeFrame_spec (hinv.consistent handle.kind)
      (hinv.held_inPool handle hheld) (hinv.held_buffer handle hheld) written
    have hmem : ∀ other ∈ state.held.erase handle, other ∈ state.held ∧ other ≠ handle := by
      intro other hother
      rw [hinv.held_nodup.mem_erase_iff] at hother
      exact ⟨hother.2, hother.1⟩
    have hisPending : ∀ other : FrameHandle, (update state.pools handle.kind
          (completeFrame (state.pools handle.kind) handle.buffer written)
          other.kind).IsPending other.buffer →
          state.IsPending other ∨ other = handle ∧ written.isSome := by
      rintro ⟨kind, buffer⟩ hother
      obtain ⟨rfl, hsame⟩ | hother := update_isPending_cases hother
      · obtain hsame | ⟨rfl, hwrit⟩ := hpend buffer hsame
        · exact Or.inl hsame
        · exact Or.inr ⟨rfl, hwrit⟩
      · exact Or.inl hother
    constructor
    · exact update_consistent hframe hinv.consistent
    · exact hinv.held_nodup.erase handle
    · intro other hother
      rw [update_inPool hframe]
      exact hinv.held_inPool other (hmem other hother).1
    · intro other hother
      dsimp only [State.buffer]
      rw [update_buffer hframe (hmem other hother).2]
      exact hinv.held_buffer other (hmem other hother).1
    · intro other hother
      exact hinv.held_entry other (hmem other hother).1
    · intro other hother
      obtain hother | ⟨rfl, -⟩ := hisPending other hother
      · exact hinv.pending_entry other hother
      · exact hinv.held_entry other hheld
    · intro other hother hwindow
      obtain hother | ⟨rfl, hwrit⟩ := hisPending other hother
      · exact hinv.pending_inTime other hother hwindow
      · obtain ⟨size, rfl⟩ := Option.isSome_iff_exists.mp hwrit
        exact hinTime hheld
    · exact hinv.sent_inWindow
  · exact hinv

lemma inv_tick (hinv : Inv config state) : Inv config (step config state .tick) := by
  have hspec := fun kind => sendPending_spec (hinv.consistent kind)
    (dueInterval config (otaSymbolPoint config (state.now + 1)))
  have hisPending : ∀ handle, (step config state .tick).IsPending handle →
      state.IsPending handle ∧ handle.buffer.entry ∉
        (dueInterval config (otaSymbolPoint config (state.now + 1))).entries := by
    intro handle hhandle
    dsimp only [step, State.IsPending] at hhandle
    rw [onNewSymbol_pool] at hhandle
    exact ((hspec handle.kind).2.2.1 handle.buffer).mp hhandle
  constructor
  · intro kind
    dsimp only [step]
    rw [onNewSymbol_pool]
    exact (hspec kind).1
  · exact hinv.held_nodup
  · intro handle hheld
    dsimp only [step]
    rw [onNewSymbol_pool]
    exact ((hspec handle.kind).2.1 handle.buffer).mpr (hinv.held_inPool handle hheld)
  · intro handle hheld
    have hnotSent : handle.buffer ∉ (sendPending (state.pools handle.kind)
        (dueInterval config (otaSymbolPoint config (state.now + 1)))).1 := by
      intro hsent
      exact hinv.notMem_held config ((mem_sendPending _ _ _).mp hsent).2 hheld
    dsimp only [step, State.buffer]
    rw [onNewSymbol_pool, (hspec handle.kind).2.2.2 handle.buffer hnotSent]
    exact hinv.held_buffer handle hheld
  · exact hinv.held_entry
  · intro handle hhandle
    exact hinv.pending_entry handle (hisPending handle hhandle).1
  · intro handle hhandle hwindow
    obtain ⟨hpend, hentry⟩ := hisPending handle hhandle
    rw [hinv.pending_entry handle hpend] at hentry
    exact (hinv.pending_inTime handle hpend hwindow).next config hwindow hentry
  · intro frame hframe
    obtain hframe | hframe := mem_append.mp hframe
    · exact hinv.sent_inWindow frame hframe
    obtain ⟨handle, hhandle, rfl⟩ := mem_map.mp hframe
    rw [mem_onNewSymbol, mem_sendPending] at hhandle
    obtain ⟨hentry, hpend⟩ := hhandle
    rw [hinv.pending_entry handle hpend] at hentry
    have hwindow := (mem_dueInterval_entries config _ _).mp hentry
    exact (hinv.pending_inTime handle hpend (by omega)).inWindow config hentry

lemma inv_step (state : State) (event : Event) (hinv : Inv config state)
    (hinTime : CompletesInTime config state event) : Inv config (step config state event) := by
  cases event with
  | reserve kind symbol => exact inv_reserve config hinv kind symbol
  | complete handle written => exact inv_complete config hinv handle written hinTime
  | tick => exact inv_tick config hinv

/-- When all written frames are completed in time, every frame is sent inside the window of its
symbol. -/
theorem allInWindow_of_completedInTime (now : Int) (events : List Event)
    (hinTime : Guarded (step config) (CompletesInTime config) (initial config now) events) :
    AllInWindow config (run config now events) :=
  (hinTime.invariant (Inv config) (inv_step config) (inv_initial config now)).sent_inWindow

end

def defaultWindow : RuMessageTransmitterConfig where
  scs := .kHz30
  cp := .normal
  numOfFrames := 1
  txWindowStart := 8
  txWindowEnd := 3
  txWindowStart_le := by decide
  txWindowEnd_le := by decide

def firstFrame : FrameHandle := ⟨.uplinkUplane, ⟨0, 0⟩⟩

theorem defaultWindow_onTime :
    let events := [.reserve .uplinkUplane 0, .complete firstFrame (some 100), .tick]
    Guarded (step defaultWindow) (CompletesInTime defaultWindow) (initial defaultWindow 2) events ∧
      (run defaultWindow 2 events).sent = [⟨firstFrame, 0, 3⟩] ∧
      AllInWindow defaultWindow (run defaultWindow 2 events) :=
  ⟨by decide, by decide, allInWindow_of_completedInTime defaultWindow 2 _ (by decide)⟩

/-- A frame for symbol 0 completed at OTA symbol 282 is sent at 283, when its entry is due again.
-/
theorem defaultWindow_late :
    let events := [.reserve .uplinkUplane 0, .complete firstFrame (some 100), .tick]
    (run defaultWindow 282 events).sent = [⟨firstFrame, 0, 283⟩] ∧
      ¬ AllInWindow defaultWindow (run defaultWindow 282 events) :=
  ⟨by decide, by decide⟩

end ProtoRu.UplinkFrames
