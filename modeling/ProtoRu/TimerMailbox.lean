import ProtoRu.TransitionRuns

/-!
The channel from the front-end of a timer to the back-end. Three buffers change hands by atomic
exchanges of a pointer, and the timer is signalled when the buffer given back has been processed.
Commands are numbered without end: push and pop only copy the 32 bits the code keeps of a number.
-/

namespace ProtoRu.TimerMailbox

inductive Action where
  | start (duration : Nat)
  | stop
  | create
  | destroy
deriving DecidableEq

structure Cmd where
  hasId : Bool := false
  cmdId : Nat := 0
  action : Action := .start 0

/-- What the front-end has done last. -/
inductive Producer where
  | idle
  | counted (action : Action)
  | idWritten (action : Action)
  | cmdIdWritten (action : Action)
  | prepared (action : Action)
  | exchanged
deriving DecidableEq

inductive Consumer where
  | idle
  | signalled
  | exchanged
  | copied
deriving DecidableEq

structure Channel where
  cmdId : Nat := 0
  buffers : Fin 3 → Cmd := fun _ => {}
  readBuffer : Fin 3 := 0
  middleBuffer : Fin 3 := 1
  writeBuffer : Fin 3 := 2
  /-- How often the timer stands in the queue, or in the part of it taken but not yet handled. -/
  signals : Nat := 0
  producer : Producer := .idle
  consumer : Consumer := .idle
  lastPushed : Option Cmd := none
  lastPopped : Option Cmd := none

inductive Event where
  | push (action : Action)
  | writeId
  | writeCmdId
  | writeAction
  | exchangeWrite
  | notifyTimerUpdate
  | nextUpdatedTimer
  | exchangeRead
  | copy
  | markProcessed

variable (c : Channel)

abbrev Channel.writing : Cmd := c.buffers c.writeBuffer

abbrev Channel.middle : Cmd := c.buffers c.middleBuffer

abbrev Channel.reading : Cmd := c.buffers c.readBuffer

def Channel.write (buffer : Fin 3) (f : Cmd → Cmd) : Fin 3 → Cmd := fun i =>
  if i = buffer then f (c.buffers i) else c.buffers i

/-- One atomic step. A side that is not at this step does nothing. -/
def next (c : Channel) : Event → Channel
  | .push action =>
    if c.producer = .idle then { c with cmdId := c.cmdId + 1, producer := .counted action } else c
  | .writeId =>
    match c.producer with
    | .counted action =>
      { c with
        buffers := c.write c.writeBuffer ({ · with hasId := true })
        producer := .idWritten action }
    | _ => c
  | .writeCmdId =>
    match c.producer with
    | .idWritten action =>
      { c with
        buffers := c.write c.writeBuffer ({ · with cmdId := c.cmdId })
        producer := .cmdIdWritten action }
    | _ => c
  | .writeAction =>
    match c.producer with
    | .cmdIdWritten action =>
      { c with buffers := c.write c.writeBuffer ({ · with action }), producer := .prepared action }
    | _ => c
  | .exchangeWrite =>
    match c.producer with
    | .prepared action =>
      { c with
        writeBuffer := c.middleBuffer
        middleBuffer := c.writeBuffer
        producer := .exchanged
        lastPushed := some ⟨true, c.cmdId, action⟩ }
    | _ => c
  | .notifyTimerUpdate =>
    if c.producer = .exchanged then
      { c with
        signals := if c.writing.hasId then c.signals else c.signals + 1
        producer := .idle }
    else c
  | .nextUpdatedTimer =>
    if c.consumer = .idle ∧ 0 < c.signals then
      { c with signals := c.signals - 1, consumer := .signalled }
    else c
  | .exchangeRead =>
    if c.consumer = .signalled then
      { c with
        readBuffer := c.middleBuffer
        middleBuffer := c.readBuffer
        consumer := .exchanged }
    else c
  | .copy =>
    if c.consumer = .exchanged then
      if c.reading.hasId then
        { c with consumer := .copied, lastPopped := c.reading }
      else { c with consumer := .idle }
    else c
  | .markProcessed =>
    if c.consumer = .copied then
      { c with
        buffers := c.write c.readBuffer ({ · with hasId := false })
        consumer := .idle }
    else c

def Channel.Distinct : Prop := [c.writeBuffer, c.middleBuffer, c.readBuffer].Nodup

/-- A command waits in the middle exactly if one signal for it is on its way. -/
structure Consistent : Prop where
  distinct : c.Distinct
  signalled : c.signals + (if c.consumer = .signalled then 1 else 0) +
    (if c.producer = .exchanged ∧ ¬ c.writing.hasId then 1 else 0) =
      if c.middle.hasId then 1 else 0
  idWritten : ∀ action, c.producer = .idWritten action → c.writing.hasId
  cmdIdWritten : ∀ action, c.producer = .cmdIdWritten action →
    c.writing.hasId ∧ c.writing.cmdId = c.cmdId
  prepared : ∀ action, c.producer = .prepared action → c.writing = ⟨true, c.cmdId, action⟩
  processed : c.consumer = .idle ∨ c.consumer = .signalled → c.reading.hasId = false
  waiting : c.middle.hasId → c.lastPushed = some c.middle
  taken : c.middle.hasId = false → c.consumer = .exchanged →
    c.reading.hasId ∧ c.lastPushed = some c.reading
  handled : c.middle.hasId = false → c.consumer ≠ .exchanged → c.lastPopped = c.lastPushed

variable {c}

open Channel

/-- The front-end writes the buffer that it owns only. -/
lemma Consistent.writes (h : Consistent c) {f : Cmd → Cmd} {producer : Producer}
    (hbefore : c.producer ≠ .exchanged) (hafter : producer ≠ .exchanged)
    (hid : ∀ action, producer = .idWritten action → (f c.writing).hasId)
    (hcmdId : ∀ action, producer = .cmdIdWritten action →
      (f c.writing).hasId ∧ (f c.writing).cmdId = c.cmdId)
    (hprepared : ∀ action, producer = .prepared action → f c.writing = ⟨true, c.cmdId, action⟩) :
    Consistent { c with buffers := c.write c.writeBuffer f, producer } := by
  have hdistinct := h.distinct
  simp only [Channel.Distinct, List.nodup_cons, List.mem_cons] at hdistinct
  have hwriting : c.write c.writeBuffer f c.writeBuffer = f c.writing := if_pos rfl
  have hmiddle : c.write c.writeBuffer f c.middleBuffer = c.middle := if_neg (by grind)
  have hreading : c.write c.writeBuffer f c.readBuffer = c.reading := if_neg (by grind)
  exact {
    distinct := h.distinct
    signalled := by grind [h.signalled]
    idWritten := by simpa only [writing, hwriting] using hid
    cmdIdWritten := by simpa only [writing, hwriting] using hcmdId
    prepared := by simpa only [writing, hwriting] using hprepared
    processed := by simpa only [reading, hreading] using h.processed
    waiting := by simpa only [middle, hmiddle] using h.waiting
    taken := by simpa only [middle, hmiddle, reading, hreading] using h.taken
    handled := by simpa only [middle, hmiddle] using h.handled }

lemma next_consistent (c : Channel) (event : Event) (h : Consistent c) :
    Consistent (next c event) := by
  have hdistinct := h.distinct
  rw [Channel.Distinct] at hdistinct
  have hsignalled := h.signalled
  cases event with
  | push action =>
    rw [next]
    split
    · exact { h with
        signalled := by grind
        idWritten := nofun
        cmdIdWritten := nofun
        prepared := nofun }
    · exact h
  | writeId =>
    rw [next]
    split
    · exact h.writes (by grind) nofun (fun _ _ => rfl) nofun nofun
    · exact h
  | writeCmdId =>
    rw [next]
    split
    · exact h.writes (by grind) nofun nofun (fun _ _ => ⟨h.idWritten _ ‹_›, rfl⟩) nofun
    · exact h
  | writeAction =>
    rw [next]
    split
    · exact h.writes (by grind) nofun nofun nofun (by grind [h.cmdIdWritten])
    · exact h
  | exchangeWrite =>
    rw [next]
    split
    · have hwriting := h.prepared _ ‹_›
      exact { h with
        distinct := by grind [Channel.Distinct]
        signalled := by grind
        idWritten := nofun
        cmdIdWritten := nofun
        prepared := nofun
        waiting := by grind
        taken := by grind
        handled := by grind }
    · exact h
  | notifyTimerUpdate =>
    rw [next]
    split
    · exact { h with
        -- A buffer given back unread still has its signal on its way.
        signalled := by grind
        idWritten := nofun
        cmdIdWritten := nofun
        prepared := nofun }
    · exact h
  | nextUpdatedTimer =>
    rw [next]
    split
    · exact { h with
        signalled := by grind
        processed := by grind [h.processed]
        taken := nofun
        handled := by grind [h.handled] }
    · exact h
  | exchangeRead =>
    rw [next]
    split
    · exact { h with
        distinct := by grind [Channel.Distinct]
        -- The one signal stands for the command in the middle, which is taken with it.
        signalled := by grind [h.processed]
        processed := by simp
        waiting := by grind [h.processed]
        taken := by grind [h.waiting]
        handled := by simp }
    · exact h
  | copy =>
    rw [next]
    split
    · split
      · exact { h with
          signalled := by grind
          processed := by simp
          taken := nofun
          handled := by grind [h.taken] }
      · exact { h with
          signalled := by grind
          processed := by grind
          taken := nofun
          handled := by grind [h.taken] }
    · exact h
  | markProcessed =>
    rw [next]
    split
    · exact { h with
        signalled := by grind [write]
        idWritten := by grind [h.idWritten, write]
        cmdIdWritten := by grind [h.cmdIdWritten, write]
        prepared := by grind [h.prepared, write]
        processed := by grind [write]
        waiting := by grind [h.waiting, write]
        taken := nofun
        handled := by grind [h.handled, write] }
    · exact h

lemma run_consistent (h : Consistent c) (events : List Event) :
    Consistent (events.foldl next c) :=
  foldl_history_invariant (fun _ => Consistent) h
    (fun _ before event => next_consistent before event) events

lemma init_consistent : Consistent {} := by
  constructor <;> simp [Channel.Distinct]

/-- The steps of the back-end for one signal. -/
def handleTimerUpdates : List Event := [.nextUpdatedTimer, .exchangeRead, .copy, .markProcessed]

lemma handleTimerUpdates_effect (c : Channel) :
    let after := handleTimerUpdates.foldl next c
    after.consumer = .idle ∧ after.producer = c.producer ∧ after.lastPushed = c.lastPushed ∧
      after.signals = if c.consumer = .idle then c.signals - 1 else c.signals := by
  cases hconsumer : c.consumer <;> simp [handleTimerUpdates, next] <;> grind

/-- Once the front-end pauses, two rounds of the back-end leave nothing waiting. -/
lemma handled_of_idle (h : Consistent c) (hidle : c.producer = .idle) :
    ((handleTimerUpdates ++ handleTimerUpdates).foldl next c).lastPopped = c.lastPushed := by
  have hafter := run_consistent h (handleTimerUpdates ++ handleTimerUpdates)
  have hsignals : c.signals ≤ 1 := by
    have := h.signalled
    grind
  rw [List.foldl_append] at hafter ⊢
  obtain ⟨hconsumer, hproducer, hpushed, htaken⟩ := handleTimerUpdates_effect c
  obtain ⟨hconsumer', hproducer', hpushed', htaken'⟩ :=
    handleTimerUpdates_effect (handleTimerUpdates.foldl next c)
  rw [← hpushed, ← hpushed']
  have hmiddle := hafter.signalled
  apply hafter.handled <;> grind

end ProtoRu.TimerMailbox
