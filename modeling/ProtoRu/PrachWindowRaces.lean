import ProtoRu.PrachContextWriting
import ProtoRu.TransitionRuns

/-!
The ring of PRACH occasions while a message is written, its window closes and other
occasions are registered. Each access to the ring holds the mutex for itself, so that any
other may come between the lookup of a message and its writes.
-/

namespace ProtoRu.Prach

/-- A registered occasion; the number tells the buffers of registrations apart. -/
structure Occasion where
  slot : SlotPoint
  id : Nat

inductive Fault where
  | noBuffer
  | assertion

/-- A message after its lookup: the occasion found, its context, and the sections left. -/
structure Pending (Re : Type) where
  occasion : Occasion
  slot : SlotPoint
  copy : PrachContext Re
  port : Nat
  symbolId : Nat
  sections : List (UplaneSection Re)

/-- The slot of a message, the occasion it found, and the one whose buffer took the samples. -/
structure Written where
  slot : SlotPoint
  found : Occasion
  target : Occasion

structure System (Re : Type) where
  entries : Nat → Option (Occasion × PrachContext Re)
  writer : Option (Pending Re)
  log : List Written

inductive Event (Re : Type) where
  | register (occasion : Occasion) (context : PrachContext Re)
  | close (slot : SlotPoint)
  | lookup (slot : SlotPoint) (eaxc symbolId : Nat) (sections : List (UplaneSection Re))
  | write

variable {Re : Type} (size : Nat) (prachEaxc : EaxcList)

def System.new : System Re := ⟨fun _ => none, none, []⟩

def System.entry (system : System Re) (slot : SlotPoint) : Option (Occasion × PrachContext Re) :=
  system.entries (calculateRepositoryIndex slot size)

def System.setEntry (system : System Re) (slot : SlotPoint)
    (stored : Option (Occasion × PrachContext Re)) : System Re :=
  { system with entries := fun index =>
      if index = calculateRepositoryIndex slot size then stored else system.entries index }

def System.lookup (system : System Re) (slot : SlotPoint) (eaxc symbolId : Nat)
    (sections : List (UplaneSection Re)) : System Re :=
  match system.entry size slot with
  | none => { system with writer := none }
  | some (occasion, copy) =>
    let port := prachEaxc.values.idxOf eaxc
    if copy.maxNofPorts ≤ port then { system with writer := none }
    else { system with writer := some ⟨occasion, slot, copy, port, symbolId, sections⟩ }

/-- Write the samples of a section into whatever the ring holds for the slot by now. -/
def System.writeIq (system : System Re) (pending : Pending Re) (startRe : Nat)
    (iqBuffer : List Re) : Except Fault (System Re) :=
  match system.entry size pending.slot with
  | none => .error .noBuffer
  | some (target, context) =>
    match context.writeIq pending.port pending.symbolId startRe iqBuffer with
    | none => .error .assertion
    | some context =>
      let stored := system.setEntry size pending.slot (some (target, context))
      .ok { stored with log := system.log ++ [⟨pending.slot, pending.occasion, target⟩] }

def System.writeSection (system : System Re) (pending : Pending Re) (received : UplaneSection Re) :
    Except Fault (System Re) :=
  match sectionWindow pending.copy.prachNofRe pending.copy.prachOffsetToFirstRe received.startPrb
      received.nofPrbs with
  | none => .ok system
  | some window =>
    if received.iqSamples.length < window.iqStartRe + window.iqSizeRe then .error .assertion
    else system.writeIq size pending window.startRe
      ((received.iqSamples.drop window.iqStartRe).take window.iqSizeRe)

def System.write (system : System Re) : Except Fault (System Re) :=
  match system.writer with
  | none => .ok system
  | some pending =>
    match pending.sections with
    | [] => .ok { system with writer := none }
    | received :: rest =>
      { system with writer := some { pending with sections := rest } }.writeSection size
        pending received

def System.busy (system : System Re) : Bool := system.writer.any (!·.sections.isEmpty)

def step (system : System Re) : Event Re → Except Fault (System Re)
  | .register occasion context =>
    .ok (system.setEntry size occasion.slot (some (occasion, context)))
  | .close slot => .ok (system.setEntry size slot none)
  | .lookup slot eaxc symbolId sections =>
    .ok (if system.busy then system else system.lookup size prachEaxc slot eaxc symbolId sections)
  | .write => system.write size

/-- No other access to its entry comes between the lookup and the writes of a message. -/
def Leaves (system : System Re) (slot : SlotPoint) : Prop :=
  ∀ pending ∈ system.writer, pending.sections = [] ∨
    calculateRepositoryIndex pending.slot size ≠ calculateRepositoryIndex slot size

/-- The entry is left alone while a message is written, and a message only finds its own slot. -/
def Exclusive (system : System Re) : Event Re → Prop
  | .register occasion _ => Leaves size system occasion.slot
  | .close slot => Leaves size system slot
  | .lookup slot _ _ _ => ∀ stored ∈ system.entry size slot, stored.1.slot = slot
  | .write => True

structure Own (system : System Re) : Prop where
  pending : ∀ pending ∈ system.writer, pending.sections = [] ∨
    pending.occasion.slot = pending.slot ∧
      ∃ context, system.entry size pending.slot = some (pending.occasion, context)
  log : ∀ written ∈ system.log, written.target = written.found ∧ written.found.slot = written.slot

variable {size prachEaxc} {system after : System Re} {slot : SlotPoint}

section

variable (h : Own size system)

include h

lemma Own.setEntry (hleaves : Leaves size system slot)
    (stored : Option (Occasion × PrachContext Re)) :
    Own size (system.setEntry size slot stored) := by
  refine ⟨fun pending hpend => ?_, h.log⟩
  obtain hdone | hother := hleaves pending hpend
  · exact .inl hdone
  have hentry : (system.setEntry size slot stored).entry size pending.slot =
      system.entry size pending.slot := if_neg hother
  rw [hentry]
  exact h.pending pending hpend

lemma Own.lookup {eaxc symbolId : Nat} {sections : List (UplaneSection Re)}
    (hslot : ∀ stored ∈ system.entry size slot, stored.1.slot = slot) :
    Own size (system.lookup size prachEaxc slot eaxc symbolId sections) := by
  rw [System.lookup]
  split
  · exact ⟨by simp, h.log⟩
  rename_i occasion copy hentry
  dsimp only
  split
  · exact ⟨by simp, h.log⟩
  · refine ⟨fun pending hpend => ?_, h.log⟩
    cases hpend
    exact .inr ⟨hslot _ hentry, copy, hentry⟩

lemma Own.writeIq {pending : Pending Re} {context : PrachContext Re}
    {rest : List (UplaneSection Re)}
    (hwriter : system.writer = some { pending with sections := rest })
    (hslot : pending.occasion.slot = pending.slot)
    (hentry : system.entry size pending.slot = some (pending.occasion, context)) (startRe : Nat)
    (iqBuffer : List Re) : system.writeIq size pending startRe iqBuffer ≠ .error .noBuffer ∧
      ∀ after, system.writeIq size pending startRe iqBuffer = .ok after → Own size after := by
  rw [System.writeIq, hentry]
  dsimp only
  cases hwrite : context.writeIq pending.port pending.symbolId startRe iqBuffer with
  | none => exact ⟨by simp, by simp⟩
  | some written =>
    refine ⟨by simp, ?_⟩
    rintro after ⟨⟩
    refine ⟨fun other hother => .inr ?_, ?_⟩
    · obtain rfl := Option.some.inj (hwriter.symm.trans hother)
      exact ⟨hslot, written, if_pos rfl⟩
    exact List.forall_mem_append.mpr ⟨h.log, List.forall_mem_singleton.mpr ⟨rfl, hslot⟩⟩

lemma Own.write : system.write size ≠ .error .noBuffer ∧
    ∀ after, system.write size = .ok after → Own size after := by
  have hself : (.ok system : Except Fault (System Re)) ≠ .error .noBuffer ∧
      ∀ after, (.ok system : Except Fault (System Re)) = .ok after → Own size after :=
    ⟨by simp, by rintro after ⟨⟩; exact h⟩
  unfold System.write
  split
  · exact hself
  rename_i pending hwriter
  split
  · refine ⟨by simp, ?_⟩
    rintro after ⟨⟩
    exact ⟨by simp, h.log⟩
  rename_i received rest hsects
  obtain hdone | ⟨hslot, context, hentry⟩ := h.pending pending hwriter
  · simp [hdone] at hsects
  have hnext : Own size { system with writer := some { pending with sections := rest } } := by
    refine ⟨fun other hother => .inr ?_, h.log⟩
    cases hother
    exact ⟨hslot, context, hentry⟩
  rw [System.writeSection]
  split
  · refine ⟨by simp, ?_⟩
    rintro after ⟨⟩
    exact hnext
  · split
    · exact ⟨by simp, by simp⟩
    · exact hnext.writeIq rfl hslot hentry _ _

lemma step_own {event : Event Re} (hexcl : Exclusive size system event) :
    step size prachEaxc system event ≠ .error .noBuffer ∧
      ∀ after, step size prachEaxc system event = .ok after → Own size after := by
  cases event with
  | register occasion context =>
    refine ⟨by simp [step], ?_⟩
    rintro after ⟨⟩
    exact h.setEntry hexcl _
  | close slot =>
    refine ⟨by simp [step], ?_⟩
    rintro after ⟨⟩
    exact h.setEntry hexcl none
  | lookup slot eaxc symbolId sections =>
    refine ⟨by simp [step], ?_⟩
    rintro after ⟨⟩
    split
    · exact h
    · exact h.lookup hexcl
  | write => exact h.write

end

/-- While its entry is left alone, no write of a message finds an empty buffer or another
occasion. -/
theorem writes_own_of_exclusive {events : List (Event Re)}
    (hexclusive : GuardedRun (step size prachEaxc) (Exclusive size) System.new events) :
    events.foldlM (step size prachEaxc) System.new ≠ .error .noBuffer ∧
      ∀ final, events.foldlM (step size prachEaxc) System.new = .ok final →
        ∀ written ∈ final.log, written.target = written.found ∧
          written.found.slot = written.slot := by
  have hnew : Own size (System.new : System Re) := ⟨by simp [System.new], by simp [System.new]⟩
  have hstep : ∀ (before : System Re) event after, Own size before → Exclusive size before event →
      step size prachEaxc before event = .ok after → Own size after :=
    fun _ _ after h hguard => (step_own h hguard).2 after
  exact ⟨hexclusive.ne_error (Own size) hstep (fun _ _ h hguard => (step_own h hguard).1) hnew,
    fun _ hrun => (hexclusive.invariant (Own size) hstep hrun hnew).log⟩

def emptyContext : PrachContext Unit where
  format := .a1
  puschScs := .kHz30
  startSymbol := 0
  maxNofPorts := 1
  nofTdOccasions := 1
  samples := fun _ _ _ _ => ()
  reWritten := fun _ _ _ => false

def onePrb : UplaneSection Unit := ⟨0, 1, List.replicate 12 ()⟩

theorem timelyMessage_writes_own : GuardedRun (step 20 oneEaxc) (Exclusive 20) System.new
        [.register ⟨⟨1, 3⟩, 0⟩ emptyContext, .lookup ⟨1, 3⟩ 0 0 [onePrb], .write, .close ⟨1, 3⟩] ∧
      [.register ⟨⟨1, 3⟩, 0⟩ emptyContext, .lookup ⟨1, 3⟩ 0 0 [onePrb], .write,
        .close ⟨1, 3⟩].foldlM (step 20 oneEaxc) System.new ≠ .error .noBuffer := by
  have hexclusive : GuardedRun (step 20 oneEaxc) (Exclusive 20) System.new
      [.register ⟨⟨1, 3⟩, 0⟩ emptyContext, .lookup ⟨1, 3⟩ 0 0 [onePrb], .write, .close ⟨1, 3⟩] := by
    refine ⟨by simp [Exclusive, Leaves, System.new], ?_⟩
    rintro _ ⟨⟩
    refine ⟨by rintro _ ⟨⟩; rfl, ?_⟩
    rintro _ ⟨⟩
    refine ⟨trivial, ?_⟩
    rintro _ ⟨⟩
    refine ⟨?_, fun _ _ => trivial⟩
    rintro _ ⟨⟩
    exact .inl rfl
  exact ⟨hexclusive, (writes_own_of_exclusive hexclusive).1⟩

/-- The window closes between lookup and write: there is no buffer, or that of another occasion.
-/
theorem lateMessage_not_dropped :
    [.register ⟨⟨1, 3⟩, 0⟩ emptyContext, .lookup ⟨1, 3⟩ 0 0 [onePrb], .close ⟨1, 3⟩,
        .write].foldlM (step 20 oneEaxc) System.new = .error .noBuffer ∧
      ([.register ⟨⟨1, 3⟩, 0⟩ emptyContext, .lookup ⟨1, 3⟩ 0 0 [onePrb], .close ⟨1, 3⟩,
        .register ⟨⟨1, 23⟩, 1⟩ emptyContext, .write].foldlM (step 20 oneEaxc)
          System.new).map System.log =
        .ok [⟨⟨1, 3⟩, ⟨⟨1, 3⟩, 0⟩, ⟨⟨1, 23⟩, 1⟩⟩] :=
  ⟨rfl, rfl⟩

end ProtoRu.Prach
