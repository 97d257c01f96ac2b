import LC3.Session
import LC3.Proofs.Step

/-!
# Steps as acts

Between the machine and its devices there are few things that can happen, and
only two of them involve the memory: a word is read, with the effects of the
keyboard registers, or a word is stored. This module lists them as **acts**.
Held with a keyboard and a console, every step is a list of acts performed
one after another, with the same exchanges (`Machine.follows_step`); what the
registers do meanwhile is left out.

What is to be proved of everything that a step exchanges, and of the memory
and the keyboard together, is so proved act by act. An instruction that is no
trap performs acts of the memory only (`Core.follows_execute_ofMemory`).

The acts are found only once the devices are given, since an instruction may
choose by an answer what it does next. So `Dialogue.Follows` has the list of acts
behind the keyboard and the console, and not in front of them. Which acts there are
may still be bounded beforehand, and that is what the predicate in it is for: a
routine that only prints, say, is known to perform no wait before it is run.
-/

namespace LC3

/-- **What a step is made of.** -/
inductive Act where
  /-- The keyboard is polled for the sake of an interruption. -/
  | poll
  /-- The keyboard is asked whether shutdown was requested. -/
  | ask
  /-- A character is waited for. -/
  | await
  /-- Bytes are written to the console. -/
  | write (bytes : List UInt8)
  /-- The console is flushed. -/
  | flush
  /-- A word is read. -/
  | read (a : Word)
  /-- A word is stored. -/
  | store (a value : Word)
  /-- A line of the log is due. The events that record an access to the
  memory have no line; they belong to that access. -/
  | note (event : Event) (logged : event.level?.isSome)

namespace Act

/-- **Performs an act** on the memory. What it is answered with is left to
the record of the exchanges. -/
def perform : Act → Memory → Dialogue Memory
  | poll, m => do
    let _ ← Dialogue.pollKeyboard
    return m
  | ask, m => do
    let _ ← Dialogue.shutdownRequested
    return m
  | await, m => do
    let _ ← Dialogue.awaitCharacter
    return m
  | write bytes, m => .write bytes fun _ => .done m
  | flush, m => .flush fun _ => .done m
  | read a, m => do
    let (_, m) ← m.read a
    return m
  | store a value, m => do
    Dialogue.tell (.stored a value)
    return m.write a value
  | note event _, m => do
    Dialogue.tell event
    return m

/-- Performs acts one after another. -/
def performAll : List Act → Memory → Dialogue Memory
  | [], m => return m
  | act :: rest, m => do
    let m ← act.perform m
    performAll rest m

/-- Acts in a row are performed in a row. -/
theorem performAll_append (before later : List Act) (m : Memory) :
    performAll (before ++ later) m = performAll before m >>= performAll later := by
  induction before generalizing m with
  | nil => rfl
  | cons act rest ih =>
    show (act.perform m >>= fun m => performAll (rest ++ later) m)
      = (act.perform m >>= fun m => performAll rest m) >>= performAll later
    rw [bind_assoc]
    exact congrArg (act.perform m >>= ·) (funext ih)

/-- A list of one act is that act. -/
theorem performAll_singleton (act : Act) (m : Memory) :
    performAll [act] m = act.perform m :=
  bind_pure (act.perform m)

section Courses

variable {κ ω : Type} [Keyboard κ] [Console ω] (m : Memory) (k : κ) (c : ω)

/-- The three acts that are answered, with a keyboard and a console. A poll leaves the
memory to itself, -/
theorem hold_poll :
    (poll.perform m).hold k c
      = ⟨m, (Keyboard.poll k).keyboard, c,
          (Keyboard.poll k).events.map .reported ++ [.polled (Keyboard.poll k).answer]⟩ := by
  unfold perform
  rw [Dialogue.hold_bind, Dialogue.hold_pollKeyboard]
  exact Course.after_done _ _ _ _

/-- and so does a wait; -/
theorem hold_await :
    (await.perform m).hold k c
      = ⟨m, (Keyboard.wait k).keyboard, c,
          (Keyboard.wait k).events.map .reported ++ [.waited (Keyboard.wait k).answer]⟩ := by
  unfold perform
  rw [Dialogue.hold_bind, Dialogue.hold_awaitCharacter]
  exact Course.after_done _ _ _ _

/-- a read has the effects of the keyboard registers, and its word is on record only. -/
theorem hold_read (a : Word) :
    ((read a).perform m).hold k c
      = (let course := (m.read a).hold k c
        ⟨course.value.2, course.keyboard, course.console, course.exchanges⟩) := by
  unfold perform
  rw [Dialogue.hold_bind]
  exact Course.after_done _ _ _ _

end Courses

/-- **The acts of the memory:** all that an instruction does that is no
trap. -/
def OfMemory : Act → Prop
  | read _ | store _ _ | note _ _ => True
  | poll | ask | await | write _ | flush => False

end Act

namespace Course

variable {κ ω α β : Type}

/-- A course with something made of its value. -/
def map (f : α → β) (c : Course κ ω α) : Course κ ω β :=
  ⟨f c.value, c.keyboard, c.console, c.exchanges⟩

end Course

namespace Dialogue

variable {α β : Type} {P Q : Act → Prop} {m : Memory}

/-- **A dialogue follows acts** of a kind if it takes, with every keyboard
and every console, the course of a list of such acts. The memory that the
acts start from is given, and the one they lead to is found in the value of
the dialogue. -/
structure Follows (P : Act → Prop) (m : Memory) (x : Dialogue α) (memory : α → Memory) :
    Prop where
  /-- The acts, for a keyboard and a console. -/
  exists_acts : ∀ {κ ω : Type} [Keyboard κ] [Console ω] (k : κ) (c : ω),
    ∃ acts : List Act, (∀ act ∈ acts, P act)
      ∧ (Act.performAll acts m).hold k c = (x.hold k c).map memory

/-- Acts of one kind are acts of a wider one. -/
theorem Follows.mono {x : Dialogue α} {memory : α → Memory} (h : x.Follows P m memory)
    (hPQ : ∀ act, P act → Q act) : x.Follows Q m memory := by
  refine ⟨fun k c => ?_⟩
  obtain ⟨acts, hacts, hcourse⟩ := h.exists_acts k c
  exact ⟨acts, fun act hact => hPQ act (hacts act hact), hcourse⟩

/-- Nothing is done where the dialogue is done. -/
theorem follows_done {a : α} {memory : α → Memory} (h : memory a = m) :
    (done a).Follows P m memory := by
  refine ⟨fun k c => ?_⟩
  refine ⟨[], fun act hact => absurd hact List.not_mem_nil, ?_⟩
  rw [← h]
  rfl

/-- **Acts follow acts** as dialogues follow dialogues. -/
theorem Follows.bind {x : Dialogue α} {f : α → Dialogue β} {memory : α → Memory}
    {memory' : β → Memory} (hx : x.Follows P m memory)
    (hf : ∀ a, (f a).Follows P (memory a) memory') :
    (x >>= f).Follows P m memory' := by
  refine ⟨fun k c => ?_⟩
  obtain ⟨before, hbefore, hcourse⟩ := hx.exists_acts k c
  obtain ⟨later, hlater, hcourse'⟩ :=
    (hf (x.hold k c).value).exists_acts (x.hold k c).keyboard (x.hold k c).console
  refine ⟨before ++ later, ?_, ?_⟩
  · intro act hact
    exact (List.mem_append.1 hact).elim (hbefore act) (hlater act)
  · rw [Act.performAll_append, hold_bind, hold_bind, hcourse]
    show ((Act.performAll later (memory (x.hold k c).value)).hold (x.hold k c).keyboard
      (x.hold k c).console).after (x.hold k c).exchanges = _
    rw [hcourse']
    rfl

/-- What is added to the value of a dialogue adds no act. -/
theorem Follows.unit {x : Dialogue α} {memory : α → Memory} (h : x.Follows P m memory) :
    (do return ((), ← x)).Follows P m fun result => memory result.2 :=
  h.bind fun _ => follows_done rfl

/-- A dialogue that performs one act follows it. -/
theorem follows_of_perform (act : Act) {x : Dialogue α} {memory : α → Memory}
    (hact : P act) (h : act.perform m = x >>= fun a => done (memory a)) :
    x.Follows P m memory := by
  refine ⟨fun k c => ?_⟩
  refine ⟨[act], fun _ hmem => List.eq_of_mem_singleton hmem ▸ hact, ?_⟩
  rw [Act.performAll_singleton, h, hold_bind]
  exact Course.after_done _ _ _ _

/-- A report that has a line in the log is an act. -/
theorem follows_tell {event : Event} (logged : event.level?.isSome)
    (hP : P (.note event logged)) : (tell event).Follows P m fun _ => m :=
  follows_of_perform (.note event logged) hP rfl

/-- A read is an act, and it leads to the memory that it leaves. -/
theorem follows_read (a : Word) (hP : P (.read a)) : (m.read a).Follows P m (·.2) :=
  follows_of_perform (.read a) hP rfl

/-- Saying a message is writing it and flushing; no message is not
written. -/
theorem follows_say (message : List UInt8) (hwrite : P (.write message)) (hflush : P .flush) :
    (say message).Follows P m fun _ => m := by
  have hflushed : (flush done).Follows P m fun _ => m := follows_of_perform .flush hflush rfl
  unfold say
  split
  · exact hflushed
  · have hwritten : (write message done).Follows P m fun _ => m :=
      follows_of_perform (.write message) hwrite rfl
    have hthen : ∀ {next : Except DeviceError Unit → Dialogue (Except DeviceError Unit)},
        (∀ answer, (next answer).Follows P m fun _ => m) →
        (write message next).Follows P m fun _ => m := fun h => hwritten.bind h
    refine hthen fun answer => ?_
    cases answer with
    | ok => exact hflushed
    | error e => exact follows_done rfl

/-! ## Relations along the acts

This is what the acts are for. A relation that composes is proved of everything
a step does by proving it of each act, and the list of acts is never seen again. -/

/-- **A relation that composes** between the memory and the keyboard before
some exchanges and the two after them: it holds across no exchange, and
across exchanges one after the other if it holds across each. -/
structure Composes {κ : Type} (R : Memory → κ → List Exchange → Memory → κ → Prop) : Prop where
  nil : ∀ m k, R m k [] m k
  append : ∀ {m m' m'' k k' k'' before later},
    R m k before m' k' → R m' k' later m'' k'' → R m k (before ++ later) m'' k''

/-- **What holds across every act holds across what follows them.** -/
theorem Follows.relate {κ ω : Type} [Keyboard κ] [Console ω]
    {R : Memory → κ → List Exchange → Memory → κ → Prop} (hR : Composes R)
    (hperform : ∀ act, P act → ∀ (m : Memory) (k : κ) (c : ω),
      let course := (act.perform m).hold k c
      R m k course.exchanges course.value course.keyboard)
    {x : Dialogue α} {memory : α → Memory} (hx : x.Follows P m memory) (k : κ) (c : ω) :
    R m k (x.hold k c).exchanges (memory (x.hold k c).value) (x.hold k c).keyboard := by
  obtain ⟨acts, hacts, hcourse⟩ := hx.exists_acts k c
  have hall : ∀ (acts : List Act), (∀ act ∈ acts, P act) → ∀ (m : Memory) (k : κ) (c : ω),
      let course := (Act.performAll acts m).hold k c
      R m k course.exchanges course.value course.keyboard := by
    intro acts
    induction acts with
    | nil => exact fun _ m k c => hR.nil m k
    | cons act rest ih =>
      intro hacts m k c
      rw [Act.performAll, hold_bind]
      exact hR.append (hperform act (hacts act List.mem_cons_self) m k c)
        (ih (fun act hact => hacts act (List.mem_cons_of_mem _ hact)) _ _ _)
  have h := hall acts hacts m k c
  rw [hcourse] at h
  exact h

end Dialogue

/-! ## Instructions

The proofs go through the definitions operation by operation. What is assumed is
only that the acts an operation performs are of the kind in question. -/

open Dialogue (follows_done follows_of_perform follows_tell follows_read follows_say)

namespace Core

variable {P : Act → Prop}

/-- The memory of what an instruction ends with. -/
def memoryOf (result : Outcome × Core) : Memory := result.2.memory

/-- Going on performs no act. -/
theorem follows_goOn {core : Core} {m : Memory} (h : core.memory = m) :
    (goOn core).Follows P m memoryOf :=
  follows_done h

/-- An instruction reads its memory by one act, -/
theorem follows_read (core : Core) (a : Word) (hP : P (.read a)) :
    (core.read a).Follows P core.memory (·.2.memory) := by
  unfold read
  exact (Dialogue.follows_read a hP).bind fun _ => follows_done rfl

/-- and stores into it by one. -/
theorem follows_store (core : Core) (i : Fin 8) (a : Word)
    (hP : P (.store a (core.registers.get i))) :
    (core.store i a).Follows P core.memory memory :=
  follows_of_perform (.store a _) hP rfl

/-- A fetch is a read. -/
theorem follows_fetch (core : Core) (hP : P (.read core.registers.pc)) :
    core.fetch.Follows P core.memory (·.2.memory) := by
  unfold fetch
  exact (Dialogue.follows_read _ hP).bind fun _ => follows_done rfl

/-- **An instruction that is no trap performs acts of the memory.** -/
theorem follows_execute_ofMemory {i : Instruction} (h : i.opcode ≠ .trap) (config : Config)
    (address : Word) (core : Core) :
    (core.execute config address i).Follows Act.OfMemory core.memory memoryOf := by
  unfold execute
  cases hopcode : i.opcode with
  | trap => exact absurd hopcode h
  | br =>
    dsimp only
    split <;> exact follows_goOn rfl
  | add | and | not | lea | jmp | jsr => exact follows_goOn rfl
  | ld | ldr => exact (core.follows_read _ trivial).bind fun _ => follows_goOn rfl
  | ldi =>
    exact (core.follows_read _ trivial).bind fun (_, core) =>
      (core.follows_read _ trivial).bind fun _ => follows_goOn rfl
  | st | str => exact (core.follows_store _ _ trivial).bind fun _ => follows_goOn rfl
  | sti =>
    exact (core.follows_read _ trivial).bind fun (_, core) =>
      (core.follows_store _ _ trivial).bind fun _ => follows_goOn rfl
  | rti | res => exact (follows_tell rfl trivial).bind fun _ => follows_done rfl

end Core

/-! ## Traps and whole steps

Beyond the acts of the memory, traps wait, write and flush; a step polls and
asks. From here on acts of every kind are allowed. -/

/-- Any act at all. -/
def Act.Any (_ : Act) : Prop := True

namespace Trap

open LC3.Core (memoryOf follows_goOn)

variable {P : Act → Prop}

/-- A string is read word by word. -/
theorem follows_gather (packing : Packing) (count : Nat) (a : Word) (m : Memory)
    (before : List UInt8) (hread : ∀ a, P (.read a)) :
    (gather packing count a m before).Follows P m (·.2) := by
  induction count generalizing a m before with
  | zero => exact follows_done rfl
  | succ count ih =>
    rw [gather_succ]
    refine (follows_read a (hread a)).bind fun (w, m) => ?_
    dsimp only
    split
    · exact follows_done rfl
    · exact ih _ _ _

/-- Printing writes and flushes, and leaves the memory. -/
theorem follows_print (core : Core) (message : List UInt8) (outcome : Outcome)
    (hwrite : P (.write message)) (hflush : P .flush) :
    (print core message outcome).Follows P core.memory memoryOf := by
  unfold print
  refine (follows_say message hwrite hflush).bind fun answer => ?_
  cases answer with
  | ok => exact follows_done rfl
  | error e => exact follows_done rfl

/-- A wait is an act, and what follows it may be any. -/
theorem follows_receive (core : Core) {next : UInt8 → Core → Dialogue (Outcome × Core)}
    (h : ∀ c core, (next c core).Follows Act.Any core.memory memoryOf) :
    (receive core next).Follows Act.Any core.memory memoryOf := by
  have hawait : Dialogue.awaitCharacter.Follows Act.Any core.memory fun _ => core.memory :=
    follows_of_perform .await trivial rfl
  unfold receive
  refine hawait.bind fun answer => ?_
  match answer with
  | .ok (some c) =>
    exact h c { core with registers := core.registers.set Registers.r0 c.toUInt16 }
  | .ok none => exact follows_done rfl
  | .error e => exact follows_done rfl

/-- A string is read, and then written and flushed. -/
theorem follows_printString (packing : Packing) (core : Core) (hread : ∀ a, P (.read a))
    (hwrite : ∀ message, P (.write message)) (hflush : P .flush) :
    (printString packing core).Follows P core.memory memoryOf := by
  unfold printString
  exact (follows_gather packing _ _ _ _ hread).bind fun (message, m) =>
    follows_print ⟨core.registers, m⟩ message _ (hwrite message) hflush

/-- The routines that write wait for nothing: of the acts that involve no
character of the keyboard they need no more than these. -/
theorem follows_perform_of_writes {trap : Trap} (hgetC : trap ≠ getC) (hinput : trap ≠ input)
    (config : Config) (core : Core) (hread : ∀ a, P (.read a))
    (hwrite : ∀ message, P (.write message)) (hflush : P .flush) :
    (trap.perform config core).Follows P core.memory memoryOf := by
  cases trap with
  | getC => exact absurd rfl hgetC
  | input => exact absurd rfl hinput
  | out => exact follows_print core _ _ (hwrite _) hflush
  | putS | putSP => exact follows_printString _ core hread hwrite hflush
  | halt =>
    unfold perform
    dsimp only
    split
    · exact follows_print core _ _ (hwrite _) hflush
    · exact follows_done rfl

/-- **Every routine performs acts.** The two that wait are those of which it cannot be said
that they only read and write. -/
theorem follows_perform (config : Config) (core : Core) (trap : Trap) :
    (trap.perform config core).Follows Act.Any core.memory memoryOf := by
  by_cases hgetC : trap = getC
  · subst hgetC
    exact follows_receive core fun _ _ => follows_done rfl
  · by_cases hinput : trap = input
    · subst hinput
      refine (follows_say _ trivial trivial).bind fun answer => ?_
      cases answer with
      | ok => exact follows_receive core fun _ core => follows_print core _ _ trivial trivial
      | error e => exact follows_done rfl
    · exact follows_perform_of_writes hgetC hinput config core (fun _ => trivial)
        (fun _ => trivial) trivial

end Trap

/-- **Every instruction performs acts.** -/
theorem Core.follows_execute (config : Config) (address : Word) (core : Core) (i : Instruction) :
    (core.execute config address i).Follows Act.Any core.memory memoryOf := by
  by_cases h : i.opcode = .trap
  · unfold execute
    rw [h]
    dsimp only
    split
    · exact Trap.follows_perform config core _
    · exact (follows_tell rfl trivial).bind fun _ => follows_goOn rfl
  · exact (follows_execute_ofMemory h config address core).mono fun _ _ => trivial

namespace Machine

/-- The memory of what a step ends with. -/
def memoryOf (result : Outcome × Machine) : Memory := result.2.core.memory

/-- The poll that may be due is an act, -/
theorem follows_pollBetween (m : Machine) :
    m.pollBetween.Follows Act.Any m.core.memory (·.core.memory) := by
  have hpoll : Dialogue.pollKeyboard.Follows Act.Any m.core.memory fun _ => m.core.memory :=
    follows_of_perform .poll trivial rfl
  unfold pollBetween
  split
  · refine hpoll.bind fun answer => ?_
    cases answer with
    | ok found => exact follows_done rfl
    | error e => exact (follows_tell rfl trivial).bind fun _ => follows_done rfl
  · exact follows_done rfl

/-- and so are the fetch, the note about it, and what the instruction does. -/
theorem follows_cycle (m : Machine) : m.cycle.Follows Act.Any m.core.memory memoryOf := by
  obtain ⟨core, config, steps, pollFailed⟩ := m
  unfold cycle
  refine (core.follows_fetch trivial).bind fun (w, core) => ?_
  dsimp only
  split
  · exact follows_done rfl
  · split
    · exact follows_done rfl
    · refine (follows_tell rfl trivial).bind fun _ => ?_
      exact (core.follows_execute _ _ _).bind fun _ => follows_done rfl

/-- **A step performs acts.** -/
theorem follows_step (m : Machine) : m.step.Follows Act.Any m.core.memory memoryOf := by
  unfold step
  split
  · exact (follows_tell rfl trivial).bind fun _ => follows_done rfl
  · refine m.follows_pollBetween.bind fun m => ?_
    have hask : Dialogue.shutdownRequested.Follows Act.Any m.core.memory
        fun _ => m.core.memory :=
      follows_of_perform .ask trivial rfl
    refine hask.bind fun requested => ?_
    split
    · exact (follows_tell rfl trivial).bind fun _ => follows_done rfl
    · exact m.follows_cycle

/-! ## Other acts of the machine -/

/-- A reset only makes a note. -/
theorem follows_reset (m : Machine) :
    m.reset.Follows Act.Any m.core.memory (·.core.memory) := by
  unfold reset
  exact (follows_tell rfl trivial).bind fun _ => follows_done rfl

/-- **Loading** only makes notes, once the program is in its place. -/
theorem exists_follows_load (m : Machine) (program : List Word) :
    ∃ memory, (m.load program).Follows Act.Any memory (·.2.core.memory) := by
  unfold load
  cases program with
  | nil => exact ⟨_, follows_done rfl⟩
  | cons origin words =>
    dsimp only
    cases m.core.memory.load origin words with
    | error e => exact ⟨_, follows_done rfl⟩
    | ok memory =>
      have hreset := follows_reset { m with core := { m.core with memory := memory } }
      refine ⟨memory, hreset.bind fun m => ?_⟩
      exact (follows_tell rfl trivial).bind fun _ => follows_done rfl

/-- An image is loaded like the program in it, or refused. -/
theorem exists_follows_loadImage (m : Machine) (image : List UInt8) :
    ∃ memory, (m.loadImage image).Follows Act.Any memory (·.2.core.memory) := by
  unfold loadImage
  cases Image.words image with
  | error e => exact ⟨_, follows_done rfl⟩
  | ok program => exact m.exists_follows_load program

/-- A store from outside is the act of storing, -/
theorem follows_write (m : Machine) (a value : Word) :
    (m.write a value).Follows Act.Any m.core.memory (·.core.memory) :=
  follows_of_perform (.store a value) trivial rfl

/-- and a read from outside that of reading. -/
theorem follows_read (m : Machine) (a : Word) :
    (m.read a).Follows Act.Any m.core.memory (·.2.core.memory) := by
  unfold read
  exact (m.core.follows_read a trivial).bind fun _ => follows_done rfl

end Machine

end LC3
