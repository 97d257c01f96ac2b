import LC3.Console.Collector
import LC3.Proofs.DeviceFailures
import LC3.Proofs.KeyboardRegisters
import LC3.Proofs.Programs
import LC3.Proofs.Queued
import LC3.Proofs.Runs

/-!
# How a program is interrupted that reads no input

A program that executes no trap and never reads the keyboard status can be
interrupted only by the poll that the machine makes every 4096 instructions.
This poll looks at the device, unless a character is in the latch; and
nothing takes that character out again, since the program reads no input. So
a request for shutdown is **heard** if nothing but idle events is before it,
and then the program is interrupted as soon as so many polls were made. It is
not heard, however long the program runs, if a character was typed before it.
`System.interrupted_exactly_if_heard` states both.
-/

namespace LC3

/-! ## Steps that read no input

Input is read in two ways, and both leave a report: a trap is reported as an
executed instruction, and a read of the keyboard status as such. So it can be
told from the exchanges of a run that it reads no input, without a condition on
the program. A read of the data register is not excluded, since it gives what is
in memory and asks the keyboard nothing. -/

/-- **No input is read:** no trap is executed and the keyboard status is not
read. -/
structure ReadsNoInput (exchanges : List Exchange) : Prop where
  noStatus : ∀ held ready data, .reported (.statusRead held ready data) ∉ exchanges
  noTrap : ∀ address i, .reported (.executed address i) ∈ exchanges → i.opcode ≠ .trap

namespace ReadsNoInput

/-- The first part of a run that reads no input reads none. -/
theorem left {before later : List Exchange} (h : ReadsNoInput (before ++ later)) :
    ReadsNoInput before := by
  constructor
  · intro held ready data hmem
    exact h.noStatus held ready data (List.mem_append_left _ hmem)
  · intro address i hmem
    exact h.noTrap address i (List.mem_append_left _ hmem)

/-- Nor does the rest of it. -/
theorem right {before later : List Exchange} (h : ReadsNoInput (before ++ later)) :
    ReadsNoInput later := by
  constructor
  · intro held ready data hmem
    exact h.noStatus held ready data (List.mem_append_right _ hmem)
  · intro address i hmem
    exact h.noTrap address i (List.mem_append_right _ hmem)

/-- Two runs that read no input read none together. -/
theorem append {before later : List Exchange} (h : ReadsNoInput before)
    (h' : ReadsNoInput later) : ReadsNoInput (before ++ later) := by
  constructor
  · intro held ready data hmem
    obtain hmem | hmem := List.mem_append.1 hmem
    · exact h.noStatus held ready data hmem
    · exact h'.noStatus held ready data hmem
  · intro address i hmem
    obtain hmem | hmem := List.mem_append.1 hmem
    · exact h.noTrap address i hmem
    · exact h'.noTrap address i hmem

/-- Nothing at all reads no input. -/
theorem nil : ReadsNoInput [] :=
  ⟨fun _ _ _ => List.not_mem_nil, fun _ _ hmem => nomatch hmem⟩

/-- An exchange that is neither a read of the status nor an instruction. -/
theorem singleton {e : Exchange}
    (hstatus : ∀ held ready data, e ≠ .reported (.statusRead held ready data))
    (hexecuted : ∀ address i, e ≠ .reported (.executed address i)) : ReadsNoInput [e] := by
  constructor
  · intro held ready data hmem
    exact hstatus held ready data (List.eq_of_mem_singleton hmem).symm
  · intro address i hmem
    exact absurd (List.eq_of_mem_singleton hmem).symm (hexecuted address i)

end ReadsNoInput

variable {κ ω : Type}

/-- An act of the memory moves the keyboard only by a read of the status. -/
theorem Act.keyboard_perform_of_ofMemory [Keyboard κ] [Console ω] {act : Act}
    (hact : act.OfMemory) (m : Memory) (k : κ) (c : ω)
    (h : ∀ held ready data,
      .reported (.statusRead held ready data) ∉ ((act.perform m).hold k c).exchanges) :
    ((act.perform m).hold k c).keyboard = k := by
  cases act with
  -- only reads, stores and reports are acts of the memory
  | poll | ask | await | write bytes | flush => exact hact.elim
  | store a value | note event logged => rfl
  | read a =>
    rw [hold_read] at h ⊢
    obtain ⟨-, hread⟩ | ⟨-, hread⟩ | hread := m.read_cases a
    · rw [hread] at h
      obtain ⟨held, ready, data, hmem⟩ := m.exists_statusRead_mem k c
      exact absurd hmem (h held ready data)
    · rw [hread]
      rfl
    · rw [hread]
      rfl

/-- Nor do acts of the memory one after another. -/
theorem Dialogue.Follows.keyboard_eq [Keyboard κ] [Console ω] {α : Type} {x : Dialogue α}
    {m : Memory} {memory : α → Memory} (hx : x.Follows Act.OfMemory m memory) (k : κ) (c : ω)
    (h : ∀ held ready data,
      .reported (.statusRead held ready data) ∉ (x.hold k c).exchanges) :
    (x.hold k c).keyboard = k := by
  -- the condition goes into the relation, so that it is handed down to the parts
  have hrelate := hx.relate (ω := ω)
    (R := fun _ (k : κ) exchanges _ k' =>
      (∀ held ready data, .reported (.statusRead held ready data) ∉ exchanges) → k' = k)
    ⟨fun _ _ _ => rfl, fun hbefore hlater h => ?_⟩
    (fun act hact m k c => Act.keyboard_perform_of_ofMemory hact m k c) k c
  · exact hrelate h
  · have hfirst := hbefore fun held ready data hmem =>
      h held ready data (List.mem_append_left _ hmem)
    have hsecond := hlater fun held ready data hmem =>
      h held ready data (List.mem_append_right _ hmem)
    exact hsecond.trans hfirst

namespace System

variable [Keyboard κ] [Console ω]

/-- **A cycle that reads no input** leaves the keyboard alone, and it stops
the machine only at an operation without a meaning or when no more steps can
be counted. -/
theorem cycle_of_readsNoInput {s : System κ ω} (h : ReadsNoInput s.cycle.exchanges) :
    s.cycle.keyboard = s.keyboard
      ∧ (s.cycle.value.1 = .running
        ∨ (∃ code address, s.cycle.value.1 = .fault (.reservedOpcode code address))
        ∨ s.cycle.value.1 = .crash .arithmetic) := by
  -- the fetch is a read as well, and the word may have been fetched from the status
  have hfetch : (∀ held ready data,
      .reported (.statusRead held ready data) ∉ s.fetched.exchanges)
      → s.fetched.keyboard = s.keyboard :=
    (Dialogue.follows_read s.machine.core.registers.pc trivial).keyboard_eq s.keyboard s.console
  by_cases hfull : s.machine.steps = Machine.maxCount
  · rw [cycle_of_full hfull] at h ⊢
    exact ⟨hfetch h.noStatus, .inr (.inr rfl)⟩
  · rw [cycle_eq hfull] at h ⊢
    have hkept := hfetch h.left.noStatus
    have htrap : (Instruction.ofWord s.fetched.value.1).opcode ≠ .trap :=
      h.right.noTrap _ _ List.mem_cons_self
    have hlater : ReadsNoInput ([_] ++ _) := h.right
    constructor
    · exact ((Core.follows_execute_ofMemory htrap _ _ _).keyboard_eq _ _
        hlater.right.noStatus).trans hkept
    · have houtcome := (Core.ends_execute htrap s.machine.config s.machine.core.registers.pc
        ⟨s.machine.core.registers.advance, s.fetched.value.2⟩).hold s.fetched.keyboard
          s.fetched.console
      obtain hrunning | hfault :=
        Instruction.outcome_cases htrap s.machine.core.registers.pc
      · exact .inl (houtcome.trans hrunning)
      · exact .inr (.inl ⟨_, _, houtcome.trans hfault⟩)

/-- **A step that reads no input** and is not at the limit leaves the keyboard
as the poll between instructions left it. It is interrupted if shutdown was
requested by then, and otherwise ends as its cycle does. -/
theorem step_of_readsNoInput {s : System κ ω} (hlimit : s.machine.limitReached? = none)
    (h : ReadsNoInput s.step.2.2) :
    s.next.keyboard = s.polled.keyboard
      ∧ (Keyboard.requested s.polled.keyboard = true ∧ s.step.1 = .fault .interrupted
        ∨ Keyboard.requested s.polled.keyboard = false
          ∧ (s.step.1 = .running
            ∨ (∃ code address, s.step.1 = .fault (.reservedOpcode code address))
            ∨ s.step.1 = .crash .arithmetic)) := by
  unfold next
  cases hrequested : Keyboard.requested s.polled.keyboard with
  | true =>
    rw [step_of_requested hlimit hrequested]
    exact ⟨rfl, .inl ⟨rfl, rfl⟩⟩
  | false =>
    rw [step_eq_cycle hlimit hrequested] at h ⊢
    have hcycle : ReadsNoInput ([_] ++ _) := h.right
    obtain ⟨hkeyboard, houtcome⟩ := cycle_of_readsNoInput hcycle.right
    exact ⟨hkeyboard, .inr ⟨rfl, houtcome⟩⟩

end System

/-! ## What is heard

What a keyboard still has to give is a queue of events behind the latch
(`Pending`). A poll with an empty latch passes over one event, and with a
character in the latch over none. This is why the place of the request alone
does not decide: before a character it is reached after as many polls as there
are events before it, and behind a character it is never reached. Ghosts and
failures are left out by `PendingEvent.Plain`: a device that works has neither,
and after a failure there are no more polls at all. -/

/-- **An event of a working device:** a character, a request for shutdown, or
nothing of interest. -/
def PendingEvent.Plain : PendingEvent → Prop
  | character _ | shutdown | idle => True
  | ghost | failure _ => False

instance (event : PendingEvent) : Decidable event.Plain :=
  match event with
  | .character _ | .shutdown | .idle => .isTrue trivial
  | .ghost | .failure _ => .isFalse id

namespace Pending

/-- Shutdown is the first event after so many idle ones, and no character is
in the latch. -/
def HeardAfter (p : Pending) (idle : Nat) : Prop :=
  p.latch = none ∧ ∃ rest, p.queue = List.replicate idle .idle ++ .shutdown :: rest

/-- **A request for shutdown is heard** if it was made already, or if it is
the first event that is not idle and no character is in the latch. -/
def Heard (p : Pending) : Prop := p.shutdown = true ∨ ∃ idle, p.HeardAfter idle

/-- Idle events that are passed over are among those before the request. -/
theorem exists_of_replicate_append {passed idle : Nat} {queue rest : List PendingEvent}
    (h : List.replicate idle .idle ++ .shutdown :: rest
      = List.replicate passed .idle ++ queue) :
    ∃ left, idle = passed + left
      ∧ queue = List.replicate left .idle ++ .shutdown :: rest := by
  induction passed generalizing idle with
  | zero => exact ⟨idle, (Nat.zero_add _).symm, h.symm⟩
  | succ passed ih =>
    cases idle with
    | zero => exact nomatch (List.cons.inj h).1
    | succ idle =>
      obtain ⟨left, hidle, hqueue⟩ := ih (List.cons.inj h).2
      exact ⟨left, by omega, hqueue⟩

/-- A poll takes one event off the idle ones, or hears the request. -/
theorem poll_of_heardAfter {p : Pending} {idle : Nat} (h : p.HeardAfter idle) :
    p.poll.answer = .ok false
      ∧ (p.poll.keyboard.shutdown = true
        ∨ ∃ fewer < idle, p.poll.keyboard.HeardAfter fewer) := by
  obtain ⟨queue, latch, shutdown⟩ := p
  obtain ⟨hlatch, rest, hqueue⟩ := h
  cases hlatch
  cases hqueue
  cases idle with
  -- the request is next, and the poll takes it
  | zero => exact ⟨rfl, .inl rfl⟩
  | succ idle => exact ⟨rfl, .inr ⟨idle, idle.lt_succ_self, rfl, rest, rfl⟩⟩

/-- An event that is found does not take a request back. -/
theorem shutdown_poll {p : Pending} (h : p.shutdown = true) :
    p.poll.keyboard.shutdown = true := by
  obtain ⟨queue, latch, shutdown⟩ := p
  cases h
  cases latch with
  | some c => rfl
  | none =>
    cases queue with
    | nil => rfl
    | cons event rest => cases event <;> rfl

/-- What is not heard is not heard after a poll either: the poll goes no
further than a character. -/
theorem not_heard_poll {p : Pending} (hplain : ∀ event ∈ p.queue, event.Plain)
    (h : ¬ p.Heard) :
    (∀ event ∈ p.poll.keyboard.queue, event.Plain) ∧ ¬ p.poll.keyboard.Heard := by
  obtain ⟨queue, latch, shutdown⟩ := p
  cases latch with
  | some c => exact ⟨hplain, h⟩
  | none =>
    cases queue with
    | nil => exact ⟨hplain, h⟩
    | cons event rest =>
      have hrest : ∀ event ∈ rest, event.Plain :=
        fun event hmem => hplain event (List.mem_cons_of_mem _ hmem)
      cases event with
      -- the character goes into the latch, and nothing behind it is heard then
      | character c =>
        refine ⟨hrest, ?_⟩
        rintro (hshutdown | ⟨-, hlatch, -⟩)
        · exact h (.inl hshutdown)
        · exact nomatch hlatch
      | shutdown => exact absurd (.inr ⟨0, rfl, rest, rfl⟩) h
      | idle =>
        refine ⟨hrest, ?_⟩
        rintro (hshutdown | ⟨idle, -, later, hqueue⟩)
        · exact h (.inl hshutdown)
        · exact h (.inr ⟨idle + 1, rfl, later, congrArg (PendingEvent.idle :: ·) hqueue⟩)
      | ghost => exact (hplain _ List.mem_cons_self).elim
      | failure e => exact (hplain _ List.mem_cons_self).elim

/-- A poll reports nothing. -/
theorem events_poll (p : Pending) : (Keyboard.poll p).events = [] := by
  obtain ⟨queue, latch, shutdown⟩ := p
  cases latch with
  | some c => rfl
  | none =>
    cases queue with
    | nil => rfl
    | cons event rest => cases event <;> rfl

/-- The request that is heard is the first in the queue. -/
theorem HeardAfter.le {p : Pending} {idle k : Nat} (h : p.HeardAfter idle)
    (hk : p.queue[k]? = some .shutdown) : idle ≤ k := by
  obtain ⟨-, rest, hqueue⟩ := h
  refine Nat.le_of_not_lt fun hlt => ?_
  rw [hqueue, List.getElem?_append_left (by rw [List.length_replicate]; exact hlt),
    List.getElem?_replicate, if_pos hlt] at hk
  exact nomatch hk

end Pending

/-! ## On any keyboard that is a queue

A poll of such a keyboard may pass over several idle events before it does what
a poll of the queue does (`Queued.poll_of_empty`). So the facts about the queue
carry over, with the idle events that it passed over added to the counts. -/

namespace Queued

variable [Queued κ]

/-- A poll takes no request back. -/
theorem shutdown_poll {k : κ} (h : (view k).shutdown = true) :
    (view (Keyboard.poll k).keyboard).shutdown = true := by
  cases hlatch : (view k).latch with
  | some c =>
    rw [(poll_of_latched k (by rw [hlatch]; rfl)).2]
    exact h
  | none =>
    obtain ⟨passed, queue, -, -, hview⟩ := poll_of_empty k hlatch
    rw [hview]
    exact Pending.shutdown_poll h

/-- What is not heard is not heard after a poll. -/
theorem not_heard_poll {k : κ} (hplain : ∀ event ∈ (view k).queue, event.Plain)
    (h : ¬ (view k).Heard) :
    (∀ event ∈ (view (Keyboard.poll k).keyboard).queue, event.Plain)
      ∧ ¬ (view (Keyboard.poll k).keyboard).Heard := by
  cases hlatch : (view k).latch with
  | some c =>
    rw [(poll_of_latched k (by rw [hlatch]; rfl)).2]
    exact ⟨hplain, h⟩
  | none =>
    obtain ⟨passed, queue, hpassed, -, hview⟩ := poll_of_empty k hlatch
    rw [hview]
    refine Pending.not_heard_poll ?_ ?_
    · intro event hmem
      exact hplain event (hpassed ▸ List.mem_append_right _ hmem)
    · -- a request behind more idle events would be heard all the same
      rintro (hshutdown | ⟨idle, -, rest, hqueue⟩)
      · exact h (.inl hshutdown)
      · refine h (.inr ⟨passed + idle, hlatch, rest, ?_⟩)
        rw [hpassed, show queue = _ from hqueue, ← List.append_assoc,
          List.replicate_append_replicate]

/-- A poll brings a request that is heard nearer, by one idle event at least. -/
theorem poll_of_heardAfter {k : κ} {idle : Nat} (h : (view k).HeardAfter idle) :
    (Keyboard.poll k).answer = .ok false
      ∧ ((view (Keyboard.poll k).keyboard).shutdown = true
        ∨ ∃ fewer < idle, (view (Keyboard.poll k).keyboard).HeardAfter fewer) := by
  obtain ⟨hlatch, rest, hqueue⟩ := h
  obtain ⟨passed, queue, hpassed, hanswer, hview⟩ := poll_of_empty k hlatch
  obtain ⟨left, hidle, hleft⟩ := Pending.exists_of_replicate_append (hqueue.symm.trans hpassed)
  have hheard : Pending.HeardAfter { view k with queue := queue } left := ⟨hlatch, rest, hleft⟩
  obtain ⟨hfalse, hlater⟩ := Pending.poll_of_heardAfter hheard
  rw [hanswer, hview]
  refine ⟨hfalse, hlater.imp_right ?_⟩
  rintro ⟨fewer, hlt, hfewer⟩
  exact ⟨fewer, by omega, hfewer⟩

end Queued

/-! ## A request that is heard

The number of idle events before the request and the number of steps up to the
next poll go into one bound, and each step makes it smaller on both sides: a
step without a poll brings the poll nearer, and a step with a poll takes at
least one idle event away. -/

namespace System

variable [Queued κ] [Console ω]

/-- **Every poll brings the request nearer:** while the program runs, the
instructions up to the poll that hears it are too few for one poll more than
there are idle events before it. -/
theorem runsFor_lt_of_heardAfter {s : System κ ω} {idle n : Nat}
    (hheard : (Queued.view s.keyboard).HeardAfter idle)
    (hlimit : s.machine.config.maxSteps = none) (hfailed : s.machine.pollFailed = false)
    (hruns : s.RunsFor n) (hreads : ReadsNoInput (s.trace n)) :
    n + s.machine.steps.toNat % 4096 < 4096 * (idle + 1) := by
  induction n generalizing s idle with
  | zero => omega
  | succ n ih =>
    obtain ⟨hrunning, hlater⟩ := runsFor_succ.1 hruns
    rw [trace_succ] at hreads
    have hnone := Machine.limitReached?_of_none hlimit
    have hpollFailed := pollFailed_next hnone
    obtain ⟨hkeyboard, ⟨-, hinterrupted⟩ | ⟨hrequested, -⟩⟩ :=
      step_of_readsNoInput hnone hreads.left
    · exact nomatch hrunning.symm.trans hinterrupted
    have hsteps := steps_next hrunning
    rw [← s.config_next] at hlimit
    by_cases hdue : s.machine.PollIsDue
    · -- the poll is made: it takes an idle event away, or the step would be interrupted
      obtain ⟨hanswer, hpoll⟩ := Queued.poll_of_heardAfter hheard
      obtain ⟨hpolled, hmachine⟩ := polled_of_due hdue
      have hcount := (s.machine.pollIsDue_iff.1 hdue).1
      rw [hpolled] at hkeyboard hrequested
      rw [hmachine false hanswer] at hpollFailed
      obtain hshutdown | ⟨fewer, hfewer, hheard⟩ := hpoll
      · rw [← Queued.requested_eq, hrequested] at hshutdown
        exact nomatch hshutdown
      · rw [← hkeyboard] at hheard
        have hbound := ih hheard hlimit (hpollFailed.trans hfailed) hlater hreads.right
        omega
    · -- no poll is made, and the next one is a step nearer
      have hpolled := polled_of_not_due hdue
      have hcount : s.machine.steps.toNat % 4096 ≠ 4095 := fun hcount =>
        hdue (s.machine.pollIsDue_iff.2 ⟨hcount, hfailed⟩)
      rw [hpolled] at hkeyboard hpollFailed
      rw [← hkeyboard] at hheard
      have hbound := ih hheard hlimit (hpollFailed.trans hfailed) hlater hreads.right
      omega

/-- A poll between instructions takes no request back. -/
theorem shutdown_polled {s : System κ ω} (h : (Queued.view s.keyboard).shutdown = true) :
    Keyboard.requested s.polled.keyboard = true := by
  rw [Queued.requested_eq]
  by_cases hdue : s.machine.PollIsDue
  · rw [(polled_of_due hdue).1]
    exact Queued.shutdown_poll h
  · rw [polled_of_not_due hdue]
    exact h

/-! ## A request that is not heard

That nothing is heard is kept by every poll, and a step that reads no input
moves the keyboard by its poll alone. So it is an invariant of the run, and an
interruption would contradict it. -/

/-- A poll between instructions does not hear a request behind a character. -/
theorem not_heard_polled {s : System κ ω}
    (hplain : ∀ event ∈ (Queued.view s.keyboard).queue, event.Plain)
    (h : ¬ (Queued.view s.keyboard).Heard) :
    (∀ event ∈ (Queued.view s.polled.keyboard).queue, event.Plain)
      ∧ ¬ (Queued.view s.polled.keyboard).Heard := by
  by_cases hdue : s.machine.PollIsDue
  · rw [(polled_of_due hdue).1]
    exact Queued.not_heard_poll hplain h
  · rw [polled_of_not_due hdue]
    exact ⟨hplain, h⟩

/-- **However many steps are made**, none is interrupted. -/
theorem not_interrupted_of_not_heard {s : System κ ω} {n : Nat}
    (hplain : ∀ event ∈ (Queued.view s.keyboard).queue, event.Plain)
    (hheard : ¬ (Queued.view s.keyboard).Heard) (hlimit : s.machine.config.maxSteps = none)
    (hreads : ReadsNoInput (s.trace (n + 1))) :
    (s.after n).step.1 ≠ .fault .interrupted := by
  induction n generalizing s with
  | zero =>
    rw [trace_succ] at hreads
    obtain ⟨-, hheard⟩ := not_heard_polled hplain hheard
    obtain ⟨-, ⟨hrequested, -⟩ | ⟨-, houtcome⟩⟩ :=
      step_of_readsNoInput (Machine.limitReached?_of_none hlimit) hreads.left
    · rw [Queued.requested_eq] at hrequested
      exact absurd (.inl hrequested) hheard
    · intro hinterrupted
      rw [after_zero] at hinterrupted
      rw [hinterrupted] at houtcome
      obtain h | ⟨_, _, h⟩ | h := houtcome <;> exact nomatch h
  | succ n ih =>
    rw [trace_succ] at hreads
    obtain ⟨hplain, hheard⟩ := not_heard_polled hplain hheard
    obtain ⟨hkeyboard, -⟩ :=
      step_of_readsNoInput (Machine.limitReached?_of_none hlimit) hreads.left
    rw [← hkeyboard] at hplain hheard
    rw [← s.config_next] at hlimit
    exact ih hplain hheard hlimit hreads.right

/-! ## A program that does nothing

A branch that is always taken, to itself, reads no input and runs for as many
steps as can be counted. It shows that a request can in fact be passed by for
ever: every other way to stop is excluded by `Spins.step`. -/

/-- **A machine that branches to itself for ever**, with a keyboard that is
never heard. -/
structure Spins {ω : Type} (s : System Pending ω) : Prop where
  fetches : s.machine.core.memory.read s.machine.core.registers.pc
    = .done (0x0FFF, s.machine.core.memory)
  unlimited : s.machine.config.maxSteps = none
  plain : ∀ event ∈ s.keyboard.queue, event.Plain
  unheard : ¬ s.keyboard.Heard

/-- The branch changes nothing. -/
theorem execute_spin (config : Config) (address : Word) (core : Core) :
    Core.execute config address { core with registers := core.registers.advance } (.ofWord 0x0FFF)
      = Core.goOn core := by
  obtain ⟨⟨general, pc, flag⟩, memory⟩ := core
  -- the offset is -1, which undoes the advance of the program counter
  have hback : pc + 1 + (Instruction.ofWord 0x0FFF).off9 = pc := by
    rw [UInt16.add_assoc, show 1 + (Instruction.ofWord 0x0FFF).off9 = 0 by decide,
      UInt16.add_zero]
  -- all three signs are asked for, and one of them is always up
  have htaken : ¬ (Instruction.ofWord 0x0FFF).signs &&& flag.bits = 0 := by
    cases flag <;> decide
  show (if (Instruction.ofWord 0x0FFF).signs &&& flag.bits = 0 then _
    else Core.goOn ⟨⟨general, pc + 1 + (Instruction.ofWord 0x0FFF).off9, flag⟩, memory⟩) = _
  rw [if_neg htaken, hback]

/-- Its polls are no input to the program. -/
theorem readsNoInput_pollExchanges {ω : Type} [Console ω] (s : System Pending ω) :
    ReadsNoInput s.pollExchanges := by
  constructor
  · intro held ready data hmem
    obtain ⟨event, hevent, -⟩ | h | ⟨error, h⟩ := mem_pollExchanges hmem
    · exact absurd (s.keyboard.events_poll ▸ hevent) List.not_mem_nil
    · exact nomatch h
    · exact nomatch h
  · intro address i hmem
    obtain ⟨event, hevent, -⟩ | h | ⟨error, h⟩ := mem_pollExchanges hmem
    · exact absurd (s.keyboard.events_poll ▸ hevent) List.not_mem_nil
    · exact nomatch h
    · exact nomatch h

/-- No step stops it, as long as steps can be counted. -/
theorem Spins.step {ω : Type} [Console ω] {s : System Pending ω} (h : Spins s)
    (hleft : s.machine.steps ≠ Machine.maxCount) :
    s.step.1 = .running ∧ Spins s.next ∧ ReadsNoInput s.step.2.2 := by
  obtain ⟨hcore, hconfig, hsteps⟩ := s.polled_machine
  obtain ⟨hplain, hunheard⟩ := not_heard_polled (s := s) h.plain h.unheard
  have hrequested : Keyboard.requested s.polled.keyboard = false :=
    Bool.eq_false_iff.2 fun hshutdown => hunheard (.inl hshutdown)
  -- the one instruction jumps back to itself, so that only the count is changed
  have hcycle : s.polled.cycle
      = ⟨(.running, { s.polled.machine with steps := s.machine.steps + 1 }),
        s.polled.keyboard, s.polled.console,
        [.reported (.executed s.machine.core.registers.pc (.ofWord 0x0FFF))]⟩ := by
    unfold cycle
    rw [Machine.hold_cycle (hsteps ▸ hleft), Machine.hold_fetch, hcore, h.fetches, hsteps]
    dsimp only [Dialogue.hold_done]
    rw [execute_spin, ← hcore]
    rfl
  unfold next
  rw [step_eq_cycle (Machine.limitReached?_of_none h.unlimited) hrequested, hcycle]
  refine ⟨rfl, ⟨?_, ?_, hplain, hunheard⟩, ?_⟩
  · show s.polled.machine.core.memory.read s.polled.machine.core.registers.pc
      = .done (0x0FFF, s.polled.machine.core.memory)
    rw [hcore]
    exact h.fetches
  · show s.polled.machine.config.maxSteps = none
    rw [hconfig]
    exact h.unlimited
  · have hasked : ReadsNoInput [.asked false] := .singleton nofun nofun
    have hexecuted : ReadsNoInput
        [.reported (.executed s.machine.core.registers.pc (.ofWord 0x0FFF))] := by
      constructor
      · intro held ready data hmem
        exact nomatch List.eq_of_mem_singleton hmem
      · intro address i hmem
        cases List.eq_of_mem_singleton hmem
        decide
    exact s.readsNoInput_pollExchanges.append (hasked.append hexecuted)

/-- **It goes on for any number of steps** that can be counted. -/
theorem Spins.runsFor {ω : Type} [Console ω] {s : System Pending ω} (h : Spins s) {n : Nat}
    (hn : s.machine.steps.toNat + n < UInt64.size) :
    s.RunsFor n ∧ ReadsNoInput (s.trace n) := by
  induction n generalizing s with
  | zero => exact ⟨fun i hi => absurd hi i.not_lt_zero, .nil⟩
  | succ n ih =>
    have hleft : s.machine.steps ≠ Machine.maxCount := by
      intro hfull
      rw [hfull] at hn
      exact absurd hn (by show ¬ (UInt64.size - 1) + (n + 1) < UInt64.size; omega)
    obtain ⟨hrunning, hnext, hreads⟩ := h.step hleft
    obtain ⟨hruns, hlater⟩ := ih hnext (by rw [steps_next hrunning]; omega)
    exact ⟨runsFor_succ.2 ⟨hrunning, hruns⟩, hreads.append hlater⟩

/-- The program, and a keyboard on which a character was typed before shutdown
was requested. -/
def typedThenShutdown : System Pending Collector :=
  ⟨.loaded [0x0FFF], { queue := [.character 0x61, .shutdown] }, {}⟩

/-- It spins: the character is before the request, so there are no idle events that
would reach it. -/
theorem spins_typedThenShutdown : Spins typedThenShutdown where
  fetches := Machine.read_loaded (i := 0) rfl (by decide) (by decide)
  unlimited := rfl
  plain := by decide
  unheard := by
    rintro (hshutdown | ⟨idle, -, rest, hqueue⟩)
    · exact nomatch hshutdown
    · cases idle with
      | zero => exact nomatch (List.cons.inj hqueue).1
      | succ idle => exact nomatch (List.cons.inj hqueue).1

/-! ## Exactly what is heard interrupts -/

/-- **A program that reads no input is interrupted exactly by what is heard.**
Let the event at place `k` of the queue, counted from zero, be a request for
shutdown. If a request is heard, fewer than 4096 times `k + 1` instructions
are executed before the machine stops, and it stops because of the request
unless the program stops it first; if none is heard, no step at all is
interrupted. -/
theorem interrupted_exactly_if_heard (s : System κ ω) {k : Nat}
    (hplain : ∀ event ∈ (Queued.view s.keyboard).queue, event.Plain)
    (hk : (Queued.view s.keyboard).queue[k]? = some .shutdown)
    (hlimit : s.machine.config.maxSteps = none) (hfailed : s.machine.pollFailed = false) :
    ((Queued.view s.keyboard).Heard →
        ∀ n, s.RunsFor n → ReadsNoInput (s.trace n) → n < 4096 * (k + 1))
      ∧ (¬ (Queued.view s.keyboard).Heard →
        ∀ n, ReadsNoInput (s.trace (n + 1)) → (s.after n).step.1 ≠ .fault .interrupted)
      ∧ ∀ n, ReadsNoInput (s.trace (n + 1)) →
        (s.after n).step.1 = .running
          ∨ (s.after n).step.1 = .fault .interrupted
          ∨ (∃ code address, (s.after n).step.1 = .fault (.reservedOpcode code address))
          ∨ (s.after n).step.1 = .crash .arithmetic := by
  have hnone := Machine.limitReached?_of_none hlimit
  refine ⟨?_, fun hheard n hreads => ?_, fun n hreads => ?_⟩
  · rintro (hshutdown | ⟨idle, hheard⟩) n hruns hreads
    · -- the first step finds the request, and nothing is executed at all
      cases n with
      | zero => omega
      | succ n =>
        rw [trace_succ] at hreads
        obtain ⟨-, ⟨-, hinterrupted⟩ | ⟨hrequested, -⟩⟩ :=
          step_of_readsNoInput hnone hreads.left
        · exact nomatch (runsFor_succ.1 hruns).1.symm.trans hinterrupted
        · exact nomatch (shutdown_polled hshutdown).symm.trans hrequested
    · have hbound := runsFor_lt_of_heardAfter hheard hlimit hfailed hruns hreads
      have hle := hheard.le hk
      omega
  · exact not_interrupted_of_not_heard hplain hheard hlimit hreads
  · have hlimit' : (s.after n).machine.limitReached? = none :=
      Machine.limitReached?_of_none (by rw [s.config_after]; exact hlimit)
    rw [trace_succ'] at hreads
    obtain ⟨-, ⟨-, hinterrupted⟩ | ⟨-, hrunning | houtcome⟩⟩ :=
      step_of_readsNoInput hlimit' hreads.right
    · exact .inr (.inl hinterrupted)
    · exact .inl hrunning
    · exact .inr (.inr houtcome)

/-- CTRL-C after an event of no interest, on a terminal. -/
def pressedCtrlC : System Attended Collector :=
  ⟨.loaded [0x0FFF], ⟨{}, [.other, .key { code := .character 'c', control := true }]⟩, {}⟩

/-- It is heard, by the first poll already. -/
theorem pressedCtrlC_interrupted :
    (Queued.view pressedCtrlC.keyboard).queue[1]? = some .shutdown
      ∧ (Queued.view pressedCtrlC.keyboard).Heard
      ∧ ∀ n, pressedCtrlC.RunsFor n → ReadsNoInput (pressedCtrlC.trace n) → n < 4096 * 2 := by
  have hheard : (Queued.view pressedCtrlC.keyboard).Heard := .inr ⟨1, rfl, [], rfl⟩
  exact ⟨rfl, hheard,
    (interrupted_exactly_if_heard pressedCtrlC (k := 1) (by decide) rfl rfl rfl).1 hheard⟩

/-- **A request for shutdown does not stop a program** if a character was
typed before it: two polls could look at two events, and yet more
instructions are executed than it takes to make two polls. -/
theorem typedThenShutdown_not_interrupted :
    typedThenShutdown.keyboard.queue[1]? = some .shutdown
      ∧ typedThenShutdown.machine.config.maxSteps = none
      ∧ typedThenShutdown.machine.pollFailed = false
      ∧ typedThenShutdown.RunsFor 8193 ∧ ReadsNoInput (typedThenShutdown.trace 8193)
      ∧ ¬ 8193 ≤ 4096 * 2 := by
  obtain ⟨hruns, hreads⟩ := spins_typedThenShutdown.runsFor (n := 8193) (by decide)
  exact ⟨rfl, rfl, rfl, hruns, hreads, by decide⟩

end System

end LC3
