import LC3.Proofs.BrokenConsoles
import LC3.Proofs.IntervalPoll
import LC3.Proofs.StepVerdicts

/-!
# Running a program again

A reset puts back the registers and the count of steps, and nothing else. So a
program can be run again after a reset if it left the memory as it was and learned
nothing from the keyboard. That a program **leaves no trace** in this sense is read
off its run: no operation in it stores, none waits for a character, and neither
register of the keyboard is read.

A cycle of such a program exchanges nothing with its devices but output
(`Work.isOutput_logged`), and a dialogue that exchanges nothing else takes the same
course with every keyboard (`Dialogue.hold_of_isOutput`). What is left is the poll
between instructions. It may be answered differently each time and may move a
character to the latch, but it leaves the machine alone. So two runs from the same
machine stay together step by step (`System.Parallel.step`), and each leaves the
machine such that a reset makes it what it was (`Machine.restarted`).
-/

namespace LC3

open Exchange (demands demands_append written isDemand isQuestion isQuestion_of_isDemand)
open Delivers (Sound)
open Memory (statusAddress dataAddress)
open Dialogue (ends_bind ends_of_forall)

/-! ## Consoles that accept everything

The console of a second run may be of any kind, so nothing can be said of how it
is built. What it has to do is accept what comes, now and later; the predicate
`P` in the definition is whatever it keeps to for that. -/

/-- **A console accepts everything** if it never fails, whatever it is asked. -/
def Console.AcceptsAll {ω : Type} [Console ω] (c : ω) : Prop :=
  ∃ P : ω → Prop, P c ∧ ∀ c, P c →
    (∀ bytes, (Console.write c bytes).1 = .ok () ∧ P (Console.write c bytes).2)
      ∧ (Console.flush c).1 = .ok () ∧ P (Console.flush c).2

namespace Console.AcceptsAll

variable {ω : Type} [Console ω] {c : ω}

/-- It takes the next message, and is still such a console. -/
theorem write (h : AcceptsAll c) (bytes : List UInt8) :
    (Console.write c bytes).1 = .ok () ∧ AcceptsAll (Console.write c bytes).2 := by
  obtain ⟨P, hc, hP⟩ := h
  obtain ⟨hanswer, hnext⟩ := (hP c hc).1 bytes
  exact ⟨hanswer, P, hnext, hP⟩

/-- It can be flushed, and is still such a console. -/
theorem flush (h : AcceptsAll c) :
    (Console.flush c).1 = .ok () ∧ AcceptsAll (Console.flush c).2 := by
  obtain ⟨P, hc, hP⟩ := h
  obtain ⟨hanswer, hnext⟩ := (hP c hc).2
  exact ⟨hanswer, P, hnext, hP⟩

end Console.AcceptsAll

/-- A console that collects without a bound is one of these. -/
theorem Collector.Wide.acceptsAll {c : Collector} (h : c.Wide) : Console.AcceptsAll c := by
  refine ⟨Wide, h, fun c hc => ⟨fun bytes => ?_, ?_⟩⟩
  · rw [hc.write]
    exact ⟨rfl, hc.taking bytes⟩
  · rw [hc.flush]
    exact ⟨rfl, hc.1, hc.2⟩

/-! ## What a console is asked

What the console was told does not depend on the polls of the keyboard, nor on
what was reported. So two runs that agree in everything else wrote the same. -/

namespace Exchange

/-- The console was asked to make visible what was written. -/
def isFlush : Exchange → Bool
  | flushed _ => true
  | _ => false

/-- **How often the console was flushed.** -/
def flushes (exchanges : List Exchange) : Nat := exchanges.countP isFlush

/-- What was written is told by the questions other than polls, -/
theorem written_demands (exchanges : List Exchange) :
    written (demands exchanges) = written exchanges := by
  induction exchanges with
  | nil => rfl
  | cons e rest ih =>
    cases e with
    | polled | reported => exact ih
    | _ => exact congrArg (_ ++ ·) ih

/-- and so is how often it was made visible. -/
theorem flushes_demands (exchanges : List Exchange) :
    flushes (demands exchanges) = flushes exchanges := by
  unfold flushes demands
  rw [List.countP_filter]
  refine List.countP_congr fun e _ => ?_
  cases e <;> simp [isFlush, isDemand, isQuestion]

end Exchange

open Exchange (flushes written_demands flushes_demands)

/-! ## Dialogues that only write

Such a dialogue never learns which keyboard it has, and of the console it learns
only that it took everything. So with another keyboard, and a console that takes
everything as well, it cannot go another way. -/

/-- **An exchange is output** if the console took it. Reports count as well, since
they ask nothing. -/
def Exchange.IsOutput : Exchange → Prop
  | reported _ | wrote _ (.ok ()) | flushed (.ok ()) => True
  | polled _ | took _ | waited _ | asked _ | wrote _ (.error _) | flushed (.error _) => False

/-- **A dialogue that only writes** leaves the keyboard alone, and takes the same
course with every other keyboard and every console that accepts everything. -/
theorem Dialogue.hold_of_isOutput {κ κ' ω ω' α : Type} [Keyboard κ] [Console ω] [Keyboard κ']
    [Console ω'] (x : Dialogue α) {k : κ} {c : ω}
    (h : ∀ e ∈ (x.hold k c).exchanges, e.IsOutput) (k' : κ') {c' : ω'}
    (hc : Console.AcceptsAll c') :
    (x.hold k c).keyboard = k ∧ (x.hold k' c').keyboard = k'
      ∧ Console.AcceptsAll (x.hold k' c').console
      ∧ (x.hold k' c').value = (x.hold k c).value
      ∧ (x.hold k' c').exchanges = (x.hold k c).exchanges := by
  -- the two consoles may differ in what they hold, so both are general; the keyboards stay
  induction x generalizing c c' with
  | done a => exact ⟨rfl, rfl, hc, rfl, rfl⟩
  | poll next ih =>
    exact (h (.polled _) (List.mem_append_left _ (List.mem_append_right _
      List.mem_cons_self))).elim
  | take next ih => exact (h (.took _) List.mem_cons_self).elim
  | wait next ih =>
    exact (h (.waited _) (List.mem_append_left _ (List.mem_append_right _
      List.mem_cons_self))).elim
  | requested next ih => exact (h (.asked _) List.mem_cons_self).elim
  | write bytes next ih =>
    obtain ⟨haccepts, hnext⟩ := hc.write bytes
    unfold hold at h ⊢
    dsimp only [Course.after] at h ⊢
    rw [haccepts]
    cases hanswer : (Console.write c bytes).1 with
    | ok =>
      rw [hanswer] at h
      obtain ⟨hk, hk', hc', hvalue, hexchanges⟩ :=
        ih (.ok ()) (fun e hmem => h e (List.mem_cons_of_mem _ hmem)) hnext
      exact ⟨hk, hk', hc', hvalue, congrArg ([.wrote bytes (.ok ())] ++ ·) hexchanges⟩
    | error e =>
      rw [hanswer] at h
      exact (h (.wrote bytes (.error e)) List.mem_cons_self).elim
  | flush next ih =>
    obtain ⟨haccepts, hnext⟩ := hc.flush
    unfold hold at h ⊢
    dsimp only [Course.after] at h ⊢
    rw [haccepts]
    cases hanswer : (Console.flush c).1 with
    | ok =>
      rw [hanswer] at h
      obtain ⟨hk, hk', hc', hvalue, hexchanges⟩ :=
        ih (.ok ()) (fun e hmem => h e (List.mem_cons_of_mem _ hmem)) hnext
      exact ⟨hk, hk', hc', hvalue, congrArg ([.flushed (.ok ())] ++ ·) hexchanges⟩
    | error e =>
      rw [hanswer] at h
      exact (h (.flushed (.error e)) List.mem_cons_self).elim
  | report event rest ih =>
    obtain ⟨hk, hk', hc', hvalue, hexchanges⟩ :=
      ih (fun e hmem => h e (List.mem_cons_of_mem _ hmem)) hc
    exact ⟨hk, hk', hc', hvalue, congrArg (Exchange.reported event :: ·) hexchanges⟩

/-! ## Cycles that only write

That no touch of the memory is more than a look is known of the log. The words
in it are the only thing that the memory gives to the work; the rest of the
exchanges is messages, waits and reports. -/

section Cycles

variable {κ ω : Type} [Keyboard κ] [Console ω]

/-- A flush that succeeds is output, -/
theorem Dialogue.isOutput_flush (k : κ) (c : ω) :
    ∀ e ∈ ((Dialogue.flush done).hold k c).exchanges, e.fault? = none → e.IsOutput := by
  intro e hmem
  obtain rfl : e = .flushed (Console.flush c).1 := List.eq_of_mem_singleton hmem
  cases (Console.flush c).1 with
  | ok => exact fun _ => trivial
  | error e => exact fun hfault => absurd hfault (Option.some_ne_none _)

/-- and so is a message that is taken. -/
theorem Dialogue.isOutput_say (message : List UInt8) (k : κ) (c : ω) :
    ∀ e ∈ ((say message).hold k c).exchanges, e.fault? = none → e.IsOutput := by
  unfold say
  split
  · exact isOutput_flush k c
  · unfold hold
    dsimp only
    cases (Console.write c message).1 with
    | ok =>
      intro e hmem
      obtain rfl | hmem := List.mem_cons.1 hmem
      · exact fun _ => trivial
      · exact isOutput_flush k _ e hmem
    | error error =>
      intro e hmem
      obtain rfl : e = .wrote message (.error error) := List.eq_of_mem_singleton hmem
      exact fun hfault => absurd hfault (Option.some_ne_none _)

/-- A look is all there is to reading an ordinary cell. -/
theorem Work.hold_logged_read {α : Type} {a : Word} (hstatus : a ≠ statusAddress)
    (hdata : a ≠ dataAddress) (next : Word → Work α) (m : Memory) (k : κ) (c : ω) :
    ((Work.read a next).logged m).hold k c
      = (let course := ((next (m.peek a)).logged m).hold k c
        ⟨(course.value.1, .read a (m.peek a) :: course.value.2), course.keyboard, course.console,
          course.exchanges⟩) := by
  show (m.read a >>= _).hold k c = _
  rw [m.read_eq_done hstatus hdata, Dialogue.done_bind, Dialogue.hold_bind]
  exact Course.after_done _ _ _ _

/-- **Work that only looks** exchanges output and waits, as long as nothing fails. -/
theorem Work.isOutput_logged {α : Type} (x : Work α) (m : Memory) (k : κ) (c : ω)
    (hlooks : ∀ touch ∈ ((x.logged m).hold k c).value.2, touch.IsLook) :
    ∀ e ∈ ((x.logged m).hold k c).exchanges,
      e.fault? = none → (∀ answer, e ≠ .waited answer) → e.IsOutput := by
  induction x generalizing m k c with
  | done a => exact fun e hmem => nomatch hmem
  | read a next ih =>
    have hfirst : ∃ w later, (((Work.read a next).logged m).hold k c).value.2
        = .read a w :: later := by
      refine Dialogue.Ends.hold (P := fun result : (α × Memory) × List Touch =>
        ∃ w later, result.2 = .read a w :: later) ?_ k c
      refine ends_bind.2 (ends_of_forall ?_ _)
      rintro ⟨w, m'⟩
      exact ends_bind.2 (ends_of_forall (fun result => ⟨w, result.2, rfl⟩) _)
    -- the read is in the log, so it was of an ordinary cell, and asked nothing
    obtain ⟨w, later, hlog⟩ := hfirst
    have hlook : (Touch.read a w).IsLook := hlooks _ (hlog ▸ List.mem_cons_self)
    rw [hold_logged_read hlook.1 hlook.2] at hlooks ⊢
    exact ih _ m k c fun touch hmem => hlooks touch (List.mem_cons_of_mem _ hmem)
  | store a value rest ih =>
    have hfirst : ∃ later, (((Work.store a value rest).logged m).hold k c).value.2
        = .stored a value :: later := by
      refine Dialogue.Ends.hold (P := fun result : (α × Memory) × List Touch =>
        ∃ later, result.2 = .stored a value :: later) ?_ k c
      exact ends_bind.2 (ends_bind.2 (ends_of_forall (fun result => ⟨result.2, rfl⟩) _))
    obtain ⟨later, hlog⟩ := hfirst
    -- a store is in the log as well, and is no look
    exact (hlooks (.stored a value) (hlog ▸ List.mem_cons_self)).elim
  | wait next ih =>
    unfold logged at hlooks ⊢
    rw [Dialogue.hold_bind, Dialogue.hold_awaitCharacter] at hlooks ⊢
    intro e hmem hfault hwaits
    obtain hmem | hmem := List.mem_append.1 hmem
    · obtain hmem | hmem := List.mem_append.1 hmem
      · obtain ⟨event, -, rfl⟩ := List.mem_map.1 hmem
        exact trivial
      · exact absurd (List.eq_of_mem_singleton hmem) (hwaits _)
    · exact ih _ m _ _ hlooks e hmem hfault hwaits
  | say message next ih =>
    unfold logged at hlooks ⊢
    rw [Dialogue.hold_bind] at hlooks ⊢
    intro e hmem hfault hwaits
    obtain hmem | hmem := List.mem_append.1 hmem
    · exact Dialogue.isOutput_say message k c e hmem hfault
    · exact ih _ m _ _ hlooks e hmem hfault hwaits
  | tell event rest ih =>
    intro e hmem hfault hwaits
    obtain rfl | hmem := List.mem_cons.1 hmem
    · exact trivial
    · exact ih m k c hlooks e hmem hfault hwaits

end Cycles

/-! ## Programs that leave no trace

Storing, waiting and reading the registers of the keyboard are the three ways in
which a run can make a difference to the next one. The first two are told by the
executed operations. The third is not, since an address may come out of a
register; it is told by the touches of the memory. -/

/-- **An instruction that stores** a word. -/
def Instruction.Stores (i : Instruction) : Prop :=
  i.opcode = .st ∨ i.opcode = .sti ∨ i.opcode = .str

instance (i : Instruction) : Decidable i.Stores := inferInstanceAs (Decidable (_ ∨ _ ∨ _))

/-- Any other instruction only reads. -/
theorem Instruction.Touches.exists_read_of_mem {i : Instruction} {r : Registers}
    {log : List Touch} (h : i.Touches r log) (hstores : ¬ i.Stores) {touch : Touch}
    (hmem : touch ∈ log) : ∃ a w, touch = .read a w := by
  unfold Instruction.Touches at h
  unfold Instruction.Stores at hstores
  cases hopcode : i.opcode with
  | st | sti | str => simp [hopcode] at hstores
  | ld | ldr =>
    rw [hopcode] at h
    obtain ⟨w, rfl⟩ := h
    exact ⟨_, w, List.eq_of_mem_singleton hmem⟩
  | ldi =>
    rw [hopcode] at h
    obtain ⟨a, w, rfl⟩ := h
    obtain rfl | hmem := List.mem_cons.1 hmem
    · exact ⟨_, a, rfl⟩
    · exact ⟨a, w, List.eq_of_mem_singleton hmem⟩
  | trap =>
    rw [hopcode] at h
    -- of the traps the two that print a string touch more than the instruction, and only
    -- read
    cases hvector : Trap.ofVector? i.vector with
    | none =>
      rw [hvector] at h
      obtain rfl : log = [] := h
      exact nomatch hmem
    | some trap =>
      rw [hvector] at h
      cases trap with
      | putS | putSP =>
        obtain ⟨words, rfl⟩ := h
        exact Touch.exists_read_of_mem hmem
      | getC | out | input | halt =>
        obtain rfl : log = [] := h
        exact nomatch hmem
  | br | add | and | not | lea | jmp | jsr | rti | res =>
    rw [hopcode] at h
    obtain rfl : log = [] := h
    exact nomatch hmem

/-- An instruction that does not wait for a character asks for none. -/
theorem Core.waitsNot_execute {κ ω : Type} [Keyboard κ] [Console ω] {i : Instruction}
    (h : ¬ i.Awaits) (config : Config) (address : Word) (core : Core) (k : κ) (c : ω) :
    WaitsNot ((core.execute config address i).hold k c).exchanges := by
  intro answer hmem
  obtain ⟨hopcode, -⟩ := waited_mem_execute hmem
  unfold execute at hmem
  rw [hopcode] at hmem
  dsimp only at hmem
  cases hvector : Trap.ofVector? i.vector with
  | none =>
    rw [hvector] at hmem
    have hreported : Exchange.waited answer = .reported (.unknownTrap i.vector) :=
      List.eq_of_mem_singleton hmem
    exact nomatch hreported
  | some trap =>
    rw [hvector] at hmem
    have hgetC : trap ≠ .getC := fun htrap => h (.inl ⟨hopcode, htrap ▸ hvector⟩)
    have hinput : trap ≠ .input := fun htrap => h (.inr ⟨hopcode, htrap ▸ hvector⟩)
    exact (Trap.follows_perform_of_writes hgetC hinput config core (fun _ => nofun)
      (fun _ => nofun) nofun).waitsNot k c answer hmem

/-- **A run leaves no trace** if it executes no instruction that stores a word or
waits for a character, and reads neither register of the keyboard. -/
structure LeavesNoTrace (exchanges : List Exchange) (touches : List Touch) : Prop where
  operations : ∀ address i, .reported (.executed address i) ∈ exchanges →
    ¬ i.Stores ∧ ¬ i.Awaits
  reads : ∀ a w, .read a w ∈ touches → a ≠ statusAddress ∧ a ≠ dataAddress

/-- No part of it leaves one either. -/
theorem LeavesNoTrace.mono {exchanges part : List Exchange} {touches partTouches : List Touch}
    (h : LeavesNoTrace exchanges touches) (hexchanges : part ⊆ exchanges)
    (htouches : partTouches ⊆ touches) : LeavesNoTrace part partTouches :=
  ⟨fun address i hmem => h.operations address i (hexchanges hmem),
    fun a w hmem => h.reads a w (htouches hmem)⟩

/-! ## What a reset puts back

`Machine.restarted` keeps the memory, the settings and whether polling was given
up; everything else is made anew. No step changes the settings, so what is left
to show is that a run that leaves no trace changes neither of the other two. -/

/-- **The machine after a reset.** -/
def Machine.restarted (m : Machine) : Machine :=
  ⟨⟨.initial, m.core.memory⟩, m.config, 0, m.pollFailed⟩

/-- A machine at the start is as a reset leaves it. -/
theorem Machine.AtStart.restarted_eq {m : Machine} (h : m.AtStart) : m.restarted = m := by
  obtain ⟨⟨registers, memory⟩, config, steps, pollFailed⟩ := m
  obtain ⟨rfl, rfl⟩ := h
  rfl

namespace System

section Settled

variable {κ ω : Type} [Keyboard κ] [Console ω] {s : System κ ω}

/-- A step **settles** if it neither faults nor crashes. -/
def Settles (s : System κ ω) : Prop := s.step.1 = .running ∨ s.step.1 = .halted

/-- It has executed an instruction then. -/
theorem Settles.executes (h : s.Settles) : s.Executes := s.executes_of_running_or_halted h

/-- A step that executes an instruction reports it. -/
theorem executed_mem_step (h : s.Executes) :
    .reported (.executed s.machine.core.registers.pc s.instruction) ∈ s.step.2.2 := by
  rw [step_of_executes h]
  simp

/-- **A step that leaves no trace** only looks. -/
theorem looks_of_leavesNoTrace (hexecutes : s.Executes)
    (h : LeavesNoTrace s.step.2.2 s.touches) : ∀ touch ∈ s.touches, touch.IsLook := by
  obtain ⟨later, htouches, hlater⟩ := exists_touches hexecutes
  have hreads : ∀ touch ∈ s.touches, ∃ a w, touch = .read a w := by
    intro touch hmem
    rw [htouches] at hmem
    obtain rfl | hmem := List.mem_cons.1 hmem
    · exact ⟨_, _, rfl⟩
    · exact hlater.exists_read_of_mem (h.operations _ _ (executed_mem_step hexecutes)).1 hmem
  intro touch hmem
  obtain ⟨a, w, rfl⟩ := hreads touch hmem
  exact h.reads a w hmem

/-- The log of a cycle, and what the cycle exchanges, are those of its work. -/
theorem hold_cycleLogged (m : Machine) (k : κ) (c : ω) :
    (m.cycleLogged.hold k c).value.1.2 = ((m.work.logged m.core.memory).hold k c).value.2
      ∧ (m.cycle.hold k c).exchanges
        = ((m.work.logged m.core.memory).hold k c).exchanges := by
  have hlogged : m.cycleLogged.hold k c = ((m.work.logged m.core.memory).hold k c).map
      fun result => (((m.worked result.1).1, result.2), (m.worked result.1).2) := by
    unfold Machine.cycleLogged
    rw [Dialogue.hold_bind]
    exact Course.after_done _ _ _ _
  rw [Machine.cycle_eq_cycleLogged, Dialogue.hold_bind, hlogged]
  exact ⟨rfl, List.append_nil _⟩

/-- **The cycle of a step that leaves no trace** exchanges output alone. -/
theorem isOutput_cycle (hsettles : s.Settles) (h : LeavesNoTrace s.step.2.2 s.touches) :
    ∀ e ∈ s.polled.cycle.exchanges, e.IsOutput := by
  have hexecutes := hsettles.executes
  have hlooks := looks_of_leavesNoTrace hexecutes h
  have hstep := step_eq_cycle hexecutes.unlimited hexecutes.unrequested
  -- failures and waits are ruled out one after the other, and reads of the keyboard by the
  -- log
  have hfault : s.polled.cycle.exchanges.findSome? Exchange.fault? = none := by
    obtain ⟨hnone, -⟩ | ⟨fault, -, hfault⟩ :=
      s.polled.machine.heeds_cycle.hold s.polled.keyboard s.polled.console
    · exact hnone
    · have houtcome : s.step.1 = .fault fault := (congrArg Prod.fst hstep).trans hfault
      obtain hends | hends := hsettles
      · exact nomatch hends.symm.trans houtcome
      · exact nomatch hends.symm.trans houtcome
  have hwaits : WaitsNot s.polled.cycle.exchanges := by
    have hcount : s.polled.machine.steps ≠ Machine.maxCount :=
      s.polled_machine.2.2 ▸ hexecutes.countable
    rw [cycle_eq hcount]
    have hexecuted : WaitsNot [.reported (.executed s.polled.machine.core.registers.pc
        s.instruction)] := .singleton nofun
    refine s.polled.waitsNot_fetched.append (hexecuted.append ?_)
    exact Core.waitsNot_execute (h.operations _ _ (executed_mem_step hexecutes)).2 _ _ _ _ _
  intro e hmem
  have hwait : ∀ answer, e ≠ .waited answer := fun answer he => hwaits answer (he ▸ hmem)
  obtain ⟨hlog, hexchanges⟩ :=
    hold_cycleLogged s.polled.machine s.polled.keyboard s.polled.console
  rw [touches_eq_cycleLogged hexecutes.unlimited hexecutes.unrequested, hlog] at hlooks
  exact Work.isOutput_logged _ _ _ _ hlooks e (hexchanges ▸ hmem)
    (List.findSome?_eq_none_iff.1 hfault e hmem) hwait

end Settled

/-! ## Two runs from the same machine

The two keyboards need not hold the same text, since no character reaches the
program. They have to deliver some text soundly, so that no poll fails and none
requests shutdown. The console of the first run need not accept everything,
since its run is known to halt. -/

section Parallel

variable {κ κ' ω ω' : Type} [Delivers κ] [Delivers κ'] [Console ω] [Console ω']

/-- **A system is restartable** from a machine: a reset makes its machine that one,
and its keyboard delivers a text and was not asked to shut down. -/
structure Restartable (start : Machine) (s : System κ ω) : Prop where
  restarted : s.machine.restarted = start
  sound : Sound s.keyboard
  unrequested : Keyboard.requested s.keyboard = false

/-- **Two systems run in parallel** if they are at the same machine, both are
restartable, and the console of the second accepts everything. -/
structure Parallel (start : Machine) (s : System κ ω) (s' : System κ' ω') : Prop where
  machine : s'.machine = s.machine
  restartable : Restartable start s
  restartable' : Restartable start s'
  accepts : Console.AcceptsAll s'.console

/-- **The same happened again:** the outcome is the same, and so is what the devices
were asked but for the polls. -/
structure Again (start : Machine) (result : Outcome × System κ ω × List Exchange)
    (result' : Outcome × System κ' ω' × List Exchange) : Prop where
  outcome : result'.1 = result.1
  parallel : Parallel start result.2.1 result'.2.1
  demands : demands result'.2.2 = demands result.2.2

variable {start : Machine} {s : System κ ω} {s' : System κ' ω'}

/-- **What a reset makes of the machine** is not changed by a step that leaves no
trace. -/
theorem restarted_next (hsound : Sound s.keyboard) (hexecutes : s.Executes)
    (h : LeavesNoTrace s.step.2.2 s.touches) :
    s.next.machine.restarted = s.machine.restarted := by
  have hmemory := memory_eq_of_looks (looks_of_leavesNoTrace hexecutes h)
  have hpolls : s.next.machine.pollFailed = s.machine.pollFailed :=
    (pollFailed_next hexecutes.unlimited).trans
      (congrArg Machine.pollFailed (polled_of_sound hsound).1)
  unfold Machine.restarted
  rw [hmemory, s.config_next, hpolls]

/-- A step that leaves the keyboard to the poll leaves the system restartable. -/
theorem Restartable.next (h : Restartable start s)
    (hrestarted : s.next.machine.restarted = start)
    (hkept : s.next.keyboard = s.polled.keyboard) : Restartable start s.next := by
  obtain ⟨-, halike, -⟩ := polled_of_sound h.sound
  exact ⟨hrestarted, hkept.symm ▸ halike.sound,
    (congrArg Keyboard.requested hkept).trans (halike.requested.trans h.unrequested)⟩

/-- **A step that leaves no trace** is taken again by the system beside it. -/
theorem Parallel.step (h : Parallel start s s') (hsettles : s.Settles)
    (hnotrace : LeavesNoTrace s.step.2.2 s.touches) : Again start s.step s'.step := by
  have hexecutes := hsettles.executes
  obtain ⟨hmachine, -, -, hpoll⟩ := polled_of_sound h.restartable.sound
  obtain ⟨hmachine', halike', hconsole', hpoll'⟩ := polled_of_sound h.restartable'.sound
  obtain ⟨hkeyboard, hkeyboard', haccepts, hvalue, hexchanges⟩ :=
    s.polled.machine.cycle.hold_of_isOutput (isOutput_cycle hsettles hnotrace)
      s'.polled.keyboard (hconsole'.symm ▸ h.accepts)
  have hcycle' : s'.polled.cycle
      = s.polled.machine.cycle.hold s'.polled.keyboard s'.polled.console := by
    unfold cycle
    rw [hmachine', hmachine, h.machine]
  -- both steps are a poll that nobody hears and one cycle, on the same machine
  have hstep := step_eq_cycle hexecutes.unlimited hexecutes.unrequested
  have hstep' := step_eq_cycle (h.machine.symm ▸ hexecutes.unlimited)
    (halike'.requested.trans h.restartable'.unrequested)
  rw [hcycle'] at hstep'
  have hrestarted : s.next.machine.restarted = start :=
    (restarted_next h.restartable.sound hexecutes hnotrace).trans h.restartable.restarted
  have hkept : s.next.keyboard = s.polled.keyboard :=
    (congrArg (·.2.1.keyboard) hstep).trans hkeyboard
  have hkept' : s'.next.keyboard = s'.polled.keyboard :=
    (congrArg (·.2.1.keyboard) hstep').trans hkeyboard'
  have hsame : s'.next.machine = s.next.machine := by
    unfold next
    rw [hstep, hstep']
    exact congrArg Prod.snd hvalue
  refine ⟨?_, ⟨hsame, h.restartable.next hrestarted hkept,
    h.restartable'.next (hsame.symm ▸ hrestarted) hkept', ?_⟩, ?_⟩
  · rw [hstep, hstep']
    exact congrArg Prod.fst hvalue
  · rw [hstep']
    exact haccepts
  · rw [hstep, hstep', demands_append, demands_append, hpoll, hpoll', hexchanges]
    rfl

omit [Delivers κ] [Console ω] in
/-- The report at the end of a run asks nothing. -/
theorem demands_lastReport (outcome : Outcome) (s : System κ ω) :
    demands (lastReport outcome s) = [] :=
  filter_lastReport (fun _ => isQuestion_of_isDemand) outcome s

/-- **A run that leaves no trace** is made again by the system beside it. -/
theorem Runs.again {result : Outcome × System κ ω × List Exchange}
    (h : Runs Machine.step s result) (hhalted : result.1 = .halted)
    (hnotrace : LeavesNoTrace result.2.2 s.runTouches) (hparallel : Parallel start s s')
    {result' : Outcome × System κ' ω' × List Exchange} (h' : Runs Machine.step s' result') :
    Again start result result' := by
  induction h generalizing s' result' with
  | @stop s hstop =>
    have htouches : s.touches ⊆ s.runTouches := by
      rw [runTouches_of_stopped hstop]
      exact List.Subset.refl _
    -- the last step: the run halts with it, and so does the other
    obtain ⟨houtcome, hnext, hdemands⟩ := hparallel.step (.inr hhalted)
      (hnotrace.mono (List.subset_append_left _ _) htouches)
    cases h' with
    | stop hstop' =>
      refine ⟨houtcome, hnext, ?_⟩
      rw [demands_append, demands_append, demands_lastReport, demands_lastReport]
      exact congrArg (· ++ []) hdemands
    | go hgo' later' => exact absurd (houtcome.symm.trans hgo') hstop
  | @go s result hgo later ih =>
    rw [runTouches_of_running hgo] at hnotrace
    -- a step before the last leaves the machine running, on both sides
    obtain ⟨houtcome, hnext, hdemands⟩ := hparallel.step (.inl hgo)
      (hnotrace.mono (List.subset_append_left _ _) (List.subset_append_left _ _))
    cases h' with
    | stop hstop' => exact absurd (houtcome.trans hgo) hstop'
    | go hgo' later' =>
      obtain ⟨hlast, hparallel', hlater⟩ := ih hhalted
        (hnotrace.mono (List.subset_append_right _ _) (List.subset_append_right _ _))
        hnext later'
      refine ⟨hlast, hparallel', ?_⟩
      rw [demands_append, demands_append, hlater]
      exact congrArg (· ++ _) hdemands

end Parallel

/-! ## Any number of runs

A run that leaves no trace, beside itself on another console, shows that the
system it ends with is restartable. From then on every run anew is a run beside
the first one, so the first run and not the last is what each is compared with. -/

section Rounds

variable {κ ω : Type}

/-- **What comes between two runs:** what is typed before the reset and after it, and
the console of the next run. -/
structure Round (ω : Type) where
  /-- The characters that are typed before the reset. -/
  before : List UInt8
  /-- The characters that are typed after it. -/
  after : List UInt8
  /-- The console of the next run. -/
  console : ω

variable [Keyboard κ] [Console ω]

/-- **The system that is to run again:** on another console, after typing and a
reset. -/
def anew (s : System κ ω) (round : Round ω) : System κ ω :=
  (obeyAll ⟨s.machine, s.keyboard, round.console⟩
    [.type round.before, .reset, .type round.after]).2.1

/-- **The program is run again and again**, every time from where the last run left
the system. -/
def reruns (s : System κ ω) : List (Round ω) → List (Outcome × System κ ω × Array Exchange)
  | [] => []
  | round :: rest => (s.anew round).run :: (s.anew round).run.2.1.reruns rest

/-- **What a run tells:** its outcome, the machine at its end, the bytes that were
written, and how often they were made visible. -/
def told (result : Outcome × System κ ω × Array Exchange) :
    Outcome × Machine × List UInt8 × Nat :=
  (result.1, result.2.1.machine, written result.2.2.toList, flushes result.2.2.toList)

/-- Typing and a reset, written out. -/
theorem anew_eq (s : System κ ω) (round : Round ω) :
    s.anew round = ⟨s.machine.restarted,
      Keyboard.type (Keyboard.type s.keyboard round.before) round.after, round.console⟩ := rfl

end Rounds

variable {κ ω : Type} [Delivers κ] [Console ω]

/-- A system that is restartable runs anew from that machine. -/
theorem Restartable.anew {start : Machine} {s : System κ ω} (h : Restartable start s)
    (round : Round ω) :
    (s.anew round).machine = start ∧ Restartable start (s.anew round) := by
  obtain ⟨hsound, hrequested, -⟩ := Delivers.type_eq h.sound round.before
  obtain ⟨hsound', hrequested', -⟩ := Delivers.type_eq hsound round.after
  rw [anew_eq]
  exact ⟨h.restarted, h.restarted, hsound',
    (hrequested'.trans hrequested).trans h.unrequested⟩

/-- **A run that leaves no trace** leaves the system restartable. -/
theorem Restartable.run {s : System κ ω} (h : Restartable s.machine s)
    (hhalted : s.run.1 = .halted) (hnotrace : LeavesNoTrace s.run.2.2.toList s.runTouches) :
    Restartable s.machine s.run.2.1 := by
  -- beside it runs the same machine on a console that accepts everything
  have hparallel : Parallel s.machine s (⟨s.machine, s.keyboard, {}⟩ : System κ Collector) :=
    ⟨rfl, h, ⟨h.restarted, h.sound, h.unrequested⟩, Collector.Wide.acceptsAll ⟨rfl, rfl⟩⟩
  exact (s.runs_run.again hhalted hnotrace hparallel (runs_run _)).parallel.restartable

/-- **Every run anew tells the same** as a run that left no trace. -/
theorem map_told_reruns {s t : System κ ω} (hs : Restartable s.machine s)
    (hhalted : s.run.1 = .halted) (hnotrace : LeavesNoTrace s.run.2.2.toList s.runTouches)
    (ht : Restartable s.machine t) {rounds : List (Round ω)}
    (haccepts : ∀ round ∈ rounds, Console.AcceptsAll round.console) :
    (t.reruns rounds).map told = List.replicate rounds.length (told s.run) := by
  induction rounds generalizing t with
  | nil => rfl
  | cons round rest ih =>
    obtain ⟨hmachine, hready⟩ := ht.anew round
    obtain ⟨houtcome, hparallel, hdemands⟩ := s.runs_run.again hhalted hnotrace
      ⟨hmachine, hs, hready, haccepts round List.mem_cons_self⟩ (t.anew round).runs_run
    have htold : told (t.anew round).run = told s.run := by
      unfold told
      rw [← written_demands, ← flushes_demands, hdemands, written_demands, flushes_demands]
      exact Prod.ext houtcome (Prod.ext hparallel.machine rfl)
    show told _ :: _ = told s.run :: List.replicate rest.length (told s.run)
    rw [htold, ih hparallel.restartable' fun round hmem =>
      haccepts round (List.mem_cons_of_mem _ hmem)]

/-- A run that halts has a first step that settles. -/
theorem settles_of_run {s : System κ ω} (h : s.run.1 = .halted) : s.Settles := by
  by_cases hrunning : s.step.1 = .running
  · exact .inl hrunning
  · have hrun := runWith_eq_step hrunning Array.push #[]
    exact .inr ((congrArg Prod.fst hrun).symm.trans h)

/-- **A program can be run again**, any number of times, if a run of it left no
trace. Take a system with a scripted keyboard whose machine is at the start, and a
run of it that halts, in which no instruction stored a word or waited for a
character and no register of the keyboard was read. Then it may be reset, with
typing before and after, and run on a console that accepts everything, as often as
one likes: every time it halts, writes the same bytes with as many flushes, and ends
with the same registers, memory and count of steps. -/
theorem reruns_tell_the_same (s : System Scripted ω) (hstart : s.machine.AtStart)
    (hhalted : s.run.1 = .halted)
    (hnotrace : LeavesNoTrace s.run.2.2.toList s.runTouches) (rounds : List (Round ω))
    (haccepts : ∀ round ∈ rounds, Console.AcceptsAll round.console) :
    (s.run.2.1.reruns rounds).map told = List.replicate rounds.length (told s.run) := by
  have hunrequested : Keyboard.requested s.keyboard = false :=
    (polled_of_sound (s := s) trivial).2.1.requested.symm.trans
      (settles_of_run hhalted).executes.unrequested
  have hready : Restartable s.machine s := ⟨hstart.restarted_eq, trivial, hunrequested⟩
  exact map_told_reruns hready hhalted hnotrace (hready.run hhalted hnotrace) haccepts

/-- A program that writes a character and halts without a notice, while something
was typed. -/
def outThenHalt : System Scripted Collector :=
  ⟨{ Machine.loaded [0xF021, 0xF025] with config := ⟨false, "", none⟩ }, { queue := [0x61] }, {}⟩

/-- Where its first step leads. -/
def outThenHaltNext : System Scripted Collector :=
  ⟨{ outThenHalt.machine with
      core := ⟨Registers.initial.advance, outThenHalt.machine.core.memory⟩, steps := 1 },
    { queue := [0x61] }, { bytes := #[0], flushes := 1 }⟩

/-- The first step writes the character zero, since R0 is zero at the start. -/
theorem step_outThenHalt :
    outThenHalt.step = (.running, outThenHaltNext,
      [.asked false, .reported (.executed 0x3000 (.ofWord 0xF021)), .wrote [0] (.ok ()),
        .flushed (.ok ())]) :=
  (step_out (s := outThenHalt) rfl (by decide) rfl (by decide)
    (Machine.read_loaded (i := 0) rfl (by decide) (by decide)) ⟨rfl, rfl⟩).trans rfl

/-- The second step halts and has nothing to say. -/
theorem step_outThenHaltNext :
    outThenHaltNext.step = (.halted,
      ⟨{ outThenHaltNext.machine with
          core := ⟨outThenHaltNext.machine.core.registers.advance,
            outThenHaltNext.machine.core.memory⟩,
          steps := 2 }, outThenHaltNext.keyboard, outThenHaltNext.console⟩,
      [.asked false, .reported (.executed 0x3001 (.ofWord 0xF025))]) :=
  (step_of_cell (s := outThenHaltNext) rfl (by decide) rfl (by decide)
    (Machine.read_loaded (i := 1) rfl (by decide) (by decide))).trans rfl

/-- So the run is these two steps, and what is reported at its end. -/
theorem run_outThenHalt :
    ∃ s, outThenHalt.run = (.halted, s,
      #[.asked false, .reported (.executed 0x3000 (.ofWord 0xF021)), .wrote [0] (.ok ()),
        .flushed (.ok ()), .asked false, .reported (.executed 0x3001 (.ofWord 0xF025)),
        .reported (.programHalted 2)]) :=
  ⟨_, (runWith_of_running step_outThenHalt _ _).trans
    (runWith_of_halted step_outThenHaltNext _ _)⟩

/-- An instruction that touches nothing is read itself. -/
theorem touches_of_touches_nil {κ ω : Type} [Keyboard κ] [Console ω] {s : System κ ω}
    (h : s.Executes) {i : Instruction} (hi : s.instruction = i)
    (hnil : ∀ r log, i.Touches r log → log = []) :
    ∃ w, s.touches = [.read s.machine.core.registers.pc w] := by
  obtain ⟨later, htouches, hlater⟩ := exists_touches h
  rw [hi] at hlater
  rw [hnil _ _ hlater] at htouches
  exact ⟨_, htouches⟩

/-- It reads its two words. -/
theorem runTouches_outThenHalt :
    ∃ w w', outThenHalt.runTouches = [.read 0x3000 w, .read 0x3001 w'] := by
  have hgo : outThenHalt.step.1 = .running := congrArg Prod.fst step_outThenHalt
  have hhalts : outThenHaltNext.step.1 = .halted := congrArg Prod.fst step_outThenHaltNext
  have hfirst : outThenHalt.instruction = .ofWord 0xF021 :=
    instruction_of_cell (by decide) (Machine.read_loaded (i := 0) rfl (by decide) (by decide))
  have hsecond : outThenHaltNext.instruction = .ofWord 0xF025 :=
    instruction_of_cell (by decide) (Machine.read_loaded (i := 1) rfl (by decide) (by decide))
  obtain ⟨w, htouches⟩ :=
    touches_of_touches_nil (Settles.executes (.inl hgo)) hfirst fun _ _ h => h
  obtain ⟨w', htouches'⟩ :=
    touches_of_touches_nil (Settles.executes (.inr hhalts)) hsecond fun _ _ h => h
  refine ⟨w, w', ?_⟩
  rw [runTouches_of_running hgo, next_eq_of_step step_outThenHalt,
    runTouches_of_stopped (by rw [hhalts]; exact nofun), htouches, htouches']
  rfl

/-- It is run twice more, and writes the same. -/
theorem reruns_tell_the_same_outThenHalt :
    let rounds : List (Round Collector) := [⟨[0x62], [0x63], {}⟩, ⟨[], [], { bytes := #[0x21] }⟩]
    outThenHalt.machine.AtStart ∧ outThenHalt.run.1 = .halted
      ∧ LeavesNoTrace outThenHalt.run.2.2.toList outThenHalt.runTouches
      ∧ (∀ round ∈ rounds, Console.AcceptsAll round.console)
      ∧ ((outThenHalt.run.2.1.reruns rounds).map told).map (·.2.2) = [([0], 1), ([0], 1)] := by
  intro rounds
  obtain ⟨s, hrun⟩ := run_outThenHalt
  obtain ⟨w, w', htouches⟩ := runTouches_outThenHalt
  have hstart : outThenHalt.machine.AtStart := ⟨rfl, rfl⟩
  have hhalted : outThenHalt.run.1 = .halted := congrArg Prod.fst hrun
  have hnotrace : LeavesNoTrace outThenHalt.run.2.2.toList outThenHalt.runTouches := by
    rw [htouches, hrun]
    constructor
    · intro address i hmem
      simp at hmem
      obtain ⟨-, rfl⟩ | ⟨-, rfl⟩ := hmem
      · decide
      · decide
    · intro a w hmem
      simp at hmem
      obtain ⟨rfl, -⟩ | ⟨rfl, -⟩ := hmem
      · decide
      · decide
  have haccepts : ∀ round ∈ rounds, Console.AcceptsAll round.console := by
    intro round hmem
    have hwide : round.console.Wide := by
      obtain rfl | hmem := List.mem_cons.1 hmem
      · exact ⟨rfl, rfl⟩
      · rw [List.eq_of_mem_singleton hmem]
        exact ⟨rfl, rfl⟩
    exact hwide.acceptsAll
  refine ⟨hstart, hhalted, hnotrace, haccepts, ?_⟩
  rw [reruns_tell_the_same outThenHalt hstart hhalted hnotrace rounds haccepts, told, hrun]
  rfl

end System

end LC3
