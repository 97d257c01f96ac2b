import LC3.Proofs.Conversations
import LC3.Proofs.FailedSteps
import LC3.Proofs.ProgramImages

/-!
# What the traps do to a machine

A trap is a subroutine of the system, but no word of memory is its code and no
register holds the way back. So a step that calls one leaves almost everything
alone: the program counter moves on by one, the step is counted, and R0 takes the
character that was read, if there is one. No flag is set. The memory changes only
if the instruction itself was read from the keyboard data, which clears the
keyboard status behind it; from the keyboard status no trap can be read at all.

`System.Executed` lists this, with the talk and the devices, and is proved from the
course of the routine alone (`System.executed_of_course`). There is one course for
each of the four routines that touch no memory of their own, and one for all the
vectors without a routine, which do nothing.
-/

namespace LC3

open Memory (statusAddress dataAddress)

variable {κ ω : Type} [Keyboard κ] [Console ω]

/-! ## Courses

Each routine is followed to its end once, with the core that it is given and the
devices it finds. A prompt or an echo is a message like any other, so what a
console that accepts everything makes of it is known from
`Dialogue.hold_say_of_acceptsAll`. -/

namespace Trap

variable (config : Config) (core : Core) {k : κ} {c : ω}

/-- GETC puts the character into R0. -/
theorem hold_getC {character : UInt8} (hanswer : (Keyboard.wait k).answer = .ok (some character)) :
    (getC.perform config core).hold k c
      = ⟨(.running, { core with
            registers := core.registers.set Registers.r0 character.toUInt16 }),
          (Keyboard.wait k).keyboard, c,
          (Keyboard.wait k).events.map .reported ++ [.waited (.ok (some character))]⟩ := by
  unfold perform
  dsimp only
  rw [hold_receive, hanswer]
  exact Course.after_done _ _ _ _

/-- IN says its prompt, puts the character into R0, and echoes it. -/
theorem hold_input (h : Console.AcceptsAll c) {character : UInt8}
    (hanswer : (Keyboard.wait k).answer = .ok (some character)) :
    (input.perform config core).hold k c
      = (let prompted := (Console.say c config.prompt.toUTF8.toList).2
        ⟨(.running, { core with
            registers := core.registers.set Registers.r0 character.toUInt16 }),
          (Keyboard.wait k).keyboard, (Console.say prompted [character, 0x0A]).2,
          Exchange.said config.prompt.toUTF8.toList
            ++ ((Keyboard.wait k).events.map .reported ++ [.waited (.ok (some character))]
              ++ Exchange.said [character, 0x0A])⟩) := by
  unfold perform
  dsimp only
  rw [Dialogue.hold_bind, Dialogue.hold_say_of_acceptsAll _ _ h]
  dsimp only
  rw [hold_receive, hanswer]
  dsimp only
  rw [hold_print_of_acceptsAll _ _ _ _ (h.say _)]
  rfl

/-- HALT gives its notice, if that is configured. -/
theorem hold_halt (h : Console.AcceptsAll c) :
    (halt.perform config core).hold k c
      = if config.haltNotice = true then
          ⟨(.halted, core), k, (Console.say c haltNotice.toUTF8.toList).2,
            Exchange.said haltNotice.toUTF8.toList⟩
        else ⟨(.halted, core), k, c, []⟩ := by
  unfold perform
  dsimp only
  split
  · exact hold_print_of_acceptsAll _ _ _ _ h
  · rfl

end Trap

/-! ## Steps

A step is the fetch and the course of the routine behind it. Whatever the
routine is, the fetch moves the program counter and may touch the keyboard
registers, so the two are put together once and for all. -/

/-- A register that is set to what it has stays as it is. -/
theorem Registers.set_get_self (r : Registers) (i : Fin 8) : r.set i (r.get i) = r := by
  simp [set, get]

namespace System

variable {s : System κ ω}

/-- **The fetch of a trap** leaves the memory alone, but for the keyboard status if the
trap was in the keyboard data. -/
theorem fetched_memory_of_trap (h : (Instruction.ofWord s.fetched.value.1).opcode = .trap) :
    s.fetched.value.2
      = if s.machine.core.registers.pc = dataAddress then
          s.machine.core.memory.write statusAddress 0
        else s.machine.core.memory := by
  unfold fetched at h ⊢
  by_cases hstatus : s.machine.core.registers.pc = statusAddress
  · -- the status reads as one of two words, and neither is a trap
    rw [hstatus, show s.machine.core.memory.read statusAddress
      = s.machine.core.memory.readStatus from rfl] at h
    obtain hvalue | hvalue := s.machine.core.memory.readStatus_value s.keyboard s.console
    · rw [hvalue] at h
      exact absurd h (by decide)
    · rw [hvalue] at h
      exact absurd h (by decide)
  · by_cases hdata : s.machine.core.registers.pc = dataAddress
    · rw [if_pos hdata, hdata]
      rfl
    · rw [if_neg hdata, Memory.read_eq_done _ hstatus hdata]
      rfl

/-- **A trap was executed** by a step: with an outcome and a talk, a word that is in R0
afterwards, and the devices as they are then. Nothing else is changed. -/
structure Executed (s : System κ ω) (outcome : Outcome) (talk : List Exchange) (r0 : Word)
    (keyboard : κ) (console : ω) : Prop where
  /-- The outcome is the one given, -/
  outcome : s.step.1 = outcome
  /-- and so is what is written, flushed and waited for. -/
  talk : Exchange.talk s.step.2.2 = talk
  /-- R0 has the word, -/
  r0 : s.next.machine.core.registers.get Registers.r0 = r0
  /-- and the other registers, R7 among them, have theirs. -/
  others : ∀ i, Registers.r0 ≠ i →
    s.next.machine.core.registers.get i = s.machine.core.registers.get i
  /-- The flag is not set. -/
  flag : s.next.machine.core.registers.flag = s.machine.core.registers.flag
  /-- The program counter moves on, around the end of the memory if need be. -/
  pc : s.next.machine.core.registers.pc = s.machine.core.registers.pc + 1
  /-- The step is counted. -/
  steps : s.next.machine.steps.toNat = s.machine.steps.toNat + 1
  /-- The memory is changed by nothing but the fetch. -/
  memory : s.next.machine.core.memory
    = if s.machine.core.registers.pc = dataAddress then
        s.machine.core.memory.write statusAddress 0
      else s.machine.core.memory
  /-- Only the instruction itself is read. -/
  touches : s.touches = [.read s.machine.core.registers.pc s.polled.fetched.value.1]
  /-- The settings stay. -/
  config : s.next.machine.config = s.machine.config
  /-- The devices are those given. -/
  keyboard : s.next.keyboard = keyboard
  console : s.next.console = console

/-- **From the course of a trap to the step:** a course that leaves the memory and all
registers but R0. -/
theorem executed_of_course (h : s.Executes) (htrap : s.instruction.opcode = .trap)
    (hstring : ¬ s.instruction.Calls .putS ∧ ¬ s.instruction.Calls .putSP)
    {course : Course κ ω (Outcome × Core)}
    (hcourse : (s.fetchedCore.execute s.machine.config s.machine.core.registers.pc
      s.instruction).hold s.askedKeyboard s.console = course)
    {r0 : Word} (hvalue : course.value.2
      = { s.fetchedCore with registers := s.fetchedCore.registers.set Registers.r0 r0 }) :
    s.Executed course.value.1 (Exchange.talk course.exchanges) r0 course.keyboard
      course.console := by
  -- the fetch of a trap asks no device, so the routine finds those that the poll left
  have heffect : s.polled.effect = course := by
    rw [effect_polled, fetched_keyboard_of_trap htrap, polled_keyboard_eq]
    exact hcourse
  have hstep := step_of_executes h
  rw [heffect] at hstep
  have hnext := next_eq_of_step hstep
  have hcore : s.next.machine.core
      = { s.fetchedCore with registers := s.fetchedCore.registers.set Registers.r0 r0 } :=
    (congrArg (·.machine.core) hnext).trans hvalue
  have hmemory := fetched_memory_of_trap (s := s.polled) htrap
  rw [s.polled_machine.1] at hmemory
  have htouches : s.touches = [.read s.machine.core.registers.pc s.polled.fetched.value.1] := by
    obtain ⟨later, htouches, hlater⟩ := exists_touches h
    rw [htouches, Instruction.eq_nil_of_touches htrap hstring hlater]
  refine ⟨congrArg (·.1) hstep, ?_, ?_, fun i hi => ?_, ?_, ?_, toNat_steps_next_of_executes h,
    ?_, htouches, s.config_next, ?_, ?_⟩
  · rw [talk_step_of_executes h, heffect]
  · rw [hcore]
    exact Registers.get_set_self _ _ _
  · rw [hcore]
    exact Registers.get_set_ne _ _ hi
  · rw [hcore]
    rfl
  · rw [hcore]
    rfl
  · rw [hcore]
    exact hmemory
  · rw [hnext]
  · rw [hnext]

/-- From the course of a routine to the step. -/
theorem executed_of_perform (h : s.Executes) {trap : Trap} (hcalls : s.instruction.Calls trap)
    (hstring : trap ≠ .putS ∧ trap ≠ .putSP) {course : Course κ ω (Outcome × Core)}
    (hcourse : (trap.perform s.machine.config s.fetchedCore).hold s.askedKeyboard s.console
      = course)
    {r0 : Word} (hvalue : course.value.2
      = { s.fetchedCore with registers := s.fetchedCore.registers.set Registers.r0 r0 }) :
    s.Executed course.value.1 (Exchange.talk course.exchanges) r0 course.keyboard
      course.console := by
  have hiff := Instruction.calls_iff hcalls.1 hcalls.2
  refine executed_of_course h hcalls.1 ⟨?_, ?_⟩ ?_ hvalue
  · rw [hiff]
    exact hstring.1
  · rw [hiff]
    exact hstring.2
  · rw [Core.execute_of_calls hcalls]
    exact hcourse

/-- A core whose R0 is set to what it has. -/
theorem fetchedCore_eq (s : System κ ω) :
    let r0 := s.machine.core.registers.get Registers.r0
    s.fetchedCore
      = { s.fetchedCore with registers := s.fetchedCore.registers.set Registers.r0 r0 } := by
  intro r0
  have hset : s.fetchedCore.registers.set Registers.r0 r0 = s.fetchedCore.registers :=
    s.fetchedCore.registers.set_get_self Registers.r0
  rw [hset]

/-- **What each trap does**, but for the two that print a string: on every machine and
keyboard, with any settings, a console that accepts everything, and any trap word that
is executed, whatever its unused bits are. GETC puts the character that comes into R0
and writes nothing. OUT writes and flushes the low byte of R0. IN writes and flushes its
prompt, puts the character that comes into R0, and writes and flushes it with a line feed
behind. HALT writes and flushes its notice, if it has one to give, and halts; the notice
is "Program halted" on a line of its own. A vector without a routine does nothing.
Nothing else is changed by any of them. -/
theorem executed_of_trap {κ ω : Type} [Keyboard κ] [Console ω] {s : System κ ω}
    (h : s.Executes) (haccepts : Console.AcceptsAll s.console)
    (hword : s.polled.fetched.value.1.bits 12 4 = 15) :
    let vector := s.polled.fetched.value.1.bits 0 8
    let r0 := s.machine.core.registers.get Registers.r0
    let k := s.askedKeyboard
    let prompt := s.machine.config.prompt.toUTF8.toList
    let prompted := (Console.say s.console prompt).2
    let notice : List UInt8 :=
      [0x0A, 0x50, 0x72, 0x6F, 0x67, 0x72, 0x61, 0x6D, 0x20, 0x68, 0x61, 0x6C, 0x74, 0x65,
        0x64, 0x0A]
    (vector = 0x20 → ∀ character, (Keyboard.wait k).answer = .ok (some character) →
        s.Executed .running [.waited (.ok (some character))] character.toUInt16
          (Keyboard.wait k).keyboard s.console)
      ∧ (vector = 0x21 → ∀ character : UInt8, character.toNat = r0.toNat % 256 →
        s.Executed .running [.wrote [character] (.ok ()), .flushed (.ok ())] r0 k
          (Console.say s.console [character]).2)
      ∧ (vector = 0x23 → ∀ character, (Keyboard.wait k).answer = .ok (some character) →
        s.Executed .running
          (Exchange.said prompt ++ [.waited (.ok (some character)),
            .wrote [character, 0x0A] (.ok ()), .flushed (.ok ())])
          character.toUInt16 (Keyboard.wait k).keyboard
          (Console.say prompted [character, 0x0A]).2)
      ∧ (vector = 0x25 → s.machine.config.haltNotice = true →
        s.Executed .halted (Exchange.said notice) r0 k (Console.say s.console notice).2)
      ∧ (vector = 0x25 → s.machine.config.haltNotice = false →
        s.Executed .halted [] r0 k s.console)
      ∧ (vector ∉ [0x20, 0x21, 0x22, 0x23, 0x24, 0x25] →
        s.Executed .running [] r0 k s.console) := by
  intro vector r0 k prompt prompted notice
  have hcalls : ∀ trap : Trap, vector = trap.vector → s.instruction.Calls trap :=
    fun trap hvector => (Instruction.calls_ofWord_iff _ trap).2 ⟨hword, hvector⟩
  refine ⟨fun hvector character hanswer => ?_, fun hvector character hlow => ?_,
    fun hvector character hanswer => ?_, fun hvector hnotice => ?_, fun hvector hnotice => ?_,
    fun hvector => ?_⟩
  · have hdone := executed_of_perform h (hcalls .getC hvector) (by decide)
      (Trap.hold_getC _ _ hanswer) rfl
    rw [Exchange.talk_append, Exchange.talk_reported] at hdone
    exact hdone
  · obtain rfl : character = r0.lowByte := UInt8.toNat_inj.1 (hlow.trans r0.toNat_lowByte.symm)
    have hdone := executed_of_perform h (hcalls .out hvector) (by decide)
      (Trap.hold_print_of_acceptsAll _ _ _ _ haccepts) s.fetchedCore_eq
    rw [Exchange.talk_said] at hdone
    exact hdone
  · have hdone := executed_of_perform h (hcalls .input hvector) (by decide)
      (Trap.hold_input _ _ haccepts hanswer) rfl
    simp only [Exchange.talk_append, Exchange.talk_reported, Exchange.talk_said] at hdone
    exact hdone
  · have hcourse := Trap.hold_halt s.machine.config s.fetchedCore (k := k) haccepts
    rw [if_pos hnotice, toUTF8_haltNotice] at hcourse
    have hdone := executed_of_perform h (hcalls .halt hvector) (by decide) hcourse
      s.fetchedCore_eq
    rw [Exchange.talk_said] at hdone
    exact hdone
  · have hcourse := Trap.hold_halt s.machine.config s.fetchedCore (k := k) haccepts
    rw [if_neg (by rw [hnotice]; exact Bool.false_ne_true)] at hcourse
    exact executed_of_perform h (hcalls .halt hvector) (by decide) hcourse s.fetchedCore_eq
  · have htrap : s.instruction.opcode = .trap := (Instruction.opcode_ofWord_iff _ .trap).2 hword
    -- each of the six routines has its vector in the list
    have hnone : ∀ trap, ¬ s.instruction.Calls trap := by
      intro trap hcall
      have hvector' := ((Instruction.calls_ofWord_iff _ trap).1 hcall).2
      cases trap <;> exact hvector (by simp [vector, hvector', Trap.vector])
    have hvector? : Trap.ofVector? s.instruction.vector = none :=
      Option.eq_none_iff_forall_ne_some.2 fun trap hsome => hnone trap ⟨htrap, hsome⟩
    have hcourse : (s.fetchedCore.execute s.machine.config s.machine.core.registers.pc
        s.instruction).hold k s.console
        = ⟨(.running, s.fetchedCore), k, s.console,
          [.reported (.unknownTrap s.instruction.vector)]⟩ := by
      unfold Core.execute
      rw [htrap]
      dsimp only
      rw [hvector?]
      rfl
    exact executed_of_course h htrap ⟨hnone _, hnone _⟩ hcourse s.fetchedCore_eq

/-- A program that asks for a character with the usual prompt, by a word with unused bits
set. -/
def asksUnusually : System Scripted Collector :=
  ⟨Machine.loaded [0xF523], { queue := [0x61] }, {}⟩

/-- The prompt is said before the wait, and the character is echoed on a line of its own;
it is in R0 then, and the flag is what it was. -/
theorem executed_of_trap_asksUnusually :
    asksUnusually.Executes ∧ Console.AcceptsAll asksUnusually.console
      ∧ asksUnusually.polled.fetched.value.1.bits 12 4 = 15
      ∧ asksUnusually.polled.fetched.value.1.bits 0 8 = 0x23
      ∧ asksUnusually.step.1 = .running
      ∧ asksUnusually.next.machine.core.registers.get Registers.r0 = 0x61
      ∧ asksUnusually.next.machine.core.registers.pc = 0x3001
      ∧ asksUnusually.next.machine.core.registers.flag = .zero
      ∧ Exchange.talk asksUnusually.step.2.2
        = [.wrote [0x45, 0x6E, 0x74, 0x65, 0x72, 0x20, 0x61, 0x20, 0x63, 0x68, 0x61, 0x72,
            0x61, 0x63, 0x74, 0x65, 0x72, 0x3A, 0x20] (.ok ()), .flushed (.ok ()),
          .waited (.ok (some 0x61)), .wrote [0x61, 0x0A] (.ok ()), .flushed (.ok ())] := by
  have hexecutes : asksUnusually.Executes := ⟨rfl, rfl, by decide⟩
  have haccepts : Console.AcceptsAll asksUnusually.console :=
    Collector.Wide.acceptsAll ⟨rfl, rfl⟩
  have hread : asksUnusually.machine.core.memory.read asksUnusually.machine.core.registers.pc
      = .done (0xF523, asksUnusually.machine.core.memory) :=
    Machine.read_loaded (i := 0) rfl (by decide) (by decide)
  have hfetched : asksUnusually.polled.fetched.value.1 = 0xF523 := by
    rw [polled_of_not_due (by decide), fetched, hread]
    rfl
  have hword : asksUnusually.polled.fetched.value.1.bits 12 4 = 15 := by
    rw [hfetched]
    decide
  have hvector : asksUnusually.polled.fetched.value.1.bits 0 8 = 0x23 := by
    rw [hfetched]
    decide
  have hprompt : asksUnusually.machine.config.prompt.toUTF8.toList = _ :=
    Config.toUTF8_prompt_default
  obtain ⟨-, -, hinput, -⟩ := executed_of_trap hexecutes haccepts hword
  have hdone := hinput hvector 0x61 rfl
  have htalk := hdone.talk
  rw [hprompt] at htalk
  exact ⟨hexecutes, haccepts, hword, hvector, hdone.outcome, hdone.r0, hdone.pc, hdone.flag,
    htalk⟩

end System

end LC3
