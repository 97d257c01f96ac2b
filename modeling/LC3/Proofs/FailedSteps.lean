import LC3.Proofs.StepVerdicts

/-!
# What a failed step leaves behind

Whoever embeds the machine may look at it after a fault, or let it go on. What is
found then depends on how far the step got. At the limit it did nothing. A request
for shutdown that is noticed before the fetch has cost a poll at most. Every other
fault comes after the fetch, when the program counter has moved on and the step was
counted, and the instruction has done nothing more, but for two things: a trap that
reads a string may have read the registers of the keyboard, and a character whose
echo is not taken is in R0 already.

Which registers there are at the end is known from `Trap.Ending`, and which cells
may have changed from what the step touches. Both are stated of all faults at once
(`System.registers_of_fault`, `System.touches_of_fault`).
-/

namespace LC3

open Memory (statusAddress dataAddress)
open Touch (readsFrom lastStored)

/-- **Words that are only read** leave what was last stored. -/
theorem Touch.lastStored_readsFrom (a before b : Word) (words : List Word) :
    lastStored a before (readsFrom b words) = before := by
  induction words generalizing b with
  | nil => rfl
  | cons w rest ih => exact ih (b + 1)

namespace Trap

variable {κ ω : Type} [Keyboard κ] [Console ω] {config : Config} {core : Core} {k : κ} {c : ω}
  {trap : Trap}

/-- **A trap that ends in a fault** leaves the registers, unless it is an echo that
is not taken. -/
theorem Ending.registers_of_fault {f : Fault} {registers : Registers}
    (h : trap.Ending config core k c (.fault f) registers) :
    registers = core.registers
      ∨ ∃ character e, trap = .input
        ∧ (Console.say c config.prompt.toUTF8.toList).1 = .ok ()
        ∧ (Keyboard.wait k).answer = .ok (some character)
        ∧ (Console.say (Console.say c config.prompt.toUTF8.toList).2 [character, 0x0A]).1
          = .error e
        ∧ registers = core.registers.set Registers.r0 character.toUInt16 := by
  -- the ways to end are cases of the outcome, so the fault becomes an equation first
  generalize houtcome : Outcome.fault f = outcome at h
  cases h with
  | unsaid | unheard | inVain | finished => exact .inl rfl
  | heard => exact nomatch houtcome
  | @unechoed character e hsaid hawaits hwait hecho =>
    -- GETC has no echo, so it cannot fail
    obtain rfl | rfl := hawaits
    · exact nomatch hecho
    · exact .inr ⟨character, e, rfl, hsaid, hwait, hecho, rfl⟩

end Trap

/-- An operation without a meaning changes nothing. -/
theorem Core.ends_execute_of_reserved {i : Instruction} (h : i.opcode = .rti ∨ i.opcode = .res)
    (config : Config) (address : Word) (core : Core) :
    (core.execute config address i).Ends (·.2 = core) := by
  unfold execute
  obtain h | h := h
  · rw [h]
    exact rfl
  · rw [h]
    exact rfl

namespace System

variable {κ ω : Type} [Keyboard κ] [Console ω] {s : System κ ω}

/-- **The echo of a character fails:** an instruction asks for a character with a
prompt that is taken, the character comes, and its echo is not taken. -/
def EchoFails (s : System κ ω) (character : UInt8) : Prop :=
  let prompted := Console.say s.console s.machine.config.prompt.toUTF8.toList
  s.instruction.Calls .input ∧ prompted.1 = .ok ()
    ∧ (Keyboard.wait s.askedKeyboard).answer = .ok (some character)
    ∧ ∃ e, (Console.say prompted.2 [character, 0x0A]).1 = .error e

/-- One character is echoed. -/
theorem EchoFails.unique {character character' : UInt8} (h : s.EchoFails character)
    (h' : s.EchoFails character') : character = character' :=
  Option.some.inj (Except.ok.inj (h.2.2.1.symm.trans h'.2.2.1))

/-- A fault that is not that of a trap is that of an operation without a meaning. -/
theorem reserved_of_fault (h : s.Executes) {f : Fault} (hfault : s.step.1 = .fault f)
    (hcalls : ∀ trap, ¬ s.instruction.Calls trap) :
    s.instruction.opcode = .rti ∨ s.instruction.opcode = .res := by
  rw [step_of_not_calls h hcalls, Instruction.outcome_of_not_calls hcalls] at hfault
  by_contra hmeaning
  rw [if_neg hmeaning] at hfault
  exact nomatch hfault

/-- **The registers after a fault:** the program counter has moved on, and R0 has the
character whose echo failed, if one did. -/
theorem registers_of_fault (h : s.Executes) {f : Fault} (hfault : s.step.1 = .fault f) :
    let advanced := s.machine.core.registers.advance
    ((∀ character, ¬ s.EchoFails character) ∧ s.next.machine.core.registers = advanced)
      ∨ ∃ character, s.EchoFails character
        ∧ s.next.machine.core.registers = advanced.set Registers.r0 character.toUInt16 := by
  intro advanced
  by_cases hecho : ∃ character, s.EchoFails character
  · obtain ⟨character, hcalls, hsaid, hwait, e, hfails⟩ := hecho
    have hend := ending_step h hcalls
    rw [polled_keyboard_eq] at hend
    -- a routine ends in one way, so this one excludes the others
    have hunechoed := hend.unique (.unechoed hsaid (.inr rfl) hwait hfails)
    exact .inr ⟨character, ⟨hcalls, hsaid, hwait, e, hfails⟩, hunechoed.2⟩
  · refine .inl ⟨not_exists.1 hecho, ?_⟩
    by_cases hcalls : ∃ trap, s.instruction.Calls trap
    · obtain ⟨trap, hcalls⟩ := hcalls
      have hend := ending_step h hcalls
      rw [polled_keyboard_eq, hfault] at hend
      obtain hsame | ⟨character, e, rfl, hsaid, hwait, hfails, -⟩ := hend.registers_of_fault
      · exact hsame
      · exact absurd ⟨character, hcalls, hsaid, hwait, e, hfails⟩ hecho
    · have hsame := (Core.ends_execute_of_reserved
        (reserved_of_fault h hfault (not_exists.1 hcalls)) s.machine.config
        s.machine.core.registers.pc s.fetchedCore).hold s.polled.fetched.keyboard s.console
      unfold next
      rw [step_of_executes h, effect_polled]
      exact congrArg Core.registers hsame

/-- **What a step touches that ends in a fault:** the word that it fetched, and the
words of a string. -/
theorem touches_of_fault (h : s.Executes) {f : Fault} (hfault : s.step.1 = .fault f) :
    ∃ words, s.touches = .read s.machine.core.registers.pc s.polled.fetched.value.1
        :: readsFrom (s.machine.core.registers.get Registers.r0) words
      ∧ (words = [] ∨ s.instruction.Calls .putS ∨ s.instruction.Calls .putSP) := by
  obtain ⟨later, htouches, hlater⟩ := exists_touches h
  rw [htouches]
  unfold Instruction.Touches at hlater
  -- a fault comes from a trap or from an operation without a meaning, which touches nothing
  by_cases hcalls : ∃ trap, s.instruction.Calls trap
  · obtain ⟨trap, hopcode, hvector⟩ := hcalls
    rw [hopcode] at hlater
    dsimp only at hlater
    rw [hvector] at hlater
    cases trap with
    | putS =>
      obtain ⟨words, rfl⟩ := hlater
      exact ⟨words, rfl, .inr (.inl ⟨hopcode, hvector⟩)⟩
    | putSP =>
      obtain ⟨words, rfl⟩ := hlater
      exact ⟨words, rfl, .inr (.inr ⟨hopcode, hvector⟩)⟩
    | getC | out | input | halt =>
      cases hlater
      exact ⟨[], rfl, .inl rfl⟩
  · obtain hopcode | hopcode := reserved_of_fault h hfault (not_exists.1 hcalls)
    · rw [hopcode] at hlater
      cases hlater
      exact ⟨[], rfl, .inl rfl⟩
    · rw [hopcode] at hlater
      cases hlater
      exact ⟨[], rfl, .inl rfl⟩

/-- **No ordinary cell is changed** by a step that ends in a fault. -/
theorem peek_of_fault (h : s.Executes) {f : Fault} (hfault : s.step.1 = .fault f) {a : Word}
    (hstatus : a ≠ statusAddress) (hdata : a ≠ dataAddress) :
    s.next.machine.core.memory.peek a = s.machine.core.memory.peek a := by
  obtain ⟨words, htouches, -⟩ := touches_of_fault h hfault
  rw [(s.replays_step hstatus hdata).eq_lastStored, htouches]
  exact Touch.lastStored_readsFrom a _ _ words

/-! ## A prompt that is not taken

The character that is asked for stays with the keyboard if the prompt fails.
What was delivered by a step is counted in its exchanges, and the parts of the
step are gone through in order: the poll, the fetch, the prompt, and nothing
behind it. -/

/-- The poll hands out no character, -/
theorem delivered_pollExchanges (s : System κ ω) :
    Exchange.delivered s.pollExchanges = [] := by
  refine List.filterMap_eq_nil_iff.2 fun e hmem => ?_
  obtain ⟨event, -, rfl⟩ | rfl | ⟨error, rfl⟩ := mem_pollExchanges hmem
  · rfl
  · rfl
  · rfl

/-- and neither does the fetch of a trap. -/
theorem delivered_fetched_of_trap (h : (Instruction.ofWord s.fetched.value.1).opcode = .trap) :
    Exchange.delivered s.fetched.exchanges = [] := by
  unfold fetched at h ⊢
  obtain ⟨-, hread⟩ | ⟨-, hread⟩ | hread :=
    s.machine.core.memory.read_cases s.machine.core.registers.pc
  · rw [hread] at h
    -- a trap is not fetched from the status register, whose words are no traps
    obtain hvalue | hvalue :=
      s.machine.core.memory.readStatus_value s.keyboard s.console
    · rw [hvalue] at h
      exact absurd h (by decide)
    · rw [hvalue] at h
      exact absurd h (by decide)
  · rw [hread]
    rfl
  · rw [hread]
    rfl

/-- **A prompt that is not taken** ends the step before the keyboard is asked for a
character. -/
theorem step_of_prompt_error (h : s.Executes) (hcalls : s.instruction.Calls .input)
    {e : DeviceError}
    (hsaid : (Console.say s.console s.machine.config.prompt.toUTF8.toList).1 = .error e) :
    s.step.1 = .fault (.device e) ∧ s.next.keyboard = s.askedKeyboard
      ∧ Exchange.delivered s.step.2.2 = [] := by
  obtain ⟨hkeyboard, -⟩ := Dialogue.hold_say s.machine.config.prompt.toUTF8.toList
    s.askedKeyboard s.console
  have hvalue := (Dialogue.hold_say_answer s.machine.config.prompt.toUTF8.toList
    s.askedKeyboard s.console).1.trans hsaid
  have hsay := Dialogue.delivered_say s.machine.config.prompt.toUTF8.toList
    s.askedKeyboard s.console
  -- the routine ends with the prompt, before it waits
  have heffect : s.polled.effect.keyboard = s.askedKeyboard
      ∧ Exchange.delivered s.polled.effect.exchanges = [] := by
    rw [effect_polled, Core.execute_of_calls hcalls, fetched_keyboard_of_trap hcalls.1,
      polled_keyboard_eq]
    unfold Trap.perform
    dsimp only
    rw [Dialogue.hold_bind, hvalue, Course.after_keyboard, Course.after_exchanges,
      Exchange.delivered_append, hsay]
    exact ⟨hkeyboard, rfl⟩
  refine ⟨(device_iff_of_executes h e).2 ⟨.input, hcalls, .message hsaid⟩, ?_, ?_⟩
  · unfold next
    rw [step_of_executes h]
    exact heffect.1
  · rw [step_of_executes h]
    show Exchange.delivered (_ ++ ([_] ++ (_ ++ ([_] ++ _)))) = []
    rw [Exchange.delivered_append, Exchange.delivered_append, Exchange.delivered_append,
      Exchange.delivered_append, delivered_pollExchanges, delivered_fetched_of_trap hcalls.1,
      heffect.2]
    rfl

/-! ## Every fault

Whether anything was touched tells the two kinds of fault apart: a step touches
at least the word that it fetches, if it fetches one. The count that is used up
is no fault, so it does not occur here. -/

/-- A step that touches something and ends in a fault executes an instruction. -/
theorem executes_of_fault {f : Fault} (hfault : s.step.1 = .fault f) (htouches : s.touches ≠ []) :
    s.Executes := by
  obtain ⟨limit, hlimit⟩ | ⟨hlimit, hrequested⟩ | ⟨hlimit, hrequested, hfull⟩ | hexecutes :=
    s.step_cases
  · exact absurd (touches_of_limit hlimit) htouches
  · exact absurd (touches_of_requested hlimit hrequested) htouches
  · rw [step_of_full hlimit hrequested hfull] at hfault
    exact nomatch hfault
  · exact hexecutes

/-- A step that executes an instruction is counted. -/
theorem toNat_steps_next_of_executes (h : s.Executes) :
    s.next.machine.steps.toNat = s.machine.steps.toNat + 1 := by
  unfold next
  rw [step_of_executes h]
  exact Machine.toNat_count_add_one h.countable

/-- **If no register of the keyboard is read**, a fault leaves all of the memory. -/
theorem memory_of_fault (h : s.Executes) {f : Fault} (hfault : s.step.1 = .fault f)
    (hreads : ∀ w, .read statusAddress w ∉ s.touches ∧ .read dataAddress w ∉ s.touches) :
    s.next.machine.core.memory = s.machine.core.memory := by
  obtain ⟨words, htouches, -⟩ := touches_of_fault h hfault
  refine memory_eq_of_looks fun touch hmem => ?_
  have hread : ∃ a w, touch = .read a w := by
    rw [htouches] at hmem
    obtain rfl | hmem := List.mem_cons.1 hmem
    · exact ⟨_, _, rfl⟩
    · exact Touch.exists_read_of_mem hmem
  obtain ⟨a, w, rfl⟩ := hread
  refine ⟨?_, ?_⟩
  · rintro rfl
    exact (hreads w).1 hmem
  · rintro rfl
    exact (hreads w).2 hmem

/-- A step that touches nothing and is not at the limit was interrupted, and leaves what
the poll left. -/
theorem next_eq_polled_of_fault {f : Fault} (hfault : s.step.1 = .fault f)
    (hlimited : ∀ limit, f ≠ .stepLimit limit) (htouches : s.touches = []) :
    f = .interrupted ∧ s.next = s.polled := by
  obtain ⟨limit, hlimit⟩ | ⟨hlimit, hrequested⟩ | ⟨hlimit, hrequested, hfull⟩ | hexecutes :=
    s.step_cases
  · rw [step_of_limit hlimit] at hfault
    exact absurd (Outcome.fault.inj hfault).symm (hlimited limit)
  · have hstep := step_of_requested hlimit hrequested
    rw [hstep] at hfault
    exact ⟨(Outcome.fault.inj hfault).symm, next_eq_of_step hstep⟩
  · rw [touches_of_full hlimit hrequested hfull] at htouches
    exact nomatch htouches
  · exact absurd htouches (touches_ne_nil_of_executes hexecutes)

/-- **What a fault leaves behind.** At the limit nothing is changed and no device
asked. A request for shutdown that is noticed before the fetch, when nothing was
touched yet, leaves registers, memory, count and console. After the fetch, the program
counter has moved on and the step was counted; the flag and all registers are what
they were, but that R0 has a character whose echo fails; and the memory is what it
was, but for the registers of the keyboard, if the instruction was fetched from there
or a string was read over them. A prompt that is not taken hands out no character. -/
theorem fault_leaves {f : Fault} (hfault : s.step.1 = .fault f) :
    let r := s.machine.core.registers
    let r' := s.next.machine.core.registers
    let m := s.machine.core.memory
    let m' := s.next.machine.core.memory
    (∀ limit, f = .stepLimit limit →
        s.next = s ∧ s.step.2.2 = [.reported (.limitReached limit)])
      ∧ ((∀ limit, f ≠ .stepLimit limit) → s.touches = [] →
        f = .interrupted ∧ r' = r ∧ m' = m ∧ s.next.machine.steps = s.machine.steps
          ∧ s.next.console = s.console)
      ∧ (s.touches ≠ [] →
        r'.pc = r.pc + 1 ∧ s.next.machine.steps.toNat = s.machine.steps.toNat + 1
          ∧ r'.flag = r.flag ∧ (∀ i, Registers.r0 ≠ i → r'.get i = r.get i)
          ∧ (∀ character, s.EchoFails character →
            r'.get Registers.r0 = character.toUInt16)
          ∧ ((∀ character, ¬ s.EchoFails character) →
            r'.get Registers.r0 = r.get Registers.r0)
          ∧ (∀ a, a ≠ statusAddress → a ≠ dataAddress → m'.peek a = m.peek a)
          ∧ ((∀ w, .read statusAddress w ∉ s.touches ∧ .read dataAddress w ∉ s.touches) →
            m' = m)
          ∧ ∃ words, s.touches = .read r.pc s.polled.fetched.value.1
              :: readsFrom (r.get Registers.r0) words
            ∧ (words = [] ∨ s.instruction.Calls .putS ∨ s.instruction.Calls .putSP))
      ∧ (∀ e, s.touches ≠ [] → s.instruction.Calls .input →
        (Console.say s.console s.machine.config.prompt.toUTF8.toList).1 = .error e →
        f = .device e ∧ s.next.keyboard = s.askedKeyboard
          ∧ Exchange.delivered s.step.2.2 = []) := by
  intro r r' m m'
  refine ⟨?_, ?_, fun htouches => ?_, fun e htouches hcalls hsaid => ?_⟩
  · rintro limit rfl
    have hlimit := (s.machine.limitReached?_eq_some_iff limit).2 ((s.stepLimit_iff limit).1 hfault)
    unfold next
    rw [step_of_limit hlimit]
    exact ⟨rfl, rfl⟩
  · intro hlimited htouches
    obtain ⟨rfl, hnext⟩ := next_eq_polled_of_fault hfault hlimited htouches
    obtain ⟨hcore, -, hsteps⟩ := s.polled_machine
    refine ⟨rfl, ?_, ?_, ?_, ?_⟩
    · exact congrArg Core.registers ((congrArg (·.machine.core) hnext).trans hcore)
    · exact congrArg Core.memory ((congrArg (·.machine.core) hnext).trans hcore)
    · exact (congrArg (·.machine.steps) hnext).trans hsteps
    · exact (congrArg System.console hnext).trans s.polled_console
  · have h := executes_of_fault hfault htouches
    have hsteps := toNat_steps_next_of_executes h
    have hpeek : ∀ a, a ≠ statusAddress → a ≠ dataAddress → m'.peek a = m.peek a :=
      fun a => peek_of_fault h hfault
    have hmemory := memory_of_fault h hfault
    have hread := touches_of_fault h hfault
    -- R0 is kept unless a character came and its echo failed, and then no other register
    -- is set
    obtain ⟨hnone, hsame⟩ | ⟨received, hecho, hset⟩ := registers_of_fault h hfault
    · exact ⟨congrArg Registers.pc hsame, hsteps, (congrArg Registers.flag hsame).trans rfl,
        fun i _ => (congrArg (Registers.get · i) hsame).trans rfl,
        fun character hfails => absurd hfails (hnone character),
        fun _ => (congrArg (Registers.get · Registers.r0) hsame).trans rfl, hpeek, hmemory, hread⟩
    · refine ⟨congrArg Registers.pc hset, hsteps, (congrArg Registers.flag hset).trans rfl,
        fun i hi => (congrArg (Registers.get · i) hset).trans (Registers.get_set_ne _ _ hi),
        fun character hfails => ?_, fun hno => absurd hecho (hno received), hpeek, hmemory, hread⟩
      rw [hfails.unique hecho]
      exact (congrArg (Registers.get · Registers.r0) hset).trans (Registers.get_set_self _ _ _)
  · have h := executes_of_fault hfault htouches
    obtain ⟨hstep, hkeyboard, hdelivered⟩ := step_of_prompt_error h hcalls hsaid
    exact ⟨Outcome.fault.inj (hfault.symm.trans hstep), hkeyboard, hdelivered⟩

/-- A program that asks for a character, on a console with room for nothing, and
without a prompt. -/
def mutedEcho : System Scripted Collector :=
  ⟨{ Machine.loaded [0xF023] with config := ⟨true, "", none⟩ }, { queue := [0x61] },
    { room := some 0 }⟩

/-- It executes its one instruction: nothing stops the step before the fetch. -/
theorem executes_mutedEcho :
    mutedEcho.Executes ∧ mutedEcho.instruction = .ofWord 0xF023 :=
  ⟨⟨rfl, rfl, by decide⟩,
    instruction_of_cell (by decide) (Machine.read_loaded (i := 0) rfl (by decide) (by decide))⟩

/-- Its echo fails. -/
theorem echoFails_mutedEcho : mutedEcho.EchoFails 0x61 := by
  have hempty : mutedEcho.machine.config.prompt.toUTF8.toList = [] := by
    simp [mutedEcho]
  unfold EchoFails
  rw [hempty, executes_mutedEcho.2]
  exact ⟨by decide, rfl, rfl, Collector.brokenPipe, rfl⟩

/-- The character is in R0, and nothing else is changed. -/
theorem fault_leaves_mutedEcho :
    (∃ e, mutedEcho.step.1 = .fault (.device e)) ∧ mutedEcho.touches ≠ []
      ∧ mutedEcho.next.machine.core.registers.get Registers.r0 = 0x61
      ∧ mutedEcho.next.machine.core.registers.pc = 0x3001
      ∧ mutedEcho.next.machine.core.registers.flag = .zero
      ∧ mutedEcho.next.machine.core.memory.peek 0x3000 = 0xF023 := by
  obtain ⟨hexecutes, -⟩ := executes_mutedEcho
  obtain ⟨hcalls, hsaid, hwait, e, hfails⟩ := echoFails_mutedEcho
  have hfault : mutedEcho.step.1 = .fault (.device e) :=
    (device_iff_of_executes hexecutes e).2 ⟨.input, hcalls, .echo hsaid (.inr rfl) hwait hfails⟩
  have htouches := touches_ne_nil_of_executes hexecutes
  obtain ⟨-, -, hleaves, -⟩ := fault_leaves hfault
  obtain ⟨hpc, -, hflag, -, hheard, -, hpeek, -⟩ := hleaves htouches
  refine ⟨⟨e, hfault⟩, htouches, hheard _ echoFails_mutedEcho, hpc, hflag, ?_⟩
  exact (hpeek 0x3000 (by decide) (by decide)).trans
    (Machine.peek_loaded [0xF023] (i := 0) (a := 0x3000) rfl)

end System

end LC3
