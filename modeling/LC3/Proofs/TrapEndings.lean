import LC3.Proofs.Executions
import LC3.Proofs.Waits

/-!
# How a trap ends

Every routine is made of the same three parts, and none has anything else that
could fail: it **says** a message, it waits for a character, and it **echoes**
that character. GETC has nothing to say, OUT and the two that write strings
have nothing to wait for, and IN alone has all three parts. The first part that
fails is the last of the routine, so the outcome and the registers at the end
are told by what the console and the keyboard answer (`Trap.ending`).

No routine writes a register but R0, and that only between a wait and an echo.
So there is one failure that leaves a register changed: an echo that cannot be
written.
-/

namespace LC3

variable {κ ω : Type} [Keyboard κ] [Console ω]

/-! ## Messages

What a console answers to a message decides how a routine ends. The answer and
the console afterwards are those of `Console.say`, and the rest of the course
plays no part in it. -/

/-- **What a console answers to a message** that is written and made visible,
and the console after it. -/
def Console.say (c : ω) (message : List UInt8) : Except DeviceError Unit × ω :=
  if message.isEmpty then Console.flush c
  else
    match Console.write c message with
    | (.ok (), c) => Console.flush c
    | (.error e, c) => (.error e, c)

/-- A message is said as the console answers it. -/
theorem Dialogue.hold_say_answer (message : List UInt8) (k : κ) (c : ω) :
    ((say message).hold k c).value = (Console.say c message).1
      ∧ ((say message).hold k c).console = (Console.say c message).2 := by
  unfold say Console.say
  split
  · exact ⟨rfl, rfl⟩
  · unfold hold
    dsimp only
    obtain ⟨answer, c'⟩ := Console.write c message
    cases answer with
    | ok => exact ⟨rfl, rfl⟩
    | error e => exact ⟨rfl, rfl⟩

/-- An outcome, unless the console fails. -/
def Outcome.given (outcome : Outcome) : Except DeviceError Unit → Outcome
  | .ok () => outcome
  | .error e => .fault (.device e)

namespace Trap

/-- Printing ends as the console answers, and leaves registers and memory. -/
theorem hold_print (core : Core) (message : List UInt8) (outcome : Outcome) (k : κ) (c : ω) :
    ((print core message outcome).hold k c).value
      = (outcome.given (Console.say c message).1, core) := by
  unfold print
  rw [Dialogue.hold_bind, (Dialogue.hold_say_answer message k c).1, Course.after_value]
  cases (Console.say c message).1 <;> rfl

/-! ## The three parts of a routine

A routine has a message to say first, or a character to wait for and then to
echo, or both. Each part may be missing, and each may fail. -/

/-- The number of a trap. -/
def vector : Trap → Nat
  | getC => 0x20
  | out => 0x21
  | putS => 0x22
  | input => 0x23
  | putSP => 0x24
  | halt => 0x25

/-- **The string at the address in R0**, as the keyboard lets it be read. -/
def string (packing : Packing) (core : Core) (k : κ) (c : ω) : List UInt8 :=
  ((gather packing UInt16.size (core.registers.get Registers.r0) core.memory []).hold k c).value.1

/-- **The message that a routine starts with**, if it has one. -/
def message? (config : Config) (core : Core) (k : κ) (c : ω) : Trap → Option (List UInt8)
  | getC => none
  | out => some [(core.registers.get Registers.r0).lowByte]
  | putS => some (string .single core k c)
  | input => some config.prompt.toUTF8.toList
  | putSP => some (string .double core k c)
  | halt => if config.haltNotice then some LC3.haltNotice.toUTF8.toList else none

/-- What the console answers to it. -/
def said (config : Config) (core : Core) (k : κ) (c : ω) (trap : Trap) :
    Except DeviceError Unit × ω :=
  match trap.message? config core k c with
  | some message => Console.say c message
  | none => (.ok (), c)

/-- What the console answers to the echo of a character. -/
def echoed (c : ω) (character : UInt8) : Trap → Except DeviceError Unit
  | input => (Console.say c [character, 0x0A]).1
  | getC | out | putS | putSP | halt => .ok ()

/-- **How a routine ends**, by what the console and the keyboard answer: the
outcome, and the registers as they are then. -/
inductive Ending (config : Config) (core : Core) (k : κ) (c : ω) (trap : Trap) :
    Outcome → Registers → Prop where
  /-- The message is not taken. -/
  | unsaid {e : DeviceError} (hsaid : (trap.said config core k c).1 = .error e) :
    Ending config core k c trap (.fault (.device e)) core.registers
  /-- There is nothing to wait for. -/
  | finished (hsaid : (trap.said config core k c).1 = .ok ()) (hawaits : ¬ trap.Awaits) :
    Ending config core k c trap trap.outcome core.registers
  /-- The wait fails. -/
  | unheard {e : DeviceError} (hsaid : (trap.said config core k c).1 = .ok ())
    (hawaits : trap.Awaits) (hwait : (Keyboard.wait k).answer = .error e) :
    Ending config core k c trap (.fault (.device e)) core.registers
  /-- The wait is in vain. -/
  | inVain (hsaid : (trap.said config core k c).1 = .ok ()) (hawaits : trap.Awaits)
    (hwait : (Keyboard.wait k).answer = .ok none) :
    Ending config core k c trap (.fault .interrupted) core.registers
  /-- A character comes, and its echo is not taken. -/
  | unechoed {character : UInt8} {e : DeviceError}
    (hsaid : (trap.said config core k c).1 = .ok ()) (hawaits : trap.Awaits)
    (hwait : (Keyboard.wait k).answer = .ok (some character))
    (hecho : trap.echoed (trap.said config core k c).2 character = .error e) :
    Ending config core k c trap (.fault (.device e))
      (core.registers.set Registers.r0 character.toUInt16)
  /-- A character comes, and is echoed if that is due. -/
  | heard {character : UInt8} (hsaid : (trap.said config core k c).1 = .ok ())
    (hawaits : trap.Awaits) (hwait : (Keyboard.wait k).answer = .ok (some character))
    (hecho : trap.echoed (trap.said config core k c).2 character = .ok ()) :
    Ending config core k c trap .running
      (core.registers.set Registers.r0 character.toUInt16)

section Ending

variable (config : Config) (core : Core) (k : κ) (c : ω)

/-- A routine that waits for nothing ends as its message does. -/
theorem ending_of_not_awaits (trap : Trap) (h : ¬ trap.Awaits) :
    trap.Ending config core k c (trap.outcome.given (trap.said config core k c).1)
      core.registers := by
  cases hsaid : (trap.said config core k c).1 with
  | ok => exact .finished hsaid h
  | error e => exact .unsaid hsaid

/-- A string is read first, which the console does not notice, and then it is a
message. -/
theorem hold_printString (packing : Packing) :
    let course := (printString packing core).hold k c
    course.value.1 = Outcome.given .running (Console.say c (string packing core k c)).1
      ∧ course.value.2.registers = core.registers := by
  obtain ⟨registers, memory⟩ := core
  have hconsole := (cannotFail_gather packing UInt16.size (registers.get Registers.r0) memory
    []).console_eq k c
  unfold printString
  dsimp only
  rw [Dialogue.hold_bind, Course.after_value, hconsole, hold_print]
  exact ⟨rfl, rfl⟩

/-- After its message, a routine that waits ends as the keyboard answers. -/
theorem ending_receive (trap : Trap) (hsaid : (trap.said config core k c).1 = .ok ())
    (hawaits : trap.Awaits) {next : UInt8 → Core → Dialogue (Outcome × Core)}
    (hnext : ∀ character core' (k' : κ),
      ((next character core').hold k' (trap.said config core k c).2).value
        = (Outcome.given .running (trap.echoed (trap.said config core k c).2 character), core')) :
    let course := (receive core next).hold k (trap.said config core k c).2
    trap.Ending config core k c course.value.1 course.value.2.registers := by
  unfold receive
  rw [Dialogue.hold_bind, Dialogue.hold_awaitCharacter]
  dsimp only
  rw [Course.after_value]
  match hwait : (Keyboard.wait k).answer with
  | .ok none => exact .inVain hsaid hawaits hwait
  | .error e => exact .unheard hsaid hawaits hwait
  | .ok (some character) =>
    dsimp only
    rw [hnext]
    match hecho : trap.echoed (trap.said config core k c).2 character with
    | .ok () => exact .heard hsaid hawaits hwait hecho
    | .error e => exact .unechoed hsaid hawaits hwait hecho

/-- **A routine ends as its parts do.** -/
theorem ending_perform (trap : Trap) :
    let course := (trap.perform config core).hold k c
    trap.Ending config core k c course.value.1 course.value.2.registers := by
  -- a routine that waits for nothing ends with its message, and GETC and IN go on to wait
  cases trap with
  | getC =>
    have hnext : ∀ (_ : UInt8) (core' : Core) (k' : κ),
        ((return (.running, core') : Dialogue (Outcome × Core)).hold k' c).value
          = (.running, core') := fun _ _ _ => rfl
    exact ending_receive config core k c getC rfl (.inl rfl) hnext
  | out =>
    have hend := ending_of_not_awaits config core k c out (by decide)
    unfold perform
    dsimp only
    rw [hold_print]
    exact hend
  | putS =>
    have hend := ending_of_not_awaits config core k c putS (by decide)
    obtain ⟨houtcome, hregisters⟩ := hold_printString core k c .single
    unfold perform
    dsimp only
    rw [houtcome, hregisters]
    exact hend
  | putSP =>
    have hend := ending_of_not_awaits config core k c putSP (by decide)
    obtain ⟨houtcome, hregisters⟩ := hold_printString core k c .double
    unfold perform
    dsimp only
    rw [houtcome, hregisters]
    exact hend
  | input =>
    obtain ⟨hkeyboard, -⟩ := Dialogue.hold_say config.prompt.toUTF8.toList k c
    obtain ⟨hvalue, hconsole⟩ := Dialogue.hold_say_answer config.prompt.toUTF8.toList k c
    unfold perform
    dsimp only
    rw [Dialogue.hold_bind, hkeyboard, hvalue, hconsole, Course.after_value]
    match hsaid : (Console.say c config.prompt.toUTF8.toList).1 with
    | .error e => exact .unsaid hsaid
    | .ok () =>
      exact ending_receive config core k c input hsaid (.inr rfl)
        fun _ _ _ => hold_print _ _ _ _ _
  | halt =>
    have hend := ending_of_not_awaits config core k c halt (by decide)
    unfold said message? at hend
    unfold perform
    dsimp only at hend ⊢
    split
    next hnotice =>
      rw [if_pos hnotice] at hend
      rw [hold_print]
      exact hend
    next hnotice =>
      rw [if_neg hnotice] at hend
      exact hend

end Ending

/-! ## What each ending says

There is exactly one way for a routine to end, so each outcome can be read back:
from the outcome to what the devices answered, and from the answers to the
outcome. -/

section Verdicts

variable {config : Config} {core : Core} {k : κ} {c : ω} {trap : Trap} {outcome : Outcome}
  {registers : Registers}

/-- **A routine fails** with what a device says: its message is not taken, its
wait fails, or its echo is not taken. -/
inductive FailsWith (config : Config) (core : Core) (k : κ) (c : ω) (e : DeviceError)
    (trap : Trap) : Prop where
  /-- The message is not taken. -/
  | message (h : (trap.said config core k c).1 = .error e)
  /-- The wait fails. -/
  | wait (hsaid : (trap.said config core k c).1 = .ok ()) (hawaits : trap.Awaits)
    (h : (Keyboard.wait k).answer = .error e)
  /-- The echo is not taken. -/
  | echo {character : UInt8} (hsaid : (trap.said config core k c).1 = .ok ())
    (hawaits : trap.Awaits) (hwait : (Keyboard.wait k).answer = .ok (some character))
    (h : trap.echoed (trap.said config core k c).2 character = .error e)

/-- Of the routines one halts. -/
theorem outcome_eq_halted_iff : trap.outcome = .halted ↔ trap = .halt := by
  cases trap <;> simp [Trap.outcome]

namespace Ending

/-- **There is one way to end**, given what the devices answer. -/
theorem unique {outcome' : Outcome} {registers' : Registers}
    (h : trap.Ending config core k c outcome registers)
    (h' : trap.Ending config core k c outcome' registers') :
    outcome = outcome' ∧ registers = registers' := by
  cases h <;> cases h' <;> simp_all

/-- **A program halts** by the trap for it, if the notice is taken. -/
theorem halted_iff (h : trap.Ending config core k c outcome registers) :
    outcome = .halted ↔ trap = .halt ∧ (trap.said config core k c).1 = .ok () := by
  constructor
  · intro houtcome
    cases h with
    | finished hsaid => exact ⟨outcome_eq_halted_iff.1 houtcome, hsaid⟩
    | unsaid | unheard | inVain | unechoed | heard => exact nomatch houtcome
  · rintro ⟨rfl, hsaid⟩
    exact (h.unique (.finished hsaid (by decide))).1

/-- **A trap is interrupted** if it waits in vain. -/
theorem interrupted_iff (h : trap.Ending config core k c outcome registers) :
    outcome = .fault .interrupted
      ↔ trap.Awaits ∧ (trap.said config core k c).1 = .ok ()
        ∧ (Keyboard.wait k).answer = .ok none := by
  constructor
  · intro houtcome
    cases h with
    | inVain hsaid hawaits hwait => exact ⟨hawaits, hsaid, hwait⟩
    | finished => cases trap <;> exact nomatch houtcome
    | unsaid | unheard | unechoed | heard => exact nomatch houtcome
  · rintro ⟨hawaits, hsaid, hwait⟩
    exact (h.unique (.inVain hsaid hawaits hwait)).1

/-- **A trap ends in what a device says** if it fails with that. -/
theorem device_iff (h : trap.Ending config core k c outcome registers) (e : DeviceError) :
    outcome = .fault (.device e) ↔ trap.FailsWith config core k c e := by
  constructor
  · intro houtcome
    cases h with
    | unsaid hsaid =>
      cases houtcome
      exact .message hsaid
    | unheard hsaid hawaits hwait =>
      cases houtcome
      exact .wait hsaid hawaits hwait
    | unechoed hsaid hawaits hwait hecho =>
      cases houtcome
      exact .echo hsaid hawaits hwait hecho
    | finished => cases trap <;> exact nomatch houtcome
    | inVain | heard => exact nomatch houtcome
  · intro hfails
    cases hfails with
    | message hsaid => exact (h.unique (.unsaid hsaid)).1
    | wait hsaid hawaits hwait => exact (h.unique (.unheard hsaid hawaits hwait)).1
    | echo hsaid hawaits hwait hecho => exact (h.unique (.unechoed hsaid hawaits hwait hecho)).1

/-- Nothing else can come of a trap. -/
theorem outcome_cases (h : trap.Ending config core k c outcome registers) :
    outcome = .running ∨ outcome = .halted ∨ outcome = .fault .interrupted
      ∨ ∃ e, outcome = .fault (.device e) := by
  cases h with
  | finished => cases trap <;> simp [Trap.outcome]
  | unsaid | unheard | inVain | unechoed | heard => simp

/-- **No trap writes a register** but R0, for a character that came. -/
theorem registers_eq (h : trap.Ending config core k c outcome registers) :
    registers = core.registers
      ∨ ∃ character : UInt8, registers = core.registers.set Registers.r0 character.toUInt16 := by
  cases h with
  | unsaid | finished | unheard | inVain => exact .inl rfl
  | @unechoed character | @heard character => exact .inr ⟨character, rfl⟩

end Ending

end Verdicts

end Trap

/-! ## Traps by their words

Up to here a trap was a routine. Which words of memory call it is said by two of
their fields, the operation in the four bits at the top and the vector in the
eight at the bottom; the four between are not used. -/

/-- A vector has the routine with its number. -/
theorem Trap.ofVector?_eq_some_iff (v : UInt8) (trap : Trap) :
    ofVector? v = some trap ↔ v.toNat = trap.vector := by
  constructor
  · intro h
    unfold ofVector? at h
    split at h <;> cases h <;> exact ‹v.toNat = _›
  · intro h
    unfold ofVector?
    rw [h]
    cases trap <;> rfl

/-- The code of an operation. -/
def Opcode.number : Opcode → Nat
  | br => 0
  | add => 1
  | ld => 2
  | st => 3
  | jsr => 4
  | and => 5
  | ldr => 6
  | str => 7
  | rti => 8
  | not => 9
  | ldi => 10
  | sti => 11
  | jmp => 12
  | res => 13
  | lea => 14
  | trap => 15

/-- **The four bits at the top** of a word are the code of its operation. -/
theorem Instruction.opcode_ofWord_iff (w : Word) (opcode : Opcode) :
    (ofWord w).opcode = opcode ↔ w.bits 12 4 = opcode.number := by
  have hcodes : ∀ n < 16,
      (Opcode.ofCode? (UInt8.ofNat n)).getD .res = opcode ↔ n = opcode.number := by
    cases opcode <;> decide
  exact hcodes _ (w.bits_lt 12 4)

/-- **An instruction calls a trap** by the code of the operation and the number of
the trap. -/
theorem Instruction.calls_ofWord_iff (w : Word) (trap : Trap) :
    (ofWord w).Calls trap ↔ w.bits 12 4 = 15 ∧ w.bits 0 8 = trap.vector := by
  have hvector : (ofWord w).vector.toNat = w.bits 0 8 :=
    UInt8.toNat_ofNat_of_lt (w.bits_lt 0 8)
  unfold Calls
  rw [opcode_ofWord_iff, Trap.ofVector?_eq_some_iff, hvector]
  rfl

/-! ## Steps that call a trap

The routine finds the core and the devices as the poll and the fetch left them.
With that its ending is the ending of the step. -/

/-- A trap that is called is performed. -/
theorem Core.execute_of_calls {i : Instruction} {trap : Trap} (h : i.Calls trap)
    (config : Config) (address : Word) (core : Core) :
    core.execute config address i = trap.perform config core := by
  unfold execute
  rw [h.1]
  dsimp only
  rw [h.2]

/-- **An instruction that calls no trap** with a routine has its outcome, whatever
the devices answer. -/
theorem Core.ends_execute_of_not_calls {i : Instruction} (h : ∀ trap, ¬ i.Calls trap)
    (config : Config) (address : Word) (core : Core) :
    (core.execute config address i).Ends (·.1 = i.outcome address) := by
  by_cases htrap : i.opcode = .trap
  · have hvector : Trap.ofVector? i.vector = none :=
      Option.eq_none_iff_forall_ne_some.2 fun trap hsome => h trap ⟨htrap, hsome⟩
    unfold execute Instruction.outcome
    rw [htrap, hvector]
    exact Dialogue.ends_bind.2 rfl
  · exact ends_execute htrap config address core

namespace System

variable {s : System κ ω}

/-- **What an instruction works on** when it takes effect: the program counter has
moved on, and the fetch may have changed the registers of the keyboard. -/
def fetchedCore (s : System κ ω) : Core :=
  ⟨s.machine.core.registers.advance, s.polled.fetched.value.2⟩

/-- **A step that calls a trap** ends as the routine does, which finds the devices
as the poll left them. -/
theorem ending_step (h : s.Executes) {trap : Trap} (hcalls : s.instruction.Calls trap) :
    trap.Ending s.machine.config s.fetchedCore s.polled.keyboard s.console s.step.1
      s.next.machine.core.registers := by
  have hend := Trap.ending_perform s.machine.config s.fetchedCore s.polled.fetched.keyboard
    s.console trap
  unfold next
  rw [step_of_executes h, effect_polled, Core.execute_of_calls hcalls,
    fetched_keyboard_of_trap hcalls.1]
  rw [fetched_keyboard_of_trap hcalls.1] at hend
  exact hend

/-- **A step that calls none** has the outcome of its instruction. -/
theorem step_of_not_calls (h : s.Executes) (hcalls : ∀ trap, ¬ s.instruction.Calls trap) :
    s.step.1 = s.instruction.outcome s.machine.core.registers.pc := by
  rw [step_of_executes h, effect_polled]
  exact (Core.ends_execute_of_not_calls hcalls _ _ _).hold _ _

end System

end LC3
