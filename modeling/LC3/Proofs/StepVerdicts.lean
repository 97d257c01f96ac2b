import LC3.Proofs.RegularSteps
import LC3.Proofs.TrapEndings

/-!
# What decides the outcome of a step

A step has one of eight outcomes, and their conditions overlap: the limit may be
reached while shutdown is requested, a program may halt on a console that is
broken, and a trap may fail in three places. What decides is the order of the
checks. First comes the limit, then the request for shutdown, which the poll just
made may have found; after the fetch the operation decides, and for a trap the
first of its parts that fails.

There is one equivalence for each outcome (`System.stepLimit_iff` and those after
it). Only those of a trap need the cases of `LC3.Proofs.TrapEndings`, and they
share one lemma that goes from the routine to the step (`System.trap_iff`).
`System.step_decided` puts them together.
-/

namespace LC3

/-- **An instruction that calls no trap** with a routine goes on, unless its
operation has no meaning. -/
theorem Instruction.outcome_of_not_calls {i : Instruction} (h : ∀ trap, ¬ i.Calls trap)
    (address : Word) :
    i.outcome address
      = if i.opcode = .rti ∨ i.opcode = .res then .fault (.reservedOpcode i.code address)
        else .running := by
  unfold outcome
  cases hopcode : i.opcode with
  | trap =>
    have hvector : Trap.ofVector? i.vector = none :=
      Option.eq_none_iff_forall_ne_some.2 fun trap hsome => h trap ⟨hopcode, hsome⟩
    rw [hvector]
    rfl
  | _ => rfl

namespace Machine

/-- The limit that is reached is the one that was set, and it is reached at any count
that is not below it. -/
theorem limitReached?_eq_some_iff (m : Machine) (limit : UInt64) :
    m.limitReached? = some limit ↔ m.config.maxSteps = some limit ∧ limit ≤ m.steps := by
  unfold limitReached?
  rw [Option.filter_eq_some_iff, decide_eq_true_iff]

/-- The step limit is reached. -/
def Limited (m : Machine) : Prop :=
  ∃ limit, m.config.maxSteps = some limit ∧ limit ≤ m.steps

/-- Where no limit is reached, the check for it finds none. -/
theorem not_limited_iff (m : Machine) : ¬ m.Limited ↔ m.limitReached? = none := by
  unfold Limited
  rw [Option.eq_none_iff_forall_ne_some]
  simp only [not_exists, ← limitReached?_eq_some_iff]

end Machine

namespace System

variable {κ ω : Type} [Keyboard κ] [Console ω] (s : System κ ω)

/-! ## Before the fetch

A step touches memory only if it fetches, so the touched addresses tell the two
interruptions apart: the one by a request that was found before the fetch, and
the one by a wait in vain behind it. The other outcomes need no such help. Each
equivalence below is read off the four ways in which a step can go
(`System.step_cases`). -/

/-- **The keyboard that is asked for shutdown:** it is polled first at the last of
4096 steps, unless such a poll failed. -/
def askedKeyboard : κ :=
  if s.machine.steps.toNat % 4096 = 4095 ∧ s.machine.pollFailed = false then
    (Keyboard.poll s.keyboard).keyboard
  else s.keyboard

/-- It is the keyboard after the poll between instructions. -/
theorem polled_keyboard_eq : s.polled.keyboard = s.askedKeyboard := by
  rw [polled_keyboard]
  exact if_congr s.machine.pollIsDue_iff rfl rfl

/-- **An instruction is executed** below the limit, without a request for shutdown,
and as long as steps can be counted. -/
theorem executes_iff :
    s.Executes ↔ ¬ s.machine.Limited ∧ Keyboard.requested s.askedKeyboard = false
      ∧ s.machine.steps ≠ Machine.maxCount := by
  rw [Machine.not_limited_iff, ← polled_keyboard_eq]
  exact ⟨fun h => ⟨h.unlimited, h.unrequested, h.countable⟩, fun h => ⟨h.1, h.2.1, h.2.2⟩⟩

variable {s}

/-- An executed instruction has an outcome of its own. -/
theorem ofInstruction_of_executes (h : s.Executes) : s.step.1.OfInstruction := by
  rw [step_of_executes h, effect_polled]
  exact (Core.ofInstruction_execute _ _ _ _).hold _ _

/-- It touches its own word at least. -/
theorem touches_ne_nil_of_executes (h : s.Executes) : s.touches ≠ [] := by
  obtain ⟨later, htouches, -⟩ := exists_touches h
  rw [htouches]
  exact List.cons_ne_nil _ _

variable (s)

/-- **The limit comes first.** -/
theorem stepLimit_iff (limit : UInt64) :
    s.step.1 = .fault (.stepLimit limit)
      ↔ s.machine.config.maxSteps = some limit ∧ limit ≤ s.machine.steps := by
  rw [← Machine.limitReached?_eq_some_iff]
  constructor
  · intro hstep
    obtain ⟨reached, hlimit⟩ | ⟨hlimit, hrequested⟩ | ⟨hlimit, hrequested, hfull⟩ | hexecutes :=
      s.step_cases
    · rw [step_of_limit hlimit] at hstep
      cases hstep
      exact hlimit
    · rw [step_of_requested hlimit hrequested] at hstep
      exact nomatch hstep
    · rw [step_of_full hlimit hrequested hfull] at hstep
      exact nomatch hstep
    · exact absurd hstep ((ofInstruction_of_executes hexecutes).ne_stepLimit limit)
  · intro hlimit
    rw [step_of_limit hlimit]

/-- **Then comes the request for shutdown**, before anything is fetched. -/
theorem interrupted_unfetched_iff :
    s.step.1 = .fault .interrupted ∧ s.touches = []
      ↔ ¬ s.machine.Limited ∧ Keyboard.requested s.askedKeyboard = true := by
  rw [Machine.not_limited_iff, ← polled_keyboard_eq]
  constructor
  · rintro ⟨hstep, htouches⟩
    obtain ⟨reached, hlimit⟩ | h | ⟨hlimit, hrequested, hfull⟩ | hexecutes := s.step_cases
    · rw [step_of_limit hlimit] at hstep
      exact nomatch hstep
    · exact h
    · rw [step_of_full hlimit hrequested hfull] at hstep
      exact nomatch hstep
    · exact absurd htouches (touches_ne_nil_of_executes hexecutes)
  · rintro ⟨hlimit, hrequested⟩
    exact ⟨by rw [step_of_requested hlimit hrequested], touches_of_requested hlimit hrequested⟩

/-- **A crash is a count that is used up.** -/
theorem crash_iff (violation : Violation) :
    s.step.1 = .crash violation
      ↔ ¬ s.machine.Limited ∧ Keyboard.requested s.askedKeyboard = false
        ∧ s.machine.steps = Machine.maxCount ∧ violation = .arithmetic := by
  rw [Machine.not_limited_iff, ← polled_keyboard_eq]
  constructor
  · intro hstep
    obtain ⟨reached, hlimit⟩ | ⟨hlimit, hrequested⟩ | ⟨hlimit, hrequested, hfull⟩ | hexecutes :=
      s.step_cases
    · rw [step_of_limit hlimit] at hstep
      exact nomatch hstep
    · rw [step_of_requested hlimit hrequested] at hstep
      exact nomatch hstep
    · rw [step_of_full hlimit hrequested hfull] at hstep
      cases hstep
      exact ⟨hlimit, hrequested, hfull, rfl⟩
    · exact absurd hstep ((ofInstruction_of_executes hexecutes).regular violation)
  · rintro ⟨hlimit, hrequested, hfull, rfl⟩
    rw [step_of_full hlimit hrequested hfull]

/-- **Every other outcome** is that of an instruction. -/
theorem executes_of_step (hinstruction : s.step.1.OfInstruction)
    (hfetched : s.step.1 ≠ .fault .interrupted ∨ s.touches ≠ []) : s.Executes := by
  obtain ⟨reached, hlimit⟩ | ⟨hlimit, hrequested⟩ | ⟨hlimit, hrequested, hfull⟩ | hexecutes :=
    s.step_cases
  · exact absurd (by rw [step_of_limit hlimit]) (hinstruction.ne_stepLimit reached)
  · obtain hstep | htouches := hfetched
    · exact absurd (by rw [step_of_requested hlimit hrequested]) hstep
    · exact absurd (touches_of_requested hlimit hrequested) htouches
  · exact absurd (by rw [step_of_full hlimit hrequested hfull]) (hinstruction.regular .arithmetic)
  · exact hexecutes

/-- **A step that goes on or halts** has executed an instruction: all that comes before
one ends in a fault or a crash. -/
theorem executes_of_running_or_halted (h : s.step.1 = .running ∨ s.step.1 = .halted) :
    s.Executes := by
  have hends : s.step.1.OfInstruction ∧ s.step.1 ≠ .fault .interrupted := by
    obtain h | h := h
    · rw [h]
      exact ⟨trivial, nofun⟩
    · rw [h]
      exact ⟨trivial, nofun⟩
  exact s.executes_of_step hends.1 (.inl hends.2)

/-! ## After the fetch

An instruction that calls no trap with a routine has its outcome whatever the
devices say. For the others the routine has ended in one of the ways of
`Trap.Ending`, and what decides between them carries over to the step. Both
cases are in `System.trap_iff`, and an outcome of a trap is then a case of it. -/

variable {s}

/-- **An operation without a meaning** ends the step, and nothing else ends it so. -/
theorem reservedOpcode_iff_of_executes (h : s.Executes) (code : UInt8) (address : Word) :
    s.step.1 = .fault (.reservedOpcode code address)
      ↔ (s.instruction.opcode = .rti ∨ s.instruction.opcode = .res)
        ∧ code = s.instruction.code ∧ address = s.machine.core.registers.pc := by
  by_cases hcalls : ∃ trap, s.instruction.Calls trap
  · obtain ⟨trap, hcalls⟩ := hcalls
    rw [hcalls.1]
    refine iff_of_false (fun hstep => ?_) (by simp)
    -- no routine ends in a reserved operation
    obtain h | h | h | ⟨e, h⟩ := (ending_step h hcalls).outcome_cases
    all_goals exact nomatch hstep.symm.trans h
  · rw [step_of_not_calls h (not_exists.1 hcalls),
      Instruction.outcome_of_not_calls (not_exists.1 hcalls)]
    by_cases hreserved : s.instruction.opcode = .rti ∨ s.instruction.opcode = .res
    · rw [if_pos hreserved]
      constructor
      · intro hstep
        cases hstep
        exact ⟨hreserved, rfl, rfl⟩
      · rintro ⟨-, rfl, rfl⟩
        rfl
    · rw [if_neg hreserved]
      exact iff_of_false nofun fun hall => hreserved hall.1

/-- **From the routine to the step:** what decides that a routine ends in an outcome
decides it for the step that calls the trap, and no other instruction ends so. -/
theorem trap_iff (h : s.Executes) (outcome : Outcome) {P : Trap → Prop}
    (hrunning : outcome ≠ .running)
    (hreserved : ∀ code address, outcome ≠ .fault (.reservedOpcode code address))
    (htrap : ∀ trap registers, trap.Ending s.machine.config s.fetchedCore s.askedKeyboard
      s.console s.step.1 registers → (s.step.1 = outcome ↔ P trap)) :
    s.step.1 = outcome ↔ ∃ trap, s.instruction.Calls trap ∧ P trap := by
  by_cases hcalls : ∃ trap, s.instruction.Calls trap
  · obtain ⟨trap, hcalls⟩ := hcalls
    have hend := ending_step h hcalls
    rw [polled_keyboard_eq] at hend
    rw [htrap trap _ hend]
    constructor
    · intro hP
      exact ⟨trap, hcalls, hP⟩
    · rintro ⟨trap', hcalls', hP⟩
      -- an instruction calls one trap at most
      cases Option.some.inj (hcalls.2.symm.trans hcalls'.2)
      exact hP
  · refine iff_of_false (fun hstep => ?_) fun ⟨trap, htrap, _⟩ => hcalls ⟨trap, htrap⟩
    rw [step_of_not_calls h (not_exists.1 hcalls),
      Instruction.outcome_of_not_calls (not_exists.1 hcalls)] at hstep
    split at hstep
    · exact hreserved _ _ hstep.symm
    · exact hrunning hstep.symm

/-- **A program halts** by the trap for it, if the console takes the notice. -/
theorem halted_iff_of_executes (h : s.Executes) :
    s.step.1 = .halted
      ↔ s.instruction.Calls .halt ∧ (s.machine.config.haltNotice = false
        ∨ (Console.say s.console haltNotice.toUTF8.toList).1 = .ok ()) := by
  have hsaid : (Trap.halt.said s.machine.config s.fetchedCore s.askedKeyboard s.console).1
        = .ok () ↔ s.machine.config.haltNotice = false
      ∨ (Console.say s.console haltNotice.toUTF8.toList).1 = .ok () := by
    unfold Trap.said Trap.message?
    cases s.machine.config.haltNotice <;> simp
  rw [← hsaid]
  refine (trap_iff h .halted nofun nofun fun _ _ hend => hend.halted_iff).trans ?_
  constructor
  · rintro ⟨trap, hcalls, rfl, hsaid⟩
    exact ⟨hcalls, hsaid⟩
  · rintro ⟨hcalls, hsaid⟩
    exact ⟨.halt, hcalls, rfl, hsaid⟩

/-- **A wait in vain** interrupts the step. -/
theorem interrupted_iff_of_executes (h : s.Executes) :
    s.step.1 = .fault .interrupted
      ↔ (s.instruction.Calls .getC ∨ s.instruction.Calls .input
          ∧ (Console.say s.console s.machine.config.prompt.toUTF8.toList).1 = .ok ())
        ∧ (Keyboard.wait s.askedKeyboard).answer = .ok none := by
  refine (trap_iff h (.fault .interrupted) nofun nofun fun _ _ hend =>
    hend.interrupted_iff).trans ?_
  constructor
  · rintro ⟨trap, hcalls, rfl | rfl, hsaid, hwait⟩
    · exact ⟨.inl hcalls, hwait⟩
    · exact ⟨.inr ⟨hcalls, hsaid⟩, hwait⟩
  · rintro ⟨hcalls | ⟨hcalls, hsaid⟩, hwait⟩
    · exact ⟨.getC, hcalls, .inl rfl, rfl, hwait⟩
    · exact ⟨.input, hcalls, .inr rfl, hsaid, hwait⟩

/-- **A trap that fails** ends the step with what the device says. -/
theorem device_iff_of_executes (h : s.Executes) (e : DeviceError) :
    s.step.1 = .fault (.device e)
      ↔ ∃ trap, s.instruction.Calls trap
        ∧ trap.FailsWith s.machine.config s.fetchedCore s.askedKeyboard s.console e :=
  trap_iff h _ nofun nofun fun _ _ hend => hend.device_iff e

/-- **What goes on has none of the other outcomes.** Of an executed instruction these
are four: the limit and the crash are decided before. -/
theorem running_iff_of_executes (h : s.Executes) :
    s.step.1 = .running
      ↔ (∀ code address, s.step.1 ≠ .fault (.reservedOpcode code address))
        ∧ s.step.1 ≠ .halted ∧ s.step.1 ≠ .fault .interrupted
        ∧ ∀ e, s.step.1 ≠ .fault (.device e) := by
  have hinstruction := ofInstruction_of_executes h
  constructor
  · intro hstep
    rw [hstep]
    exact ⟨nofun, nofun, nofun, nofun⟩
  · rintro ⟨hreserved, hhalted, hinterrupted, hdevice⟩
    match hstep : s.step.1 with
    | .running => rfl
    | .halted => exact absurd hstep hhalted
    | .fault (.reservedOpcode code address) => exact absurd hstep (hreserved code address)
    | .fault .interrupted => exact absurd hstep hinterrupted
    | .fault (.device e) => exact absurd hstep (hdevice e)
    | .fault (.stepLimit limit) => exact absurd hstep (hinstruction.ne_stepLimit limit)
    | .crash violation => exact absurd hstep (hinstruction.regular violation)

/-! ## All outcomes

What is left is to say the conditions in terms of the fetched word, its top four
bits and its vector, and to put the equivalences side by side. -/

variable (s)

/-- **Polling is given up** when a poll between two instructions fails, and stays
given up. -/
theorem pollFailed_next_iff :
    s.next.machine.pollFailed = true
      ↔ s.machine.pollFailed = true
        ∨ ¬ s.machine.Limited ∧ s.machine.steps.toNat % 4096 = 4095
          ∧ ∃ e, (Keyboard.poll s.keyboard).answer = .error e := by
  rw [Machine.not_limited_iff]
  cases hlimit : s.machine.limitReached? with
  | some limit =>
    unfold next
    rw [step_of_limit hlimit]
    simp
  | none =>
    rw [pollFailed_next hlimit]
    -- a poll that is not made fails as little as one that succeeds
    by_cases hdue : s.machine.PollIsDue
    · obtain ⟨hcount, hgoes⟩ := s.machine.pollIsDue_iff.1 hdue
      unfold polled
      cases hanswer : (Keyboard.poll s.keyboard).answer with
      | ok found =>
        rw [Machine.hold_pollBetween_of_ok hdue _ hanswer]
        simp
      | error e =>
        rw [Machine.hold_pollBetween_of_error hdue _ hanswer]
        simp [hcount]
    · rw [polled_of_not_due hdue]
      rw [Machine.pollIsDue_iff] at hdue
      cases hfailed : s.machine.pollFailed with
      | true => simp
      | false => simp [show s.machine.steps.toNat % 4096 ≠ 4095 from fun h => hdue ⟨h, hfailed⟩]

/-- **The outcome of a step is decided exactly**, for every machine and all
devices, by the first of these that is the case. The limit is reached; shutdown
was requested, up to a poll that is made at the last of 4096 steps unless such a
poll failed before; the count of steps is used up. Otherwise an instruction was
fetched, and the step is not left running if and only if its operation has no
meaning, or it is a trap that halts, or waits in vain, or fails with what a device
says. -/
theorem step_decided {κ ω : Type} [Keyboard κ] [Console ω] (s : System κ ω) :
    let w := s.polled.fetched.value.1
    let pc := s.machine.core.registers.pc
    let k := s.askedKeyboard
    let executes := ¬ s.machine.Limited ∧ Keyboard.requested k = false
      ∧ s.machine.steps ≠ Machine.maxCount
    let calls (vector : Nat) := w.bits 12 4 = 15 ∧ w.bits 0 8 = vector
    let takes (text : String) := (Console.say s.console text.toUTF8.toList).1 = .ok ()
    let reserved := w.bits 12 4 = 8 ∨ w.bits 12 4 = 13
    let halts := calls 0x25 ∧ (s.machine.config.haltNotice = false ∨ takes haltNotice)
    let inVain := (calls 0x20 ∨ calls 0x23 ∧ takes s.machine.config.prompt)
      ∧ (Keyboard.wait k).answer = .ok none
    let fails (e : DeviceError) := ∃ trap : Trap, calls trap.vector
      ∧ trap.FailsWith s.machine.config s.fetchedCore k s.console e
    (∀ limit, s.step.1 = .fault (.stepLimit limit)
        ↔ s.machine.config.maxSteps = some limit ∧ limit ≤ s.machine.steps)
      ∧ (s.step.1 = .fault .interrupted ∧ s.touches = []
        ↔ ¬ s.machine.Limited ∧ Keyboard.requested k = true)
      ∧ (∀ violation, s.step.1 = .crash violation
        ↔ ¬ s.machine.Limited ∧ Keyboard.requested k = false
          ∧ s.machine.steps = Machine.maxCount ∧ violation = .arithmetic)
      ∧ (∀ code address, s.step.1 = .fault (.reservedOpcode code address)
        ↔ executes ∧ reserved ∧ code.toNat = w.bits 12 4 ∧ address = pc)
      ∧ (s.step.1 = .halted ↔ executes ∧ halts)
      ∧ (s.step.1 = .fault .interrupted ∧ s.touches ≠ [] ↔ executes ∧ inVain)
      ∧ (∀ e, s.step.1 = .fault (.device e) ↔ executes ∧ fails e)
      ∧ (s.step.1 = .running
        ↔ executes ∧ ¬ reserved ∧ ¬ halts ∧ ¬ inVain ∧ ∀ e, ¬ fails e)
      ∧ (s.next.machine.pollFailed = true
        ↔ s.machine.pollFailed = true
          ∨ ¬ s.machine.Limited ∧ s.machine.steps.toNat % 4096 = 4095
            ∧ ∃ e, (Keyboard.poll s.keyboard).answer = .error e) := by
  intro w pc k executes calls takes reserved halts inVain fails
  have hcalls : ∀ trap, s.instruction.Calls trap ↔ calls trap.vector :=
    Instruction.calls_ofWord_iff w
  have hmeaning : (s.instruction.opcode = .rti ∨ s.instruction.opcode = .res) ↔ reserved :=
    or_congr (Instruction.opcode_ofWord_iff w .rti) (Instruction.opcode_ofWord_iff w .res)
  have hcode : ∀ code, code = s.instruction.code ↔ code.toNat = w.bits 12 4 := by
    intro code
    rw [← UInt8.toNat_inj]
    exact Eq.congr rfl (UInt8.toNat_ofNat_of_lt ((w.bits_lt 12 4).trans (by decide)))
  have hhalts : s.Executes → (s.step.1 = .halted ↔ halts) := fun h => by
    rw [halted_iff_of_executes h, hcalls]
    exact Iff.rfl
  have hinVain : s.Executes → (s.step.1 = .fault .interrupted ↔ inVain) := fun h => by
    rw [interrupted_iff_of_executes h, hcalls, hcalls]
    exact Iff.rfl
  have hfails : s.Executes → ∀ e, s.step.1 = .fault (.device e) ↔ fails e := fun h e => by
    rw [device_iff_of_executes h]
    exact exists_congr fun trap => and_congr_left' (hcalls trap)
  -- an outcome that only instructions have is decided where one is executed
  have hexecuted : ∀ {p q : Prop}, (p → s.Executes) → (s.Executes → (p ↔ q))
      → (p ↔ executes ∧ q) := by
    intro p q hp hiff
    rw [show executes ↔ s.Executes from s.executes_iff.symm]
    exact ⟨fun h => ⟨hp h, (hiff (hp h)).1 h⟩, fun ⟨h, hq⟩ => (hiff h).2 hq⟩
  refine ⟨s.stepLimit_iff, s.interrupted_unfetched_iff, s.crash_iff, fun code address => ?_,
    ?_, ?_, fun e => ?_, ?_, s.pollFailed_next_iff⟩
  · refine hexecuted (fun hstep => s.executes_of_step (hstep ▸ trivial) (.inl (hstep ▸ nofun)))
      fun h => ?_
    rw [reservedOpcode_iff_of_executes h, hmeaning, hcode]
  · exact hexecuted (fun hstep => s.executes_of_running_or_halted (.inr hstep)) hhalts
  · refine hexecuted (fun ⟨hstep, htouches⟩ => s.executes_of_step (hstep ▸ trivial)
      (.inr htouches)) fun h => ?_
    rw [and_iff_left (touches_ne_nil_of_executes h), hinVain h]
  · exact hexecuted (fun hstep => s.executes_of_step (hstep ▸ trivial) (.inl (hstep ▸ nofun)))
      fun h => hfails h e
  · refine hexecuted (fun hstep => s.executes_of_running_or_halted (.inl hstep)) fun h => ?_
    rw [running_iff_of_executes h, Ne, hhalts h, Ne, hinVain h]
    simp only [Ne, hfails h, reservedOpcode_iff_of_executes h, hmeaning]
    refine and_congr_left' ⟨fun hnone hreserved => ?_, fun hmeans _ _ hall => hmeans hall.1⟩
    exact hnone _ _ ⟨hreserved, rfl, rfl⟩

end System

end LC3
