import Mathlib.Data.Nat.Find
import LC3.CommandLine.Program
import LC3.Proofs.PipedInput
import LC3.Proofs.ProgramImages
import LC3.Proofs.RegularSteps
import LC3.Proofs.StepOutcomes

/-!
# What the exit code tells

The program exits with a code for why it stopped. With input from a pipe, and
with a console that takes everything, nothing goes wrong with the devices, and
so a run under a step limit ends in one of two ways only. Either some
instruction stops it: a halt, an operation without a meaning, or a trap that
waits for a character when all input was consumed (`Instruction.stop?`). Or
there is none among as many instructions as the limit allows.

Which of them comes first is a question about single steps, since a step that
is neither at the limit nor stopped by its instruction leaves everything ready
for the next one (`System.Steady.after`). The loader decides the rest: an image
that does not fit is refused before anything is run, with a code of its own.
`Program.report_tells_why` puts this together for the whole program, whatever
else is among its arguments.
-/

namespace LC3

open Image (Fits origin body)
open Exchange (delivered written)

/-! ## Instructions that stop a run

With a keyboard and a console that do not fail, an instruction alone decides
whether the run goes on, but for a wait: there it counts whether all input was
consumed. So `Instruction.stop?` needs no more than that. The limit is not its
business. -/

/-- **The exit code of a run that ends with an instruction:** one for a halt,
one for an operation without a meaning, and one for a wait when all input was
consumed. No other instruction stops a run. -/
def Instruction.stop? (consumed : Bool) (i : Instruction) : Option UInt8 :=
  if i.Calls .halt then some 0
  else if i.opcode = .rti ∨ i.opcode = .res then some 3
  else if i.Awaits ∧ consumed then some 130
  else none

/-- The exit code goes with the outcome of the instruction. -/
theorem Instruction.stop?_eq (address : Word) (consumed : Bool) (i : Instruction) :
    i.stop? consumed
      = (let outcome : Outcome :=
          if i.Awaits ∧ consumed then .fault .interrupted else i.outcome address
        if outcome = .running then none else some outcome.exitCode) := by
  by_cases htrap : i.opcode = .trap
  · cases hvector : Trap.ofVector? i.vector with
    | none => simp [stop?, Awaits, Calls, outcome, htrap, hvector]
    | some trap =>
      -- each routine has one outcome, and two of them one more when the input is
      -- consumed
      cases trap <;> cases consumed <;>
        simp [stop?, Awaits, Calls, outcome, htrap, hvector, Trap.outcome, Outcome.exitCode]
  · cases hopcode : i.opcode with
    | trap => exact absurd hopcode htrap
    | rti | res => simp [stop?, Awaits, Calls, outcome, hopcode, Outcome.exitCode]
    | _ => simp [stop?, Awaits, Calls, outcome, hopcode]

/-- There are three such codes. -/
theorem Instruction.mem_of_stop? {i : Instruction} {consumed : Bool} {code : UInt8}
    (h : i.stop? consumed = some code) : code ∈ [0, 3, 130] := by
  unfold stop? at h
  split_ifs at h <;> cases h <;> decide

/-! ## Runs under a limit

A limit is a number that can be counted to, so a run that is limited never comes
to the end of the count (`limitReached?_after`). The induction in `Steady.after`
carries three facts together, since each step needs all of them: the run goes
on, the devices are in order, and the count is the number of steps. -/

namespace System

open Delivers (Sound unread)

variable {κ : Type} [Delivers κ]

/-- **The exit code of a run that ends with the next step**, as far as its
instruction ends it. -/
def stops? (s : System κ Collector) : Option UInt8 :=
  s.instruction.stop? (unread s.keyboard = [])

variable {s : System κ Collector}

/-- All input was consumed when nothing is left to read. -/
theorem stops?_after (h : Sound s.keyboard) (n : Nat) :
    (s.after n).stops?
      = (s.after n).instruction.stop? (delivered (s.trace n) = unread s.keyboard) := by
  obtain ⟨-, hdelivered⟩ := hands_after h n
  have hconsumed : unread (s.after n).keyboard = []
      ↔ delivered (s.trace n) = unread s.keyboard := by
    rw [← hdelivered]
    exact List.self_eq_append_right.symm
  unfold stops?
  rw [decide_eq_decide.2 hconsumed]

/-- A step that may be made and counted ends a run if its instruction does. -/
theorem Steady.stops?_eq (h : s.Steady) (hlimit : s.machine.limitReached? = none)
    (hleft : s.machine.steps ≠ Machine.maxCount) :
    s.stops? = if s.step.1 = .running then none else some s.step.1.exitCode := by
  obtain ⟨houtcome, -⟩ := h.step_eq hlimit hleft
  unfold stops?
  rw [Instruction.stop?_eq s.machine.core.registers.pc, houtcome]
  simp only [decide_eq_true_eq]

/-- **What is written in some steps** is what is written in each of them. -/
theorem written_trace {κ ω : Type} [Keyboard κ] [Console ω] (s : System κ ω) (n : Nat) :
    written (s.trace n) = (List.range n).flatMap fun i => written (s.after i).step.2.2 := by
  induction n with
  | zero => rfl
  | succ n ih =>
    rw [trace_succ', Exchange.written_append, ih, List.range_succ, List.flatMap_append,
      List.flatMap_singleton]

variable {limit : UInt64}

/-- **Below the limit** a step may be made and counted. -/
theorem limitReached?_after (hlimit : s.machine.config.maxSteps = some limit) {n : Nat}
    (hsteps : (s.after n).machine.steps.toNat = n) (hn : n < limit.toNat) :
    (s.after n).machine.limitReached? = none
      ∧ (s.after n).machine.steps ≠ Machine.maxCount := by
  have hmax : (s.after n).machine.config.maxSteps = some limit :=
    (congrArg Config.maxSteps (s.config_after n)).trans hlimit
  have hreached : (s.after n).machine.limitReached? = none := by
    rw [Machine.limitReached?_eq hmax, hsteps]
    exact if_neg (Nat.not_le_of_lt hn)
  have hroom : (s.after n).machine.HasRoom := .inr fun hnone => nomatch hmax.symm.trans hnone
  exact ⟨hreached, hroom.steps_ne hreached⟩

/-- **As long as no instruction stops the run** it goes on, with nothing wrong
with the devices. -/
theorem Steady.after (h : s.Steady) (hlimit : s.machine.config.maxSteps = some limit)
    (hzero : s.machine.steps = 0) {n : Nat} (hn : n ≤ limit.toNat)
    (hgo : ∀ i < n, (s.after i).stops? = none) :
    s.RunsFor n ∧ (s.after n).Steady ∧ (s.after n).machine.steps.toNat = n := by
  induction n with
  | zero => exact ⟨nofun, h, congrArg UInt64.toNat hzero⟩
  | succ n ih =>
    obtain ⟨hruns, hsteady, hsteps⟩ := ih (Nat.le_of_succ_le hn) fun i hi =>
      hgo i (Nat.lt_succ_of_lt hi)
    obtain ⟨hreached, hleft⟩ := limitReached?_after hlimit hsteps hn
    have hrunning : (s.after n).step.1 = .running := by
      -- a step that is not left running was stopped by its instruction, which is
      -- excluded
      by_contra hne
      have hstops := (hsteady.stops?_eq hreached hleft).symm.trans (hgo n (Nat.lt_succ_self n))
      rw [if_neg hne] at hstops
      exact nomatch hstops
    rw [after_succ']
    refine ⟨fun i hi => ?_, hsteady.next hrunning, ?_⟩
    · obtain hlt | rfl := Nat.lt_or_eq_of_le (Nat.le_of_lt_succ hi)
      · exact hruns i hlt
      · exact hrunning
    · rw [steps_next hrunning, hsteps]

/-- An instruction below the limit is executed. -/
theorem Steady.executed (h : s.Steady) (hlimit : s.machine.config.maxSteps = some limit)
    (hzero : s.machine.steps = 0) {n : Nat} (hn : n < limit.toNat)
    (hgo : ∀ i < n, (s.after i).stops? = none) :
    .reported (.executed (s.after n).machine.core.registers.pc (s.after n).instruction)
        ∈ (s.after n).step.2.2
      ∧ (s.after (n + 1)).machine.steps.toNat = n + 1 := by
  obtain ⟨-, hsteady, hsteps⟩ := h.after hlimit hzero (Nat.le_of_lt hn) hgo
  obtain ⟨hreached, hleft⟩ := limitReached?_after hlimit hsteps hn
  obtain ⟨-, hcounted, hexecuted⟩ := hsteady.step_eq hreached hleft
  refine ⟨hexecuted, ?_⟩
  rw [after_succ', hcounted, Machine.toNat_count_add_one hleft, hsteps]

/-- **A run that an instruction stops** ends with this instruction, and with its
exit code. -/
theorem Steady.run_of_stops (h : s.Steady) (hlimit : s.machine.config.maxSteps = some limit)
    (hzero : s.machine.steps = 0) {n : Nat} (hn : n < limit.toNat)
    (hgo : ∀ i < n, (s.after i).stops? = none) (hstops : (s.after n).stops? ≠ none) :
    (s.after n).stops? = some s.run.1.exitCode ∧ s.run.2.1 = s.after (n + 1) := by
  obtain ⟨hruns, hsteady, hsteps⟩ := h.after hlimit hzero (Nat.le_of_lt hn) hgo
  obtain ⟨hreached, hleft⟩ := limitReached?_after hlimit hsteps hn
  have heq := hsteady.stops?_eq hreached hleft
  have hends : (s.after n).step.1 ≠ .running := by
    intro hrunning
    rw [if_pos hrunning] at heq
    exact hstops heq
  obtain ⟨houtcome, hsystem⟩ := run_eq_after hruns hends
  rw [heq, if_neg hends, houtcome]
  exact ⟨rfl, hsystem⟩

/-- **A run that no instruction stops** ends at the limit. -/
theorem Steady.run_of_limit (h : s.Steady) (hlimit : s.machine.config.maxSteps = some limit)
    (hzero : s.machine.steps = 0) (hgo : ∀ i < limit.toNat, (s.after i).stops? = none) :
    s.run.1 = .fault (.stepLimit limit) ∧ s.run.2.1 = s.after limit.toNat := by
  obtain ⟨hruns, -, hsteps⟩ := h.after hlimit hzero (Nat.le_refl _) hgo
  have hmax : (s.after limit.toNat).machine.config.maxSteps = some limit :=
    (congrArg Config.maxSteps (s.config_after _)).trans hlimit
  have hreached : (s.after limit.toNat).machine.limitReached? = some limit := by
    rw [Machine.limitReached?_eq hmax, hsteps]
    exact if_pos (Nat.le_refl _)
  have hstep := step_of_limit hreached
  obtain ⟨houtcome, hsystem⟩ := run_eq_after hruns (by rw [hstep]; nofun)
  rw [houtcome, hsystem, after_succ', System.next, hstep]
  exact ⟨rfl, rfl⟩

/-- **What ends a run under a limit:** the first instruction that stops it, or
the limit after as many instructions. -/
theorem Steady.exists_run (h : s.Steady) (hlimit : s.machine.config.maxSteps = some limit)
    (hzero : s.machine.steps = 0) :
    ∃ n ≤ limit.toNat, s.run.2.1.console = (s.after n).console
      ∧ s.run.2.1.machine.steps.toNat = n
      ∧ (∀ i < n, .reported (.executed (s.after i).machine.core.registers.pc
        (s.after i).instruction) ∈ (s.after i).step.2.2)
      ∧ ((∃ i, n = i + 1 ∧ (s.after i).stops? = some s.run.1.exitCode
          ∧ ∀ j < i, (s.after j).stops? = none)
        ∨ n = limit.toNat ∧ s.run.1.exitCode = 4 ∧ ∀ j < n, (s.after j).stops? = none) := by
  by_cases hstops : ∃ i, i < limit.toNat ∧ (s.after i).stops? ≠ none
  · obtain ⟨hlt, hfirst⟩ := Nat.find_spec hstops
    have hgo : ∀ j < Nat.find hstops, (s.after j).stops? = none := fun j hj =>
      Classical.not_not.1 fun hne => Nat.find_min hstops hj ⟨hj.trans hlt, hne⟩
    obtain ⟨hcode, hsystem⟩ := h.run_of_stops hlimit hzero hlt hgo hfirst
    obtain ⟨-, hsteps⟩ := h.executed hlimit hzero hlt hgo
    refine ⟨Nat.find hstops + 1, hlt, ?_, ?_, fun i hi => ?_, .inl ⟨_, rfl, hcode, hgo⟩⟩
    · rw [hsystem]
    · rw [hsystem, hsteps]
    · have hle := Nat.le_of_lt_succ hi
      exact (h.executed hlimit hzero (Nat.lt_of_le_of_lt hle hlt) fun j hj =>
        hgo j (Nat.lt_of_lt_of_le hj hle)).1
  · have hgo : ∀ j < limit.toNat, (s.after j).stops? = none := fun j hj =>
      Classical.not_not.1 fun hne => hstops ⟨j, hj, hne⟩
    obtain ⟨houtcome, hsystem⟩ := h.run_of_limit hlimit hzero hgo
    obtain ⟨-, -, hsteps⟩ := h.after hlimit hzero (Nat.le_refl _) hgo
    refine ⟨limit.toNat, Nat.le_refl _, ?_, ?_, fun i hi => ?_, .inr ⟨rfl, ?_, hgo⟩⟩
    · rw [hsystem]
    · rw [hsystem, hsteps]
    · exact (h.executed hlimit hzero hi fun j hj => hgo j (hj.trans hi)).1
    · rw [houtcome]
      rfl

end System

/-! ## The program

What is left is to follow the program from its arguments to the run: which file
is read, whether it fits, and that the run is made with the settings that were
asked for, on a stream that delivers the input. -/

namespace Program

/-- **The system that the program runs** when it has loaded an image. -/
def started (a : Arguments) (image input : List UInt8) : System Stream Collector :=
  ⟨{ Machine.initial.placing (origin image) (body image) with config := settings a },
    { steps := input.map .byte }, {}⟩

/-- A stream of bytes has no failures in it, and a new console takes everything. -/
theorem steady_started (a : Arguments) (image input : List UInt8) :
    (started a image input).Steady where
  sound e hmem := by
    obtain ⟨b, -, h⟩ := List.mem_map.1 hmem
    exact nomatch h
  requested := rfl
  wide := ⟨rfl, rfl⟩

/-- Loading an image on its own is loading it as a system. -/
theorem hold_loaded {image input : List UInt8} {answer : Except LoadError Unit}
    {s : System Stream Collector} {exchanges : List Exchange}
    (h : System.act ⟨Machine.initial, { steps := input.map .byte }, {}⟩
      (Machine.loadImage · image) = (answer, s, exchanges)) :
    (loaded image).hold ({ steps := input.map .byte } : Stream) ({} : Collector)
      = ⟨(answer, s.machine), s.keyboard, s.console, .reported .streamInput :: exchanges⟩ := by
  unfold System.act at h
  dsimp only at h
  cases h
  rfl

/-- **An image that fits is run.** -/
theorem execute_of_fits (a : Arguments) (filter : LogFilter) {image : List UInt8}
    (h : Fits image) (input : List UInt8) :
    (execute a filter image input).code = (started a image input).run.1.exitCode
      ∧ (execute a filter image input).output = (started a image input).run.2.1.console.bytes := by
  have hloaded := hold_loaded (System.act_loadImage_of_fits
    ⟨Machine.initial, ({ steps := input.map .byte } : Stream), ({} : Collector)⟩ h)
  unfold execute
  dsimp only
  rw [hloaded]
  dsimp only
  rw [System.runWith_eq_foldl]
  exact ⟨rfl, rfl⟩

/-- **An image that does not fit is refused**, with nothing written. -/
theorem execute_of_not_fits (a : Arguments) (filter : LogFilter) {image : List UInt8}
    (h : ¬ Fits image) (input : List UInt8) :
    (execute a filter image input).code = 1 ∧ (execute a filter image input).output = #[] := by
  cases hact : System.act ⟨Machine.initial, ({ steps := input.map .byte } : Stream),
      ({} : Collector)⟩ (Machine.loadImage · image) with
  | mk answer rest =>
    obtain ⟨s, exchanges⟩ := rest
    unfold execute
    dsimp only
    rw [hold_loaded hact]
    cases answer with
    | error e => exact ⟨rfl, rfl⟩
    | ok => exact absurd (System.fits_of_act_loadImage (congrArg (·.1) hact)) h

/-- What the program starts with is unread. -/
theorem unread_started (a : Arguments) (image input : List UInt8) :
    Delivers.unread (started a image input).keyboard = input := by
  show Stream.text (input.map .byte) = input
  induction input with
  | nil => rfl
  | cons b rest ih => exact congrArg (b :: ·) ih

/-- **The exit code tells why the program stopped.** With a step limit it is one
of five. It is 1, with nothing written, exactly for an image that does not fit.
Otherwise the program executes some instructions, as many as the limit allows
at most, and writes what their traps write. The last of them is the first that
stops the run, and the code is the one that goes with it; or there is none among
as many instructions as the limit allows, and the code is 4. -/
theorem report_tells_why {given : Given} {name : String} {a : Arguments} {image : List UInt8}
    {limit : UInt64} (harguments : Arguments.understand given.arguments = .ok (name, a))
    (hfile : given.file name = .ok image) (hlimit : a.maxSteps = some limit) :
    let traces := report given
    let s := started a image given.input
    let stops? (i : Nat) : Option UInt8 :=
      (s.after i).instruction.stop? (delivered (s.trace i) = given.input)
    traces.code ∈ [0, 1, 3, 4, 130]
      ∧ ((traces.code = 1 ∧ traces.output = #[]) ↔ ¬ Fits image)
      ∧ (Fits image → ∃ n ≤ limit.toNat,
        s.run.2.1.machine.steps.toNat = n
          ∧ (∀ i < n, .reported (.executed (s.after i).machine.core.registers.pc
            (s.after i).instruction) ∈ (s.after i).step.2.2)
          ∧ traces.output.toList
            = (List.range n).flatMap (fun i => written (s.after i).step.2.2)
          ∧ (∀ i < n, (s.after i).instruction.opcode ≠ .trap →
            written (s.after i).step.2.2 = [])
          ∧ ((∃ i, n = i + 1 ∧ stops? i = some traces.code ∧ ∀ j < i, stops? j = none)
            ∨ n = limit.toNat ∧ traces.code = 4 ∧ ∀ j < n, stops? j = none)) := by
  intro traces s stops?
  have htraces : traces
      = execute a (LogFilter.choose a.verbosity given.logFilter) image given.input := by
    show report given = _
    unfold report
    rw [harguments]
    dsimp only
    rw [hfile]
  have hsteady : s.Steady := steady_started a image given.input
  have hstops : ∀ i, (s.after i).stops? = stops? i := by
    intro i
    rw [System.stops?_after hsteady.sound]
    show _ = (s.after i).instruction.stop? (delivered (s.trace i) = given.input)
    rw [unread_started]
  -- whether the image fits is decided by the loader alone, before the first instruction
  by_cases hfits : Fits image
  · obtain ⟨hcode, houtput⟩ := execute_of_fits a
      (LogFilter.choose a.verbosity given.logFilter) hfits given.input
    rw [← htraces] at hcode houtput
    obtain ⟨n, hn, hconsole, hsteps, hexecuted, hend⟩ := hsteady.exists_run hlimit rfl
    have hwritten : traces.output.toList
        = (List.range n).flatMap (fun i => written (s.after i).step.2.2) := by
      obtain ⟨-, hbytes⟩ := System.wide_after hsteady.wide n
      rw [houtput, ← System.written_trace]
      exact (congrArg (·.bytes.toList) hconsole).trans hbytes
    have hend' : (∃ i, n = i + 1 ∧ stops? i = some traces.code ∧ ∀ j < i, stops? j = none)
        ∨ n = limit.toNat ∧ traces.code = 4 ∧ ∀ j < n, stops? j = none := by
      simp only [hstops] at hend
      rw [hcode]
      exact hend
    have hmem : traces.code ∈ [0, 3, 130, 4] := by
      obtain ⟨i, -, hstop, -⟩ | ⟨-, hfour, -⟩ := hend'
      · exact List.mem_append_left [4] (Instruction.mem_of_stop? hstop)
      · rw [hfour]
        decide
    have hcodes : ∀ code ∈ ([0, 3, 130, 4] : List UInt8),
        code ∈ ([0, 1, 3, 4, 130] : List UInt8) ∧ code ≠ 1 := by
      intro code hcode
      simp only [List.mem_cons, List.not_mem_nil, or_false] at hcode
      obtain rfl | rfl | rfl | rfl := hcode <;> decide
    obtain ⟨hfive, hne⟩ := hcodes _ hmem
    exact ⟨hfive, ⟨fun hone => absurd hone.1 hne, fun hnot => absurd hfits hnot⟩, fun _ =>
      ⟨n, hn, hsteps, hexecuted, hwritten, fun i _ => System.written_step_of_ne_trap, hend'⟩⟩
  · obtain ⟨hcode, houtput⟩ := execute_of_not_fits a
      (LogFilter.choose a.verbosity given.logFilter) hfits given.input
    rw [← htraces] at hcode houtput
    refine ⟨?_, ⟨fun _ => hfits, fun _ => ⟨hcode, houtput⟩⟩, fun h => absurd h hfits⟩
    rw [hcode]
    decide

/-- The program is given an image that halts at once, and allowed one
instruction. -/
def haltsAtOnce : Given where
  arguments := ["halt.obj", "--max-steps", "1"]
  logFilter := none
  file _ := .ok [0x30, 0x00, 0xF0, 0x25]
  input := []

/-- What is made of the arguments. -/
def haltsAtOnceArguments : Arguments := { image := some "halt.obj", maxSteps := some 1 }

/-- Its one step fetches the halt, and gives the notice. -/
theorem step_haltsAtOnce :
    let s := started haltsAtOnceArguments [0x30, 0x00, 0xF0, 0x25] haltsAtOnce.input
    s.instruction = .ofWord 0xF025
      ∧ written s.step.2.2 = [0x0A, 0x50, 0x72, 0x6F, 0x67, 0x72, 0x61, 0x6D, 0x20, 0x68, 0x61,
        0x6C, 0x74, 0x65, 0x64, 0x0A] := by
  intro s
  have hpeek : s.machine.core.memory.peek 0x3000 = 0xF025 :=
    (Machine.initial.loaded_placing (by decide)).inside 0 (by decide)
  have hread : s.machine.core.memory.read s.machine.core.registers.pc
      = .done (0xF025, s.machine.core.memory) := by
    rw [Memory.read_eq_done _ (by decide) (by decide)]
    exact congrArg (fun w => Dialogue.done (w, s.machine.core.memory)) hpeek
  refine ⟨System.instruction_of_cell (by decide) hread, ?_⟩
  have hexecute (core : Core) :
      core.execute s.machine.config s.machine.core.registers.pc (.ofWord 0xF025)
        = Trap.print core haltNotice.toUTF8.toList .halted := rfl
  rw [System.step_of_cell rfl (by decide) rfl (by decide) hread]
  dsimp only
  rw [hexecute, toUTF8_haltNotice]
  rfl

/-- The last instruction that the limit allows may halt, and what it writes is all that is
written. -/
theorem report_tells_why_haltsAtOnce :
    Arguments.understand haltsAtOnce.arguments = .ok ("halt.obj", haltsAtOnceArguments)
      ∧ haltsAtOnce.file "halt.obj" = .ok [0x30, 0x00, 0xF0, 0x25]
      ∧ haltsAtOnceArguments.maxSteps = some 1
      ∧ (report haltsAtOnce).code = 0
      ∧ (report haltsAtOnce).output.toList = [0x0A, 0x50, 0x72, 0x6F, 0x67, 0x72, 0x61, 0x6D,
        0x20, 0x68, 0x61, 0x6C, 0x74, 0x65, 0x64, 0x0A] := by
  have harguments : Arguments.understand haltsAtOnce.arguments
      = .ok ("halt.obj", haltsAtOnceArguments) := by decide
  have hfits : Fits [0x30, 0x00, 0xF0, 0x25] := ⟨rfl, by decide, by decide⟩
  obtain ⟨hinstruction, hwritten⟩ := step_haltsAtOnce
  have hstop : (started haltsAtOnceArguments [0x30, 0x00, 0xF0, 0x25]
      haltsAtOnce.input).instruction.stop? true = some 0 := by
    rw [hinstruction]
    decide
  obtain ⟨-, -, hrun⟩ := report_tells_why harguments rfl rfl
  obtain ⟨n, hn, -, -, houtput, -, ⟨i, rfl, hcode, -⟩ | ⟨rfl, -, hgo⟩⟩ := hrun hfits
  · obtain rfl : i = 0 := Nat.le_zero.1 (Nat.le_of_succ_le_succ hn)
    refine ⟨harguments, rfl, rfl, Option.some.inj (hcode.symm.trans hstop), houtput.trans ?_⟩
    rw [Nat.zero_add, List.range_one, List.flatMap_singleton, System.after_zero]
    exact hwritten
  · exact nomatch (hgo 0 Nat.one_pos).symm.trans hstop

end Program

end LC3
