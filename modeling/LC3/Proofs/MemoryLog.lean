import LC3.Proofs.Runs
import LC3.Proofs.Work

/-!
# What a step touches

A step **touches** the memory: it reads words and stores words, each at an
address, in the order in which it happens. The record of the exchanges does not
tell, since no device hears of an ordinary read.

So the work of a cycle is done once more, on a memory that keeps a log
(`Work.logged`). The log changes nothing (`Machine.step_eq_stepLogged`).
`Instruction.Touches` says what an instruction touches and at which addresses,
the string that a trap writes among it, word by word;
`Machine.ends_stepLogged` puts the fetch in front.

The log is exact about addresses and about what is stored, and says of what is
read only that something was. Which words a program meets is a question about the
memory at that moment, and is settled where the log is read against the memory
(`LC3.Proofs.LastStored`); here it is enough that the memory was asked there, so
many times and in this order. All of it is said of dialogues, for all answers of
the devices, and so before there is any keyboard or console.
-/

namespace LC3

/-- **A touch of the memory.** -/
inductive Touch where
  /-- A word was read at an address. -/
  | read (a w : Word)
  /-- A word was stored at an address. -/
  | stored (a value : Word)
  /-- A program was loaded to its origin. -/
  | loaded (origin : Word) (words : List Word)
  deriving DecidableEq, Repr

namespace Work

variable {α β : Type}

/-- **Work on a memory that keeps a log.** -/
def logged : Work α → Memory → Dialogue ((α × Memory) × List Touch)
  | done a, m => .done ((a, m), [])
  | read a next, m => do
    let (w, m) ← m.read a
    let (result, later) ← (next w).logged m
    return (result, .read a w :: later)
  | store a value rest, m => do
    Dialogue.tell (.stored a value)
    let (result, later) ← rest.logged (m.write a value)
    return (result, .stored a value :: later)
  | wait next, m => do
    let answer ← Dialogue.awaitCharacter
    (next answer).logged m
  | say message next, m => do
    let answer ← Dialogue.say message
    (next answer).logged m
  | tell event rest, m => do
    Dialogue.tell event
    rest.logged m

/-- **The log changes nothing.** -/
theorem on_eq_logged (x : Work α) (m : Memory) :
    x.on m = x.logged m >>= fun (result, _) => return result := by
  induction x generalizing m with
  | done a => rfl
  | read a next ih => simp only [on, logged, bind_assoc, pure_bind, ih]
  | store a value rest ih => simp only [on, logged, bind_assoc, pure_bind, ih]
  | wait next ih => simp only [on, logged, bind_assoc, ih]
  | say message next ih => simp only [on, logged, bind_assoc, ih]
  | tell event rest ih => simp only [on, logged, bind_assoc, ih]

/-- The log of one piece of work after another. -/
theorem logged_bind (x : Work α) (f : α → Work β) (m : Memory) :
    (x >>= f).logged m = do
      let ((a, m), before) ← x.logged m
      let (result, later) ← (f a).logged m
      return (result, before ++ later) := by
  show (x.bind f).logged m = _
  induction x generalizing m with
  | done a =>
    simp only [bind, logged, Dialogue.done_bind, List.nil_append]
    exact (bind_pure _).symm
  | read a next ih => simp only [bind, logged, bind_assoc, pure_bind, ih, List.cons_append]
  | store a value rest ih => simp only [bind, logged, bind_assoc, pure_bind, ih, List.cons_append]
  | wait next ih => simp only [bind, logged, bind_assoc, ih]
  | say message next ih => simp only [bind, logged, bind_assoc, ih]
  | tell event rest ih => simp only [bind, logged, bind_assoc, ih]

end Work

/-! ## What an instruction touches

Two operations read a word to load it, one reads two, and three store, one of
them after a read; a trap reads a string or nothing. The rest work on the
registers. `Instruction.Touches` is this list, as a relation, because the words
that are read are not known to the instruction. -/

namespace Touch

/-- Words that were read one behind the other. -/
def readsFrom : Word → List Word → List Touch
  | _, [] => []
  | a, w :: rest => .read a w :: readsFrom (a + 1) rest

end Touch

open Touch (readsFrom)

/-- **What a trap touches:** a string is read word by word from the address in
R0 on; nothing else is read or stored. -/
def Trap.Touches (r : Registers) (log : List Touch) : Trap → Prop
  | putS | putSP => ∃ words, log = readsFrom (r.get Registers.r0) words
  | getC | out | input | halt => log = []

/-- **What an instruction touches**, once the program counter has moved on.
Three instructions store, each the word in a register. -/
def Instruction.Touches (r : Registers) (log : List Touch) (i : Instruction) : Prop :=
  match i.opcode with
  | .ld => ∃ w, log = [.read (r.pc + i.off9) w]
  | .ldi => ∃ a w, log = [.read (r.pc + i.off9) a, .read a w]
  | .ldr => ∃ w, log = [.read (r.get i.sr1 + i.off6) w]
  | .st => log = [.stored (r.pc + i.off9) (r.get i.dr)]
  | .sti => ∃ a, log = [.read (r.pc + i.off9) a, .stored a (r.get i.dr)]
  | .str => log = [.stored (r.get i.sr1 + i.off6) (r.get i.dr)]
  | .trap =>
    match Trap.ofVector? i.vector with
    | some trap => trap.Touches r log
    | none => log = []
  | .br | .add | .and | .not | .lea | .jmp | .jsr | .rti | .res => log = []

namespace Trap

open Dialogue (ends_bind ends_of_forall)

/-- **A string is read word by word.** The induction is on the number of words that may
still be read; the words of the log are those of the rest behind the one read first. -/
theorem ends_logged_gatherWork (packing : Packing) (count : Nat) (a : Word)
    (before : List UInt8) (m : Memory) :
    ((gatherWork packing count a before).logged m).Ends
      fun (_, log) => ∃ words, log = readsFrom a words := by
  induction count generalizing a before m with
  | zero => exact ⟨[], rfl⟩
  | succ count ih =>
    refine ends_bind.2 (ends_of_forall (fun (w, m) => ends_bind.2 ?_) _)
    dsimp only
    by_cases hzero : w = 0
    · rw [if_pos hzero]
      exact ⟨[w], rfl⟩
    · rw [if_neg hzero]
      refine (ih (a + 1) _ m).imp ?_
      rintro ⟨result, log⟩ ⟨words, rfl⟩
      exact ⟨w :: words, rfl⟩

/-- Printing touches nothing, whether it succeeds or not, -/
theorem ends_logged_printWork (r : Registers) (message : List UInt8) (outcome : Outcome)
    (m : Memory) : ((printWork r message outcome).logged m).Ends fun (_, log) => log = [] := by
  refine ends_bind.2 (ends_of_forall (fun answer => ?_) _)
  cases answer <;> rfl

/-- and waiting touches nothing, if nothing is touched with the character. -/
theorem ends_logged_receiveWork (r : Registers)
    {next : UInt8 → Registers → Work (Outcome × Registers)} (m : Memory)
    (h : ∀ c r, ((next c r).logged m).Ends fun (_, log) => log = []) :
    ((receiveWork r next).logged m).Ends fun (_, log) => log = [] := by
  refine ends_bind.2 (ends_of_forall (fun answer => ?_) _)
  match answer with
  | .ok (some c) => exact h c _
  | .ok none => rfl
  | .error e => rfl

/-- So the words of the string are all that printing it touches. -/
theorem ends_logged_printStringWork (packing : Packing) (r : Registers) (m : Memory) :
    ((printStringWork packing r).logged m).Ends
      fun (_, log) => ∃ words, log = readsFrom (r.get Registers.r0) words := by
  unfold printStringWork
  rw [Work.logged_bind]
  refine ends_bind.2 ((ends_logged_gatherWork _ _ _ _ m).imp ?_)
  rintro ⟨⟨message, m⟩, log⟩ ⟨words, rfl⟩
  refine ends_bind.2 ((ends_logged_printWork r message _ m).imp ?_)
  rintro ⟨result, log⟩ rfl
  exact ⟨words, List.append_nil _⟩

/-- **The log of a routine** is what its trap touches. -/
theorem ends_logged_work (config : Config) (r : Registers) (m : Memory) (trap : Trap) :
    ((trap.work config r).logged m).Ends fun (_, log) => trap.Touches r log := by
  cases trap with
  | getC => exact @ends_logged_receiveWork r (fun _ r => .done (.running, r)) m fun _ _ => rfl
  | out => exact ends_logged_printWork r _ _ m
  | putS | putSP => exact ends_logged_printStringWork _ r m
  | input =>
    refine ends_bind.2 (ends_of_forall (fun answer => ?_) _)
    cases answer with
    | ok => exact ends_logged_receiveWork r m fun _ r => ends_logged_printWork r _ _ m
    | error e => rfl
  | halt =>
    unfold work
    dsimp only
    split
    · exact ends_logged_printWork r _ _ m
    · rfl

end Trap

open Dialogue (ends_bind ends_of_forall)

/-- **The log of an instruction** is what it touches. -/
theorem Instruction.ends_logged_work (config : Config) (address : Word) (r : Registers)
    (m : Memory) (i : Instruction) :
    ((i.work config address r).logged m).Ends fun (_, log) => i.Touches r log := by
  unfold work Touches
  cases i.opcode with
  | br =>
    dsimp only
    split <;> rfl
  | add | and | not | lea | jmp | jsr | st | str | rti | res => rfl
  | ld | ldr => exact ends_bind.2 (ends_of_forall (fun (w, _) => ⟨w, rfl⟩) _)
  | sti => exact ends_bind.2 (ends_of_forall (fun (a, _) => ⟨a, rfl⟩) _)
  | ldi =>
    refine ends_bind.2 (ends_of_forall (fun (a, m) => ?_) _)
    exact ends_bind.2 (ends_bind.2 (ends_of_forall (fun (w, _) => ⟨a, w, rfl⟩) _))
  | trap =>
    dsimp only
    cases Trap.ofVector? i.vector with
    | some trap => exact trap.ends_logged_work config r m
    | none => rfl

/-! ## What a step touches

A step that is not counted has no instruction: it stopped at the limit, or found
that shutdown was requested. There is one exception. When the count is used up
the instruction is fetched before that is noticed, so its word is in the log and
what it would have touched is not. -/

namespace Machine

/-- A cycle with its log. -/
def cycleLogged (m : Machine) : Dialogue ((Outcome × List Touch) × Machine) := do
  let (result, log) ← m.work.logged m.core.memory
  return (((m.worked result).1, log), (m.worked result).2)

/-- **A step with its log.** -/
def stepLogged (m : Machine) : Dialogue ((Outcome × List Touch) × Machine) :=
  match m.limitReached? with
  | some limit => do
    Dialogue.tell (.limitReached limit)
    return ((.fault (.stepLimit limit), []), m)
  | none => do
    let m ← m.pollBetween
    if ← Dialogue.shutdownRequested then
      Dialogue.tell .interrupted
      return ((.fault .interrupted, []), m)
    else m.cycleLogged

/-- Forgets the log. -/
def unlogged : (Outcome × List Touch) × Machine → Outcome × Machine
  | ((outcome, _), m) => (outcome, m)

/-- A cycle is the cycle with the log, without the log. -/
theorem cycle_eq_cycleLogged (m : Machine) :
    m.cycle = m.cycleLogged >>= fun result => return unlogged result := by
  rw [cycle_eq_on_work, Work.on_eq_logged, cycleLogged, bind_assoc, bind_assoc]
  rfl

/-- **A step is the step with the log**, without the log. -/
theorem step_eq_stepLogged (m : Machine) :
    m.step = m.stepLogged >>= fun result => return unlogged result := by
  unfold step stepLogged
  cases m.limitReached? with
  | some limit => rfl
  | none =>
    dsimp only
    rw [bind_assoc]
    refine congrArg (m.pollBetween >>= ·) (funext fun m => ?_)
    rw [bind_assoc]
    refine congrArg (Dialogue.shutdownRequested >>= ·) (funext fun requested => ?_)
    cases requested with
    | true => rfl
    | false => exact m.cycle_eq_cycleLogged

/-- **The log of a step** that leads from one machine to another. A step that is
counted reads its instruction first and then touches what that instruction
does. A step that is not counted touches nothing, unless it finds the count used
up; then it has read its instruction. -/
def Logs (m : Machine) (log : List Touch) (m' : Machine) : Prop :=
  (log = [] ∧ m'.steps = m.steps)
    ∨ ∃ w later, log = .read m.core.registers.pc w :: later
      ∧ (m.steps = maxCount ∧ later = []
        ∨ m.steps ≠ maxCount ∧ m'.steps = m.steps + 1
          ∧ (Instruction.ofWord w).Touches m.core.registers.advance later)

/-- **The log of a cycle** begins with the fetch. -/
theorem ends_cycleLogged (m : Machine) :
    m.cycleLogged.Ends fun ((_, log), m') => Logs m log m' := by
  unfold cycleLogged work
  refine ends_bind.2 (ends_bind.2 (ends_of_forall (fun (w, memory) => ends_bind.2 ?_) _))
  by_cases hfull : m.steps = maxCount
  · dsimp only
    rw [if_pos hfull]
    exact .inr ⟨w, [], rfl, .inl ⟨hfull, rfl⟩⟩
  · dsimp only
    rw [if_neg hfull]
    refine ends_bind.2 ?_
    rw [Work.logged_bind]
    refine ends_bind.2 (((Instruction.ofWord w).ends_logged_work _ _ _ memory).imp ?_)
    rintro ⟨⟨⟨outcome, r⟩, memory⟩, log⟩ hlog
    exact .inr ⟨w, log ++ [], rfl, .inr ⟨hfull, rfl, (List.append_nil log).symm ▸ hlog⟩⟩

/-- **A step logs what it touches**, the fetch before the rest, and nothing if it did
not get so far as to fetch. -/
theorem ends_stepLogged (m : Machine) :
    m.stepLogged.Ends fun ((_, log), m') => Logs m log m' := by
  unfold stepLogged
  split
  · exact ends_bind.2 (.inl ⟨rfl, rfl⟩)
  · refine ends_bind.2 (m.ends_pollBetween_eq.imp ?_)
    rintro m' ⟨failed, rfl⟩
    refine ends_bind.2 (ends_of_forall (fun requested => ?_) _)
    split
    · exact ends_bind.2 (.inl ⟨rfl, rfl⟩)
    · exact ends_cycleLogged { m with pollFailed := failed }

end Machine

end LC3
