import LC3.Console.Collector
import LC3.Keyboard.Scripted
import LC3.Proofs.CheckedMachine
import LC3.Proofs.Programs

/-!
# No program is refused

The machine with every check does what the machine does, and none of its
checks ever fails (`Machine.step_not_refused`). A checked dialogue **passes**
as a dialogue without checks if the two are the same for all answers of the
devices (`Checked.Passes`), and passing is kept by going on. So each part of
the machine is shown to pass from what it is made of: a read passes because
every address has a cell and nobody has the keyboard when the memory asks for
it; a routine that waits passes because it reads no memory while it has the
keyboard; and a cycle passes because decoding refuses no word, as soon as
there is room to count it.

Room is all that is needed and cannot be done without: a step whose count
overflows is refused for it (`Checked.refused_step`), which shows too that the
checks are there.
-/

namespace LC3

/-- Two ways to go on are the same if they are the same after every end. -/
theorem Dialogue.bind_congr_of_ends {α β : Type} {x : Dialogue α} {f g : α → Dialogue β}
    (h : x.Ends fun a => f a = g a) : x >>= f = x >>= g := by
  rw [bind_eq_graft, bind_eq_graft]
  induction x with
  | done a => exact h
  | poll k ih => exact congrArg poll (funext fun answer => ih answer (h answer))
  | take k ih => exact congrArg take (funext fun answer => ih answer (h answer))
  | wait k ih => exact congrArg wait (funext fun answer => ih answer (h answer))
  | requested k ih => exact congrArg requested (funext fun answer => ih answer (h answer))
  | write bytes k ih => exact congrArg (write bytes) (funext fun answer => ih answer (h answer))
  | flush k ih => exact congrArg flush (funext fun answer => ih answer (h answer))
  | report event rest ih => exact congrArg (report event) (ih h)

/-! ## Passing

The loan is part of what passing says. A part of the machine is entered with the
keyboard free or lent to it, and it is left in the same way; otherwise the next
part would find a loan that it does not expect, and be refused for it. This is
what the lemmas for going on (`Checked.Passes.bind` and those behind it) hand
from one part to the next. -/

namespace Checked

variable {α β : Type}

/-- **A checked dialogue passes** as a given dialogue, from one loan of the
keyboard to another: whatever the devices answer, it asks and reports what
the dialogue does, ends with the value of the dialogue, and is not refused. -/
def Passes (x : Checked α) (loan : Loan) (y : Dialogue α) (loan' : Loan) : Prop :=
  (x.run loan).run = y >>= fun a => .done (.ok (a, loan'))

variable {x : Checked α} {f : α → Checked β} {y : Dialogue α} {g : α → Dialogue β}
  {loan loan' loan'' : Loan}

/-- What is done at once is not refused. -/
theorem passes_pure (a : α) (loan : Loan) : Passes (pure a) loan (.done a) loan := rfl

/-- **What follows something that passes** comes after the dialogue, with the value it
ends with and with the loan it leaves. -/
theorem Passes.run_bind (hx : Passes x loan y loan') (f : α → Checked β) :
    ((x >>= f).run loan).run = y >>= fun a => ((f a).run loan').run := by
  show (x.run loan).run >>= _ = _
  rw [hx, bind_assoc]
  rfl

/-- **One passes after another.** -/
theorem Passes.bind (hx : Passes x loan y loan') (hf : ∀ a, Passes (f a) loan' (g a) loan'') :
    Passes (x >>= f) loan (y >>= g) loan'' := by
  unfold Passes
  rw [hx.run_bind, bind_assoc]
  exact congrArg (y >>= ·) (funext hf)

/-- What follows may count on what holds at every end. -/
theorem Passes.bind_of_ends {P : α → Prop} (hx : Passes x loan y loan') (hy : y.Ends P)
    (hf : ∀ a, P a → Passes (f a) loan' (g a) loan'') :
    Passes (x >>= f) loan (y >>= g) loan'' := by
  unfold Passes
  rw [hx.run_bind, bind_assoc]
  exact Dialogue.bind_congr_of_ends (hy.imp hf)

/-- What is done at once leaves no trace. -/
theorem Passes.bind_done {a : α} {z : Dialogue β} (hx : Passes x loan (.done a) loan')
    (hf : Passes (f a) loan' z loan'') : Passes (x >>= f) loan z loan'' :=
  (hx.run_bind f).trans hf

/-- What is certain asks nothing. -/
theorem passes_certain {e : Except Refusal α} {a : α} (h : e = .ok a) (loan : Loan) :
    Passes (certain e) loan (.done a) loan := by
  rw [h]
  exact passes_pure a loan

/-- A dialogue that needs no check passes as itself, whatever is lent, -/
theorem passes_aside (y : Dialogue α) (loan : Loan) : Passes (aside y) loan y loan := by
  show (y >>= _) >>= _ = _
  rw [bind_assoc]
  rfl

/-- and so does a report. -/
theorem passes_tell (event : Event) (loan : Loan) :
    Passes (tell event) loan (Dialogue.tell event) loan := passes_aside _ loan

/-- Who has borrowed the keyboard may ask it. -/
theorem passes_change (question : Dialogue α) :
    Passes (change question) .exclusive question .exclusive := passes_aside question .exclusive

/-- Who looks at the keyboard may ask it what changes nothing, together with others who
look. -/
theorem passes_look (question : Dialogue α) (others : Nat) :
    Passes (look question) (.shared others) question (.shared others) :=
  passes_aside question (.shared others)

/-- **The keyboard is given back.** -/
theorem passes_borrowed (hx : Passes x .exclusive y .exclusive) :
    Passes (borrowed x) .free y .free := by
  show (x.run .exclusive).run >>= _ = _
  rw [hx, bind_assoc]
  rfl

/-- It is given back by who looks at it as well. -/
theorem passes_viewed (hx : Passes x (.shared 0) y (.shared 0)) :
    Passes (viewed x) .free y .free := by
  show (x.run (.shared 0)).run >>= _ = _
  rw [hx, bind_assoc]
  rfl

/-- What passes is not refused. -/
theorem Passes.ends (h : Passes x loan y loan') :
    ((x.run loan).run).Ends fun result => ∃ a, result = .ok (a, loan') := by
  rw [h]
  exact Dialogue.ends_bind.2 (Dialogue.ends_of_forall (fun a => ⟨a, rfl⟩) y)

/-! ## The memory

The cells are as many as there are words, so an index that comes from a word is
in bounds. What remains is the loan: the memory borrows the keyboard for a
character, and may do so only while nobody else has it. -/

/-- **Every address has a cell.** -/
theorem cell_eq (m : Memory) (a : Word) : cell m a.toNat = .ok (m.peek a) := by
  have hlt : a.toNat < UInt16.size := a.toNat_lt
  unfold cell
  rw [Vector.getElem?_eq_getElem hlt]
  rfl

/-- Every address has a cell to store into. -/
theorem store_eq (m : Memory) (a value : Word) : store m a.toNat value = .ok (m.write a value) :=
  dif_pos a.toNat_lt

/-- So looking into a cell is not refused, -/
theorem passes_peek (m : Memory) (a : Word) (loan : Loan) :
    Passes (peek m a) loan (.done (m.peek a)) loan := passes_certain (cell_eq m a) loan

/-- nor is writing to one, -/
theorem passes_write (m : Memory) (a value : Word) (loan : Loan) :
    Passes (write m a value) loan (.done (m.write a value)) loan :=
  passes_certain (store_eq m a value) loan

/-- nor holding a character, which is written to two. -/
theorem passes_hold (m : Memory) (character : Option UInt8) (loan : Loan) :
    Passes (hold m character) loan (.done (m.hold character)) loan := by
  cases character with
  | none => exact passes_write _ _ _ _
  | some c => exact (passes_write _ _ _ _).bind fun m => passes_write _ _ _ _

/-- The memory asks the keyboard twice for a character, and may. -/
theorem passes_arrival : Passes arrival .free Memory.arrival .free := by
  refine passes_borrowed ((passes_change _).bind fun answer => ?_)
  match answer with
  | .ok true => exact passes_change _
  | .ok false => exact passes_pure _ _
  | .error e => exact (passes_tell _ _).bind fun _ => passes_pure _ _

/-- It may not while a routine has the keyboard. -/
example : ((borrowed arrival).run .free).run = .done (.error .loan) := rfl

/-- **The status** asks the keyboard if no character is held, so the keyboard has to be
free. -/
theorem passes_readStatus (m : Memory) : Passes (readStatus m) .free m.readStatus .free := by
  unfold readStatus Memory.readStatus Memory.holds
  refine (passes_peek _ _ _).bind_done ?_
  split
  next hready =>
    refine (passes_peek _ _ _).bind_done ((passes_tell _ _).bind fun _ => ?_)
    -- the checked read gives what is in the register, which is known to be `ready` here
    rw [eq_of_beq hready]
    exact passes_pure _ _
  next =>
    refine passes_arrival.bind fun character => (passes_hold m character _).bind_done ?_
    refine (passes_peek _ _ _).bind_done ((passes_peek _ _ _).bind_done ?_)
    exact (passes_tell _ _).bind fun _ => passes_pure _ _

/-- The data register asks nobody. -/
theorem passes_readData (m : Memory) : Passes (readData m) .free m.readData .free := by
  refine (passes_peek _ _ _).bind_done ((passes_peek _ _ _).bind_done ?_)
  exact (passes_tell _ _).bind fun _ => (passes_write _ _ _ _).bind_done (passes_pure _ _)

/-- **A read** passes while nobody has the keyboard. -/
theorem passes_read (m : Memory) (a : Word) : Passes (read m a) .free (m.read a) .free := by
  unfold read Memory.read
  cases KeyboardRegister.ofAddress? a with
  | none => exact (passes_peek m a .free).bind fun _ => passes_pure _ _
  | some register =>
    cases register with
    | status => exact passes_readStatus m
    | data => exact passes_readData m

/-! ## Instructions

All of them are entered with the keyboard free. Those that read memory need it
so, and a trap that waits borrows it and gives it back. Neither does the work of
the other: a string is gathered before anything is printed, and while a routine
waits it reads no memory. -/

/-- A load passes as the read that it is. -/
theorem passes_load (core : Core) (a : Word) : Passes (load core a) .free (core.read a) .free :=
  (passes_read _ _).bind fun _ => passes_pure _ _

/-- A store needs no keyboard. -/
theorem passes_save (core : Core) (i : Fin 8) (a : Word) :
    Passes (save core i a) .free (core.store i a) .free :=
  (passes_tell _ _).bind fun _ => (passes_write _ _ _ _).bind fun _ => passes_pure _ _

/-- The fetch is a read, and it passes as one. -/
theorem passes_fetch (core : Core) : Passes (fetch core) .free core.fetch .free :=
  (passes_read _ _).bind fun _ => passes_pure _ _

/-- The characters of a string are read with the keyboard free, one cell after another.
-/
theorem passes_gather (packing : Trap.Packing) (count : Nat) (a : Word) (m : Memory)
    (before : List UInt8) :
    Passes (gather packing count a m before) .free (Trap.gather packing count a m before)
      .free := by
  induction count generalizing a m before with
  | zero => exact passes_pure _ _
  | succ count ih =>
    rw [Trap.gather_succ]
    refine (passes_read m a).bind fun (w, m) => ?_
    dsimp only
    split
    · exact passes_pure _ _
    · exact ih _ _ _

/-- **A routine that waits** has borrowed the keyboard. -/
theorem passes_receive (core : Core) {next : UInt8 → Core → Checked (Outcome × Core)}
    {next' : UInt8 → Core → Dialogue (Outcome × Core)}
    (h : ∀ c core, Passes (next c core) .exclusive (next' c core) .exclusive) :
    Passes (receive core next) .exclusive (Trap.receive core next') .exclusive := by
  refine (passes_change _).bind fun answer => ?_
  match answer with
  | .ok (some c) => exact h _ _
  | .ok none => exact passes_pure _ _
  | .error e => exact passes_pure _ _

/-- When they are printed nobody has it either. -/
theorem passes_printString (packing : Trap.Packing) (core : Core) :
    Passes (printString packing core) .free (Trap.printString packing core) .free :=
  (passes_gather _ _ _ _ _).bind fun _ => passes_aside _ _

/-- **A routine passes**, and whatever it borrowed it has given back. -/
theorem passes_perform (config : Config) (core : Core) (trap : Trap) :
    Passes (perform config core trap) .free (trap.perform config core) .free := by
  cases trap with
  | getC => exact passes_borrowed (passes_receive core fun _ _ => passes_pure _ _)
  | out => exact passes_aside _ _
  | putS | putSP => exact passes_printString _ core
  | input =>
    refine passes_borrowed ((passes_aside _ _).bind fun answer => ?_)
    cases answer with
    | ok => exact passes_receive core fun _ core => passes_aside _ _
    | error e => exact passes_pure _ _
  | halt =>
    unfold perform Trap.perform
    dsimp only
    split
    · exact passes_aside _ _
    · exact passes_pure _ _

/-- **An instruction passes**, with any operands and any registers. -/
theorem passes_execute (config : Config) (address : Word) (core : Core) (i : Instruction) :
    Passes (execute config address core i) .free (core.execute config address i) .free := by
  -- what borrows the memory passes part by part, and the rest borrows nothing
  cases hopcode : i.opcode with
  | ld | ldr =>
    unfold execute Core.execute
    rw [hopcode]
    exact (passes_load _ _).bind fun _ => passes_pure _ _
  | ldi =>
    unfold execute Core.execute
    rw [hopcode]
    exact (passes_load _ _).bind fun (_, core) =>
      (passes_load core _).bind fun _ => passes_pure _ _
  | st | str =>
    unfold execute Core.execute
    rw [hopcode]
    exact (passes_save _ _ _).bind fun _ => passes_pure _ _
  | sti =>
    unfold execute Core.execute
    rw [hopcode]
    exact (passes_load _ _).bind fun (_, core) =>
      (passes_save core _ _).bind fun _ => passes_pure _ _
  | trap =>
    unfold execute Core.execute
    rw [hopcode]
    dsimp only
    cases Trap.ofVector? i.vector with
    | some trap => exact passes_perform config core trap
    | none => exact (passes_tell _ _).bind fun _ => passes_pure _ _
  | _ =>
    unfold execute
    rw [hopcode]
    exact passes_aside _ _

/-! ## Steps

The poll between instructions borrows the keyboard, and the question about
shutdown only looks at it. Both have returned it when the instruction is
fetched. So there is one more check in a step, and this is the count. -/

/-- The poll has given the keyboard back, whether or not it failed. -/
theorem passes_pollBetween (m : Machine) :
    Passes (pollBetween m) .free m.pollBetween .free := by
  unfold pollBetween Machine.pollBetween
  split
  · refine passes_borrowed ((passes_change _).bind fun answer => ?_)
    cases answer with
    | ok found => exact passes_pure _ _
    | error e => exact (passes_tell _ _).bind fun _ => passes_pure _ _
  · exact passes_pure _ _

/-- There is room for one more step. -/
theorem add64_one {count : UInt64} (h : count ≠ Machine.maxCount) :
    add64 count 1 = .ok (count + 1) := by
  have hlt : count.toNat < UInt64.size := count.toNat_lt_size
  have hne : count.toNat ≠ UInt64.size - 1 := fun heq => h (UInt64.toNat_inj.1 heq)
  refine if_pos ?_
  show count.toNat + 1 < UInt64.size
  omega

/-- **A cycle** passes if it can be counted. -/
theorem passes_cycle {m : Machine} (h : m.steps ≠ Machine.maxCount) :
    Passes (cycle m) .free m.cycle .free := by
  obtain ⟨core, config, steps, pollFailed⟩ := m
  unfold cycle Machine.cycle
  refine (passes_fetch core).bind fun (w, core) => ?_
  dsimp only
  rw [if_neg h, Instruction.decode_eq_ok]
  refine (passes_certain (add64_one h) _).bind_done ?_
  refine (passes_certain (decode_eq w) _).bind_done ((passes_tell _ _).bind fun _ => ?_)
  exact (passes_execute _ _ _ _).bind fun _ => passes_pure _ _

/-- **A step** passes if there is room for it. -/
theorem passes_step {m : Machine} (h : m.HasRoom) : Passes (step m) .free m.step .free := by
  unfold step Machine.step
  cases hlimit : m.limitReached? with
  | some limit => exact (passes_tell _ _).bind fun _ => passes_pure _ _
  | none =>
    refine (passes_pollBetween m).bind_of_ends m.ends_pollBetween fun m' hpolled => ?_
    refine (passes_viewed (passes_look _ _)).bind fun requested => ?_
    split
    · exact (passes_tell _ _).bind fun _ => passes_pure _ _
    · exact passes_cycle (hpolled ▸ h.steps_ne hlimit)

/-- **Any number of steps** passes. -/
theorem passes_stepMany (n : Nat) (m : Machine) :
    Passes (stepMany n m) .free (m.stepMany n) .free := by
  induction n generalizing m with
  | zero => exact passes_pure _ _
  | succ n ih =>
    unfold stepMany Machine.stepMany
    split
    next hroom =>
      exact (passes_step hroom).bind fun result => (ih result.2).bind fun _ => passes_pure _ _
    next => exact passes_pure _ _

/-- **Without room for it a step is refused:** it goes as a step goes until it has
fetched its instruction, and then its count overflows. Only a request for shutdown
comes before that. -/
theorem refused_step {m : Machine} (h : ¬ m.HasRoom) :
    ((step m).run .free).run
      = m.pollBetween >>= fun m' => Dialogue.shutdownRequested >>= fun requested =>
          if requested = true then
            Dialogue.tell .interrupted >>= fun _ => .done (.ok ((.fault .interrupted, m'), .free))
          else m'.core.fetch >>= fun _ => .done (.error .overflow) := by
  obtain ⟨hfull, hmax⟩ := not_or.1 h
  have hlimit : m.limitReached? = none := Machine.limitReached?_of_none (not_not.1 hmax)
  unfold step
  rw [hlimit]
  refine ((passes_pollBetween m).run_bind _).trans
    (Dialogue.bind_congr_of_ends (m.ends_pollBetween.imp fun m' hpolled => ?_))
  refine ((passes_viewed (passes_look _ _)).run_bind _).trans
    (congrArg (_ >>= ·) (funext fun requested => ?_))
  -- the one check that fails, after all others passed
  have hadd : add64 m'.steps 1 = .error .overflow := by
    rw [show m'.steps = Machine.maxCount from hpolled.trans (not_not.1 hfull)]
    rfl
  cases requested with
  | true => rfl
  | false =>
    refine ((passes_fetch m'.core).run_bind _).trans
      (congrArg (_ >>= ·) (funext fun (w, core) => ?_))
    dsimp only
    rw [hadd]
    rfl

end Checked

namespace Machine

/-- **No program is refused.** Whatever is in the memory and the registers,
whatever the settings, and whatever the devices answer: a step for which there
is room, with every check, is not refused, ends with the keyboard free again
and does what the step does; and the step does not end in a crash. So for any
number of steps, as long as there is room. Only the count is in the way of a
step: when it is used up and no limit is set, the step goes as far as fetching its
instruction, and is refused then because the count overflows, unless it ended
before that, since shutdown was requested. -/
theorem step_not_refused :
    (∀ m : Machine, m.steps ≠ maxCount ∨ m.config.maxSteps ≠ none →
        ((Checked.step m).run .free).run
            = (m.step >>= fun result => .done (.ok (result, Loan.free)))
          ∧ ((Checked.step m).run .free).run.Ends (fun result => ∃ a, result = .ok (a, .free))
          ∧ m.step.Ends (·.1.Regular))
      ∧ (∀ (m : Machine) (n : Nat),
        ((Checked.stepMany n m).run .free).run
            = (m.stepMany n >>= fun result => .done (.ok (result, Loan.free)))
          ∧ ((Checked.stepMany n m).run .free).run.Ends
            (fun result => ∃ a, result = .ok (a, .free))
          ∧ (m.stepMany n).Ends fun (outcomes, _) => ∀ outcome ∈ outcomes, outcome.Regular)
      ∧ ∀ m : Machine, m.steps = maxCount → m.config.maxSteps = none →
        ((Checked.step m).run .free).run
          = m.pollBetween >>= fun m' => Dialogue.shutdownRequested >>= fun requested =>
              if requested = true then
                Dialogue.tell .interrupted >>= fun _ =>
                  .done (.ok ((.fault .interrupted, m'), .free))
              else m'.core.fetch >>= fun _ => .done (.error .overflow) := by
  refine ⟨fun m h => ?_, fun m n => ?_, fun m hfull hmax => ?_⟩
  · have hpasses := Checked.passes_step (show m.HasRoom from h)
    exact ⟨hpasses, hpasses.ends, regular_step h⟩
  · have hpasses := Checked.passes_stepMany n m
    exact ⟨hpasses, hpasses.ends, regular_stepMany n m⟩
  · exact Checked.refused_step fun hroom => hroom.elim (· hfull) (· hmax)

/-- A machine that waits for a character, with the largest limit and one step left to
count. -/
def waitsAtLastCount : Machine :=
  { loaded [0xF020] with
    steps := maxCount - 1
    config := { Config.default with maxSteps := some maxCount } }

/-- Where its step leads, when a character is delivered. -/
def waitsAtLastCountNext : Machine :=
  { waitsAtLastCount with
    core := ⟨Registers.initial.advance.set Registers.r0 0x61, waitsAtLastCount.core.memory⟩
    steps := maxCount }

/-- The step is executed: it counts to the last number, and the character is in R0. -/
theorem value_step_waitsAtLastCount :
    (waitsAtLastCount.step.hold ({ queue := [0x61] } : Scripted) ({} : Collector)).value
      = (.running, waitsAtLastCountNext) := by
  let s : System Scripted Collector := ⟨waitsAtLastCount, { queue := [0x61] }, {}⟩
  have hread : s.machine.core.memory.read s.machine.core.registers.pc
      = .done (0xF020, s.machine.core.memory) :=
    read_loaded (i := 0) rfl (by decide) (by decide)
  have hexecute : ((Core.execute s.machine.config s.machine.core.registers.pc
      ⟨s.machine.core.registers.advance, s.machine.core.memory⟩ (.ofWord 0xF020)).hold
        s.keyboard s.console).value = (.running, waitsAtLastCountNext.core) := rfl
  have hcount : s.machine.steps + 1 = maxCount := by decide
  have hstep := System.step_of_cell (s := s) (by decide) (by decide) rfl (by decide) hread
  dsimp only at hstep
  rw [hexecute, hcount] at hstep
  -- said of every system, since this one would be run to compare the two sides
  have hvalue (s : System Scripted Collector) :
      (s.machine.step.hold s.keyboard s.console).value = (s.step.1, s.step.2.1.machine) := rfl
  refine (hvalue s).trans ?_
  rw [hstep]
  rfl

/-- The step is counted, and the keyboard that was lent to it for the wait is free again.
Of a machine that has counted so many steps and has no limit, the next step is
refused. -/
theorem step_not_refused_lastCount :
    let k : Scripted := { queue := [0x61] }
    let c : Collector := {}
    let unlimited : Machine := { initial with steps := maxCount }
    (waitsAtLastCount.steps ≠ maxCount ∨ waitsAtLastCount.config.maxSteps ≠ none)
      ∧ (((Checked.step waitsAtLastCount).run .free).run.hold k c).value
        = .ok ((.running, waitsAtLastCountNext), .free)
      ∧ (unlimited.steps = maxCount ∧ unlimited.config.maxSteps = none)
      ∧ (((Checked.step unlimited).run .free).run.hold k c).value = .error .overflow := by
  intro k c unlimited
  have hroom : waitsAtLastCount.steps ≠ maxCount ∨ waitsAtLastCount.config.maxSteps ≠ none :=
    .inl (by decide)
  have hpolled : unlimited.pollBetween.hold k c
      = ⟨unlimited, { queue := [], latch := some 0x61 }, c, [.polled (.ok true)]⟩ :=
    (hold_pollBetween_of_ok (by decide) c rfl).trans rfl
  refine ⟨hroom, ?_, ⟨rfl, rfl⟩, ?_⟩
  · rw [(step_not_refused.1 waitsAtLastCount hroom).1, Dialogue.hold_bind]
    exact congrArg (fun value => Except.ok (value, Loan.free)) value_step_waitsAtLastCount
  · rw [step_not_refused.2.2 unlimited rfl rfl, Dialogue.hold_bind, hpolled]
    dsimp only
    have hrequested : Keyboard.requested ({ queue := [], latch := some 0x61 } : Scripted) = false :=
      rfl
    rw [Dialogue.hold_bind, Dialogue.hold_shutdownRequested, hrequested]
    dsimp only
    rw [if_neg Bool.false_ne_true, Dialogue.hold_bind]
    rfl

end Machine

end LC3
