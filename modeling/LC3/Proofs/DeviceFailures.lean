import LC3.Proofs.Step

/-!
# Devices that fail

A write, a flush or a wait can fail, and a wait can be in vain, which means
that shutdown was requested. The machine tries nothing a second time: such an
answer is the last it gets, and the step ends in the fault that goes with it.
Polls are the exception; one that fails is passed over.

`Dialogue.Heeds` states this of a tree of questions, and what is true of the
ends that no failure leads to beside it. It holds of whatever is put together
from dialogues that heed their devices, so it is stated once for each routine
of the machine, with the outcome that the routine has when no device fails
(`Dialogue.EndsIn`, `Core.endsIn_execute`). With actual devices the outcome is
then read off the exchanges: it is the first failure among them, or else the
outcome of the routine (`Dialogue.EndsIn.hold`).
-/

namespace LC3

/-- **A fault that a device leads to.** -/
def Fault.OfDevice : Fault → Prop
  | interrupted | device _ => True
  | reservedOpcode .. | stepLimit _ => False

namespace Exchange

/-- **The fault that goes with an answer**, if it is one that ends a step. -/
def fault? : Exchange → Option Fault
  | wrote _ (.error e) | flushed (.error e) | waited (.error e) => some (.device e)
  | waited (.ok none) => some .interrupted
  | _ => none

/-- Reports are no failures. -/
theorem findSome?_reported (events : List Event) (later : List Exchange) :
    (events.map reported ++ later).findSome? fault? = later.findSome? fault? := by
  induction events with
  | nil => rfl
  | cons event rest ih => exact ih

end Exchange

namespace Dialogue

variable {α β : Type}

/-- A dialogue is over, with a value that satisfies a predicate. -/
def Over (P : α → Prop) : Dialogue α → Prop
  | done a => P a
  | _ => False

/-- **A dialogue heeds its devices** if it is over as soon as one of them
fails, with a value that is right for this fault, and otherwise ends with a
value of the given kind. -/
def Heeds (failed : Fault → α → Prop) (P : α → Prop) : Dialogue α → Prop
  | done a => P a
  | poll k => ∀ answer, (k answer).Heeds failed P
  | take k => ∀ answer, (k answer).Heeds failed P
  | wait k => (∀ c, (k (.ok (some c))).Heeds failed P)
      ∧ (k (.ok none)).Over (failed .interrupted)
      ∧ ∀ e, (k (.error e)).Over (failed (.device e))
  | requested k => ∀ answer, (k answer).Heeds failed P
  | write _ k => (k (.ok ())).Heeds failed P ∧ ∀ e, (k (.error e)).Over (failed (.device e))
  | flush k => (k (.ok ())).Heeds failed P ∧ ∀ e, (k (.error e)).Over (failed (.device e))
  | report _ rest => rest.Heeds failed P

/-- **A dialogue that cannot fail** asks nothing that could. -/
def CannotFail (x : Dialogue α) : Prop := x.Heeds (fun _ _ => False) fun _ => True

/-- There is nothing left of a dialogue that is over but its value. -/
theorem Over.eq_done {P : α → Prop} {x : Dialogue α} (h : x.Over P) : ∃ a, x = done a ∧ P a := by
  cases x with
  | done a => exact ⟨a, rfl, h⟩
  | _ => exact h.elim

/-- Whatever comes after it starts at once. -/
theorem Over.bind {P : α → Prop} {Q : β → Prop} {x : Dialogue α} {f : α → Dialogue β}
    (hx : x.Over P) (hf : ∀ a, P a → (f a).Over Q) : (x.graft f).Over Q := by
  obtain ⟨a, rfl, ha⟩ := hx.eq_done
  exact hf a ha

/-- **One dialogue after another** heeds the devices if both do, the second is
ready for what the first ends with, and it is over where the first failed. -/
theorem Heeds.bind {failed : Fault → α → Prop} {P : α → Prop} {failed' : Fault → β → Prop}
    {Q : β → Prop} {x : Dialogue α} {f : α → Dialogue β} (hx : x.Heeds failed P)
    (hf : ∀ a, P a → (f a).Heeds failed' Q)
    (hfailed : ∀ fault a, failed fault a → (f a).Over (failed' fault)) :
    (x >>= f).Heeds failed' Q := by
  -- a failed answer ends the first dialogue, and then only the second is left
  rw [bind_eq_graft]
  induction x with
  | done a => exact hf a hx
  | poll k ih => exact fun answer => ih answer (hx answer)
  | take k ih => exact fun answer => ih answer (hx answer)
  | wait k ih =>
    obtain ⟨hsome, hnone, herror⟩ := hx
    exact ⟨fun c => ih _ (hsome c), hnone.bind (hfailed _), fun e => (herror e).bind (hfailed _)⟩
  | requested k ih => exact fun answer => ih answer (hx answer)
  | write bytes k ih => exact ⟨ih _ hx.1, fun e => (hx.2 e).bind (hfailed _)⟩
  | flush k ih => exact ⟨ih _ hx.1, fun e => (hx.2 e).bind (hfailed _)⟩
  | report event rest ih => exact ih hx

/-- What cannot fail may come before anything. -/
theorem CannotFail.bind {failed : Fault → β → Prop} {P : β → Prop} {x : Dialogue α}
    {f : α → Dialogue β} (hx : x.CannotFail) (hf : ∀ a, (f a).Heeds failed P) :
    (x >>= f).Heeds failed P :=
  Heeds.bind hx (fun a _ => hf a) fun _ _ h => h.elim

/-- More may be known of a fault, and of a value, than is needed. -/
theorem Over.imp {P Q : α → Prop} (h : ∀ a, P a → Q a) {x : Dialogue α} (hx : x.Over P) :
    x.Over Q := by
  obtain ⟨a, rfl, ha⟩ := hx.eq_done
  exact h a ha

/-- The same for a dialogue that goes on: by induction, since it is known at every end.
-/
theorem Heeds.imp {failed failed' : Fault → α → Prop} {P Q : α → Prop}
    (hfailed : ∀ fault a, failed fault a → failed' fault a) (h : ∀ a, P a → Q a)
    {x : Dialogue α} (hx : x.Heeds failed P) : x.Heeds failed' Q := by
  induction x with
  | done a => exact h a hx
  | poll k ih => exact fun answer => ih answer (hx answer)
  | take k ih => exact fun answer => ih answer (hx answer)
  | wait k ih =>
    obtain ⟨hsome, hnone, herror⟩ := hx
    exact ⟨fun c => ih _ (hsome c), hnone.imp (hfailed _), fun e => (herror e).imp (hfailed _)⟩
  | requested k ih => exact fun answer => ih answer (hx answer)
  | write bytes k ih => exact ⟨ih _ hx.1, fun e => (hx.2 e).imp (hfailed _)⟩
  | flush k ih => exact ⟨ih _ hx.1, fun e => (hx.2 e).imp (hfailed _)⟩
  | report event rest ih => exact ih hx

/-- It has one end, the value it is over with. -/
theorem Over.ends {P : α → Prop} {x : Dialogue α} (h : x.Over P) : x.Ends P := by
  obtain ⟨a, rfl, ha⟩ := h.eq_done
  exact ha

/-- **Every end** of a dialogue that heeds its devices is of the one kind or
the other. -/
theorem Heeds.ends {failed : Fault → α → Prop} {P : α → Prop} {x : Dialogue α}
    (h : x.Heeds failed P) :
    x.Ends fun a => P a ∨ ∃ fault : Fault, fault.OfDevice ∧ failed fault a := by
  induction x with
  | done a => exact .inl h
  | poll k ih => exact fun answer => ih answer (h answer)
  | take k ih => exact fun answer => ih answer (h answer)
  | wait k ih =>
    obtain ⟨hsome, hnone, herror⟩ := h
    intro answer
    -- the three answers to a wait: two of them end the dialogue
    match answer with
    | .ok (some c) => exact ih _ (hsome c)
    | .ok none => exact hnone.ends.imp fun a ha => .inr ⟨.interrupted, trivial, ha⟩
    | .error e => exact (herror e).ends.imp fun a ha => .inr ⟨.device e, trivial, ha⟩
  | requested k ih => exact fun answer => ih answer (h answer)
  | write bytes k ih =>
    intro answer
    cases answer with
    | ok => exact ih _ h.1
    | error e => exact (h.2 e).ends.imp fun a ha => .inr ⟨.device e, trivial, ha⟩
  | flush k ih =>
    intro answer
    cases answer with
    | ok => exact ih _ h.1
    | error e => exact (h.2 e).ends.imp fun a ha => .inr ⟨.device e, trivial, ha⟩
  | report event rest ih => exact ih h

/-- A report asks nothing. -/
theorem cannotFail_tell (event : Event) : (tell event).CannotFail := trivial

/-- A message is said, or the console failed. -/
theorem heeds_say (message : List UInt8) :
    (say message).Heeds (fun fault answer => ∃ e, fault = .device e ∧ answer = .error e)
      (· = .ok ()) := by
  have hflush : (flush done).Heeds
      (fun fault (answer : Except DeviceError Unit) => ∃ e, fault = .device e ∧ answer = .error e)
      (· = .ok ()) := ⟨rfl, fun e => ⟨e, rfl, rfl⟩⟩
  unfold say
  split
  · exact hflush
  · exact ⟨hflush, fun e => ⟨e, rfl, rfl⟩⟩

section Course

variable {κ ω : Type} [Keyboard κ] [Console ω]

/-- With actual devices, too, it has the value it is over with. -/
theorem Over.hold {P : α → Prop} {x : Dialogue α} (h : x.Over P) (k : κ) (c : ω) :
    P (x.hold k c).value := by
  obtain ⟨a, rfl, ha⟩ := h.eq_done
  exact ha

/-- **With actual devices** the first failure decides with which kind of value
the dialogue ends. -/
theorem Heeds.hold {failed : Fault → α → Prop} {P : α → Prop} {x : Dialogue α}
    (h : x.Heeds failed P) (k : κ) (c : ω) :
    ((x.hold k c).exchanges.findSome? Exchange.fault? = none ∧ P (x.hold k c).value)
      ∨ ∃ fault, (x.hold k c).exchanges.findSome? Exchange.fault? = some fault
        ∧ failed fault (x.hold k c).value := by
  -- devices move on from question to question, so they are general in the induction
  induction x generalizing k c with
  | done a => exact .inl ⟨rfl, h⟩
  | poll next ih =>
    unfold Dialogue.hold
    dsimp only [Course.after]
    rw [List.append_assoc, Exchange.findSome?_reported]
    exact ih _ (h _) _ _
  | take next ih => exact ih _ (h _) _ _
  | wait next ih =>
    obtain ⟨hsome, hnone, herror⟩ := h
    unfold Dialogue.hold
    dsimp only [Course.after]
    rw [List.append_assoc, Exchange.findSome?_reported]
    cases (Keyboard.wait k).answer with
    | ok found =>
      cases found with
      | some character => exact ih _ (hsome character) _ _
      | none => exact .inr ⟨_, rfl, hnone.hold _ _⟩
    | error e => exact .inr ⟨_, rfl, (herror e).hold _ _⟩
  | requested next ih => exact ih _ (h _) _ _
  | write bytes next ih =>
    unfold Dialogue.hold
    dsimp only [Course.after]
    cases (Console.write c bytes).1 with
    | ok => exact ih _ h.1 _ _
    | error e => exact .inr ⟨_, rfl, (h.2 e).hold _ _⟩
  | flush next ih =>
    unfold Dialogue.hold
    dsimp only [Course.after]
    cases (Console.flush c).1 with
    | ok => exact ih _ h.1 _ _
    | error e => exact .inr ⟨_, rfl, (h.2 e).hold _ _⟩
  | report event rest ih => exact ih h _ _

end Course

end Dialogue

open Dialogue (cannotFail_tell heeds_say)

/-! ## Reading and storing

The keyboard is asked for its status by a poll, which is no question that could
fail in the sense of this module. So the memory cannot fail, and neither can the
fetch of an instruction. -/

/-- **A read cannot fail:** where the poll behind it does, there is no character. -/
theorem Memory.cannotFail_read (m : Memory) (a : Word) : (m.read a).CannotFail := by
  unfold read
  cases KeyboardRegister.ofAddress? a with
  | none => exact trivial
  | some register =>
    cases register with
    | status =>
      show m.readStatus.CannotFail
      unfold readStatus
      split
      · exact trivial
      · refine Dialogue.CannotFail.bind (fun answer => ?_) fun _ => trivial
        match answer with
        | .ok true => exact fun _ => trivial
        | .ok false => exact trivial
        | .error e => exact trivial
    | data => exact trivial

namespace Core

/-- The same with the registers beside the memory. -/
theorem cannotFail_read (core : Core) (a : Word) : (core.read a).CannotFail :=
  (core.memory.cannotFail_read a).bind fun _ => trivial

/-- The fetch is a read. -/
theorem cannotFail_fetch (core : Core) : core.fetch.CannotFail :=
  (core.memory.cannotFail_read _).bind fun _ => trivial

end Core

/-! ## Traps

Only the routines for input and output ask what can fail. Each is put together
from a message that is said and a character that is received, so each ends in
its own outcome by `Heeds.bind`, and nowhere are the devices looked at. -/

/-- **The dialogue ends in an outcome**, or in the fault of the device that
failed first. -/
def Dialogue.EndsIn {σ : Type} (outcome : Outcome) (x : Dialogue (Outcome × σ)) : Prop :=
  x.Heeds (fun fault result => result.1 = .fault fault) (·.1 = outcome)

/-- With actual devices the outcome is read off the exchanges. -/
theorem Dialogue.EndsIn.hold {σ κ ω : Type} [Keyboard κ] [Console ω] {outcome : Outcome}
    {x : Dialogue (Outcome × σ)} (h : x.EndsIn outcome) (k : κ) (c : ω) :
    (x.hold k c).value.1
      = (((x.hold k c).exchanges.findSome? Exchange.fault?).map .fault).getD outcome := by
  obtain ⟨hnone, hvalue⟩ | ⟨fault, hsome, hvalue⟩ := Dialogue.Heeds.hold h k c
  · rw [hnone, hvalue]
    rfl
  · rw [hsome, hvalue]
    rfl

namespace Trap

/-- Printing ends in the outcome that it is given, if the console took the message. -/
theorem endsIn_print (core : Core) (message : List UInt8) (outcome : Outcome) :
    (print core message outcome).EndsIn outcome := by
  unfold print
  refine (heeds_say message).bind ?_ ?_
  · rintro _ rfl
    exact rfl
  · rintro _ _ ⟨e, rfl, rfl⟩
    exact rfl

/-- Receiving ends as what is done with the character, if there is one. -/
theorem endsIn_receive (core : Core) {next : UInt8 → Core → Dialogue (Outcome × Core)}
    {outcome : Outcome} (h : ∀ c core, (next c core).EndsIn outcome) :
    (receive core next).EndsIn outcome :=
  ⟨fun _ => h _ _, rfl, fun _ => rfl⟩

/-- To gather the characters of a string is to read memory, cell after cell. -/
theorem cannotFail_gather (packing : Packing) (count : Nat) (a : Word) (m : Memory)
    (before : List UInt8) : (gather packing count a m before).CannotFail := by
  induction count generalizing a m before with
  | zero => exact trivial
  | succ count ih =>
    rw [gather_succ]
    refine (m.cannotFail_read a).bind fun (w, m) => ?_
    dsimp only
    split
    · exact trivial
    · exact ih _ _ _

/-- So of a string only the printing can fail, after all of it was gathered. -/
theorem endsIn_printString (packing : Packing) (core : Core) :
    (printString packing core).EndsIn .running := by
  unfold printString
  exact (cannotFail_gather packing _ _ _ _).bind fun _ => endsIn_print _ _ _

/-- The outcome of a routine when no device fails. -/
def outcome : Trap → Outcome
  | halt => .halted
  | getC | out | putS | input | putSP => .running

/-- **A routine ends in its outcome**, or in the fault of the device that failed first.
-/
theorem endsIn_perform (config : Config) (core : Core) (trap : Trap) :
    (trap.perform config core).EndsIn trap.outcome := by
  cases trap with
  | getC =>
    unfold perform
    refine endsIn_receive core fun _ _ => ?_
    exact rfl
  | out => exact endsIn_print core _ _
  | putS | putSP => exact endsIn_printString _ core
  | input =>
    unfold perform
    refine (heeds_say _).bind ?_ ?_
    · rintro _ rfl
      exact endsIn_receive core fun _ core => endsIn_print core _ _
    · rintro _ _ ⟨e, rfl, rfl⟩
      exact rfl
  | halt =>
    unfold perform
    dsimp only
    split
    · exact endsIn_print core _ _
    · exact rfl

end Trap

/-! ## Whole steps

Before the instruction a step polls and fetches, which cannot fail. So the first
failure of a step, if there is one, is a failure of its trap. -/

/-- **The outcome of an instruction** at an address when no device fails. -/
def Instruction.outcome (address : Word) (i : Instruction) : Outcome :=
  match i.opcode with
  | .rti | .res => .fault (.reservedOpcode i.code address)
  | .trap => ((Trap.ofVector? i.vector).map Trap.outcome).getD .running
  | _ => .running

/-- An instruction that is no trap goes on, or has no meaning: none of them halts. -/
theorem Instruction.outcome_cases {i : Instruction} (h : i.opcode ≠ .trap) (address : Word) :
    i.outcome address = .running
      ∨ i.outcome address = .fault (.reservedOpcode i.code address) := by
  unfold outcome
  cases hopcode : i.opcode with
  | trap => exact absurd hopcode h
  | rti | res => exact .inr rfl
  | _ => exact .inl rfl

namespace Core

/-- An instruction that is no trap cannot fail. -/
theorem heeds_execute_of_ne_trap {i : Instruction} (h : i.opcode ≠ .trap) (config : Config)
    (address : Word) (core : Core) :
    (core.execute config address i).Heeds (fun _ _ => False) (·.1 = i.outcome address) := by
  unfold execute Instruction.outcome
  cases hopcode : i.opcode with
  | br =>
    dsimp only
    split <;> exact rfl
  | add | and | not | lea | jmp | jsr | st | str => exact rfl
  | ld | ldr => exact (core.cannotFail_read _).bind fun _ => rfl
  | ldi =>
    exact (core.cannotFail_read _).bind fun (_, core) =>
      (core.cannotFail_read _).bind fun _ => rfl
  | sti => exact (core.cannotFail_read _).bind fun _ => rfl
  | rti | res => exact rfl
  | trap => exact absurd hopcode h

/-- **An instruction ends in its outcome**, or in the fault of the device that
failed first. -/
theorem endsIn_execute (config : Config) (address : Word) (core : Core) (i : Instruction) :
    (core.execute config address i).EndsIn (i.outcome address) := by
  by_cases htrap : i.opcode = .trap
  · unfold execute Instruction.outcome
    rw [htrap]
    dsimp only
    cases Trap.ofVector? i.vector with
    | some trap => exact trap.endsIn_perform config core
    | none => exact rfl
  · exact (heeds_execute_of_ne_trap htrap config address core).imp (fun _ _ h => h.elim)
      fun _ h => h

/-- **An instruction that is no trap** ends in its outcome, whatever the
devices answer. -/
theorem ends_execute {i : Instruction} (h : i.opcode ≠ .trap) (config : Config)
    (address : Word) (core : Core) :
    (core.execute config address i).Ends (·.1 = i.outcome address) :=
  (heeds_execute_of_ne_trap h config address core).ends.imp fun _ hend =>
    hend.elim id fun ⟨_, _, hfalse⟩ => hfalse.elim

end Core

namespace Machine

/-- **The poll between instructions is borne** when it fails: the machine remembers it
and goes on. -/
theorem cannotFail_pollBetween (m : Machine) : m.pollBetween.CannotFail := by
  unfold pollBetween
  split
  · intro answer
    cases answer with
    | ok found => exact trivial
    | error e => exact trivial
  · exact trivial

/-- A cycle fails where its instruction does. What is left over when nothing fails does
not matter here, so the predicate on its value is trivial. -/
theorem heeds_cycle (m : Machine) :
    m.cycle.Heeds (fun fault result => result.1 = .fault fault) fun _ => True := by
  obtain ⟨core, config, steps, pollFailed⟩ := m
  unfold cycle
  refine core.cannotFail_fetch.bind fun (w, core) => ?_
  dsimp only
  split
  · exact trivial
  · rw [Instruction.decode_eq_ok]
    exact (cannotFail_tell _).bind fun _ =>
      (core.endsIn_execute _ _ _).bind (fun _ _ => trivial) fun _ _ h => h

/-- **A step heeds its devices.** -/
theorem heeds_step (m : Machine) :
    m.step.Heeds (fun fault result => result.1 = .fault fault) fun _ => True := by
  unfold step
  split
  · exact trivial
  · refine m.cannotFail_pollBetween.bind fun m requested => ?_
    cases requested with
    | true => exact trivial
    | false => exact m.heeds_cycle

end Machine

end LC3
