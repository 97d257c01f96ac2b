import LC3.Session

/-!
# Dialogues composed of phrases

Most trees of questions are no dialogue of the machine. In the dialogues that
are, questions come in a few fixed **phrases**: a character that a poll found
is taken at once, if it is taken at all; what is written is flushed. Every
dialogue of the machine is composed of phrases, one after another, the next
one chosen by what the last one was answered (`Machine.composed_step`, and so
for whatever else a session does). What survives composition therefore holds
of all of them as soon as it holds of the phrases. This module does the
composing once, for every such property.

A phrase is larger than a question, and has to be. That a character is taken
only if a poll has found it cannot be said of the question that takes it, and
that every write is followed by a flush cannot be said of the write. Of whole
phrases both are true without a look at what comes before or behind, which is
why the properties that go through dialogues phrase by phrase would not go
through them question by question.

There is one lemma for each part of the machine, and its proof takes the part
apart as its definition puts it together. None of them asks what the phrases
are answered: a dialogue is composed for all answers at once.
-/

namespace LC3

namespace Dialogue

/-- **The phrases** of the machine. -/
inductive Phrase : {α : Type} → Dialogue α → Prop where
  /-- The keyboard is polled, and a character that is found is left there. -/
  | poll : Phrase pollKeyboard
  /-- The keyboard is polled, and a character that is found is taken. -/
  | arrival : Phrase Memory.arrival
  /-- A character is waited for. -/
  | wait : Phrase awaitCharacter
  /-- The keyboard is asked whether shutdown was requested. -/
  | requested : Phrase shutdownRequested
  /-- A message is written and made visible. -/
  | say (message : List UInt8) : Phrase (say message)
  /-- An event is reported. -/
  | tell (event : Event) : Phrase (tell event)

/-- **A dialogue composed of phrases.** -/
inductive Composed : {α : Type} → Dialogue α → Prop where
  /-- Nothing is left to be said. -/
  | done {α : Type} (a : α) : Composed (done a)
  /-- A phrase. -/
  | phrase {α : Type} {x : Dialogue α} (h : Phrase x) : Composed x
  /-- One dialogue after another. -/
  | bind {α β : Type} {x : Dialogue α} {f : α → Dialogue β} (hx : Composed x)
      (hf : ∀ a, Composed (f a)) : Composed (x >>= f)

/-- A report is a phrase of its own. -/
theorem composed_tell (event : Event) : (tell event).Composed := .phrase (.tell event)

end Dialogue

open Dialogue (Composed composed_tell)

/-! ## Reading and storing

Only the status register asks the keyboard anything. The data register and the
cells are read without a question; what they add is at most a report. -/

/-- **A read is composed of phrases**: the arrival of a character, if the status is read
while none is held, and a report; or nothing at all. -/
theorem Memory.composed_read (m : Memory) (a : Word) : (m.read a).Composed := by
  unfold read
  cases KeyboardRegister.ofAddress? a with
  | none => exact .done _
  | some register =>
    cases register with
    | status =>
      show m.readStatus.Composed
      unfold readStatus
      split
      · exact (composed_tell _).bind fun _ => .done _
      · exact Composed.bind (.phrase .arrival) fun _ => (composed_tell _).bind fun _ => .done _
    | data => exact (composed_tell _).bind fun _ => .done _

namespace Core

/-- Going on says nothing. -/
theorem composed_goOn (core : Core) : core.goOn.Composed := .done _

/-- A read by an instruction is a read of its memory. -/
theorem composed_read (core : Core) (a : Word) : (core.read a).Composed :=
  (core.memory.composed_read a).bind fun _ => .done _

/-- A store asks nobody, but it is reported. -/
theorem composed_store (core : Core) (i : Fin 8) (a : Word) : (core.store i a).Composed :=
  (composed_tell _).bind fun _ => .done _

/-- A fetch is a read. -/
theorem composed_fetch (core : Core) : core.fetch.Composed :=
  (core.memory.composed_read _).bind fun _ => .done _

end Core

/-! ## Traps

A routine writes and waits in phrases too: what it writes it flushes, and a wait
stands alone. What a wait leads to is a routine again, so `composed_receive`
takes its sequel as it is. -/

namespace Trap

/-- A string is read word by word. -/
theorem composed_gather (packing : Packing) (count : Nat) (a : Word) (m : Memory)
    (before : List UInt8) : (gather packing count a m before).Composed := by
  induction count generalizing a m before with
  | zero => exact .done _
  | succ count ih =>
    rw [gather_succ]
    refine (m.composed_read a).bind fun (w, m) => ?_
    dsimp only
    split
    · exact .done _
    · exact ih _ _ _

/-- Printing is one phrase, whatever becomes of it. -/
theorem composed_print (core : Core) (message : List UInt8) (outcome : Outcome) :
    (print core message outcome).Composed := by
  unfold print
  refine Composed.bind (.phrase (.say message)) fun answer => ?_
  cases answer with
  | ok => exact .done _
  | error e => exact .done _

/-- **A wait is a phrase**, and what is done with the character is composed if it is so
for every character that may come. -/
theorem composed_receive (core : Core) {next : UInt8 → Core → Dialogue (Outcome × Core)}
    (h : ∀ c core, (next c core).Composed) : (receive core next).Composed := by
  unfold receive
  refine Composed.bind (.phrase .wait) fun answer => ?_
  match answer with
  | .ok (some c) => exact h _ _
  | .ok none => exact .done _
  | .error e => exact .done _

/-- A string is read first and printed when it was read. -/
theorem composed_printString (packing : Packing) (core : Core) :
    (printString packing core).Composed := by
  unfold printString
  exact (composed_gather packing _ _ _ _).bind fun _ => composed_print _ _ _

/-- **A routine is composed of phrases**, whichever trap it belongs to. -/
theorem composed_perform (config : Config) (core : Core) (trap : Trap) :
    (trap.perform config core).Composed := by
  cases trap with
  | getC => exact composed_receive core fun _ _ => .done _
  | out => exact composed_print core _ _
  | putS | putSP => exact composed_printString _ core
  | input =>
    unfold perform
    refine Composed.bind (.phrase (.say _)) fun answer => ?_
    cases answer with
    | ok => exact composed_receive core fun _ core => composed_print core _ _
    | error e => exact .done _
  | halt =>
    unfold perform
    dsimp only
    split
    · exact composed_print core _ _
    · exact .done _

end Trap

/-! ## Whole steps

An instruction reads and stores by what was said above, and the rest of it are
registers, of which no device hears. A step puts the poll and the question for
shutdown in front. -/

/-- **An instruction is composed of phrases**, one case for each operation. -/
theorem Core.composed_execute (config : Config) (address : Word) (core : Core)
    (i : Instruction) : (core.execute config address i).Composed := by
  unfold execute
  cases i.opcode with
  | br =>
    dsimp only
    split <;> exact composed_goOn _
  | add | and | not | lea | jmp | jsr => exact composed_goOn _
  | ld | ldr => exact (core.composed_read _).bind fun _ => composed_goOn _
  | ldi =>
    exact (core.composed_read _).bind fun (_, core) =>
      (core.composed_read _).bind fun _ => composed_goOn _
  | st | str => exact (core.composed_store _ _).bind fun _ => composed_goOn _
  | sti =>
    exact (core.composed_read _).bind fun (_, core) =>
      (core.composed_store _ _).bind fun _ => composed_goOn _
  | rti | res => exact (composed_tell _).bind fun _ => .done _
  | trap =>
    dsimp only
    split
    · exact Trap.composed_perform config core _
    · exact (composed_tell _).bind fun _ => composed_goOn _

namespace Machine

/-- The poll between instructions is the one phrase that leaves a character where it was
found. -/
theorem composed_pollBetween (m : Machine) : m.pollBetween.Composed := by
  unfold pollBetween
  split
  · refine Composed.bind (.phrase .poll) fun answer => ?_
    cases answer with
    | ok found => exact .done _
    | error e => exact (composed_tell _).bind fun _ => .done _
  · exact .done _

/-- Fetching is a read, and decoding asks nobody. -/
theorem composed_cycle (m : Machine) : m.cycle.Composed := by
  obtain ⟨core, config, steps, pollFailed⟩ := m
  unfold cycle
  refine core.composed_fetch.bind fun (w, core) => ?_
  dsimp only
  split
  · exact .done _
  · split
    · exact .done _
    · exact (composed_tell _).bind fun _ =>
        (core.composed_execute _ _ _).bind fun _ => .done _

/-- **A step is composed of phrases.** -/
theorem composed_step (m : Machine) : m.step.Composed := by
  unfold step
  split
  · exact (composed_tell _).bind fun _ => .done _
  · refine m.composed_pollBetween.bind fun m => Composed.bind (.phrase .requested) fun _ => ?_
    split
    · exact (composed_tell _).bind fun _ => .done _
    · exact m.composed_cycle

/-! ## Other acts of the machine

What a session does besides stepping reports more than it asks. It is listed
here so that a session as a whole is composed of phrases. -/

/-- A reset is only reported. -/
theorem composed_reset (m : Machine) : m.reset.Composed :=
  (composed_tell _).bind fun _ => .done _

/-- So is a program that is loaded; one that is refused is not even that. -/
theorem composed_load (m : Machine) (program : List Word) : (m.load program).Composed := by
  unfold load
  split
  · exact .done _
  · split
    · exact .done _
    · exact (composed_reset _).bind fun _ => (composed_tell _).bind fun _ => .done _

/-- An image is refused or loaded like a program. -/
theorem composed_loadImage (m : Machine) (image : List UInt8) :
    (m.loadImage image).Composed := by
  unfold loadImage
  split
  · exact .done _
  · exact m.composed_load _

/-- A store from outside is reported like one by a program, -/
theorem composed_write (m : Machine) (a value : Word) : (m.write a value).Composed :=
  (composed_tell _).bind fun _ => .done _

/-- and a read from outside is a read. -/
theorem composed_read (m : Machine) (a : Word) : (m.read a).Composed :=
  (m.core.composed_read a).bind fun _ => .done _

end Machine

end LC3
