import LC3.Console.Collector
import LC3.Keyboard.Scripted
import LC3.Proofs.DeviceFailures
import LC3.Proofs.Programs
import LC3.Proofs.Runs

/-!
# Consoles that break

A console may have room for only so many bytes. Compare it with a console that
takes everything: as long as what is written fits, the two answer alike, and
the machine cannot tell them apart. The write that does not fit is cut short
and fails, and since a step heeds its devices it ends there, with nothing
written behind the cut.

So the run on the narrow console is the run on the wide one up to the step that
runs out of room, this step is a fault of the device, and what the narrow
console holds then is as much of the output as it has room for
(`System.broken_console`). It does not matter where in a step the cut is.

The comparison is an induction over a dialogue, with one hypothesis: that the
dialogue heeds its devices (`Dialogue.Heeds`). Without it the machine could
swallow a failed write and go on, and the narrow console would miss something
in the middle and not only at the end.
-/

namespace LC3

/-- **What the console took** in some exchanges, in order. -/
def Exchange.written (exchanges : List Exchange) : List UInt8 :=
  exchanges.flatMap fun
    | wrote bytes (.ok ()) => bytes
    | _ => []

namespace Exchange

/-- What was written in two parts is written one part after the other. -/
theorem written_append (before later : List Exchange) :
    written (before ++ later) = written before ++ written later := List.flatMap_append

/-- Reports are for the observer, and are not written to the console. -/
theorem written_reported (events : List Event) : written (events.map reported) = [] := by
  rw [written, List.flatMap_eq_nil_iff]
  intro e hmem
  obtain ⟨event, -, rfl⟩ := List.mem_map.1 hmem
  rfl

end Exchange

namespace Collector

/-- **A console that takes everything.** -/
structure Wide (c : Collector) : Prop where
  room : c.room = none
  flushes : c.flushFails = false

/-- **The same console with room** for so many bytes altogether. -/
def within (c : Collector) (capacity : Nat) : Collector :=
  { c with room := some (capacity - c.bytes.size) }

/-- The console after a message that it took. -/
def taking (c : Collector) (message : List UInt8) : Collector :=
  { c with bytes := c.bytes ++ message }

variable {c : Collector} {message : List UInt8} {capacity : Nat}

/-- A message that is taken is kept whole. -/
theorem size_taking : (c.taking message).bytes.size = c.bytes.size + message.length := by
  rw [← Array.length_toList, ← Array.length_toList, ← List.length_append]
  exact congrArg List.length Array.toList_appendList

/-- A wide console takes every message and never fails. -/
theorem Wide.write (h : c.Wide) (message : List UInt8) :
    Console.write c message = (.ok (), c.taking message) := by
  obtain ⟨bytes, flushes, room, flushFails⟩ := c
  obtain ⟨rfl, -⟩ := h
  rfl

/-- It stays wide: what it takes uses up no room. -/
theorem Wide.taking (h : c.Wide) (message : List UInt8) : (c.taking message).Wide := ⟨h.1, h.2⟩

/-- It can be flushed, too. -/
theorem Wide.flush (h : c.Wide) :
    Console.flush c = (.ok (), { c with flushes := c.flushes + 1 }) := by
  obtain ⟨bytes, flushes, room, flushFails⟩ := c
  obtain ⟨-, rfl⟩ := h
  rfl

/-- A flush needs no room, so the narrow console does not fail at it either. -/
theorem Wide.flush_within (h : c.Wide) :
    Console.flush (c.within capacity)
      = (.ok (), within { c with flushes := c.flushes + 1 } capacity) := by
  obtain ⟨bytes, flushes, room, flushFails⟩ := c
  obtain ⟨-, rfl⟩ := h
  rfl

/-- A message for which there is room is taken. -/
theorem write_within (hroom : c.bytes.size + message.length ≤ capacity) :
    Console.write (c.within capacity) message
      = (.ok (), (c.taking message).within capacity) := by
  have hfits : message.length ≤ capacity - c.bytes.size := by omega
  have hleft : capacity - c.bytes.size - message.length
      = capacity - (c.taking message).bytes.size := by
    rw [size_taking]
    omega
  show (if message.length ≤ capacity - c.bytes.size then _ else _) = _
  rw [if_pos hfits, hleft]
  rfl

/-- Of another message the console takes what it has room for, and fails. -/
theorem write_within_of_lt (hroom : c.bytes.size ≤ capacity)
    (hlong : capacity < c.bytes.size + message.length) :
    ∃ narrow : Collector,
      Console.write (c.within capacity) message = (.error brokenPipe, narrow)
        ∧ narrow.bytes.toList = (c.taking message).bytes.toList.take capacity := by
  refine ⟨_, if_neg (show ¬ message.length ≤ capacity - c.bytes.size by omega), ?_⟩
  show (c.bytes ++ message.take (capacity - c.bytes.size)).toList
    = (c.bytes ++ message).toList.take capacity
  -- all of what was there is within the capacity, and the message is cut at what is left of
  -- it
  rw [Array.toList_appendList, Array.toList_appendList, List.take_append,
    List.take_of_length_le hroom, Array.length_toList]

end Collector

open Collector (Wide brokenPipe)

/-! ## Dialogues

A wide console answers every write and flush with success, so it is enough to
follow a dialogue along these answers. Where the narrow console gives another
answer the dialogue is over, and this is where the two courses part. -/

namespace Dialogue

variable {κ α : Type} [Keyboard κ]

/-- **A console that takes everything** stays one, and has what was written. -/
theorem hold_wide (x : Dialogue α) (k : κ) {c : Collector} (h : c.Wide) :
    (x.hold k c).console.Wide
      ∧ (x.hold k c).console.bytes.toList
        = c.bytes.toList ++ Exchange.written (x.hold k c).exchanges := by
  induction x generalizing k c with
  | done a => exact ⟨h, (List.append_nil _).symm⟩
  | poll next ih =>
    obtain ⟨hwide, hbytes⟩ := ih (Keyboard.poll k).answer (Keyboard.poll k).keyboard h
    refine ⟨hwide, hbytes.trans ?_⟩
    show _ = _ ++ Exchange.written (_ ++ _)
    rw [Exchange.written_append, Exchange.written_append, Exchange.written_reported]
    rfl
  | take next ih => exact ih _ _ h
  | wait next ih =>
    obtain ⟨hwide, hbytes⟩ := ih (Keyboard.wait k).answer (Keyboard.wait k).keyboard h
    refine ⟨hwide, hbytes.trans ?_⟩
    show _ = _ ++ Exchange.written (_ ++ _)
    rw [Exchange.written_append, Exchange.written_append, Exchange.written_reported]
    rfl
  | requested next ih => exact ih _ _ h
  | write bytes next ih =>
    obtain ⟨hwide, hbytes⟩ := ih (.ok ()) k (h.taking bytes)
    unfold hold
    rw [h.write]
    refine ⟨hwide, hbytes.trans ?_⟩
    show (c.bytes ++ bytes).toList ++ _ = _
    rw [Array.toList_appendList, List.append_assoc]
    rfl
  | flush next ih =>
    unfold hold
    rw [h.flush]
    exact ih (.ok ()) k ⟨h.1, h.2⟩
  | report event rest ih => exact ih _ h

/-- What cannot fail writes nothing. -/
theorem Heeds.written_eq_nil {ω : Type} [Console ω] {P : α → Prop} {x : Dialogue α}
    (h : x.Heeds (fun _ _ => False) P) (k : κ) (c : ω) :
    Exchange.written (x.hold k c).exchanges = [] := by
  induction x generalizing k c with
  | done a => rfl
  | poll next ih =>
    show Exchange.written (_ ++ _ ++ _) = []
    rw [Exchange.written_append, Exchange.written_append, Exchange.written_reported, ih _ (h _)]
    rfl
  | take next ih => exact ih _ (h _) _ _
  | wait next ih =>
    obtain ⟨a, -, hfalse⟩ := h.2.1.eq_done
    exact hfalse.elim
  | requested next ih => exact ih _ (h _) _ _
  | write bytes next ih =>
    obtain ⟨a, -, hfalse⟩ := (h.2 brokenPipe).eq_done
    exact hfalse.elim
  | flush next ih =>
    obtain ⟨a, -, hfalse⟩ := (h.2 brokenPipe).eq_done
    exact hfalse.elim
  | report event rest ih => exact ih h _ _

/-- A message that is not empty is written and flushed. -/
theorem hold_say_of_wide {message : List UInt8} (hne : message.isEmpty = false) (k : κ)
    {c : Collector} (h : c.Wide) :
    (say message).hold k c
      = ⟨.ok (), k, { c.taking message with flushes := c.flushes + 1 },
          [.wrote message (.ok ()), .flushed (.ok ())]⟩ := by
  unfold say
  rw [hne, if_neg Bool.false_ne_true]
  unfold hold
  rw [h.write]
  show ((flush done).hold k (c.taking message)).after _ = _
  unfold hold
  rw [(h.taking message).flush]
  rfl

/-- An empty message is only flushed. -/
theorem hold_say_nil (k : κ) {c : Collector} (h : c.Wide) :
    (say []).hold k c = ⟨.ok (), k, { c with flushes := c.flushes + 1 }, [.flushed (.ok ())]⟩ := by
  show (flush done).hold k c = _
  unfold hold
  rw [h.flush]
  rfl

/-- **A console that takes everything takes a message** as it is. -/
theorem value_say_of_wide (message : List UInt8) (k : κ) {c : Collector} (h : c.Wide) :
    ((say message).hold k c).value = .ok () := by
  cases message with
  | nil => rw [hold_say_nil k h]
  | cons b rest => rw [hold_say_of_wide rfl k h]

/-- **It is written once**, and nothing besides it. -/
theorem written_say_of_wide (message : List UInt8) (k : κ) {c : Collector} (h : c.Wide) :
    Exchange.written ((say message).hold k c).exchanges = message := by
  cases message with
  | nil =>
    rw [hold_say_nil k h]
    rfl
  | cons b rest =>
    rw [hold_say_of_wide rfl k h]
    exact List.append_nil _

end Dialogue

namespace Course

variable {κ α : Type}

/-- **A course on a console with room for so much**, compared with the course on
a console that takes everything: the same if there was room enough, and
otherwise a fault of the console, which holds as much as it had room for. -/
structure CutAt (failed : Fault → α → Prop) (capacity : Nat)
    (wide narrow : Course κ Collector α) : Prop where
  same : wide.console.bytes.size ≤ capacity →
    narrow = { wide with console := wide.console.within capacity }
  cut : capacity < wide.console.bytes.size →
    failed (.device brokenPipe) narrow.value
      ∧ narrow.console.bytes.toList = wide.console.bytes.toList.take capacity

/-- What happened before changes neither the value nor the console of a course. -/
theorem CutAt.after {failed : Fault → α → Prop} {capacity : Nat}
    {wide narrow : Course κ Collector α} (h : CutAt failed capacity wide narrow)
    (before : List Exchange) :
    CutAt failed capacity (wide.after before) (narrow.after before) where
  same hle := congrArg (Course.after · before) (h.same hle)
  cut := h.cut

end Course

namespace Dialogue

variable {κ α : Type} [Keyboard κ] {failed : Fault → α → Prop} {capacity : Nat} {c : Collector}

/-- There is room enough where nothing is written. -/
theorem Over.hold_within {P : α → Prop} {x : Dialogue α} (h : x.Over P) (k : κ)
    (hroom : c.bytes.size ≤ capacity) :
    (x.hold k c).CutAt failed capacity (x.hold k (c.within capacity)) := by
  obtain ⟨a, rfl, -⟩ := h.eq_done
  exact ⟨fun _ => rfl, fun hlong => absurd hroom (Nat.not_le_of_lt hlong)⟩

/-- **A dialogue that heeds its devices** is cut at the room that there is. -/
theorem Heeds.hold_within {P : α → Prop} {x : Dialogue α} (h : x.Heeds failed P) (k : κ)
    (hwide : c.Wide) (hroom : c.bytes.size ≤ capacity) :
    (x.hold k c).CutAt failed capacity (x.hold k (c.within capacity)) := by
  induction x generalizing k c with
  | done a =>
    -- a dialogue that is over writes nothing more: this is also where the failures below
    -- end
    have hover : (done a : Dialogue α).Over fun _ => True := trivial
    exact hover.hold_within k hroom
  | poll next ih => exact (ih _ (h _) _ hwide hroom).after _
  | take next ih => exact (ih _ (h _) _ hwide hroom).after _
  | wait next ih =>
    obtain ⟨hsome, hnone, herror⟩ := h
    unfold Dialogue.hold
    dsimp only
    refine Course.CutAt.after ?_ _
    cases (Keyboard.wait k).answer with
    | ok found =>
      cases found with
      | some character => exact ih _ (hsome character) _ hwide hroom
      | none => exact hnone.hold_within _ hroom
    | error e => exact (herror e).hold_within _ hroom
  | requested next ih => exact (ih _ (h _) _ hwide hroom).after _
  | write bytes next ih =>
    unfold Dialogue.hold
    rw [hwide.write]
    by_cases hfits : c.bytes.size + bytes.length ≤ capacity
    · rw [Collector.write_within hfits]
      exact (ih _ h.1 k (hwide.taking bytes) (Collector.size_taking ▸ hfits)).after _
    · -- what is written later does not matter: the cut is within this message
      obtain ⟨narrow, hwrite, hbytes⟩ :=
        Collector.write_within_of_lt hroom (Nat.lt_of_not_le hfits)
      obtain ⟨a, hdone, ha⟩ := (h.2 brokenPipe).eq_done
      obtain ⟨-, hwritten⟩ := (next (.ok ())).hold_wide k (hwide.taking bytes)
      have hlong : capacity < (c.taking bytes).bytes.toList.length := by
        rw [Array.length_toList, Collector.size_taking]
        exact Nat.lt_of_not_le hfits
      rw [hwrite]
      dsimp only
      rw [hdone]
      refine ⟨fun hle => ?_, fun _ => ⟨ha, ?_⟩⟩
      · rw [Course.after_console, ← Array.length_toList, hwritten, List.length_append] at hle
        omega
      · rw [Course.after_console, Course.after_console, hwritten,
          List.take_append_of_le_length (Nat.le_of_lt hlong)]
        exact hbytes
  | flush next ih =>
    unfold Dialogue.hold
    rw [hwide.flush, hwide.flush_within]
    have hflushed : Wide { c with flushes := c.flushes + 1 } := ⟨hwide.1, hwide.2⟩
    exact (ih _ h.1 k hflushed hroom).after _
  | report event rest ih => exact (ih h k hwide hroom).after _

end Dialogue

namespace System

variable {κ : Type} [Keyboard κ]

/-! ## Steps

A step heeds its devices (`Machine.heeds_step`), so it is a case of the above.
The two possibilities, that the step fits and that it does not, are told apart
by the wide console after the step. -/

/-- The system on a console with room for so many bytes altogether. -/
def within (s : System κ Collector) (capacity : Nat) : System κ Collector :=
  { s with console := s.console.within capacity }

/-- A step leaves a wide console wide, with what the step wrote behind the rest. -/
theorem wide_next {s : System κ Collector} (h : s.console.Wide) :
    s.next.console.Wide
      ∧ s.next.console.bytes.toList
        = s.console.bytes.toList ++ Exchange.written s.step.2.2 :=
  s.machine.step.hold_wide s.keyboard h

/-- So does a run. The induction is on the first step, as the trace is written. -/
theorem wide_after {s : System κ Collector} (h : s.console.Wide) (n : Nat) :
    (s.after n).console.Wide
      ∧ (s.after n).console.bytes.toList
        = s.console.bytes.toList ++ Exchange.written (s.trace n) := by
  induction n generalizing s with
  | zero => exact ⟨h, (List.append_nil _).symm⟩
  | succ n ih =>
    obtain ⟨hnext, hbytes⟩ := wide_next h
    obtain ⟨hwide, hlater⟩ := ih hnext
    refine ⟨hwide, hlater.trans ?_⟩
    rw [hbytes, trace_succ, Exchange.written_append, List.append_assoc]

variable {capacity : Nat}

/-- **A step for which there is room** is the same. -/
theorem step_within {s : System κ Collector} (hwide : s.console.Wide)
    (hroom : s.console.bytes.size ≤ capacity)
    (hfits : s.next.console.bytes.size ≤ capacity) :
    (s.within capacity).step = (s.step.1, s.next.within capacity, s.step.2.2) := by
  have hsame : s.machine.step.hold s.keyboard (s.console.within capacity) = _ :=
    (s.machine.heeds_step.hold_within s.keyboard hwide hroom).same hfits
  unfold step act within
  dsimp only
  rw [hsame]
  rfl

/-- **A step for which there is no room** ends in a fault of the console. -/
theorem step_within_of_lt {s : System κ Collector} (hwide : s.console.Wide)
    (hroom : s.console.bytes.size ≤ capacity)
    (hlong : capacity < s.next.console.bytes.size) :
    (s.within capacity).step.1 = .fault (.device brokenPipe)
      ∧ (s.within capacity).next.console.bytes.toList
        = s.next.console.bytes.toList.take capacity :=
  (s.machine.heeds_step.hold_within s.keyboard hwide hroom).cut hlong

/-! ## Runs

That the output fits after `n` steps says that it fits after each step before,
since what was written stays. So the runs can be compared from the last step
backwards, with room for all the steps before it. -/

/-- What was written stays. -/
theorem size_le_next {s : System κ Collector} (h : s.console.Wide) :
    s.console.bytes.size ≤ s.next.console.bytes.size := by
  obtain ⟨-, hbytes⟩ := wide_next h
  rw [← Array.length_toList, ← Array.length_toList, hbytes, List.length_append]
  exact Nat.le_add_right _ _

/-- **As long as there is room** the runs are the same, step by step. -/
theorem after_within {s : System κ Collector} (hwide : s.console.Wide) {n : Nat}
    (hfits : (s.after n).console.bytes.size ≤ capacity) :
    (s.within capacity).after n = (s.after n).within capacity
      ∧ (s.within capacity).trace n = s.trace n
      ∧ ∀ i < n, ((s.within capacity).after i).step.1 = (s.after i).step.1 := by
  induction n with
  | zero => exact ⟨rfl, rfl, nofun⟩
  | succ n ih =>
    -- room for all of the steps is room for those before the last
    obtain ⟨hwide', -⟩ := wide_after hwide n
    rw [after_succ'] at hfits
    have hroom := (size_le_next hwide').trans hfits
    obtain ⟨hafter, htrace, houtcomes⟩ := ih hroom
    have hstep := step_within hwide' hroom hfits
    refine ⟨?_, ?_, fun i hi => ?_⟩
    · rw [after_succ', hafter, next, hstep, after_succ']
    · rw [trace_succ', htrace, hafter, hstep, trace_succ']
    · obtain hlt | rfl := Nat.lt_or_eq_of_le (Nat.le_of_lt_succ hi)
      · exact houtcomes i hlt
      · rw [hafter, hstep]

/-- **A character is written** by the trap for it, and made visible. -/
theorem step_out {s : System κ Collector} (hlimit : s.machine.limitReached? = none)
    (hdue : ¬ s.machine.PollIsDue) (hrequested : Keyboard.requested s.keyboard = false)
    (hleft : s.machine.steps ≠ Machine.maxCount)
    (hread : s.machine.core.memory.read s.machine.core.registers.pc
      = .done (0xF021, s.machine.core.memory)) (hwide : s.console.Wide) :
    let character := (s.machine.core.registers.get Registers.r0).lowByte
    s.step = (.running,
      ⟨{ s.machine with
          core := { s.machine.core with registers := s.machine.core.registers.advance }
          steps := s.machine.steps + 1 }, s.keyboard,
        { s.console.taking [character] with flushes := s.console.flushes + 1 }⟩,
      [.asked false, .reported (.executed s.machine.core.registers.pc (.ofWord 0xF021)),
        .wrote [character] (.ok ()), .flushed (.ok ())]) := by
  intro character
  have hexecute : Core.execute s.machine.config s.machine.core.registers.pc
      ⟨s.machine.core.registers.advance, s.machine.core.memory⟩ (.ofWord 0xF021)
      = Trap.print ⟨s.machine.core.registers.advance, s.machine.core.memory⟩ [character]
        .running := rfl
  rw [step_of_cell hlimit hdue hrequested hleft hread, hexecute]
  unfold Trap.print
  rw [Dialogue.hold_bind, Dialogue.hold_say_of_wide rfl s.keyboard hwide]
  rfl

/-- **Output on a console that breaks is a prefix of the full output.** Take a
console that takes everything, and one that has room for so many bytes. As long
as what was written fits, the runs are the same: in the outcomes of the steps,
in the machine and the keyboard, and in what was written and flushed. The first
step that writes more than there is room for is a fault of the narrow console,
which then holds the beginning of what was written, as much of it as there is
room for. -/
theorem broken_console (machine : Machine) (keyboard : κ) (capacity n : Nat) :
    let wide : System κ Collector := ⟨machine, keyboard, {}⟩
    let narrow : System κ Collector := ⟨machine, keyboard, { room := some capacity }⟩
    (wide.after n).console.bytes.size ≤ capacity →
      ((∀ i < n, (narrow.after i).step.1 = (wide.after i).step.1)
        ∧ (narrow.after n).machine = (wide.after n).machine
        ∧ (narrow.after n).keyboard = (wide.after n).keyboard
        ∧ (narrow.after n).console.bytes = (wide.after n).console.bytes
        ∧ (narrow.after n).console.flushes = (wide.after n).console.flushes
        ∧ narrow.trace n = wide.trace n)
      ∧ (capacity < (wide.after (n + 1)).console.bytes.size →
        (narrow.after n).step.1 = .fault (.device brokenPipe)
          ∧ (narrow.after (n + 1)).console.bytes.toList
            = (wide.after (n + 1)).console.bytes.toList.take capacity) := by
  intro wide narrow hfits
  have hwide : wide.console.Wide := ⟨rfl, rfl⟩
  have hnarrow : narrow = wide.within capacity := rfl
  obtain ⟨hafter, htrace, houtcomes⟩ := after_within hwide hfits
  rw [hnarrow]
  refine ⟨⟨houtcomes, ?_, ?_, ?_, ?_, htrace⟩, fun hlong => ?_⟩
  · rw [hafter]
    rfl
  · rw [hafter]
    rfl
  · rw [hafter]
    rfl
  · rw [hafter]
    rfl
  · rw [after_succ'] at hlong
    rw [after_succ', after_succ', hafter]
    exact step_within_of_lt (wide_after hwide n).1 hfits hlong

/-- A program that writes two characters. -/
def outTwice (console : Collector) : System Scripted Collector :=
  ⟨.loaded [0xF021, 0xF021], { queue := [] }, console⟩

/-- **The second of two characters is cut off** where there is room for one. -/
theorem broken_console_outTwice :
    ((outTwice {}).after 1).console.bytes.size ≤ 1
      ∧ 1 < ((outTwice {}).after (1 + 1)).console.bytes.size
      ∧ ((outTwice { room := some 1 }).after 0).step.1 = ((outTwice {}).after 0).step.1
      ∧ ((outTwice { room := some 1 }).after 1).step.1 = .fault (.device brokenPipe)
      ∧ ((outTwice { room := some 1 }).after (1 + 1)).console.bytes.toList
        = ((outTwice {}).after (1 + 1)).console.bytes.toList.take 1 := by
  have hfirst := step_out (s := outTwice {}) rfl (by decide) rfl (by decide)
    (Machine.read_loaded (i := 0) rfl (by decide) (by decide)) ⟨rfl, rfl⟩
  have hsecond := step_out (s := (outTwice {}).next) (by rw [next, hfirst]; rfl)
    (by rw [next, hfirst]; decide) (by rw [next, hfirst]; rfl) (by rw [next, hfirst]; decide)
    (by rw [next, hfirst]; exact Machine.read_loaded (i := 1) rfl (by decide) (by decide))
    (by rw [next, hfirst]; exact ⟨rfl, rfl⟩)
  have hfits : ((outTwice {}).after 1).console.bytes.size ≤ 1 := by
    rw [after_succ, after_zero, next, hfirst]
    decide
  have hlong : 1 < ((outTwice {}).after (1 + 1)).console.bytes.size := by
    rw [after_succ, after_succ, after_zero, next, hsecond, next, hfirst]
    decide
  unfold outTwice at *
  obtain ⟨⟨houtcomes, -⟩, hcut⟩ :=
    broken_console (κ := Scripted) (.loaded [0xF021, 0xF021]) { queue := [] } 1 1 hfits
  exact ⟨hfits, hlong, houtcomes 0 Nat.one_pos, hcut hlong⟩

end System

end LC3
