import LC3.Console.Collector
import LC3.Proofs.AlikeSessions
import LC3.Proofs.Programs

/-!
# Piped input is typed input

A program that is given its input through a stream is to behave as if the
same characters were typed: the ones before the end of the input, that is
(`Stream.text`), and none of those that a stream may have behind it. A stream
is read one byte at a time, a reading may be cut off and tried again, and the
end may be found by a poll that must not count as a request for shutdown; a
scripted keyboard knows nothing of all this. The two are alike nevertheless,
so no session that does not type can tell which one it has
(`System.piped_eq_scripted`). It asks both keyboards equally often, and the
characters that were handed out and the ones still unread are the text.
-/

namespace LC3

open Exchange (isQuestion questions delivered delivered_append)
open Delivers (Sound unread)

/-! ## How often the keyboard was asked -/

namespace Exchange

/-- **How often the keyboard was asked**, and what for. -/
def usage (exchanges : List Exchange) : Usage := exchanges.foldl Usage.add {}

/-- Only questions count. -/
theorem usage_questions (exchanges : List Exchange) :
    usage (questions exchanges) = usage exchanges := by
  unfold usage
  generalize ({} : Usage) = before
  induction exchanges generalizing before with
  | nil => rfl
  | cons e rest ih =>
    unfold questions
    cases e with
    | reported event => exact ih _
    | _ => exact ih _

end Exchange

/-! ## What a session hands out -/

namespace System

variable {κ ω α β : Type} [Delivers κ] [Console ω]

/-- **What a system hands out was unread**, in order, and the rest still
is. -/
structure Hands (s : System κ ω) (result : α × System κ ω × List Exchange) : Prop where
  sound : Sound result.2.1.keyboard
  delivered : delivered result.2.2 ++ unread result.2.1.keyboard = unread s.keyboard

/-- What the machine does with the devices hands out no more than was unread. -/
theorem hands_act {s : System κ ω} (h : Sound s.keyboard)
    {dialogue : Machine → Dialogue (α × Machine)} (hd : ∀ m, (dialogue m).Composed) :
    Hands s (s.act dialogue) :=
  have ⟨hsound, hdelivered⟩ := (hd s.machine).hands h s.console
  ⟨hsound, hdelivered⟩

omit [Console ω] in
/-- What is handed out first comes before what is handed out later. -/
theorem Hands.append {s : System κ ω} {first : α × System κ ω × List Exchange}
    {later : β × System κ ω × List Exchange} (h : Hands s first) (h' : Hands first.2.1 later) :
    Hands s (later.1, later.2.1, first.2.2 ++ later.2.2) := by
  refine ⟨h'.sound, ?_⟩
  rw [delivered_append, List.append_assoc, h'.delivered]
  exact h.delivered

/-- A run hands out what its steps do. -/
theorem Runs.hands {s : System κ ω} {result : Outcome × System κ ω × List Exchange}
    (hruns : Runs Machine.step s result) (h : Sound s.keyboard) : Hands s result := by
  induction hruns with
  | stop =>
    obtain ⟨hsound, hdelivered⟩ := hands_act h Machine.composed_step
    refine ⟨hsound, ?_⟩
    have hlast : ∀ (outcome : Outcome) (s : System κ ω),
        Exchange.delivered (lastReport outcome s) = [] := by
      intro outcome s
      unfold lastReport
      split <;> rfl
    rw [delivered_append, hlast, List.append_nil]
    exact hdelivered
  | go _ _ ih =>
    have hstep := hands_act h Machine.composed_step
    exact hstep.append (ih hstep.sound)

/-- **Steps** hand out what was unread. -/
theorem hands_after {s : System κ ω} (h : Sound s.keyboard) (n : Nat) :
    Sound (s.after n).keyboard
      ∧ delivered (s.trace n) ++ unread (s.after n).keyboard = unread s.keyboard := by
  induction n generalizing s with
  | zero => exact ⟨h, rfl⟩
  | succ n ih =>
    obtain ⟨hsound, hdelivered⟩ := hands_act (s := s) h Machine.composed_step
    obtain ⟨hsound', hdelivered'⟩ := ih (s := s.next) hsound
    refine ⟨hsound', ?_⟩
    rw [trace_succ, delivered_append, List.append_assoc]
    exact (congrArg (_ ++ ·) hdelivered').trans hdelivered

/-- **A command that does not type** hands out what was unread. -/
theorem hands_obeyed {s : System κ ω} (h : Sound s.keyboard) {command : Command}
    (htypes : ∀ characters, command ≠ .type characters) : Hands s (s.obeyed command) := by
  by_cases hruns : command = .run
  · obtain ⟨hsound, hdelivered⟩ := s.runs_run.hands h
    rw [hruns]
    exact ⟨hsound, hdelivered⟩
  · obtain ⟨dialogue, hd, hobeyed⟩ := exists_doneBy htypes hruns
    rw [hobeyed]
    exact hands_act h hd

/-- **A session without typing** hands out what was unread. -/
theorem hands_obeyAll {s : System κ ω} (h : Sound s.keyboard) {commands : List Command}
    (htypes : ∀ characters, .type characters ∉ commands) : Hands s (s.obeyAll commands) := by
  induction commands generalizing s with
  | nil => exact ⟨h, rfl⟩
  | cons command rest ih =>
    have hfirst := hands_obeyed h fun characters hcommand =>
      htypes characters (hcommand ▸ List.mem_cons_self)
    have hlater := ih hfirst.sound fun characters hmem =>
      htypes characters (List.mem_cons_of_mem _ hmem)
    have hboth := hfirst.append hlater
    exact ⟨hboth.sound, hboth.delivered⟩

end System

/-! ## Streams and texts -/

namespace Stream

/-- A stream and its text, typed, are alike. -/
theorem alike_text {steps : List StreamStep} (h : ∀ e, .failure e ∉ steps) :
    Alike ({ steps } : Stream) ({ queue := text steps } : Scripted) :=
  ⟨h, trivial, rfl, rfl⟩

end Stream

namespace System

variable {ω : Type} [Console ω]

/-- Input that is cut off, and goes on behind its end. -/
def cutOffInput : List StreamStep := [.byte 0x61, .cutOff, .byte 0x62, .finish, .byte 0x63]

/-- **Piped input is typed input.** A session without typing, with a keyboard
on a stream that does not fail, is responded to as with the text of the stream
on a scripted keyboard; the machine, the console and whether shutdown was
requested are the same at its end, and so are the questions to the devices
and their answers, and how often the keyboard was asked. The stream hands out
the first characters of its text and no others. -/
theorem piped_eq_scripted (machine : Machine) (console : ω) {steps : List StreamStep}
    (hfailure : ∀ e, .failure e ∉ steps) {commands : List Command}
    (htypes : ∀ characters, .type characters ∉ commands) :
    let piped := obeyAll ⟨machine, ({ steps } : Stream), console⟩ commands
    let scripted := obeyAll ⟨machine, ({ queue := Stream.text steps } : Scripted), console⟩ commands
    piped.1 = scripted.1
      ∧ piped.2.1.machine = scripted.2.1.machine
      ∧ piped.2.1.console = scripted.2.1.console
      ∧ Keyboard.requested piped.2.1.keyboard = Keyboard.requested scripted.2.1.keyboard
      ∧ questions piped.2.2 = questions scripted.2.2
      ∧ Exchange.usage piped.2.2 = Exchange.usage scripted.2.2
      ∧ delivered piped.2.2 ++ piped.2.1.keyboard.unread = Stream.text steps := by
  have halike : Alike ⟨machine, ({ steps } : Stream), console⟩
      ⟨machine, ({ queue := Stream.text steps } : Scripted), console⟩ :=
    ⟨rfl, Stream.alike_text hfailure, rfl⟩
  obtain ⟨hresponses, hsystem, hquestions⟩ := halike.obeyAll htypes
  refine ⟨hresponses, hsystem.machine, hsystem.console, hsystem.keyboard.requested, hquestions,
    ?_, (hands_obeyAll (show Sound _ from hfailure) htypes).delivered⟩
  rw [← Exchange.usage_questions, ← Exchange.usage_questions (obeyAll _ _).2.2]
  exact congrArg Exchange.usage hquestions

/-- A program that waits for three characters gets the two before the end of
the input. -/
theorem cutOffInput_eq_scripted :
    let piped := obeyAll ⟨Machine.loaded [0xF020, 0xF020, 0xF020, 0xF025],
      ({ steps := cutOffInput } : Stream), ({} : Collector)⟩ [.step, .run]
    (∀ e, .failure e ∉ cutOffInput) ∧ (∀ characters, .type characters ∉ [Command.step, .run])
      ∧ Stream.text cutOffInput = [0x61, 0x62]
      ∧ delivered piped.2.2 ++ piped.2.1.keyboard.unread = [0x61, 0x62] := by
  have hfailure : ∀ e, .failure e ∉ cutOffInput := by
    intro e
    simp [cutOffInput]
  have htypes : ∀ characters, .type characters ∉ [Command.step, .run] := by
    intro characters
    simp
  obtain ⟨-, -, -, -, -, -, hdelivered⟩ := piped_eq_scripted
    (Machine.loaded [0xF020, 0xF020, 0xF020, 0xF025]) ({} : Collector) hfailure htypes
  exact ⟨hfailure, htypes, rfl, hdelivered⟩

end System

end LC3
