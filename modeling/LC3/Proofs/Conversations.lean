import LC3.Proofs.PrintedStrings
import LC3.Proofs.SessionSteps
import LC3.Proofs.StepVerdicts

/-!
# What is said and heard

Of all that is exchanged with the devices little concerns a user at the console:
what is written there, that it is made visible, and that the program waits for a
character. This is the **talk** (`Exchange.talk`). Polls and reports are no part
of it, and so nothing is but what the routines of the traps do
(`Dialogue.CannotFail.talk_eq_nil`).

On a console that accepts everything the talk of a routine is told by its three
parts: its message, the wait, and the echo of the character that came
(`Trap.talk`). A step that calls a trap talks as the routine does, and any other
step and any command without steps is silent. The talk of a session is that of
its steps.
-/

namespace LC3

/-! ## Talk

A list of exchanges is filtered, so the order is kept; that is all that matters
for what a user can have seen when the program waits. What an answer was is kept
as well, since a user notices a write that fails. -/

namespace Exchange

/-- **A user takes notice:** something is written, or made visible, or a character
is waited for. -/
def isTalk : Exchange → Bool
  | waited _ | wrote .. | flushed _ => true
  | polled _ | took _ | asked _ | reported _ => false

/-- **The talk** among some exchanges, in order. -/
def talk (exchanges : List Exchange) : List Exchange := exchanges.filter isTalk

/-- What is said in two parts is said one part after the other. -/
@[simp] theorem talk_append (before later : List Exchange) :
    talk (before ++ later) = talk before ++ talk later := List.filter_append _ _

/-- So with any number of parts. -/
theorem talk_flatMap {α : Type} (f : α → List Exchange) (l : List α) :
    talk (l.flatMap f) = l.flatMap fun a => talk (f a) := List.filter_flatMap

/-- Reports are not heard. -/
@[simp] theorem talk_reported (events : List Event) : talk (events.map reported) = [] := by
  simp [talk, isTalk]

/-- Saying a message is talk through and through. -/
@[simp] theorem talk_said (message : List UInt8) : talk (said message) = said message := by
  unfold said
  split <;> rfl

/-- The talk has no exchange of its own. -/
theorem mem_talk {e : Exchange} {exchanges : List Exchange} :
    e ∈ talk exchanges ↔ e ∈ exchanges ∧ e.isTalk = true := List.mem_filter

/-- Flushes are told by the talk. -/
theorem flushes_talk (exchanges : List Exchange) :
    flushes (talk exchanges) = flushes exchanges := by
  unfold flushes talk
  rw [List.countP_filter]
  refine List.countP_congr fun e _ => ?_
  cases e <;> simp [isFlush, isTalk]

end Exchange

open Exchange (talk talk_append talk_reported talk_said)

section Dialogues

variable {κ ω α : Type} [Keyboard κ] [Console ω]

/-- What cannot fail is silent. -/
theorem Dialogue.CannotFail.talk_eq_nil {x : Dialogue α} (h : x.CannotFail) (k : κ) (c : ω) :
    talk (x.hold k c).exchanges = [] := by
  induction x generalizing k c with
  | done a => rfl
  | poll next ih =>
    unfold hold
    rw [Course.after_exchanges, talk_append, talk_append, talk_reported, ih _ (h _)]
    rfl
  | take next ih => exact ih _ (h _) _ _
  | wait next ih =>
    obtain ⟨a, -, hfalse⟩ := h.2.1.eq_done
    exact hfalse.elim
  | requested next ih => exact ih _ (h _) _ _
  | write bytes next ih =>
    obtain ⟨a, -, hfalse⟩ := (h.2 Collector.brokenPipe).eq_done
    exact hfalse.elim
  | flush next ih =>
    obtain ⟨a, -, hfalse⟩ := (h.2 Collector.brokenPipe).eq_done
    exact hfalse.elim
  | report event rest ih => exact ih h _ _

/-- A console that accepts everything goes on to do so. -/
theorem Console.AcceptsAll.hold {c : ω} (h : Console.AcceptsAll c) (x : Dialogue α) (k : κ) :
    Console.AcceptsAll (x.hold k c).console := by
  induction x generalizing k c with
  | done a => exact h
  | poll next ih => exact ih _ h _
  | take next ih => exact ih _ h _
  | wait next ih => exact ih _ h _
  | requested next ih => exact ih _ h _
  | write bytes next ih => exact ih _ (h.write bytes).2 _
  | flush next ih => exact ih _ h.flush.2 _
  | report event rest ih => exact ih h _

/-- So it is after a message. -/
theorem Console.AcceptsAll.say {c : ω} (h : Console.AcceptsAll c) (message : List UInt8) :
    Console.AcceptsAll (Console.say c message).2 := by
  obtain ⟨hwrite, hnext⟩ := h.write message
  unfold Console.say
  split
  · exact h.flush.2
  · generalize Console.write c message = answered at hwrite hnext ⊢
    obtain ⟨answer, c'⟩ := answered
    obtain rfl : answer = .ok () := hwrite
    exact hnext.flush.2

/-! ## The talk of a routine

On a console that accepts everything, a message is said to its end, and this is
said without looking at what the console does with it. A wait may still be
answered in three ways, and only with a character is there something to echo. -/

namespace Trap

/-- On a console that accepts everything a message is printed. -/
theorem hold_print_of_acceptsAll (core : Core) (message : List UInt8) (outcome : Outcome) (k : κ)
    {c : ω} (h : Console.AcceptsAll c) :
    (print core message outcome).hold k c
      = ⟨(outcome, core), k, (Console.say c message).2, Exchange.said message⟩ := by
  unfold print
  rw [Dialogue.hold_bind, Dialogue.hold_say_of_acceptsAll message k h]
  exact Course.after_done _ _ _ _

/-- **A character is received** as the keyboard answers the wait. -/
theorem hold_receive (core : Core) (next : UInt8 → Core → Dialogue (Outcome × Core)) (k : κ)
    (c : ω) :
    (receive core next).hold k c
      = (let later : Dialogue (Outcome × Core) :=
          match (Keyboard.wait k).answer with
          | .ok (some character) =>
            next character { core with
              registers := core.registers.set Registers.r0 character.toUInt16 }
          | .ok none => .done (.fault .interrupted, core)
          | .error e => .done (.fault (.device e), core)
        (later.hold (Keyboard.wait k).keyboard c).after
          ((Keyboard.wait k).events.map .reported ++ [.waited (Keyboard.wait k).answer])) := by
  unfold receive
  rw [Dialogue.hold_bind, Dialogue.hold_awaitCharacter]
  dsimp only
  match (Keyboard.wait k).answer with
  | .ok (some character) => rfl
  | .ok none => rfl
  | .error e => rfl

/-- **The echo** of what was waited for: IN repeats the character on a line of its
own. -/
def echo (trap : Trap) : Except DeviceError (Option UInt8) → List Exchange
  | .ok (some character) => if trap = input then Exchange.said [character, 0x0A] else []
  | .ok none | .error _ => []

/-- **The talk of a routine** on a console that accepts everything: its message, the
wait, and the echo. -/
def talk (config : Config) (core : Core) (k : κ) (c : ω) (trap : Trap) : List Exchange :=
  (trap.message? config core k c).elim [] Exchange.said
    ++ if trap.Awaits then .waited (Keyboard.wait k).answer :: trap.echo (Keyboard.wait k).answer
      else []

/-- After its message, a routine that waits talks as the keyboard answers. -/
theorem talk_receive (trap : Trap) (core : Core) (k : κ) (c : ω)
    {next : UInt8 → Core → Dialogue (Outcome × Core)}
    (hnext : ∀ character core' (k' : κ),
      Exchange.talk ((next character core').hold k' c).exchanges
        = trap.echo (.ok (some character))) :
    Exchange.talk ((receive core next).hold k c).exchanges
      = .waited (Keyboard.wait k).answer :: trap.echo (Keyboard.wait k).answer := by
  rw [hold_receive, Course.after_exchanges, talk_append, talk_append, talk_reported]
  match (Keyboard.wait k).answer with
  | .ok (some character) => exact congrArg (List.cons _) (hnext _ _ _)
  | .ok none => rfl
  | .error e => rfl

/-- **A routine talks** by its message, its wait and its echo. -/
theorem talk_perform (config : Config) (core : Core) (k : κ) {c : ω}
    (h : Console.AcceptsAll c) (trap : Trap) :
    Exchange.talk ((trap.perform config core).hold k c).exchanges
      = trap.talk config core k c := by
  -- a string is read in silence before it is printed
  have hstring : ∀ packing : Packing,
      Exchange.talk ((printString packing core).hold k c).exchanges
        = Exchange.said (string packing core k c) ++ [] := by
    intro packing
    have hsilent := (cannotFail_gather packing UInt16.size (core.registers.get Registers.r0)
      core.memory []).talk_eq_nil k c
    rw [hold_printString_of_acceptsAll packing core k h, talk_append, hsilent, talk_said,
      List.append_nil]
    rfl
  cases trap with
  | getC =>
    have hsilent : ∀ (character : UInt8) (core' : Core) (k' : κ),
        Exchange.talk ((return (.running, core') : Dialogue (Outcome × Core)).hold k' c).exchanges
          = getC.echo (.ok (some character)) := fun _ _ _ => rfl
    exact talk_receive getC core k c hsilent
  | out =>
    unfold perform
    dsimp only
    rw [hold_print_of_acceptsAll core _ _ k h, talk_said]
    exact (List.append_nil _).symm
  | putS => exact hstring .single
  | putSP => exact hstring .double
  | input =>
    unfold perform
    dsimp only
    rw [Dialogue.hold_bind, Dialogue.hold_say_of_acceptsAll _ _ h, Course.after_exchanges,
      talk_append, talk_said]
    refine congrArg (Exchange.said _ ++ ·)
      (talk_receive input core k _ fun character core' k' => ?_)
    rw [hold_print_of_acceptsAll core' _ _ k' (h.say _), talk_said]
    rfl
  | halt =>
    unfold perform talk message?
    dsimp only
    split
    · rw [hold_print_of_acceptsAll core _ _ k h, talk_said]
      exact (List.append_nil _).symm
    · rfl

end Trap

/-- An instruction that calls no trap with a routine cannot fail. -/
theorem Core.cannotFail_execute {i : Instruction} (h : ∀ trap, ¬ i.Calls trap) (config : Config)
    (address : Word) (core : Core) : (core.execute config address i).CannotFail := by
  by_cases htrap : i.opcode = .trap
  · have hvector : Trap.ofVector? i.vector = none :=
      Option.eq_none_iff_forall_ne_some.2 fun trap hsome => h trap ⟨htrap, hsome⟩
    unfold execute
    rw [htrap, hvector]
    exact trivial
  · exact (core.heeds_execute_of_ne_trap htrap config address).imp (fun _ _ hfalse => hfalse)
      fun _ _ => trivial

end Dialogues

/-! ## The talk of a session

A session is followed step by step along `System.Leads`. Since the console must
accept everything at each step, it is carried along that it still does. -/

namespace System

variable {κ ω : Type} [Keyboard κ] [Console ω] {s s' : System κ ω}

/-- The poll is silent, -/
theorem talk_pollExchanges (s : System κ ω) : talk s.pollExchanges = [] :=
  s.machine.cannotFail_pollBetween.talk_eq_nil s.keyboard s.console

/-- and so is the fetch. -/
theorem talk_fetched (s : System κ ω) : talk s.fetched.exchanges = [] :=
  (Memory.cannotFail_read _ _).talk_eq_nil s.keyboard s.console

/-- A step talks as its instruction does. -/
theorem talk_step_of_executes (h : s.Executes) :
    talk s.step.2.2 = talk s.polled.effect.exchanges := by
  rw [step_of_executes h]
  -- the poll, the question about shutdown, the fetch and the report of the instruction are
  -- silent
  show talk (_ ++ ([_] ++ (_ ++ ([_] ++ _)))) = _
  rw [talk_append, talk_append, talk_append, talk_append, talk_pollExchanges, talk_fetched]
  rfl

/-- **A step that calls a trap** talks as the routine does, which finds the keyboard
as the poll left it. -/
theorem talk_step_of_calls (h : s.Executes) {trap : Trap} (hcalls : s.instruction.Calls trap)
    (haccepts : Console.AcceptsAll s.console) :
    talk s.step.2.2
      = trap.talk s.machine.config s.fetchedCore s.askedKeyboard s.console := by
  rw [talk_step_of_executes h, effect_polled, Core.execute_of_calls hcalls,
    fetched_keyboard_of_trap hcalls.1, polled_keyboard_eq]
  exact trap.talk_perform s.machine.config s.fetchedCore s.askedKeyboard haccepts

/-- **Every other step is silent.** -/
theorem talk_step_of_not_calls (h : s.Executes → ∀ trap, ¬ s.instruction.Calls trap) :
    talk s.step.2.2 = [] := by
  obtain ⟨limit, hlimit⟩ | ⟨hlimit, hrequested⟩ | ⟨hlimit, hrequested, hfull⟩ | hexecutes :=
    s.step_cases
  · rw [step_of_limit hlimit]
    rfl
  · rw [step_of_requested hlimit hrequested, talk_append, talk_pollExchanges]
    rfl
  · rw [step_of_full hlimit hrequested hfull, talk_append, talk_pollExchanges]
    exact s.polled.talk_fetched
  · rw [talk_step_of_executes hexecutes, effect_polled]
    exact (Core.cannotFail_execute (h hexecutes) _ _ _).talk_eq_nil _ _

/-- **A command that takes no step** is silent, and leaves the console alone. -/
theorem talk_obeyed {command : Command} (hstep : command ≠ .step) (hrun : command ≠ .run) :
    talk (s.obeyed command).2.2 = [] ∧ (s.obeyed command).2.1.console = s.console := by
  obtain ⟨characters, hobeyed⟩ | ⟨dialogue, hdialogue, hobeyed⟩ := s.obeyed_cases hstep hrun
  · rw [hobeyed]
    exact ⟨rfl, rfl⟩
  · have hcannotFail := (hdialogue s.machine).cannotFail
    rw [hobeyed]
    exact ⟨hcannotFail.talk_eq_nil s.keyboard s.console,
      hcannotFail.console_eq s.keyboard s.console⟩

variable {starts : List (System κ ω)} {log : List Touch} {exchanges : List Exchange}

/-- **The talk of a session** is that of its steps, one after another. -/
theorem Leads.talk_eq (h : Leads s starts log exchanges s') :
    talk exchanges = starts.flatMap fun t => talk t.step.2.2 := by
  induction h with
  | refl s => rfl
  | step later ih => rw [talk_append, ih, List.flatMap_cons]
  | report event later ih => exact ih
  | other hstep hrun later ih => rw [talk_append, (talk_obeyed hstep hrun).1, ih, List.nil_append]

/-- **A console that accepts everything** does so at every step. -/
theorem Leads.acceptsAll (h : Leads s starts log exchanges s')
    (haccepts : Console.AcceptsAll s.console) : ∀ t ∈ starts, Console.AcceptsAll t.console := by
  induction h with
  | refl s => exact nofun
  | step later ih =>
    exact List.forall_mem_cons.2 ⟨haccepts, ih (haccepts.hold (Machine.step _) _)⟩
  | report event later ih => exact ih haccepts
  | other hstep hrun later ih =>
    rw [(talk_obeyed hstep hrun).2] at ih
    exact ih haccepts

end System

end LC3
