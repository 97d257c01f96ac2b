import LC3.Proofs.FailedSteps
import LC3.Proofs.FaultyStreams
import LC3.Proofs.SessionSteps

/-!
# The end of the input is final

A keyboard with a fixed text and one on a stream have nobody to press Ctrl-C.
With them shutdown is requested by a program that waits for a character when
none will come, and by nothing else: not by a poll that finds the end of the
input, and not by a failure of the stream. Nothing takes the request back
either, not even more characters that are typed. `Exhausts` states this of a
single question. By induction on dialogues it holds of whatever is done with
such a keyboard (`Dialogue.requested_hold`), so the request latches in any
session (`System.latches_requested`).

A step that waits in vain ends there, since it heeds its devices, and a later
one asks about the request before it fetches. So it does nothing but poll, and
says the same again (`System.Idle`). Conversely a step is interrupted only for
such a request, or for a wait of its own.
-/

namespace LC3

/-! ## Answers and faults

A fault that a device leads to stands for one kind of answer, and the answer is
the last thing asked: what heeds its devices ends with it. So from an answer on
record the outcome can be read off, and from the outcome that there is such an
answer. -/

namespace Exchange

/-- A step is interrupted by a wait in vain, -/
theorem eq_of_fault?_interrupted {e : Exchange} (h : e.fault? = some .interrupted) :
    e = .waited (.ok none) := by
  unfold fault? at h
  split at h
  · cases h
  · cases h
  · cases h
  · rfl
  · cases h

/-- and it fails with what a device says to a write, a flush or a wait. -/
theorem eq_of_fault?_device {e : Exchange} {error : DeviceError}
    (h : e.fault? = some (.device error)) :
    (∃ bytes, e = .wrote bytes (.error error)) ∨ e = .flushed (.error error)
      ∨ e = .waited (.error error) := by
  unfold fault? at h
  split at h
  · cases h
    exact .inl ⟨_, rfl⟩
  · cases h
    exact .inr (.inl rfl)
  · cases h
    exact .inr (.inr rfl)
  · cases h
  · cases h

end Exchange

/-- **A failure is the last that is asked:** whichever exchange it is, the dialogue
ends with the value for it. -/
theorem Dialogue.Heeds.failed_of_mem {κ ω α : Type} [Keyboard κ] [Console ω]
    {failed : Fault → α → Prop} {P : α → Prop} {x : Dialogue α} (h : x.Heeds failed P) {k : κ}
    {c : ω} {e : Exchange} (hmem : e ∈ (x.hold k c).exchanges) {fault : Fault}
    (hfault : e.fault? = some fault) : failed fault (x.hold k c).value := by
  -- what is over exchanges nothing more
  have hover : ∀ {y : Dialogue α} {k : κ} {c : ω} {given : Exchange} {fault' : Fault},
      y.Over (failed fault') → given.fault? = some fault' → e ∈ given :: (y.hold k c).exchanges →
      failed fault (y.hold k c).value := by
    intro y k c given fault' hy hgiven hmem
    obtain ⟨a, rfl, ha⟩ := hy.eq_done
    obtain rfl := List.eq_of_mem_singleton hmem
    cases Option.some.inj (hgiven.symm.trans hfault)
    exact ha
  have hreported : ∀ {events : List Event} {later : List Exchange},
      e ∈ events.map .reported ++ later → e ∈ later := by
    intro events later hmem
    refine (List.mem_append.1 hmem).resolve_left fun hevents => ?_
    obtain ⟨event, -, rfl⟩ := List.mem_map.1 hevents
    cases hfault
  induction x generalizing k c with
  | done a => exact absurd hmem List.not_mem_nil
  | poll next ih =>
    unfold Dialogue.hold at hmem ⊢
    dsimp only [Course.after] at hmem ⊢
    rw [List.append_assoc] at hmem
    obtain rfl | hmem := List.mem_cons.1 (hreported hmem)
    · cases hfault
    · exact ih _ (h _) hmem
  | take next ih =>
    obtain rfl | hmem := List.mem_cons.1 hmem
    · cases hfault
    · exact ih _ (h _) hmem
  | wait next ih =>
    obtain ⟨hsome, hnone, herror⟩ := h
    unfold Dialogue.hold at hmem ⊢
    dsimp only [Course.after] at hmem ⊢
    rw [List.append_assoc] at hmem
    replace hmem := hreported hmem
    cases hanswer : (Keyboard.wait k).answer with
    | ok found =>
      rw [hanswer] at hmem
      cases found with
      | some character =>
        obtain rfl | hmem := List.mem_cons.1 hmem
        · cases hfault
        · exact ih _ (hsome character) hmem
      | none => exact hover hnone rfl hmem
    | error error =>
      rw [hanswer] at hmem
      exact hover (herror error) rfl hmem
  | requested next ih =>
    obtain rfl | hmem := List.mem_cons.1 hmem
    · cases hfault
    · exact ih _ (h _) hmem
  | write bytes next ih =>
    unfold Dialogue.hold at hmem ⊢
    dsimp only [Course.after] at hmem ⊢
    cases hanswer : (Console.write c bytes).1 with
    | ok =>
      rw [hanswer] at hmem
      obtain rfl | hmem := List.mem_cons.1 hmem
      · cases hfault
      · exact ih _ h.1 hmem
    | error error =>
      rw [hanswer] at hmem
      exact hover (h.2 error) rfl hmem
  | flush next ih =>
    unfold Dialogue.hold at hmem ⊢
    dsimp only [Course.after] at hmem ⊢
    cases hanswer : (Console.flush c).1 with
    | ok =>
      rw [hanswer] at hmem
      obtain rfl | hmem := List.mem_cons.1 hmem
      · cases hfault
      · exact ih _ h.1 hmem
    | error error =>
      rw [hanswer] at hmem
      exact hover (h.2 error) rfl hmem
  | report event rest ih =>
    obtain rfl | hmem := List.mem_cons.1 hmem
    · cases hfault
    · exact ih h hmem

/-- What cannot fail exchanges no failure. -/
theorem Dialogue.CannotFail.fault?_eq_none {κ ω α : Type} [Keyboard κ] [Console ω]
    {x : Dialogue α} (h : x.CannotFail) {k : κ} {c : ω} {e : Exchange}
    (hmem : e ∈ (x.hold k c).exchanges) : e.fault? = none := by
  cases hfault : e.fault? with
  | none => rfl
  | some fault => exact (Heeds.failed_of_mem h hmem hfault).elim

/-! ## Keyboards that request shutdown when they are exhausted

The class says what each question does to the request, and a keyboard with a
fixed text is in it as well as one on a stream. What a whole dialogue does to
the request follows by induction. -/

/-- **A keyboard whose input ends.** A wait in vain requests shutdown, nothing else
does, and nothing takes it back. -/
class Exhausts (κ : Type) extends Keyboard κ where
  requested_poll (k : κ) : requested (poll k).keyboard = requested k
  requested_take (k : κ) : requested (take k).2 = requested k
  requested_wait (k : κ) :
    requested (wait k).keyboard = (requested k || (Exchange.waited (wait k).answer).inVain)
  requested_type (k : κ) (characters : List UInt8) :
    requested (type k characters) = requested k

instance : Exhausts Scripted where
  requested_poll k := by
    obtain ⟨queue, latch, exhausted⟩ := k
    cases latch <;> cases queue <;> rfl
  requested_take _ := rfl
  requested_wait k := by
    obtain ⟨queue, latch, exhausted⟩ := k
    cases latch <;> cases queue <;> simp [Keyboard.wait, Keyboard.requested, Scripted.wait,
      Exchange.inVain]
  requested_type _ _ := rfl

/-- Whatever a stream is asked, only a wait in vain exhausts it. -/
theorem Stream.exhausted_put (k : Stream) (q : Question) :
    (q.put k).2.exhausted = (k.exhausted || (q.put k).1.inVain) := by
  obtain ⟨consumed, h⟩ := k.exists_consumes q
  rw [Bool.eq_iff_iff, Bool.or_eq_true, h.exhausted]
  refine or_congr_right ⟨fun he => ?_, Exchange.eq_of_inVain⟩
  rw [he]
  rfl

instance : Exhausts Stream where
  requested_poll k := (k.exhausted_put .poll).trans (Bool.or_false _)
  requested_take _ := rfl
  requested_wait k := k.exhausted_put .wait
  requested_type _ _ := rfl

section Exhausts

variable {κ ω α : Type} [Exhausts κ] [Console ω]

/-- **Shutdown is requested after a dialogue** if it was before, or the dialogue
waited in vain. -/
theorem Dialogue.requested_hold (x : Dialogue α) (k : κ) (c : ω) :
    Keyboard.requested (x.hold k c).keyboard
      = (Keyboard.requested k || (x.hold k c).exchanges.any Exchange.inVain) := by
  induction x generalizing k c with
  | done a => exact (Bool.or_false _).symm
  | poll next ih =>
    unfold hold
    rw [Course.after_keyboard, Course.after_exchanges, ih, Exhausts.requested_poll,
      List.any_append, List.any_append, Exchange.any_inVain_reported]
    rfl
  | take next ih =>
    unfold hold
    rw [Course.after_keyboard, ih, Exhausts.requested_take]
    rfl
  | wait next ih =>
    unfold hold
    rw [Course.after_keyboard, Course.after_exchanges, ih, Exhausts.requested_wait,
      List.any_append, List.any_append, Exchange.any_inVain_reported, List.any_cons,
      List.any_nil, Bool.or_false, Bool.false_or, Bool.or_assoc]
  | requested next ih => exact ih _ k c
  | write bytes next ih => exact ih _ k _
  | flush next ih => exact ih _ k _
  | report event rest ih => exact ih k c

/-- What cannot fail requests nothing. -/
theorem Dialogue.CannotFail.requested_hold {x : Dialogue α} (h : x.CannotFail) (k : κ) (c : ω) :
    Keyboard.requested (x.hold k c).keyboard = Keyboard.requested k := by
  have hvain : (x.hold k c).exchanges.any Exchange.inVain = false := by
    rw [List.any_eq_false]
    intro e hmem hvain
    have hnone := h.fault?_eq_none hmem
    rw [Exchange.eq_of_inVain hvain] at hnone
    cases hnone
  rw [x.requested_hold, hvain, Bool.or_false]

end Exhausts

/-- No instruction has a fault for its outcome that a device leads to. -/
theorem Instruction.outcome_ne_of_ofDevice {f : Fault} (h : f.OfDevice) (address : Word)
    (i : Instruction) : i.outcome address ≠ .fault f := by
  unfold outcome
  cases i.opcode with
  | trap =>
    dsimp only
    cases Trap.ofVector? i.vector with
    | some trap => cases trap <;> exact nofun
    | none => exact nofun
  | rti | res =>
    rintro ⟨⟩
    exact h
  | _ => exact nofun

namespace System

/-! ## Steps that wait in vain

A wait in vain is an answer on record, so everything is known of the step it is
in: it executed a trap that waits, and the trap ended it. -/

section Keyboard

variable {κ ω : Type} [Keyboard κ] [Console ω] {s : System κ ω}

/-- **A step waits in vain** if it waits for a character and shutdown is requested
instead. -/
def WaitsInVain (s : System κ ω) : Prop := .waited (.ok none) ∈ s.step.2.2

/-- A step that waits executes an instruction. -/
theorem executes_of_waited_mem {answer : Except DeviceError (Option UInt8)}
    (h : .waited answer ∈ s.step.2.2) : s.Executes := by
  obtain ⟨limit, hlimit⟩ | ⟨hlimit, hrequested⟩ | ⟨hlimit, hrequested, hfull⟩ | hexecutes :=
    s.step_cases
  · rw [step_of_limit hlimit] at h
    have hlast : WaitsNot [.reported (.limitReached limit)] := .singleton nofun
    exact absurd h (hlast answer)
  · rw [step_of_requested hlimit hrequested] at h
    have hlast : WaitsNot ([.asked true] ++ [.reported .interrupted]) :=
      .append (.singleton nofun) (.singleton nofun)
    exact absurd h (s.waitsNot_pollExchanges.append hlast answer)
  · rw [step_of_full hlimit hrequested hfull] at h
    have hlast : WaitsNot ([.asked false] ++ s.polled.fetched.exchanges) :=
      .append (.singleton nofun) s.polled.waitsNot_fetched
    exact absurd h (s.waitsNot_pollExchanges.append hlast answer)
  · exact hexecutes

/-- **A wait in vain interrupts the step**, which is one of a trap that waits. -/
theorem WaitsInVain.interrupted (h : s.WaitsInVain) :
    s.step.1 = .fault .interrupted ∧ s.Executes ∧ s.instruction.Awaits := by
  have hexecutes := executes_of_waited_mem h
  have houtcome : s.step.1 = .fault .interrupted := s.machine.heeds_step.failed_of_mem h rfl
  refine ⟨houtcome, hexecutes, ?_⟩
  obtain ⟨hcalls, -⟩ := (interrupted_iff_of_executes hexecutes).1 houtcome
  exact hcalls.imp_right And.left

/-- **A fault that a device leads to** is on record with the answer of the
device. -/
theorem exists_mem_of_fault (h : s.Executes) {f : Fault} (hdevice : f.OfDevice)
    (hfault : s.step.1 = .fault f) : ∃ e ∈ s.step.2.2, e.fault? = some f := by
  have houtcome := (Core.endsIn_execute s.machine.config s.machine.core.registers.pc
    s.fetchedCore s.instruction).hold s.polled.fetched.keyboard s.console
  rw [step_of_executes h, effect_polled] at hfault ⊢
  cases hfirst : ((s.fetchedCore.execute s.machine.config s.machine.core.registers.pc
      s.instruction).hold s.polled.fetched.keyboard s.console).exchanges.findSome?
      Exchange.fault? with
  | none =>
    rw [hfirst] at houtcome
    exact absurd (houtcome.symm.trans hfault) (s.instruction.outcome_ne_of_ofDevice hdevice _)
  | some f' =>
    rw [hfirst] at houtcome
    cases hfault.symm.trans houtcome
    obtain ⟨e, hmem, hfault⟩ := List.exists_of_findSome?_eq_some hfirst
    exact ⟨e, List.mem_append_right _ (List.mem_cons_of_mem _ (List.mem_append_right _
      (List.mem_cons_of_mem _ hmem))), hfault⟩

/-! ## Steps that do nothing

Once shutdown is requested a step gets no further than asking for it. What it
may still do is be stopped at the limit, which is checked first, or poll the
keyboard, which is due before the question. -/

/-- **A step does nothing** but say that the limit is reached or that shutdown was
requested. No instruction is executed nor even fetched, registers, memory, count,
settings and console stay as they are, and the keyboard is polled at most, and
asked about the request. -/
structure Idle (s : System κ ω) : Prop where
  /-- At the limit it says so, -/
  limited : ∀ limit, s.machine.config.maxSteps = some limit → limit ≤ s.machine.steps →
    s.step.1 = .fault (.stepLimit limit)
  /-- and otherwise that shutdown was requested. -/
  interrupted : ¬ s.machine.Limited → s.step.1 = .fault .interrupted
  /-- No instruction is executed, -/
  executes : ¬ s.Executes
  /-- and none is fetched. -/
  touches : s.touches = []
  /-- Registers and memory stay as they are, -/
  core : s.next.machine.core = s.machine.core
  /-- and so do the count, -/
  steps : s.next.machine.steps = s.machine.steps
  /-- the settings, -/
  config : s.next.machine.config = s.machine.config
  /-- and the console. -/
  console : s.next.console = s.console
  /-- The keyboard may be polled and asked about the request. -/
  exchanges : ∀ e ∈ s.step.2.2, (∃ event, e = .reported event)
    ∨ e = .polled (Keyboard.poll s.keyboard).answer ∨ e = .asked true

/-- A step does nothing if shutdown is requested up to the poll that may be
due. -/
theorem idle_of_requested (h : Keyboard.requested s.polled.keyboard = true) : s.Idle := by
  have hexecutes : ¬ s.Executes := fun hexecutes =>
    Bool.false_ne_true (hexecutes.unrequested.symm.trans h)
  -- the limit is checked before the request, so it decides what is said
  cases hlimit : s.machine.limitReached? with
  | some limit =>
    have hstep := step_of_limit hlimit
    have hnext := next_eq_of_step hstep
    have hlimited := (s.machine.limitReached?_eq_some_iff limit).1 hlimit
    refine ⟨fun limit' hmax hreached => (s.stepLimit_iff limit').2 ⟨hmax, hreached⟩,
      fun hnot => absurd ⟨limit, hlimited⟩ hnot, hexecutes, touches_of_limit hlimit,
      by rw [hnext], by rw [hnext], by rw [hnext], by rw [hnext], ?_⟩
    rw [hstep]
    exact fun e hmem => .inl ⟨_, List.eq_of_mem_singleton hmem⟩
  | none =>
    have hstep := step_of_requested hlimit h
    have hnext := next_eq_of_step hstep
    obtain ⟨hcore, hconfig, hsteps⟩ := s.polled_machine
    refine ⟨fun limit hmax hreached => (s.stepLimit_iff limit).2 ⟨hmax, hreached⟩,
      fun _ => by rw [hstep], hexecutes, touches_of_requested hlimit h, by rw [hnext, hcore],
      by rw [hnext, hsteps], by rw [hnext, hconfig], by rw [hnext, s.polled_console], ?_⟩
    rw [hstep]
    intro e hmem
    obtain hmem | hmem := List.mem_append.1 hmem
    · obtain ⟨event, -, rfl⟩ | rfl | ⟨error, rfl⟩ := mem_pollExchanges hmem
      · exact .inl ⟨event, rfl⟩
      · exact .inr (.inl rfl)
      · exact .inl ⟨_, rfl⟩
    · obtain rfl | hmem := List.mem_cons.1 hmem
      · exact .inr (.inr rfl)
      · exact .inl ⟨_, List.eq_of_mem_singleton hmem⟩

end Keyboard

/-! ## Sessions

The request is carried along a session by the two facts above: a step takes it
over and adds its own waits in vain, and no other command touches it. -/

/-- **The end of the input is final** in a session. -/
structure EndsForGood {κ ω : Type} [Keyboard κ] [Console ω] (s : System κ ω)
    (commands : List Command) : Prop where
  /-- Where a step is taken shutdown is requested if it was at the start or an earlier
  step waited in vain. -/
  requested : ∀ before t after, s.starts commands = before ++ t :: after →
    (Keyboard.requested t.keyboard = true
      ↔ Keyboard.requested s.keyboard = true ∨ ∃ u ∈ before, u.WaitsInVain)
  /-- So it is at the end, whatever came after the last step. -/
  requested_last : Keyboard.requested (s.obeyAll commands).2.1.keyboard = true
    ↔ Keyboard.requested s.keyboard = true ∨ ∃ u ∈ s.starts commands, u.WaitsInVain
  /-- The step that waits in vain is interrupted. -/
  interrupts : ∀ t ∈ s.starts commands, t.WaitsInVain →
    t.step.1 = .fault .interrupted ∧ t.Executes ∧ t.instruction.Awaits
  /-- Every step after it does nothing. -/
  idle : ∀ before t after, s.starts commands = before ++ t :: after →
    (∃ u ∈ before, u.WaitsInVain) → t.Idle
  /-- No step is interrupted that does not wait in vain and comes after none that
  did. -/
  only : ∀ before t after, s.starts commands = before ++ t :: after →
    t.step.1 = .fault .interrupted →
    Keyboard.requested s.keyboard = true ∨ ∃ u ∈ before ++ [t], u.WaitsInVain

section Exhausts

variable {κ ω : Type} [Exhausts κ] [Console ω]

/-- A poll requests nothing. -/
theorem requested_polled (s : System κ ω) :
    Keyboard.requested s.polled.keyboard = Keyboard.requested s.keyboard :=
  s.machine.cannotFail_pollBetween.requested_hold s.keyboard s.console

/-- **The request for shutdown latches.** -/
theorem latches_requested :
    Latches (fun s : System κ ω => Keyboard.requested s.keyboard = true) WaitsInVain where
  step s := by
    have hstep : Keyboard.requested s.next.keyboard
        = (Keyboard.requested s.keyboard || s.step.2.2.any Exchange.inVain) :=
      s.machine.step.requested_hold s.keyboard s.console
    rw [hstep, Bool.or_eq_true, List.any_eq_true]
    refine or_congr_right ⟨?_, fun h => ⟨_, h, rfl⟩⟩
    rintro ⟨e, hmem, hvain⟩
    rw [Exchange.eq_of_inVain hvain] at hmem
    exact hmem
  other s {command} hstep hrun := by
    obtain ⟨characters, hobeyed⟩ | ⟨dialogue, hdialogue, hobeyed⟩ := s.obeyed_cases hstep hrun
    · rw [hobeyed, Exhausts.requested_type]
    · have hkept : Keyboard.requested (s.act dialogue).2.1.keyboard
          = Keyboard.requested s.keyboard :=
        (hdialogue s.machine).cannotFail.requested_hold s.keyboard s.console
      rw [hobeyed, hkept]

/-- **A step is interrupted** for a request or for a wait of its own. -/
theorem requested_or_waitsInVain_of_interrupted {s : System κ ω}
    (h : s.step.1 = .fault .interrupted) :
    Keyboard.requested s.keyboard = true ∨ s.WaitsInVain := by
  obtain ⟨limit, hlimit⟩ | ⟨-, hrequested⟩ | ⟨hlimit, hrequested, hfull⟩ | hexecutes :=
    s.step_cases
  · rw [step_of_limit hlimit] at h
    cases h
  · exact .inl (s.requested_polled.symm.trans hrequested)
  · rw [step_of_full hlimit hrequested hfull] at h
    cases h
  · have hdevice : Fault.interrupted.OfDevice := trivial
    obtain ⟨e, hmem, hfault⟩ := exists_mem_of_fault hexecutes hdevice h
    rw [Exchange.eq_of_fault?_interrupted hfault] at hmem
    exact .inr hmem

/-- **The end of the input is final in every session** of commands, with every program
and console: where shutdown is requested, it was at the start or a step before waited in
vain, and all steps from there on do nothing. -/
theorem endsForGood (s : System κ ω) (commands : List Command) : s.EndsForGood commands where
  requested _ _ _ hstarts := latches_requested.iff_of_split hstarts
  requested_last := latches_requested.iff_of_leads (s.leads_obeyAll commands)
  interrupts _ _ hvain := hvain.interrupted
  idle _ t _ hstarts hvain := by
    have hrequested := (latches_requested.iff_of_split hstarts).2 (.inr hvain)
    exact idle_of_requested (t.requested_polled.trans hrequested)
  only before t after hstarts hinterrupted := by
    obtain hrequested | hvain := requested_or_waitsInVain_of_interrupted hinterrupted
    · refine ((latches_requested.iff_of_split hstarts).1 hrequested).imp_right ?_
      rintro ⟨u, hmem, hvain⟩
      exact ⟨u, List.mem_append_left _ hmem, hvain⟩
    · exact .inr ⟨t, List.mem_append_right _ List.mem_cons_self, hvain⟩

end Exhausts

/-- **Interruption by the end of the input is final**, on a keyboard with a fixed text
and on one with a stream, whatever else fails: for every system, however it came
about, and every session with it. Once a wait was in vain the keyboard requests
shutdown for ever, whatever is typed, loaded, reset, set, read or stored since, and no
step executes another instruction; and nothing but a wait in vain brings this
about. -/
theorem interruption_is_final {ω : Type} [Console ω] (commands : List Command) :
    (∀ s : System Scripted ω, s.EndsForGood commands)
      ∧ ∀ s : System Stream ω, s.EndsForGood commands :=
  ⟨fun s => s.endsForGood commands, fun s => s.endsForGood commands⟩

/-- A program that asks for a character on a keyboard where none was typed. -/
def typedTooLate : System Scripted Collector := ⟨.loaded [0xF020], { queue := [] }, {}⟩

/-- The first step waits, and there is nothing to wait for. -/
theorem waitsInVain_typedTooLate : typedTooLate.WaitsInVain := by
  have hstep := step_of_cell (s := typedTooLate) rfl (by decide) rfl (by decide)
    (Machine.read_loaded (i := 0) rfl (by decide) (by decide))
  unfold WaitsInVain
  rw [hstep]
  exact List.mem_cons_of_mem _ (List.mem_cons_of_mem _ List.mem_cons_self)

/-- A character that is typed after that comes too late, and a reset does not help. -/
theorem interruption_is_final_typedTooLate :
    let commands : List Command := [.step, .type [0x61], .reset, .step]
    typedTooLate.WaitsInVain
      ∧ ∃ t, typedTooLate.starts commands = [typedTooLate, t] ∧ t.Idle
        ∧ Keyboard.requested (typedTooLate.obeyAll commands).2.1.keyboard = true := by
  intro commands
  have hfinal := (interruption_is_final commands).1 typedTooLate
  have hstarts : ∃ t, typedTooLate.starts commands = [typedTooLate, t] := ⟨_, rfl⟩
  obtain ⟨t, hstarts⟩ := hstarts
  have hvain := waitsInVain_typedTooLate
  refine ⟨hvain, t, hstarts, ?_, ?_⟩
  · exact hfinal.idle [typedTooLate] t [] hstarts ⟨_, List.mem_cons_self, hvain⟩
  · refine hfinal.requested_last.2 (.inr ⟨typedTooLate, ?_, hvain⟩)
    rw [hstarts]
    exact List.mem_cons_self

end System

end LC3
