import LC3.Console.Collector
import LC3.Proofs.AlikeSessions
import LC3.Proofs.Programs

/-!
# The poll between instructions is not noticed

Every 4096 instructions the machine polls the keyboard, for the sake of a
program that never reads input. With a keyboard that delivers a text this
moves a character to the latch, or finds the end of the input, at a moment
that the program has nothing to do with. This module compares the machine
with one that leaves the poll out (`Machine.stepUnpolled`).

The keyboards of the two come apart at the first poll, and stay alike: what a
poll moves is still unread. So neither a program nor whoever embeds the
machine ever notices (`System.obeyAll_eq_obeyAllUnpolled`). What is asked of
the devices is also the same but for the polls themselves.
-/

namespace LC3

namespace Exchange

/-- Whether an exchange is a question other than a poll. -/
def isDemand : Exchange → Bool
  | polled _ => false
  | e => e.isQuestion

/-- A demand is a question. -/
theorem isQuestion_of_isDemand {e : Exchange} (h : e.isDemand) : e.isQuestion := by
  cases e with
  | polled answer => rfl
  | _ => exact h

/-- **The questions other than polls** with their answers, in order. -/
def demands (exchanges : List Exchange) : List Exchange := exchanges.filter isDemand

/-- The demands of two parts are those of the first and then those of the second. -/
theorem demands_append (before later : List Exchange) :
    demands (before ++ later) = demands before ++ demands later :=
  List.filter_append _ _

end Exchange

open Exchange (isDemand isQuestion demands isQuestion_of_isDemand)
open Delivers (Sound unread)

/-! ## A machine that does not poll

It differs from the machine in this one place. It looks at the limit first, asks
about shutdown and makes the same cycle, so the two can be compared from the
poll on. -/

namespace Machine

/-- What a step does below the limit and after the poll. -/
def proceed (m : Machine) : Dialogue (Outcome × Machine) := do
  if ← Dialogue.shutdownRequested then
    Dialogue.tell .interrupted
    return (.fault .interrupted, m)
  else m.cycle

/-- **A step without the poll between instructions.** -/
def stepUnpolled (m : Machine) : Dialogue (Outcome × Machine) :=
  match m.limitReached? with
  | some limit => do
    Dialogue.tell (.limitReached limit)
    return (.fault (.stepLimit limit), m)
  | none => m.proceed

/-- The step of the machine polls first. -/
theorem step_eq_pollBetween_bind {m : Machine} (h : m.limitReached? = none) :
    m.step = m.pollBetween >>= proceed := by
  unfold step
  rw [h]
  rfl

/-- Below the limit it goes on at once. -/
theorem stepUnpolled_eq_proceed {m : Machine} (h : m.limitReached? = none) :
    m.stepUnpolled = m.proceed := by
  unfold stepUnpolled
  rw [h]

/-- At the limit there is no difference. -/
theorem stepUnpolled_of_limit {m : Machine} {limit : UInt64}
    (h : m.limitReached? = some limit) : m.stepUnpolled = m.step := by
  unfold stepUnpolled step
  rw [h]

/-- What it does then is composed of phrases, as the whole step is. -/
theorem composed_proceed (m : Machine) : m.proceed.Composed := by
  unfold proceed
  refine Dialogue.Composed.bind (.phrase .requested) fun asked => ?_
  split
  · exact (Dialogue.composed_tell _).bind fun _ => .done _
  · exact m.composed_cycle

/-- These steps are counted as well. -/
theorem ends_stepUnpolled (m : Machine) :
    m.stepUnpolled.Ends fun (outcome, m') =>
      outcome = .running → m.steps ≠ maxCount ∧ m'.steps = m.steps + 1 := by
  cases hlimit : m.limitReached? with
  | some limit =>
    rw [stepUnpolled_of_limit hlimit]
    exact m.ends_step
  | none =>
    rw [stepUnpolled_eq_proceed hlimit]
    refine Dialogue.ends_bind.2 (Dialogue.ends_of_forall (fun asked => ?_) _)
    split
    · refine Dialogue.ends_bind.2 (Dialogue.ends_of_forall (fun _ => ?_) _)
      exact fun h => by cases h
    · exact m.ends_cycle

end Machine

namespace System

section Unpolled

variable {κ ω : Type} [Keyboard κ] [Console ω]

/-- **Runs without polls between instructions.** -/
def runUnpolled (s : System κ ω) : Outcome × System κ ω × List Exchange :=
  match _h : s.act Machine.stepUnpolled with
  | (.running, s', exchanges) =>
    let (outcome, s', later) := s'.runUnpolled
    (outcome, s', exchanges ++ later)
  | (outcome, s', exchanges) => (outcome, s', exchanges ++ lastReport outcome s')
termination_by UInt64.size - s.machine.steps.toNat
decreasing_by exact left_act_lt s.machine.ends_stepUnpolled (by assumption)

/-- **Obeys a command** without polls between instructions. -/
def obeyUnpolled (s : System κ ω) : Command → Response × System κ ω × List Exchange
  | .step =>
    match s.act Machine.stepUnpolled with
    | (outcome, s, exchanges) => (.stopped outcome, s, exchanges)
  | .run =>
    match s.runUnpolled with
    | (outcome, s, exchanges) => (.stopped outcome, s, exchanges)
  | command =>
    match s.obey command with
    | (response, s, exchanges) => (response, s, exchanges.toList)

/-- **A session** without polls between instructions. -/
def obeyAllUnpolled (s : System κ ω) (commands : List Command) :
    List Response × System κ ω × List Exchange :=
  s.obeyEach obeyUnpolled commands

/-- **What is seen of a system:** the machine, whether shutdown was requested,
and the console. -/
def shown (s : System κ ω) : Machine × Bool × ω :=
  (s.machine, Keyboard.requested s.keyboard, s.console)

/-- Its runs are runs by its steps. The function recurs on the steps that are left to
count, and so does the proof. -/
theorem runs_runUnpolled (s : System κ ω) : Runs Machine.stepUnpolled s s.runUnpolled := by
  induction hleft : UInt64.size - s.machine.steps.toNat using Nat.strongRecOn generalizing s with
  | ind left ih =>
    by_cases hgo : (s.act Machine.stepUnpolled).1 = .running
    · have hlt : UInt64.size - (s.act Machine.stepUnpolled).2.1.machine.steps.toNat < left :=
        hleft ▸ left_act_lt s.machine.ends_stepUnpolled (Prod.ext hgo rfl)
      rw [runUnpolled]
      split
      next h =>
        have hrun := Runs.go hgo (ih _ hlt _ rfl)
        rw [h] at hrun
        exact hrun
      next hrunning h => exact absurd ((congrArg Prod.fst h).symm.trans hgo) hrunning
    · rw [runUnpolled]
      split
      next h => exact absurd (congrArg Prod.fst h) hgo
      next h =>
        have hrun := Runs.stop hgo
        rw [h] at hrun
        exact hrun

end Unpolled

/-! ## The comparison

Alike keyboards stay alike when one of them is polled (`Alike.poll`), so the
relation of `LC3.Proofs.AlikeKeyboards` is an invariant. Typing needs more than
that: it has to add the same characters to both, and this is what
`Delivers.type_eq` gives. -/

variable {κ κ' ω : Type} [Delivers κ] [Delivers κ'] [Console ω]

omit [Console ω] in
/-- Alike systems show the same. -/
theorem Alike.shown {s : System κ ω} {s' : System κ' ω} (h : Alike s s') :
    s.shown = s'.shown := by
  unfold System.shown
  rw [h.machine, h.keyboard.requested, h.console]

/-- **The poll between instructions** leaves the machine and the console, and
a keyboard that is alike. -/
theorem hold_pollBetween_alike {k : κ} {k' : κ'} (h : LC3.Alike k k') (m : Machine) (c : ω) :
    let course := m.pollBetween.hold k c
    course.value = m ∧ LC3.Alike course.keyboard k' ∧ course.console = c
      ∧ demands course.exchanges = [] := by
  by_cases hdue : m.PollIsDue
  · obtain ⟨hanswer, -⟩ := Delivers.poll_eq h.sound
    rw [Machine.hold_pollBetween_of_ok hdue c hanswer]
    refine ⟨rfl, h.poll, rfl, ?_⟩
    rw [demands, List.filter_eq_nil_iff]
    intro e hmem
    obtain hmem | hmem := List.mem_append.1 hmem
    · obtain ⟨event, -, rfl⟩ := List.mem_map.1 hmem
      exact Bool.false_ne_true
    · rw [List.mem_singleton.1 hmem]
      exact Bool.false_ne_true
  · rw [Machine.hold_pollBetween_of_not_due hdue]
    exact ⟨rfl, h, rfl, rfl⟩

/-- So with a keyboard that delivers a text a poll is not noticed afterwards. -/
theorem polled_of_sound {s : System κ ω} (h : Sound s.keyboard) :
    s.polled.machine = s.machine ∧ LC3.Alike s.polled.keyboard s.keyboard
      ∧ s.polled.console = s.console ∧ demands s.pollExchanges = [] :=
  hold_pollBetween_alike (LC3.Alike.refl h) s.machine s.console

/-- **A step** goes the same way without the poll. -/
theorem Alike.step {s : System κ ω} {s' : System κ' ω} (h : Alike s s') :
    Matches isDemand (s.act Machine.step) (s'.act Machine.stepUnpolled) := by
  cases hlimit : s.machine.limitReached? with
  | some limit =>
    have hunpolled : s'.act Machine.stepUnpolled = s'.act Machine.step := by
      unfold System.act
      dsimp only
      rw [Machine.stepUnpolled_of_limit (h.machine ▸ hlimit)]
    rw [hunpolled]
    exact (h.act Machine.composed_step).mono fun _ => isQuestion_of_isDemand
  | none =>
    obtain ⟨machine, keyboard, console⟩ := s
    obtain ⟨machine', keyboard', console'⟩ := s'
    obtain ⟨rfl, hkeyboard, rfl⟩ := h
    obtain ⟨hvalue, hpolled, hconsole, hdemands⟩ :=
      hold_pollBetween_alike hkeyboard machine console
    -- after the poll both take the same dialogue
    obtain ⟨houtcome, hkeyboard', hconsole', hquestions⟩ :=
      machine.composed_proceed.hold_alike hpolled console
    unfold System.act
    dsimp only at hlimit ⊢
    rw [Machine.step_eq_pollBetween_bind hlimit, Machine.stepUnpolled_eq_proceed hlimit,
      Dialogue.hold_bind, hvalue, hconsole]
    refine ⟨congrArg Prod.fst houtcome, ⟨congrArg Prod.snd houtcome, hkeyboard', hconsole'⟩, ?_⟩
    show List.filter isDemand (_ ++ _) = _
    rw [List.filter_append, show List.filter isDemand _ = [] from hdemands, List.nil_append,
      Exchange.filter_eq_filter fun _ => isQuestion_of_isDemand,
      show List.filter isQuestion _ = List.filter isQuestion _ from hquestions,
      ← Exchange.filter_eq_filter fun _ => isQuestion_of_isDemand]

/-- **A command** is obeyed the same way without the polls, also if it
types. -/
theorem Alike.obeyed_unpolled {s s' : System κ ω} (h : Alike s s') (command : Command) :
    Matches isDemand (s.obeyed command) (s'.obeyUnpolled command) := by
  have hsame : (∀ characters, command ≠ .type characters) →
      Matches isDemand (s.obeyed command) (s'.obeyed command) := fun htypes =>
    (h.obeyed htypes).mono fun _ => isQuestion_of_isDemand
  cases command with
  | step =>
    obtain ⟨hvalue, hsystem, hexchanges⟩ := h.step
    rw [obeyed_of_respond .stopped rfl]
    exact ⟨congrArg Response.stopped hvalue, hsystem, hexchanges⟩
  | run =>
    obtain ⟨hvalue, hsystem, hexchanges⟩ :=
      Runs.matches (fun _ => isQuestion_of_isDemand) Alike.step s.runs_run s'.runs_runUnpolled h
    exact ⟨congrArg Response.stopped hvalue, hsystem, hexchanges⟩
  | type characters =>
    obtain ⟨hsound, hrequested, hunread⟩ := Delivers.type_eq h.keyboard.sound' characters
    obtain ⟨hsound', hrequested', -⟩ := Delivers.type_eq h.keyboard.sound characters
    refine ⟨rfl, ⟨h.machine, ⟨hsound', hsound, hunread _ h.keyboard.unread, ?_⟩, h.console⟩, rfl⟩
    exact hrequested'.trans (h.keyboard.requested.trans hrequested.symm)
  | _ => exact hsame nofun

/-- **A session** is. -/
theorem Alike.obeyAll_unpolled {s s' : System κ ω} (h : Alike s s') (commands : List Command) :
    Matches isDemand (s.obeyAll commands) (s'.obeyAllUnpolled commands) := by
  rw [obeyAll_eq_obeyEach]
  exact h.obeyEach fun command _ _ _ h => h.obeyed_unpolled command

/-- A stream that types two characters, the first at the moment of a poll, and
a program that reads one of them. -/
def getCAtPoll : System Stream Collector :=
  ⟨{ Machine.loaded [0xF020, 0xF025] with steps := 4095 },
    { steps := [.cutOff, .byte 0x61, .byte 0x62, .finish] }, {}⟩

/-- **The poll between instructions is not noticed.** Whatever a session does,
typing included, with a scripted keyboard or with a stream that does not fail,
it is responded to as by a machine that leaves the poll out, and the
registers, the memory, the step count, the console, and whether shutdown was
requested are the same at its end. -/
theorem obeyAll_eq_obeyAllUnpolled :
    (∀ (s : System Scripted ω) (commands : List Command),
        (s.obeyAll commands).1 = (s.obeyAllUnpolled commands).1
          ∧ (s.obeyAll commands).2.1.shown = (s.obeyAllUnpolled commands).2.1.shown
          ∧ demands (s.obeyAll commands).2.2 = demands (s.obeyAllUnpolled commands).2.2)
      ∧ ∀ s : System Stream ω, (∀ e, .failure e ∉ s.keyboard.steps) →
        ∀ commands : List Command,
          (s.obeyAll commands).1 = (s.obeyAllUnpolled commands).1
            ∧ (s.obeyAll commands).2.1.shown = (s.obeyAllUnpolled commands).2.1.shown
            ∧ demands (s.obeyAll commands).2.2 = demands (s.obeyAllUnpolled commands).2.2 := by
  have hsession : ∀ {κ : Type} [Delivers κ] (s : System κ ω), Sound s.keyboard →
      ∀ commands : List Command,
        (s.obeyAll commands).1 = (s.obeyAllUnpolled commands).1
          ∧ (s.obeyAll commands).2.1.shown = (s.obeyAllUnpolled commands).2.1.shown
          ∧ demands (s.obeyAll commands).2.2 = demands (s.obeyAllUnpolled commands).2.2 := by
    intro κ _ s hsound commands
    obtain ⟨hresponses, hsystem, hdemands⟩ :=
      (show Alike s s from ⟨rfl, .refl hsound, rfl⟩).obeyAll_unpolled commands
    exact ⟨hresponses, hsystem.shown, hdemands⟩
  exact ⟨fun s => hsession s trivial, fun s hfailure => hsession s hfailure⟩

/-- In the first step of this session a poll finds a character. -/
theorem obeyAll_getCAtPoll :
    getCAtPoll.machine.PollIsDue
      ∧ (∀ e, .failure e ∉ getCAtPoll.keyboard.steps)
      ∧ (getCAtPoll.obeyAll [.step, .run]).2.1.shown
        = (getCAtPoll.obeyAllUnpolled [.step, .run]).2.1.shown := by
  have hfailure : ∀ e, .failure e ∉ getCAtPoll.keyboard.steps := by
    intro e
    simp [getCAtPoll]
  exact ⟨⟨rfl, rfl⟩, hfailure,
    ((@obeyAll_eq_obeyAllUnpolled Collector _).2 getCAtPoll hfailure [.step, .run]).2.1⟩

end System

end LC3
