import LC3.Exchange
import LC3.Image

/-!
# The machine with its devices

A system is a machine with a keyboard and a console. Every act of the machine
becomes an act of the system, which answers with the result, the system
after it, and the exchanges with the devices in order.

**A run always ends.** Each step that leaves the machine running is counted,
and the counter has only so many values; a program that loops for ever ends
in a crash when they are used up, later than anyone will wait.
-/

namespace LC3

/-- **A machine with a keyboard and a console.** -/
structure System (κ ω : Type) where
  /-- The machine. -/
  machine : Machine
  /-- The keyboard. -/
  keyboard : κ
  /-- The console. -/
  console : ω

namespace System

variable {κ ω α : Type} [Keyboard κ] [Console ω]

/-- Lets the machine act. -/
def act (s : System κ ω) (dialogue : Machine → Dialogue (α × Machine)) :
    α × System κ ω × List Exchange :=
  match s with
  | ⟨machine, keyboard, console⟩ =>
    match (dialogue machine).hold keyboard console with
    | ⟨(value, machine), keyboard, console, exchanges⟩ =>
      (value, ⟨machine, keyboard, console⟩, exchanges)

/-- One step. -/
def step (s : System κ ω) : Outcome × System κ ω × List Exchange := s.act Machine.step

theorem value_act (s : System κ ω) {P : α × Machine → Prop}
    {dialogue : Machine → Dialogue (α × Machine)} (h : (dialogue s.machine).Ends P) :
    P ((s.act dialogue).1, (s.act dialogue).2.1.machine) :=
  h.hold s.keyboard s.console

/-- An act that is counted leaves fewer steps to count. -/
theorem left_act_lt {s s' : System κ ω} {exchanges : List Exchange}
    {dialogue : Machine → Dialogue (Outcome × Machine)}
    (hcounted : (dialogue s.machine).Ends fun (outcome, m') =>
      outcome = .running → s.machine.steps ≠ Machine.maxCount ∧ m'.steps = s.machine.steps + 1)
    (h : s.act dialogue = (.running, s', exchanges)) :
    UInt64.size - s'.machine.steps.toNat < UInt64.size - s.machine.steps.toNat := by
  have hc := s.value_act hcounted
  have h1 : (s.act dialogue).1 = .running := congrArg (·.1) h
  have h2 : (s.act dialogue).2.1 = s' := congrArg (·.2.1) h
  obtain ⟨hne, hs⟩ := hc h1
  rw [h2] at hs
  have hadd := Machine.toNat_count_add_one hne
  have hlt : s'.machine.steps.toNat < UInt64.size := s'.machine.steps.toNat_lt_size
  rw [hs, hadd] at hlt ⊢
  omega

/-- A step that leaves the machine running leaves fewer steps to count. -/
theorem left_step_lt {s s' : System κ ω} {exchanges : List Exchange}
    (h : s.step = (.running, s', exchanges)) :
    UInt64.size - s'.machine.steps.toNat < UInt64.size - s.machine.steps.toNat :=
  left_act_lt s.machine.ends_step h

/-- **Runs until the machine does not go on.** An observer is told every
exchange in order, so that a long run need not be remembered as a whole. A
program that halted is reported. -/
def runWith {σ : Type} (observe : σ → Exchange → σ) (seen : σ) (s : System κ ω) :
    Outcome × System κ ω × σ :=
  match _h : s.step with
  | (.running, s', exchanges) => runWith observe (exchanges.foldl observe seen) s'
  | (.halted, s', exchanges) =>
    (.halted, s',
      observe (exchanges.foldl observe seen) (.reported (.programHalted s'.machine.steps)))
  | (outcome, s', exchanges) => (outcome, s', exchanges.foldl observe seen)
termination_by UInt64.size - s.machine.steps.toNat
decreasing_by exact left_step_lt (by assumption)

/-- **Runs the program**, and remembers every exchange. -/
def run (s : System κ ω) : Outcome × System κ ω × Array Exchange := s.runWith Array.push #[]

theorem runWith_of_running {σ : Type} {s s' : System κ ω} {exchanges : List Exchange}
    (h : s.step = (.running, s', exchanges)) (observe : σ → Exchange → σ) (seen : σ) :
    s.runWith observe seen = s'.runWith observe (exchanges.foldl observe seen) := by
  rw [runWith]
  split
  next hs =>
    cases h.symm.trans hs
    rfl
  next hs => cases h.symm.trans hs
  next hr _ hs =>
    cases h.symm.trans hs
    exact (hr rfl).elim

theorem runWith_of_halted {σ : Type} {s s' : System κ ω} {exchanges : List Exchange}
    (h : s.step = (.halted, s', exchanges)) (observe : σ → Exchange → σ) (seen : σ) :
    s.runWith observe seen
      = (.halted, s', observe (exchanges.foldl observe seen)
          (.reported (.programHalted s'.machine.steps))) := by
  rw [runWith]
  split
  next hs => cases h.symm.trans hs
  next hs =>
    cases h.symm.trans hs
    rfl
  next _ hh hs =>
    cases h.symm.trans hs
    exact (hh rfl).elim

theorem runWith_of_stopped {σ : Type} {s s' : System κ ω} {outcome : Outcome}
    {exchanges : List Exchange} (h : s.step = (outcome, s', exchanges))
    (hr : outcome ≠ .running) (hh : outcome ≠ .halted)
    (observe : σ → Exchange → σ) (seen : σ) :
    s.runWith observe seen = (outcome, s', exchanges.foldl observe seen) := by
  rw [runWith]
  split
  next hs =>
    cases h.symm.trans hs
    exact absurd rfl hr
  next hs =>
    cases h.symm.trans hs
    exact absurd rfl hh
  next hs =>
    cases h.symm.trans hs
    rfl

/-- A run takes the same course whoever observes it. -/
theorem exists_runWith (s : System κ ω) :
    ∃ (outcome : Outcome) (s' : System κ ω) (exchanges : List Exchange),
      ∀ {σ : Type} (observe : σ → Exchange → σ) (seen : σ),
        s.runWith observe seen = (outcome, s', exchanges.foldl observe seen) := by
  induction hn : UInt64.size - s.machine.steps.toNat using Nat.strongRecOn generalizing s with
  | ind n ih =>
    match h : s.step with
    | (.running, s', first) =>
      obtain ⟨outcome, s'', later, hl⟩ := ih _ (hn ▸ left_step_lt h) s' rfl
      refine ⟨outcome, s'', first ++ later, fun observe seen => ?_⟩
      rw [runWith_of_running h, hl, List.foldl_append]
    | (.halted, s', first) =>
      refine ⟨.halted, s', first ++ [.reported (.programHalted s'.machine.steps)],
        fun observe seen => ?_⟩
      rw [runWith_of_halted h, List.foldl_append]
      rfl
    | (.fault f, s', first) =>
      exact ⟨.fault f, s', first, runWith_of_stopped h (by nofun) (by nofun)⟩
    | (.crash v, s', first) =>
      exact ⟨.crash v, s', first, runWith_of_stopped h (by nofun) (by nofun)⟩

/-- **What an observer sees is what a run remembers**, told in order. -/
theorem runWith_eq_foldl {σ : Type} (observe : σ → Exchange → σ) (seen : σ)
    (s : System κ ω) :
    s.runWith observe seen = (s.run.1, s.run.2.1, s.run.2.2.foldl observe seen) := by
  obtain ⟨outcome, s', exchanges, h⟩ := s.exists_runWith
  simp [run, h]

end System

end LC3
