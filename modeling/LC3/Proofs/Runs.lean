import LC3.Proofs.Acts

/-!
# Steps one after another

A run is steps one after another, up to the first that does not leave the
machine running. A statement about all runs, and about everything they
exchange with the devices, is therefore best made of `n` steps, whatever
their outcomes, and proved by induction on `n`: `after` is the system that
many steps later, and `trace` is what was exchanged meanwhile.
`exists_run_eq_after` brings such a statement back to `System.run`, which
adds to the exchanges of its steps nothing but the report that the program
halted.
-/

namespace LC3

namespace System

variable {κ ω : Type} [Keyboard κ] [Console ω]

/-- The system one step later. -/
def next (s : System κ ω) : System κ ω := s.step.2.1

/-- It is read off a step whose result is known. -/
theorem next_eq_of_step {s s' : System κ ω} {outcome : Outcome} {exchanges : List Exchange}
    (h : s.step = (outcome, s', exchanges)) : s.next = s' := congrArg (·.2.1) h

/-- **The system `n` steps later**, whatever the outcomes of the steps. -/
def after (s : System κ ω) : Nat → System κ ω
  | 0 => s
  | n + 1 => s.next.after n

/-- **What `n` steps exchange** with the devices, in order. -/
def trace (s : System κ ω) : Nat → List Exchange
  | 0 => []
  | n + 1 => s.step.2.2 ++ s.next.trace n

@[simp] theorem after_zero (s : System κ ω) : s.after 0 = s := rfl

@[simp] theorem trace_zero (s : System κ ω) : s.trace 0 = [] := rfl

/-- More steps are one step and the others after it. -/
theorem after_succ (s : System κ ω) (n : Nat) : s.after (n + 1) = s.next.after n := rfl

/-- So is what they exchange. -/
theorem trace_succ (s : System κ ω) (n : Nat) :
    s.trace (n + 1) = s.step.2.2 ++ s.next.trace n := rfl

/-- The last step may be split off instead of the first. -/
theorem after_succ' (s : System κ ω) (n : Nat) : s.after (n + 1) = (s.after n).next := by
  induction n generalizing s with
  | zero => rfl
  | succ n ih => exact ih s.next

/-- And the exchanges of the last step come last. -/
theorem trace_succ' (s : System κ ω) (n : Nat) :
    s.trace (n + 1) = s.trace n ++ (s.after n).step.2.2 := by
  induction n generalizing s with
  | zero => exact List.append_nil _
  | succ n ih =>
    rw [trace_succ, ih s.next, ← List.append_assoc]
    rfl

/-! ## What a step keeps

A step either changes the core and the count, or nothing but what a poll
changes. The settings are changed by commands alone. -/

/-- **No step changes the settings.** -/
theorem config_next (s : System κ ω) : s.next.machine.config = s.machine.config := by
  obtain ⟨-, hconfig, -⟩ := s.polled_machine
  unfold next
  cases hlimit : s.machine.limitReached? with
  | some limit => rw [step_of_limit hlimit]
  | none =>
    cases hrequested : Keyboard.requested s.polled.keyboard with
    | true =>
      rw [step_of_requested hlimit hrequested]
      exact hconfig
    | false =>
      rw [step_eq_cycle hlimit hrequested]
      exact s.polled.cycle_machine.1.trans hconfig

/-- Nor do any number of steps. -/
theorem config_after (s : System κ ω) (n : Nat) :
    (s.after n).machine.config = s.machine.config := by
  induction n generalizing s with
  | zero => rfl
  | succ n ih => exact (ih s.next).trans s.config_next

/-- Only a poll gives up polling. -/
theorem pollFailed_next {s : System κ ω} (hlimit : s.machine.limitReached? = none) :
    s.next.machine.pollFailed = s.polled.machine.pollFailed := by
  unfold next
  cases hrequested : Keyboard.requested s.polled.keyboard with
  | true => rw [step_of_requested hlimit hrequested]
  | false =>
    rw [step_eq_cycle hlimit hrequested]
    exact s.polled.cycle_machine.2

/-- A step that leaves the machine running is counted. -/
theorem steps_next {s : System κ ω} (h : s.step.1 = .running) :
    s.next.machine.steps.toNat = s.machine.steps.toNat + 1 := by
  obtain ⟨hleft, hsteps⟩ := s.value_act s.machine.ends_step h
  have hnext : s.next.machine.steps = s.machine.steps + 1 := hsteps
  rw [hnext]
  exact Machine.toNat_count_add_one hleft

/-! ## Running

A run takes the steps that leave the machine running, and one more. It always
ends, since every such step is counted and the count is bounded; the same bound
carries the induction here. -/

/-- **The first `n` steps leave the machine running.** -/
def RunsFor (s : System κ ω) (n : Nat) : Prop := ∀ i < n, (s.after i).step.1 = .running

/-- The first step is one of them, and the others are first steps of the system after
it. -/
theorem runsFor_succ {s : System κ ω} {n : Nat} :
    s.RunsFor (n + 1) ↔ s.step.1 = .running ∧ s.next.RunsFor n := by
  constructor
  · intro h
    exact ⟨h 0 n.succ_pos, fun i hi => h (i + 1) (Nat.succ_lt_succ hi)⟩
  · rintro ⟨h, hnext⟩ i hi
    cases i with
    | zero => exact h
    | succ i => exact hnext i (Nat.lt_of_succ_lt_succ hi)

/-- **What every step keeps up** holds after all of them: a property of the count
of steps and the system, if a step that has it leaves the machine running and
leads to the next count. -/
theorem runsFor_of_keeps {P : Nat → System κ ω → Prop} {last : Nat}
    (hkeeps : ∀ n < last, ∀ s, P n s → s.step.1 = .running ∧ P (n + 1) s.next)
    {s : System κ ω} (h : P 0 s) : s.RunsFor last ∧ P last (s.after last) := by
  have hafter : ∀ n ≤ last, P n (s.after n) := by
    intro n
    induction n with
    | zero => exact fun _ => h
    | succ n ih =>
      intro hn
      rw [after_succ']
      exact (hkeeps n hn _ (ih (Nat.le_of_succ_le hn))).2
  exact ⟨fun n hn => (hkeeps n hn _ (hafter n hn.le)).1, hafter last le_rfl⟩

/-- The report that ends a run: that the program halted, if it did. -/
def lastReport (outcome : Outcome) (s : System κ ω) : List Exchange :=
  if outcome = .halted then [.reported (.programHalted s.machine.steps)] else []

/-- A run whose first step leaves the machine running is the run after that
step. -/
theorem runWith_eq_next {σ : Type} {s : System κ ω} (h : s.step.1 = .running)
    (observe : σ → Exchange → σ) (seen : σ) :
    s.runWith observe seen = s.next.runWith observe (s.step.2.2.foldl observe seen) :=
  runWith_of_running (Prod.ext h rfl) observe seen

/-- A run whose first step does not is that step. -/
theorem runWith_eq_step {σ : Type} {s : System κ ω} (h : s.step.1 ≠ .running)
    (observe : σ → Exchange → σ) (seen : σ) :
    s.runWith observe seen
      = (s.step.1, s.next, (s.step.2.2 ++ lastReport s.step.1 s.next).foldl observe seen) := by
  by_cases hhalted : s.step.1 = .halted
  · rw [runWith_of_halted (Prod.ext hhalted rfl), hhalted, lastReport, if_pos rfl,
      List.foldl_append]
    rfl
  · rw [runWith_of_stopped rfl h hhalted, lastReport, if_neg hhalted, List.append_nil]
    rfl

/-- The observer of a run sees the exchanges of its steps and the last
report. -/
theorem exists_runWith_eq_after (s : System κ ω) :
    ∃ n, s.RunsFor n ∧ (s.after n).step.1 ≠ .running
      ∧ ∀ {σ : Type} (observe : σ → Exchange → σ) (seen : σ),
        s.runWith observe seen
          = ((s.after n).step.1, s.after (n + 1),
            (s.trace (n + 1) ++ lastReport (s.after n).step.1 (s.after (n + 1))).foldl
              observe seen) := by
  induction hleft : UInt64.size - s.machine.steps.toNat using Nat.strongRecOn generalizing s with
  | ind left ih =>
    by_cases h : s.step.1 = .running
    · have hlt : UInt64.size - s.next.machine.steps.toNat < left :=
        hleft ▸ left_step_lt (Prod.ext h rfl)
      obtain ⟨n, hruns, hstops, hrun⟩ := ih _ hlt s.next rfl
      refine ⟨n + 1, runsFor_succ.2 ⟨h, hruns⟩, hstops, fun observe seen => ?_⟩
      rw [runWith_eq_next h, hrun, trace_succ s, ← List.foldl_append, List.append_assoc]
      rfl
    · refine ⟨0, fun i hi => absurd hi i.not_lt_zero, h, fun observe seen => ?_⟩
      rw [runWith_eq_step h, trace_succ, trace_zero, List.append_nil]
      rfl

/-- **A run is steps**, the last of them the first that does not leave the
machine running. -/
theorem exists_run_eq_after (s : System κ ω) :
    ∃ n, s.RunsFor n ∧ s.run.1 = (s.after n).step.1 ∧ s.run.1 ≠ .running
      ∧ s.run.2.1 = s.after (n + 1)
      ∧ s.run.2.2.toList = s.trace (n + 1) ++ lastReport s.run.1 s.run.2.1 := by
  obtain ⟨n, hruns, hstops, hrun⟩ := s.exists_runWith_eq_after
  have h : s.run = _ := hrun Array.push #[]
  refine ⟨n, hruns, ?_⟩
  rw [h, List.foldl_push_eq_append']
  refine ⟨rfl, hstops, rfl, ?_⟩
  rw [Array.toList_append]
  rfl

/-- The first step that does not leave the machine running is the last of the
run. -/
theorem run_eq_after {s : System κ ω} {n : Nat} (hruns : s.RunsFor n)
    (hstops : (s.after n).step.1 ≠ .running) :
    s.run.1 = (s.after n).step.1 ∧ s.run.2.1 = s.after (n + 1) := by
  obtain ⟨last, hlast, houtcome, hends, hsystem, -⟩ := s.exists_run_eq_after
  obtain hlt | rfl | hlt := Nat.lt_trichotomy n last
  · exact absurd (hlast n hlt) hstops
  · exact ⟨houtcome, hsystem⟩
  · exact absurd (houtcome.trans (hruns last hlt)) hends

/-! ## Act by act

A step follows acts, and what composes over acts composes over steps. So a
relation that one act keeps is kept by any number of steps, and the devices need
be looked at for one act only. -/

/-- **What holds across every act holds across a step.** -/
theorem relate_step {R : Memory → κ → List Exchange → Memory → κ → Prop}
    (hR : Dialogue.Composes R)
    (hperform : ∀ act (m : Memory) (k : κ) (c : ω),
      let course := (Act.perform act m).hold k c
      R m k course.exchanges course.value course.keyboard) (s : System κ ω) :
    R s.machine.core.memory s.keyboard s.step.2.2 s.next.machine.core.memory
      s.next.keyboard :=
  s.machine.follows_step.relate hR (fun act _ => hperform act) s.keyboard s.console

/-- **And across any number of steps.** -/
theorem relate_trace {R : Memory → κ → List Exchange → Memory → κ → Prop}
    (hR : Dialogue.Composes R)
    (hperform : ∀ act (m : Memory) (k : κ) (c : ω),
      let course := (Act.perform act m).hold k c
      R m k course.exchanges course.value course.keyboard) (s : System κ ω) (n : Nat) :
    R s.machine.core.memory s.keyboard (s.trace n) (s.after n).machine.core.memory
      (s.after n).keyboard := by
  induction n generalizing s with
  | zero => exact hR.nil _ _
  | succ n ih => exact hR.append (relate_step hR hperform s) (ih s.next)

end System

end LC3
