import LC3.Proofs.AlikeSessions
import LC3.Proofs.RegularSteps
import LC3.Proofs.TypedOrder

/-!
# Runs cut by a step limit

The step limit is looked at before anything else: before the poll that may be
due, before the keyboard is asked about shutdown, and before the fetch. So a
machine that has reached its limit has done nothing yet of the step it will
not make, and once the limit is raised it goes on as if it had never been
stopped. Nothing else in a step depends on the limit, which is why a step that
two limits admit is the same under both (`System.step_withLimit`).

Hence a run can be cut into pieces (`System.run_cut`): under a low limit
first, and from where that ends under a higher one, or under none. Together
the pieces are the run under the higher limit, exchange by exchange, but for
the report that the low limit was reached.
-/

namespace LC3

/-! ## What depends on the limit

The limit is a setting among others, and instructions are given the settings. So
it is shown first that no instruction looks at this one. Of the three parts of a
step only the first, the check itself, is then left to depend on it. -/

/-- The settings with another step limit. -/
def Config.withLimit (config : Config) (limit : Option UInt64) : Config :=
  { config with maxSteps := limit }

/-- A routine looks at the prompt and at the notice only. -/
theorem Trap.perform_withLimit (config : Config) (limit : Option UInt64) (core : Core)
    (trap : Trap) : trap.perform (config.withLimit limit) core = trap.perform config core := by
  cases trap <;> rfl

/-- **No instruction knows of the limit.** -/
theorem Core.execute_withLimit (config : Config) (limit : Option UInt64) (address : Word)
    (core : Core) (i : Instruction) :
    core.execute (config.withLimit limit) address i = core.execute config address i := by
  unfold execute
  simp only [Trap.perform_withLimit]

namespace Machine

/-- **The machine with another step limit.** -/
def withLimit (m : Machine) (limit : Option UInt64) : Machine :=
  { m with config := m.config.withLimit limit }

/-- The result of a step with another step limit. -/
def limited (limit : Option UInt64) (result : Outcome × Machine) : Outcome × Machine :=
  (result.1, result.2.withLimit limit)

/-- The limit that is reached is the one that is set. -/
theorem eq_of_limitReached? {m : Machine} {n l : UInt64} (hn : m.config.maxSteps = some n)
    (h : m.limitReached? = some l) : l = n :=
  Option.some.inj ((Option.filter_eq_some_iff.1 h).1.symm.trans hn)

/-- Where a limit is not reached, no other is that is not lower. -/
theorem limitReached?_withLimit {m : Machine} {n : UInt64} {limit : Option UInt64}
    (hlimit : ∀ l ∈ limit, n ≤ l) (hn : m.config.maxSteps = some n)
    (h : m.limitReached? = none) : (m.withLimit limit).limitReached? = none := by
  cases limit with
  | none => rfl
  | some l =>
    -- the count is below the low limit, so it is below the high one
    have hbelow : ¬ n ≤ m.steps := by
      intro hreached
      unfold limitReached? at h
      rw [hn] at h
      exact nomatch h.symm.trans (if_pos (decide_eq_true hreached))
    have hle : n ≤ l := hlimit l rfl
    exact if_neg fun hreached => hbelow (UInt64.le_trans hle (of_decide_eq_true hreached))

/-- The poll and the cycle do not know of the limit. -/
theorem pollBetween_withLimit (m : Machine) (limit : Option UInt64) :
    (m.withLimit limit).pollBetween = m.pollBetween >>= fun m => .done (m.withLimit limit) := by
  obtain ⟨core, config, steps, pollFailed⟩ := m
  unfold pollBetween withLimit
  dsimp only
  by_cases hdue : steps % pollInterval = pollInterval - 1 ∧ pollFailed = false
  · rw [if_pos hdue, if_pos hdue, bind_assoc]
    refine congrArg (_ >>= ·) (funext fun answer => ?_)
    cases answer with
    | ok found => rfl
    | error e => rfl
  · rw [if_neg hdue, if_neg hdue]
    rfl

/-- **A cycle is the same under every limit**, up to the full count of steps. -/
theorem cycle_withLimit (m : Machine) (limit : Option UInt64) :
    (m.withLimit limit).cycle = m.cycle >>= fun r => .done (limited limit r) := by
  obtain ⟨core, config, steps, pollFailed⟩ := m
  unfold cycle withLimit
  dsimp only
  rw [bind_assoc]
  refine congrArg (_ >>= ·) (funext fun (w, core) => ?_)
  dsimp only
  by_cases hfull : steps = maxCount
  · rw [if_pos hfull, if_pos hfull]
    rfl
  · rw [if_neg hfull, if_neg hfull, Instruction.decode_eq_ok]
    dsimp only
    rw [bind_assoc, Core.execute_withLimit]
    refine congrArg (_ >>= ·) (funext fun _ => ?_)
    rw [bind_assoc]
    rfl

/-- **A step that two limits admit** is the same under both. -/
theorem step_withLimit {m : Machine} {limit : Option UInt64} (h : m.limitReached? = none)
    (hlimit : (m.withLimit limit).limitReached? = none) :
    (m.withLimit limit).step = m.step >>= fun r => .done (limited limit r) := by
  unfold step
  rw [h, hlimit, pollBetween_withLimit]
  dsimp only
  rw [bind_assoc, bind_assoc]
  refine congrArg (_ >>= ·) (funext fun m => ?_)
  rw [Dialogue.done_bind, bind_assoc]
  refine congrArg (_ >>= ·) (funext fun requested => ?_)
  -- an interrupted step and an executed one are the same, each by itself
  cases requested with
  | true => rfl
  | false =>
    rw [if_neg Bool.false_ne_true, if_neg Bool.false_ne_true]
    exact m.cycle_withLimit limit

/-- **Below the limit** a step does not end at it. -/
theorem ne_stepLimit_step {m : Machine} (h : m.limitReached? = none) (limit : UInt64) :
    m.step.Ends (·.1 ≠ .fault (.stepLimit limit)) := by
  unfold step
  rw [h]
  refine Dialogue.ends_bind.2 (Dialogue.ends_of_forall (fun m' => ?_) _)
  refine Dialogue.ends_bind.2 (Dialogue.ends_of_forall (fun requested => ?_) _)
  split
  · exact nofun
  · by_cases hfull : m'.steps = maxCount
    · refine (ends_cycle_of_full hfull).imp fun _ hend => ?_
      rw [hend]
      exact nofun
    · exact (ofInstruction_cycle hfull).imp fun _ hend => hend.ne_stepLimit limit

end Machine

namespace System

open Machine (eq_of_limitReached? limitReached?_withLimit)

variable {κ ω : Type}

/-- **The system with another step limit.** -/
def withLimit (s : System κ ω) (limit : Option UInt64) : System κ ω :=
  s.adjust (·.withLimit limit)

variable [Keyboard κ] [Console ω]

/-- The same for a system: its devices do not hear of the limit. -/
theorem step_withLimit {s : System κ ω} {limit : Option UInt64}
    (h : s.machine.limitReached? = none)
    (hlimit : (s.machine.withLimit limit).limitReached? = none) :
    (s.withLimit limit).step = (s.step.1, s.next.withLimit limit, s.step.2.2) := by
  obtain ⟨machine, keyboard, console⟩ := s
  unfold next step act withLimit adjust
  dsimp only
  rw [Machine.step_withLimit h hlimit, Dialogue.hold_bind]
  show (_, _, _ ++ []) = _
  rw [List.append_nil]
  rfl

/-- A step that leaves the machine running is not at the limit. -/
theorem limitReached?_of_running {s : System κ ω} (h : s.step.1 = .running) :
    s.machine.limitReached? = none := by
  cases hlimit : s.machine.limitReached? with
  | none => rfl
  | some limit =>
    rw [step_of_limit hlimit] at h
    exact nomatch h

/-! ## Runs

The induction is on the run under the low limit. The report that the limit was
reached is the only exchange of its last step then, which is why it is the only
one that the whole run does not have. -/

/-- **A run under a limit** goes the same way under one that is not lower: to
the end if it did not end at the limit, and otherwise as far as it went, and
on from there. -/
theorem Runs.withLimit {s : System κ ω} {n : UInt64} {limit : Option UInt64}
    (hlimit : ∀ l ∈ limit, n ≤ l) (hn : s.machine.config.maxSteps = some n)
    {result : Outcome × System κ ω × List Exchange} (h : Runs Machine.step s result) :
    (result.1 = .fault (.stepLimit n) →
        ∃ before, result.2.2 = before ++ [.reported (.limitReached n)]
          ∧ ∀ later, Runs Machine.step (result.2.1.withLimit limit) later →
            Runs Machine.step (s.withLimit limit) (later.1, later.2.1, before ++ later.2.2))
      ∧ (result.1 ≠ .fault (.stepLimit n) →
        Runs Machine.step (s.withLimit limit)
          (result.1, result.2.1.withLimit limit, result.2.2)) := by
  induction h with
  | @stop s hstop =>
    cases hreached : s.machine.limitReached? with
    | some l =>
      -- cut here: the rest of the run begins with the step that was not made
      have hstep : s.act Machine.step = _ := step_of_limit hreached
      rw [hstep, eq_of_limitReached? hn hreached]
      exact ⟨fun _ => ⟨[], rfl, fun _ hlater => hlater⟩, fun hne => absurd rfl hne⟩
    | none =>
      have hne := s.value_act (s.machine.ne_stepLimit_step hreached n)
      have hstep : (s.withLimit limit).act Machine.step = _ :=
        step_withLimit hreached (limitReached?_withLimit hlimit hn hreached)
      have hrun : Runs Machine.step (s.withLimit limit) _ :=
        .stop (by rw [hstep]; exact hstop)
      rw [hstep] at hrun
      exact ⟨fun heq => absurd heq hne, fun _ => hrun⟩
  | @go s result hgo later ih =>
    have hreached := limitReached?_of_running hgo
    have hstep : (s.withLimit limit).act Machine.step = _ :=
      step_withLimit hreached (limitReached?_withLimit hlimit hn hreached)
    have hgo' : ((s.withLimit limit).act Machine.step).1 = .running := by
      rw [hstep]
      exact hgo
    -- a step under the low limit, put in front of a run under the other one
    have hon : ∀ {later}, Runs Machine.step (s.next.withLimit limit) later →
        Runs Machine.step (s.withLimit limit)
          (later.1, later.2.1, s.step.2.2 ++ later.2.2) := by
      intro later hlater
      have hrun := Runs.go hgo' (by rw [hstep]; exact hlater)
      rw [hstep] at hrun
      exact hrun
    obtain ⟨hcut, hwhole⟩ := ih ((congrArg Config.maxSteps s.config_next).trans hn)
    refine ⟨fun heq => ?_, fun hne => hon (hwhole hne)⟩
    obtain ⟨before, hbefore, hrest⟩ := hcut heq
    refine ⟨s.step.2.2 ++ before, ?_, fun later hlater => ?_⟩
    · show s.step.2.2 ++ result.2.2 = _
      rw [hbefore, List.append_assoc]
    · rw [List.append_assoc]
      exact hon (hrest later hlater)

/-- **A run can be cut by step limits at will.** A run under a limit that ends
there goes on under one that is not lower, or without one, as if it had never
been cut: in the same outcome, with the same machine, keyboard and console, and
with the same exchanges, but for the report that the limit was reached. A run
that ends otherwise is the run under the other limit already. -/
theorem run_cut (s : System κ ω) {n : UInt64} {limit : Option UInt64}
    (hlimit : ∀ l ∈ limit, n ≤ l) :
    let first := (s.withLimit (some n)).run
    let rest := (first.2.1.withLimit limit).run
    let whole := (s.withLimit limit).run
    (first.1 = .fault (.stepLimit n) →
        whole.1 = rest.1 ∧ whole.2.1 = rest.2.1 ∧ whole.2.2 = first.2.2.pop ++ rest.2.2)
      ∧ (first.1 ≠ .fault (.stepLimit n) →
        whole.1 = first.1 ∧ whole.2.1 = first.2.1.withLimit limit ∧ whole.2.2 = first.2.2) := by
  intro first rest whole
  obtain ⟨hcut, hwhole⟩ := (s.withLimit (some n)).runs_run.withLimit hlimit rfl
  constructor
  · intro heq
    obtain ⟨before, hbefore, hrest⟩ := hcut heq
    have hrun := (runs_run (s.withLimit limit)).unique (hrest _ (runs_run _))
    obtain ⟨houtcome, hlater⟩ := Prod.mk.inj hrun
    obtain ⟨hsystem, hexchanges⟩ := Prod.mk.inj hlater
    refine ⟨houtcome, hsystem, Array.ext' ?_⟩
    have hpop : first.2.2.pop.toList = before := by
      rw [Array.toList_pop, show first.2.2.toList = _ from hbefore, List.dropLast_concat]
    rw [Array.toList_append, hpop]
    exact hexchanges
  · intro hne
    have hrun := (runs_run (s.withLimit limit)).unique (hwhole hne)
    obtain ⟨houtcome, hlater⟩ := Prod.mk.inj hrun
    obtain ⟨hsystem, hexchanges⟩ := Prod.mk.inj hlater
    exact ⟨houtcome, hsystem, Array.ext' hexchanges⟩

/-- Of two characters that are asked for the first is read before the cut and
the second behind it. -/
theorem run_cut_getCTwice :
    let first := (getCTwice.withLimit (some 1)).run
    let rest := (first.2.1.withLimit (some 2)).run
    let whole := (getCTwice.withLimit (some 2)).run
    (∀ l ∈ some (2 : UInt64), 1 ≤ l)
      ∧ first.1 = .fault (.stepLimit 1)
      ∧ whole.1 = rest.1 ∧ whole.2.1 = rest.2.1 ∧ whole.2.2 = first.2.2.pop ++ rest.2.2 := by
  have hlimit : ∀ l ∈ some (2 : UInt64), 1 ≤ l := by
    rintro l ⟨⟩
    decide
  have hstep := step_getC (s := getCTwice.withLimit (some 1)) (by decide) (by decide) rfl
    (by decide) (Machine.read_loaded (i := 0) rfl (by decide) (by decide))
    (show getCTwice.keyboard.unread = 0x61 :: [0x62] from rfl)
  have hreached : (getCTwice.withLimit (some 1)).next.machine.limitReached? = some 1 := by
    rw [next, hstep]
    rfl
  have hfirst : (getCTwice.withLimit (some 1)).run.1 = .fault (.stepLimit 1) := by
    have hnext := step_of_limit hreached
    show (runWith _ _ _).1 = _
    have hends : (getCTwice.withLimit (some 1)).next.step.1 ≠ .running := by
      rw [hnext]
      intro h
      cases h
    rw [runWith_eq_next (by rw [hstep]), runWith_eq_step hends, hnext]
  have hcut := (run_cut getCTwice hlimit).1 hfirst
  exact ⟨hlimit, hfirst, hcut⟩

end System

end LC3
