import LC3.Proofs.CountedPolls
import LC3.Proofs.EndOfInput
import LC3.Proofs.IntervalPoll

/-!
# Polls that are given up

A keyboard may fail when it is polled, and the two users of the poll take it
differently. A read of the status register shows zero, as if no character were
there, and the next read polls again. The machine itself, after a failed poll
between two instructions, never makes such a poll again: the failure latches
(`System.latches_pollFailed`), and resetting or loading does not take it back.

Neither is an error of the step. One that gives up polling goes on as a step that had
no poll to make (`System.step_of_givesUp`), and one whose instruction reads the status
in vain ends as that instruction does, which is running unless it prints a string to
a console that fails (`System.running_of_polled_error`).
-/

namespace LC3

open Memory (statusAddress dataAddress)
open Exchange (polls polls_append polls_reported)
open Touch (statusAfter statusPolls)

/-! ## Reads whose poll fails

Such a read takes the error for the answer that there is no character. So the
status is cleared as if the poll had found nothing, and an observer is told of
the error. -/

namespace Memory

variable {κ ω : Type} [Keyboard κ] [Console ω]

/-- **A read of the status that polls in vain** shows zero, and leaves zero. -/
theorem hold_read_of_error {m : Memory} (h : m.holds = false) {k : κ} (c : ω) {e : DeviceError}
    (herror : (Keyboard.poll k).answer = .error e) :
    (m.read statusAddress).hold k c
      = ⟨(0, m.write statusAddress 0), (Keyboard.poll k).keyboard, c,
          (Keyboard.poll k).events.map .reported ++ [.polled (.error e),
            .reported (.statusPollFailed e),
            .reported (.statusRead false false (m.peek dataAddress))]⟩ := by
  have hdata : (m.write statusAddress 0).peek dataAddress = m.peek dataAddress :=
    peek_write_ne m 0 (by decide)
  have harrival : arrival.hold k c = ⟨none, (Keyboard.poll k).keyboard, c,
      (Keyboard.poll k).events.map .reported ++ [.polled (.error e)]
        ++ [.reported (.statusPollFailed e)]⟩ := by
    unfold arrival
    rw [Dialogue.hold_bind, Dialogue.hold_pollKeyboard]
    dsimp only
    rw [herror]
    rfl
  have hread : m.read statusAddress = m.readStatus := rfl
  rw [hread, hold_readStatus_of_free h, harrival]
  simp only [hold, peek_write_self, holds_clear, hdata, List.append_assoc, List.cons_append,
    List.nil_append]

/-- A character that arrives was polled for with the answer of the keyboard. -/
theorem eq_of_polled_mem_arrival {k : κ} {c : ω} {answer : Except DeviceError Bool}
    (h : .polled answer ∈ (arrival.hold k c).exchanges) : answer = (Keyboard.poll k).answer := by
  unfold arrival at h
  rw [Dialogue.hold_bind, Dialogue.hold_pollKeyboard, Course.after_exchanges] at h
  dsimp only at h
  obtain hmem | hmem := List.mem_append.1 h
  · obtain hmem | hmem := List.mem_append.1 hmem
    · obtain ⟨event, -, heq⟩ := List.mem_map.1 hmem
      cases heq
    · exact Exchange.polled.inj (List.eq_of_mem_singleton hmem)
  · match (Keyboard.poll k).answer, hmem with
    | .ok true, hmem => exact nomatch List.eq_of_mem_singleton hmem
    | .ok false, hmem => exact nomatch hmem
    | .error e, hmem => exact nomatch List.eq_of_mem_singleton hmem

/-- **Whoever polls in vain reads zero.** -/
theorem value_eq_zero_of_polled_error (m : Memory) (a : Word) {k : κ} {c : ω} {e : DeviceError}
    (h : .polled (.error e) ∈ ((m.read a).hold k c).exchanges) :
    ((m.read a).hold k c).value.1 = 0 := by
  -- only a read of the status polls, and only while no character is held
  obtain ⟨rfl, hread⟩ | ⟨-, hread⟩ | hread := m.read_cases a
  · by_cases hholds : m.holds = true
    · rw [hread, hold_readStatus_of_holds hholds] at h
      exact nomatch List.eq_of_mem_singleton h
    · have hfree := Bool.eq_false_iff.2 hholds
      have hmem := h
      rw [hread, hold_readStatus_of_free hfree] at hmem
      obtain hmem | hmem := List.mem_append.1 hmem
      · rw [hold_read_of_error hfree c (eq_of_polled_mem_arrival hmem).symm]
      · exact nomatch List.eq_of_mem_singleton hmem
  · rw [hread, hold_readData] at h
    exact nomatch List.eq_of_mem_singleton h
  · rw [hread] at h
    exact nomatch h

end Memory

/-! ## Steps whose poll fails

A step can poll in three places: between instructions, at the fetch, and in the
instruction. The first is compared with a step that has no poll to make, at the
second the failed poll gives a word that is known, and for the third it is shown
that an instruction which polls is one of those that cannot stop the machine. -/

namespace System

section Step

variable {κ ω : Type} [Keyboard κ] [Console ω]

/-- **A step gives up polling** if its poll between instructions fails. -/
def GivesUp (s : System κ ω) : Prop :=
  s.PollsBetween ∧ ∃ e, (Keyboard.poll s.keyboard).answer = .error e

variable {s : System κ ω}

/-- Below the limit a step polls and proceeds. -/
theorem step_eq_proceed (h : s.machine.limitReached? = none) :
    let course := s.polled.machine.proceed.hold s.polled.keyboard s.polled.console
    s.step = (course.value.1, ⟨course.value.2, course.keyboard, course.console⟩,
      s.pollExchanges ++ course.exchanges) := by
  obtain ⟨machine, keyboard, console⟩ := s
  unfold step act
  dsimp only at h ⊢
  rw [Machine.step_eq_pollBetween_bind h, Dialogue.hold_bind]
  rfl

/-- **A step that gives up polling** leaves registers and memory to its instruction:
it goes on as a step that has no poll to make. -/
theorem step_of_givesUp (h : s.GivesUp) :
    s.polled = ⟨{ s.machine with pollFailed := true }, (Keyboard.poll s.keyboard).keyboard,
        s.console⟩
      ∧ s.step = (s.polled.step.1, s.polled.next, s.pollExchanges ++ s.polled.step.2.2) := by
  obtain ⟨hbetween, e, herror⟩ := h
  obtain ⟨hlimit, hdue⟩ := s.pollsBetween_iff.1 hbetween
  have hpolled : s.polled = ⟨{ s.machine with pollFailed := true },
      (Keyboard.poll s.keyboard).keyboard, s.console⟩ := by
    unfold polled
    rw [Machine.hold_pollBetween_of_error hdue _ herror]
  -- having given up, the machine has no poll to make at the same count
  have hnot : ¬ s.polled.machine.PollIsDue := by
    rw [hpolled]
    exact fun hdue => nomatch hdue.2
  have hlimit' : s.polled.machine.limitReached? = none := by
    rw [hpolled]
    exact hlimit
  refine ⟨hpolled, ?_⟩
  unfold next
  rw [step_eq_proceed hlimit, step_eq_proceed hlimit', polled_of_not_due hnot,
    pollExchanges_of_not_due hnot, List.nil_append]

/-- **What a step returns as a failure** is the answer to a write, a flush or a wait,
and never that to a poll. -/
theorem exists_mem_of_device {e : DeviceError} (h : s.step.1 = .fault (.device e)) :
    ∃ x ∈ s.step.2.2, (∃ bytes, x = .wrote bytes (.error e)) ∨ x = .flushed (.error e)
      ∨ x = .waited (.error e) := by
  have hinstruction : s.step.1.OfInstruction := by
    rw [h]
    exact trivial
  have hexecutes := s.executes_of_step hinstruction (.inl (by rw [h]; exact nofun))
  have hdevice : (Fault.device e).OfDevice := trivial
  obtain ⟨x, hmem, hfault⟩ := exists_mem_of_fault hexecutes hdevice h
  exact ⟨x, hmem, Exchange.eq_of_fault?_device hfault⟩

/-- An instruction that polls touches the memory. -/
theorem exists_touches_of_polls (h : s.Executes) (hpolls : polls s.polled.effect.exchanges ≠ 0) :
    ∃ later, later ≠ [] ∧ s.instruction.Touches s.machine.core.registers.advance later := by
  obtain ⟨later, htouches, hlater⟩ := exists_touches h
  refine ⟨later, ?_, hlater⟩
  rintro rfl
  obtain ⟨hcore, -, -⟩ := s.polled_machine
  have hfetched : polls s.polled.fetched.exchanges
      = statusPolls s.status [.read s.machine.core.registers.pc s.polled.fetched.value.1] := by
    rw [← s.status_polled, ← hcore]
    exact (s.polled.machine.core.memory.accounts_read _ _ _).polls_eq
  have hcycle : polls (.asked false :: (s.polled.fetched.exchanges
      ++ .reported (.executed s.machine.core.registers.pc s.instruction)
        :: s.polled.effect.exchanges))
      = polls s.polled.fetched.exchanges + polls s.polled.effect.exchanges := polls_append _ _
  -- the poll between instructions and that of the fetch are all that the step accounts for
  have hstep := s.accounts_step.2
  rw [step_of_executes h, htouches, polls_append, polls_pollExchanges h.unlimited, hcycle,
    hfetched] at hstep
  omega

/-- **An instruction that touches the memory** leaves the machine running, unless it
prints a string to a console that fails. -/
theorem running_of_touches (h : s.Executes) {later : List Touch} (hsome : later ≠ [])
    (htouches : s.instruction.Touches s.machine.core.registers.advance later) :
    s.step.1 = .running
      ∨ (∃ error, s.step.1 = .fault (.device error))
        ∧ (s.instruction.Calls .putS ∨ s.instruction.Calls .putSP) := by
  by_cases hcalls : ∃ trap, s.instruction.Calls trap
  · obtain ⟨trap, hcalls⟩ := hcalls
    have hiff := Instruction.calls_iff hcalls.1 hcalls.2
    have hstring : s.instruction.Calls .putS ∨ s.instruction.Calls .putSP := by
      by_contra hstring
      exact hsome (Instruction.eq_nil_of_touches hcalls.1 (not_or.1 hstring) htouches)
    obtain hgoes | hhalted | hinterrupted | hdevice := (ending_step h hcalls).outcome_cases
    · exact .inl hgoes
    · obtain ⟨hhalt, -⟩ := (halted_iff_of_executes h).1 hhalted
      simp only [hiff] at hhalt hstring
      rw [hhalt] at hstring
      exact absurd hstring (by decide)
    · obtain ⟨hawaits, -⟩ := (interrupted_iff_of_executes h).1 hinterrupted
      simp only [hiff] at hawaits hstring
      obtain rfl | rfl := hstring <;> exact absurd hawaits (by simp)
    · exact .inr ⟨hdevice, hstring⟩
  · refine .inl ?_
    rw [step_of_not_calls h (not_exists.1 hcalls),
      Instruction.outcome_of_not_calls (not_exists.1 hcalls)]
    -- an operation without a meaning touches nothing
    refine if_neg fun hreserved => hsome ?_
    unfold Instruction.Touches at htouches
    obtain hopcode | hopcode := hreserved <;> rwa [hopcode] at htouches

/-- **A poll in vain ends no run:** the step whose instruction made it leaves the
machine running, unless it prints a string to a console that fails. -/
theorem running_of_polled_error (h : s.Executes) {e : DeviceError}
    (hmem : .polled (.error e) ∈ s.polled.fetched.exchanges ++ s.polled.effect.exchanges) :
    s.step.1 = .running
      ∨ (∃ error, s.step.1 = .fault (.device error))
        ∧ (s.instruction.Calls .putS ∨ s.instruction.Calls .putSP) := by
  obtain hmem | hmem := List.mem_append.1 hmem
  · -- the word that was fetched is zero, a branch that is never taken
    have hzero : s.polled.fetched.value.1 = 0 :=
      s.polled.machine.core.memory.value_eq_zero_of_polled_error _ hmem
    have hopcode : s.instruction.opcode = .br :=
      congrArg (fun w => (Instruction.ofWord w).opcode) hzero
    have hcalls : ∀ trap, ¬ s.instruction.Calls trap := fun trap hcalls =>
      nomatch hopcode.symm.trans hcalls.1
    refine .inl ?_
    rw [step_of_not_calls h hcalls, Instruction.outcome_of_not_calls hcalls, hopcode]
    exact if_neg (by decide)
  · have hpolls : polls s.polled.effect.exchanges ≠ 0 :=
      Nat.ne_of_gt (List.countP_pos_iff.2 ⟨_, hmem, rfl⟩)
    obtain ⟨later, hsome, htouches⟩ := exists_touches_of_polls h hpolls
    exact running_of_touches h hsome htouches

end Step

section Session

variable {κ ω : Type} [Keyboard κ] [Console ω]

/-- **Giving up latches.** -/
theorem latches_pollFailed :
    Latches (fun s : System κ ω => s.machine.pollFailed = true) GivesUp where
  step s := by
    rw [pollFailed_next_iff]
    unfold GivesUp PollsBetween
    cases s.machine.pollFailed <;> simp [and_assoc]
  other s {command} hstep hrun := by
    obtain ⟨characters, hobeyed⟩ | ⟨dialogue, hdialogue, hobeyed⟩ := s.obeyed_cases hstep hrun
    · rw [hobeyed]
    · have hkept : (s.act dialogue).2.1.machine.pollFailed = s.machine.pollFailed :=
        s.value_act (hdialogue s.machine).pollFailed
      rw [hobeyed, hkept]

/-- **A step bears polls that fail.** -/
structure BearsFailedPolls (s : System κ ω) : Prop where
  /-- A poll between instructions that fails changes no register and no word of memory,
  but it is the last of its kind, -/
  polled : s.GivesUp → s.polled = ⟨{ s.machine with pollFailed := true },
    (Keyboard.poll s.keyboard).keyboard, s.console⟩
  /-- and the step goes on from there as one that has no poll to make. -/
  step : s.GivesUp →
    s.step = (s.polled.step.1, s.polled.next, s.pollExchanges ++ s.polled.step.2.2)
  /-- What a step returns as the failure of a device is the answer to a write, a flush or
  a wait. -/
  device : ∀ e, s.step.1 = .fault (.device e) →
    ∃ x ∈ s.step.2.2, (∃ bytes, x = .wrote bytes (.error e)) ∨ x = .flushed (.error e)
      ∨ x = .waited (.error e)
  /-- A read of the status that polls in vain shows zero, and changes the status to
  zero. -/
  read : ∀ e, s.machine.core.memory.holds = false → (Keyboard.poll s.keyboard).answer = .error e →
    (s.machine.core.memory.read statusAddress).hold s.keyboard s.console
      = ⟨(0, s.machine.core.memory.write statusAddress 0), (Keyboard.poll s.keyboard).keyboard,
          s.console, (Keyboard.poll s.keyboard).events.map .reported ++ [.polled (.error e),
            .reported (.statusPollFailed e),
            .reported (.statusRead false false (s.machine.core.memory.peek dataAddress))]⟩
  /-- An instruction during which a poll fails leaves the machine running, but for a
  string that cannot be written. -/
  running : s.Executes → ∀ e,
    .polled (.error e) ∈ s.polled.fetched.exchanges ++ s.polled.effect.exchanges →
    s.step.1 = .running ∨ (∃ error, s.step.1 = .fault (.device error))
      ∧ (s.instruction.Calls .putS ∨ s.instruction.Calls .putSP)

/-- Every step does, with every keyboard. -/
theorem bearsFailedPolls (s : System κ ω) : s.BearsFailedPolls where
  polled h := (step_of_givesUp h).1
  step h := (step_of_givesUp h).2
  device _ h := exists_mem_of_device h
  read _ hfree herror := Memory.hold_read_of_error hfree s.console herror
  running h _ hmem := running_of_polled_error h hmem

/-- **The polls of a session** are these and no others. -/
structure CountsPolls (s : System κ ω) (commands : List Command) : Prop where
  /-- There is one for each read of the status while no character is held, and one for
  each step that polls between instructions. -/
  polls_eq : polls (s.obeyAll commands).2.2
    = statusPolls s.status (s.history commands) + (s.starts commands).countP fun t => t.PollsBetween
  /-- The status at each read is the one that the history tells. -/
  status_eq : (s.obeyAll commands).2.1.status = (s.history commands).foldl statusAfter s.status
  /-- Each step makes those of its own reads, and at most one more. -/
  polls_step : ∀ t ∈ s.starts commands, polls t.step.2.2
    = statusPolls t.status t.touches + if t.PollsBetween then 1 else 0
  /-- A step polls between instructions if it passes the limit at the last of 4096 steps
  and no step before gave up. -/
  between : ∀ before t after, s.starts commands = before ++ t :: after →
    (t.PollsBetween ↔ ¬ t.machine.Limited ∧ t.machine.steps.toNat % 4096 = 4095
      ∧ s.machine.pollFailed = false ∧ ∀ u ∈ before, ¬ u.GivesUp)
  /-- After one that gave up there is no poll to make. -/
  never : ∀ before t after, s.starts commands = before ++ t :: after →
    (∃ u ∈ before, u.GivesUp) → t.polled = t ∧ t.pollExchanges = []

/-- It is so for every session, by induction on its steps. -/
theorem countsPolls (s : System κ ω) (commands : List Command) : s.CountsPolls commands where
  polls_eq := (s.leads_obeyAll commands).accounts.2
  status_eq := (s.leads_obeyAll commands).accounts.1
  polls_step t _ := t.accounts_step.2
  between before t after hstarts := by
    have hfailed := latches_pollFailed.iff_of_split hstarts
    unfold PollsBetween
    rw [← Bool.not_eq_true, hfailed]
    simp only [not_or, not_exists, not_and, Bool.not_eq_true]
  never before t after hstarts hgave := by
    have hfailed := (latches_pollFailed.iff_of_split hstarts).2 (.inr hgave)
    have hdue : ¬ t.machine.PollIsDue := fun hdue => Bool.false_ne_true (hdue.2.symm.trans hfailed)
    exact ⟨polled_of_not_due hdue, pollExchanges_of_not_due hdue⟩

/-- A session in which a poll between instructions is given up at the first step makes no
other. -/
theorem CountsPolls.polls_of_givesUp {s : System κ ω} {commands : List Command}
    (h : s.CountsPolls commands) (hgives : s.GivesUp)
    {rest : List (System κ ω)} (hstarts : s.starts commands = s :: rest) :
    polls (s.obeyAll commands).2.2 = statusPolls s.status (s.history commands) + 1 := by
  have hnone : rest.countP (fun t => t.PollsBetween) = 0 := by
    refine List.countP_eq_zero.2 fun t hmem => ?_
    obtain ⟨before, after, rfl⟩ := List.append_of_mem hmem
    rw [decide_eq_true_eq, h.between (s :: before) t after hstarts]
    exact fun hpolls => hpolls.2.2.2 s List.mem_cons_self hgives
  rw [h.polls_eq, hstarts, List.countP_cons, hnone, if_pos (decide_eq_true hgives.1)]

/-- **A failing poll between instructions is given up for good, and only that one**,
for every system, whatever its keyboard answers, and every session with it. Each read
of the status polls once unless a character is held, before and after; the polls of a
session are these and those between instructions; and no poll that fails is an error of
a step or the end of a run. -/
theorem failed_polls_are_borne (s : System κ ω) (commands : List Command) :
    s.CountsPolls commands
      ∧ (∀ t : System κ ω, t.BearsFailedPolls)
      ∧ ∀ (m : Memory) (a : Word) (k : κ) (c : ω), polls ((m.read a).hold k c).exchanges
        = if a = statusAddress ∧ m.peek statusAddress ≠ Memory.ready then 1 else 0 := by
  refine ⟨s.countsPolls commands, fun t => t.bearsFailedPolls, fun m a k c => ?_⟩
  rw [(m.accounts_read a k c).polls_eq]
  simp [statusPolls, Touch.polls]

end Session

/-- A machine that is about to poll a stream, and goes on in empty memory. The stream
fails at every attempt. -/
def failsAtPoll : System Stream Collector :=
  ⟨{ Machine.initial with steps := 4095 },
    { steps := List.replicate 3 (.failure Collector.brokenPipe) }, {}⟩

/-- **It has gone on** for so many steps. Nothing is in its memory, and a zero is a branch
that is never taken, so only the program counter and the count tell how many. -/
structure WentOn (t : System Stream Collector) (n : Nat) : Prop where
  pc : t.machine.core.registers.pc.toNat = 0x3000 + n
  memory : t.machine.core.memory = .empty
  unlimited : t.machine.config.maxSteps = none
  steps : t.machine.steps.toNat = 4095 + n
  requested : Keyboard.requested t.keyboard = false

/-- It begins so. -/
theorem wentOn_failsAtPoll : failsAtPoll.WentOn 0 := ⟨rfl, rfl, rfl, rfl, rfl⟩

variable {t : System Stream Collector} {n : Nat}

/-- It executes an instruction at each step: the count is far from its end. -/
theorem WentOn.executes (h : t.WentOn n) (hn : n ≤ 8192) : t.Executes where
  unlimited := Machine.limitReached?_of_none h.unlimited
  unrequested := t.requested_polled.trans h.requested
  countable hfull := by
    have hsteps := h.steps
    rw [hfull] at hsteps
    have hmax : Machine.maxCount.toNat = 2 ^ 64 - 1 := rfl
    omega

/-- The step reads a zero behind the one before, and goes on. -/
theorem WentOn.next (h : t.WentOn n) (hn : n ≤ 8192) :
    t.step.1 = .running ∧ t.next.WentOn (n + 1)
      ∧ ∃ a, a ≠ statusAddress ∧ a ≠ dataAddress ∧ t.touches = [.read a 0] := by
  have hpc := h.pc
  have hstatus : t.machine.core.registers.pc ≠ statusAddress := fun heq => by
    rw [heq] at hpc
    have hvalue : statusAddress.toNat = 0xFE00 := rfl
    omega
  have hdata : t.machine.core.registers.pc ≠ dataAddress := fun heq => by
    rw [heq] at hpc
    have hvalue : dataAddress.toNat = 0xFE02 := rfl
    omega
  have hexecutes := h.executes hn
  have hfetched : t.polled.fetched = ⟨(0, .empty), t.polled.keyboard, t.polled.console, []⟩ := by
    obtain ⟨hcore, -, -⟩ := t.polled_machine
    rw [fetched, hcore, Memory.read_eq_done _ hstatus hdata, h.memory, Memory.peek_empty]
    rfl
  have hinstruction : t.instruction = .ofWord 0 := by
    rw [instruction, hfetched]
  -- none of the three signs is asked for, so the branch is not taken whatever the flag is
  have hexecute (core : Core) : core.execute t.machine.config t.machine.core.registers.pc
      (.ofWord 0) = .done (.running, core) :=
    if_pos UInt16.zero_and
  have hstep := step_of_executes hexecutes
  rw [effect_polled, hinstruction, hfetched, hexecute] at hstep
  have hnext := next_eq_of_step hstep
  refine ⟨congrArg Prod.fst hstep, ?_, _, hstatus, hdata, ?_⟩
  · have hadvanced : (t.machine.core.registers.pc + 1).toNat = 0x3000 + (n + 1) := by
      rw [UInt16.toNat_add, hpc]
      show (0x3000 + n + 1) % 2 ^ 16 = _
      omega
    have hcounted : (t.machine.steps + 1).toNat = 4095 + (n + 1) := by
      rw [Machine.toNat_count_add_one hexecutes.countable, h.steps, Nat.add_assoc]
    rw [hnext]
    exact ⟨hadvanced, rfl, t.polled_machine.2.1 ▸ h.unlimited, hcounted,
      t.requested_polled.trans h.requested⟩
  · obtain ⟨later, htouches, hlater⟩ := exists_touches hexecutes
    rw [hinstruction] at hlater
    obtain rfl : later = [] := hlater
    rw [htouches, hfetched]

/-- So none of its steps reads the status, and a read behind them is the only one. -/
theorem WentOn.statusPolls_history (h : t.WentOn n) {m : Nat} (hm : n + m ≤ 8192) :
    statusPolls 0 (t.history (List.replicate m .step ++ [.read statusAddress])) = 1 := by
  induction m generalizing t n with
  | zero => rfl
  | succ m ih =>
    obtain ⟨-, hnext, a, hstatus, hdata, htouches⟩ := h.next (by omega)
    have hhistory : t.history (List.replicate (m + 1) .step ++ [.read statusAddress])
        = t.touches ++ t.next.history (List.replicate m .step ++ [.read statusAddress]) := rfl
    rw [hhistory, htouches, ← ih hnext (by omega)]
    simp [statusPolls, Touch.polls, statusAfter, hstatus, hdata]

/-- **It goes on like that** beyond the second interval. -/
theorem wentOn_after (hn : n ≤ 8192) : (failsAtPoll.after n).WentOn n := by
  induction n with
  | zero => exact wentOn_failsAtPoll
  | succ n ih =>
    rw [after_succ']
    exact ((ih (by omega)).next (by omega)).2.1

/-- So many steps and one more, and a read of the status behind them. -/
def stepsThenRead (m : Nat) : List Command :=
  List.replicate (m + 1) .step ++ [.read statusAddress]

/-- The first step starts at the system itself. -/
theorem exists_starts_stepsThenRead {κ ω : Type} [Keyboard κ] [Console ω] (s : System κ ω)
    (m : Nat) : ∃ rest, s.starts (stepsThenRead m) = s :: rest := ⟨_, rfl⟩

/-- The interval comes round after 4096 steps, and no poll is made then; a read of the
status still polls. -/
theorem failed_polls_are_borne_failsAtPoll :
    failsAtPoll.GivesUp
      ∧ (failsAtPoll.after 4096).machine.steps.toNat % 4096 = 4095
      ∧ (failsAtPoll.after 4096).step.1 = .running
      ∧ polls (failsAtPoll.obeyAll (stepsThenRead 4096)).2.2 = 2 := by
  have hgives : failsAtPoll.GivesUp := ⟨by decide, _, rfl⟩
  have hround := wentOn_after (n := 4096) (by decide)
  refine ⟨hgives, by rw [hround.steps], (hround.next (by decide)).1, ?_⟩
  obtain ⟨hcounts, -⟩ := failed_polls_are_borne failsAtPoll (stepsThenRead 4096)
  obtain ⟨rest, hstarts⟩ := exists_starts_stepsThenRead failsAtPoll 4096
  have hstatus : failsAtPoll.status = 0 := Memory.peek_empty _
  rw [hcounts.polls_of_givesUp hgives hstarts, hstatus, stepsThenRead,
    wentOn_failsAtPoll.statusPolls_history (by decide)]

end System

end LC3
