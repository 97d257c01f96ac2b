import LC3.System
import LC3.Proofs.Decoding

/-!
# What a step is made of

A step of the machine goes through stages: the step limit, the poll that may
be due, the question whether shutdown was requested, the fetch, and the
effect of the instruction. Held with a keyboard and a console, each stage
starts with the devices that the stage before left, and the exchanges follow
one another. This module states the course of a step stage by stage
(`Machine.hold_step`, `Machine.hold_cycle`, and `System.step_eq_cycle`,
`System.cycle_eq` for a whole system), so that what is proved of the stages is
put together without opening the step again.

Decoding never fails, so the only way for a step to crash is a step counter
that is used up.
-/

namespace LC3

variable {κ ω α : Type}

namespace Course

@[simp] theorem after_value (c : Course κ ω α) (before : List Exchange) :
    (c.after before).value = c.value := rfl

@[simp] theorem after_keyboard (c : Course κ ω α) (before : List Exchange) :
    (c.after before).keyboard = c.keyboard := rfl

@[simp] theorem after_console (c : Course κ ω α) (before : List Exchange) :
    (c.after before).console = c.console := rfl

@[simp] theorem after_exchanges (c : Course κ ω α) (before : List Exchange) :
    (c.after before).exchanges = before ++ c.exchanges := rfl

/-- Exchanges before exchanges are exchanges before. -/
theorem after_after (c : Course κ ω α) (before earlier : List Exchange) :
    (c.after before).after earlier = c.after (earlier ++ before) := by
  unfold after
  rw [List.append_assoc]

/-- Nothing comes after what was exchanged before a course that is over. -/
theorem after_done (a : α) (k : κ) (c : ω) (before : List Exchange) :
    (⟨a, k, c, []⟩ : Course κ ω α).after before = ⟨a, k, c, before⟩ := by
  unfold after
  rw [List.append_nil]

end Course

variable [Keyboard κ] [Console ω]

/-! ## Single questions

Each question is one exchange, but for the reports that the keyboard makes when
it polls or waits: they come first. -/

namespace Dialogue

/-- To ask about shutdown moves nothing. -/
theorem hold_shutdownRequested (k : κ) (c : ω) :
    shutdownRequested.hold k c
      = ⟨Keyboard.requested k, k, c, [.asked (Keyboard.requested k)]⟩ := rfl

/-- A report is an exchange that asks nobody. -/
theorem hold_tell (event : Event) (k : κ) (c : ω) :
    (tell event).hold k c = ⟨(), k, c, [.reported event]⟩ := rfl

/-- A poll moves the keyboard. -/
theorem hold_pollKeyboard (k : κ) (c : ω) :
    pollKeyboard.hold k c
      = ⟨(Keyboard.poll k).answer, (Keyboard.poll k).keyboard, c,
          (Keyboard.poll k).events.map .reported ++ [.polled (Keyboard.poll k).answer]⟩ :=
  Course.after_done _ _ _ _

/-- So does a wait. -/
theorem hold_awaitCharacter (k : κ) (c : ω) :
    awaitCharacter.hold k c
      = ⟨(Keyboard.wait k).answer, (Keyboard.wait k).keyboard, c,
          (Keyboard.wait k).events.map .reported ++ [.waited (Keyboard.wait k).answer]⟩ :=
  Course.after_done _ _ _ _

end Dialogue

/-! ## The stages of a step

The two questions before the fetch end the step if they are answered so. A step
that ends at the first has done nothing, not even a poll that is due. -/

namespace Machine

/-- Without a limit there is none to reach. -/
theorem limitReached?_of_none {m : Machine} (h : m.config.maxSteps = none) :
    m.limitReached? = none := by
  unfold limitReached?
  rw [h]
  rfl

/-- The limit is reached when so many instructions were executed. -/
theorem limitReached?_eq {m : Machine} {limit : UInt64}
    (h : m.config.maxSteps = some limit) :
    m.limitReached? = if limit.toNat ≤ m.steps.toNat then some limit else none := by
  unfold limitReached?
  rw [h]
  by_cases hle : limit ≤ m.steps
  · exact (if_pos (decide_eq_true hle)).trans (if_pos (UInt64.le_iff_toNat_le.1 hle)).symm
  · exact (if_neg fun hd => hle (of_decide_eq_true hd)).trans
      (if_neg fun hn => hle (UInt64.le_iff_toNat_le.2 hn)).symm

/-- **A step at the limit** does nothing but say so. -/
theorem hold_step_of_limit {m : Machine} {limit : UInt64} (h : m.limitReached? = some limit)
    (k : κ) (c : ω) :
    m.step.hold k c
      = ⟨(.fault (.stepLimit limit), m), k, c, [.reported (.limitReached limit)]⟩ := by
  unfold step
  rw [h]
  rfl

/-- **A step below the limit** polls if that is due and stops if shutdown was
requested. -/
theorem hold_step_of_requested {m : Machine} (h : m.limitReached? = none) {k : κ} {c : ω}
    (hrequested : Keyboard.requested (m.pollBetween.hold k c).keyboard = true) :
    m.step.hold k c
      = ⟨(.fault .interrupted, (m.pollBetween.hold k c).value),
          (m.pollBetween.hold k c).keyboard, (m.pollBetween.hold k c).console,
          (m.pollBetween.hold k c).exchanges ++ [.asked true, .reported .interrupted]⟩ := by
  unfold step
  rw [h]
  dsimp only
  rw [Dialogue.hold_bind, Dialogue.hold_bind, Dialogue.hold_shutdownRequested]
  dsimp only
  rw [hrequested, if_pos rfl]
  rfl

/-- If shutdown was not requested, it fetches and executes an
instruction. -/
theorem hold_step {m : Machine} (h : m.limitReached? = none) {k : κ} {c : ω}
    (hrequested : Keyboard.requested (m.pollBetween.hold k c).keyboard = false) :
    m.step.hold k c
      = ((m.pollBetween.hold k c).value.cycle.hold (m.pollBetween.hold k c).keyboard
          (m.pollBetween.hold k c).console).after
            ((m.pollBetween.hold k c).exchanges ++ [.asked false]) := by
  unfold step
  rw [h]
  dsimp only
  rw [Dialogue.hold_bind, Dialogue.hold_bind, Dialogue.hold_shutdownRequested]
  dsimp only
  rw [hrequested, if_neg Bool.false_ne_true, Course.after_after]

/-- A poll between instructions is due. -/
def PollIsDue (m : Machine) : Prop :=
  m.steps % pollInterval = pollInterval - 1 ∧ m.pollFailed = false

instance (m : Machine) : Decidable m.PollIsDue := inferInstanceAs (Decidable (_ ∧ _))

/-- It is due at the last of 4096 steps, unless a poll failed. -/
theorem pollIsDue_iff (m : Machine) :
    m.PollIsDue ↔ m.steps.toNat % 4096 = 4095 ∧ m.pollFailed = false := by
  unfold PollIsDue
  rw [← UInt64.toNat_inj, UInt64.toNat_mod]
  rfl

/-- No poll is made that is not due. -/
theorem hold_pollBetween_of_not_due {m : Machine} (h : ¬ m.PollIsDue) (k : κ) (c : ω) :
    m.pollBetween.hold k c = ⟨m, k, c, []⟩ := by
  unfold pollBetween
  rw [if_neg (show ¬ (_ ∧ _) from h)]
  rfl

/-- A poll that is due changes nothing but the keyboard. -/
theorem hold_pollBetween_of_ok {m : Machine} (h : m.PollIsDue) {k : κ} (c : ω) {found : Bool}
    (hok : (Keyboard.poll k).answer = .ok found) :
    m.pollBetween.hold k c
      = ⟨m, (Keyboard.poll k).keyboard, c,
          (Keyboard.poll k).events.map .reported ++ [.polled (.ok found)]⟩ := by
  unfold pollBetween
  rw [if_pos (show _ ∧ _ from h), Dialogue.hold_bind, Dialogue.hold_pollKeyboard]
  dsimp only
  rw [hok]
  exact Course.after_done _ _ _ _

/-- A poll that fails is given up for good. -/
theorem hold_pollBetween_of_error {m : Machine} (h : m.PollIsDue) {k : κ} (c : ω)
    {e : DeviceError} (herror : (Keyboard.poll k).answer = .error e) :
    m.pollBetween.hold k c
      = ⟨{ m with pollFailed := true }, (Keyboard.poll k).keyboard, c,
          (Keyboard.poll k).events.map .reported ++ [.polled (.error e)]
            ++ [.reported (.pollAbandoned e)]⟩ := by
  unfold pollBetween
  rw [if_pos (show _ ∧ _ from h), Dialogue.hold_bind, Dialogue.hold_pollKeyboard]
  dsimp only
  rw [herror]
  rfl

/-- **The poll touches nothing of the machine** but its readiness to poll
again. -/
theorem ends_pollBetween_eq (m : Machine) :
    m.pollBetween.Ends fun m' => ∃ failed, m' = { m with pollFailed := failed } := by
  unfold pollBetween
  split
  · refine Dialogue.ends_bind.2 (Dialogue.ends_of_forall (fun answer => ?_) _)
    cases answer with
    | ok found => exact ⟨m.pollFailed, rfl⟩
    | error e => exact ⟨true, rfl⟩
  · exact ⟨m.pollFailed, rfl⟩

/-- **The fetch reads the word at the program counter** like any word, with
the effects of reading. -/
theorem hold_fetch (core : Core) (k : κ) (c : ω) :
    core.fetch.hold k c
      = (let read := (core.memory.read core.registers.pc).hold k c
        ⟨(read.value.1, ⟨core.registers.advance, read.value.2⟩), read.keyboard, read.console,
          read.exchanges⟩) := by
  unfold Core.fetch
  rw [Dialogue.hold_bind]
  exact Course.after_done _ _ _ _

/-- **A step counter that is used up** lets no instruction take effect. -/
theorem hold_cycle_of_full {m : Machine} (h : m.steps = maxCount) (k : κ) (c : ω) :
    m.cycle.hold k c
      = (let fetched := m.core.fetch.hold k c
        ⟨(.crash .arithmetic, { m with core := fetched.value.2 }), fetched.keyboard,
          fetched.console, fetched.exchanges⟩) := by
  obtain ⟨core, config, steps, pollFailed⟩ := m
  unfold cycle
  dsimp only
  rw [Dialogue.hold_bind, if_pos h]
  exact Course.after_done _ _ _ _

/-- **An instruction is fetched, counted and takes effect**, in this order.
Decoding is never refused. -/
theorem hold_cycle {m : Machine} (h : m.steps ≠ maxCount) (k : κ) (c : ω) :
    m.cycle.hold k c
      = (let fetched := m.core.fetch.hold k c
        let instruction := Instruction.ofWord fetched.value.1
        let done := (fetched.value.2.execute m.config m.core.registers.pc instruction).hold
          fetched.keyboard fetched.console
        ⟨(done.value.1, { m with core := done.value.2, steps := m.steps + 1 }), done.keyboard,
          done.console, fetched.exchanges
            ++ .reported (.executed m.core.registers.pc instruction) :: done.exchanges⟩) := by
  -- the fetch leaves the rest of the machine, so that the count may be looked at before it
  obtain ⟨core, config, steps, pollFailed⟩ := m
  unfold cycle
  dsimp only
  rw [Dialogue.hold_bind, if_neg h, Instruction.decode_eq_ok]
  dsimp only
  rw [Dialogue.hold_bind, Dialogue.hold_tell, Dialogue.hold_bind]
  show Course.after (Course.after (Course.after ⟨_, _, _, []⟩ _) _) _ = _
  rw [Course.after_done]
  rfl

end Machine

/-! ## Steps of a system

From here on the devices go with the machine. A stage is a system or a course,
and the lemmas of other modules about steps speak of these (`System.polled`,
`System.fetched`, `System.effect`) and not of the dialogue of the machine. -/

namespace System

/-- **The system at the fetch:** what the poll leaves that may be due. -/
def polled (s : System κ ω) : System κ ω :=
  let course := s.machine.pollBetween.hold s.keyboard s.console
  ⟨course.value, course.keyboard, course.console⟩

/-- What this poll exchanges. -/
def pollExchanges (s : System κ ω) : List Exchange :=
  (s.machine.pollBetween.hold s.keyboard s.console).exchanges

/-- A poll that is due moves the keyboard, and if it is answered it leaves the
machine alone. -/
theorem polled_of_due {s : System κ ω} (hdue : s.machine.PollIsDue) :
    s.polled.keyboard = (Keyboard.poll s.keyboard).keyboard
      ∧ ∀ found, (Keyboard.poll s.keyboard).answer = .ok found
        → s.polled.machine = s.machine := by
  unfold polled
  cases hanswer : (Keyboard.poll s.keyboard).answer with
  | ok found =>
    rw [Machine.hold_pollBetween_of_ok hdue _ hanswer]
    exact ⟨rfl, fun _ _ => rfl⟩
  | error e =>
    rw [Machine.hold_pollBetween_of_error hdue _ hanswer]
    exact ⟨rfl, nofun⟩

/-- Between two polls nothing is moved. -/
theorem polled_of_not_due {s : System κ ω} (hdue : ¬ s.machine.PollIsDue) : s.polled = s := by
  unfold polled
  rw [Machine.hold_pollBetween_of_not_due hdue]

/-- Nor is anything exchanged. -/
theorem pollExchanges_of_not_due {s : System κ ω} (hdue : ¬ s.machine.PollIsDue) :
    s.pollExchanges = [] := by
  unfold pollExchanges
  rw [Machine.hold_pollBetween_of_not_due hdue]

/-- **What the poll exchanges:** what the keyboard reports, what it answers,
and that polling is given up. -/
theorem mem_pollExchanges {s : System κ ω} {e : Exchange} (h : e ∈ s.pollExchanges) :
    (∃ event ∈ (Keyboard.poll s.keyboard).events, e = .reported event)
      ∨ e = .polled (Keyboard.poll s.keyboard).answer
      ∨ ∃ error, e = .reported (.pollAbandoned error) := by
  -- with either answer the reports of the keyboard come before it
  have hpolled : ∀ {answer}, e ∈ (Keyboard.poll s.keyboard).events.map .reported
        ++ [.polled answer] →
      (∃ event ∈ (Keyboard.poll s.keyboard).events, e = .reported event)
        ∨ e = .polled answer := by
    intro answer hmem
    obtain hmem | hmem := List.mem_append.1 hmem
    · obtain ⟨event, hevent, he⟩ := List.mem_map.1 hmem
      exact .inl ⟨event, hevent, he.symm⟩
    · exact .inr (List.eq_of_mem_singleton hmem)
  by_cases hdue : s.machine.PollIsDue
  · unfold pollExchanges at h
    cases hanswer : (Keyboard.poll s.keyboard).answer with
    | ok found =>
      rw [Machine.hold_pollBetween_of_ok hdue _ hanswer] at h
      exact (hpolled h).imp_right .inl
    | error error =>
      rw [Machine.hold_pollBetween_of_error hdue _ hanswer] at h
      obtain hmem | hmem := List.mem_append.1 h
      · exact (hpolled hmem).imp_right .inl
      · exact .inr (.inr ⟨error, List.eq_of_mem_singleton hmem⟩)
  · rw [pollExchanges_of_not_due hdue] at h
    exact nomatch h

/-- The word at the program counter is read, with the effects of reading. -/
def fetched (s : System κ ω) : Course κ ω (Word × Memory) :=
  (s.machine.core.memory.read s.machine.core.registers.pc).hold s.keyboard s.console

/-- **The effect of the instruction** that was fetched. -/
def effect (s : System κ ω) : Course κ ω (Outcome × Core) :=
  (Core.execute s.machine.config s.machine.core.registers.pc
    ⟨s.machine.core.registers.advance, s.fetched.value.2⟩ (.ofWord s.fetched.value.1)).hold
      s.fetched.keyboard s.fetched.console

/-- The cycle of a system: fetch, count, execute. -/
def cycle (s : System κ ω) : Course κ ω (Outcome × Machine) :=
  s.machine.cycle.hold s.keyboard s.console

/-- A cycle that cannot be counted is a fetch. -/
theorem cycle_of_full {s : System κ ω} (h : s.machine.steps = Machine.maxCount) :
    s.cycle = ⟨(.crash .arithmetic,
        { s.machine with core := ⟨s.machine.core.registers.advance, s.fetched.value.2⟩ }),
      s.fetched.keyboard, s.fetched.console, s.fetched.exchanges⟩ := by
  unfold cycle
  rw [Machine.hold_cycle_of_full h, Machine.hold_fetch]
  rfl

/-- **A cycle that can be counted** is the fetch and the effect. -/
theorem cycle_eq {s : System κ ω} (h : s.machine.steps ≠ Machine.maxCount) :
    s.cycle = ⟨(s.effect.value.1,
        { s.machine with core := s.effect.value.2, steps := s.machine.steps + 1 }),
      s.effect.keyboard, s.effect.console,
      s.fetched.exchanges ++ .reported (.executed s.machine.core.registers.pc
        (.ofWord s.fetched.value.1)) :: s.effect.exchanges⟩ := by
  unfold cycle
  rw [Machine.hold_cycle h, Machine.hold_fetch]
  rfl

/-- The poll leaves the registers, the memory and the count. -/
theorem polled_machine (s : System κ ω) :
    s.polled.machine.core = s.machine.core ∧ s.polled.machine.config = s.machine.config
      ∧ s.polled.machine.steps = s.machine.steps := by
  obtain ⟨failed, h⟩ := s.machine.ends_pollBetween_eq.hold s.keyboard s.console
  have hmachine : s.polled.machine = { s.machine with pollFailed := failed } := h
  rw [hmachine]
  exact ⟨rfl, rfl, rfl⟩

/-- The cycle leaves the settings and the readiness to poll. -/
theorem cycle_machine (s : System κ ω) :
    s.cycle.value.2.config = s.machine.config
      ∧ s.cycle.value.2.pollFailed = s.machine.pollFailed := by
  by_cases hfull : s.machine.steps = Machine.maxCount
  · rw [cycle_of_full hfull]
    exact ⟨rfl, rfl⟩
  · rw [cycle_eq hfull]
    exact ⟨rfl, rfl⟩

/-- **A step at the limit** leaves the system as it is. -/
theorem step_of_limit {s : System κ ω} {limit : UInt64}
    (h : s.machine.limitReached? = some limit) :
    s.step = (.fault (.stepLimit limit), s, [.reported (.limitReached limit)]) := by
  obtain ⟨machine, keyboard, console⟩ := s
  unfold step act
  dsimp only
  rw [Machine.hold_step_of_limit h]

/-- **A step after a request for shutdown** leaves what the poll left. -/
theorem step_of_requested {s : System κ ω} (hlimit : s.machine.limitReached? = none)
    (hrequested : Keyboard.requested s.polled.keyboard = true) :
    s.step = (.fault .interrupted, s.polled,
      s.pollExchanges ++ [.asked true, .reported .interrupted]) := by
  obtain ⟨machine, keyboard, console⟩ := s
  unfold step act
  dsimp only
  rw [Machine.hold_step_of_requested hlimit hrequested]
  rfl

/-- **A step that passes its checks** is a cycle of the polled system. -/
theorem step_eq_cycle {s : System κ ω} (hlimit : s.machine.limitReached? = none)
    (hrequested : Keyboard.requested s.polled.keyboard = false) :
    s.step = (s.polled.cycle.value.1,
      ⟨s.polled.cycle.value.2, s.polled.cycle.keyboard, s.polled.cycle.console⟩,
      s.pollExchanges ++ .asked false :: s.polled.cycle.exchanges) := by
  obtain ⟨machine, keyboard, console⟩ := s
  unfold step act
  dsimp only
  rw [Machine.hold_step hlimit hrequested, Course.after_exchanges, List.append_assoc]
  rfl

/-- **A step between two polls** that fetches its instruction from an
ordinary cell. -/
theorem step_of_cell {s : System κ ω} {w : Word} (hlimit : s.machine.limitReached? = none)
    (hdue : ¬ s.machine.PollIsDue) (hrequested : Keyboard.requested s.keyboard = false)
    (hleft : s.machine.steps ≠ Machine.maxCount)
    (hread : s.machine.core.memory.read s.machine.core.registers.pc
      = .done (w, s.machine.core.memory)) :
    s.step
      = (let done := (Core.execute s.machine.config s.machine.core.registers.pc
            ⟨s.machine.core.registers.advance, s.machine.core.memory⟩ (.ofWord w)).hold
            s.keyboard s.console
        (done.value.1,
          ⟨{ s.machine with core := done.value.2, steps := s.machine.steps + 1 },
            done.keyboard, done.console⟩,
          .asked false :: .reported (.executed s.machine.core.registers.pc (.ofWord w))
            :: done.exchanges)) := by
  have hpolled := polled_of_not_due hdue
  rw [step_eq_cycle hlimit (by rw [hpolled]; exact hrequested), hpolled,
    pollExchanges_of_not_due hdue, cycle_eq hleft, effect, fetched, hread]
  rfl

end System

end LC3
