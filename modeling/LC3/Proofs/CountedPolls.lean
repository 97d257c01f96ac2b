import LC3.Proofs.SessionSteps
import LC3.Proofs.StepVerdicts

/-!
# Counting polls

The keyboard is polled by two users that know nothing of each other: a read of its
status register, unless a character is held, and the machine itself between two
instructions. Nothing else polls, whatever the keyboard answers, so the polls of a
session can be counted without looking at what was exchanged.

The reads are told by what a session touches. Read against it, the status register
is a function of the past: a read of the status leaves what it showed, a read of
the data clears it, and a store or a program that is loaded may write to it
(`Touch.statusAfter`). So the log says at each read of the status whether a
character was held, and hence how many of them polled (`Touch.statusPolls`). A log
**accounts** for the exchanges if it is right about both (`Accounts`). This is proved of
a single read, from there by induction of any work, and so of a cycle; a step adds
the poll that may be due (`System.PollsBetween`), and a session is an induction on
its steps (`System.Leads.accounts`).
-/

namespace LC3

open Memory (statusAddress dataAddress)

/-! ## Polls

Only the question itself is counted. What a poll is answered with, and whether a
character is taken after it, are exchanges of their own and count nothing. -/

namespace Exchange

/-- The keyboard is polled. -/
def isPoll : Exchange → Bool
  | polled _ => true
  | took _ | waited _ | asked _ | wrote .. | flushed _ | reported _ => false

/-- **How often the keyboard is polled.** -/
def polls (exchanges : List Exchange) : Nat := exchanges.countP isPoll

/-- The polls of two parts add up. -/
@[simp] theorem polls_append (before later : List Exchange) :
    polls (before ++ later) = polls before + polls later := List.countP_append

/-- Reports are no polls. -/
@[simp] theorem polls_reported (events : List Event) : polls (events.map reported) = 0 := by
  simp [polls, isPoll]

end Exchange

open Exchange (polls polls_append polls_reported)

/-! ## The status in a log

The log has the word that every read gave. So after a read of the status the log
has the status itself, and nothing needs to be known of the answer to the poll.
In between, the register changes only by what is in the log as well. -/

namespace Touch

/-- **The status that a touch leaves** in the register. -/
def statusAfter (status : Word) : Touch → Word
  | read a w => if a = statusAddress then w else if a = dataAddress then 0 else status
  | touch => (touch.value? statusAddress).getD status

/-- **A touch polls** if it reads the status while no character is held. -/
def polls (status : Word) : Touch → Bool
  | read a _ => a = statusAddress ∧ status ≠ Memory.ready
  | stored .. | loaded .. => false

/-- **How many touches poll**, from a status on. -/
def statusPolls (status : Word) : List Touch → Nat
  | [] => 0
  | touch :: later =>
    (if touch.polls status then 1 else 0) + statusPolls (touch.statusAfter status) later

/-- The polls of a log are those of its first part, and of the rest from the status that
the first part leaves. -/
theorem statusPolls_append (status : Word) (before later : List Touch) :
    statusPolls status (before ++ later)
      = statusPolls status before + statusPolls (before.foldl statusAfter status) later := by
  induction before generalizing status with
  | nil => exact (Nat.zero_add _).symm
  | cons touch before ih =>
    show _ + statusPolls _ (before ++ later) = _ + statusPolls _ before + _
    rw [ih, Nat.add_assoc]
    rfl

end Touch

open Touch (statusAfter statusPolls statusPolls_append)

/-- **A log accounts for exchanges:** it tells the status after them, and how often
the keyboard was polled. -/
structure Accounts (status : Word) (log : List Touch) (exchanges : List Exchange)
    (status' : Word) : Prop where
  status_eq : status' = log.foldl statusAfter status
  polls_eq : polls exchanges = statusPolls status log

namespace Accounts

variable {status status' status'' : Word} {log log' : List Touch}
  {exchanges exchanges' : List Exchange}

/-- Without a poll there is nothing to account for. -/
theorem of_polls_eq_zero (h : polls exchanges = 0) : Accounts status [] exchanges status :=
  ⟨rfl, h⟩

/-- What is accounted for one after the other is accounted for together. -/
theorem append (h : Accounts status log exchanges status')
    (h' : Accounts status' log' exchanges' status'') :
    Accounts status (log ++ log') (exchanges ++ exchanges') status'' where
  status_eq := by rw [h'.status_eq, h.status_eq, List.foldl_append]
  polls_eq := by rw [polls_append, h.polls_eq, h'.polls_eq, statusPolls_append, h.status_eq]

/-- A single store. -/
theorem stored (status a value : Word) (event : Event) :
    Accounts status [.stored a value] [.reported event]
      (if a = statusAddress then value else status) where
  status_eq := by
    by_cases h : a = statusAddress <;> simp [statusAfter, Touch.value?, h]
  polls_eq := rfl

end Accounts

/-! ## Reads

The three kinds of address are three cases. Only a read of the status can poll,
and whether it does is decided by the status before it; this is where the log
and the exchanges meet. -/

namespace Memory

variable {κ ω : Type} [Keyboard κ] [Console ω]

/-- **A character that arrives** was polled for once, and so was one that does
not. -/
theorem polls_arrival (k : κ) (c : ω) : polls (arrival.hold k c).exchanges = 1 := by
  unfold arrival
  rw [Dialogue.hold_bind, Dialogue.hold_pollKeyboard, Course.after_exchanges, polls_append,
    polls_append, polls_reported]
  dsimp only
  match (Keyboard.poll k).answer with
  | .ok true => rfl
  | .ok false => rfl
  | .error e => rfl

/-- **A read accounts for its poll.** -/
theorem accounts_read (m : Memory) (a : Word) (k : κ) (c : ω) :
    let course := (m.read a).hold k c
    Accounts (m.peek statusAddress) [.read a course.value.1] course.exchanges
      (course.value.2.peek statusAddress) := by
  intro course
  by_cases hstatus : a = statusAddress
  · subst hstatus
    by_cases hholds : m.holds = true
    · have hcourse : course = _ := hold_readStatus_of_holds hholds k c
      have hready : m.peek statusAddress = ready := eq_of_beq hholds
      rw [hcourse, hready]
      exact ⟨rfl, rfl⟩
    · have hfree := Bool.eq_false_iff.2 hholds
      have hcourse : course = _ := hold_readStatus_of_free hfree k c
      have hready : m.peek statusAddress ≠ ready := ne_of_beq_false hfree
      rw [hcourse]
      refine ⟨rfl, ?_⟩
      rw [polls_append, polls_arrival]
      simp [polls, Exchange.isPoll, statusPolls, Touch.polls, hready]
  · by_cases hdata : a = dataAddress
    · subst hdata
      have hcourse : course = _ := m.hold_readData k c
      rw [hcourse]
      refine ⟨?_, rfl⟩
      -- a read of the data clears the status, and leaves the data
      rw [peek_write_self]
      rfl
    · have hcourse : course = ⟨(m.peek a, m), k, c, []⟩ := by
        show (m.read a).hold k c = _
        rw [m.read_eq_done hstatus hdata]
        rfl
      rw [hcourse]
      refine ⟨?_, ?_⟩
      · simp [statusAfter, hstatus, hdata]
      · simp [polls, statusPolls, Touch.polls, hstatus]

end Memory

namespace System

variable {κ ω : Type} (s : System κ ω)

/-- The status register of the keyboard, without any effect. -/
def status : Word := s.machine.core.memory.peek statusAddress

/-- **A step polls between instructions** if it passes the limit at the last of 4096
steps, and no such poll failed. -/
def PollsBetween : Prop :=
  ¬ s.machine.Limited ∧ s.machine.steps.toNat % 4096 = 4095 ∧ s.machine.pollFailed = false

/-- In terms of the step: no limit is reached, and the poll is due. -/
theorem pollsBetween_iff :
    s.PollsBetween ↔ s.machine.limitReached? = none ∧ s.machine.PollIsDue := by
  unfold PollsBetween
  rw [Machine.not_limited_iff, Machine.pollIsDue_iff]

instance : Decidable s.PollsBetween := decidable_of_iff _ s.pollsBetween_iff.symm

end System

/-! ## Work and steps

A cycle is the work that it logs (`Machine.cycle_eq_cycleLogged`), so the log of
the work accounts for the cycle. A step that ends before the fetch touches
nothing, and has no poll but the one that may be due. -/

section Steps

variable {κ ω : Type} [Keyboard κ] [Console ω]

/-- Saying a message polls nothing. -/
theorem Dialogue.polls_say (message : List UInt8) (k : κ) (c : ω) :
    polls ((say message).hold k c).exchanges = 0 := by
  unfold say
  split
  · rfl
  · unfold hold
    dsimp only
    cases (Console.write c message).1 with
    | ok => rfl
    | error e => rfl

/-- **The log of any work** accounts for what is exchanged. -/
theorem Work.accounts_logged {α : Type} (x : Work α) (m : Memory) (k : κ) (c : ω) :
    let course := (x.logged m).hold k c
    Accounts (m.peek statusAddress) course.value.2 course.exchanges
      (course.value.1.2.peek statusAddress) := by
  induction x generalizing m k c with
  | done a => exact .of_polls_eq_zero rfl
  | read a next ih =>
    unfold logged
    rw [Dialogue.hold_bind, Dialogue.hold_bind]
    -- what is read is put in front of the log after the rest is done, and exchanges
    -- nothing
    show Accounts _ ([_] ++ _) (_ ++ (_ ++ [])) _
    rw [List.append_nil]
    exact (m.accounts_read a k c).append (ih _ _ _ _)
  | store a value rest ih =>
    have hstored := Accounts.stored (m.peek statusAddress) a value (.stored a value)
    rw [← m.peek_write] at hstored
    unfold logged
    rw [Dialogue.hold_bind, Dialogue.hold_bind]
    show Accounts _ ([_] ++ _) ([_] ++ (_ ++ [])) _
    rw [List.append_nil]
    exact hstored.append (ih _ _ _)
  | wait next ih =>
    have hwait : polls ((Keyboard.wait k).events.map .reported
        ++ [.waited (Keyboard.wait k).answer]) = 0 := by
      rw [polls_append, polls_reported]
      rfl
    unfold logged
    rw [Dialogue.hold_bind, Dialogue.hold_awaitCharacter]
    exact (Accounts.of_polls_eq_zero hwait).append (ih _ _ _ _)
  | say message next ih =>
    unfold logged
    rw [Dialogue.hold_bind]
    exact (Accounts.of_polls_eq_zero (Dialogue.polls_say message k c)).append (ih _ _ _ _)
  | tell event rest ih =>
    have hreported : polls [.reported event] = 0 := rfl
    exact (Accounts.of_polls_eq_zero hreported).append (ih m k c)

namespace System

variable (s : System κ ω)

/-- **The log of a cycle** accounts for it. -/
theorem accounts_cycle :
    Accounts s.status (s.machine.cycleLogged.hold s.keyboard s.console).value.1.2
      s.cycle.exchanges (s.cycle.value.2.core.memory.peek statusAddress) := by
  unfold cycle
  rw [Machine.cycle_eq_cycleLogged, Dialogue.hold_bind]
  unfold Machine.cycleLogged
  rw [Dialogue.hold_bind]
  show Accounts _ _ ((_ ++ []) ++ []) _
  rw [List.append_nil, List.append_nil]
  exact Work.accounts_logged _ _ _ _

/-- Below the limit the poll between instructions is one poll. -/
theorem polls_pollExchanges {s : System κ ω} (hlimit : s.machine.limitReached? = none) :
    polls s.pollExchanges = if s.PollsBetween then 1 else 0 := by
  by_cases hdue : s.machine.PollIsDue
  · rw [if_pos (s.pollsBetween_iff.2 ⟨hlimit, hdue⟩)]
    unfold pollExchanges
    cases hanswer : (Keyboard.poll s.keyboard).answer with
    | ok found =>
      rw [Machine.hold_pollBetween_of_ok hdue _ hanswer, polls_append, polls_reported]
      rfl
    | error e =>
      rw [Machine.hold_pollBetween_of_error hdue _ hanswer, polls_append, polls_append,
        polls_reported]
      rfl
  · rw [if_neg fun hbetween => hdue (s.pollsBetween_iff.1 hbetween).2,
      pollExchanges_of_not_due hdue]
    rfl

/-- The poll leaves the status alone. -/
theorem status_polled : s.polled.status = s.status :=
  congrArg (·.memory.peek statusAddress) s.polled_machine.1

/-- **A step accounts for its polls:** those of its reads, and the one between
instructions. -/
theorem accounts_step :
    s.next.status = s.touches.foldl statusAfter s.status
      ∧ polls s.step.2.2
        = statusPolls s.status s.touches + if s.PollsBetween then 1 else 0 := by
  cases hlimit : s.machine.limitReached? with
  | some limit =>
    have hbetween : ¬ s.PollsBetween := by
      rw [pollsBetween_iff, hlimit]
      exact nofun
    rw [next_eq_of_step (step_of_limit hlimit), step_of_limit hlimit, touches_of_limit hlimit,
      if_neg hbetween]
    exact ⟨rfl, rfl⟩
  | none =>
    cases hrequested : Keyboard.requested s.polled.keyboard with
    | true =>
      have hstep := step_of_requested hlimit hrequested
      rw [next_eq_of_step hstep, hstep, touches_of_requested hlimit hrequested, polls_append,
        polls_pollExchanges hlimit]
      exact ⟨s.status_polled, Nat.add_comm _ _⟩
    | false =>
      have hstep := step_eq_cycle hlimit hrequested
      have hcycle := s.polled.accounts_cycle
      rw [status_polled] at hcycle
      rw [next_eq_of_step hstep, hstep, touches_eq_cycleLogged hlimit hrequested, polls_append,
        polls_pollExchanges hlimit, ← hcycle.polls_eq, Nat.add_comm]
      exact ⟨hcycle.status_eq, rfl⟩

end System

/-! ## Sessions

Commands other than steps poll if they read, and the other commands have no poll
to account for. Loading and storing may change the status, which the log has to
follow: this is why a program that is loaded over the register is in the log. -/

/-- A word is read of the machine as of its memory. -/
theorem Machine.hold_read (m : Machine) (a : Word) (k : κ) (c : ω) :
    (m.read a).hold k c
      = (let read := (m.core.memory.read a).hold k c
        ⟨(read.value.1, { m with core := { m.core with memory := read.value.2 } }),
          read.keyboard, read.console, read.exchanges⟩) := by
  unfold Machine.read Core.read
  rw [Dialogue.hold_bind, Dialogue.hold_bind]
  exact (Course.after_done _ _ _ _).trans (congrArg _ (List.append_nil _))

/-- Loading a program polls nothing. -/
theorem Machine.polls_load (m : Machine) (program : List Word) (k : κ) (c : ω) :
    polls ((m.load program).hold k c).exchanges = 0 := by
  unfold load
  cases program with
  | nil => rfl
  | cons origin words =>
    dsimp only
    cases m.core.memory.load origin words with
    | error e => rfl
    | ok memory => rfl

/-- It accounts for what it does to the status, if the program lies there. -/
theorem Machine.accounts_load (m : Machine) (program : List Word) (k : κ) (c : ω) :
    let course := (m.load program).hold k c
    Accounts (m.core.memory.peek statusAddress)
      (System.loadTouches program (.loaded course.value.1)) course.exchanges
      (course.value.2.core.memory.peek statusAddress) := by
  intro course
  have hstatus := ((m.replays_load program statusAddress).hold k c).eq_lastStored
  have hpolls : polls course.exchanges = 0 := m.polls_load program k c
  -- no read is among the touches
  have hlog : System.loadTouches program (.loaded course.value.1) = []
      ∨ ∃ origin words, System.loadTouches program (.loaded course.value.1)
        = [.loaded origin words] := by
    unfold System.loadTouches
    split
    · exact .inr ⟨_, _, rfl⟩
    · exact .inl rfl
  obtain hlog | ⟨origin, words, hlog⟩ := hlog
  · rw [hlog] at hstatus ⊢
    exact ⟨hstatus, hpolls⟩
  · rw [hlog] at hstatus ⊢
    exact ⟨hstatus, hpolls⟩

namespace System

variable {s s' : System κ ω}

/-- **A command that takes no step** accounts for its polls: only a read makes one. -/
theorem accounts_obeyed {command : Command} (hstep : command ≠ .step) (hrun : command ≠ .run) :
    Accounts s.status (s.touchesOf command) (s.obeyed command).2.2
      (s.obeyed command).2.1.status := by
  cases command with
  | loadImage image =>
    have hobey : s.obey (.loadImage image)
        = s.respond Array.push #[] .loaded (Machine.loadImage · image) := rfl
    rw [obeyed_of_respond .loaded hobey]
    -- an image that is refused touches nothing, and any other is loaded as its words
    cases hwords : Image.words image with
    | error e =>
      have hact : s.act (Machine.loadImage · image) = (.error e, s, []) := by
        unfold act Machine.loadImage
        rw [hwords]
        rfl
      simp only [touchesOf, hwords, hact]
      exact ⟨rfl, rfl⟩
    | ok program =>
      have hact : s.act (Machine.loadImage · image) = s.act (Machine.load · program) := by
        unfold act Machine.loadImage
        rw [hwords]
      have hresponse : (s.obey (.loadImage image)).1 = .loaded (s.act (Machine.load · program)).1 :=
        hact ▸ rfl
      simp only [touchesOf, hwords, hact, hresponse]
      exact s.machine.accounts_load program s.keyboard s.console
  | load program =>
    have hobey : s.obey (.load program)
        = s.respond Array.push #[] .loaded (Machine.load · program) := rfl
    rw [obeyed_of_respond .loaded hobey]
    exact s.machine.accounts_load program s.keyboard s.console
  | write a value =>
    have hstored := Accounts.stored s.status a value (.stored a value)
    rw [status, ← Memory.peek_write] at hstored
    exact hstored
  | read a =>
    have hobey : s.obey (.read a) = s.respond Array.push #[] .word (Machine.read · a) := rfl
    rw [obeyed_of_respond .word hobey]
    show Accounts _ [.read a ((s.machine.read a).hold s.keyboard s.console).value.1]
      ((s.machine.read a).hold s.keyboard s.console).exchanges
      (((s.machine.read a).hold s.keyboard s.console).value.2.core.memory.peek statusAddress)
    rw [Machine.hold_read]
    exact s.machine.core.memory.accounts_read a s.keyboard s.console
  | setRegister number value =>
    unfold obeyed obey obeyWith
    dsimp only
    cases s.machine.core.registers.write number value <;> exact .of_polls_eq_zero rfl
  | configure | reset | setFlag | setCounter | type => exact .of_polls_eq_zero rfl
  | step => exact absurd rfl hstep
  | run => exact absurd rfl hrun

/-- **A session accounts for its polls:** those of its reads, and those between
instructions. -/
theorem Leads.accounts {starts : List (System κ ω)} {log : List Touch}
    {exchanges : List Exchange} (h : Leads s starts log exchanges s') :
    s'.status = log.foldl statusAfter s.status
      ∧ polls exchanges
        = statusPolls s.status log + starts.countP fun t => t.PollsBetween := by
  induction h with
  | refl s => exact ⟨rfl, rfl⟩
  | @step s s' starts log exchanges later ih =>
    obtain ⟨hstatus, hpolls⟩ := s.accounts_step
    obtain ⟨hstatus', hpolls'⟩ := ih
    refine ⟨?_, ?_⟩
    · rw [hstatus', hstatus, List.foldl_append]
    · rw [polls_append, hpolls, hpolls', hstatus, statusPolls_append, List.countP_cons]
      simp only [decide_eq_true_eq]
      omega
  | report event later ih => exact ih
  | @other s s' command starts log exchanges hstep hrun later ih =>
    have hobeyed := s.accounts_obeyed hstep hrun
    obtain ⟨hstatus, hpolls⟩ := ih
    refine ⟨?_, ?_⟩
    · rw [hstatus, hobeyed.status_eq, List.foldl_append]
    · rw [polls_append, hobeyed.polls_eq, hpolls, hobeyed.status_eq, statusPolls_append,
        Nat.add_assoc]

end System

end Steps

end LC3
