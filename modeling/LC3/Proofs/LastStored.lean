import LC3.Console.Collector
import LC3.Keyboard.Scripted
import LC3.Proofs.AlikeSessions
import LC3.Proofs.KeyboardRegisters
import LC3.Proofs.MemoryLog
import LC3.Proofs.Programs

/-!
# Memory holds what was last stored

But for the two registers of the keyboard, a cell changes only when something
is stored in it: by an instruction that stores, from outside, or by a program
that is loaded over it. Everything else leaves it alone, a poll that fills the
keyboard registers beside it, a trap, a load that fails, a step that ends in a
fault.

The **history** of a session is the log of all it touches. Read against it,
memory is a function of the past: a cell holds the last word stored there, or
zero, and so does every read of it say that is in the history, whoever reads.
Both are one relation between a log and the words in a cell before and after
it (`Touch.Replays`), which composes, so it is proved of a single read and a
single store and carried from there to sessions.
-/

namespace LC3

open Memory (statusAddress dataAddress)

namespace Touch

/-- **The word that a touch leaves in a cell**, if it stores one there. -/
def value? (a : Word) : Touch → Option Word
  | read _ _ => none
  | stored b value => if b = a then some value else none
  | loaded origin words =>
    if origin.toNat ≤ a.toNat then words[a.toNat - origin.toNat]? else none

/-- **The last word stored in a cell** according to a log, or the one that was
there before. -/
def lastStored (a : Word) (before : Word) (log : List Touch) : Word :=
  log.foldl (fun w touch => (touch.value? a).getD w) before

/-- **A log is true to a cell:** whenever the cell is read, it shows the word
that was last stored in it. -/
inductive Replays (a : Word) : Word → List Touch → Word → Prop where
  /-- Nothing happened. -/
  | nil (w : Word) : Replays a w [] w
  /-- A touch came first, which showed the word if it read it. -/
  | cons {w w' : Word} {touch : Touch} {log : List Touch} (hread : ∀ v, touch = read a v → v = w)
    (later : Replays a ((touch.value? a).getD w) log w') : Replays a w (touch :: log) w'

variable {a w w' w'' : Word} {log log' : List Touch}

/-- What is true one after the other is true together. -/
theorem Replays.append (h : Replays a w log w') (h' : Replays a w' log' w'') :
    Replays a w (log ++ log') w'' := by
  induction h with
  | nil => exact h'
  | cons hread _ ih => exact .cons hread (ih h')

/-- The cell ends up with what was last stored. -/
theorem Replays.eq_lastStored (h : Replays a w log w') : w' = lastStored a w log := by
  induction h with
  | nil => rfl
  | cons _ _ ih => exact ih

/-- And every read showed it. -/
theorem Replays.eq_of_read (h : Replays a w log w') {before after : List Touch} {v : Word}
    (hlog : log = before ++ read a v :: after) : v = lastStored a w before := by
  induction before generalizing w log with
  | nil =>
    subst hlog
    cases h with
    | cons hread => exact hread v rfl
  | cons touch before ih =>
    subst hlog
    cases h with
    | cons _ later => exact ih later rfl

/-- A single store. -/
theorem replays_stored (a b value w : Word) :
    Replays a w [stored b value] (if b = a then value else w) := by
  by_cases h : b = a
  · rw [if_pos h]
    exact .cons nofun (by simpa [value?, h] using .nil value)
  · rw [if_neg h]
    exact .cons nofun (by simpa [value?, h] using .nil w)

/-- A single read. -/
theorem replays_read {b v : Word} (h : b = a → v = w) : Replays a w [read b v] w := by
  refine .cons (fun v' heq => ?_) (.nil w)
  cases heq
  exact h rfl

end Touch

open Touch (Replays lastStored replays_stored replays_read)
open Dialogue (ends_bind ends_of_forall)

/-! ## Reads and stores

The work of a step reads and stores, and between two of these it does what
concerns no cell. So its log is true by induction on the work, with one case for
each kind of work and nothing about instructions. -/

namespace Memory

/-- A store changes one cell. -/
theorem peek_write (m : Memory) (a b value : Word) :
    (m.write b value).peek a = if b = a then value else m.peek a := by
  by_cases h : b = a
  · rw [if_pos h, h, peek_write_self]
  · rw [if_neg h, peek_write_ne m value h]

/-- **A read leaves every ordinary cell as it is**, and shows it. -/
theorem ends_read (m : Memory) (b : Word) {a : Word} (hstatus : a ≠ statusAddress)
    (hdata : a ≠ dataAddress) :
    (m.read b).Ends fun (w, m') => m'.peek a = m.peek a ∧ (b = a → w = m.peek a) := by
  -- a read of a keyboard register may store, but only in these two
  obtain ⟨rfl, hread⟩ | ⟨rfl, hread⟩ | hread := m.read_cases b
  · rw [hread, readStatus]
    split
    · exact ⟨rfl, fun heq => absurd heq.symm hstatus⟩
    · refine ends_bind.2 (ends_of_forall (fun character => ?_) _)
      exact ⟨m.peek_hold_of_cell character hstatus hdata, fun heq => absurd heq.symm hstatus⟩
  · rw [hread]
    exact ⟨peek_write_ne m 0 hstatus.symm, fun heq => absurd heq.symm hdata⟩
  · rw [hread]
    refine ⟨rfl, ?_⟩
    rintro rfl
    rfl

end Memory

section Cell

variable {a : Word} (hstatus : a ≠ statusAddress) (hdata : a ≠ dataAddress)

include hstatus hdata

/-- **The log of any work is true** to an ordinary cell. -/
theorem Work.ends_logged {α : Type} (x : Work α) (m : Memory) :
    (x.logged m).Ends fun ((_, m'), log) => Replays a (m.peek a) log (m'.peek a) := by
  induction x generalizing m with
  | done => exact .nil _
  | read b next ih =>
    refine ends_bind.2 ((m.ends_read b hstatus hdata).imp ?_)
    rintro ⟨w, m'⟩ ⟨hpeek, hshown⟩
    refine ends_bind.2 ((ih w m').imp ?_)
    rintro ⟨⟨result, m''⟩, log⟩ h
    exact (replays_read hshown).append (hpeek ▸ h)
  | store b value rest ih =>
    refine ends_bind.2 (ends_bind.2 ((ih (m.write b value)).imp ?_))
    rintro ⟨⟨result, m'⟩, log⟩ h
    exact (replays_stored a b value _).append (m.peek_write a b value ▸ h)
  | wait next ih => exact ends_bind.2 (ends_of_forall (fun answer => ih answer m) _)
  | say message next ih => exact ends_bind.2 (ends_of_forall (fun answer => ih answer m) _)
  | tell event rest ih => exact ih m

/-- The log of a step is. -/
theorem Machine.replays_stepLogged (m : Machine) :
    m.stepLogged.Ends fun ((_, log), m') =>
      Replays a (m.core.memory.peek a) log (m'.core.memory.peek a) := by
  unfold stepLogged
  split
  · exact ends_bind.2 (.nil _)
  · refine ends_bind.2 (m.ends_pollBetween_eq.imp ?_)
    rintro m' ⟨failed, rfl⟩
    refine ends_bind.2 (ends_of_forall (fun requested => ?_) _)
    split
    · exact ends_bind.2 (.nil _)
    · exact ends_bind.2 ((Work.ends_logged hstatus hdata _ _).imp fun _ h => h)

end Cell

/-! ## The history of a session

What is touched is read off the logged step, which is proved to be the step with
its log forgotten (`Machine.step_eq_stepLogged`). So the history is not a second
account beside the machine that would have to be believed. -/

namespace System

variable {κ ω : Type} [Keyboard κ] [Console ω]

/-- **What a step touches.** -/
def touches (s : System κ ω) : List Touch := (s.act Machine.stepLogged).1.2

/-- The step itself is the step without its log. -/
theorem act_stepLogged (s : System κ ω) :
    s.act Machine.stepLogged = ((s.step.1, s.touches), s.step.2) := by
  obtain ⟨machine, keyboard, console⟩ := s
  unfold touches step act
  dsimp only
  rw [Machine.step_eq_stepLogged, Dialogue.hold_bind]
  show _ = (_, _, _ ++ [])
  rw [List.append_nil]
  rfl

/-- A step that passes its checks touches what the cycle of the polled system
touches. -/
theorem touches_eq_cycleLogged {s : System κ ω} (hlimit : s.machine.limitReached? = none)
    (hrequested : Keyboard.requested s.polled.keyboard = false) :
    s.touches = (s.polled.machine.cycleLogged.hold s.polled.keyboard
      s.polled.console).value.1.2 := by
  obtain ⟨machine, keyboard, console⟩ := s
  have hasked : Keyboard.requested (machine.pollBetween.hold keyboard console).keyboard = false :=
    hrequested
  unfold touches act Machine.stepLogged
  dsimp only at hlimit ⊢
  rw [hlimit]
  dsimp only
  rw [Dialogue.hold_bind, Dialogue.hold_bind, Dialogue.hold_shutdownRequested]
  dsimp only
  rw [hasked, if_neg Bool.false_ne_true]
  rfl

/-- **The log of a cycle that fetches a word:** the word, and then what the
instruction in it touches, if the step is counted. -/
def FetchesFirst (s : System κ ω) (log : List Touch) : Prop :=
  ∃ later, log = .read s.machine.core.registers.pc s.fetched.value.1 :: later
    ∧ (s.machine.steps = Machine.maxCount ∧ later = []
      ∨ s.machine.steps ≠ Machine.maxCount
        ∧ (Instruction.ofWord s.fetched.value.1).Touches s.machine.core.registers.advance later)

/-- **Every cycle fetches first**, and what comes behind it in the log is what the
operation touches. -/
theorem fetchesFirst_cycleLogged (s : System κ ω) :
    s.FetchesFirst (s.machine.cycleLogged.hold s.keyboard s.console).value.1.2 := by
  unfold Machine.cycleLogged Machine.work Work.logged
  rw [bind_assoc, Dialogue.hold_bind, Course.after_value]
  -- what comes after the fetch has its log whatever the devices answer
  refine Dialogue.Ends.hold
    (P := fun result : (Outcome × List Touch) × Machine => s.FetchesFirst result.1.2) ?_ _ _
  refine ends_bind.2 (ends_bind.2 ?_)
  by_cases hfull : s.machine.steps = Machine.maxCount
  · dsimp only
    rw [if_pos hfull]
    exact ⟨[], rfl, .inl ⟨hfull, rfl⟩⟩
  · dsimp only
    rw [if_neg hfull]
    refine ends_bind.2 ?_
    rw [Work.logged_bind]
    -- the operation decides what is touched, and its outcome touches nothing more
    refine ends_bind.2 ((Instruction.ends_logged_work _ _ _ _ _).imp ?_)
    rintro ⟨⟨⟨outcome, r⟩, memory⟩, log⟩ hlog
    exact ⟨log ++ [], rfl, .inr ⟨hfull, (List.append_nil log).symm ▸ hlog⟩⟩

/-- **A step between two polls** reads its instruction from an ordinary cell, and touches
what that instruction does. -/
theorem exists_touches_of_cell {s : System κ ω} {w : Word}
    (hlimit : s.machine.limitReached? = none) (hdue : ¬ s.machine.PollIsDue)
    (hrequested : Keyboard.requested s.keyboard = false)
    (hleft : s.machine.steps ≠ Machine.maxCount)
    (hread : s.machine.core.memory.read s.machine.core.registers.pc
      = .done (w, s.machine.core.memory)) :
    ∃ later, s.touches = .read s.machine.core.registers.pc w :: later
      ∧ (Instruction.ofWord w).Touches s.machine.core.registers.advance later := by
  have hpolled := polled_of_not_due hdue
  have hfetched : s.fetched.value.1 = w := by
    rw [fetched, hread]
    rfl
  obtain ⟨later, hlog, ⟨hfull, -⟩ | ⟨-, htouches⟩⟩ := s.fetchesFirst_cycleLogged
  · exact absurd hfull hleft
  · rw [hfetched] at hlog htouches
    refine ⟨later, ?_, htouches⟩
    rw [touches_eq_cycleLogged hlimit (by rw [hpolled]; exact hrequested), hpolled, hlog]

/-- What a run touches. -/
def runTouches (s : System κ ω) : List Touch :=
  match _h : s.step with
  | (.running, s', _) => s.touches ++ s'.runTouches
  | _ => s.touches
termination_by UInt64.size - s.machine.steps.toNat
decreasing_by exact left_step_lt (by assumption)

/-- A run touches what its first step touches, and then what the rest does. -/
theorem runTouches_of_running {s : System κ ω} (h : s.step.1 = .running) :
    s.runTouches = s.touches ++ s.next.runTouches := by
  rw [runTouches]
  split
  next hs =>
    rw [next, hs]
  next hs => exact (hs s.next s.step.2.2 (Prod.ext h rfl)).elim

/-- Its last step is the one that does not leave the machine running. -/
theorem runTouches_of_stopped {s : System κ ω} (h : s.step.1 ≠ .running) :
    s.runTouches = s.touches := by
  rw [runTouches]
  split
  next hs => exact absurd (congrArg Prod.fst hs) h
  next => rfl

/-- What the loading of a program touches: its place, if it is accepted. -/
def loadTouches : List Word → Response → List Touch
  | origin :: words, .loaded (.ok ()) => [.loaded origin words]
  | _, _ => []

/-- **What a command touches.** -/
def touchesOf (s : System κ ω) (command : Command) : List Touch :=
  match command with
  | .loadImage image =>
    match Image.words image with
    | .ok program => loadTouches program (s.obey command).1
    | .error _ => []
  | .load program => loadTouches program (s.obey command).1
  | .write a value => [.stored a value]
  | .read a =>
    match (s.obey command).1 with
    | .word w => [.read a w]
    | _ => []
  | .step => s.touches
  | .run => s.runTouches
  | .configure _ | .reset | .setFlag _ | .setRegister _ _ | .setCounter _ | .type _ => []

/-- **The history of a session:** what its commands touch, one after
another. -/
def history (s : System κ ω) : List Command → List Touch
  | [] => []
  | command :: rest => s.touchesOf command ++ (s.obey command).2.1.history rest

end System

/-! ## True histories

From here on it is going up: from a step to a run, and from a command to a
session. A program that is loaded is the only thing that stores in many cells at
once. -/

/-- A program that is copied to its origin is touched there, and nowhere
else. -/
theorem Memory.replays_place (m : Memory) (origin : Word) (words : List Word) (a : Word) :
    Replays a (m.peek a) [.loaded origin words] ((m.place origin.toNat words).peek a) := by
  have hvalue : (m.place origin.toNat words).peek a
      = ((Touch.loaded origin words).value? a).getD (m.peek a) := by
    rw [peek_place]
    by_cases hle : origin.toNat ≤ a.toNat
    · simp [Touch.value?, hle]
    · simp [Touch.value?, hle]
  rw [hvalue]
  exact .cons nofun (.nil _)

/-- A program that is loaded takes its place, and one that is refused takes
none. -/
theorem Machine.replays_load (m : Machine) (program : List Word) (a : Word) :
    (m.load program).Ends fun (result, m') =>
      Replays a (m.core.memory.peek a) (System.loadTouches program (.loaded result))
        (m'.core.memory.peek a) := by
  unfold load
  cases program with
  | nil => exact .nil _
  | cons origin words =>
    unfold Memory.load
    dsimp only
    by_cases hlong : words.length > UInt16.size - origin.toNat
    · rw [if_pos hlong]
      exact .nil _
    · rw [if_neg hlong]
      exact m.core.memory.replays_place origin words a

section Cell

variable {a : Word} (hstatus : a ≠ statusAddress) (hdata : a ≠ dataAddress)

include hstatus hdata

namespace System

variable {κ ω : Type} [Keyboard κ] [Console ω]

/-- **A step is true** to every ordinary cell. -/
theorem replays_step (s : System κ ω) :
    Replays a (s.machine.core.memory.peek a) s.touches (s.next.machine.core.memory.peek a) := by
  have h := s.value_act (s.machine.replays_stepLogged hstatus hdata)
  rw [act_stepLogged] at h
  exact h

/-- So is a run, step after step. -/
theorem Runs.replays {s : System κ ω} {result : Outcome × System κ ω × List Exchange}
    (h : Runs Machine.step s result) :
    Replays a (s.machine.core.memory.peek a) s.runTouches
      (result.2.1.machine.core.memory.peek a) := by
  induction h with
  | @stop s h =>
    rw [runTouches_of_stopped h]
    exact s.replays_step hstatus hdata
  | @go s result h _ ih =>
    rw [runTouches_of_running h]
    exact (s.replays_step hstatus hdata).append ih

/-- **What a command touches is true** to an ordinary cell. -/
theorem replays_obey (s : System κ ω) (command : Command) :
    Replays a (s.machine.core.memory.peek a) (s.touchesOf command)
      ((s.obey command).2.1.machine.core.memory.peek a) := by
  cases command with
  | loadImage image =>
    unfold touchesOf
    -- the log of loading an image depends on its words, so they are taken apart in the
    -- log too
    have h : (s.machine.loadImage image).Ends fun (result, m') =>
        Replays a (s.machine.core.memory.peek a)
          (match Image.words image with
          | .ok program => loadTouches program (.loaded result)
          | .error _ => []) (m'.core.memory.peek a) := by
      unfold Machine.loadImage
      cases Image.words image with
      | error e => exact .nil _
      | ok program => exact s.machine.replays_load program a
    exact h.hold s.keyboard s.console
  | load program => exact (s.machine.replays_load program a).hold s.keyboard s.console
  | write b value =>
    have h := replays_stored a b value (s.machine.core.memory.peek a)
    rw [← Memory.peek_write] at h
    exact h
  | read b =>
    have h : (s.machine.read b).Ends fun (w, m') =>
        Replays a (s.machine.core.memory.peek a) [.read b w] (m'.core.memory.peek a) := by
      refine ends_bind.2 (ends_bind.2 ((Memory.ends_read _ b hstatus hdata).imp ?_))
      rintro ⟨w, m'⟩ ⟨hpeek, hshown⟩
      show Replays a _ [.read b w] (m'.peek a)
      rw [hpeek]
      exact replays_read hshown
    exact h.hold s.keyboard s.console
  | step => exact s.replays_step hstatus hdata
  | run => exact s.runs_run.replays hstatus hdata
  | setRegister number value =>
    unfold obey obeyWith
    dsimp only
    cases s.machine.core.registers.write number value <;> exact .nil _
  | configure | reset | setFlag | setCounter | type => exact .nil _

/-- **The history of a session is true** to every ordinary cell. -/
theorem replays_obeyAll (s : System κ ω) (commands : List Command) :
    Replays a (s.machine.core.memory.peek a) (s.history commands)
      ((s.obeyAll commands).2.1.machine.core.memory.peek a) := by
  induction commands generalizing s with
  | nil => exact .nil _
  | cons command rest ih => exact (s.replays_obey hstatus hdata command).append (ih _)

end System

end Cell

namespace System

variable {κ ω : Type} [Keyboard κ] [Console ω]

/-- **Memory holds what was last stored.** Whatever a session does with a new
machine, with any devices, every cell but the two registers of the keyboard
shows the last word that was stored there according to the history, or zero;
reading it has no effect; and every read of it in the history showed the last
word that was stored there before. What the next step adds to the history is
the fetch of an instruction and what that instruction touches, if the step is
counted. -/
theorem memory_eq_lastStored (k : κ) (c : ω) (commands : List Command) {a : Word}
    (hstatus : a ≠ statusAddress) (hdata : a ≠ dataAddress) :
    let s : System κ ω := ⟨.initial, k, c⟩
    let s' := (s.obeyAll commands).2.1
    s'.machine.core.memory.peek a = lastStored a 0 (s.history commands)
      ∧ s'.machine.core.memory.read a
        = .done (lastStored a 0 (s.history commands), s'.machine.core.memory)
      ∧ (∀ before w after, s.history commands = before ++ .read a w :: after →
          w = lastStored a 0 before)
      ∧ s'.machine.Logs s'.touches s'.next.machine := by
  intro s s'
  have h := s.replays_obeyAll hstatus hdata commands
  rw [show s.machine.core.memory.peek a = 0 from Memory.peek_empty a] at h
  refine ⟨h.eq_lastStored, ?_, fun before w after => h.eq_of_read, ?_⟩
  · rw [Memory.read_eq_done _ hstatus hdata, ← h.eq_lastStored]
  · have hlogs := s'.value_act s'.machine.ends_stepLogged
    rw [act_stepLogged] at hlogs
    exact hlogs

/-- A program whose first instruction stores R0 over the word behind it. -/
def storesAhead : System Scripted Collector :=
  ⟨{ Machine.loaded [0x3000, 0x1111] with
      core := ⟨Registers.initial.set Registers.r0 7,
        (Machine.loaded [0x3000, 0x1111]).core.memory⟩ }, { queue := [] }, {}⟩

/-- Where its first step leads. -/
def storesAheadNext : System Scripted Collector :=
  ⟨{ storesAhead.machine with
      core := ⟨storesAhead.machine.core.registers.advance,
        storesAhead.machine.core.memory.write 0x3001 7⟩,
      steps := 1 }, { queue := [] }, {}⟩

/-- It stores the word. -/
theorem next_storesAhead :
    storesAhead.next = storesAheadNext
      ∧ storesAhead.touches = [.read 0x3000 0x3000, .stored 0x3001 7] := by
  have hread : storesAhead.machine.core.memory.read storesAhead.machine.core.registers.pc
      = .done (0x3000, storesAhead.machine.core.memory) :=
    Machine.read_loaded (i := 0) rfl (by decide) (by decide)
  obtain ⟨later, htouches, hstored⟩ :=
    exists_touches_of_cell (s := storesAhead) rfl (by decide) rfl (by decide) hread
  obtain rfl : later = [.stored 0x3001 7] := hstored
  have hstep := step_of_cell (s := storesAhead) rfl (by decide) rfl (by decide) hread
  exact ⟨(next_eq_of_step hstep).trans rfl, htouches⟩

/-- The step behind it fetches what was stored, a branch that is never taken. -/
theorem touches_storesAheadNext : storesAheadNext.touches = [.read 0x3001 7] := by
  have hread : storesAheadNext.machine.core.memory.read storesAheadNext.machine.core.registers.pc
      = .done (7, storesAheadNext.machine.core.memory) := by
    rw [Memory.read_eq_done _ (by decide) (by decide)]
    exact congrArg (fun w => Dialogue.done (w, storesAheadNext.machine.core.memory))
      (Memory.peek_write_self _ _ _)
  obtain ⟨later, htouches, hnothing⟩ :=
    exists_touches_of_cell (s := storesAheadNext) rfl (by decide) rfl (by decide) hread
  obtain rfl : later = [] := hnothing
  exact htouches

/-- A session that loads this program and takes two steps. -/
def changesItself : List Command :=
  [.load [0x3000, 0x3000, 0x1111], .setRegister 0 7, .step, .step]

/-- The history of this session: the program that was loaded, the first fetch, the store
behind it, and the second fetch. -/
theorem history_changesItself :
    history (⟨.initial, { queue := [] }, {}⟩ : System Scripted Collector) changesItself
      = [.loaded 0x3000 [0x3000, 0x1111], .read 0x3000 0x3000, .stored 0x3001 7,
        .read 0x3001 7] := by
  have hload : (obey (⟨.initial, { queue := [] }, {}⟩ : System Scripted Collector)
      (.load [0x3000, 0x3000, 0x1111])).2.1
        = ⟨Machine.loaded [0x3000, 0x1111], { queue := [] }, {}⟩ := rfl
  have hloaded : touchesOf (⟨.initial, { queue := [] }, {}⟩ : System Scripted Collector)
      (.load [0x3000, 0x3000, 0x1111]) = [.loaded 0x3000 [0x3000, 0x1111]] := rfl
  have hset : (obey (⟨Machine.loaded [0x3000, 0x1111], { queue := [] }, {}⟩ :
      System Scripted Collector) (.setRegister 0 7)).2.1 = storesAhead := rfl
  -- said of every system, since this one would be run to see it
  have hstep (s : System Scripted Collector) :
      (s.obey .step).2.1 = s.next ∧ s.touchesOf .step = s.touches := ⟨rfl, rfl⟩
  obtain ⟨hnext, htouches⟩ := next_storesAhead
  rw [changesItself, history, hloaded, hload, history, hset, history, (hstep _).1, (hstep _).2,
    htouches, hnext, history, (hstep _).2, touches_storesAheadNext]
  rfl

/-- The program changes itself: the word behind its first instruction is the one that was
stored there, and no longer the one that was loaded, for the next fetch and for whoever
looks. -/
theorem memory_eq_lastStored_changesItself :
    (0x3001 : Word) ≠ statusAddress ∧ (0x3001 : Word) ≠ dataAddress
      ∧ history (⟨.initial, { queue := [] }, {}⟩ : System Scripted Collector) changesItself
        = [.loaded 0x3000 [0x3000, 0x1111], .read 0x3000 0x3000, .stored 0x3001 7,
          .read 0x3001 7]
      ∧ (obeyAll (⟨.initial, { queue := [] }, {}⟩ : System Scripted Collector)
          changesItself).2.1.machine.core.memory.peek 0x3001 = 7 := by
  have hstatus : (0x3001 : Word) ≠ statusAddress := by decide
  have hdata : (0x3001 : Word) ≠ dataAddress := by decide
  have hlast : lastStored 0x3001 0 [.loaded 0x3000 [0x3000, 0x1111], .read 0x3000 0x3000,
      .stored 0x3001 7, .read 0x3001 7] = 7 := by decide
  have hpeek := (memory_eq_lastStored ({ queue := [] } : Scripted) ({} : Collector) changesItself
    hstatus hdata).1
  rw [history_changesItself, hlast] at hpeek
  exact ⟨hstatus, hdata, history_changesItself, hpeek⟩

end System

end LC3
