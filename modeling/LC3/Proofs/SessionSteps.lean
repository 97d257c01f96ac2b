import LC3.Proofs.AlikeSessions
import LC3.Proofs.Executions

/-!
# The steps of a session

A session is steps with other commands in between, and a run within it is only
steps. So what a session does is told by the systems that it takes its steps
from, in order (`System.starts`), and a statement about a whole session is an
induction on `System.Leads`: one case for a step, one for a command that takes
none, and one for the report that ends a run. What is touched and what is
exchanged is carried along.

A session may be cut before any of its steps (`System.Leads.split`), and what
lies before the cut is a session of the same kind. Thereby a statement about
the end of every session becomes one about each moment at which a step is made.
The case met most often is a condition that steps may set and nothing takes
back: it holds at such a moment if it held at the start or an earlier step set
it, and not otherwise (`System.Latches.iff_of_split`).
-/

namespace LC3

open Dialogue (CannotFail)

/-! ## Commands that take no step

All commands but two leave the execution of programs alone. What such a command
asks is one dialogue of the machine, which cannot fail, or nothing at all. That
is said here once for all of them, and every later statement about sessions has
one case for the ten commands. -/

namespace Machine

/-- **A dialogue of the machine takes no step:** nothing that it asks could fail, and it
leaves alone whether the keyboard is polled between instructions. -/
def TakesNoStep {α : Type} (m : Machine) (dialogue : Dialogue (α × Machine)) : Prop :=
  dialogue.Heeds (fun _ _ => False) fun result => result.2.pollFailed = m.pollFailed

/-- Loading a program asks nothing. -/
theorem takesNoStep_load (m : Machine) (program : List Word) :
    m.TakesNoStep (m.load program) := by
  unfold load
  cases program with
  | nil => exact rfl
  | cons origin words =>
    dsimp only
    cases m.core.memory.load origin words with
    | error e => exact rfl
    | ok memory => exact rfl

/-- Nor does loading an image, whether it is refused or not. -/
theorem takesNoStep_loadImage (m : Machine) (image : List UInt8) :
    m.TakesNoStep (m.loadImage image) := by
  unfold loadImage
  cases Image.words image with
  | error e => exact rfl
  | ok program => exact m.takesNoStep_load program

/-- A read of memory may poll the keyboard, and bears it if the poll fails. -/
theorem takesNoStep_read (m : Machine) (a : Word) : m.TakesNoStep (m.read a) :=
  (m.core.cannotFail_read a).bind fun _ => rfl

namespace TakesNoStep

variable {α : Type} {m : Machine} {dialogue : Dialogue (α × Machine)}

/-- What takes no step cannot fail. -/
theorem cannotFail (h : m.TakesNoStep dialogue) : dialogue.CannotFail :=
  Dialogue.Heeds.imp (fun _ _ hfalse => hfalse) (fun _ _ => trivial) h

/-- And it leaves alone whether polling was given up. -/
theorem pollFailed (h : m.TakesNoStep dialogue) :
    dialogue.Ends fun result => result.2.pollFailed = m.pollFailed :=
  (Dialogue.Heeds.ends h).imp fun _ hend => hend.elim id fun ⟨_, _, hfalse⟩ => hfalse.elim

end TakesNoStep

end Machine

namespace System

variable {κ ω : Type} [Keyboard κ] [Console ω]

/-- **A command that takes no step** types, or it is one dialogue of the machine. -/
theorem obeyed_cases (s : System κ ω) {command : Command} (hstep : command ≠ .step)
    (hrun : command ≠ .run) :
    (∃ characters, s.obeyed command
        = (.done, { s with keyboard := Keyboard.type s.keyboard characters }, []))
      ∨ ∃ dialogue : Machine → Dialogue (Response × Machine),
        (∀ m : Machine, m.TakesNoStep (dialogue m)) ∧ s.obeyed command = s.act dialogue := by
  -- the machine responds with the value of a dialogue
  have hresponds : ∀ {α : Type} (response : α → Response)
      (dialogue : Machine → Dialogue (α × Machine)), (∀ m : Machine, m.TakesNoStep (dialogue m)) →
      s.obey command = s.respond Array.push #[] response dialogue →
      ∃ dialogue : Machine → Dialogue (Response × Machine),
        (∀ m : Machine, m.TakesNoStep (dialogue m)) ∧ s.obeyed command = s.act dialogue := by
    intro α response dialogue hdialogue hobey
    refine ⟨fun m => dialogue m >>= fun result => return (response result.1, result.2),
      fun m => (hdialogue m).bind (fun _ hkept => hkept) fun _ _ hfalse => hfalse.elim, ?_⟩
    rw [obeyed_of_respond response hobey]
    exact (s.act_respond response dialogue).symm
  cases command with
  | type characters => exact .inl ⟨characters, rfl⟩
  | loadImage image =>
    exact .inr (hresponds .loaded (Machine.loadImage · image) (·.takesNoStep_loadImage image) rfl)
  | load program =>
    exact .inr (hresponds .loaded (Machine.load · program) (·.takesNoStep_load program) rfl)
  | reset =>
    exact .inr (hresponds (fun () => .done) (fun m => return ((), ← m.reset)) (fun _ => rfl) rfl)
  | write a value =>
    exact .inr (hresponds (fun () => .done) (fun m => return ((), ← m.write a value))
      (fun _ => rfl) rfl)
  | read a => exact .inr (hresponds .word (Machine.read · a) (·.takesNoStep_read a) rfl)
  | configure config =>
    exact .inr ⟨fun m => .done (.done, { m with config := config }), fun _ => rfl, rfl⟩
  | setFlag flag =>
    exact .inr ⟨fun m => .done (.done, m.withRegisters fun r => { r with flag := flag }),
      fun _ => rfl, rfl⟩
  | setCounter value =>
    exact .inr ⟨fun m => .done (.done, m.withRegisters (·.jump value)), fun _ => rfl, rfl⟩
  | setRegister number value =>
    refine .inr ⟨fun m => .done (m.setRegister number value), fun m => ?_, ?_⟩
    · show (m.setRegister number value).2.pollFailed = m.pollFailed
      unfold Machine.setRegister
      cases m.core.registers.write number value with
      | ok registers => rfl
      | error violation => rfl
    · unfold obeyed obey obeyWith act Machine.setRegister
      dsimp only
      cases s.machine.core.registers.write number value with
      | ok registers => rfl
      | error violation => rfl
  | step => exact absurd rfl hstep
  | run => exact absurd rfl hrun

/-! ## Where the steps of a session start

A run takes its steps by itself. The systems that it takes them from are listed
by the same recursion that the run is, on the count of steps that is left. -/

/-- The systems that a run takes its steps from. -/
def runStarts (s : System κ ω) : List (System κ ω) :=
  match _h : s.step with
  | (.running, s', _) => s :: s'.runStarts
  | _ => [s]
termination_by UInt64.size - s.machine.steps.toNat
decreasing_by exact left_step_lt (by assumption)

/-- A run that goes on takes its first step and then those of the run behind it. -/
theorem runStarts_of_running {s : System κ ω} (h : s.step.1 = .running) :
    s.runStarts = s :: s.next.runStarts := by
  rw [runStarts]
  split
  next hs => rw [next, hs]
  next hs => exact (hs s.next s.step.2.2 (Prod.ext h rfl)).elim

/-- A run that does not go on takes one step. -/
theorem runStarts_of_stopped {s : System κ ω} (h : s.step.1 ≠ .running) :
    s.runStarts = [s] := by
  rw [runStarts]
  split
  next hs => exact absurd (congrArg Prod.fst hs) h
  next => rfl

/-- The systems that a command takes its steps from. -/
def startsOf (s : System κ ω) : Command → List (System κ ω)
  | .step => [s]
  | .run => s.runStarts
  | .loadImage _ | .load _ | .configure _ | .reset | .setFlag _ | .setRegister _ _
  | .setCounter _ | .write _ _ | .read _ | .type _ => []

/-- **The systems that a session takes its steps from**, in order. -/
def starts (s : System κ ω) : List Command → List (System κ ω)
  | [] => []
  | command :: rest => s.startsOf command ++ (s.obey command).2.1.starts rest

/-! ## From step to step

`Leads` lists three things about a way from one system to another: the systems
that steps were taken from, what the steps and commands touched, and what they
exchanged. The lists are built up from the front, so that an induction follows
the way that the session goes. -/

/-- **One system leads to another** by steps, taken from the systems listed, and
by commands between them. What is touched and exchanged on the way is listed
too. -/
inductive Leads :
    System κ ω → List (System κ ω) → List Touch → List Exchange → System κ ω → Prop where
  /-- Nothing is done. -/
  | refl (s : System κ ω) : Leads s [] [] [] s
  /-- A step comes first, whatever its outcome. -/
  | step {s s' : System κ ω} {starts : List (System κ ω)} {log : List Touch}
    {exchanges : List Exchange} (later : Leads s.next starts log exchanges s') :
    Leads s (s :: starts) (s.touches ++ log) (s.step.2.2 ++ exchanges) s'
  /-- An event is reported. -/
  | report {s s' : System κ ω} {starts : List (System κ ω)} {log : List Touch}
    {exchanges : List Exchange} (event : Event) (later : Leads s starts log exchanges s') :
    Leads s starts log (.reported event :: exchanges) s'
  /-- A command that takes no step comes first. -/
  | other {s s' : System κ ω} {command : Command} {starts : List (System κ ω)}
    {log : List Touch} {exchanges : List Exchange} (hstep : command ≠ .step)
    (hrun : command ≠ .run) (later : Leads (s.obeyed command).2.1 starts log exchanges s') :
    Leads s starts (s.touchesOf command ++ log) ((s.obeyed command).2.2 ++ exchanges) s'

section Leads

variable {s s' s'' t : System κ ω} {before starts starts' after : List (System κ ω)}
  {log log' : List Touch} {exchanges exchanges' : List Exchange}

/-- What leads on leads further. -/
theorem Leads.trans (h : Leads s starts log exchanges s')
    (h' : Leads s' starts' log' exchanges' s'') :
    Leads s (starts ++ starts') (log ++ log') (exchanges ++ exchanges') s'' := by
  induction h with
  | refl s => exact h'
  | step later ih =>
    rw [List.append_assoc, List.append_assoc]
    exact .step (ih h')
  | report event later ih => exact .report event (ih h')
  | other hstep hrun later ih =>
    rw [List.append_assoc, List.append_assoc]
    exact .other hstep hrun (ih h')

/-- **A cut before a step.** What lies before it leads to the system that the step
is taken from, and what lies behind it leads on from the system after the
step. -/
theorem Leads.split (h : Leads s starts log exchanges s')
    (hstarts : starts = before ++ t :: after) :
    ∃ log₁ exchanges₁ log₂ exchanges₂, Leads s before log₁ exchanges₁ t
      ∧ Leads t.next after log₂ exchanges₂ s' ∧ log = log₁ ++ (t.touches ++ log₂)
      ∧ exchanges = exchanges₁ ++ (t.step.2.2 ++ exchanges₂) := by
  -- the cut moves to the front of the list as the steps before it are taken off
  induction h generalizing before with
  | refl s => simp at hstarts
  | @step s s' starts log exchanges later ih =>
    cases before with
    | nil =>
      obtain ⟨rfl, rfl⟩ := List.cons.inj hstarts
      exact ⟨[], [], log, exchanges, .refl s, later, rfl, rfl⟩
    | cons first before =>
      obtain ⟨rfl, hrest⟩ := List.cons.inj hstarts
      obtain ⟨log₁, exchanges₁, log₂, exchanges₂, hbefore, hafter, rfl, rfl⟩ := ih hrest
      refine ⟨s.touches ++ log₁, s.step.2.2 ++ exchanges₁, log₂, exchanges₂, .step hbefore,
        hafter, ?_, ?_⟩
      · rw [List.append_assoc]
      · rw [List.append_assoc]
  | report event later ih =>
    obtain ⟨log₁, exchanges₁, log₂, exchanges₂, hbefore, hafter, rfl, rfl⟩ := ih hstarts
    exact ⟨log₁, _, log₂, exchanges₂, .report event hbefore, hafter, rfl, rfl⟩
  | other hstep hrun later ih =>
    obtain ⟨log₁, exchanges₁, log₂, exchanges₂, hbefore, hafter, rfl, rfl⟩ := ih hstarts
    refine ⟨_, _, log₂, exchanges₂, .other hstep hrun hbefore, hafter, ?_, ?_⟩
    · rw [List.append_assoc]
    · rw [List.append_assoc]

end Leads

/-! ## Sessions

A run is its steps and a report, a command is a run, a step or something else,
and a session is commands one after another. -/

/-- The report at the end of a run leads nowhere. -/
theorem leads_lastReport (s s' : System κ ω) (outcome : Outcome) :
    Leads s [] [] (lastReport outcome s') s := by
  unfold lastReport
  split
  · exact .report _ (.refl s)
  · exact .refl s

/-- A run leads on by its steps. -/
theorem Runs.leads {s : System κ ω} {result : Outcome × System κ ω × List Exchange}
    (h : Runs Machine.step s result) :
    Leads s s.runStarts s.runTouches result.2.2 result.2.1 := by
  induction h with
  | @stop s hstop =>
    rw [runStarts_of_stopped hstop, runTouches_of_stopped hstop, ← List.append_nil s.touches]
    exact .step (leads_lastReport _ _ _)
  | @go s result hgo later ih =>
    rw [runStarts_of_running hgo, runTouches_of_running hgo]
    exact .step ih

/-- **A command leads on** by its steps, if it takes any. -/
theorem leads_obeyed (s : System κ ω) (command : Command) :
    Leads s (s.startsOf command) (s.touchesOf command) (s.obeyed command).2.2
      (s.obeyed command).2.1 := by
  have hother : command ≠ .step → command ≠ .run → Leads s [] (s.touchesOf command)
      (s.obeyed command).2.2 (s.obeyed command).2.1 := by
    intro hstep hrun
    rw [← List.append_nil (s.touchesOf command), ← List.append_nil (s.obeyed command).2.2]
    exact .other hstep hrun (.refl _)
  cases command with
  | step =>
    rw [obeyed_of_respond .stopped rfl]
    have h : Leads s [s] (s.touches ++ []) (s.step.2.2 ++ []) s.next := .step (.refl _)
    rw [List.append_nil, List.append_nil] at h
    exact h
  | run => exact s.runs_run.leads
  | _ => exact hother nofun nofun

/-- **A session leads on** by its steps and what comes between them. -/
theorem leads_obeyAll (s : System κ ω) (commands : List Command) :
    Leads s (s.starts commands) (s.history commands) (s.obeyAll commands).2.2
      (s.obeyAll commands).2.1 := by
  induction commands generalizing s with
  | nil => exact .refl s
  | cons command rest ih => exact (s.leads_obeyed command).trans (ih _)

/-! ## Conditions that steps set

For such a condition it is enough to look at one step and at one command of
another kind. What holds at every moment of every session follows from `Leads`
by induction. -/

/-- **A condition latches** if a step may set it, and nothing else sets it or takes
it back. -/
structure Latches (holds sets : System κ ω → Prop) : Prop where
  step : ∀ s, holds s.next ↔ holds s ∨ sets s
  other : ∀ s {command}, command ≠ .step → command ≠ .run →
    (holds (s.obeyed command).2.1 ↔ holds s)

namespace Latches

variable {holds sets : System κ ω → Prop} {s s' t : System κ ω}
  {before starts after : List (System κ ω)} {log : List Touch} {exchanges : List Exchange}

/-- **It holds at the end** if it held at the start or a step set it. -/
theorem iff_of_leads (h : Latches holds sets) (hleads : Leads s starts log exchanges s') :
    holds s' ↔ holds s ∨ ∃ u ∈ starts, sets u := by
  induction hleads with
  | refl s => simp
  | step later ih => simp only [ih, h.step, List.mem_cons, exists_eq_or_imp, or_assoc]
  | report event later ih => exact ih
  | other hstep hrun later ih => rw [ih, h.other _ hstep hrun]

/-- **It holds where a step is taken** if it held at the start or an earlier step
set it. -/
theorem iff_of_split (h : Latches holds sets) {commands : List Command}
    (hstarts : s.starts commands = before ++ t :: after) :
    holds t ↔ holds s ∨ ∃ u ∈ before, sets u := by
  obtain ⟨_, _, _, _, hbefore, -⟩ := (s.leads_obeyAll commands).split hstarts
  exact h.iff_of_leads hbefore

end Latches

end System

end LC3
