import LC3.Proofs.AlikeKeyboards

/-!
# Sessions with alike keyboards

Two systems are **alike** if they differ in their keyboards at most, and these
are alike. A command that does not type is obeyed by both in the same way
(`System.Alike.obeyed`): the response is the same, the same questions are
asked and answered, and they are alike afterwards. For a run this takes an
induction on its steps, and for a session one on its commands. Both are made
here for any two kinds of step and any two ways to obey, so that they serve
whenever two machines are to be compared that take their steps alike.
-/

namespace LC3

open Exchange (isQuestion)

/-- Who sees fewer exchanges sees them among those that others see. -/
theorem Exchange.filter_eq_filter {seen fewer : Exchange → Bool}
    (h : ∀ e, fewer e → seen e) (exchanges : List Exchange) :
    exchanges.filter fewer = (exchanges.filter seen).filter fewer := by
  rw [List.filter_filter]
  refine List.filter_congr fun e _ => ?_
  cases hfewer : fewer e with
  | false => rfl
  | true => exact (h e hfewer).symm

/-! ## Kinds of steps, ways to obey

A run is given here as a relation, and not by the function that makes it, so
that an induction over it has a case for the last step and one for all others.
It is given for any kind of step because the same induction is made of machines
that leave out the poll between instructions. -/

/-- Sets the register of a number, if there is one. -/
def Machine.setRegister (number : UInt8) (value : Word) (m : Machine) : Response × Machine :=
  match m.core.registers.write number value with
  | .ok registers => (.done, m.withRegisters fun _ => registers)
  | .error violation => (.refused violation, m)

namespace System

section Kinds

variable {κ ω α : Type} [Keyboard κ] [Console ω]

/-- **A run** by steps of a given kind: steps up to the first that does not
leave the machine running, and the report that the program halted. -/
inductive Runs (step : Machine → Dialogue (Outcome × Machine)) :
    System κ ω → Outcome × System κ ω × List Exchange → Prop where
  /-- The first step does not leave the machine running. -/
  | stop {s : System κ ω} (h : (s.act step).1 ≠ .running) :
    Runs step s ((s.act step).1, (s.act step).2.1,
      (s.act step).2.2 ++ lastReport (s.act step).1 (s.act step).2.1)
  /-- It does, and the run goes on. -/
  | go {s : System κ ω} {result : Outcome × System κ ω × List Exchange}
    (h : (s.act step).1 = .running) (later : Runs step (s.act step).2.1 result) :
    Runs step s (result.1, result.2.1, (s.act step).2.2 ++ result.2.2)

/-- A run of the machine is one. -/
theorem runs_run (s : System κ ω) :
    Runs Machine.step s (s.run.1, s.run.2.1, s.run.2.2.toList) := by
  obtain ⟨n, hruns, hvalue, hstops, hsystem, hexchanges⟩ := s.exists_run_eq_after
  rw [hexchanges, hsystem, hvalue]
  rw [hvalue] at hstops
  -- from here on only the number of steps matters, and it decreases as the system moves on
  clear hexchanges hsystem hvalue
  induction n generalizing s with
  | zero =>
    rw [trace_succ, trace_zero, List.append_nil]
    exact .stop hstops
  | succ n ih =>
    obtain ⟨hfirst, hlater⟩ := runsFor_succ.1 hruns
    rw [trace_succ, List.append_assoc]
    exact .go hfirst (ih s.next hlater hstops)

/-- **There is one run.** -/
theorem Runs.unique {step : Machine → Dialogue (Outcome × Machine)} {s : System κ ω}
    {result result' : Outcome × System κ ω × List Exchange} (h : Runs step s result)
    (h' : Runs step s result') : result = result' := by
  induction h generalizing result' with
  | stop hstop =>
    cases h' with
    | stop => rfl
    | go hgo => exact absurd hgo hstop
  | go hgo later ih =>
    cases h' with
    | stop hstop => exact absurd hgo hstop
    | go _ later' => rw [ih later']

omit [Keyboard κ] [Console ω] in
/-- A report is no part of what is seen of a run. -/
theorem filter_lastReport {seen : Exchange → Bool} (hseen : ∀ e, seen e → isQuestion e)
    (outcome : Outcome) (s : System κ ω) : (lastReport outcome s).filter seen = [] := by
  unfold lastReport
  split
  · exact List.filter_cons_of_neg fun h => Bool.false_ne_true (hseen _ h)
  · rfl

/-- A command that is obeyed, with its exchanges in order. -/
def obeyed (s : System κ ω) (command : Command) : Response × System κ ω × List Exchange :=
  ((s.obey command).1, (s.obey command).2.1, (s.obey command).2.2.toList)

/-- What is responded, and what the machine does for it. -/
theorem obeyed_of_respond {s : System κ ω} {command : Command} (response : α → Response)
    {dialogue : Machine → Dialogue (α × Machine)}
    (h : s.obey command = s.respond Array.push #[] response dialogue) :
    s.obeyed command = (response (s.act dialogue).1, (s.act dialogue).2) := by
  unfold obeyed
  rw [h]
  unfold respond
  dsimp only
  rw [List.foldl_push_eq_append', Array.toList_append, List.nil_append]

/-- The machine acts the same if its value is to be a response. -/
theorem act_respond (s : System κ ω) (response : α → Response)
    (dialogue : Machine → Dialogue (α × Machine)) :
    (s.act fun m => do
        let (value, m) ← dialogue m
        return (response value, m))
      = (response (s.act dialogue).1, (s.act dialogue).2) := by
  obtain ⟨machine, keyboard, console⟩ := s
  unfold act
  dsimp only
  rw [Dialogue.hold_bind]
  show (_, _, _ ++ []) = _
  rw [List.append_nil]
  rfl

/-- **A command is obeyed by one dialogue** of the machine, composed of phrases
as all of them are. -/
structure DoneBy (command : Command) (dialogue : Machine → Dialogue (Response × Machine)) :
    Prop where
  composed : ∀ m, (dialogue m).Composed
  obeyed_eq : ∀ {κ ω : Type} [Keyboard κ] [Console ω] (s : System κ ω),
    s.obeyed command = s.act dialogue

/-- The machine responds with the value of a dialogue. -/
theorem doneBy_of_respond {command : Command} (response : α → Response)
    (dialogue : Machine → Dialogue (α × Machine)) (hd : ∀ m, (dialogue m).Composed)
    (hobey : ∀ {κ ω : Type} [Keyboard κ] [Console ω] (s : System κ ω),
      s.obey command = s.respond Array.push #[] response dialogue) :
    DoneBy command fun m => do
      let (value, m) ← dialogue m
      return (response value, m) := by
  refine ⟨fun m => (hd m).bind fun _ => .done _, fun s => ?_⟩
  rw [act_respond]
  exact obeyed_of_respond response (hobey s)

/-- **A command is one dialogue of the machine**, unless it types or runs. -/
theorem exists_doneBy {command : Command} (htypes : ∀ characters, command ≠ .type characters)
    (hruns : command ≠ .run) : ∃ dialogue, DoneBy command dialogue := by
  cases command with
  | loadImage image =>
    exact ⟨_, doneBy_of_respond .loaded (Machine.loadImage · image) (·.composed_loadImage image)
      fun _ => rfl⟩
  | load program =>
    exact ⟨_, doneBy_of_respond .loaded (Machine.load · program) (·.composed_load program)
      fun _ => rfl⟩
  | reset =>
    exact ⟨_, doneBy_of_respond (fun () => .done) (fun m => return ((), ← m.reset))
      (fun m => m.composed_reset.bind fun _ => .done _) fun _ => rfl⟩
  | write a value =>
    exact ⟨_, doneBy_of_respond (fun () => .done) (fun m => return ((), ← m.write a value))
      (fun m => (m.composed_write a value).bind fun _ => .done _) fun _ => rfl⟩
  | read a =>
    exact ⟨_, doneBy_of_respond .word (Machine.read · a) (·.composed_read a) fun _ => rfl⟩
  | step => exact ⟨_, doneBy_of_respond .stopped Machine.step Machine.composed_step fun _ => rfl⟩
  | configure config =>
    exact ⟨fun m => .done (.done, { m with config := config }), fun _ => .done _, fun _ => rfl⟩
  | setFlag flag =>
    exact ⟨fun m => .done (.done, m.withRegisters fun r => { r with flag := flag }),
      fun _ => .done _, fun _ => rfl⟩
  | setCounter value =>
    exact ⟨fun m => .done (.done, m.withRegisters (·.jump value)), fun _ => .done _,
      fun _ => rfl⟩
  | setRegister number value =>
    -- a number without a register is refused, and nothing is changed
    refine ⟨fun m => .done (m.setRegister number value), fun _ => .done _, fun s => ?_⟩
    unfold obeyed obey obeyWith act Machine.setRegister
    dsimp only
    cases s.machine.core.registers.write number value with
    | ok registers => rfl
    | error violation => rfl
  | type characters => exact absurd rfl (htypes characters)
  | run => exact absurd rfl hruns

/-- **A session** with a given way to obey. -/
def obeyEach (obey : System κ ω → Command → Response × System κ ω × List Exchange)
    (s : System κ ω) : List Command → List Response × System κ ω × List Exchange
  | [] => ([], s, [])
  | command :: rest =>
    let (response, s, exchanges) := obey s command
    let (responses, s, later) := obeyEach obey s rest
    (response :: responses, s, exchanges ++ later)

/-- The session of a system is one of these. -/
theorem obeyAll_eq_obeyEach (s : System κ ω) (commands : List Command) :
    s.obeyAll commands = s.obeyEach obeyed commands := by
  induction commands generalizing s with
  | nil => rfl
  | cons command rest ih =>
    unfold obeyAll obeyEach
    dsimp only
    rw [ih]
    rfl

end Kinds

/-! ## Alike systems

The consoles are equal, not only alike: nothing that differs between the systems
reaches them. The observer is given by what it sees. The machine asks both the
same questions; the events that a keyboard reports belong to its kind, and
nobody who compares two kinds looks at them. -/

variable {κ κ' ω α β : Type} [Delivers κ] [Delivers κ'] [Console ω]

/-- **Two systems are alike** if they differ in their keyboards at most, and
these are alike. -/
structure Alike (s : System κ ω) (s' : System κ' ω) : Prop where
  machine : s.machine = s'.machine
  keyboard : LC3.Alike s.keyboard s'.keyboard
  console : s.console = s'.console

/-- **Two results match** for who sees only some of the exchanges. -/
structure Matches (seen : Exchange → Bool) (result : α × System κ ω × List Exchange)
    (result' : α × System κ' ω × List Exchange) : Prop where
  value : result.1 = result'.1
  system : Alike result.2.1 result'.2.1
  exchanges : result.2.2.filter seen = result'.2.2.filter seen

/-- What the machine does with one it does with the other. -/
theorem Alike.act {s : System κ ω} {s' : System κ' ω} (h : Alike s s')
    {dialogue : Machine → Dialogue (α × Machine)} (hd : ∀ m, (dialogue m).Composed) :
    Matches isQuestion (s.act dialogue) (s'.act dialogue) := by
  obtain ⟨machine, keyboard, console⟩ := s
  obtain ⟨machine', keyboard', console'⟩ := s'
  obtain ⟨rfl, hkeyboard, rfl⟩ := h
  obtain ⟨hvalue, hkeyboard', hconsole, hquestions⟩ := (hd machine).hold_alike hkeyboard console
  exact ⟨congrArg Prod.fst hvalue, ⟨congrArg Prod.snd hvalue, hkeyboard', hconsole⟩, hquestions⟩

omit [Console ω] in
/-- Who sees less sees no difference either. -/
theorem Matches.mono {seen fewer : Exchange → Bool} (hfewer : ∀ e, fewer e → seen e)
    {result : α × System κ ω × List Exchange} {result' : α × System κ' ω × List Exchange}
    (h : Matches seen result result') : Matches fewer result result' := by
  refine ⟨h.value, h.system, ?_⟩
  rw [Exchange.filter_eq_filter hfewer, h.exchanges, ← Exchange.filter_eq_filter hfewer]

/-! ## Runs, commands, sessions

The three levels have the same shape: what matches goes on to be alike, and what
is alike takes the next step, or obeys the next command, in a way that matches. -/

/-- **Steps that match make runs that match.** -/
theorem Runs.matches {seen : Exchange → Bool} (hseen : ∀ e, seen e → isQuestion e)
    {step step' : Machine → Dialogue (Outcome × Machine)}
    (hstep : ∀ {s : System κ ω} {s' : System κ' ω}, Alike s s' →
      Matches seen (s.act step) (s'.act step'))
    {s : System κ ω} {result : Outcome × System κ ω × List Exchange} (h : Runs step s result)
    {s' : System κ' ω} {result' : Outcome × System κ' ω × List Exchange}
    (h' : Runs step' s' result') (halike : Alike s s') : Matches seen result result' := by
  induction h generalizing s' result' with
  | stop hstop =>
    obtain ⟨hvalue, hsystem, hexchanges⟩ := hstep halike
    cases h' with
    | stop hstop' =>
      refine ⟨hvalue, hsystem, ?_⟩
      rw [List.filter_append, List.filter_append, filter_lastReport hseen,
        filter_lastReport hseen, hexchanges]
    | go hgo' later' => exact absurd (hvalue.trans hgo') hstop
  | go hgo later ih =>
    obtain ⟨hvalue, hsystem, hexchanges⟩ := hstep halike
    cases h' with
    | stop hstop' => exact absurd (hvalue.symm.trans hgo) hstop'
    | go hgo' later' =>
      obtain ⟨hlast, hsystem', hlater⟩ := ih later' hsystem
      refine ⟨hlast, hsystem', ?_⟩
      rw [List.filter_append, List.filter_append, hexchanges, hlater]

/-- **A command that does not type** is obeyed by alike systems alike. -/
theorem Alike.obeyed {s : System κ ω} {s' : System κ' ω} (h : Alike s s') {command : Command}
    (htypes : ∀ characters, command ≠ .type characters) :
    Matches isQuestion (s.obeyed command) (s'.obeyed command) := by
  by_cases hruns : command = .run
  · obtain ⟨hvalue, hsystem, hexchanges⟩ :=
      Runs.matches (fun _ => id) (fun h => h.act Machine.composed_step) s.runs_run s'.runs_run h
    rw [hruns]
    exact ⟨congrArg Response.stopped hvalue, hsystem, hexchanges⟩
  · obtain ⟨dialogue, hd, hobeyed⟩ := exists_doneBy htypes hruns
    rw [hobeyed, hobeyed]
    exact h.act hd

omit [Console ω] in
/-- **Commands that are obeyed alike** make sessions that match. -/
theorem Alike.obeyEach {seen : Exchange → Bool} {s : System κ ω} {s' : System κ' ω}
    (h : Alike s s') {obey : System κ ω → Command → Response × System κ ω × List Exchange}
    {obey' : System κ' ω → Command → Response × System κ' ω × List Exchange}
    {commands : List Command}
    (hobey : ∀ command ∈ commands, ∀ {s : System κ ω} {s' : System κ' ω}, Alike s s' →
      Matches seen (obey s command) (obey' s' command)) :
    Matches seen (s.obeyEach obey commands) (s'.obeyEach obey' commands) := by
  induction commands generalizing s s' with
  | nil => exact ⟨rfl, h, rfl⟩
  | cons command rest ih =>
    obtain ⟨hresponse, hsystem, hexchanges⟩ := hobey command List.mem_cons_self h
    obtain ⟨hresponses, hsystem', hlater⟩ :=
      ih hsystem fun command hmem => hobey command (List.mem_cons_of_mem _ hmem)
    refine ⟨congrArg₂ List.cons hresponse hresponses, hsystem', ?_⟩
    show List.filter seen (_ ++ _) = List.filter seen (_ ++ _)
    rw [List.filter_append, List.filter_append, hexchanges, hlater]

/-- **No session without typing** tells alike systems apart. -/
theorem Alike.obeyAll {s : System κ ω} {s' : System κ' ω} (h : Alike s s')
    {commands : List Command} (htypes : ∀ characters, .type characters ∉ commands) :
    Matches isQuestion (s.obeyAll commands) (s'.obeyAll commands) := by
  rw [obeyAll_eq_obeyEach, obeyAll_eq_obeyEach]
  exact h.obeyEach fun command hmem _ _ h => h.obeyed fun characters hcommand =>
    htypes characters (hcommand ▸ hmem)

end System

end LC3
