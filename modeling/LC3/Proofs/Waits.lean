import LC3.Proofs.KeyboardRegisters
import LC3.Proofs.Runs

/-!
# Where a wait comes from

A step waits for a character at most once, and only if its instruction is one
of two traps. The wait finds the keyboard as the fetch left it: the prompt,
if there is one, goes to the console alone. What the wait is answered with is
in R0 at the end of the step, whatever the console does with its echo
(`Core.waited_mem_execute`, and `System.waited_mem_step` for a whole step).

Everything else in a step is shown not to wait, and for this the acts are
enough: a dialogue that follows the acts of its memory waits only by the act
`await` (`Act.waitsNot_perform`), so it is not looked into again. The traps
that do wait are the only dialogues that have to be opened here.
-/

namespace LC3

variable {κ ω : Type} [Keyboard κ] [Console ω]

/-- No character is waited for in some exchanges. -/
def WaitsNot (exchanges : List Exchange) : Prop := ∀ answer, .waited answer ∉ exchanges

namespace WaitsNot

/-- Where nothing happens, nobody waits. -/
theorem nil : WaitsNot [] := fun _ => List.not_mem_nil

/-- Waiting can only be in one of two parts of a history. -/
theorem append {before later : List Exchange} (h : WaitsNot before) (h' : WaitsNot later) :
    WaitsNot (before ++ later) := by
  intro answer hmem
  obtain hmem | hmem := List.mem_append.1 hmem
  · exact h answer hmem
  · exact h' answer hmem

/-- One exchange that is no wait is a history without one. -/
theorem singleton {e : Exchange} (h : ∀ answer, .waited answer ≠ e) : WaitsNot [e] := by
  intro answer hmem
  exact h answer (List.eq_of_mem_singleton hmem)

/-- What a keyboard reports is no wait. -/
theorem reported (events : List Event) : WaitsNot (events.map .reported) := by
  intro answer hmem
  obtain ⟨event, -, h⟩ := List.mem_map.1 hmem
  exact Exchange.noConfusion h

/-- Neither is what the console is asked. -/
theorem wrote (bytes : List UInt8) (answer : Except DeviceError Unit) :
    WaitsNot [.wrote bytes answer] := .singleton nofun

/-- A flush asks the console only. -/
theorem flushed (answer : Except DeviceError Unit) : WaitsNot [.flushed answer] :=
  .singleton nofun

end WaitsNot

/-! ## Acts without a wait

A poll asks the keyboard too, but what it is answered is an exchange of another
kind. So it is enough to go through the acts once, by constructor, and to leave
the act of waiting out. -/

/-- The arrival of a character is a poll, and perhaps a take. -/
theorem Memory.waitsNot_arrival (k : κ) (c : ω) : WaitsNot (arrival.hold k c).exchanges := by
  have hpolled : WaitsNot ((Keyboard.poll k).events.map .reported
      ++ [.polled (Keyboard.poll k).answer]) :=
    (WaitsNot.reported _).append (.singleton nofun)
  unfold arrival
  rw [Dialogue.hold_bind, Dialogue.hold_pollKeyboard]
  refine hpolled.append ?_
  dsimp only
  match (Keyboard.poll k).answer with
  | .ok true => exact .singleton nofun
  | .ok false => exact .nil
  | .error e => exact .singleton nofun

/-- **Only one act waits.** -/
theorem Act.waitsNot_perform {act : Act} (h : act ≠ .await) (m : Memory) (k : κ) (c : ω) :
    WaitsNot ((act.perform m).hold k c).exchanges := by
  cases act with
  | await => exact absurd rfl h
  | poll =>
    rw [hold_poll]
    exact (WaitsNot.reported _).append (.singleton nofun)
  | ask | write bytes | flush | store a value | note event logged => exact .singleton nofun
  | read a =>
    rw [hold_read]
    -- a read is the status register, the data register or a plain cell, and only the
    -- first asks the keyboard
    obtain ⟨-, h⟩ | ⟨-, h⟩ | h := m.read_cases a
    · rw [h]
      by_cases hholds : m.holds = true
      · rw [Memory.hold_readStatus_of_holds hholds]
        exact .singleton nofun
      · rw [Memory.hold_readStatus_of_free (Bool.eq_false_iff.2 hholds)]
        exact (Memory.waitsNot_arrival k c).append (.singleton nofun)
    · rw [h]
      exact .singleton nofun
    · rw [h]
      exact .nil

/-- **Acts that are no waits** never wait. -/
theorem Dialogue.Follows.waitsNot {α : Type} {x : Dialogue α} {m : Memory}
    {memory : α → Memory} (h : x.Follows (· ≠ .await) m memory) (k : κ) (c : ω) :
    WaitsNot (x.hold k c).exchanges :=
  h.relate (R := fun _ _ exchanges _ _ => WaitsNot exchanges)
    ⟨fun _ _ => .nil, fun h h' => h.append h'⟩
    (fun _ hact m k c => Act.waitsNot_perform hact m k c) k c

/-- Saying a message leaves the keyboard alone. -/
theorem Dialogue.hold_say (message : List UInt8) (k : κ) (c : ω) :
    ((say message).hold k c).keyboard = k ∧ WaitsNot ((say message).hold k c).exchanges := by
  unfold say
  split
  · exact ⟨rfl, .flushed _⟩
  · unfold hold
    dsimp only
    cases (Console.write c message).1 with
    | ok =>
      refine ⟨rfl, ?_⟩
      show WaitsNot ([.wrote message (.ok ())] ++ [.flushed _])
      exact .append (.wrote _ _) (.flushed _)
    | error e =>
      refine ⟨rfl, ?_⟩
      show WaitsNot [.wrote message (.error e)]
      exact .wrote _ _

/-! ## The two traps that wait

GETC waits at once, and IN after its prompt. Both hand the character to the rest
of the routine through R0, so one lemma about `Trap.receive` serves for both;
what is said about the rest is only that it does not wait a second time and
gives back the core that it was given. -/

/-- **An answer is received** from a keyboard if it is what a wait there is
answered with, and R0 has the character of it afterwards. -/
def IsReceived (answer : Except DeviceError (Option UInt8)) (k : κ) (core : Core) : Prop :=
  answer = (Keyboard.wait k).answer
    ∧ ∀ character, answer = .ok (some character)
      → core.registers.get Registers.r0 = character.toUInt16

namespace Trap

/-- A routine that waits goes on with the character in R0, and nothing that
follows waits again or touches the register. -/
theorem waited_mem_receive {core : Core} {next : UInt8 → Core → Dialogue (Outcome × Core)}
    (hnext : ∀ character core, (next character core).Follows (· ≠ .await) core.memory
      Core.memoryOf)
    (hkeep : ∀ character core, (next character core).Ends (·.2 = core))
    {k : κ} {c : ω} {answer : Except DeviceError (Option UInt8)}
    (h : .waited answer ∈ ((receive core next).hold k c).exchanges) :
    IsReceived answer k ((receive core next).hold k c).value.2 := by
  unfold receive at h ⊢
  rw [Dialogue.hold_bind, Dialogue.hold_awaitCharacter] at h ⊢
  -- whatever follows without a wait, a wait in the whole is the first one
  have hfirst : ∀ {later : List Exchange}, WaitsNot later
      → .waited answer ∈ (Keyboard.wait k).events.map .reported
          ++ [.waited (Keyboard.wait k).answer] ++ later
      → answer = (Keyboard.wait k).answer := by
    intro later hlater hmem
    obtain hmem | hmem := List.mem_append.1 hmem
    · obtain hmem | hmem := List.mem_append.1 hmem
      · exact absurd hmem (WaitsNot.reported _ answer)
      · exact Exchange.waited.inj (List.eq_of_mem_singleton hmem)
    · exact absurd hmem (hlater answer)
  dsimp only at h ⊢
  cases hanswer : (Keyboard.wait k).answer with
  | error e =>
    rw [hanswer] at h hfirst
    refine ⟨hanswer.symm ▸ hfirst .nil h, fun character he => ?_⟩
    exact nomatch (hfirst .nil h).symm.trans he
  | ok found =>
    cases found with
    | none =>
      rw [hanswer] at h hfirst
      refine ⟨hanswer.symm ▸ hfirst .nil h, fun character he => ?_⟩
      exact nomatch (hfirst .nil h).symm.trans he
    | some ch =>
      rw [hanswer] at h hfirst
      have hlater := (hnext ch { core with
        registers := core.registers.set Registers.r0 ch.toUInt16 }).waitsNot
          (Keyboard.wait k).keyboard c
      have hgiven := hfirst hlater h
      refine ⟨hanswer.symm ▸ hgiven, fun character he => ?_⟩
      have hch : ch = character := Option.some.inj (Except.ok.inj (hgiven.symm.trans he))
      have hsame := (hkeep ch { core with
        registers := core.registers.set Registers.r0 ch.toUInt16 }).hold
          (Keyboard.wait k).keyboard c
      dsimp only
      -- the routine gives the core back as it was when R0 was written
      rw [Course.after_value, hsame, ← hch]
      exact Registers.get_set_self _ _ _

/-- Printing gives the core back, whether or not the console took the message. -/
theorem ends_print (core : Core) (message : List UInt8) (outcome : Outcome) :
    (print core message outcome).Ends (·.2 = core) := by
  unfold print
  refine Dialogue.ends_bind.2 (Dialogue.ends_of_forall (fun answer => ?_) _)
  cases answer with
  | ok => exact rfl
  | error e => exact rfl

/-- **Only GETC and IN wait**, and what they receive comes from the keyboard
as it is when they start. -/
theorem waited_mem_perform {config : Config} {core : Core} {trap : Trap} {k : κ} {c : ω}
    {answer : Except DeviceError (Option UInt8)}
    (h : .waited answer ∈ ((trap.perform config core).hold k c).exchanges) :
    IsReceived answer k ((trap.perform config core).hold k c).value.2 := by
  by_cases hgetC : trap = getC
  · subst hgetC
    have hkeep : ∀ (_ : UInt8) (core : Core),
        (return (.running, core) : Dialogue (Outcome × Core)).Ends (·.2 = core) :=
      fun _ _ => rfl
    exact waited_mem_receive (fun _ _ => Dialogue.follows_done rfl) hkeep h
  · by_cases hinput : trap = input
    · subst hinput
      unfold perform at h ⊢
      dsimp only at h ⊢
      -- the prompt comes before the wait, but asks the keyboard nothing
      obtain ⟨hkeyboard, hprompt⟩ := Dialogue.hold_say config.prompt.toUTF8.toList k c
      rw [Dialogue.hold_bind, hkeyboard] at h ⊢
      obtain hmem | hmem := List.mem_append.1 h
      · exact absurd hmem (hprompt answer)
      · rw [Course.after_value]
        cases hsaid : ((Dialogue.say config.prompt.toUTF8.toList).hold k c).value with
        | error e =>
          rw [hsaid] at hmem
          exact absurd hmem List.not_mem_nil
        | ok =>
          rw [hsaid] at hmem
          exact waited_mem_receive
            (fun _ core => follows_print core _ _ nofun nofun) (fun _ _ => ends_print _ _ _) hmem
    · have hwaits : WaitsNot ((trap.perform config core).hold k c).exchanges :=
        (follows_perform_of_writes hgetC hinput config core (fun _ => nofun) (fun _ => nofun)
          nofun).waitsNot k c
      exact absurd h (hwaits answer)

end Trap

namespace Core

/-- **What a trap waits for it receives**, from the keyboard that the
instruction starts with, and no other instruction waits. -/
theorem waited_mem_execute {config : Config} {address : Word} {core : Core} {i : Instruction}
    {k : κ} {c : ω} {answer : Except DeviceError (Option UInt8)}
    (h : .waited answer ∈ ((core.execute config address i).hold k c).exchanges) :
    i.opcode = .trap
      ∧ IsReceived answer k ((core.execute config address i).hold k c).value.2 := by
  by_cases htrap : i.opcode = .trap
  · refine ⟨htrap, ?_⟩
    unfold execute at h ⊢
    rw [htrap] at h ⊢
    dsimp only at h ⊢
    cases hvector : Trap.ofVector? i.vector with
    | some trap =>
      rw [hvector] at h
      exact Trap.waited_mem_perform h
    | none =>
      rw [hvector] at h
      have hmem : Exchange.waited answer = .reported (.unknownTrap i.vector) :=
        List.eq_of_mem_singleton h
      exact nomatch hmem
  · have hwaits : WaitsNot ((core.execute config address i).hold k c).exchanges :=
      ((follows_execute_ofMemory htrap config address core).mono
        (fun act hact => by rintro rfl; exact hact)).waitsNot k c
    exact absurd h (hwaits answer)

end Core

namespace System

/-- The poll at an interval waits for nothing. -/
theorem waitsNot_pollExchanges (s : System κ ω) : WaitsNot s.pollExchanges := by
  intro answer hmem
  obtain ⟨event, -, h⟩ | h | ⟨error, h⟩ := mem_pollExchanges hmem
  · exact nomatch h
  · exact nomatch h
  · exact nomatch h

/-- Neither does the fetch: to read a cell may poll, and never waits. -/
theorem waitsNot_fetched (s : System κ ω) : WaitsNot s.fetched.exchanges :=
  (Dialogue.follows_read s.machine.core.registers.pc nofun).waitsNot s.keyboard s.console

/-- A trap is fetched without a question to the keyboard, since the status of
the keyboard is no trap. -/
theorem fetched_keyboard_of_trap {s : System κ ω}
    (h : (Instruction.ofWord s.fetched.value.1).opcode = .trap) :
    s.fetched.keyboard = s.keyboard := by
  unfold fetched at h ⊢
  obtain ⟨-, hread⟩ | ⟨-, hread⟩ | hread :=
    s.machine.core.memory.read_cases s.machine.core.registers.pc
  · rw [hread] at h
    -- the status is 0 or 0x8000, and neither decodes to a trap
    obtain hvalue | hvalue :=
      s.machine.core.memory.readStatus_value s.keyboard s.console
    · rw [hvalue] at h
      exact absurd h (by decide)
    · rw [hvalue] at h
      exact absurd h (by decide)
  · rw [hread, Memory.hold_readData]
  · rw [hread]
    rfl

/-- The cycle waits where its instruction does, and that is behind the fetch. At a full
count of steps the cycle ends after the fetch. -/
theorem waited_mem_cycle {s : System κ ω} {answer : Except DeviceError (Option UInt8)}
    (h : .waited answer ∈ s.cycle.exchanges) :
    (Instruction.ofWord s.fetched.value.1).opcode = .trap
      ∧ IsReceived answer s.fetched.keyboard s.cycle.value.2.core := by
  have hfetched := s.waitsNot_fetched
  by_cases hfull : s.machine.steps = Machine.maxCount
  · rw [cycle_of_full hfull] at h
    exact absurd h (hfetched answer)
  · rw [cycle_eq hfull] at h ⊢
    obtain hmem | hmem := List.mem_append.1 h
    · exact absurd hmem (hfetched answer)
    · obtain hmem | hmem := List.mem_cons.1 hmem
      · exact nomatch hmem
      · exact Core.waited_mem_execute hmem

/-- **A step that waits** executes a trap, and receives what the keyboard
answers after the fetch. -/
theorem waited_mem_step {s : System κ ω} {answer : Except DeviceError (Option UInt8)}
    (h : .waited answer ∈ s.step.2.2) :
    (Instruction.ofWord s.polled.fetched.value.1).opcode = .trap
      ∧ IsReceived answer s.polled.fetched.keyboard s.next.machine.core := by
  -- a step at the limit and a step after a request end before the fetch, and the wait is in
  -- neither
  cases hlimit : s.machine.limitReached? with
  | some limit =>
    rw [step_of_limit hlimit] at h
    have hlimited : WaitsNot [.reported (.limitReached limit)] := .singleton nofun
    exact absurd h (hlimited answer)
  | none =>
    cases hrequested : Keyboard.requested s.polled.keyboard with
    | true =>
      rw [step_of_requested hlimit hrequested] at h
      have hlast : WaitsNot ([.asked true] ++ [.reported .interrupted]) :=
        .append (.singleton nofun) (.singleton nofun)
      exact absurd h (s.waitsNot_pollExchanges.append hlast answer)
    | false =>
      unfold next
      rw [step_eq_cycle hlimit hrequested] at h ⊢
      have hbefore : WaitsNot (s.pollExchanges ++ [.asked false]) :=
        s.waitsNot_pollExchanges.append (.singleton nofun)
      have hcycle : .waited answer ∈ s.polled.cycle.exchanges := by
        rw [← List.singleton_append, ← List.append_assoc] at h
        exact (List.mem_append.1 h).resolve_left (hbefore answer)
      exact s.polled.waited_mem_cycle hcycle

end System

end LC3
