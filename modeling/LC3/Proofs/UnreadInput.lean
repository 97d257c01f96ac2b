import LC3.Proofs.IntervalPoll
import LC3.Proofs.PipedInput
import LC3.Proofs.TypedOrder
import LC3.Proofs.Work

/-!
# Input that was not read makes no difference

A program learns of its input by being handed characters, and by finding that
there is none. As long as it never finds none, it has learned no more than
the characters it was handed, so it goes the same way with every keyboard that
begins with the same characters, whatever is behind them and whether anything
is.

The two ways of finding none are told by the exchanges
(`Exchange.foundNothing`): a read of the keyboard status that polls in vain,
and a wait that is answered with nothing. The poll between instructions is
not one of them. It may well be answered differently by the two keyboards, but
no program hears the answer. A step therefore falls into two parts: the poll,
which leaves the machine as it is and what is unread unread, and the cycle,
for which an induction over its work shows that nothing else is learned
(`Work.hold_on_repeats`).
-/

namespace LC3

open Exchange (demands delivered delivered_append)
open Delivers (Sound unread wait_eq)

namespace Exchange

/-- **The keyboard was found empty**, by a program that looked for a character
or waited for one. -/
def foundNothing : Exchange → Bool
  | waited (.ok none) => true
  | reported (.statusRead false false _) => true
  | _ => false

/-- Reports of the keyboard ask nothing of a device. -/
@[simp] theorem demands_reported (events : List Event) : demands (events.map reported) = [] := by
  rw [demands, List.filter_eq_nil_iff]
  intro e hmem
  obtain ⟨event, -, rfl⟩ := List.mem_map.1 hmem
  exact Bool.false_ne_true

/-- The questions other than polls tell what was handed out. -/
theorem delivered_demands (exchanges : List Exchange) :
    delivered (demands exchanges) = delivered exchanges := by
  unfold delivered demands
  rw [List.filterMap_filter]
  refine congrArg (List.filterMap · exchanges) (funext fun e => ?_)
  cases e <;> rfl

end Exchange

open Exchange (foundNothing demands_append demands_reported)

variable {κ κ' ω α β : Type} [Delivers κ] [Delivers κ'] [Console ω]

/-- **Two keyboards that may differ in what is unread**, and the text that is
unread on the second. -/
structure StandsIn (k : κ) (k' : κ') (text : List UInt8) : Prop where
  sound : Sound k
  sound' : Sound k'
  requested : Keyboard.requested k = Keyboard.requested k'
  unread : unread k' = text

/-- **A course is repeated** with a second keyboard, which is left with a given
text. -/
structure Course.Repeats (text : List UInt8) (course : Course κ ω α)
    (course' : Course κ' ω α) : Prop where
  value : course.value = course'.value
  keyboard : StandsIn course.keyboard course'.keyboard text
  console : course.console = course'.console
  demands : demands course.exchanges = demands course'.exchanges

variable (κ κ' ω) in
/-- **A dialogue is repeatable** if it goes the same way with every second
keyboard that has the characters which the first hands out, unless the first
is found empty. -/
def Dialogue.Repeatable (x : Dialogue α) : Prop :=
  ∀ (k : κ) (k' : κ') (c : ω) (text : List UInt8),
    (∀ e ∈ (x.hold k c).exchanges, e.foundNothing = false) →
    StandsIn k k' (delivered (x.hold k c).exchanges ++ text) →
    (x.hold k c).Repeats text (x.hold k' c)

/-! ## Phrase by phrase

A dialogue is put together from phrases, and repeatable parts make a repeatable
whole. So it is enough to look at single questions. Those to the console go the
same way because the console knows nothing of the keyboard; of those to the
keyboard only the wait tells the program anything. -/

namespace Dialogue

/-- What is done already asks nothing. -/
theorem repeatable_done (a : α) : (done a).Repeatable κ κ' ω :=
  fun _ _ _ _ _ h => ⟨rfl, h, rfl, rfl⟩

/-- To report an event asks nothing either. -/
theorem repeatable_tell (event : Event) : (tell event).Repeatable κ κ' ω :=
  fun _ _ _ _ _ h => ⟨rfl, h, rfl, rfl⟩

/-- **What is repeatable part by part** is repeatable: what the second part
hands out is left to the first keyboard by the first part. -/
theorem Repeatable.bind {x : Dialogue α} {f : α → Dialogue β} (hx : x.Repeatable κ κ' ω)
    (hf : ∀ a, (f a).Repeatable κ κ' ω) : (x >>= f).Repeatable κ κ' ω := by
  intro k k' c text hfound hstands
  rw [hold_bind] at hfound hstands ⊢
  rw [Course.after_exchanges, delivered_append, List.append_assoc] at hstands
  rw [Course.after_exchanges] at hfound
  obtain ⟨hvalue, hkeyboard, hconsole, hdemands⟩ :=
    hx k k' c _ (fun e he => hfound e (List.mem_append_left _ he)) hstands
  obtain ⟨hvalue', hkeyboard', hconsole', hdemands'⟩ :=
    hf _ _ _ _ text (fun e he => hfound e (List.mem_append_right _ he)) hkeyboard
  rw [hold_bind, ← hvalue, ← hconsole]
  refine ⟨hvalue', hkeyboard', hconsole', ?_⟩
  rw [Course.after_exchanges, Course.after_exchanges, demands_append, demands_append, hdemands,
    hdemands']

/-- The console does not hear the keyboard, nor the keyboard the console. -/
theorem repeatable_say (message : List UInt8) : (say message).Repeatable κ κ' ω := by
  intro k k' c text _ hstands
  obtain ⟨hvalue, hconsole, hexchanges⟩ := hold_say_eq message k k' c
  obtain ⟨hkeyboard, -⟩ := hold_say message k c
  obtain ⟨hkeyboard', -⟩ := hold_say message k' c
  rw [delivered_say] at hstands
  refine ⟨hvalue, ?_, hconsole, congrArg demands hexchanges⟩
  rw [hkeyboard, hkeyboard']
  exact hstands

/-- **A wait** that is answered with a character hands it out. -/
theorem repeatable_await : awaitCharacter.Repeatable κ κ' ω := by
  intro k k' c text hfound hstands
  obtain ⟨hanswer, hsound, -, hrequested⟩ := wait_eq hstands.sound
  obtain ⟨hanswer', hsound', hunread', hrequested'⟩ := wait_eq hstands.sound'
  have hunread := hstands.unread
  rw [hold_awaitCharacter] at hfound hunread ⊢
  rw [hold_awaitCharacter]
  dsimp only at hfound hunread
  rw [hanswer] at hfound hunread ⊢
  rw [delivered_append, Exchange.delivered_reported] at hunread
  cases hlist : unread k with
  | nil =>
    rw [hlist] at hfound
    have hempty := hfound _ (List.mem_append_right _ (List.mem_singleton_self _))
    exact absurd hempty Bool.noConfusion
  | cons character rest =>
    rw [hlist] at hunread hrequested
    have hunread : unread k' = character :: text := hunread
    rw [hunread] at hunread' hanswer' hrequested'
    rw [hanswer']
    refine ⟨rfl, ⟨hsound, hsound', ?_, hunread'⟩, rfl, ?_⟩
    · exact hrequested.trans ((congrArg (· || false) hstands.requested).trans hrequested'.symm)
    · rw [demands_append, demands_append, demands_reported, demands_reported]
      rfl

end Dialogue

/-! ## Reads of memory

The other place where a program learns of its input is the keyboard status. If a
character is held there the keyboard is not asked; otherwise it is polled, and a
character that is found is taken at once, which makes a read of the status as
good as a wait. -/

namespace Memory

open Dialogue (Repeatable repeatable_done repeatable_tell)

/-- **A read of the status** that finds a character takes the first that is
unread. -/
theorem repeatable_readStatus (m : Memory) : m.readStatus.Repeatable κ κ' ω := by
  intro k k' c text hfound hstands
  -- with a character held neither keyboard is asked, otherwise both are asked for the first
  cases hholds : m.holds with
  | true =>
    rw [hold_readStatus_of_holds hholds, hold_readStatus_of_holds hholds]
    rw [hold_readStatus_of_holds hholds] at hstands
    exact ⟨rfl, hstands, rfl, rfl⟩
  | false =>
    obtain ⟨hvalue, hconsole, hsound, -, hrequested, hexchanges⟩ :=
      Delivers.hold_arrival hstands.sound c
    obtain ⟨hvalue', hconsole', hsound', hunread', hrequested', hexchanges'⟩ :=
      Delivers.hold_arrival hstands.sound' c
    have hunread := hstands.unread
    rw [hold_readStatus_of_free hholds] at hfound hunread ⊢
    rw [hold_readStatus_of_free hholds]
    dsimp only at hfound hunread ⊢
    cases hlist : unread k with
    | nil =>
      rw [hlist] at hvalue
      have hempty := hfound _ (List.mem_append_right _ (List.mem_singleton_self _))
      rw [hvalue, show (m.hold [].head?).holds = false from m.holds_clear] at hempty
      exact absurd hempty Bool.noConfusion
    | cons character rest =>
      rw [hlist] at hvalue hexchanges
      rw [hexchanges, delivered_append, delivered_append, Exchange.delivered_reported] at hunread
      have hunread : unread k' = character :: text := hunread
      rw [hunread] at hvalue' hunread' hexchanges'
      rw [hvalue, hvalue', hexchanges, hexchanges']
      refine ⟨rfl, ⟨hsound, hsound', ?_, hunread'⟩, hconsole.trans hconsole'.symm, ?_⟩
      · exact hrequested.trans (hstands.requested.trans hrequested'.symm)
      · rw [demands_append, demands_append, demands_append, demands_append, demands_reported,
          demands_reported]
        rfl

/-- **A read of memory** learns something of the keyboard only at the status. -/
theorem repeatable_read (m : Memory) (a : Word) : (m.read a).Repeatable κ κ' ω := by
  obtain ⟨-, hread⟩ | ⟨-, hread⟩ | hread := m.read_cases a
  · rw [hread]
    exact m.repeatable_readStatus
  · rw [hread]
    exact (repeatable_tell _).bind fun _ => repeatable_done _
  · rw [hread]
    exact repeatable_done _

end Memory

/-! ## Cycles and steps

A cycle is work, of which all parts are repeatable. Before it a step may poll,
and the answer goes nowhere: the poll may find a character on one keyboard and
none on the other. -/

open Dialogue (repeatable_done repeatable_tell repeatable_say repeatable_await)

/-- **Work is repeatable** on every memory. -/
theorem Work.repeatable_on (x : Work α) (m : Memory) : (x.on m).Repeatable κ κ' ω := by
  induction x generalizing m with
  | done a => exact repeatable_done _
  | read a next ih => exact (m.repeatable_read a).bind fun (w, m) => ih w m
  | store a value rest ih => exact (repeatable_tell _).bind fun _ => ih _
  | wait next ih => exact repeatable_await.bind fun answer => ih answer m
  | say message next ih => exact (repeatable_say message).bind fun answer => ih answer m
  | tell event rest ih => exact (repeatable_tell _).bind fun _ => ih m

namespace Machine

/-- The poll leaves what is unread, and nobody hears its answer. -/
theorem repeatable_pollBetween (m : Machine) : m.pollBetween.Repeatable κ κ' ω := by
  intro k k' c text _ hstands
  obtain ⟨hvalue, hkeyboard, hconsole, hdemands⟩ :=
    System.hold_pollBetween_alike (.refl hstands.sound) m c
  obtain ⟨hvalue', hkeyboard', hconsole', hdemands'⟩ :=
    System.hold_pollBetween_alike (.refl hstands.sound') m c
  have hunread := hstands.unread
  -- the poll hands out nothing, so all of the text is still unread behind it
  rw [← Exchange.delivered_demands, hdemands] at hunread
  refine ⟨hvalue.trans hvalue'.symm, ⟨hkeyboard.sound, hkeyboard'.sound, ?_, ?_⟩,
    hconsole.trans hconsole'.symm, hdemands.trans hdemands'.symm⟩
  · exact hkeyboard.requested.trans (hstands.requested.trans hkeyboard'.requested.symm)
  · exact hkeyboard'.unread.trans hunread

/-- A cycle is repeatable, being the work that it is. -/
theorem repeatable_cycle (m : Machine) : m.cycle.Repeatable κ κ' ω := by
  rw [m.cycle_eq_on_work]
  exact (m.work.repeatable_on _).bind fun _ => repeatable_done _

/-- **A step is repeatable.** -/
theorem repeatable_step (m : Machine) : m.step.Repeatable κ κ' ω := by
  have hask : Dialogue.shutdownRequested.Repeatable κ κ' ω := by
    intro k k' c text _ hstands
    rw [Dialogue.hold_shutdownRequested, Dialogue.hold_shutdownRequested, hstands.requested]
    exact ⟨rfl, hstands, rfl, rfl⟩
  unfold step
  split
  · exact (repeatable_tell _).bind fun _ => repeatable_done _
  · refine m.repeatable_pollBetween.bind fun m => hask.bind fun requested => ?_
    split
    · exact (repeatable_tell _).bind fun _ => repeatable_done _
    · exact m.repeatable_cycle

end Machine

namespace System

/-- **Two systems that may differ in what is unread** on their keyboards, and
the text that is unread on the second. -/
structure StandsIn (s : System κ ω) (s' : System κ' ω) (text : List UInt8) : Prop where
  machine : s.machine = s'.machine
  keyboard : LC3.StandsIn s.keyboard s'.keyboard text
  console : s.console = s'.console

/-- A step is repeated by the second system. -/
theorem StandsIn.step {s : System κ ω} {s' : System κ' ω} {text : List UInt8}
    (h : StandsIn s s' (delivered s.step.2.2 ++ text))
    (hfound : ∀ e ∈ s.step.2.2, e.foundNothing = false) :
    s.step.1 = s'.step.1 ∧ StandsIn s.next s'.next text
      ∧ demands s.step.2.2 = demands s'.step.2.2 := by
  obtain ⟨machine, keyboard, console⟩ := s
  obtain ⟨machine', keyboard', console'⟩ := s'
  obtain ⟨rfl, hkeyboard, rfl⟩ := h
  obtain ⟨hvalue, hkeyboard', hconsole', hdemands⟩ :=
    machine.repeatable_step keyboard keyboard' console text hfound hkeyboard
  exact ⟨congrArg Prod.fst hvalue, ⟨congrArg Prod.snd hvalue, hkeyboard', hconsole'⟩, hdemands⟩

/-- And so are any number of steps. -/
theorem StandsIn.after {s : System κ ω} {s' : System κ' ω} {text : List UInt8} {n : Nat}
    (h : StandsIn s s' (delivered (s.trace n) ++ text))
    (hfound : ∀ e ∈ s.trace n, e.foundNothing = false) :
    (∀ i < n, (s.after i).step.1 = (s'.after i).step.1)
      ∧ StandsIn (s.after n) (s'.after n) text
      ∧ demands (s.trace n) = demands (s'.trace n) := by
  induction n generalizing s s' with
  | zero => exact ⟨fun i hi => absurd hi i.not_lt_zero, h, rfl⟩
  | succ n ih =>
    rw [trace_succ] at h hfound
    rw [delivered_append, List.append_assoc] at h
    obtain ⟨houtcome, hnext, hdemands⟩ :=
      h.step fun e he => hfound e (List.mem_append_left _ he)
    -- what the later steps hand out is still unread when the first is over
    obtain ⟨houtcomes, hafter, hlater⟩ :=
      ih hnext fun e he => hfound e (List.mem_append_right _ he)
    refine ⟨fun i hi => ?_, hafter, ?_⟩
    · cases i with
      | zero => exact houtcome
      | succ i => exact houtcomes i (Nat.lt_of_succ_lt_succ hi)
    · rw [trace_succ, trace_succ, demands_append, demands_append, hdemands, hlater]

/-- **What was not read makes no difference.** If no read of the status and no
wait of the first `n` steps found the keyboard empty, these steps go the same
way with every scripted keyboard that begins with the characters which were
handed out: their outcomes are the same, the machine and the console are the
same after them, the same is written and asked but for the polls, and the same
characters are handed out, which are the first on either keyboard. -/
theorem after_eq_of_isPrefix (s : System Scripted ω) (keyboard : Scripted) (n : Nat)
    (hexhausted : keyboard.exhausted = s.keyboard.exhausted)
    (hfound : ∀ e ∈ s.trace n, e.foundNothing = false)
    (hbegins : delivered (s.trace n) <+: keyboard.unread) :
    let s' : System Scripted ω := { s with keyboard := keyboard }
    (∀ i < n, (s'.after i).step.1 = (s.after i).step.1)
      ∧ (s'.after n).machine = (s.after n).machine
      ∧ (s'.after n).console = (s.after n).console
      ∧ demands (s'.trace n) = demands (s.trace n)
      ∧ delivered (s'.trace n) = delivered (s.trace n)
      ∧ delivered (s.trace n) <+: s.keyboard.unread := by
  obtain ⟨text, htext⟩ := hbegins
  have hstands : StandsIn s { s with keyboard := keyboard } (delivered (s.trace n) ++ text) :=
    ⟨rfl, ⟨trivial, trivial, hexhausted.symm, htext.symm⟩, rfl⟩
  obtain ⟨houtcomes, hafter, hdemands⟩ := hstands.after hfound
  refine ⟨fun i hi => (houtcomes i hi).symm, hafter.machine.symm, hafter.console.symm,
    hdemands.symm, ?_, ?_⟩
  · rw [← Exchange.delivered_demands, ← hdemands, Exchange.delivered_demands]
  · obtain ⟨-, hhands⟩ := hands_after (s := s) trivial n
    exact ⟨_, hhands⟩

/-- A program that reads two characters does not notice that a third was
typed, nor that the first was found by a poll before it started. -/
theorem after_pollThenGetC :
    let keyboard : Scripted := { queue := [0x62, 0x63], latch := some 0x61 }
    (∀ e ∈ pollThenGetC.trace 2, e.foundNothing = false)
      ∧ delivered (pollThenGetC.trace 2) = [0x61, 0x62]
      ∧ (after { pollThenGetC with keyboard := keyboard } 2).machine
        = (pollThenGetC.after 2).machine := by
  have htrace : pollThenGetC.trace 2
      = pollThenGetC.step.2.2 ++ (pollThenGetC.next.step.2.2 ++ []) := rfl
  rw [step_pollThenGetC, step_next_pollThenGetC] at htrace
  have hfound : ∀ e ∈ pollThenGetC.trace 2, e.foundNothing = false := by
    rw [htrace]
    simp [foundNothing]
  have hdelivered : delivered (pollThenGetC.trace 2) = [0x61, 0x62] := by
    rw [htrace]
    rfl
  refine ⟨hfound, hdelivered, (after_eq_of_isPrefix pollThenGetC
    { queue := [0x62, 0x63], latch := some 0x61 } 2 rfl hfound ?_).2.1⟩
  rw [hdelivered]
  exact ⟨[0x63], rfl⟩

end System

end LC3
