import LC3.Keyboard.Attended

/-!
# Keyboards that serve a queue

Two keyboards have a device whose events are served in order, and they differ
in how far a poll looks: one looks at a single event, the other passes over
events of no interest until something is to be told. What they have in common
is enough for what is proved of them: they can be viewed as a queue of
pending events with a latch (`Queued.view`); while a character is in the
latch a poll does nothing; and otherwise it passes over some idle events and
then does what a poll of a pending queue does.
-/

namespace LC3

/-- **A keyboard that serves a queue of events.** -/
class Queued (κ : Type) extends Keyboard κ where
  /-- The keyboard as a queue of pending events. -/
  view : κ → Pending
  /-- Shutdown was requested if the view says so. -/
  requested_eq : ∀ k, requested k = (view k).shutdown
  /-- While a character was found a poll does not look at the device. -/
  poll_of_latched : ∀ k, (view k).latch.isSome →
    (poll k).answer = .ok true ∧ view (poll k).keyboard = view k
  /-- Otherwise it passes over idle events and looks at the next one. -/
  poll_of_empty : ∀ k, (view k).latch = none →
    ∃ idle rest, (view k).queue = List.replicate idle .idle ++ rest
      ∧ (poll k).answer = (Pending.poll { view k with queue := rest }).answer
      ∧ view (poll k).keyboard = (Pending.poll { view k with queue := rest }).keyboard

/-- A queue of pending events passes over none. -/
instance : Queued Pending where
  view k := k
  requested_eq _ := rfl
  poll_of_latched := by
    rintro ⟨queue, latch, shutdown⟩ h
    cases latch with
    | none => exact absurd h Bool.false_ne_true
    | some c => exact ⟨rfl, rfl⟩
  poll_of_empty k _ := ⟨0, k.queue, rfl, rfl, rfl⟩

namespace TerminalEvent

/-- **What an event of a terminal amounts to:** a character, a request for
shutdown, or nothing. -/
def pending : TerminalEvent → PendingEvent
  | other => .idle
  | key stroke =>
    if stroke.motion ≠ .press then .idle
    else if stroke.isShutdown then .shutdown
    else
      match stroke.byte? with
      | some c => .character c
      | none => .idle

end TerminalEvent

namespace Terminal

/-- **A poll that finds an event** does with it what it amounts to, and there
are three things it can amount to. -/
theorem find_cases (t : Terminal) (event : TerminalEvent) :
    (event.pending = .idle ∧ t.find event = ⟨none, t, []⟩)
      ∨ (event.pending = .shutdown
        ∧ t.find event = ⟨none, { t with shutdown := true }, [.shutdownRequested]⟩)
      ∨ ∃ c, event.pending = .character c
        ∧ t.find event = ⟨some c, { t with latch := some c }, []⟩ := by
  unfold find handle TerminalEvent.pending
  cases event with
  | other => exact .inl ⟨rfl, rfl⟩
  | key stroke =>
    dsimp only
    by_cases hpress : stroke.motion ≠ .press
    · rw [if_pos hpress, if_pos hpress]
      exact .inl ⟨rfl, rfl⟩
    · rw [if_neg hpress, if_neg hpress]
      by_cases hshutdown : stroke.isShutdown = true
      · rw [if_pos hshutdown, if_pos hshutdown]
        exact .inr (.inl ⟨rfl, rfl⟩)
      · rw [if_neg hshutdown, if_neg hshutdown]
        cases stroke.byte? with
        | none => exact .inl ⟨rfl, rfl⟩
        | some c => exact .inr (.inr ⟨c, rfl, rfl⟩)

end Terminal

namespace Attended

/-- The device with what its events amount to. -/
def view (k : Attended) : Pending :=
  ⟨k.queue.map TerminalEvent.pending, k.terminal.latch, k.terminal.shutdown⟩

/-- **Looking on passes over idle events** and then does what a poll of a
pending queue does. -/
theorem scan_eq (t : Terminal) (queue : List TerminalEvent) (h : t.latch = none) :
    ∃ idle rest, queue.map TerminalEvent.pending = List.replicate idle .idle ++ rest
      ∧ .ok (scan t queue).answer = (Pending.poll ⟨rest, none, t.shutdown⟩).answer
      ∧ view (scan t queue).keyboard = (Pending.poll ⟨rest, none, t.shutdown⟩).keyboard := by
  obtain ⟨latch, shutdown⟩ := t
  cases h
  induction queue with
  | nil => exact ⟨0, [], rfl, rfl, rfl⟩
  | cons event queue ih =>
    unfold scan
    obtain ⟨hpending, hfind⟩ | ⟨hpending, hfind⟩ | ⟨c, hpending, hfind⟩ :=
      Terminal.find_cases ⟨none, shutdown⟩ event
    · rw [hfind, List.map_cons, hpending]
      cases shutdown with
      | true => exact ⟨0, _, rfl, rfl, rfl⟩
      | false =>
        obtain ⟨idle, rest, hqueue, hanswer, hview⟩ := ih
        exact ⟨idle + 1, rest, congrArg (PendingEvent.idle :: ·) hqueue, hanswer, hview⟩
    · rw [hfind, List.map_cons, hpending]
      exact ⟨0, _, rfl, rfl, rfl⟩
    · rw [hfind, List.map_cons, hpending]
      exact ⟨0, _, rfl, rfl, rfl⟩

/-- A terminal with its device serves the queue of the device. -/
instance : Queued Attended where
  view := view
  requested_eq _ := rfl
  poll_of_latched := by
    rintro ⟨⟨latch, shutdown⟩, queue⟩ h
    cases latch with
    | none => exact absurd h Bool.false_ne_true
    | some c => exact ⟨rfl, rfl⟩
  poll_of_empty := by
    rintro ⟨⟨latch, shutdown⟩, queue⟩ h
    cases h
    exact scan_eq ⟨none, shutdown⟩ queue rfl

end Attended

end LC3
