import LC3.Keyboard.Terminal
import LC3.Keyboard.Pending

/-!
# A terminal with its device

`Terminal` says what a keyboard on a terminal answers as far as it need not
look at the device. This keyboard has the device with it: a queue of what
happened there, served in order. A poll looks at events until one types a
character or requests shutdown, or none is left, and it does not look at all
while a character is found; waiting looks on until a character is typed or
shutdown is requested. A device that will never report anything more is as
good as one that requests shutdown, so that the end of the queue counts as
such a request when a character is waited for.
-/

namespace LC3

/-- **A keyboard on a terminal with its device.** -/
structure Attended where
  /-- What is known without the device. -/
  terminal : Terminal
  /-- What happened on the device and was not looked at yet. -/
  queue : List TerminalEvent
  deriving DecidableEq, Repr

namespace Attended

/-- **Looks at events** until one types a character, which is kept, or
shutdown is requested. -/
def scan (t : Terminal) : List TerminalEvent → Reply Attended Bool
  | [] => ⟨false, ⟨t, []⟩, []⟩
  | event :: rest =>
    match t.find event with
    | ⟨some _, t, events⟩ => ⟨true, ⟨t, rest⟩, events⟩
    | ⟨none, t, events⟩ =>
      if t.shutdown then ⟨false, ⟨t, rest⟩, events⟩
      else
        match scan t rest with
        | ⟨answer, k, later⟩ => ⟨answer, k, events ++ later⟩

/-- Looks at events, unless a character was found already. -/
def poll (k : Attended) : Reply Attended (Except DeviceError Bool) :=
  match k.terminal.poll? with
  | some found => ⟨.ok found, k, []⟩
  | none =>
    match scan k.terminal k.queue with
    | ⟨found, k, events⟩ => ⟨.ok found, k, events⟩

/-- Takes the character that was found. -/
def take (k : Attended) : Option UInt8 × Attended :=
  match k.terminal.take with
  | (answer, terminal) => (answer, { k with terminal := terminal })

/-- **Looks at events** until one types a character or shutdown is
requested. -/
def search (t : Terminal) : List TerminalEvent → Reply Attended (Option UInt8)
  | [] => ⟨none, ⟨{ t with shutdown := true }, []⟩, []⟩
  | event :: rest =>
    match t.handle event with
    | ⟨some c, t, events⟩ => ⟨some c, ⟨t, rest⟩, events⟩
    | ⟨none, t, events⟩ =>
      if t.shutdown then ⟨none, ⟨t, rest⟩, events⟩
      else
        match search t rest with
        | ⟨answer, k, later⟩ => ⟨answer, k, events ++ later⟩

/-- The character that was found, or else the next one. -/
def wait (k : Attended) : Reply Attended (Except DeviceError (Option UInt8)) :=
  match k.terminal.wait? with
  | some (answer, terminal) => ⟨.ok answer, { k with terminal := terminal }, []⟩
  | none =>
    match search k.terminal k.queue with
    | ⟨answer, k, events⟩ => ⟨.ok answer, k, events⟩

instance : Keyboard Attended where
  poll := poll
  take := take
  wait := wait
  requested k := k.terminal.shutdown

end Attended

end LC3
