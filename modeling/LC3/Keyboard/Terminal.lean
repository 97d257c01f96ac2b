import LC3.Keyboard

/-!
# A keyboard on a terminal

A terminal in raw mode reports key presses one by one, CTRL-C among them.
This module says what a key press means to a program: the character it
types, or a request for shutdown, or nothing. It also says what the keyboard
answers as long as it need not look at the device; where it would have to,
the answer is `none`.
-/

namespace LC3

/-- **The keys that mean something**, and all others. -/
inductive KeyCode where
  /-- A key with a character. -/
  | character (value : Char)
  | enter
  | tab
  | backspace
  | escape
  /-- A key without a character, such as an arrow. -/
  | silent
  deriving DecidableEq, Repr

/-- Whether a key goes down, is held down, or goes up. -/
inductive KeyMotion where
  | press
  | hold
  | release
  deriving DecidableEq, Repr

/-- **A key with what accompanies it.** -/
structure KeyStroke where
  /-- The key. -/
  code : KeyCode
  /-- Whether the control key is down. -/
  control : Bool := false
  /-- What happens to the key. -/
  motion : KeyMotion := .press
  deriving DecidableEq, Repr

namespace KeyStroke

/-- Whether this is CTRL-C, which requests shutdown. -/
def isShutdown (k : KeyStroke) : Bool := k.code == .character 'c' && k.control

/-- **The byte a key types.** Characters outside of ASCII type none. -/
def byte? (k : KeyStroke) : Option UInt8 :=
  match k.code with
  | .character c => if c.val < 128 then some c.val.toUInt8 else none
  | .enter => some 0x0A
  | .tab => some 0x09
  | .backspace => some 0x08
  | .escape => some 0x1B
  | .silent => none

end KeyStroke

/-- What a terminal reports. -/
inductive TerminalEvent where
  /-- Something happened to a key. -/
  | key (stroke : KeyStroke)
  /-- Something else happened: the mouse, the focus, the size, a paste. -/
  | other
  deriving DecidableEq, Repr

/-- **A keyboard on a terminal**, as far as it is known without the
device. -/
structure Terminal where
  /-- The character that a poll found. -/
  latch : Option UInt8 := none
  /-- Whether CTRL-C was pressed. -/
  shutdown : Bool := false
  deriving DecidableEq, Repr

namespace Terminal

/-- **Takes note of an event:** the byte it types, if any. -/
def handle (t : Terminal) : TerminalEvent → Reply Terminal (Option UInt8)
  | .other => ⟨none, t, []⟩
  | .key stroke =>
    if stroke.motion ≠ .press then ⟨none, t, []⟩
    else if stroke.isShutdown then ⟨none, { t with shutdown := true }, [.shutdownRequested]⟩
    else ⟨stroke.byte?, t, []⟩

/-- Takes note of an event and keeps the byte it types, as a poll does that
finds the event. -/
def find (t : Terminal) (event : TerminalEvent) : Reply Terminal (Option UInt8) :=
  match t.handle event with
  | ⟨some c, t, events⟩ => ⟨some c, { t with latch := some c }, events⟩
  | unfound => unfound

/-- Whether a character was found; `none` where the device would have to be
polled. -/
def poll? (t : Terminal) : Option Bool := if t.latch.isSome then some true else none

/-- Takes the character that was found. -/
def take (t : Terminal) : Option UInt8 × Terminal := (t.latch, { t with latch := none })

/-- The character that was found, or no character after a request for
shutdown; `none` where the device would have to be read. -/
def wait? (t : Terminal) : Option (Option UInt8 × Terminal) :=
  if t.latch.isSome then some t.take
  else if t.shutdown then some (none, t)
  else none

end Terminal

end LC3
