import LC3.Dialogue

/-!
# Memory and the keyboard registers

Memory has one cell for each of the 65536 addresses, so every word is an
address and no access is out of range. Two of the cells are also the
registers of the keyboard. **Reading** the status register polls the
keyboard, unless a character is already held for the program, and says by
its top bit whether one is held; **reading** the data register hands that
character out. Either read changes the cells, so a read is a dialogue with
the keyboard that ends with the word and the memory after it. **Storing** is
the same at every address, and `peek` looks at a cell without any effect.
-/

namespace LC3

/-- Reasons why a program image cannot be loaded. -/
inductive LoadError where
  /-- There is no word to say where the program goes. -/
  | missingOrigin
  /-- The image ends within a word. -/
  | oddBytes (count : Nat)
  /-- The program runs past the last address. -/
  | tooLong (origin : Word) (actual maximum : Nat)
  /-- The image could not be read. -/
  | unreadable (path message : String)
  deriving DecidableEq, Repr

/-- **One word for every address.** -/
structure Memory where
  /-- The cells, by address. -/
  cells : Vector Word UInt16.size
  deriving DecidableEq

/-- **The registers of the keyboard** among the cells. -/
inductive KeyboardRegister where
  /-- Whether a character is held for the program. -/
  | status
  /-- The character. -/
  | data
  deriving DecidableEq, Repr

namespace KeyboardRegister

/-- The address of a keyboard register. -/
def address : KeyboardRegister → Word
  | status => 0xFE00
  | data => 0xFE02

/-- The keyboard register at an address, if there is one. -/
def ofAddress? (a : Word) : Option KeyboardRegister :=
  if a = status.address then some status
  else if a = data.address then some data
  else none

/-- The name a keyboard register is shown by. -/
def name : KeyboardRegister → String
  | status => "Kbsr"
  | data => "Kbdr"

end KeyboardRegister

namespace Memory

/-- The address of the keyboard status register. -/
abbrev statusAddress : Word := KeyboardRegister.status.address

/-- The address of the keyboard data register. -/
abbrev dataAddress : Word := KeyboardRegister.data.address

/-- The status while a character is held for the program. -/
def ready : Word := 0x8000

/-- Memory before anything is stored. -/
def empty : Memory := ⟨Vector.replicate UInt16.size 0⟩

/-- The word at an address, without any effect. -/
def peek (m : Memory) (a : Word) : Word := m.cells[a.toFin]

/-- Stores a word. -/
def write (m : Memory) (a value : Word) : Memory :=
  ⟨m.cells.set a.toFin.val value a.toFin.isLt⟩

/-- Whether a character is held for the program. -/
def holds (m : Memory) : Bool := m.peek statusAddress == ready

/-- Holds a character for the program, or none. -/
def hold (m : Memory) : Option UInt8 → Memory
  | some c => (m.write statusAddress ready).write dataAddress c.toUInt16
  | none => m.write statusAddress 0

/-- A character of the keyboard, if there is one. A keyboard that cannot be
polled has none. -/
def arrival : Dialogue (Option UInt8) := do
  match ← Dialogue.pollKeyboard with
  | .ok true => Dialogue.takeCharacter
  | .ok false => return none
  | .error e =>
    Dialogue.tell (.statusPollFailed e)
    return none

/-- Reads the keyboard status. -/
def readStatus (m : Memory) : Dialogue (Word × Memory) :=
  if m.holds then do
    Dialogue.tell (.statusRead true true (m.peek dataAddress))
    return (ready, m)
  else do
    let character ← arrival
    let m := m.hold character
    Dialogue.tell (.statusRead false m.holds (m.peek dataAddress))
    return (m.peek statusAddress, m)

/-- Reads the keyboard data, which is thereby handed out. -/
def readData (m : Memory) : Dialogue (Word × Memory) := do
  let value := m.peek dataAddress
  Dialogue.tell (.dataRead m.holds value)
  return (value, m.write statusAddress 0)

/-- **Reads the word at an address**, with the effects of the keyboard
registers. -/
def read (m : Memory) (a : Word) : Dialogue (Word × Memory) :=
  match KeyboardRegister.ofAddress? a with
  | some .status => m.readStatus
  | some .data => m.readData
  | none => .done (m.peek a, m)

/-- Stores words at consecutive addresses from `a` on, as far as there are
addresses. -/
def place (m : Memory) (a : Nat) : List Word → Memory
  | [] => m
  | w :: rest => place ⟨m.cells.setIfInBounds a w⟩ (a + 1) rest

/-- **Copies a program to its origin.** A program that would run past the
last address is refused, and memory stays as it was. -/
def load (m : Memory) (origin : Word) (program : List Word) : Except LoadError Memory :=
  let maximum := UInt16.size - origin.toNat
  if program.length > maximum then .error (.tooLong origin program.length maximum)
  else .ok (m.place origin.toNat program)

/-- The words from one address up to another, that one excluded. -/
def slice (m : Memory) (start stop : Word) : Except Violation (List Word) :=
  if stop < start then .error .reversedSlice
  else .ok (m.cells.extract start.toNat stop.toNat).toList

/-- The number of cells that hold something else than zero. -/
def used (m : Memory) : Nat := m.cells.toArray.countP (· != 0)

/-! ## What a store leaves -/

@[simp]
theorem peek_write_self (m : Memory) (a value : Word) : (m.write a value).peek a = value := by
  simp [peek, write]

theorem peek_write_ne (m : Memory) {a b : Word} (value : Word) (h : a ≠ b) :
    (m.write a value).peek b = m.peek b := by
  have : a.toNat ≠ b.toNat := fun e => h (UInt16.toNat_inj.1 e)
  simp [peek, write, this]

/-- A memory is what its cells show. -/
theorem ext_peek {m m' : Memory} (h : ∀ a, m.peek a = m'.peek a) : m = m' := by
  obtain ⟨cells⟩ := m
  obtain ⟨cells'⟩ := m'
  exact congrArg mk (Vector.ext fun i hi => h (.ofFin ⟨i, hi⟩))

@[simp]
theorem peek_empty (a : Word) : empty.peek a = 0 := by
  simp [peek, empty]

/-- Reading an address that is no keyboard register is looking at it. -/
theorem read_eq_done (m : Memory) {a : Word} (hs : a ≠ statusAddress) (hd : a ≠ dataAddress) :
    m.read a = .done (m.peek a, m) := by
  simp [read, KeyboardRegister.ofAddress?, hs, hd]

end Memory

end LC3
