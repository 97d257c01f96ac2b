import LC3.Word

/-!
# The register file

Eight general registers, the program counter, and the condition flag that
remembers the sign of the last result. The flag is one of three values and
never a mixture; its bit is its place in the mask of a branch.

Writing a general register and setting the flag are separate acts, since a
character that is read from the keyboard goes into a register and leaves the
flag alone. `Registers.assign` does both, for the instructions that compute
or load a value.
-/

namespace LC3

/-- The address at which every program starts. -/
def programStart : Word := 0x3000

/-- **The sign of the last result.** -/
inductive Flag where
  | positive
  | zero
  | negative
  deriving DecidableEq, Repr

namespace Flag

/-- The bit of a flag in the mask of a branch. -/
def bits : Flag → Word
  | positive => 1
  | zero => 2
  | negative => 4

/-- The sign of a word in two's complement. -/
def ofWord (w : Word) : Flag :=
  if w = 0 then zero else if w >>> 15 = 1 then negative else positive

/-- The name a flag is shown by. -/
def name : Flag → String
  | positive => "Pos"
  | zero => "Zero"
  | negative => "Neg"

end Flag

/-- **The registers of the machine.** -/
structure Registers where
  /-- R0 to R7. -/
  general : Vector Word 8
  /-- The address of the instruction to be fetched next. -/
  pc : Word
  /-- The sign of the last result. -/
  flag : Flag
  deriving DecidableEq

namespace Registers

/-- R0, through which a trap takes and gives characters. -/
abbrev r0 : Fin 8 := 0

/-- R7, which a jump to a subroutine leaves the way back in. -/
abbrev r7 : Fin 8 := 7

/-- The registers before a program runs. -/
def initial : Registers := ⟨Vector.replicate 8 0, programStart, .zero⟩

/-- The value of a general register. -/
def get (r : Registers) (i : Fin 8) : Word := r.general[i]

/-- Writes a general register and leaves the flag alone. -/
def set (r : Registers) (i : Fin 8) (value : Word) : Registers :=
  { r with general := r.general.set i.val value i.isLt }

/-- **Writes a result:** the register takes the value and the flag its
sign. -/
def assign (r : Registers) (i : Fin 8) (value : Word) : Registers :=
  { r.set i value with flag := .ofWord value }

/-- Moves the program counter to the next word, from the last address to
the first. -/
def advance (r : Registers) : Registers := { r with pc := r.pc + 1 }

/-- Moves the program counter to an address. -/
def jump (r : Registers) (target : Word) : Registers := { r with pc := target }

/-- The general register that a number names, or the given refusal if the
number is above seven. -/
def named (refusal : Violation) (number : UInt8) : Except Violation (Fin 8) :=
  if h : number.toNat < 8 then .ok ⟨number.toNat, h⟩ else .error refusal

/-- Reads the general register of a given number. -/
def read (r : Registers) (number : UInt8) : Except Violation Word :=
  (named .registerRead number).map r.get

/-- Writes the general register of a given number. -/
def write (r : Registers) (number : UInt8) (value : Word) : Except Violation Registers :=
  (named .registerWrite number).map (r.set · value)

/-- Sets the flag to the sign of the general register of a given number. -/
def classify (r : Registers) (number : UInt8) : Except Violation Registers :=
  (r.read number).map fun value => { r with flag := .ofWord value }

/-! ## What each write leaves -/

@[simp]
theorem get_set_self (r : Registers) (i : Fin 8) (value : Word) :
    (r.set i value).get i = value := by
  simp [get, set]

theorem get_set_ne (r : Registers) {i j : Fin 8} (value : Word) (h : i ≠ j) :
    (r.set i value).get j = r.get j := by
  simp [get, set, Fin.val_ne_of_ne h]

@[simp]
theorem flag_set (r : Registers) (i : Fin 8) (value : Word) :
    (r.set i value).flag = r.flag :=
  rfl

@[simp]
theorem flag_assign (r : Registers) (i : Fin 8) (value : Word) :
    (r.assign i value).flag = .ofWord value :=
  rfl

@[simp]
theorem get_assign_self (r : Registers) (i : Fin 8) (value : Word) :
    (r.assign i value).get i = value :=
  get_set_self r i value

theorem get_assign_ne (r : Registers) {i j : Fin 8} (value : Word) (h : i ≠ j) :
    (r.assign i value).get j = r.get j :=
  get_set_ne r value h

end Registers

end LC3
