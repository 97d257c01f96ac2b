/-!
# Requests that are refused outright

The parts of the machine take narrow arguments: a field of a word has its
ends in order and inside the word, a register number is at most seven, a
slice of memory runs upwards. An argument outside of what a part takes is a
**violation**: a mistake of whoever asks, never a fault of the program that
runs. Keeping violations apart from the faults of a run makes it a statement
about the machine that no program can bring one about.
-/

namespace LC3

/-- **What a part of the machine refuses to do.** -/
inductive Violation where
  /-- A field whose high end lies below its low end. -/
  | reversedField (low high : UInt8)
  /-- A bit index past the end of a word. -/
  | bitIndex (index : UInt8)
  /-- A field too wide for a byte. -/
  | wideField (low high : UInt8)
  /-- Sign extension of a field without bits. -/
  | emptyField
  /-- A register number above seven, to be read. -/
  | registerRead
  /-- A register number above seven, to be written. -/
  | registerWrite
  /-- A count that leaves the range of its type. -/
  | arithmetic
  /-- A slice of memory that ends before it starts. -/
  | reversedSlice
  deriving DecidableEq, Repr

namespace Violation

/-- The text of a violation. A count out of range and a slice of the wrong
direction have none. -/
def message? : Violation → Option String
  | reversedField low high =>
    some ("wrong direction of from: " ++ toString low.toNat ++ " and to: "
      ++ toString high.toNat)
  | bitIndex index =>
    some ("index: " ++ toString index.toNat ++ " to u16 is greater than maximum value 15")
  | wideField low high =>
    some ("bit range " ++ toString low.toNat ++ "..=" ++ toString high.toNat
      ++ " does not fit into u8")
  | emptyField => some "sign extension of an empty bit field"
  | registerRead => some "Invalid general purpose register get"
  | registerWrite => some "Invalid general purpose register set"
  | arithmetic => none
  | reversedSlice => none

end Violation

end LC3
