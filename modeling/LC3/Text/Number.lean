/-!
# Numbers in text

Words and bytes are shown in the notation that suits them: addresses in
hexadecimal with large digits, operation codes and register fields in binary.
A number is filled up with zeros to a least count of digits, and takes more
where it needs them. Numbers that a user gives are in decimal.
-/

namespace LC3.Text

/-- The digits of a number in a base up to sixteen, at least `width` of
them. -/
def digits (base width n : Nat) : List Char :=
  let ds := Nat.toDigits base n
  List.replicate (width - ds.length) '0' ++ ds

/-- A number in hexadecimal, with large digits and a mark before them. -/
def hex (width n : Nat) : String :=
  "0x" ++ String.ofList ((digits 16 width n).map Char.toUpper)

/-- A number in binary. -/
def binary (width n : Nat) : String := String.ofList (digits 2 width n)

/-- A number in binary, with a mark before its digits. -/
def markedBinary (width n : Nat) : String := "0b" ++ binary width n

/-- A word as an address, with four digits. -/
def address (w : UInt16) : String := hex 4 w.toNat

/-- **Reads a count:** decimal digits, perhaps with a plus sign before them,
for a number of 64 bits. -/
def count? (text : List Char) : Option UInt64 :=
  let ds := match text with
    | '+' :: ds => ds
    | ds => ds
  if ds.isEmpty || !ds.all Char.isDigit then none
  else
    let n := ds.foldl (fun n d => n * 10 + (d.toNat - '0'.toNat)) 0
    if n < UInt64.size then some (UInt64.ofNat n) else none

/-- A number without the sign before it, if there is one. -/
def withoutSign : List Char → List Char
  | '+' :: text | '-' :: text => text
  | text => text

/-- **Whether a text is a decimal number:** digits with a point among them or
beside them and with an exponent, perhaps, or the word for a number that is
infinite or undefined. -/
def isDecimal (text : List Char) : Bool :=
  let text := withoutSign text
  let (whole, rest) := text.span Char.isDigit
  let (fraction, rest) := match rest with
    | '.' :: rest => rest.span Char.isDigit
    | rest => ([], rest)
  let exponent := match rest with
    | [] => true
    | mark :: power =>
      let ds := withoutSign power
      (mark == 'e' || mark == 'E') && !ds.isEmpty && ds.all Char.isDigit
  ["inf", "infinity", "nan"].contains (String.ofList (text.map Char.toLower))
    || !(whole.isEmpty && fraction.isEmpty) && exponent

end LC3.Text
