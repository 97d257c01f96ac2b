/-!
# Places in a text

The places in a text are counted in bytes, of which a character takes one to
four. A slice goes from one place to another; there is none if one of them is
inside of a character.
-/

namespace LC3.Text

/-- How many bytes a text takes. -/
def size : List Char → Nat
  | [] => 0
  | c :: text => c.utf8Size + size text

/-- Divides a text after a count of bytes. -/
def divide? : Nat → List Char → Option (List Char × List Char)
  | 0, text => some ([], text)
  | _ + 1, [] => none
  | count + 1, c :: text =>
    if c.utf8Size ≤ count + 1 then
      (divide? (count + 1 - c.utf8Size) text).map fun (left, right) => (c :: left, right)
    else none

/-- **A slice of a text**, from a place on and of a size. -/
def slice? (start count : Nat) (text : List Char) : Option (List Char) := do
  let (_, text) ← divide? start text
  let (slice, _) ← divide? count text
  return slice

end LC3.Text
