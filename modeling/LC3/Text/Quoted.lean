import LC3.Text.Unprintable

/-!
# Quoted text

A text within a description stands between quotation marks, so that it can
be told where it ends. The quotation mark and the backslash are escaped, the
usual control characters have a letter, and any other character without a
face of its own is given by the number of its code point.
-/

namespace LC3.Text

/-- A character as it stands between quotation marks. -/
def escape (c : Char) : List Char :=
  if c = '\x22' then ['\\', '\x22']
  else if c = '\\' then ['\\', '\\']
  else if c = '\n' then ['\\', 'n']
  else if c = '\t' then ['\\', 't']
  else if c = '\r' then ['\\', 'r']
  else if c = '\x00' then ['\\', '0']
  else if isUnprintable c then
    ['\\', 'u', '\x7b'] ++ Nat.toDigits 16 c.toNat ++ ['\x7d']
  else [c]

/-- **A text between quotation marks.** -/
def quote (s : String) : String :=
  String.ofList ('\x22' :: (s.toList.flatMap escape ++ ['\x22']))

end LC3.Text
