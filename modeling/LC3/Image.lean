import LC3.Machine

/-!
# Program images

A program is stored as bytes: words with the high byte first, the first of
them the origin. Reading an image fails only on an odd byte at its end; what
the words mean is up to the machine that loads them.
-/

namespace LC3

namespace Image

/-- The words in bytes, after those that were read before, the last of them
first. An odd byte at the end is dropped. -/
def pairUp (before : List Word) : List UInt8 → List Word
  | high :: low :: rest => pairUp (Word.ofBytes high low :: before) rest
  | _ => before.reverse

/-- **The words of an image.** -/
def words (image : List UInt8) : Except LoadError (List Word) :=
  if image.length % 2 = 0 then .ok (pairUp [] image) else .error (.oddBytes image.length)

/-- **The image of a program**, its origin first. -/
def encode (program : List Word) : List UInt8 :=
  program.flatMap fun w => [w.highByte, w.lowByte]

end Image

namespace Machine

/-- Loads an image. -/
def loadImage (m : Machine) (image : List UInt8) : Dialogue (Except LoadError Unit × Machine) :=
  match Image.words image with
  | .error e => return (.error e, m)
  | .ok program => m.load program

end Machine

end LC3
