import LC3.Console

/-!
# A console that returns the carriage

A terminal in raw mode takes a line feed for what it is, so the next line
would start below the end of the last one. This console stands before
another one and writes a carriage return with every line feed. A message is
handed on in **pieces**, line by line, each line end a piece of its own; what
was handed on before a failure stays written.
-/

namespace LC3

/-- **A console before another one** that puts a carriage return before each
line feed. -/
structure LineFeed (ω : Type) where
  /-- The console behind. -/
  inner : ω
  deriving DecidableEq, Repr

namespace LineFeed

variable {ω : Type}

/-- The line end of a terminal in raw mode. -/
def lineEnd : List UInt8 := [0x0D, 0x0A]

/-- The pieces of a message, after the part of a line that came before, its
last byte first. Lines without bytes and a last line without an end give no
empty piece at the end. -/
def pieces (line : List UInt8) : List UInt8 → List (List UInt8)
  | [] => if line.isEmpty then [] else [line.reverse]
  | b :: rest =>
    if b = 0x0A then line.reverse :: lineEnd :: pieces [] rest else pieces (b :: line) rest

/-- Writes pieces until one fails. A piece without bytes is not written. -/
def writePieces [Console ω] (c : ω) : List (List UInt8) → Except DeviceError Unit × ω
  | [] => (.ok (), c)
  | piece :: rest =>
    if piece.isEmpty then writePieces c rest
    else
      match Console.write c piece with
      | (.ok (), c) => writePieces c rest
      | failed => failed

/-- Writes a message piece by piece. -/
def write [Console ω] (c : LineFeed ω) (message : List UInt8) :
    Except DeviceError Unit × LineFeed ω :=
  let (answer, inner) := writePieces c.inner (pieces [] message)
  (answer, ⟨inner⟩)

/-- Writes a message and tells how many of its bytes were taken: all of them,
unless the console behind fails. -/
def writeCounted [Console ω] (c : LineFeed ω) (message : List UInt8) :
    Except DeviceError Nat × LineFeed ω :=
  let (answer, c) := c.write message
  (answer.map fun () => message.length, c)

instance [Console ω] : Console (LineFeed ω) where
  write := write
  flush c :=
    let (answer, inner) := Console.flush c.inner
    (answer, ⟨inner⟩)

/-- **What reaches the console behind:** the message with a carriage return put
before every line feed. This says what the pieces are to come to, so it names
the two bytes of a line end by itself. -/
def expand (message : List UInt8) : List UInt8 :=
  message.flatMap fun b => if b = 0x0A then [0x0D, 0x0A] else [b]

/-- **The pieces of a message are the message expanded**, with the part of a line
that came before in front. -/
theorem flatten_pieces (line message : List UInt8) :
    (pieces line message).flatten = line.reverse ++ expand message := by
  induction message generalizing line with
  | nil =>
    rw [pieces]
    split
    · simp_all [expand]
    · simp [expand]
  | cons b rest ih => by_cases h : b = 0x0A <;> simp [pieces, expand, lineEnd, h, ih]

end LineFeed

end LC3
