import LC3.CommandLine.LogFilter.Phrase

/-!
# Directives of a log filter

A directive is a detail, or the name of a part of the program and an equals
sign with a detail for that part, or such a name alone, for all detail. A
detail is a level or its rank, and `off` or zero is no detail at all. The
name of a part is also the head of the names of what the part consists of,
so that a directive speaks of all parts whose names begin with its own.
Brackets behind the name, or in its place, restrict the directive.
-/

namespace LC3.LogFilter

/-- A detail: all levels up to one, or none at all. -/
abbrev Detail := Option Level

/-- The detail that a word names, by its rank or in letters of either
size. -/
def detail? (word : List Char) : Option Detail :=
  match Text.count? word with
  | some rank =>
    if rank = 0 then some none else (Level.all.find? (·.rank = rank.toNat)).map some
  | none =>
    let name := String.ofList (word.map Char.toUpper)
    if name = "OFF" then some none else (Level.all.find? (·.name = name)).map some

/-- **What one directive asks for.** -/
structure Directive where
  /-- What the name of a part must begin with. -/
  part : String
  /-- What the directive is restricted to. -/
  scope : Scope
  /-- The detail of what the directive speaks of. -/
  detail : Detail
  deriving DecidableEq, Repr

namespace Directive

/-- How specific a directive is about an event, if it speaks of it: first by
the length of its name of a part, then by its scope. -/
def weight? (d : Directive) (event : Event) : Option (Nat × Nat) :=
  if d.part.isPrefixOf event.part.name then
    (d.scope.weight? event).map fun weight => (d.part.length, weight)
  else none

/-- What a phrase asks for. A lone word is a detail if it can be one. -/
def ofPhrase? (p : Phrase) : Option Directive := do
  let part := String.ofList p.head
  let scope ← p.scope?
  match p.detail with
  | some [] => some ⟨part, scope, some .trace⟩
  | some word => (detail? word).map fun detail => ⟨part, scope, detail⟩
  | none =>
    match scope, detail? p.head with
    | .everything, some detail => some ⟨"", scope, detail⟩
    | _, _ => some ⟨part, scope, some .trace⟩

/-- **Understands a directive.** -/
def read? (text : String) : Option Directive := do
  let (blanks, written) := text.toList.span Text.isBlank
  let phrase ← Phrase.read? written
  ofPhrase? (← if blanks.isEmpty then some phrase else phrase.indent? blanks)

end Directive

end LC3.LogFilter
