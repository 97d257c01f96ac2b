import LC3.Report
import LC3.Text.Pattern

/-!
# What a directive is restricted to

Brackets restrict a directive of a log filter. They hold the name of a span
of the log, or in braces the name of a fact that an event must have, perhaps
with an equals sign and a value for it, which is a number or a pattern.

The program opens no spans, and a value is asked of spans only. So among
these a directive with the mere name of a fact is the only one that speaks of
events.
-/

namespace LC3.LogFilter

/-- **What a directive is restricted to.** -/
inductive Scope where
  /-- Every event. -/
  | everything
  /-- The events that have a fact of some name. -/
  | fact (name : String)
  /-- What happens in a span of the log. -/
  | span
  deriving DecidableEq, Repr

namespace Scope

/-- How specific a scope is about an event, if it speaks of it. Of two facts,
the later in the alphabet is the more specific one. -/
def weight? (event : Event) : Scope → Option Nat
  | everything => some 0
  | fact name => (event.facts.idxOf? name).map (· + 1)
  | span => none

end Scope

/-- **What stands in brackets**, before its words are understood. -/
structure Brackets where
  /-- The name of a span, which can be empty. -/
  span : List Char
  /-- What stands in braces, if there are any. -/
  asked : Option (List Char)
  deriving DecidableEq, Repr

namespace Brackets

/-- Reads brackets after the first of them, and leaves what follows. -/
def read? (text : List Char) : Option (Brackets × List Char) :=
  match text.span fun c => c != ']' && c != '\x7b' with
  | (span, ']' :: rest) => some (⟨span, none⟩, rest)
  | (span, '\x7b' :: rest) =>
    match rest.span (· != '\x7d') with
    | ([], _) => none
    | (asked, '\x7d' :: ']' :: rest) => some (⟨span, some asked⟩, rest)
    | _ => none
  | _ => none

/-- **What brackets restrict a directive to.** A value is a number or a
pattern; what stands after a second equals sign is not part of it. -/
def scope? (b : Brackets) : Option Scope :=
  match b.asked.map (List.span (· != '=')) with
  | none => some .span
  | some (name, []) => some (if b.span.isEmpty then .fact (String.ofList name) else .span)
  | some (_, _ :: rest) =>
    let value := rest.takeWhile (· != '=')
    if Text.isDecimal value || Text.isPattern value then some .span else none

end Brackets

end LC3.LogFilter
