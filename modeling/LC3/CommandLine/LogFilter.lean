import LC3.CommandLine.LogFilter.Directive

/-!
# How much is logged

The detail of the log follows from how often more of it was asked for on the
command line. A **filter** in the environment overrules it: directives with
commas between them. Of the directives that speak of an event the most
specific decides: the one with the longest name of a part, then one that asks
for a fact, and the last of those. Where none speaks of it, the event is not
logged. A filter without a directive therefore shows nothing, and one with a
directive that cannot be understood is ignored.
-/

namespace LC3

/-- **What is logged.** -/
structure LogFilter where
  /-- The directives, in the order in which they are written. -/
  directives : List LogFilter.Directive
  deriving DecidableEq, Repr

namespace LogFilter

/-- The filter of a verbosity. -/
def ofVerbosity (verbosity : Nat) : LogFilter :=
  let least := match verbosity with
    | 0 => Level.warn
    | 1 => .info
    | 2 => .debug
    | _ => .trace
  ⟨[⟨"", .everything, some least⟩]⟩

/-- Understands a filter. -/
def read? (text : String) : Option LogFilter :=
  (((text.splitOn ",").filter (· ≠ "")).mapM Directive.read?).map LogFilter.mk

/-- **The filter of the log**, by the verbosity and the filter in the
environment. -/
def choose (verbosity : Nat) (environment : Option String) : LogFilter :=
  (environment.bind read?).getD (ofVerbosity verbosity)

/-- The more specific one of what was found and a later directive, with its
weight; the later one where the weights are equal. -/
def prefer (event : Event) (found : Option ((Nat × Nat) × Detail)) (d : Directive) :
    Option ((Nat × Nat) × Detail) :=
  match d.weight? event, found with
  | none, _ => found
  | some weight, none => some (weight, d.detail)
  | some weight, some (best, _) =>
    if weight.1 < best.1 ∨ weight.1 = best.1 ∧ weight.2 < best.2 then found
    else some (weight, d.detail)

/-- The detail that a filter sets for an event. -/
def detail (filter : LogFilter) (event : Event) : Detail :=
  (filter.directives.foldl (prefer event) none).bind (·.2)

/-- **Whether a filter leaves an event in the log.** -/
def admits (filter : LogFilter) (event : Event) : Bool :=
  (filter.detail event).any event.reaches

end LogFilter

end LC3
