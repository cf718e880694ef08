import QueryAudit.Execution
import QueryAudit.Grouping
import QueryAudit.Statement.LeadingWildcard
import QueryAudit.Statement.Shape

/-!
# Analysis of selects

Four signs of trouble in the selects of a run: a statement that is executed
twice with the same text, one shape that is executed with different texts, a
pattern that starts with a wildcard, and values that are not bound.

A shape with different texts is how one query per row shows: the rows of a
first query, each fetched by itself.
-/

namespace QueryAudit

/-- A shape that was executed with different texts, and how often. -/
structure RepeatedShape where
  shape : String
  count : Nat
  deriving DecidableEq, Repr

/-- What the analysis of a run found. -/
structure Analysis where
  /-- Two executions have the same text. -/
  sameText : Bool
  /-- Two executions have the same shape and different texts. -/
  sameShape : Bool
  /-- Some pattern starts with a wildcard. -/
  leadingWildcard : Bool
  /-- Some execution lacks bound parameters. -/
  unbound : Bool
  /-- The shapes with different texts, in the order of their first execution. -/
  repeatedShapes : List RepeatedShape
  deriving DecidableEq, Repr

/-- Was anything found? -/
def Analysis.hasFindings (a : Analysis) : Bool :=
  a.sameText || a.sameShape || a.leadingWildcard || a.unbound

namespace Run

/-- Do the executions of a group have different texts? -/
def textsDiffer : List Execution → Bool
  | [] => false
  | first :: rest => rest.any fun e => e.text ≠ first.text

/-- The shape that the executions of a group have, if their texts differ. -/
def repeatedShape? : List Execution → Option RepeatedShape
  | [] => none
  | first :: rest =>
    if textsDiffer (first :: rest) then
      some ⟨Statement.shape first.text, (first :: rest).length⟩
    else none

/-- The shapes of a run that were executed with different texts. -/
def repeatedShapes (run : Run) : List RepeatedShape :=
  (groupsBy (fun e : Execution => Statement.shape e.text) run.executions).filterMap
    repeatedShape?

/-- Was a text executed twice? -/
def hasSameText (run : Run) : Bool :=
  (groupsBy Execution.text run.executions).any fun group => decide (2 ≤ group.length)

/-- Analyses all executions of a run, whatever their kind. -/
def analyze (run : Run) : Analysis where
  sameText := run.hasSameText
  sameShape := !run.repeatedShapes.isEmpty
  leadingWildcard := run.executions.any fun e => Statement.hasLeadingWildcard e.text
  unbound := run.hasUnbound
  repeatedShapes := run.repeatedShapes

end Run

end QueryAudit
