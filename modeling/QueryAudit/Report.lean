import QueryAudit.Analysis
import QueryAudit.Report.Template
import QueryAudit.Text.Lines

/-!
# Reports

The body of a report is a list of lines: how many statements were executed, in
all and by kind; what was found; how long the slowest took; the statements
themselves; and, if one shape was executed with different texts, the hints.
-/

namespace QueryAudit

open Statement (Kind)

/-- A report: its text, and what was found in the selects if there were any. -/
structure Report where
  body : String
  analysis : Option Analysis
  deriving DecidableEq, Repr

namespace Report

/-- The kinds that are counted, in order. -/
def countedKinds : List Kind := [.select, .insert, .update, .delete]

/-- The line that sets the hints apart. -/
def separator : String := String.ofList (List.replicate 120 '-')

/-- The line about a statement that was executed twice. -/
def sameTextLine : String := "- Same SELECT statements"

/-- The line about a pattern with a leading wildcard. -/
def leadingWildcardLine : String := "- Like with leading wildcard detected (% or _)"

/-- The line about values that were not bound. -/
def unboundLine : String := "- Query without bind parameters"

/-- A line if it is called for. -/
def lineIf (condition : Bool) (line : String) : List String :=
  if condition then [line] else []

/-- The number of executions, in all and of each kind that occurs. -/
def countLines (run : Run) : List String :=
  ("SQL EXECUTIONS: " ++ toString run.count) ::
    (countedKinds.filter fun kind => 0 < run.countOf kind).map fun kind =>
      kind.name ++ ": " ++ toString (run.countOf kind)

/-- What was found in the selects. -/
def selectLines : Option Analysis → List String
  | none => []
  | some a =>
    if a.hasFindings then
      lineIf a.sameText sameTextLine ++ lineIf a.leadingWildcard leadingWildcardLine ++
        lineIf a.unbound unboundLine
    else []

/-- One line for each other kind that has executions without bound parameters. -/
def unboundLines (run : Run) : List String :=
  [Kind.insert, .update, .delete].flatMap fun kind =>
    lineIf (0 < run.countOf kind && (run.ofKind kind).hasUnbound) unboundLine

/-- The slowest time and the statements. -/
def statementLines (run : Run) : List String :=
  if run.isEmpty then []
  else
    ["MAX TIME: " ++ toString run.maxElapsed ++ " ms",
      if run.count = 1 then "QUERY:" else "QUERIES:"] ++
      run.executions.map fun e => "- " ++ e.text

/-- The hints, if one shape was executed with different texts. -/
def hintLines (hints : List String) : Option Analysis → List String
  | none => []
  | some a => if a.sameShape then [separator, "HINTS:"] ++ hints else []

/-- The analysis of the selects of a run, if there are any. -/
def analysisOf (run : Run) : Option Analysis :=
  if 0 < run.countOf .select then some (run.ofKind .select).analyze else none

/-- The entries of a report, in order. -/
def entries (hints : List String) (run : Run) : List String :=
  countLines run ++ selectLines (analysisOf run) ++ unboundLines run ++ statementLines run ++
    hintLines hints (analysisOf run)

/-- The report on a run. -/
def build (hints : List String) (run : Run) : Report where
  body := "\n".intercalate (entries hints run)
  analysis := analysisOf run

/-- The lines of a report; an entry may take several. -/
def lines (report : Report) : List String :=
  (Text.lines report.body.toList).map String.ofList

/-- A report as a template presents it. -/
def render (template : Template) (report : Report) : String := template.apply report.body

end Report

end QueryAudit
