import QueryAudit.Proofs.Run.Report

/-!
# The sections of a report

The entries of a report fall into three parts: a summary, which counts and judges, the
statements, and the hints.  The summary ends with the heading of the statements, and only
the statements show in which order things were executed.
-/

namespace QueryAudit.Report

/-- What is counted and found: the entries above the longest time. -/
def findingLines (run : Run) : List String :=
  countLines run ++ selectLines (analysisOf run) ++ unboundLines run

/-- The longest time and the heading of the statements, if there are any. -/
def headingLines (run : Run) : List String :=
  if run.isEmpty then []
  else
    ["MAX TIME: " ++ toString run.maxElapsed ++ " ms",
      if run.count = 1 then "QUERY:" else "QUERIES:"]

/-- The statements, in order. -/
def statements (run : Run) : List String := run.executions.map fun e => "- " ++ e.text

/-- **The entries of a report** are its sections. -/
theorem entries_eq_sections (hints : List String) (run : Run) :
    entries hints run =
      findingLines run ++ headingLines run ++ statements run ++
        hintLines hints (analysisOf run) := by
  have hstatements : statementLines run = headingLines run ++ statements run := by
    unfold statementLines headingLines statements
    split
    · next h => rw [List.isEmpty_iff.mp h]; rfl
    · rfl
  rw [entries, hstatements, findingLines, ← List.append_assoc]

end QueryAudit.Report
