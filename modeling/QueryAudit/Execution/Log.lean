import QueryAudit.Execution
import QueryAudit.Execution.Entry
import QueryAudit.Text.Lines

/-!
# Execution logs

A log has one entry a line.  Blank lines and lines that start with `#` are
skipped, but they count when a fault names its line.  The first faulty line
decides: nothing after it is read.
-/

namespace QueryAudit

open Statement (Kind UnknownKind)

/-- What is wrong with a log. -/
inductive LogError where
  /-- A line, counted from one, is no entry. -/
  | faulty (line : Nat) (fault : Json.Fault)
  /-- An entry names a kind that does not exist. -/
  | unknownKind (error : UnknownKind)
  deriving DecidableEq, Repr

/-- The message about a log. -/
def LogError.message : LogError → String
  | faulty line fault =>
    "failed to decode execution on line " ++ toString line ++ ": " ++ fault.message
  | unknownKind error => error.message

/-- The messages about a log, each the cause of the one before. -/
def LogError.chain : LogError → List String
  | faulty line fault => [(faulty line fault).message, fault.message]
  | unknownKind error => [error.message]

namespace Log

/-- The execution that an entry describes. -/
def execution (entry : Entry) : Except UnknownKind Execution :=
  match entry.kindName with
  | none => .ok (Execution.classified entry.text entry.bound entry.elapsed)
  | some name => (Kind.parse name).map fun kind => ⟨entry.text, kind, entry.bound, entry.elapsed⟩

/-- Is the line, without blanks around it, passed over? -/
def isSkipped (line : List Char) : Bool := line.isEmpty || line.head? == some '#'

/-- The execution on a line, or nothing if the line is skipped. -/
def readLine (number : Nat) (line : List Char) : Except LogError (Option Execution) :=
  let trimmed := Text.trim line
  if isSkipped trimmed then .ok none
  else
    match Entry.decode trimmed with
    | .error fault => .error (.faulty number fault)
    | .ok entry =>
      match execution entry with
      | .error error => .error (.unknownKind error)
      | .ok e => .ok (some e)

/-- The executions on lines of which the first has the given number. -/
def readLines (number : Nat) : List (List Char) → Except LogError (List Execution)
  | [] => .ok []
  | line :: rest =>
    match readLine number line with
    | .error error => .error error
    | .ok read => (readLines (number + 1) rest).map (read.toList ++ ·)

/-- The run that a log describes. -/
def read (contents : String) : Except LogError Run :=
  (readLines 1 (Text.lines contents.toList)).map Run.mk

end Log

end QueryAudit
