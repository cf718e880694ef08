import QueryAudit.Report.Hints
import QueryAudit.Report.Template

/-!
# The command line

`report INPUT` takes options, in any order and also behind the input; `shape`
and `classify` take one statement.  A word that starts with a dash is an option,
except the dash itself; after `--` every word is an argument.
-/

namespace QueryAudit.Command

/-- Where a report goes. -/
inductive Sink where
  | output
  | errors
  | file (path : String)
  deriving DecidableEq, Repr

/-- What a `report` is asked to do. -/
structure ReportRequest where
  /-- The path of the log; a dash is the standard input. -/
  input : String
  template : String
  sink : Sink
  frameworks : List Framework
  noHints : Bool
  deriving DecidableEq, Repr

/-- A command with its arguments. -/
inductive Invocation where
  | report (request : ReportRequest)
  | shape (statement : String)
  | classify (statement : String)
  deriving DecidableEq, Repr

/-- Is the word an option? -/
def isOption (word : String) : Bool := word.toList.head? == some '-' && word != "-"

/-- The name of an option and the value behind its equals sign, if there is one. -/
def splitOption (word : String) : String × Option String :=
  let name := word.toList.takeWhile (· ≠ '=')
  match word.toList.dropWhile (· ≠ '=') with
  | [] => (word, none)
  | _ :: value => (String.ofList name, some (String.ofList value))

/-- The words of a `report`, sorted. -/
structure Draft where
  input : Option String := none
  template : Option String := none
  output : Option String := none
  errors : Bool := false
  frameworks : List Framework := []
  noHints : Bool := false
  deriving DecidableEq, Repr

namespace Draft

/-- Takes an argument; there may be one, and it is a path. -/
def takeArgument (d : Draft) (word : String) : Option Draft :=
  if d.input.isSome || word.isEmpty then none else some { d with input := some word }

/-- Takes an option without a value; it may be given once. -/
def takeFlag (d : Draft) (name : String) : Option Draft :=
  match name with
  | "--stderr" => if d.errors then none else some { d with errors := true }
  | "--no-hints" => if d.noHints then none else some { d with noHints := true }
  | _ => none

/-- Takes an option with a value; only frameworks may be given more than once. -/
def takeValue (d : Draft) (name value : String) : Option Draft :=
  match name with
  | "--format" => if d.template.isSome then none else some { d with template := some value }
  | "--output" =>
    if d.output.isSome || value.isEmpty then none else some { d with output := some value }
  | "--framework" =>
    match Framework.parse value with
    | .ok framework => some { d with frameworks := d.frameworks ++ [framework] }
    | .error _ => none
  | _ => none

/-- Does the option need a value? -/
def needsValue (name : String) : Bool :=
  name == "--format" || name == "--output" || name == "--framework"

/-- Takes the words of a `report`. -/
def takeWords (d : Draft) : List String → Option Draft
  | [] => some d
  | "--" :: words => words.foldlM takeArgument d
  | word :: words =>
    if isOption word then
      match splitOption word with
      | (name, some value) => (d.takeValue name value).bind fun d => takeWords d words
      | (name, none) =>
        if needsValue name then
          match words with
          | [] => none
          | value :: words =>
            if isOption value then none
            else (d.takeValue name value).bind fun d => takeWords d words
        else (d.takeFlag name).bind fun d => takeWords d words
    else (d.takeArgument word).bind fun d => takeWords d words

/-- The sink that was asked for; a file and the error output exclude each other. -/
def sink? (d : Draft) : Option Sink :=
  match d.output, d.errors with
  | some path, false => some (.file path)
  | some _, true => none
  | none, true => some .errors
  | none, false => some .output

/-- The request that the words make up. -/
def request? (d : Draft) : Option ReportRequest := do
  let input ← d.input
  let sink ← d.sink?
  return ⟨input, d.template.getD Template.standardText, sink, d.frameworks, d.noHints⟩

end Draft

/-- The single statement among words without options. -/
def statement? : List String → Option String
  | ["--", statement] => some statement
  | [statement] => if isOption statement then none else some statement
  | [statement, "--"] => if isOption statement then none else some statement
  | _ => none

/-- The command that a command line asks for, if it makes sense. -/
def Invocation.parse : List String → Option Invocation
  | "report" :: words => ((Draft.takeWords {} words).bind Draft.request?).map .report
  | "shape" :: words => (statement? words).map .shape
  | "classify" :: words => (statement? words).map .classify
  | _ => none

end QueryAudit.Command
