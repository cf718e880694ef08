import QueryAudit.Command.Invocation
import QueryAudit.Execution.Log
import QueryAudit.Report

/-!
# Running a command

A command runs on a host, which reads and writes for it.  A `report` reads its
template, then its input, then decodes the log; only when all of that succeeds
does it write, once, and nothing but the report.  The first stage that fails, the
writing included, decides what is told on the error output, and the exit code
is 1.  A command line that makes no sense ends with code 2.
-/

namespace QueryAudit.Command

/-- What a command needs of the machine.  Each access may fail, for a reason that is given
as text. -/
structure Host (m : Type → Type) where
  readFile : String → m (Except String ByteArray)
  readInput : m (Except String ByteArray)
  writeFile : String → String → m (Except String Unit)
  writeOutput : String → m (Except String Unit)
  writeErrors : String → m (Except String Unit)

/-- Why a report was not made, or made but not written. -/
inductive Failure where
  | template (error : TemplateError)
  | unreadable (input reason : String)
  | log (input : String) (error : LogError)
  | unwritable (sink : Sink) (reason : String)
  deriving DecidableEq, Repr

/-- Is the path the standard input? -/
def isStandardInput (path : String) : Bool := path == "-"

/-- What a sink is called. -/
def Sink.name : Sink → String
  | .output => "stdout"
  | .errors => "stderr"
  | .file path => path

namespace Failure

/-- What failed. -/
def headline : Failure → String
  | template error => error.message
  | unreadable input _ =>
    if isStandardInput input then "failed to read executions from stdin"
    else "failed to read executions file " ++ input
  | log input _ => "failed to decode executions from " ++ input
  | unwritable sink _ => "failed to write report to " ++ sink.name

/-- Why it failed, each line the cause of the one before. -/
def causes : Failure → List String
  | template _ => []
  | unreadable _ reason => [reason]
  | log _ error => error.chain
  | unwritable _ reason => [reason]

/-- A cause behind its label; further lines of it are set below its first. -/
def indented (label cause : String) : String :=
  let margin := '\n' :: List.replicate label.length ' '
  label ++ String.ofList (cause.toList.flatMap fun c => if c = '\n' then margin else [c])

/-- The block of causes.  Several causes are numbered. -/
def causeBlock : List String → String
  | [] => ""
  | [cause] => "\n\nCaused by:\n" ++ indented "    " cause
  | causes =>
    "\n\nCaused by:" ++ String.join (causes.zipIdx.map fun (cause, i) =>
      "\n" ++ indented ("    " ++ toString i ++ ": ") cause)

/-- What is told about a failure. -/
def message (f : Failure) : String := "Error: " ++ f.headline ++ causeBlock f.causes ++ "\n"

end Failure

/-- The reason given for input that is not text. -/
def notText : String := "stream did not contain valid UTF-8"

/-- The hints that a report may give. -/
def ReportRequest.hints (request : ReportRequest) : List String :=
  if request.noHints then [] else frameworkHints request.frameworks

/-- The text of a report, from what was read. -/
def reportText (request : ReportRequest) (template : Template) (input : Except String ByteArray) :
    Except Failure String :=
  match input with
  | .error reason => .error (.unreadable request.input reason)
  | .ok bytes =>
    match String.fromUTF8? bytes with
    | none => .error (.unreadable request.input notText)
    | some contents =>
      match Log.read contents with
      | .error error => .error (.log request.input error)
      | .ok run => .ok ((Report.build request.hints run).render template)

variable {m : Type → Type} [Monad m]

/-- Writes a text to a sink, as it stands. -/
def Host.write (host : Host m) (sink : Sink) (text : String) : m (Except String Unit) :=
  match sink with
  | .output => host.writeOutput text
  | .errors => host.writeErrors text
  | .file path => host.writeFile path text

/-- Tells of a failure.  That this may fail in its turn makes no difference. -/
def fail (host : Host m) (f : Failure) : m UInt32 := do
  let _ ← host.writeErrors f.message
  return 1

/-- Writes a report. -/
def writeReport (host : Host m) (sink : Sink) (text : String) : m UInt32 := do
  match ← host.write sink text with
  | .ok () => return 0
  | .error reason => fail host (.unwritable sink reason)

/-- Makes a report. -/
def runReport (host : Host m) (request : ReportRequest) : m UInt32 := do
  match Template.parse request.template with
  | .error error => fail host (.template error)
  | .ok template =>
    let input ← if isStandardInput request.input then host.readInput else host.readFile request.input
    match reportText request template input with
    | .error f => fail host f
    | .ok text => writeReport host request.sink text

/-- The exit code of a program that breaks off. -/
def abortCode : UInt32 := 101

/-- Prints a line.  The program breaks off if it cannot. -/
def printLine (host : Host m) (line : String) : m UInt32 := do
  match ← host.writeOutput (line ++ "\n") with
  | .ok () => return 0
  | .error reason =>
    -- the place where the program broke off is told as well, and is left out here
    let _ ← host.writeErrors ("failed printing to stdout: " ++ reason ++ "\n")
    return abortCode

/-- Runs a command; gives the exit code. -/
def run (host : Host m) (invocation : Invocation) : m UInt32 :=
  match invocation with
  | .report request => runReport host request
  | .shape statement => printLine host (Statement.shape statement)
  | .classify statement => printLine host (Statement.classify statement).name

/-- The exit code of a command line that makes no sense. -/
def usageCode : UInt32 := 2

/-- Runs a command line; gives the exit code. -/
def runWords (host : Host m) (words : List String) : m UInt32 :=
  match Invocation.parse words with
  | some invocation => run host invocation
  | none => return usageCode

end QueryAudit.Command
