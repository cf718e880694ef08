import QueryAudit.Command.Run

/-!
# The program

Runs a command line on the machine that the program runs on.
-/

namespace QueryAudit.Command

/-- The text that tells of a failed reading or writing. -/
def ioReason (e : IO.Error) : String :=
  match e with
  | .alreadyExists _ code detail | .inappropriateType _ code detail | .interrupted _ code detail
  | .invalidArgument _ code detail | .noFileOrDirectory _ code detail
  | .noSuchThing _ code detail | .permissionDenied _ code detail
  | .resourceExhausted _ code detail | .hardwareFault code detail | .illegalOperation code detail
  | .otherError code detail | .protocolError code detail | .resourceBusy code detail
  | .resourceVanished code detail | .timeExpired code detail
  | .unsatisfiedConstraints code detail | .unsupportedOperation code detail =>
    detail ++ " (os error " ++ toString code ++ ")"
  | .unexpectedEof | .userError _ => toString e

/-- What an action gives, or why it failed. -/
def attempt {α : Type} (action : IO α) : IO (Except String α) := do
  try return .ok (← action)
  catch e => return .error (ioReason e)

/-- Writes a text to a stream, to its end. -/
def writeAll (stream : IO.FS.Stream) (text : String) : IO Unit := do
  stream.putStr text
  stream.flush

/-- The machine itself. -/
def machine : Host IO where
  readFile path := attempt do (← IO.FS.Handle.mk path .read).readBinToEnd
  readInput := attempt do (← IO.getStdin).readBinToEnd
  writeFile path text := attempt do writeAll (.ofHandle (← IO.FS.Handle.mk path .write)) text
  writeOutput text := attempt do writeAll (← IO.getStdout) text
  writeErrors text := attempt do writeAll (← IO.getStderr) text

/-- How the program is called. -/
def usage : String :=
  "usage: report INPUT [--format TEMPLATE] [--output PATH | --stderr] " ++
  "[--framework NAME]... [--no-hints]\n" ++
  "       shape STATEMENT\n" ++
  "       classify STATEMENT\n"

end QueryAudit.Command

/-- Runs the command line. -/
def main (words : List String) : IO UInt32 := do
  let code ← QueryAudit.Command.runWords QueryAudit.Command.machine words
  if code = QueryAudit.Command.usageCode then IO.eprint QueryAudit.Command.usage
  return code
