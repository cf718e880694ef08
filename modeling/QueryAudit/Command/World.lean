import QueryAudit.Command.Path
import QueryAudit.Command.Run

/-!
# A closed world

A machine that is nothing but its streams and a tree of files, on which commands
can be run and reasoned about.  Files and directories are named by the names
along the way from the root.  The directories are those that lead to some file,
those that are listed as such, and the one that commands run in, with those that
lead to it.

The machine may refuse an access, to a stream or to a file, and gives a reason.
What is refused has no effect.
-/

namespace QueryAudit.Command

/-- What may be refused. -/
inductive Access where
  | input
  | output
  | errors
  | searching (directory : Path)
  | reading (path : Path)
  | writing (path : Path)
  deriving DecidableEq, Repr

/-- The streams and files of a machine. -/
structure World where
  files : List (Path × ByteArray) := []
  /-- The directories that lead to no file. -/
  directories : List Path := []
  /-- The directory that commands run in. -/
  workingDirectory : Path := []
  input : ByteArray := ByteArray.empty
  output : String := ""
  errors : String := ""
  /-- The reason why an access is refused, if it is. -/
  refuses : Access → Option String := fun _ => none

/-- What a path leads to. -/
inductive Target where
  | directory (path : Path)
  | file (path : Path) (contents : ByteArray)
  /-- Nothing yet, but a file can be made there. -/
  | free (path : Path)

namespace World

/-- The reason given when a path leads nowhere. -/
def missing : String := "No such file or directory (os error 2)"

/-- The reason given when a path goes on behind a file. -/
def notDirectory : String := "Not a directory (os error 20)"

/-- The reason given when a path is a directory. -/
def isDirectory : String := "Is a directory (os error 21)"

/-- The reason given when a path or a name in it is too long. -/
def tooLong : String := "File name too long (os error 36)"

/-- What an access gives that may be refused. -/
def grant {α : Type} (w : World) (access : Access) (result : α) : Except String α :=
  match w.refuses access with
  | none => .ok result
  | some reason => .error reason

/-! ## Paths -/

/-- The contents of a file. -/
def file? (w : World) (path : Path) : Option ByteArray := w.files.lookup path

/-- Is there a directory with a path? -/
def hasDirectory (w : World) (path : Path) : Bool :=
  path.isPrefixOf w.workingDirectory || w.directories.any path.isPrefixOf ||
    w.files.any fun file => path.isPrefixOf file.1 && path != file.1

/-- What stands at a path. -/
def standing (w : World) (path : Path) : Target :=
  match w.file? path with
  | some contents => .file path contents
  | none => if w.hasDirectory path then .directory path else .free path

/-- The directory that a path starts in. -/
def start (w : World) (text : String) : Path :=
  if Path.isAbsolute text then [] else w.workingDirectory

/-- What a name leads to from a directory that may be searched.  The root is held by
itself. -/
def lookup (w : World) (directory : Path) (name : String) : Except String Target :=
  if name = "." then .ok (.directory directory)
  else if name = ".." then .ok (.directory directory.dropLast)
  else if Path.nameLimit < name.utf8ByteSize then .error tooLong
  else .ok (w.standing (directory ++ [name]))

/-- What a name leads to from a directory. -/
def find (w : World) (directory : Path) (name : String) : Except String Target :=
  (w.grant (.searching directory) ()).bind fun _ => w.lookup directory name

/-- The directory that a name leads to from another. -/
def enter (w : World) (directory : Path) (name : String) : Except String Path :=
  match w.find directory name with
  | .error reason => .error reason
  | .ok (.directory next) => .ok next
  | .ok (.file _ _) => .error notDirectory
  | .ok (.free _) => .error missing

/-- What a path leads to by the names that are followed for it. -/
def follow (w : World) (text : String) (names : Path) : Except String Target :=
  if Path.lengthLimit < text.utf8ByteSize then .error tooLong
  else
    match names.getLast? with
    | none => .error missing
    | some name => (names.dropLast.foldlM w.enter (w.start text)).bind fun directory =>
      w.find directory name

/-! ## Reading and writing -/

/-- Reads a file. -/
def read (w : World) (text : String) : Except String ByteArray :=
  match w.follow text (Path.toRead text) with
  | .error reason => .error reason
  | .ok (.directory _) => .error isDirectory
  | .ok (.file path contents) => w.grant (.reading path) contents
  | .ok (.free _) => .error missing

/-- The file that is written at a path, or why there is none. -/
def target? (w : World) (text : String) : Except String Path :=
  match w.follow text (Path.toWrite text) with
  | .error reason => .error reason
  | .ok (.directory _) => .error isDirectory
  | .ok (.file path _) | .ok (.free path) => w.grant (.writing path) path

/-- The world with a file in it, in place of the one with its path if there is one. -/
def put (w : World) (path : Path) (contents : ByteArray) : World :=
  { w with files := (path, contents) :: w.files.filter (·.1 ≠ path) }

/-- The world after a text was written to a sink, or why it cannot be. -/
def write (w : World) (sink : Sink) (text : String) : Except String World :=
  match sink with
  | .output => w.grant .output { w with output := w.output ++ text }
  | .errors => w.grant .errors { w with errors := w.errors ++ text }
  | .file path => (w.target? path).map fun target => w.put target text.toUTF8

/-- Writes a text to a sink.  If that cannot be done, nothing is. -/
def update (sink : Sink) (text : String) : StateM World (Except String Unit) := do
  match (← get).write sink text with
  | .ok w =>
    set w
    return .ok ()
  | .error reason => return .error reason

/-- The world as the host of a command. -/
def host : Host (StateM World) where
  readFile text := do return (← get).read text
  readInput := do
    let w ← get
    return w.grant .input w.input
  writeFile path := update (.file path)
  writeOutput := update .output
  writeErrors := update .errors

/-- Runs a command line in a world; gives the exit code and the world afterwards. -/
def run (w : World) (words : List String) : UInt32 × World := runWords host words w

end World

end QueryAudit.Command
