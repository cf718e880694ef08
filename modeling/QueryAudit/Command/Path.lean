/-!
# Paths

A path is read as the names between its slashes.  A dot stands for the directory
that it is looked up in and two dots for the one that holds it, so a path is
followed one name at a time and never shortened beforehand: what lies before two
dots must be there.

A slash at the end asks for a directory.  Whoever reads goes on into it, as if a
dot stood behind the slash; whoever writes is turned away before the last name
is looked up, as if a dot stood in its place.
-/

namespace QueryAudit.Command

/-- The names along the way to a file or directory. -/
abbrev Path := List String

namespace Path

/-- The names between the slashes of a path, with its dots. -/
def names (text : String) : Path :=
  ((text.toList.splitOn '/').map String.ofList).filter (· ≠ "")

/-- The names that lead to a file, without the dots that lead nowhere. -/
def parse (text : String) : Path := (names text).filter (· ≠ ".")

/-- Does a path end in a slash? -/
def endsInSlash (text : String) : Bool := text.toList.getLast? == some '/'

/-- Does a path start in the directory above all others? -/
def isAbsolute (text : String) : Bool := text.toList.head? == some '/'

/-- The names that reading follows. -/
def toRead (text : String) : Path :=
  if endsInSlash text then names text ++ ["."] else names text

/-- The names that writing follows. -/
def toWrite (text : String) : Path :=
  if endsInSlash text then (names text).dropLast ++ ["."] else names text

/-- The bytes that a name may have. -/
def nameLimit : Nat := 255

/-- The bytes that a whole path may have. -/
def lengthLimit : Nat := 4095

end Path

end QueryAudit.Command
