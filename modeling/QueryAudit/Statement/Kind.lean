import QueryAudit.Text.Blank
import QueryAudit.Text.UpperCase

/-!
# Kinds of statement

Statements are counted by kind: the four verbs that read or change rows, and
everything else.  A kind is named by its verb, in any case of letters and with
blanks around it.
-/

namespace QueryAudit.Statement

/-- What a statement does. -/
inductive Kind where
  | select
  | insert
  | update
  | delete
  | other
  deriving DecidableEq, Repr, Inhabited

namespace Kind

/-- The name under which a kind is reported. -/
def name : Kind → String
  | select => "SELECT"
  | insert => "INSERT"
  | update => "UPDATE"
  | delete => "DELETE"
  | other => "OTHER"

/-- All kinds, in the order in which they are reported. -/
def all : List Kind := [select, insert, update, delete, other]

/-- The kind with a name; blanks around the name and its case do not matter. -/
def ofName? (s : List Char) : Option Kind :=
  all.find? fun kind => Text.sameIgnoringCase kind.name.toList (Text.trim s)

/-- The kind that a keyword starts, given in upper case. -/
def ofVerb? (verb : String) : Option Kind :=
  if verb = "SELECT" then some select
  else if verb = "INSERT" then some insert
  else if verb = "UPDATE" then some update
  else if verb = "DELETE" then some delete
  else none

/-- No other kinds exist. -/
theorem mem_all (kind : Kind) : kind ∈ all := by
  cases kind <;> decide

end Kind

/-- A name that is no kind's name. -/
structure UnknownKind where
  name : String
  deriving DecidableEq, Repr

/-- The message about an unknown kind. -/
def UnknownKind.message (e : UnknownKind) : String := "unknown query type: " ++ e.name

/-- The kind with a name. -/
def Kind.parse (name : String) : Except UnknownKind Kind :=
  match ofName? name.toList with
  | some kind => .ok kind
  | none => .error ⟨name⟩

end QueryAudit.Statement
