import QueryAudit.Sql.Tokenize
import QueryAudit.Statement.Kind

/-!
# Finding the kind of a statement

A statement is what its first word says, whatever gaps and opening parentheses
stand before it.  After `WITH` the table expressions are passed over: the kind
is that of the first verb that stands as deep in parentheses as the `WITH` did.

A text that cannot be read as tokens is judged by its first word alone, less
the parentheses in front of it.
-/

namespace QueryAudit.Statement

open Sql

/-- The kind of the verb `name`, in any case. -/
def verbKind? (name : List Char) : Option Kind := Kind.ofVerb? (lookupForm name)

/-- Is the word the keyword that opens table expressions? -/
def isWith (name : List Char) : Bool := lookupForm name == "WITH"

/-- The kind of what follows a `WITH` that stood `base` parentheses deep; `depth`
parentheses are open.  A parenthesis too many that is closed is ignored. -/
def kindAfterWith (base depth : Nat) : List Token → Kind
  | [] => .other
  | .openParen :: ts => kindAfterWith base (depth + 1) ts
  | .closeParen :: ts => kindAfterWith base (depth - 1) ts
  | .word name :: ts =>
    if depth = base then
      match verbKind? name with
      | some kind => kind
      | none => kindAfterWith base depth ts
    else kindAfterWith base depth ts
  | _ :: ts => kindAfterWith base depth ts

/-- The kind of a statement whose first word is still to come. -/
def kindOfTokens (depth : Nat) : List Token → Kind
  | [] => .other
  | .openParen :: ts => kindOfTokens (depth + 1) ts
  | .closeParen :: ts => kindOfTokens (depth - 1) ts
  | .word name :: ts =>
    if isWith name then kindAfterWith depth depth ts
    else (verbKind? name).getD .other
  | t :: ts => if t.isGap then kindOfTokens depth ts else .other

/-- The kind that the first word of a text names, less its opening parentheses. -/
def kindOfFirstWord (s : List Char) : Kind :=
  match Text.words s with
  | [] => .other
  | word :: _ => (Kind.ofName? (word.dropWhile (· == '('))).getD .other

/-- The kind of a statement, by its characters. -/
def kindOfChars (s : List Char) : Kind :=
  match tokenize s with
  | some tokens => kindOfTokens 0 tokens
  | none => kindOfFirstWord s

/-- The kind of a statement. -/
def classify (statement : String) : Kind := kindOfChars statement.toList

end QueryAudit.Statement
