import QueryAudit.Text.Blank
import QueryAudit.Text.WordChar

/-!
# Patterns that start with a wildcard

A `LIKE` whose pattern starts with `%` or `_` cannot use an index.  The search
is on the plain text: the word `like` in any case, not preceded by a word
character, then blanks, a single or double quote, and a wildcard.
-/

namespace QueryAudit.Statement

open Text

/-- Is the character a form of the letter?  The Kelvin sign is a form of `k`. -/
def isLetterForm (letter c : Char) : Bool :=
  c == letter || c == letter.toUpper || (letter == 'k' && c == '\u212a')

/-- What follows the word `like` at the front of a text. -/
def afterLike? (s : List Char) : Option (List Char) :=
  match s with
  | c₁ :: c₂ :: c₃ :: c₄ :: rest =>
    if isLetterForm 'l' c₁ && isLetterForm 'i' c₂ && isLetterForm 'k' c₃ && isLetterForm 'e' c₄
    then some rest else none
  | _ => none

/-- Does a text start with a quote and a wildcard? -/
def startsWithWildcard (s : List Char) : Bool :=
  match s with
  | quote :: wildcard :: _ =>
    (quote == '\'' || quote == '"') && (wildcard == '%' || wildcard == '_')
  | _ => false

/-- Does a `LIKE` with a leading wildcard stand at the front of a text? -/
def wildcardLikeAt (s : List Char) : Bool :=
  match afterLike? s with
  | some rest => startsWithWildcard (rest.dropWhile isBlank)
  | none => false

/-- Searches a text; `inWord` says whether a word character stands before it. -/
def wildcardLikeFrom (inWord : Bool) : List Char → Bool
  | [] => false
  | c :: s => (!inWord && wildcardLikeAt (c :: s)) || wildcardLikeFrom (isWordChar c) s

/-- Does the statement hold a `LIKE` whose pattern starts with a wildcard? -/
def hasLeadingWildcard (statement : String) : Bool :=
  wildcardLikeFrom false statement.toList

end QueryAudit.Statement
