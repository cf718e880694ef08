import QueryAudit.Sql.Token
import QueryAudit.Text.Numeric

/-!
# Symbols, placeholders and marked words

What stands between words, numbers and quoted text.  Operators are read by the
longest match; a character that starts nothing else is a symbol by itself.  The
marks `#`, `@` and `@@` start a word unless what follows makes them an operator.
-/

namespace QueryAudit.Sql

open Text

/-- Can the character continue a word? -/
def isWordPart (c : Char) : Bool :=
  isAlphabetic c || c.isDigit || c == '@' || c == '$' || c == '#' || c == '_'

/-- Can the character start a word? -/
def isWordStart (c : Char) : Bool := isAlphabetic c || c == '_'

/-- The word that starts with the given characters. -/
def wordFrom (start s : List Char) : Token × List Char :=
  (.word (start ++ s.takeWhile isWordPart), s.dropWhile isWordPart)

/-- What follows a word is an end of what was read. -/
theorem wordFrom_suffix (start s : List Char) : (wordFrom start s).2 <:+ s :=
  List.dropWhile_suffix _

/-- The operators of more than one character, longer ones before their beginnings. -/
def operators : List (List Char) :=
  [['-', '>', '>'], ['-', '>'], ['/', '/'], ['|', '|', '/'], ['|', '|'], ['|', '/'],
   ['=', '>'], ['=', '='], ['!', '='], ['!', '!'], ['!', '~', '~', '*'], ['!', '~', '~'],
   ['!', '~', '*'], ['!', '~'], ['<', '=', '>'], ['<', '='], ['<', '>'], ['<', '<'],
   ['<', '@'], ['>', '='], ['>', '>'], [':', ':'], [':', '='], ['&', '&'], ['^', '@'],
   ['~', '~', '*'], ['~', '~'], ['~', '*']]

/-- The symbol that is read for an operator: both spellings of "not equal" are one. -/
def symbolOf (operator : List Char) : Token :=
  .symbol (if operator = ['!', '='] then ['<', '>'] else operator)

/-- The operator that a text starts with, or else its first character. -/
def operator (c : Char) (s : List Char) : Token × List Char :=
  match operators.find? (·.isPrefixOf (c :: s)) with
  | some op => (symbolOf op, s.drop (op.length - 1))
  | none => (.symbol [c], s)

/-- What follows an operator is an end of what stands behind its first character. -/
theorem operator_suffix (c : Char) (s : List Char) : (operator c s).2 <:+ s := by
  unfold operator
  split
  · exact List.drop_suffix _ _
  · exact List.suffix_refl s

/-- A word that starts with a mark and any one character. -/
def markedWord (mark s : List Char) : Token × List Char :=
  match s with
  | [] => (.symbol mark, [])
  | c :: t => wordFrom (mark ++ [c]) t

/-- What follows a marked word is an end of what stands behind its mark. -/
theorem markedWord_suffix (mark s : List Char) : (markedWord mark s).2 <:+ s := by
  unfold markedWord
  split
  · exact List.suffix_refl []
  · exact (wordFrom_suffix _ _).trans (List.suffix_cons _ _)

/-- The token that starts with `#`. -/
def hashToken (s : List Char) : Token × List Char :=
  match s with
  | '-' :: t => (.symbol ['#', '-'], t)
  | '>' :: '>' :: t => (.symbol ['#', '>', '>'], t)
  | '>' :: t => (.symbol ['#', '>'], t)
  | ' ' :: t => (.symbol ['#'], ' ' :: t)
  | s => markedWord ['#'] s

/-- What follows the token is an end of what stands behind its mark. -/
theorem hashToken_suffix (s : List Char) : (hashToken s).2 <:+ s := by
  unfold hashToken
  split
  · exact List.suffix_cons _ _
  · exact ⟨['>', '>'], rfl⟩
  · exact List.suffix_cons _ _
  · exact List.suffix_refl _
  · exact markedWord_suffix _ _

/-- The token that starts with `@`. -/
def atToken (s : List Char) : Token × List Char :=
  match s with
  | '>' :: t => (.symbol ['@', '>'], t)
  | '?' :: t => (.symbol ['@', '?'], t)
  | '@' :: ' ' :: t => (.symbol ['@', '@'], ' ' :: t)
  | '@' :: t => markedWord ['@', '@'] t
  | c :: t =>
    if c = ' ' ∨ c = '\'' ∨ c = '"' ∨ c = '\x60' then (.symbol ['@'], c :: t)
    else markedWord ['@'] (c :: t)
  | [] => (.symbol ['@'], [])

/-- What follows the token is an end of what stands behind its mark. -/
theorem atToken_suffix (s : List Char) : (atToken s).2 <:+ s := by
  unfold atToken
  split
  · exact List.suffix_cons _ _
  · exact List.suffix_cons _ _
  · exact List.suffix_cons _ _
  · exact (markedWord_suffix _ _).trans (List.suffix_cons _ _)
  · split
    · exact List.suffix_refl _
    · exact markedWord_suffix _ _
  · exact List.suffix_refl _

/-- The placeholder that starts with `?`. -/
def questionToken (s : List Char) : Token × List Char :=
  (.placeholder ('?' :: s.takeWhile isNumeric), s.dropWhile isNumeric)

/-- What follows the placeholder is an end of what stands behind its mark. -/
theorem questionToken_suffix (s : List Char) : (questionToken s).2 <:+ s :=
  List.dropWhile_suffix _

end QueryAudit.Sql
