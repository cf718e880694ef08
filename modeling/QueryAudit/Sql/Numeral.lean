import QueryAudit.Sql.Token
import QueryAudit.Text.Digits

/-!
# Numerals

A number is a run of digits with an optional fraction, an optional exponent and
an optional final `L`; the digits before or after the point may be missing.  A
point without digits is a symbol.  A single zero with an `x` behind it opens a
string of hexadecimal digits, possibly empty.
-/

namespace QueryAudit.Sql

open Text

/-- A point with the digits behind it, and the rest. -/
def fraction (s : List Char) : List Char × List Char :=
  match s with
  | '.' :: t => ('.' :: t.takeWhile Char.isDigit, t.dropWhile Char.isDigit)
  | s => ([], s)

/-- A fraction and what follows it make up the text. -/
theorem fraction_append (s : List Char) : (fraction s).1 ++ (fraction s).2 = s := by
  unfold fraction
  split <;> simp [List.takeWhile_append_dropWhile]

/-- An optional sign, and the rest. -/
def sign (s : List Char) : List Char × List Char :=
  match s with
  | '+' :: t => (['+'], t)
  | '-' :: t => (['-'], t)
  | s => ([], s)

/-- A sign and what follows it make up the text. -/
theorem sign_append (s : List Char) : (sign s).1 ++ (sign s).2 = s := by
  unfold sign
  split <;> simp

/-- An exponent with at least one digit, and the rest. -/
def exponent (s : List Char) : List Char × List Char :=
  match s with
  | [] => ([], [])
  | c :: t =>
    let digits := (sign t).2.takeWhile Char.isDigit
    if (c = 'e' ∨ c = 'E') ∧ digits ≠ [] then
      (c :: (sign t).1 ++ digits, (sign t).2.dropWhile Char.isDigit)
    else ([], c :: t)

/-- An exponent and what follows it make up the text. -/
theorem exponent_append (s : List Char) : (exponent s).1 ++ (exponent s).2 = s := by
  unfold exponent
  split
  · rfl
  · next c t =>
    dsimp only
    split
    · simp [List.takeWhile_append_dropWhile, sign_append]
    · rfl

/-- The mark of a long number, and the rest. -/
def longMark (s : List Char) : List Char × List Char :=
  match s with
  | 'L' :: t => (['L'], t)
  | s => ([], s)

/-- A mark and what follows it make up the text. -/
theorem longMark_append (s : List Char) : (longMark s).1 ++ (longMark s).2 = s := by
  unfold longMark
  split <;> simp

/-- A number that starts with the given digits: exponent and mark are added. -/
def finishNumber (digits s : List Char) : Token × List Char :=
  (.number (digits ++ (exponent s).1 ++ (longMark (exponent s).2).1),
    (longMark (exponent s).2).2)

/-- What follows a number is an end of what was read. -/
theorem finishNumber_suffix (digits s : List Char) : (finishNumber digits s).2 <:+ s :=
  ⟨(exponent s).1 ++ (longMark (exponent s).2).1, by
    simp [finishNumber, longMark_append, exponent_append]⟩

/-- The token that starts with the digit or point `c`. -/
def numeral (c : Char) (s : List Char) : Token × List Char :=
  match c, s with
  | '.', s =>
    if s.takeWhile Char.isDigit = [] then (.symbol ['.'], s)
    else finishNumber ('.' :: s.takeWhile Char.isDigit) (s.dropWhile Char.isDigit)
  | '0', 'x' :: t => (.literal .hex (t.takeWhile isHexDigit), t.dropWhile isHexDigit)
  | c, s =>
    let rest := s.dropWhile Char.isDigit
    finishNumber (c :: s.takeWhile Char.isDigit ++ (fraction rest).1) (fraction rest).2

/-- What follows a numeral is an end of what stands behind its first character. -/
theorem numeral_suffix (c : Char) (s : List Char) : (numeral c s).2 <:+ s := by
  have hrest (s : List Char) : s.dropWhile Char.isDigit <:+ s := List.dropWhile_suffix _
  unfold numeral
  split
  · split
    · exact List.suffix_refl _
    · exact (finishNumber_suffix _ _).trans (hrest _)
  · exact (List.dropWhile_suffix _).trans (List.suffix_cons _ _)
  · exact (finishNumber_suffix _ _).trans (List.IsSuffix.trans ⟨_, fraction_append _⟩ (hrest _))

end QueryAudit.Sql
