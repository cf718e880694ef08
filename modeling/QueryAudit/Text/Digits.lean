/-!
# Digits

Numbers written in a base up to sixteen, as they occur in escapes.
-/

namespace QueryAudit.Text

/-- The value of a hexadecimal digit. -/
def hexDigit? (c : Char) : Option Nat :=
  if '0' ≤ c ∧ c ≤ '9' then some (c.toNat - '0'.toNat)
  else if 'a' ≤ c ∧ c ≤ 'f' then some (c.toNat - 'a'.toNat + 10)
  else if 'A' ≤ c ∧ c ≤ 'F' then some (c.toNat - 'A'.toNat + 10)
  else none

/-- Is the character a hexadecimal digit? -/
def isHexDigit (c : Char) : Bool := (hexDigit? c).isSome

/-- Is the character an octal digit? -/
def isOctalDigit (c : Char) : Bool := decide ('0' ≤ c) && decide (c ≤ '7')

/-- The number whose digits in a base are the given ones, after `start`. -/
def ofDigits? (base start : Nat) : List Char → Option Nat
  | [] => some start
  | c :: s =>
    match hexDigit? c with
    | some d => ofDigits? base (start * base + d) s
    | none => none

/-- The number written by hexadecimal digits; a text without digits is no number. -/
def hexNumber? (s : List Char) : Option Nat :=
  if s.isEmpty then none else ofDigits? 16 0 s

/-- The character with a code point, which must not be a surrogate nor too large. -/
def charOfCode? (code : Nat) : Option Char :=
  if code.isValidChar then some (Char.ofNat code) else none

end QueryAudit.Text
