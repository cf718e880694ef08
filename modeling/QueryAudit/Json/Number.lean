import QueryAudit.Json.Cursor

/-!
# Numbers in JSON

Integers that fit in 64 bits are kept as they are.  Every other number becomes
a double precision number: the leading digits, as many as fit in 64 bits, are
scaled by a power of ten.  The scaling is done in floating point, one
multiplication or division at a time, so its result may differ in the last
place from the nearest number.

A number beyond the largest double is refused.
-/

namespace QueryAudit.Json

/-- A number. -/
inductive Number where
  | natural (n : Nat)
  /-- The negative of a positive number. -/
  | negative (n : Nat)
  /-- The bits of a double precision number. -/
  | float (bits : UInt64)
  deriving DecidableEq, Repr

/-- A number as it stands in a message. -/
def Number.found : Number → Found
  | natural n => .integer n
  | negative n => .integer (-n)
  | float bits => .float bits

/-- The value of a decimal digit. -/
def digitValue (x : Char) : Nat := x.toNat - '0'.toNat

/-- Appends digits to a number while it fits in 64 bits; gives the number and how
many digits were taken. -/
def absorb (n : Nat) : List Char → Nat × Nat
  | [] => (n, 0)
  | x :: digits =>
    if n * 10 + digitValue x < Nat.pow 2 64 then
      let (m, taken) := absorb (n * 10 + digitValue x) digits
      (m, taken + 1)
    else (n, 0)

/-- The largest power of ten that is used as a factor. -/
def greatestPower : Nat := 308

/-- A power of ten in double precision. -/
def powerOfTen (n : Nat) : Float := Float.ofScientific 1 false n

/-- Scales a number down by a power of ten, step by step. -/
def scaleDown (f : Float) (n : Nat) : Float :=
  if n ≤ greatestPower then f / powerOfTen n
  else if f == 0 then f
  else scaleDown (f / powerOfTen greatestPower) (n - greatestPower)
termination_by n
decreasing_by
  simp only [greatestPower] at *
  omega

/-- Scales a number up by a power of ten, unless it becomes too large. -/
def scaleUp? (f : Float) (n : Nat) : Option Float :=
  if n ≤ greatestPower then
    let g := f * powerOfTen n
    if g.isInf then none else some g
  else if f == 0 then some f
  else none

/-- The bits of `± significand · 10 ^ exponent` in double precision. -/
def doubleBits? (isNegative : Bool) (significand : Nat) (exponent : Int) : Option UInt64 :=
  let f := significand.toUInt64.toFloat
  let scaled := if 0 ≤ exponent then scaleUp? f exponent.toNat else some (scaleDown f (-exponent).toNat)
  scaled.map fun g => (if isNegative then -g else g).toBits

/-- An integer, as a 64-bit number if it fits and is not minus zero. -/
def Number.ofInteger (isNegative : Bool) (n : Nat) : Number :=
  if !isNegative then natural n
  else if 0 < n ∧ n ≤ Nat.pow 2 63 then negative n
  else float (-(n.toUInt64.toFloat)).toBits

/-- The digits of a number before its scaling. -/
structure Significand where
  /-- The leading digits, as a number. -/
  value : Nat
  /-- The power of ten that the digits left out make up. -/
  exponent : Int
  /-- Have all digits been taken, and is there no fraction? -/
  exact : Bool

/-- How many digits of an exponent make it exceed 31 bits, if they do. -/
def exponentLimit? (digits : List Char) : Option Nat :=
  ((List.range digits.length).map (· + 1)).find? fun k =>
    decide (Nat.pow 2 31 ≤ (digits.take k).foldl (fun n x => n * 10 + digitValue x) 0)

namespace Cursor

/-- Passes over digits. -/
def skipDigits (c : Cursor) : Pass c (List Char) :=
  ⟨c.rest.takeWhile Char.isDigit, c.skipWhile Char.isDigit, skipWhile_length_le _ c⟩

/-- Behind a character and some digits the rest is shorter. -/
theorem skipDigits_length_lt {c : Cursor} {x : Char} {rest : List Char} (h : c.rest = x :: rest) :
    (c.after x rest).skipDigits.next.rest.length < c.rest.length :=
  Nat.lt_of_le_of_lt (c.after x rest).skipDigits.notLonger (after_length_lt h)

/-- Reads the digits before the point.  A zero stands alone. -/
def readWhole (c : Cursor) : Except Fault (Read c (List Char)) :=
  match h : c.rest with
  | [] => c.faultBehind .endInValue
  | x :: rest =>
    if x.isDigit then
      let more := (c.after x rest).skipDigits
      if x = '0' ∧ more.value ≠ [] then (c.after x rest).faultAhead .invalidNumber
      else .ok ⟨x :: more.value, more.next, skipDigits_length_lt h⟩
    else .error ⟨.invalidNumber, c.column + 1⟩

/-- Reads a fraction, if there is one. -/
def readFraction (s : Significand) (c : Cursor) : Except Fault (Pass c Significand) :=
  match c.eat? '.' with
  | none => .ok ⟨s, c, c.length_le_self⟩
  | some point =>
    let digits := point.next.skipDigits
    if digits.value = [] then
      point.next.faultAhead (if point.next.rest.isEmpty then .endInValue else .invalidNumber)
    else
      let (value, taken) := absorb s.value digits.value
      .ok ⟨⟨value, s.exponent - taken, false⟩, digits.next, by
        have h₁ := point.shorter
        have h₂ := digits.notLonger
        omega⟩

/-- Reads the sign of an exponent: is it negative? -/
def readSign (c : Cursor) : Pass c Bool :=
  match c.eat? '-' with
  | some r => ⟨true, r.next, r.notLonger⟩
  | none =>
    match c.eat? '+' with
    | some r => ⟨false, r.next, r.notLonger⟩
    | none => ⟨false, c, c.length_le_self⟩

/-- Reads an exponent behind its letter. -/
def readExponentBody (s : Significand) (c : Cursor) : Except Fault (Pass c Significand) :=
  let sign := c.readSign
  let digits := sign.next.skipDigits
  if digits.value = [] then
    if sign.next.rest.isEmpty then sign.next.faultBehind .endInValue
    else .error ⟨.invalidNumber, sign.next.column + 1⟩
  else
    let n : Nat := digits.value.foldl (fun n x => n * 10 + digitValue x) 0
    match exponentLimit? digits.value with
    | some k =>
      if !sign.value && s.value ≠ 0 then .error ⟨.numberOutOfRange, sign.next.column + k⟩
      else .ok ⟨⟨s.value, s.exponent - n, false⟩, digits.next,
        Nat.le_trans digits.notLonger sign.notLonger⟩
    | none =>
      .ok ⟨⟨s.value, if sign.value then s.exponent - n else s.exponent + n, false⟩, digits.next,
        Nat.le_trans digits.notLonger sign.notLonger⟩

/-- Reads an exponent, if there is one. -/
def readExponent (s : Significand) (c : Cursor) : Except Fault (Pass c Significand) :=
  match (c.eat? 'e').or (c.eat? 'E') with
  | none => .ok ⟨s, c, c.length_le_self⟩
  | some letter =>
    (letter.next.readExponentBody s).map fun body =>
      ⟨body.value, body.next, Nat.le_trans body.notLonger letter.notLonger⟩

/-- Behind the parts of a number the rest is shorter. -/
theorem number_length_lt {c : Cursor} (whole : Read c (List Char))
    (fraction : Pass whole.next Significand) (exponent : Pass fraction.next Significand) :
    exponent.next.rest.length < c.rest.length :=
  Nat.lt_of_le_of_lt (Nat.le_trans exponent.notLonger fraction.notLonger) whole.shorter

/-- Reads a number behind its sign. -/
def readNumber (isNegative : Bool) (c : Cursor) : Except Fault (Read c Number) := do
  let whole ← c.readWhole
  let (value, taken) := absorb 0 whole.value
  let s : Significand :=
    ⟨value, (whole.value.length - taken : Nat), taken = whole.value.length⟩
  let fraction ← whole.next.readFraction s
  let exponent ← fraction.next.readExponent fraction.value
  have hshorter := number_length_lt whole fraction exponent
  let total := exponent.value
  if total.exact then .ok ⟨Number.ofInteger isNegative value, exponent.next, hshorter⟩
  else
    match doubleBits? isNegative total.value total.exponent with
    | some bits => .ok ⟨.float bits, exponent.next, hshorter⟩
    | none => exponent.next.faultBehind .numberOutOfRange

end Cursor

end QueryAudit.Json
