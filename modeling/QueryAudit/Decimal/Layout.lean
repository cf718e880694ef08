import QueryAudit.Decimal.Shortest

/-!
# Writing a decimal

A layout says for which decimal exponents a number is written in place, with
zeros where digits are missing.  Outside that range it is written with one digit
before the point and a signed exponent.
-/

namespace QueryAudit.Decimal

/-- The decimal exponents, of the first digit, that are written in place. -/
structure Layout where
  least : Int
  greatest : Int

/-- A text of zeros. -/
def zeros (n : Nat) : List Char := List.replicate n '0'

/-- A decimal in place: a point always stands in it, with a digit on either side. -/
def inPlace (digits : List Char) (exponent : Int) : List Char :=
  if exponent < 0 then ['0', '.'] ++ zeros (-exponent - 1).toNat ++ digits
  else
    let whole := exponent.toNat + 1
    let padded := digits ++ zeros (whole - digits.length)
    padded.take whole ++ ['.'] ++
      (if padded.length = whole then ['0'] else padded.drop whole)

/-- A decimal with an exponent. -/
def withExponent (digits : List Char) (exponent : Int) : List Char :=
  let front :=
    match digits with
    | [] => []
    | [d] => [d]
    | d :: rest => d :: '.' :: rest
  front ++ ['e', if exponent < 0 then '-' else '+'] ++ Nat.toDigits 10 exponent.natAbs

/-- A positive decimal in a layout. -/
def Layout.write (layout : Layout) (d : Digits) : List Char :=
  let digits := Nat.toDigits 10 d.digits
  let exponent := d.exponent + digits.length - 1
  if layout.least ≤ exponent ∧ exponent ≤ layout.greatest then inPlace digits exponent
  else withExponent digits exponent

/-- A finite double precision number, given by its bits, in a layout. -/
def Layout.writeBits (layout : Layout) (bits : UInt64) : List Char :=
  let sign := if bits.toNat / Nat.pow 2 63 = 1 then ['-'] else []
  let b := Binary.ofBits bits
  sign ++ if b.significand = 0 then ['0', '.', '0'] else layout.write (shortest b)

end QueryAudit.Decimal
