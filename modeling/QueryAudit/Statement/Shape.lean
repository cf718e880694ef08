import QueryAudit.Sql.Tokenize

/-!
# Shapes

The shape of a statement is its text with every literal replaced by `?`, gaps
reduced to single spaces, and spaces and semicolons dropped at its end.  Two
runs of one statement with different values have one shape.

A minus sign directly in front of a number belongs to the literal unless it
subtracts from an operand.  A text that cannot be read as tokens keeps its
literals: only its blanks are reduced.
-/

namespace QueryAudit.Statement

open Sql

/-- What stands in a shape for a literal. -/
def mark : Token := .placeholder ['?']

/-- Reduces every run of gaps to one space and drops gaps at the end; `gap` says
whether a gap has just been passed. -/
def spaced (gap : Bool) : List Token → List Token
  | [] => []
  | t :: ts =>
    if t.isGap then spaced true ts
    else if gap then .space :: t :: spaced false ts
    else t :: spaced false ts

/-- The operand state after a token: gaps leave it as it is. -/
def operandAfter (operand : Bool) (t : Token) : Bool :=
  if t.isGap then operand else t.isLiteral || t.isOperand

/-- Replaces every literal by the mark; `operand` says whether the last token that
is no gap was an operand. -/
def masked (operand : Bool) : List Token → List Token
  | [] => []
  | .minus :: .number _ :: ts =>
    if operand then .minus :: mark :: masked true ts else mark :: masked true ts
  | t :: ts => (if t.isLiteral then mark else t) :: masked (operandAfter operand t) ts

/-- The tokens of a shape. -/
def shapeTokens (tokens : List Token) : List Token :=
  masked false (spaced false (tokens.dropWhile Token.isGap))

/-- Does the character vanish at the end of a shape? -/
def isTrailing (c : Char) : Bool := c == ';' || c == ' '

/-- A text without spaces and semicolons at its end. -/
def dropTrailing (s : List Char) : List Char := (s.reverse.dropWhile isTrailing).reverse

/-- The shape of a statement, by its characters. -/
def shapeOfChars (s : List Char) : List Char :=
  match tokenize s with
  | some tokens => dropTrailing (Token.text (shapeTokens tokens))
  | none => Text.collapse s

/-- The shape of a statement. -/
def shape (statement : String) : String := String.ofList (shapeOfChars statement.toList)

end QueryAudit.Statement
