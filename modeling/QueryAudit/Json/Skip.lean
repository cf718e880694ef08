import QueryAudit.Json.Number
import QueryAudit.Json.Text

/-!
# Passing over values

The value of a field that nobody asks for is checked and dropped.  Lists and
objects may nest to any depth: the brackets that are open are kept on a list,
innermost first.
-/

namespace QueryAudit.Json

/-- An open bracket. -/
inductive Bracket where
  | list
  | object
  deriving DecidableEq, Repr

namespace Bracket

/-- The character that closes a bracket. -/
def closing : Bracket → Char
  | list => ']'
  | object => '\x7d'

/-- The cause given when the line ends inside a bracket. -/
def endCause : Bracket → Cause
  | list => .endInList
  | object => .endInObject

/-- The cause given when a value is followed by neither a comma nor the closing bracket. -/
def separatorCause : Bracket → Cause
  | list => .expectedCommaOrBracket
  | object => .expectedCommaOrBrace

end Bracket

namespace Cursor

/-- Passes over a number behind its sign.  It may be too large, but it must be
written as a number. -/
def skipNumber (c : Cursor) : Except Fault (Read c Unit) :=
  let read : Except Fault (Read c Unit) := do
    let whole ← c.readWhole
    let fraction ← whole.next.readFraction ⟨0, 0, false⟩
    let exponent ← fraction.next.readExponent ⟨0, 0, false⟩
    .ok ⟨(), exponent.next, number_length_lt whole fraction exponent⟩
  read.mapError fun fault => { fault with cause := .invalidNumber }

/-- Passes over the colon behind a key. -/
def readColon (c : Cursor) : Except Fault (Read c Unit) :=
  match c.skipBlanks.eat? ':' with
  | some r => .ok (r.within c.skipBlanks_length_le)
  | none =>
    c.skipBlanks.faultAhead (if c.skipBlanks.rest.isEmpty then .endInObject else .expectedColon)

/-- Passes over a key and its colon. -/
def skipKey (c : Cursor) : Except Fault (Read c Unit) :=
  match c.skipBlanks.eat? '"' with
  | none =>
    c.skipBlanks.faultAhead (if c.skipBlanks.rest.isEmpty then .endInObject else .keyNotString)
  | some quote => do
    let body ← quote.next.skipStringBody
    let colon ← body.next.readColon
    .ok ⟨(), colon.next, by
      have h₀ := c.skipBlanks_length_le
      have h₁ := quote.shorter
      have h₂ := body.shorter
      have h₃ := colon.shorter
      omega⟩

/-- Passes over what stands before a value inside a bracket. -/
def skipBefore (bracket : Bracket) (c : Cursor) : Except Fault (Pass c Unit) :=
  match bracket with
  | .list => .ok ⟨(), c, c.length_le_self⟩
  | .object => c.skipKey.map fun r => ⟨(), r.next, r.notLonger⟩

/-- Passes over a value that is no list and no object. -/
def skipScalar (c : Cursor) : Except Fault (Read c Unit) :=
  match h : c.rest with
  | [] => c.faultAhead .endInValue
  | x :: rest =>
    have hle := after_length_le h
    if x = 'n' then c.readWord () 'n' ['u', 'l', 'l']
    else if x = 't' then c.readWord () 't' ['r', 'u', 'e']
    else if x = 'f' then c.readWord () 'f' ['a', 'l', 's', 'e']
    else if x = '"' then (c.after x rest).skipStringBody.map (·.within hle)
    else if x = '-' then (c.after x rest).skipNumber.map (·.within hle)
    else if x.isDigit then c.skipNumber
    else c.faultAhead .expectedValue

/-- The bracket that opens at a cursor. -/
def openBracket? (c : Cursor) : Option (Read c Bracket) :=
  match c.eat? '[' with
  | some r => some (r.as .list)
  | none => (c.eat? '\x7b').map (·.as .object)

mutual

/-- Passes over a value and then over the rest of the brackets that are open. -/
def skipValueIn (brackets : List Bracket) (c : Cursor) : Except Fault (Read c Unit) :=
  match c.skipBlanks.openBracket? with
  | some opened =>
    have hopened := opened.shorter
    have hblanks := c.skipBlanks_length_le
    have hinside := opened.next.skipBlanks_length_le
    match opened.next.skipBlanks.eat? opened.value.closing with
    | some closed => do
      have hclosed := closed.shorter
      let rest ← skipAfterValue brackets closed.next
      .ok ⟨(), rest.next, by have := rest.notLonger; omega⟩
    | none =>
      if opened.next.skipBlanks.rest.isEmpty then
        opened.next.skipBlanks.faultAhead opened.value.endCause
      else do
        let before ← opened.next.skipBlanks.skipBefore opened.value
        have hbefore := before.notLonger
        let value ← skipValueIn (opened.value :: brackets) before.next
        .ok ⟨(), value.next, by have := value.shorter; omega⟩
  | none => do
    have hblanks := c.skipBlanks_length_le
    let scalar ← c.skipBlanks.skipScalar
    have hscalar := scalar.shorter
    let rest ← skipAfterValue brackets scalar.next
    .ok ⟨(), rest.next, by have := rest.notLonger; omega⟩
termination_by c.rest.length

/-- Passes over what follows a value inside the open brackets. -/
def skipAfterValue (brackets : List Bracket) (c : Cursor) : Except Fault (Pass c Unit) :=
  match brackets with
  | [] => .ok ⟨(), c, c.length_le_self⟩
  | bracket :: outer =>
    have hblanks := c.skipBlanks_length_le
    match c.skipBlanks.eat? ',' with
    | some comma => do
      have hcomma := comma.shorter
      let before ← comma.next.skipBefore bracket
      have hbefore := before.notLonger
      let value ← skipValueIn (bracket :: outer) before.next
      .ok ⟨(), value.next, by have := value.shorter; omega⟩
    | none =>
      match c.skipBlanks.eat? bracket.closing with
      | some closed => do
        have hclosed := closed.shorter
        let rest ← skipAfterValue outer closed.next
        .ok ⟨(), rest.next, by have := rest.notLonger; omega⟩
      | none =>
        c.skipBlanks.faultAhead
          (if c.skipBlanks.rest.isEmpty then bracket.endCause else bracket.separatorCause)
termination_by c.rest.length

end

/-- Passes over one value. -/
def skipValue (c : Cursor) : Except Fault (Read c Unit) := c.skipValueIn []

end Cursor

end QueryAudit.Json
