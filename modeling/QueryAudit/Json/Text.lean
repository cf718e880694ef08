import QueryAudit.Json.Cursor
import QueryAudit.Text.Digits

/-!
# Strings in JSON

A string runs from quote to quote.  Escapes stand for single characters; a code
point beyond the first 65536 is written as two escapes, a leading and a trailing
surrogate, and neither may stand alone.

A string that is skipped is only looked at: its surrogates need not be paired.
-/

namespace QueryAudit.Json

/-- The number of bytes of a text. -/
def byteLength (s : List Char) : Nat := s.foldl (fun n x => n + x.utf8Size) 0

/-- The character that an escape letter stands for. -/
def escapedChar? (x : Char) : Option Char :=
  match x with
  | '"' => some '"'
  | '\\' => some '\\'
  | '/' => some '/'
  | 'b' => some '\x08'
  | 'f' => some '\x0c'
  | 'n' => some '\n'
  | 'r' => some '\r'
  | 't' => some '\t'
  | _ => none

namespace Cursor

/-- Reads four hexadecimal digits. -/
def readFourDigits (c : Cursor) : Except Fault (Read c Nat) :=
  match h : c.rest with
  | w :: x :: y :: z :: rest =>
    match Text.hexNumber? [w, x, y, z] with
    | some n => .ok ⟨n, ⟨rest, c.column + 4⟩, by simp only [h, List.length_cons]; omega⟩
    | none => .error ⟨.invalidEscape, c.column + 4⟩
  | rest =>
    if byteLength rest < 4 then .error ⟨.endInString, c.column + byteLength rest⟩
    else .error ⟨.invalidEscape, c.column + 4⟩

/-- Reads a character that must come next in a pair of surrogates. -/
def readPairMark (x : Char) (c : Cursor) : Except Fault (Read c Unit) :=
  match c.eat? x with
  | some r => .ok r
  | none =>
    if c.rest.isEmpty then c.faultBehind .endInString
    else .error ⟨.unfinishedEscape, c.column + 1⟩

/-- Is the number a leading surrogate? -/
def isLeading (n : Nat) : Bool := decide (0xD800 ≤ n) && decide (n ≤ 0xDBFF)

/-- Is the number a trailing surrogate? -/
def isTrailing (n : Nat) : Bool := decide (0xDC00 ≤ n) && decide (n ≤ 0xDFFF)

/-- Reads a code point behind the `u` of an escape. -/
def readCodePoint (c : Cursor) : Except Fault (Read c Char) := do
  let first ← c.readFourDigits
  if isTrailing first.value then first.next.faultBehind .loneSurrogate
  else if isLeading first.value then
    let backslash ← first.next.readPairMark '\\'
    let letter ← backslash.next.readPairMark 'u'
    let second ← letter.next.readFourDigits
    if isTrailing second.value then
      let code := (first.value - 0xD800) * 0x400 + (second.value - 0xDC00) + 0x10000
      .ok ⟨Char.ofNat code, second.next, by
        have h₁ := first.shorter
        have h₂ := backslash.shorter
        have h₃ := letter.shorter
        have h₄ := second.shorter
        omega⟩
    else second.next.faultBehind .loneSurrogate
  else .ok (first.as (Char.ofNat first.value))

/-- Reads an escape behind its backslash. -/
def readEscape (c : Cursor) : Except Fault (Read c Char) :=
  match h : c.rest with
  | [] => c.faultBehind .endInString
  | x :: rest =>
    have hle := after_length_le h
    if x = 'u' then (c.after x rest).readCodePoint.map (·.within hle)
    else
      match escapedChar? x with
      | some y => .ok ⟨y, c.after x rest, after_length_lt h⟩
      | none => .error ⟨.invalidEscape, c.column + 1⟩

/-- Passes over an escape behind its backslash. -/
def skipEscape (c : Cursor) : Except Fault (Read c Unit) :=
  match h : c.rest with
  | [] => c.faultBehind .endInString
  | x :: rest =>
    have hle := after_length_le h
    if x = 'u' then (c.after x rest).readFourDigits.map fun r => (r.within hle).as ()
    else
      match escapedChar? x with
      | some _ => .ok ⟨(), c.after x rest, after_length_lt h⟩
      | none => .error ⟨.invalidEscape, c.column + 1⟩

/-- Reads a string behind its opening quote. -/
def readStringBody (c : Cursor) : Except Fault (Read c (List Char)) :=
  match h : c.rest with
  | [] => c.faultBehind .endInString
  | x :: rest =>
    have hlt := after_length_lt h
    if x = '"' then .ok ⟨[], c.after x rest, hlt⟩
    else if x = '\\' then do
      let escape ← (c.after x rest).readEscape
      have hescape := escape.shorter
      let body ← readStringBody escape.next
      .ok ⟨escape.value :: body.value, body.next, by have := body.shorter; omega⟩
    else if x.toNat < 32 then .error ⟨.controlCharacter, c.column + 1⟩
    else do
      let body ← readStringBody (c.after x rest)
      .ok ⟨x :: body.value, body.next, by have := body.shorter; omega⟩
termination_by c.rest.length
decreasing_by
  · omega
  · exact hlt

/-- Passes over a string behind its opening quote. -/
def skipStringBody (c : Cursor) : Except Fault (Read c Unit) :=
  match h : c.rest with
  | [] => c.faultBehind .endInString
  | x :: rest =>
    have hlt := after_length_lt h
    if x = '"' then .ok ⟨(), c.after x rest, hlt⟩
    else if x = '\\' then do
      let escape ← (c.after x rest).skipEscape
      have hescape := escape.shorter
      let body ← skipStringBody escape.next
      .ok (body.within (by omega))
    else if x.toNat < 32 then c.faultBehind .controlCharacter
    else do
      let body ← skipStringBody (c.after x rest)
      .ok (body.within (by omega))
termination_by c.rest.length
decreasing_by
  · omega
  · exact hlt

end Cursor

end QueryAudit.Json
