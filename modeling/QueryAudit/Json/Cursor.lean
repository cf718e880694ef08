import QueryAudit.Json.Fault

/-!
# Reading at a cursor

A cursor stands in a line: it knows what is still to be read and how many bytes
have been.  Every reader of this library takes at least one character, which the
type of its result says, so reading one thing after another always ends.
-/

namespace QueryAudit.Json

/-- A place in a line. -/
structure Cursor where
  /-- What is still to be read. -/
  rest : List Char
  /-- The number of bytes before it. -/
  column : Nat
  deriving DecidableEq, Repr

/-- What was read at a cursor, and where reading goes on. -/
structure Read (c : Cursor) (α : Type) where
  value : α
  next : Cursor
  shorter : next.rest.length < c.rest.length

/-- The same place for another value. -/
def Read.as {c : Cursor} {α β : Type} (r : Read c α) (b : β) : Read c β :=
  ⟨b, r.next, r.shorter⟩

/-- What was read from a cursor further on was read from here. -/
def Read.within {c d : Cursor} {α : Type} (r : Read d α)
    (h : d.rest.length ≤ c.rest.length) : Read c α :=
  ⟨r.value, r.next, Nat.lt_of_lt_of_le r.shorter h⟩

/-- What was read makes the rest no longer. -/
theorem Read.notLonger {c : Cursor} {α : Type} (r : Read c α) :
    r.next.rest.length ≤ c.rest.length :=
  Nat.le_of_lt r.shorter

/-- What was read in two steps makes the rest shorter. -/
theorem Read.trans {c : Cursor} {α β : Type} (r : Read c α) (s : Read r.next β) :
    s.next.rest.length < c.rest.length :=
  Nat.lt_trans s.shorter r.shorter

/-- What was read at a cursor, possibly nothing, and where reading goes on. -/
structure Pass (c : Cursor) (α : Type) where
  value : α
  next : Cursor
  notLonger : next.rest.length ≤ c.rest.length

namespace Cursor

/-- The beginning of a line. -/
def start (line : List Char) : Cursor := ⟨line, 0⟩

/-- The cursor behind a character that stands at it. -/
def after (c : Cursor) (x : Char) (rest : List Char) : Cursor :=
  ⟨rest, c.column + x.utf8Size⟩

/-- Where nothing is read, the rest is no longer. -/
theorem length_le_self (c : Cursor) : c.rest.length ≤ c.rest.length := Nat.le_refl _

/-- Behind a character the rest is shorter. -/
theorem after_length_lt {c : Cursor} {x : Char} {rest : List Char} (h : c.rest = x :: rest) :
    (c.after x rest).rest.length < c.rest.length := by
  simp [h, after]

/-- Behind a character the rest is no longer. -/
theorem after_length_le {c : Cursor} {x : Char} {rest : List Char} (h : c.rest = x :: rest) :
    (c.after x rest).rest.length ≤ c.rest.length :=
  Nat.le_of_lt (after_length_lt h)

/-- The column of the next character, or of the last one at the end of the line. -/
def peekColumn (c : Cursor) : Nat := if c.rest.isEmpty then c.column else c.column + 1

/-- A fault at the next character. -/
def faultAhead {α : Type} (c : Cursor) (cause : Cause) : Except Fault α :=
  .error ⟨cause, c.peekColumn⟩

/-- A fault behind the last character that was read. -/
def faultBehind {α : Type} (c : Cursor) (cause : Cause) : Except Fault α :=
  .error ⟨cause, c.column⟩

/-- The blanks of JSON. -/
def isJsonBlank (x : Char) : Bool := x == ' ' || x == '\t' || x == '\n' || x == '\r'

/-- Passes over characters of ASCII. -/
def skipWhile (p : Char → Bool) (c : Cursor) : Cursor :=
  ⟨c.rest.dropWhile p, c.column + (c.rest.takeWhile p).length⟩

/-- Passes over blanks. -/
def skipBlanks (c : Cursor) : Cursor := c.skipWhile isJsonBlank

/-- Passing over characters makes the rest no longer. -/
theorem skipWhile_length_le (p : Char → Bool) (c : Cursor) :
    (c.skipWhile p).rest.length ≤ c.rest.length :=
  (List.dropWhile_suffix p).length_le

/-- Passing over blanks makes the rest no longer. -/
theorem skipBlanks_length_le (c : Cursor) :
    c.skipBlanks.rest.length ≤ c.rest.length :=
  skipWhile_length_le _ c

/-- Behind a character that follows blanks the rest is no longer. -/
theorem skipBlanks_after_length_le {c : Cursor} {x : Char} {rest : List Char}
    (h : c.skipBlanks.rest = x :: rest) :
    (c.skipBlanks.after x rest).rest.length ≤ c.rest.length :=
  Nat.le_trans (after_length_le h) c.skipBlanks_length_le

/-- Reads one given character of ASCII, if it stands at the cursor. -/
def eat? (x : Char) (c : Cursor) : Option (Read c Unit) :=
  match h : c.rest with
  | [] => none
  | y :: rest => if y = x then some ⟨(), c.after y rest, after_length_lt h⟩ else none

/-- Reads the remaining letters of a word such as `true`. -/
def readLetters : List Char → Cursor → Except Fault Cursor
  | [], c => .ok c
  | x :: letters, c =>
    match c.rest with
    | [] => c.faultBehind .endInValue
    | y :: rest =>
      if y = x then readLetters letters (c.after y rest)
      else .error ⟨.expectedIdent, c.column + 1⟩

/-- Reading letters makes the rest no longer. -/
theorem readLetters_length_le {letters : List Char} {c d : Cursor}
    (h : readLetters letters c = .ok d) : d.rest.length ≤ c.rest.length := by
  induction letters generalizing c with
  | nil =>
    cases h
    exact Nat.le_refl _
  | cons x letters ih =>
    unfold readLetters at h
    split at h
    · simp [faultBehind] at h
    · next y rest hrest =>
      split at h
      · have := ih h
        simp only [after] at this
        rw [hrest]
        exact Nat.le_succ_of_le this
      · simp at h

/-- Reads a word that starts at the cursor with `x`; `letters` are the others. -/
def readWord {α : Type} (value : α) (x : Char) (letters : List Char) (c : Cursor) :
    Except Fault (Read c α) :=
  match hc : c.rest with
  | [] => c.faultBehind .endInValue
  | y :: rest =>
    if y = x then
      match h : readLetters letters (c.after y rest) with
      | .ok d => .ok ⟨value, d, by
          have := readLetters_length_le h
          simp only [after] at this
          simp only [hc, List.length_cons]
          omega⟩
      | .error fault => .error fault
    else .error ⟨.expectedIdent, c.column + 1⟩

end Cursor

end QueryAudit.Json
