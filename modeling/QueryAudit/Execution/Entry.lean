import QueryAudit.Json.Value

/-!
# Entries of an execution log

One line of a log describes one execution, as a JSON object with four known
fields or as a list of their values.  Only the text is required.  Fields that
are not known are passed over.

Reading goes from left to right and stops at the first fault.  A fault of the
entry as a whole, such as a field that is missing or given twice, is placed
behind the closing bracket if that is the next thing in the line.
-/

namespace QueryAudit

open Json (Cursor Cause Fault Read Pass)

/-- One line of a log. -/
structure Entry where
  text : String
  /-- The name of the statement's kind, if the line gives one. -/
  kindName : Option String
  bound : Bool
  elapsed : Nat
  deriving DecidableEq, Repr

namespace Entry

/-- The fields of an entry. -/
inductive Field where
  | text
  | kind
  | bound
  | elapsed
  deriving DecidableEq, Repr

/-- The key of a field. -/
def Field.key : Field → String
  | text => "text"
  | kind => "query_type"
  | bound => "bound_parameters"
  | elapsed => "elapsed_millis"

/-- All fields, in the order of a list. -/
def Field.all : List Field := [text, kind, bound, elapsed]

/-- The field with a key. -/
def Field.ofKey? (key : String) : Option Field := all.find? fun f => f.key = key

/-- How a message names an entry. -/
def wanted : String := "struct CapturedExecution"

/-- What has been read of an entry. -/
structure Draft where
  text : Option String := none
  kind : Option (Option String) := none
  bound : Option Bool := none
  elapsed : Option Nat := none
  deriving DecidableEq, Repr

namespace Draft

/-- Has the field been read? -/
def has (d : Draft) : Field → Bool
  | .text => d.text.isSome
  | .kind => d.kind.isSome
  | .bound => d.bound.isSome
  | .elapsed => d.elapsed.isSome

/-- Reads the value of a field into a draft. -/
def readField (d : Draft) (field : Field) (c : Cursor) : Except Fault (Read c Draft) :=
  match field with
  | .text => c.readString.map fun r => r.as { d with text := some r.value }
  | .kind => c.readString?.map fun r => r.as { d with kind := some r.value }
  | .bound => c.readBool.map fun r => r.as { d with bound := some r.value }
  | .elapsed => c.readNatural.map fun r => r.as { d with elapsed := some r.value }

/-- The entry of a draft, with defaults for what is missing; `cause` is given when
the text is. -/
def finish (d : Draft) (cause : Cause) : Except Cause Entry :=
  match d.text with
  | some text => .ok ⟨text, d.kind.getD none, d.bound.getD true, d.elapsed.getD 0⟩
  | none => .error cause

end Draft

/-- An entry, or what is wrong with it as a whole, and where reading stopped. -/
abbrev Outcome := Except Cause Entry × Cursor

/-- Is there another element in a list? -/
def nextElement (first : Bool) (c : Cursor) : Except Fault (Pass c Bool) :=
  have hblanks := c.skipBlanks_length_le
  match c.skipBlanks.rest with
  | [] => c.skipBlanks.faultAhead .endInList
  | x :: _ =>
    if x = ']' then .ok ⟨false, c.skipBlanks, hblanks⟩
    else if first then .ok ⟨true, c.skipBlanks, hblanks⟩
    else
      match c.skipBlanks.eat? ',' with
      | none => c.skipBlanks.faultAhead .expectedCommaOrBracket
      | some comma =>
        match comma.next.skipBlanks.rest with
        | [] => comma.next.skipBlanks.faultAhead .endInValue
        | y :: _ =>
          if y = ']' then comma.next.skipBlanks.faultAhead .trailingComma
          else .ok ⟨true, comma.next.skipBlanks,
            Nat.le_trans comma.next.skipBlanks_length_le
              (Nat.le_trans comma.notLonger hblanks)⟩

/-- Reads the values of a list as those of the given fields. -/
def readElements (d : Draft) (first : Bool) (fields : List Field) (c : Cursor) :
    Except Fault Outcome :=
  match fields with
  | [] => .ok (d.finish (.tooFewElements 0 (wanted ++ " with 4 elements")), c)
  | field :: fields => do
    let more ← nextElement first c
    if more.value then
      let value ← d.readField field more.next
      readElements value.value false fields value.next
    else .ok (d.finish (.tooFewElements 0 (wanted ++ " with 4 elements")), more.next)

/-- Reads the next key of an object, if there is one. -/
def nextKey (first : Bool) (c : Cursor) : Except Fault (Option (Read c String)) :=
  have hblanks := c.skipBlanks_length_le
  match c.skipBlanks.rest with
  | [] => c.skipBlanks.faultAhead .endInObject
  | x :: _ =>
    if x = '\x7d' then .ok none
    else if first then
      match c.skipBlanks.eat? '"' with
      | none => c.skipBlanks.faultAhead .keyNotString
      | some quote =>
        quote.next.readStringBody.map fun body =>
          some ⟨String.ofList body.value, body.next, by
            have h₁ := quote.shorter
            have h₂ := body.shorter
            omega⟩
    else
      match c.skipBlanks.eat? ',' with
      | none => c.skipBlanks.faultAhead .expectedCommaOrBrace
      | some comma =>
        match comma.next.skipBlanks.eat? '"' with
        | none =>
          comma.next.skipBlanks.faultAhead
            (match comma.next.skipBlanks.rest with
              | [] => .endInValue
              | y :: _ => if y = '\x7d' then .trailingComma else .keyNotString)
        | some quote =>
          quote.next.readStringBody.map fun body =>
            some ⟨String.ofList body.value, body.next, by
              have h₁ := comma.next.skipBlanks_length_le
              have h₂ := comma.shorter
              have h₃ := quote.shorter
              have h₄ := body.shorter
              omega⟩

/-- Reads the fields of an object. -/
def readMembers (d : Draft) (first : Bool) (c : Cursor) : Except Fault Outcome := do
  match ← nextKey first c with
  | none => .ok (d.finish (.missingField Field.text.key), c.skipBlanks)
  | some key =>
    have := key.shorter
    match Field.ofKey? key.value with
    | none =>
      let colon ← key.next.readColon
      have := colon.shorter
      let value ← colon.next.skipValue
      have := value.shorter
      readMembers d false value.next
    | some field =>
      if d.has field then .ok (.error (.duplicateField field.key), key.next)
      else
        let colon ← key.next.readColon
        have := colon.shorter
        let value ← d.readField field colon.next
        have := value.shorter
        readMembers value.value false value.next
termination_by c.rest.length

/-- The end of an entry: where reading stops, and a fault if the closing bracket is
not what comes next. -/
structure Close where
  next : Cursor
  fault : Option Fault

/-- Closes an object. -/
def closeObject (c : Cursor) : Close :=
  match c.skipBlanks.eat? '\x7d' with
  | some closed => ⟨closed.next, none⟩
  | none =>
    let cause : Cause :=
      match c.skipBlanks.rest with
      | [] => .endInObject
      | x :: _ => if x = ',' then .trailingComma else .trailingCharacters
    ⟨c.skipBlanks, some ⟨cause, c.skipBlanks.peekColumn⟩⟩

/-- Closes a list.  A comma in front of the closing bracket is passed over. -/
def closeList (c : Cursor) : Close :=
  match c.skipBlanks.eat? ']' with
  | some closed => ⟨closed.next, none⟩
  | none =>
    match c.skipBlanks.eat? ',' with
    | some comma =>
      let place := comma.next.skipBlanks
      let cause : Cause :=
        if place.rest.head? = some ']' then .trailingComma else .trailingCharacters
      ⟨place, some ⟨cause, place.peekColumn⟩⟩
    | none =>
      let cause : Cause :=
        if c.skipBlanks.rest.isEmpty then .endInList else .trailingCharacters
      ⟨c.skipBlanks, some ⟨cause, c.skipBlanks.peekColumn⟩⟩

/-- The entry that was read, once its bracket is closed and nothing follows. -/
def conclude (outcome : Outcome) (close : Cursor → Close) : Except Fault Entry :=
  let closed := close outcome.2
  match outcome.1, closed.fault with
  | .error cause, _ => closed.next.faultBehind cause
  | .ok _, some fault => .error fault
  | .ok entry, none =>
    if closed.next.skipBlanks.rest.isEmpty then .ok entry
    else closed.next.skipBlanks.faultAhead .trailingCharacters

/-- Reads a line. -/
def decode (line : List Char) : Except Fault Entry :=
  let c := (Cursor.start line).skipBlanks
  match c.rest with
  | [] => c.faultAhead .endInValue
  | x :: rest =>
    if x = '\x7b' then do
      let outcome ← readMembers {} true (c.after x rest)
      conclude outcome closeObject
    else if x = '[' then do
      let outcome ← readElements {} true Field.all (c.after x rest)
      conclude outcome closeList
    else c.refuse wanted

end Entry

end QueryAudit
