import QueryAudit.Json.Skip

/-!
# Values of a wanted type

Readers for the values of fields.  A value of another type is read far enough to
name it in the fault; a list or an object is named without being read.
-/

namespace QueryAudit.Json.Cursor

/-- Refuses the value at a cursor, naming what stands there. -/
def refuse {α : Type} (c : Cursor) (wanted : String) : Except Fault α := do
  let found : Found × Cursor ←
    match c.rest with
    | [] => c.faultAhead .expectedValue
    | x :: rest =>
      if x = 'n' then (c.readWord Found.null 'n' ['u', 'l', 'l']).map fun r => (r.value, r.next)
      else if x = 't' then
        (c.readWord (Found.boolean true) 't' ['r', 'u', 'e']).map fun r => (r.value, r.next)
      else if x = 'f' then
        (c.readWord (Found.boolean false) 'f' ['a', 'l', 's', 'e']).map fun r => (r.value, r.next)
      else if x = '-' then
        ((c.after x rest).readNumber true).map fun r => (r.value.found, r.next)
      else if x.isDigit then (c.readNumber false).map fun r => (r.value.found, r.next)
      else if x = '"' then
        (c.after x rest).readStringBody.map fun r => (.string (String.ofList r.value), r.next)
      else if x = '[' then .ok (.sequence, c)
      else if x = '\x7b' then .ok (.map, c)
      else c.faultAhead .expectedValue
  found.2.faultBehind (.wrongType found.1 wanted)

/-- Reads a string. -/
def readString (c : Cursor) : Except Fault (Read c String) :=
  if c.skipBlanks.rest.isEmpty then c.skipBlanks.faultAhead .endInValue
  else
    match c.skipBlanks.eat? '"' with
    | none => c.skipBlanks.refuse "a string"
    | some quote => do
      let body ← quote.next.readStringBody
      .ok ⟨String.ofList body.value, body.next,
        Nat.lt_of_lt_of_le (quote.trans body) c.skipBlanks_length_le⟩

/-- Reads a string or `null`. -/
def readString? (c : Cursor) : Except Fault (Read c (Option String)) :=
  if c.skipBlanks.rest.head? = some 'n' then
    (c.skipBlanks.readWord none 'n' ['u', 'l', 'l']).map (·.within c.skipBlanks_length_le)
  else c.readString.map fun r => r.as (some r.value)

/-- Reads a boolean. -/
def readBool (c : Cursor) : Except Fault (Read c Bool) :=
  match c.skipBlanks.rest with
  | [] => c.skipBlanks.faultAhead .endInValue
  | x :: _ =>
    if x = 't' then
      (c.skipBlanks.readWord true 't' ['r', 'u', 'e']).map (·.within c.skipBlanks_length_le)
    else if x = 'f' then
      (c.skipBlanks.readWord false 'f' ['a', 'l', 's', 'e']).map (·.within c.skipBlanks_length_le)
    else c.skipBlanks.refuse "a boolean"

/-- Reads a number that fits in 64 bits and is not negative. -/
def readNatural (c : Cursor) : Except Fault (Read c Nat) :=
  match h : c.skipBlanks.rest with
  | [] => c.skipBlanks.faultAhead .endInValue
  | x :: rest =>
    have hle := skipBlanks_after_length_le h
    let read : Except Fault (Read c Number) :=
      if x = '-' then ((c.skipBlanks.after x rest).readNumber true).map (·.within hle)
      else if x.isDigit then
        (c.skipBlanks.readNumber false).map (·.within c.skipBlanks_length_le)
      else c.skipBlanks.refuse "u64"
    read.bind fun r =>
      match r.value with
      | .natural n => .ok (r.as n)
      | .negative n => r.next.faultBehind (.wrongValue (.integer (-n)) "u64")
      | .float bits => r.next.faultBehind (.wrongType (.float bits) "u64")

end QueryAudit.Json.Cursor
