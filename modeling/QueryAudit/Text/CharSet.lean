/-!
# Character sets

A Unicode property is a list of closed ranges of code points.  The properties
used in this library are given by their part outside ASCII; the ASCII part is
written out beside each table, so that facts about plain text need no table.
-/

namespace QueryAudit.Text

/-- A set of characters: closed ranges of code points. -/
abbrev CharSet := List (Nat × Nat)

/-- A character belongs to a set when one of the ranges holds its code point. -/
def CharSet.has (set : CharSet) (c : Char) : Bool :=
  set.any fun range => decide (range.1 ≤ c.toNat) && decide (c.toNat ≤ range.2)

/-- Membership in a set, spelled out. -/
theorem CharSet.has_iff {set : CharSet} {c : Char} :
    set.has c = true ↔ ∃ range ∈ set, range.1 ≤ c.toNat ∧ c.toNat ≤ range.2 := by
  simp [CharSet.has]

/-- The characters of ASCII. -/
def isAscii (c : Char) : Bool := decide (c.toNat < 128)

end QueryAudit.Text
