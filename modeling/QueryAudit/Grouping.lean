/-!
# Grouping by a key

Groups come in the order in which their keys first occur, and each group keeps
the order of its members.  The list is read once.  An index holds, for each key
that has occurred, the place of its group among the groups: an element is added
to the group in the place of its key, and a key without a place first opens a
group at the end.
-/

namespace QueryAudit

variable {α κ : Type} [DecidableEq κ]

/-- Groups in the making. -/
structure Grouping (κ α : Type) where
  /-- The keys that have occurred, each with the place of its group. -/
  index : List (κ × Nat)
  /-- The groups, in the order in which they were opened. -/
  groups : List (List α)
  deriving DecidableEq, Repr

namespace Grouping

/-- Nothing is grouped yet. -/
def empty : Grouping κ α := ⟨[], []⟩

/-- The place of the group of a key.  A key without a place opens a group at the end. -/
def enter (grouping : Grouping κ α) (k : κ) : Nat × Grouping κ α :=
  match grouping.index.lookup k with
  | some place => (place, grouping)
  | none =>
    let place := grouping.groups.length
    (place, ⟨grouping.index ++ [(k, place)], grouping.groups ++ [[]]⟩)

/-- Adds an element to the group of its key. -/
def join (grouping : Grouping κ α) (k : κ) (a : α) : Grouping κ α :=
  let (place, entered) := grouping.enter k
  { entered with groups := entered.groups.modify place (· ++ [a]) }

/-- The elements of a list, each joined to the group of its key. -/
def ofList (key : α → κ) (xs : List α) : Grouping κ α :=
  xs.foldl (fun grouping a => grouping.join (key a) a) empty

/-- One more element at the end joins the groups of the list before it. -/
theorem ofList_append_singleton (key : α → κ) (xs : List α) (a : α) :
    ofList key (xs ++ [a]) = (ofList key xs).join (key a) a := by
  simp [ofList]

end Grouping

/-- The groups of a list under a key. -/
def groupsBy (key : α → κ) (xs : List α) : List (List α) := (Grouping.ofList key xs).groups

end QueryAudit
