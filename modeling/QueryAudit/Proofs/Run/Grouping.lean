import Mathlib.Algebra.GroupWithZero.Nat
import Mathlib.Data.List.Induction
import Mathlib.Data.List.Perm.Basic
import QueryAudit.Grouping

/-!
# The groups of a list

What the index and the groups hold while a list is read can be said without either.  The
keys that have occurred stand in the order of their first occurrence; the index numbers
them, and the groups are what was read so far, sorted out by these keys: `holds_ofList`.
`Holds.join` is the one step from which it follows.

So the groups of a list are those that one would write down by filtering it for each of
its keys (`groupsBy_eq`), and no place in the index ever lacks its group.
-/

namespace QueryAudit

variable {α κ : Type}

namespace Grouping

variable {grouping : Grouping κ α} {keys : List κ} {members : κ → List α}

/-- A grouping has a group for each of the keys, in their order, and its index numbers
them. -/
structure Holds (grouping : Grouping κ α) (keys : List κ) (members : κ → List α) : Prop where
  index : grouping.index = keys.zipIdx
  groups : grouping.groups = keys.map members

/-- There are as many groups as keys. -/
theorem Holds.length_groups (h : grouping.Holds keys members) :
    grouping.groups.length = keys.length := by
  rw [h.groups, List.length_map]

/-- **Every place in the index is that of a group**, which has the members of its key. -/
theorem Holds.place_spec (h : grouping.Holds keys members) {entry : κ × Nat}
    (hentry : entry ∈ grouping.index) :
    ∃ hlt : entry.2 < grouping.groups.length, grouping.groups[entry.2] = members entry.1 := by
  rw [h.index] at hentry
  have hkey : keys[entry.2]? = some entry.1 := List.mem_zipIdx_iff_getElem?.mp hentry
  have hgroup : grouping.groups[entry.2]? = some (members entry.1) := by
    rw [h.groups, List.getElem?_map, hkey, Option.map_some]
  exact List.getElem?_eq_some_iff.mp hgroup

end Grouping

variable [DecidableEq κ]

/-! ## First occurrences -/

/-- The keys that have occurred when one more occurs: a new one comes last. -/
def addKey (keys : List κ) (k : κ) : List κ := if k ∈ keys then keys else keys ++ [k]

/-- A key has occurred once it is added. -/
theorem mem_addKey (keys : List κ) (k : κ) : k ∈ addKey keys k := by
  unfold addKey
  split
  · assumption
  · simp

/-- A key that has occurred adds nothing; a new one comes last. -/
theorem eraseDups_append_singleton (ks : List κ) (k : κ) :
    (ks ++ [k]).eraseDups = addKey ks.eraseDups k := by
  rw [List.eraseDups_append, addKey]
  by_cases hk : k ∈ ks <;> simp [List.removeAll, List.eraseDups_cons, hk]

/-- **First occurrences come in order.** -/
theorem eraseDups_pairwise_idxOf (ks : List κ) :
    ks.eraseDups.Pairwise fun k l => ks.idxOf k < ks.idxOf l := by
  induction ks using List.reverseRecOn with
  | nil => simp
  | append_singleton ks k ih =>
      have hlater {l : κ} (hl : l ∈ ks.eraseDups) : (ks ++ [k]).idxOf l = ks.idxOf l := by
        rw [List.idxOf_append, if_pos (List.mem_eraseDups.mp hl)]
      have hkeep : ks.eraseDups.Pairwise fun l m =>
          (ks ++ [k]).idxOf l < (ks ++ [k]).idxOf m := by
        apply ih.imp_of_mem
        intro l m hl hm hlt
        rwa [hlater hl, hlater hm]
      rw [eraseDups_append_singleton, addKey]
      split
      · exact hkeep
      · next hk =>
          rw [List.mem_eraseDups] at hk
          refine List.pairwise_append.mpr ⟨hkeep, List.pairwise_singleton _ _, ?_⟩
          intro l hl m hm
          rw [List.mem_singleton.mp hm, hlater hl, List.idxOf_append, if_neg hk]
          have hlt := List.idxOf_lt_length_of_mem (List.mem_eraseDups.mp hl)
          omega

/-- The place of a key among the keys is that of the first element with it. -/
theorem idxOf_map (key : α → κ) (xs : List α) (k : κ) :
    (xs.map key).idxOf k = xs.findIdx fun a => key a = k := by
  rw [List.idxOf, List.findIdx_map]
  rfl

/-- No key occurs twice among the first occurrences. -/
theorem nodup_eraseDups (ks : List κ) : ks.eraseDups.Nodup := by
  apply (eraseDups_pairwise_idxOf ks).imp
  intro k l hlt heq
  subst heq
  exact Nat.lt_irrefl _ hlt

/-! ## Sorting out by keys -/

/-- A key has no members if it does not occur. -/
theorem filter_eq_nil_iff_not_mem {key : α → κ} {xs : List α} {k : κ} :
    xs.filter (fun a => key a = k) = [] ↔ k ∉ (xs.map key).eraseDups := by
  simp [List.filter_eq_nil_iff, List.mem_eraseDups]

/-- **Sorting out loses nothing**: each element is a member of the one key that it has. -/
theorem flatMap_filter_perm {keys : List κ} (hnodup : keys.Nodup) {key : α → κ} {xs : List α}
    (hkeys : ∀ a ∈ xs, key a ∈ keys) :
    (keys.flatMap fun k => xs.filter fun a => key a = k).Perm xs := by
  induction keys generalizing xs with
  | nil =>
      cases xs with
      | nil => exact .nil
      | cons a xs => cases hkeys a List.mem_cons_self
  | cons k keys ih =>
      obtain ⟨hk, hnodup⟩ := List.nodup_cons.mp hnodup
      -- the other keys sort out what does not have the first one
      have hrest : (keys.flatMap fun l => xs.filter fun a => key a = l) =
          keys.flatMap fun l => (xs.filter fun a => !decide (key a = k)).filter
            fun a => key a = l := by
        apply List.flatMap_congr
        intro l hl
        rw [List.filter_filter]
        apply List.filter_congr
        intro a _
        have hne : l ≠ k := fun h => hk (h ▸ hl)
        by_cases ha : key a = l <;> simp [ha, hne]
      have hkeys' : ∀ a ∈ xs.filter (fun a => !decide (key a = k)), key a ∈ keys := by
        intro a ha
        obtain ⟨ha, hne⟩ := List.mem_filter.mp ha
        exact (List.mem_cons.mp (hkeys a ha)).resolve_left (by simpa using hne)
      rw [List.flatMap_cons, hrest]
      exact ((ih hnodup hkeys').append_left _).trans (List.filter_append_perm _ xs)

/-! ## Reading a list -/

/-- In a numbered list a key is found with its place. -/
theorem lookup_zipIdx (keys : List κ) (k : κ) (start : Nat) :
    (keys.zipIdx start).lookup k = if k ∈ keys then some (start + keys.idxOf k) else none := by
  induction keys generalizing start with
  | nil => rfl
  | cons l keys ih =>
      rw [List.zipIdx_cons, List.lookup_cons, ih, List.idxOf_cons]
      by_cases hl : k = l
      · simp [hl]
      · have hne : (k == l) = false := by simpa using hl
        have hne' : (l == k) = false := by simpa using Ne.symm hl
        by_cases hk : k ∈ keys <;> simp [hne, hne', hl, hk, Nat.add_assoc, Nat.add_comm 1]

/-- What stands in the place of a key changes for this key and no other. -/
theorem modify_idxOf {keys : List κ} (hnodup : keys.Nodup) (k : κ) (f : List α → List α)
    (members : κ → List α) :
    (keys.map members).modify (keys.idxOf k) f =
      keys.map fun l => if l = k then f (members l) else members l := by
  induction keys with
  | nil => rfl
  | cons l keys ih =>
      obtain ⟨hl, hnodup⟩ := List.nodup_cons.mp hnodup
      rw [List.map_cons, List.map_cons, List.idxOf_cons]
      by_cases hlk : l = k
      · subst hlk
        have hothers : keys.map (fun m => if m = l then f (members m) else members m) =
            keys.map members := by
          apply List.map_congr_left
          intro m hm
          rw [if_neg fun h : m = l => hl (h ▸ hm)]
        simp [hothers]
      · have hne : (l == k) = false := by simpa using hlk
        simp [hne, hlk, ih hnodup]

namespace Grouping

variable {grouping : Grouping κ α} {keys : List κ} {members : κ → List α} {k : κ}

/-- **A key gets the place that it has or the next one**, where a group is opened that has no
members yet. -/
theorem Holds.enter (h : grouping.Holds keys members) (hnew : k ∉ keys → members k = []) :
    (grouping.enter k).2.Holds (addKey keys k) members ∧
      (grouping.enter k).1 = (addKey keys k).idxOf k := by
  unfold Grouping.enter addKey
  rw [h.index, lookup_zipIdx]
  by_cases hk : k ∈ keys
  · rw [if_pos hk, if_pos hk]
    exact ⟨h, Nat.zero_add _⟩
  · -- a new key is numbered by the groups that there are
    rw [if_neg hk, if_neg hk]
    refine ⟨⟨?_, ?_⟩, ?_⟩
    · rw [h.length_groups, List.zipIdx_append]
      simp
    · rw [h.groups, List.map_append, List.map_singleton, hnew hk]
    · simp [h.length_groups, List.idxOf_append, hk]

/-- The place that a key gets is that of a group. -/
theorem Holds.enter_lt (h : grouping.Holds keys members) (hnew : k ∉ keys → members k = []) :
    (grouping.enter k).1 < (grouping.enter k).2.groups.length := by
  obtain ⟨hentered, hplace⟩ := h.enter hnew
  rw [hplace, hentered.length_groups]
  exact List.idxOf_lt_length_of_mem (mem_addKey keys k)

/-- **One more element** joins the members of its key, and no others. -/
theorem Holds.join (h : grouping.Holds keys members) (hnodup : (addKey keys k).Nodup)
    (hnew : k ∉ keys → members k = []) (a : α) :
    (grouping.join k a).Holds (addKey keys k)
      fun l => if l = k then members l ++ [a] else members l := by
  obtain ⟨hentered, hplace⟩ := h.enter hnew
  refine ⟨hentered.index, ?_⟩
  have hgroups : (grouping.join k a).groups =
      (grouping.enter k).2.groups.modify (grouping.enter k).1 (· ++ [a]) := rfl
  rw [hgroups, hentered.groups, hplace, modify_idxOf hnodup]

/-- **What a grouping of a list holds**: the keys in the order of their first occurrence, and
for each key the elements that have it, in their order. -/
theorem holds_ofList (key : α → κ) (xs : List α) :
    (ofList key xs).Holds (xs.map key).eraseDups fun k => xs.filter fun a => key a = k := by
  induction xs using List.reverseRecOn with
  | nil => exact ⟨rfl, rfl⟩
  | append_singleton xs a ih =>
      have hkeys : ((xs ++ [a]).map key).eraseDups = addKey (xs.map key).eraseDups (key a) := by
        rw [List.map_append, List.map_singleton, eraseDups_append_singleton]
      have hmembers : (fun k => (xs ++ [a]).filter fun b => key b = k) = fun k =>
          if k = key a then (xs.filter fun b => key b = k) ++ [a]
          else xs.filter fun b => key b = k := by
        funext k
        rw [List.filter_append]
        by_cases hk : k = key a
        · simp [hk]
        · simp [hk, Ne.symm hk]
      rw [ofList_append_singleton, hkeys, hmembers]
      refine ih.join ?_ ?_ a
      · rw [← hkeys]
        exact nodup_eraseDups _
      · exact filter_eq_nil_iff_not_mem.mpr

end Grouping

/-- **The groups of a list.**  There is one group for each key that occurs, in the order
of first occurrences, and it holds the elements of that key in their order. -/
theorem groupsBy_eq (key : α → κ) (xs : List α) :
    groupsBy key xs = (xs.map key).eraseDups.map fun k => xs.filter fun a => key a = k :=
  (Grouping.holds_ofList key xs).groups

/-- **Grouping through an index is sorting out by keys.**

* There is one group for each key that occurs, in the order of first occurrences, and it
  holds the elements of that key in their order.
* No group is empty, and together the groups hold every element once.
* At every step of the reading, the index has exactly the keys that have occurred, and the
  place that it has for a key is that of a group, the one with the elements of that key.
  The place that any further key gets is that of a group as well. -/
theorem groupsBy_sorts_out (key : α → κ) (xs : List α) :
    (∃ keys : List κ, keys.Nodup ∧ (∀ k, k ∈ keys ↔ ∃ a ∈ xs, key a = k) ∧
      keys.Pairwise (fun k l =>
        (xs.findIdx fun a => key a = k) < xs.findIdx fun a => key a = l) ∧
      groupsBy key xs = keys.map fun k => xs.filter fun a => key a = k) ∧
    [] ∉ groupsBy key xs ∧
    (groupsBy key xs).flatten.Perm xs ∧
    ((groupsBy key xs).map List.length).sum = xs.length ∧
    ∀ n, let read := Grouping.ofList key (xs.take n)
      (∀ k, k ∈ read.index.map Prod.fst ↔ ∃ a ∈ xs.take n, key a = k) ∧
      (∀ entry ∈ read.index, ∃ h : entry.2 < read.groups.length,
        read.groups[entry.2] = (xs.take n).filter fun a => key a = entry.1) ∧
      ∀ k, (read.enter k).1 < (read.enter k).2.groups.length := by
  have hoccurs (xs : List α) (k : κ) :
      k ∈ (xs.map key).eraseDups ↔ ∃ a ∈ xs, key a = k := by
    rw [List.mem_eraseDups, List.mem_map]
  have hflatten : (groupsBy key xs).flatten.Perm xs := by
    rw [groupsBy_eq, ← List.flatMap_def]
    exact flatMap_filter_perm (nodup_eraseDups _) fun a ha => (hoccurs xs _).mpr ⟨a, ha, rfl⟩
  refine ⟨⟨_, nodup_eraseDups _, hoccurs xs, ?_, groupsBy_eq key xs⟩, ?_, hflatten, ?_, ?_⟩
  · simpa only [idxOf_map] using eraseDups_pairwise_idxOf (xs.map key)
  · intro hempty
    rw [groupsBy_eq, List.mem_map] at hempty
    obtain ⟨k, hk, hnone⟩ := hempty
    exact filter_eq_nil_iff_not_mem.mp hnone hk
  · rw [← List.length_flatten, hflatten.length_eq]
  · intro n read
    have hread := Grouping.holds_ofList key (xs.take n)
    refine ⟨?_, fun entry hentry => hread.place_spec hentry,
      fun k => hread.enter_lt filter_eq_nil_iff_not_mem.mpr⟩
    intro k
    rw [hread.index, List.zipIdx_map_fst, hoccurs]

/-- Words are grouped by their lengths, which alternate.  After three words the second place
is that of the one word with four letters. -/
theorem groupsBy_of_alternating_lengths :
    let words := ["by", "like", "in", "null"]
    let read := Grouping.ofList String.length (words.take 3)
    (4, 1) ∈ read.index ∧
      (∃ h : 1 < read.groups.length, read.groups[1] = ["like"]) ∧
      groupsBy String.length words = [["by", "in"], ["like", "null"]] ∧
      (groupsBy String.length words).flatten.Perm words := by
  intro words read
  obtain ⟨_, _, hflatten, _, hsteps⟩ := groupsBy_sorts_out String.length words
  obtain ⟨_, hplaces, _⟩ := hsteps 3
  have hentry : (4, 1) ∈ read.index := by decide
  exact ⟨hentry, hplaces _ hentry, by decide, hflatten⟩

end QueryAudit
