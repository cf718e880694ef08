import Mathlib.Data.List.NodupEquivFin
import QueryAudit.Analysis
import QueryAudit.Proofs.Run.Grouping

/-!
# What the analysis of a run finds

The analysis groups the executions of a run and looks at the groups.  What it finds
can be said without groups: each finding is about one execution or about two, of which
one comes before the other.  `analyze_pairwise` says so for every run.
-/

namespace QueryAudit.Run

open Statement (shape hasLeadingWildcard)

/-- One execution comes before another. -/
def Before (run : Run) (e f : Execution) : Prop :=
  ∃ i j : Nat, i < j ∧ run.executions[i]? = some e ∧ run.executions[j]? = some f

/-- The place of the first execution with a shape. -/
def firstOf (run : Run) (s : String) : Nat :=
  run.executions.findIdx fun e => shape e.text = s

/-- An execution comes before another if the two are part of the run in this order. -/
theorem before_iff_sublist {run : Run} {e f : Execution} :
    run.Before e f ↔ [e, f].Sublist run.executions := by
  constructor
  · intro h
    obtain ⟨i, j, hij, hi, hj⟩ := h
    have he : e ∈ run.executions.take j :=
      List.mem_of_getElem? (i := i) (by rw [List.getElem?_take_of_lt hij, hi])
    have hf : f ∈ run.executions.drop j :=
      List.mem_of_getElem? (i := 0) (by rw [List.getElem?_drop, Nat.add_zero, hj])
    have happend := (List.singleton_sublist.mpr he).append (List.singleton_sublist.mpr hf)
    rwa [List.take_append_drop] at happend
  · intro h
    obtain ⟨g, hg⟩ := List.sublist_iff_exists_orderEmbedding_getElem?_eq.mp h
    exact ⟨g 0, g 1, g.strictMono Nat.zero_lt_one, (hg 0).symm, (hg 1).symm⟩

/-- Two elements are left in order if both are left. -/
theorem pair_sublist_filter_iff {α : Type} {p : α → Bool} {a b : α} {xs : List α} :
    [a, b].Sublist (xs.filter p) ↔ [a, b].Sublist xs ∧ p a = true ∧ p b = true := by
  constructor
  · intro h
    have ha := List.of_mem_filter (h.subset (by simp : a ∈ [a, b]))
    have hb := List.of_mem_filter (h.subset (by simp : b ∈ [a, b]))
    exact ⟨h.trans List.filter_sublist, ha, hb⟩
  · intro h
    obtain ⟨h, ha, hb⟩ := h
    have hfilter := h.filter p
    rwa [List.filter_eq_self.mpr (by simp [ha, hb])] at hfilter

/-- A list holds two elements if and only if it has some two in order. -/
theorem two_le_length_iff {α : Type} {xs : List α} :
    2 ≤ xs.length ↔ ∃ a b, [a, b].Sublist xs := by
  constructor
  · intro h
    rcases xs with _ | ⟨a, _ | ⟨b, xs⟩⟩
    · simp at h
    · simp at h
    · exact ⟨a, b, by simp⟩
  · intro h
    obtain ⟨a, b, h⟩ := h
    exact h.length_le

/-! ## Texts -/

/-- **A text was executed twice** if two executions have it. -/
theorem hasSameText_iff {run : Run} :
    run.hasSameText = true ↔ ∃ e f, run.Before e f ∧ e.text = f.text := by
  rw [hasSameText, groupsBy_eq]
  simp only [List.any_map, List.any_eq_true, List.mem_eraseDups, List.mem_map,
    Function.comp_apply, decide_eq_true_eq, two_le_length_iff, pair_sublist_filter_iff]
  constructor
  · intro h
    obtain ⟨text, _, e, f, hsub, he, hf⟩ := h
    exact ⟨e, f, before_iff_sublist.mpr hsub, he.trans hf.symm⟩
  · intro h
    obtain ⟨e, f, hbefore, htext⟩ := h
    have hsub := before_iff_sublist.mp hbefore
    exact ⟨f.text, ⟨f, hsub.subset (by simp), rfl⟩, e, f, hsub, htext, rfl⟩

/-- The texts of a group differ if those of two executions do. -/
theorem textsDiffer_iff {group : List Execution} :
    textsDiffer group = true ↔ ∃ e f, [e, f].Sublist group ∧ e.text ≠ f.text := by
  cases group with
  | nil => simp [textsDiffer]
  | cons first rest =>
      simp only [textsDiffer, List.any_eq_true, decide_eq_true_eq]
      constructor
      · intro h
        obtain ⟨f, hf, hne⟩ := h
        have hsub : [first, f].Sublist (first :: rest) :=
          (List.singleton_sublist.mpr hf).cons_cons first
        exact ⟨first, f, hsub, Ne.symm hne⟩
      · intro h
        obtain ⟨e, f, hsub, hne⟩ := h
        -- the two texts cannot both be the first one
        by_cases hf : f.text = first.text
        · refine ⟨e, ?_, fun he => hne (he.trans hf.symm)⟩
          have he := hsub.subset (by simp : e ∈ [e, f])
          rcases List.mem_cons.mp he with rfl | he
          · exact absurd hf.symm hne
          · exact he
        · refine ⟨f, ?_, hf⟩
          have hmem := hsub.subset (by simp : f ∈ [e, f])
          exact (List.mem_cons.mp hmem).resolve_left fun h => hf (by rw [h])

/-! ## Shapes -/

/-- The executions with a shape. -/
def withShape (run : Run) (s : String) : List Execution :=
  run.executions.filter fun e => shape e.text = s

/-- What a group tells of its shape: if the texts differ, how many executions have it. -/
theorem repeatedShape?_withShape (run : Run) (s : String) :
    repeatedShape? (run.withShape s) =
      if textsDiffer (run.withShape s) then some ⟨s, (run.withShape s).length⟩ else none := by
  cases hgroup : run.withShape s with
  | nil => rfl
  | cons first rest =>
      have hfirst : first ∈ run.withShape s := hgroup ▸ List.mem_cons_self
      have hshape : shape first.text = s := by simpa using (List.mem_filter.mp hfirst).2
      rw [repeatedShape?, hshape]

/-- **The repeated shapes of a run**, read off its shapes in the order in which they
first occur. -/
theorem repeatedShapes_eq (run : Run) :
    run.repeatedShapes =
      (((run.executions.map fun e => shape e.text).eraseDups.filter fun s =>
        textsDiffer (run.withShape s)).map fun s => ⟨s, (run.withShape s).length⟩) := by
  rw [repeatedShapes, groupsBy_eq, List.filterMap_map]
  generalize (run.executions.map fun e => shape e.text).eraseDups = shapes
  rw [← List.filterMap_eq_map, ← List.filterMap_eq_filter, List.filterMap_filterMap]
  apply List.filterMap_congr
  intro s _
  change repeatedShape? (run.withShape s) = _
  rw [repeatedShape?_withShape]
  cases h : textsDiffer (run.withShape s) <;> simp [Option.guard, h]

/-- The shapes themselves. -/
theorem map_shape_repeatedShapes (run : Run) :
    run.repeatedShapes.map RepeatedShape.shape =
      (run.executions.map fun e => shape e.text).eraseDups.filter fun s =>
        textsDiffer (run.withShape s) := by
  rw [repeatedShapes_eq, List.map_map]
  simp [Function.comp_def]

/-- **A shape is repeated** if two executions with different texts have it. -/
theorem mem_repeatedShapes_iff {run : Run} {s : String} :
    s ∈ run.repeatedShapes.map RepeatedShape.shape ↔
      ∃ e f, run.Before e f ∧ e.text ≠ f.text ∧ shape e.text = s ∧ shape f.text = s := by
  rw [map_shape_repeatedShapes, List.mem_filter, List.mem_eraseDups, textsDiffer_iff]
  simp only [withShape, pair_sublist_filter_iff, decide_eq_true_eq, before_iff_sublist]
  constructor
  · intro h
    obtain ⟨_, e, f, ⟨hsub, he, hf⟩, hne⟩ := h
    exact ⟨e, f, hsub, hne, he, hf⟩
  · intro h
    obtain ⟨e, f, hsub, hne, he, hf⟩ := h
    refine ⟨?_, e, f, ⟨hsub, he, hf⟩, hne⟩
    exact List.mem_map.mpr ⟨e, hsub.subset (by simp), he⟩

/-- No shape is reported twice. -/
theorem nodup_repeatedShapes (run : Run) :
    (run.repeatedShapes.map RepeatedShape.shape).Nodup := by
  rw [map_shape_repeatedShapes]
  exact (nodup_eraseDups _).filter _

/-- The place of a shape among the shapes is that of the first execution with it. -/
theorem idxOf_shapes (run : Run) (s : String) :
    (run.executions.map fun e => shape e.text).idxOf s = run.firstOf s :=
  idxOf_map _ _ _

/-- **Repeated shapes come in the order of their first executions**, whether or not it is
there that the texts differ. -/
theorem repeatedShapes_pairwise (run : Run) :
    (run.repeatedShapes.map RepeatedShape.shape).Pairwise fun s t =>
      run.firstOf s < run.firstOf t := by
  have hfirst := eraseDups_pairwise_idxOf (run.executions.map fun e => shape e.text)
  simp only [idxOf_shapes] at hfirst
  rw [map_shape_repeatedShapes]
  exact hfirst.filter _

/-- A repeated shape is counted with all executions that have it. -/
theorem count_of_mem_repeatedShapes {run : Run} {r : RepeatedShape}
    (h : r ∈ run.repeatedShapes) :
    r.count = run.executions.countP fun e => shape e.text = r.shape := by
  rw [repeatedShapes_eq] at h
  obtain ⟨s, _, rfl⟩ := List.mem_map.mp h
  exact List.countP_eq_length_filter.symm

/-- Some shape is repeated if two executions with different texts share one. -/
theorem sameShape_iff {run : Run} :
    run.analyze.sameShape = true ↔
      ∃ e f, run.Before e f ∧ e.text ≠ f.text ∧ shape e.text = shape f.text := by
  have hne : run.analyze.sameShape = true ↔
      ∃ s, s ∈ run.repeatedShapes.map RepeatedShape.shape := by
    cases hshapes : run.repeatedShapes <;> simp [analyze, hshapes]
  simp only [hne, mem_repeatedShapes_iff]
  constructor
  · intro h
    obtain ⟨s, e, f, hbefore, htext, he, hf⟩ := h
    exact ⟨e, f, hbefore, htext, he.trans hf.symm⟩
  · intro h
    obtain ⟨e, f, hbefore, htext, hshape⟩ := h
    exact ⟨shape f.text, e, f, hbefore, htext, hshape, rfl⟩

/-- **What the analysis of a run finds**, said of its executions.  The order of the
repeated shapes is that of the first executions that have them, and their counts
include repetitions of one text. -/
theorem analyze_pairwise (run : Run) :
    (run.analyze.sameText = true ↔ ∃ e f, run.Before e f ∧ e.text = f.text) ∧
    (run.analyze.sameShape = true ↔
      ∃ e f, run.Before e f ∧ e.text ≠ f.text ∧ shape e.text = shape f.text) ∧
    (run.analyze.leadingWildcard = true ↔
      ∃ e ∈ run.executions, hasLeadingWildcard e.text = true) ∧
    (run.analyze.unbound = true ↔ ∃ e ∈ run.executions, e.bound = false) ∧
    (∀ s, s ∈ run.analyze.repeatedShapes.map RepeatedShape.shape ↔
      ∃ e f, run.Before e f ∧ e.text ≠ f.text ∧ shape e.text = s ∧ shape f.text = s) ∧
    (run.analyze.repeatedShapes.map RepeatedShape.shape).Nodup ∧
    (run.analyze.repeatedShapes.map RepeatedShape.shape).Pairwise
      (fun s t => run.firstOf s < run.firstOf t) ∧
    (∀ r ∈ run.analyze.repeatedShapes,
      r.count = run.executions.countP fun e => shape e.text = r.shape) ∧
    (run.analyze.repeatedShapes ≠ [] ↔ run.analyze.sameShape = true) := by
  refine ⟨hasSameText_iff, sameShape_iff, ?_, ?_, fun s => mem_repeatedShapes_iff,
    nodup_repeatedShapes run, repeatedShapes_pairwise run,
    fun r hr => count_of_mem_repeatedShapes hr, ?_⟩
  · simp [analyze]
  · simp [analyze, hasUnbound]
  · simp [analyze]

end QueryAudit.Run
