import QueryAudit.Proofs.Run.Analysis
import QueryAudit.Report
import QueryAudit.Report.Hints

/-!
# What a report says

A report is put together from filtered runs, counts, a maximum and the analysis of the
selects.  `build_body` says what its lines are in terms of the executions alone: which
lines there are, on what condition, and in which order.
-/

namespace QueryAudit

open Statement (Kind shape hasLeadingWildcard)

namespace Run

/-- The executions of a kind are those of the run that have it. -/
theorem mem_ofKind {run : Run} {kind : Kind} {e : Execution} :
    e ∈ (run.ofKind kind).executions ↔ e ∈ run.executions ∧ e.kind = kind := by
  simp [ofKind]

/-- Executions of a kind keep their order. -/
theorem before_ofKind {run : Run} {kind : Kind} {e f : Execution} :
    (run.ofKind kind).Before e f ↔ run.Before e f ∧ e.kind = kind ∧ f.kind = kind := by
  simp [before_iff_sublist, ofKind, pair_sublist_filter_iff]

/-- A kind that is counted occurs. -/
theorem countOf_pos_iff {run : Run} {kind : Kind} :
    0 < run.countOf kind ↔ (run.ofKind kind).executions ≠ [] := by
  rw [countOf, List.countP_eq_length_filter, List.length_pos_iff]
  rfl

/-- A kind that lacks bound parameters occurs. -/
theorem countOf_pos_of_hasUnbound {run : Run} {kind : Kind}
    (h : (run.ofKind kind).hasUnbound = true) : 0 < run.countOf kind := by
  obtain ⟨e, he, _⟩ := List.any_eq_true.mp h
  exact countOf_pos_iff.mpr (List.ne_nil_of_mem he)

/-- A maximum that is folded from a start value is at least that, at least every time
that was folded in, and one of these. -/
theorem foldl_max_elapsed (es : List Execution) (m : Nat) :
    m ≤ es.foldl (fun m e => max m e.elapsed) m ∧
      (∀ e ∈ es, e.elapsed ≤ es.foldl (fun m e => max m e.elapsed) m) ∧
      (es.foldl (fun m e => max m e.elapsed) m = m ∨
        ∃ e ∈ es, e.elapsed = es.foldl (fun m e => max m e.elapsed) m) := by
  induction es generalizing m with
  | nil => simp
  | cons e es ih =>
      obtain ⟨hstart, hall, hone⟩ := ih (max m e.elapsed)
      rw [List.foldl_cons]
      refine ⟨by omega, ?_, ?_⟩
      · intro f hf
        rcases List.mem_cons.mp hf with rfl | hf
        · omega
        · exact hall f hf
      · rcases hone with hone | ⟨f, hf, hone⟩
        · rcases Nat.le_total e.elapsed m with hle | hle
          · exact .inl (by omega)
          · exact .inr ⟨e, List.mem_cons_self, by omega⟩
        · exact .inr ⟨f, List.mem_cons_of_mem e hf, hone⟩

/-- **The longest time of a run** is taken by some execution and exceeded by none. -/
theorem maxElapsed_spec {run : Run} (h : run.executions ≠ []) :
    (∀ e ∈ run.executions, e.elapsed ≤ run.maxElapsed) ∧
      ∃ e ∈ run.executions, e.elapsed = run.maxElapsed := by
  obtain ⟨_, hall, hone⟩ := foldl_max_elapsed run.executions 0
  refine ⟨hall, ?_⟩
  rcases hone with hzero | hone
  · obtain ⟨e, he⟩ := List.exists_mem_of_ne_nil _ h
    have hle := hall e he
    exact ⟨e, he, by rw [maxElapsed]; omega⟩
  · exact hone

end Run

namespace Report

/-- The lines, if what they say holds. -/
noncomputable def linesWhen (condition : Prop) (lines : List String) : List String :=
  open Classical in if condition then lines else []

/-- Lines depend on what they say, not on how it is said. -/
theorem linesWhen_congr {p q : Prop} (h : p ↔ q) (lines : List String) :
    linesWhen p lines = linesWhen q lines := by
  rw [propext h]

/-- A line that a test calls for. -/
theorem lineIf_eq (b : Bool) (line : String) : lineIf b line = linesWhen (b = true) [line] := by
  cases b <;> simp [lineIf, linesWhen]

/-- Lines that are picked from a list of kinds stand in the order of the kinds. -/
theorem map_filter_eq_flatMap (p : Kind → Bool) (line : Kind → String) (kinds : List Kind) :
    (kinds.filter p).map line =
      kinds.flatMap fun kind => linesWhen (p kind = true) [line kind] := by
  induction kinds with
  | nil => rfl
  | cons kind kinds ih =>
      rw [List.flatMap_cons, ← ih]
      cases h : p kind <;> simp [linesWhen, h]

/-- An analysis that found nothing has no line to leave out. -/
theorem selectLines_some (a : Analysis) :
    selectLines (some a) = lineIf a.sameText sameTextLine ++
      lineIf a.leadingWildcard leadingWildcardLine ++ lineIf a.unbound unboundLine := by
  rw [selectLines]
  cases hfound : a.hasFindings with
  | true => rfl
  | false =>
      simp only [Analysis.hasFindings, Bool.or_eq_false_iff] at hfound
      obtain ⟨⟨⟨htext, _⟩, hwildcard⟩, hunbound⟩ := hfound
      rw [htext, hwildcard, hunbound]
      rfl

/-- Neither has a kind that does not occur. -/
theorem unboundLines_eq_flatMap (run : Run) :
    unboundLines run = [Kind.insert, .update, .delete].flatMap fun kind =>
      lineIf (run.ofKind kind).hasUnbound unboundLine := by
  apply List.flatMap_congr
  intro kind _
  cases hunbound : (run.ofKind kind).hasUnbound with
  | true => rw [decide_eq_true (Run.countOf_pos_of_hasUnbound hunbound), Bool.and_self]
  | false => rw [Bool.and_false]

/-- **The lines of a report**, said of the executions of a run; `slowest` is the longest
time. -/
noncomputable def linesOf (hints : List String) (run : Run) (slowest : Nat) : List String :=
  ["SQL EXECUTIONS: " ++ toString run.executions.length] ++
  [Kind.select, .insert, .update, .delete].flatMap (fun kind =>
    linesWhen (∃ e ∈ run.executions, e.kind = kind)
      [kind.name ++ ": " ++ toString (run.executions.countP (·.kind = kind))]) ++
  linesWhen (∃ e f, run.Before e f ∧ e.kind = .select ∧ f.kind = .select ∧ e.text = f.text)
    ["- Same SELECT statements"] ++
  linesWhen (∃ e ∈ run.executions, e.kind = .select ∧ hasLeadingWildcard e.text = true)
    ["- Like with leading wildcard detected (% or _)"] ++
  [Kind.select, .insert, .update, .delete].flatMap (fun kind =>
    linesWhen (∃ e ∈ run.executions, e.kind = kind ∧ e.bound = false)
      ["- Query without bind parameters"]) ++
  linesWhen (run.executions ≠ [])
    (["MAX TIME: " ++ toString slowest ++ " ms",
      if run.executions.length = 1 then "QUERY:" else "QUERIES:"] ++
      run.executions.map fun e => "- " ++ e.text) ++
  linesWhen (∃ e f, run.Before e f ∧ e.kind = .select ∧ f.kind = .select ∧
      e.text ≠ f.text ∧ shape e.text = shape f.text)
    ([separator, "HINTS:"] ++ hints)

/-- The lines that count. -/
theorem countLines_eq (run : Run) :
    countLines run = ["SQL EXECUTIONS: " ++ toString run.executions.length] ++
      [Kind.select, .insert, .update, .delete].flatMap (fun kind =>
        linesWhen (∃ e ∈ run.executions, e.kind = kind)
          [kind.name ++ ": " ++ toString (run.executions.countP (·.kind = kind))]) := by
  rw [countLines, map_filter_eq_flatMap, List.singleton_append]
  refine congrArg _ (List.flatMap_congr ?_)
  intro kind _
  apply linesWhen_congr
  rw [decide_eq_true_eq, Run.countOf, List.countP_pos_iff]
  simp

/-- A run without selects is reported as if its analysis had found nothing. -/
theorem lines_analysisOf (hints : List String) (run : Run) :
    selectLines (analysisOf run) = selectLines (some (run.ofKind .select).analyze) ∧
      hintLines hints (analysisOf run) =
        hintLines hints (some (run.ofKind .select).analyze) := by
  unfold analysisOf
  split
  · exact ⟨rfl, rfl⟩
  · next h =>
      rw [Run.countOf_pos_iff, not_not] at h
      have hempty : run.ofKind .select = Run.empty := congrArg Run.mk h
      rw [hempty]
      exact ⟨rfl, rfl⟩

/-- The lines about the selects. -/
theorem selectLines_eq (run : Run) :
    selectLines (some (run.ofKind .select).analyze) =
      linesWhen (∃ e f, run.Before e f ∧ e.kind = .select ∧ f.kind = .select ∧
        e.text = f.text) ["- Same SELECT statements"] ++
      linesWhen (∃ e ∈ run.executions, e.kind = .select ∧ hasLeadingWildcard e.text = true)
        ["- Like with leading wildcard detected (% or _)"] ++
      linesWhen (∃ e ∈ run.executions, e.kind = .select ∧ e.bound = false)
        ["- Query without bind parameters"] := by
  rw [selectLines_some, lineIf_eq, lineIf_eq, lineIf_eq]
  refine congrArg₂ _ (congrArg₂ _ ?_ ?_) ?_ <;> refine linesWhen_congr ?_ _
  · apply Run.hasSameText_iff.trans
    simp only [Run.before_ofKind, and_assoc]
  · simp [Run.analyze, Run.mem_ofKind, and_assoc]
  · simp [Run.analyze, Run.hasUnbound, Run.mem_ofKind, and_assoc]

/-- The lines about the other kinds. -/
theorem unboundLines_eq (run : Run) :
    unboundLines run = [Kind.insert, .update, .delete].flatMap fun kind =>
      linesWhen (∃ e ∈ run.executions, e.kind = kind ∧ e.bound = false)
        ["- Query without bind parameters"] := by
  rw [unboundLines_eq_flatMap]
  apply List.flatMap_congr
  intro kind _
  rw [lineIf_eq]
  apply linesWhen_congr
  simp [Run.hasUnbound, Run.mem_ofKind, and_assoc]

/-- The statements. -/
theorem statementLines_eq (run : Run) :
    statementLines run = linesWhen (run.executions ≠ [])
      (["MAX TIME: " ++ toString run.maxElapsed ++ " ms",
        if run.executions.length = 1 then "QUERY:" else "QUERIES:"] ++
        run.executions.map fun e => "- " ++ e.text) := by
  unfold statementLines
  by_cases h : run.executions = []
  · simp [Run.isEmpty, linesWhen, h]
  · have hempty : run.isEmpty = false := by simpa [Run.isEmpty] using h
    rw [hempty, linesWhen, if_pos h]
    rfl

/-- The hints. -/
theorem hintLines_eq (hints : List String) (run : Run) :
    hintLines hints (some (run.ofKind .select).analyze) =
      linesWhen (∃ e f, run.Before e f ∧ e.kind = .select ∧ f.kind = .select ∧
        e.text ≠ f.text ∧ shape e.text = shape f.text) ([separator, "HINTS:"] ++ hints) := by
  have hwhen : hintLines hints (some (run.ofKind .select).analyze) =
      linesWhen ((run.ofKind .select).analyze.sameShape = true)
        ([separator, "HINTS:"] ++ hints) := by
    cases h : (run.ofKind .select).analyze.sameShape <;> simp [hintLines, linesWhen, h]
  rw [hwhen]
  apply linesWhen_congr
  rw [Run.sameShape_iff]
  simp only [Run.before_ofKind, and_assoc]

/-- The entries of a report are its lines. -/
theorem entries_eq (hints : List String) (run : Run) :
    entries hints run = linesOf hints run run.maxElapsed := by
  obtain ⟨hselect, hhints⟩ := lines_analysisOf hints run
  rw [entries, hselect, hhints, countLines_eq, selectLines_eq, unboundLines_eq,
    statementLines_eq, hintLines_eq]
  simp only [linesOf, List.flatMap_cons, List.append_assoc]

/-- **What a report says.**  Its body is the lines of the run, with the longest time
that an execution took; and whatever frameworks are in use, their hints come behind the
common one, each once and in their own order. -/
theorem build_body (run : Run) :
    (∀ hints, ∃ slowest,
      (run.executions ≠ [] → (∀ e ∈ run.executions, e.elapsed ≤ slowest) ∧
        ∃ e ∈ run.executions, e.elapsed = slowest) ∧
      (build hints run).body = "\n".intercalate (linesOf hints run slowest)) ∧
    ∀ inUse, ∃ frameworks : List Framework,
      (∀ f, f ∈ frameworks ↔ f ∈ inUse) ∧
      frameworks.Sublist [.hibernate, .micronautData] ∧
      frameworkHints inUse = roundTripHint :: frameworks.map Framework.hint := by
  constructor
  · intro hints
    refine ⟨run.maxElapsed, Run.maxElapsed_spec, ?_⟩
    rw [build, entries_eq]
  · intro inUse
    refine ⟨Framework.all.filter (· ∈ inUse), ?_, List.filter_sublist, rfl⟩
    intro f
    cases f <;> simp [Framework.all]

end Report

end QueryAudit
