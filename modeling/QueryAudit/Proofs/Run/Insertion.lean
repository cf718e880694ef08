import QueryAudit.Proofs.Run.Sections

/-!
# Runs with more executions

A finding is about one execution or about two of which one comes before the other, and so
it outlasts every insertion: whatever else is executed in front of them, between them or
behind them, the same executions bear it out.  That an inserted execution may become the
first with its shape, the one that the others are compared with, does not matter for this.

`build_of_sublist` says so for the analysis of a run, for what is counted and measured, and
for the report, which shows its hints again.
-/

namespace QueryAudit

open Statement (Kind shape)

/-- Everything that one analysis found is found by another, each shape at least as often. -/
structure Analysis.KeptBy (a a' : Analysis) : Prop where
  sameText : a.sameText = true → a'.sameText = true
  sameShape : a.sameShape = true → a'.sameShape = true
  leadingWildcard : a.leadingWildcard = true → a'.leadingWildcard = true
  unbound : a.unbound = true → a'.unbound = true
  repeatedShapes : ∀ r ∈ a.repeatedShapes, ∃ r' ∈ a'.repeatedShapes,
    r'.shape = r.shape ∧ r.count ≤ r'.count

namespace Run

variable {run run' : Run}

/-- Two executions stay in order when others are inserted. -/
theorem Before.mono {e f : Execution} (hbefore : run.Before e f)
    (h : run.executions.Sublist run'.executions) : run'.Before e f :=
  before_iff_sublist.mpr ((before_iff_sublist.mp hbefore).trans h)

/-- A test that some execution passes is still passed. -/
theorem any_mono {p : Execution → Bool} (h : run.executions.Sublist run'.executions)
    (hany : run.executions.any p = true) : run'.executions.any p = true := by
  obtain ⟨e, he, hp⟩ := List.any_eq_true.mp hany
  exact List.any_eq_true.mpr ⟨e, h.subset he, hp⟩

/-- **A repeated shape is repeated still**, at least as often: the two executions with
different texts are both still there. -/
theorem repeatedShapes_mono (h : run.executions.Sublist run'.executions) {r : RepeatedShape}
    (hr : r ∈ run.repeatedShapes) :
    ∃ r' ∈ run'.repeatedShapes, r'.shape = r.shape ∧ r.count ≤ r'.count := by
  obtain ⟨e, f, hbefore, hpair⟩ := mem_repeatedShapes_iff.mp (List.mem_map_of_mem hr)
  have hmem : r.shape ∈ run'.repeatedShapes.map RepeatedShape.shape :=
    mem_repeatedShapes_iff.mpr ⟨e, f, hbefore.mono h, hpair⟩
  obtain ⟨r', hr', hshape⟩ := List.mem_map.mp hmem
  refine ⟨r', hr', hshape, ?_⟩
  rw [count_of_mem_repeatedShapes hr, count_of_mem_repeatedShapes hr', hshape]
  exact h.countP_le

/-- **What was found is found still** when executions are inserted. -/
theorem analyze_mono (h : run.executions.Sublist run'.executions) :
    run.analyze.KeptBy run'.analyze where
  sameText hsame := by
    obtain ⟨e, f, hbefore, htext⟩ := hasSameText_iff.mp hsame
    exact hasSameText_iff.mpr ⟨e, f, hbefore.mono h, htext⟩
  sameShape hsame := by
    obtain ⟨e, f, hbefore, hpair⟩ := sameShape_iff.mp hsame
    exact sameShape_iff.mpr ⟨e, f, hbefore.mono h, hpair⟩
  leadingWildcard := any_mono h
  unbound := any_mono h
  repeatedShapes _ := repeatedShapes_mono h

/-- The executions of a kind are inserted into with the run. -/
theorem ofKind_sublist (h : run.executions.Sublist run'.executions) (kind : Kind) :
    (run.ofKind kind).executions.Sublist (run'.ofKind kind).executions :=
  h.filter _

/-- The longest time gets no shorter. -/
theorem maxElapsed_mono (h : run.executions.Sublist run'.executions) :
    run.maxElapsed ≤ run'.maxElapsed := by
  by_cases hnil : run.executions = []
  · rw [maxElapsed, hnil]
    exact Nat.zero_le _
  · obtain ⟨_, e, he, hslowest⟩ := maxElapsed_spec hnil
    have he' := h.subset he
    rw [← hslowest]
    exact (maxElapsed_spec (List.ne_nil_of_mem he')).1 e he'

end Run

namespace Report

variable {run run' : Run}

/-- A run with selects has selects still, and an analysis that keeps what was found. -/
theorem analysisOf_mono (h : run.executions.Sublist run'.executions) {a : Analysis}
    (ha : analysisOf run = some a) : ∃ a', analysisOf run' = some a' ∧ a.KeptBy a' := by
  unfold analysisOf at ha
  split at ha
  · next hpos =>
      have hpos' : 0 < run'.countOf .select := Nat.lt_of_lt_of_le hpos h.countP_le
      obtain rfl := Option.some.inj ha
      refine ⟨(run'.ofKind .select).analyze, ?_, Run.analyze_mono (Run.ofKind_sublist h _)⟩
      rw [analysisOf, if_pos hpos']
  · cases ha

/-- The hints are all shown or not at all. -/
theorem hintLines_cases (hints : List String) (a : Option Analysis) :
    hintLines hints a = [] ∨ hintLines hints a = [separator, "HINTS:"] ++ hints := by
  unfold hintLines
  split
  · exact .inl rfl
  · split
    · exact .inr rfl
    · exact .inl rfl

/-- Hints that are shown are shown still. -/
theorem hintLines_mono (h : run.executions.Sublist run'.executions) {hints : List String}
    (hshown : hintLines hints (analysisOf run) ≠ []) :
    hintLines hints (analysisOf run') = hintLines hints (analysisOf run) := by
  rw [(lines_analysisOf hints run).2] at hshown ⊢
  have hsame : (run.ofKind .select).analyze.sameShape = true := by
    by_contra hsame
    exact hshown (if_neg hsame)
  have hstill := (Run.analyze_mono (Run.ofKind_sublist h .select)).sameShape hsame
  rw [(lines_analysisOf hints run').2, hintLines, hintLines, if_pos hsame, if_pos hstill]

/-- **More executions take no finding away.**  Let one run be another with executions
inserted anywhere.  Then the analysis of the larger run finds all that that of the smaller
one does, every kind occurs at least as often in it, it took at least as long, and it has
unbound values if the smaller one has.  The same holds of the analysis in a report, and a
report on the larger run ends with the hints if one on the smaller run does. -/
theorem build_of_sublist (h : run.executions.Sublist run'.executions) :
    run.analyze.KeptBy run'.analyze ∧
    (∀ kind, run.countOf kind ≤ run'.countOf kind) ∧
    run.maxElapsed ≤ run'.maxElapsed ∧
    (run.hasUnbound = true → run'.hasUnbound = true) ∧
    ∀ hints,
      (∀ a, (build hints run).analysis = some a →
        ∃ a', (build hints run').analysis = some a' ∧ a.KeptBy a') ∧
      ∃ shown shown' : List String,
        (build hints run).body = "\n".intercalate
          (findingLines run ++ headingLines run ++ statements run ++ shown) ∧
        (build hints run').body = "\n".intercalate
          (findingLines run' ++ headingLines run' ++ statements run' ++ shown') ∧
        (shown = [] ∨ shown = [separator, "HINTS:"] ++ hints) ∧
        (shown' = [] ∨ shown' = [separator, "HINTS:"] ++ hints) ∧
        (shown ≠ [] → shown' = shown) := by
  refine ⟨Run.analyze_mono h, fun kind => h.countP_le, Run.maxElapsed_mono h, Run.any_mono h, ?_⟩
  intro hints
  refine ⟨fun a ha => analysisOf_mono h ha, hintLines hints (analysisOf run),
    hintLines hints (analysisOf run'), ?_, ?_, hintLines_cases _ _, hintLines_cases _ _,
    hintLines_mono h⟩
  · rw [build, entries_eq_sections]
  · rw [build, entries_eq_sections]

/-- A select with the shape of two others is inserted in front of them, and a statement of
another kind between them. -/
theorem build_of_first_inserted :
    let run : Run := ⟨[⟨"SELECT 1", .select, true, 3⟩, ⟨"SELECT 2", .select, true, 2⟩]⟩
    let run' : Run := ⟨[⟨"SELECT 2", .select, false, 1⟩, ⟨"SELECT 1", .select, true, 3⟩,
      ⟨"DELETE FROM t", .delete, true, 9⟩, ⟨"SELECT 2", .select, true, 2⟩]⟩
    run.executions.Sublist run'.executions ∧
      run.analyze.repeatedShapes = [⟨"SELECT ?", 2⟩] ∧
      (∃ r ∈ run'.analyze.repeatedShapes, r.shape = "SELECT ?" ∧ 2 ≤ r.count) ∧
      3 ≤ run'.maxElapsed ∧
      (build ["hint"] run').body = "\n".intercalate (findingLines run' ++ headingLines run' ++
        statements run' ++ [separator, "HINTS:", "hint"]) := by
  intro run run'
  have hinserted : run.executions.Sublist run'.executions := by decide
  have hshapes : run.analyze.repeatedShapes = [⟨"SELECT ?", 2⟩] := by decide +kernel
  obtain ⟨hkept, _, hslowest, _, hreport⟩ := build_of_sublist hinserted
  obtain ⟨_, shown, shown', hbody, hbody', hcases, _, hstill⟩ := hreport ["hint"]
  have hshown : shown = [separator, "HINTS:", "hint"] := by
    apply hcases.resolve_left
    intro hnone
    rw [hnone] at hbody
    revert hbody
    decide +kernel
  refine ⟨hinserted, hshapes, hkept.repeatedShapes ⟨"SELECT ?", 2⟩ ?_, ?_, ?_⟩
  · rw [hshapes]
    exact List.mem_singleton_self _
  · exact Nat.le_trans (by decide) hslowest
  · rw [hbody', hstill (by simp [hshown]), hshown]

end Report

end QueryAudit
