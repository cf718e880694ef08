import Mathlib.Data.List.Perm.Basic
import QueryAudit.Proofs.Run.Sections

/-!
# Runs in another order

The findings of a run are about one execution or about two, and the two may be taken in
either order.  So they are the same whatever the order of the executions was:
`exists_before_iff` says it for any relation that holds in both directions, and what is
counted does not depend on an order to begin with.  Only the order of the repeated shapes
and of the listed statements shows it.
-/

namespace QueryAudit

open Statement (Kind shape)

namespace Run

variable {run run' : Run}

/-- **Two executions in some order** are found in every order of the run, when what is
asked of them holds in both directions. -/
theorem exists_before_iff {R : Execution → Execution → Prop} (hsymm : ∀ {e f}, R e f → R f e)
    (h : run.executions.Perm run'.executions) :
    (∃ e f, run.Before e f ∧ R e f) ↔ ∃ e f, run'.Before e f ∧ R e f := by
  have hnone (run : Run) : (¬ ∃ e f, run.Before e f ∧ R e f) ↔
      run.executions.Pairwise fun e f => ¬ R e f := by
    rw [List.pairwise_iff_forall_sublist]
    simp only [before_iff_sublist, not_exists, not_and]
  have hnot : ∀ {e f}, ¬ R e f → ¬ R f e := fun hef hfe => hef (hsymm hfe)
  rw [← not_iff_not, hnone, hnone]
  exact h.pairwise_iff hnot

/-- A shape is repeated with a count if two executions with different texts have it, and
the count is the number of all that have it. -/
theorem mem_repeatedShapes {r : RepeatedShape} :
    r ∈ run.repeatedShapes ↔
      (∃ e f, run.Before e f ∧ e.text ≠ f.text ∧ shape e.text = r.shape ∧
        shape f.text = r.shape) ∧
      r.count = run.executions.countP fun e => shape e.text = r.shape := by
  rw [← mem_repeatedShapes_iff]
  constructor
  · intro h
    exact ⟨List.mem_map_of_mem h, count_of_mem_repeatedShapes h⟩
  · intro h
    obtain ⟨hmem, hcount⟩ := h
    obtain ⟨r', hr', hshape⟩ := List.mem_map.mp hmem
    have hcount' := count_of_mem_repeatedShapes hr'
    rw [hshape, ← hcount] at hcount'
    cases r
    cases r'
    cases hshape
    cases hcount'
    exact hr'

/-- **The repeated shapes are the same in every order**, each with its count. -/
theorem repeatedShapes_perm (h : run.executions.Perm run'.executions) :
    run.repeatedShapes.Perm run'.repeatedShapes := by
  have hnodup (run : Run) : run.repeatedShapes.Nodup :=
    (nodup_repeatedShapes run).of_map RepeatedShape.shape
  apply (List.perm_ext_iff_of_nodup (hnodup run) (hnodup run')).mpr
  intro r
  have hpair := exists_before_iff (R := fun e f => e.text ≠ f.text ∧ shape e.text = r.shape ∧
    shape f.text = r.shape) (fun hef => ⟨hef.1.symm, hef.2.2, hef.2.1⟩) h
  rw [mem_repeatedShapes, mem_repeatedShapes, hpair, h.countP_eq]

/-- **The findings are the same in every order**, up to the order of the repeated
shapes. -/
theorem analyze_perm (h : run.executions.Perm run'.executions) :
    run.analyze.sameText = run'.analyze.sameText ∧
    run.analyze.sameShape = run'.analyze.sameShape ∧
    run.analyze.leadingWildcard = run'.analyze.leadingWildcard ∧
    run.analyze.unbound = run'.analyze.unbound ∧
    run.analyze.repeatedShapes.Perm run'.analyze.repeatedShapes := by
  refine ⟨?_, ?_, h.any_eq, h.any_eq, repeatedShapes_perm h⟩
  · change run.hasSameText = run'.hasSameText
    rw [Bool.eq_iff_iff, hasSameText_iff, hasSameText_iff]
    exact exists_before_iff Eq.symm h
  · rw [Bool.eq_iff_iff, sameShape_iff, sameShape_iff]
    exact exists_before_iff (fun hef => ⟨hef.1.symm, hef.2.symm⟩) h

/-- The executions of a kind are reordered with the run. -/
theorem ofKind_perm (h : run.executions.Perm run'.executions) (kind : Kind) :
    (run.ofKind kind).executions.Perm (run'.ofKind kind).executions :=
  h.filter _

/-- The longest time does not depend on the order. -/
theorem maxElapsed_perm (h : run.executions.Perm run'.executions) :
    run.maxElapsed = run'.maxElapsed := by
  have hcomm : RightCommutative fun (m : Nat) (e : Execution) => max m e.elapsed :=
    ⟨fun m e f => Nat.max_right_comm m e.elapsed f.elapsed⟩
  exact h.foldl_eq 0

end Run

namespace Report

variable {run run' : Run}

/-- What is counted and found does not depend on the order. -/
theorem findingLines_perm (h : run.executions.Perm run'.executions) :
    findingLines run = findingLines run' := by
  have hcount : countLines run = countLines run' := by
    have hkind (kind : Kind) : run.countOf kind = run'.countOf kind := h.countP_eq _
    simp only [countLines, Run.count, hkind, h.length_eq]
  have hselect : selectLines (analysisOf run) = selectLines (analysisOf run') := by
    obtain ⟨htext, _, hwildcard, hbound, _⟩ := Run.analyze_perm (Run.ofKind_perm h .select)
    rw [(lines_analysisOf [] run).1, (lines_analysisOf [] run').1, selectLines_some,
      selectLines_some, htext, hwildcard, hbound]
  have hunbound : unboundLines run = unboundLines run' := by
    rw [unboundLines_eq_flatMap, unboundLines_eq_flatMap]
    apply List.flatMap_congr
    intro kind _
    rw [Run.hasUnbound, Run.hasUnbound, (Run.ofKind_perm h kind).any_eq]
  rw [findingLines, findingLines, hcount, hselect, hunbound]

/-- Neither do the longest time and the heading. -/
theorem headingLines_perm (h : run.executions.Perm run'.executions) :
    headingLines run = headingLines run' := by
  have hempty : run.isEmpty = run'.isEmpty := by
    rw [Run.isEmpty, Run.isEmpty, Bool.eq_iff_iff, List.isEmpty_iff, List.isEmpty_iff]
    exact ⟨fun hnil => (hnil ▸ h).nil_eq.symm, fun hnil => (hnil ▸ h).eq_nil⟩
  have hcount : run.count = run'.count := h.length_eq
  rw [headingLines, headingLines, hempty, hcount, Run.maxElapsed_perm h]

/-- Nor the hints. -/
theorem hintLines_perm (h : run.executions.Perm run'.executions) (hints : List String) :
    hintLines hints (analysisOf run) = hintLines hints (analysisOf run') := by
  obtain ⟨_, hshape, _⟩ := Run.analyze_perm (Run.ofKind_perm h .select)
  rw [(lines_analysisOf hints run).2, (lines_analysisOf hints run').2, hintLines, hintLines,
    hshape]

/-- **Findings do not depend on the order of execution.**  A run and the same run in
another order have the same findings, and their reports differ at most in the list of
statements, which stand in the order of their own run between the heading and the hints. -/
theorem build_of_perm (h : run.executions.Perm run'.executions) (hints : List String) :
    (run.analyze.sameText = run'.analyze.sameText ∧
      run.analyze.sameShape = run'.analyze.sameShape ∧
      run.analyze.leadingWildcard = run'.analyze.leadingWildcard ∧
      run.analyze.unbound = run'.analyze.unbound ∧
      run.analyze.repeatedShapes.Perm run'.analyze.repeatedShapes) ∧
    ∃ above below : List String,
      (run.executions ≠ [] →
        above.getLast? = some (if run.count = 1 then "QUERY:" else "QUERIES:")) ∧
      (build hints run).body = "\n".intercalate
        (above ++ run.executions.map (fun e => "- " ++ e.text) ++ below) ∧
      (build hints run').body = "\n".intercalate
        (above ++ run'.executions.map (fun e => "- " ++ e.text) ++ below) := by
  refine ⟨Run.analyze_perm h, findingLines run ++ headingLines run,
    hintLines hints (analysisOf run), ?_, ?_, ?_⟩
  · intro hne
    have hempty : ¬ run.isEmpty = true := by simpa [Run.isEmpty] using hne
    rw [headingLines, if_neg hempty, List.getLast?_append_of_ne_nil _ (by simp)]
    rfl
  · rw [build, entries_eq_sections]
    rfl
  · rw [build, entries_eq_sections, findingLines_perm h, headingLines_perm h,
      hintLines_perm h]
    rfl

/-- Two selects that share a shape, with another statement between them or in front. -/
theorem build_of_statement_moved :
    ∃ above below : List String, above.getLast? = some "QUERIES:" ∧
      (build ["hint"] ⟨[⟨"SELECT 1", .select, true, 3⟩, ⟨"DELETE FROM t", .delete, false, 9⟩,
          ⟨"SELECT 2", .select, true, 2⟩]⟩).body =
        "\n".intercalate (above ++ ["- SELECT 1", "- DELETE FROM t", "- SELECT 2"] ++ below) ∧
      (build ["hint"] ⟨[⟨"DELETE FROM t", .delete, false, 9⟩, ⟨"SELECT 1", .select, true, 3⟩,
          ⟨"SELECT 2", .select, true, 2⟩]⟩).body =
        "\n".intercalate (above ++ ["- DELETE FROM t", "- SELECT 1", "- SELECT 2"] ++ below) := by
  obtain ⟨_, above, below, hlast, hbody, hbody'⟩ := @build_of_perm
    ⟨[⟨"SELECT 1", .select, true, 3⟩, ⟨"DELETE FROM t", .delete, false, 9⟩,
      ⟨"SELECT 2", .select, true, 2⟩]⟩
    ⟨[⟨"DELETE FROM t", .delete, false, 9⟩, ⟨"SELECT 1", .select, true, 3⟩,
      ⟨"SELECT 2", .select, true, 2⟩]⟩
    (List.Perm.swap _ _ _) ["hint"]
  exact ⟨above, below, hlast (by simp), hbody, hbody'⟩

end Report

end QueryAudit
