import QueryAudit.Proofs.Run.Analysis
import QueryAudit.Proofs.Statement.Values

/-!
# The values behind a repeated shape

A shape is reported when it was executed with different texts, and that is taken for
different values.  It need not be so.  Two texts with one shape may have the same values and
differ in their layout, in gaps, comments, or semicolons at the end; in the places of their
parameters, marks of their own that the shape does not tell from hidden values; or in tokens
that are only written alike.  All three are reported: `not_differ_valuesOf`.

There is no fourth way, `analyze_values`.  The last one is closed for shapes that are read
back, and the second one where the number of parameters differs as well.
-/

namespace QueryAudit.Run

open Sql
open Statement (shape valuesOf parametersOf outlineOf contentOf ReadBack)

/-- Two executions have the shape and differ in a part of their statements. -/
def Differ {α : Type} (run : Run) (s : String) (part : String → α) : Prop :=
  ∃ e ∈ run.executions, ∃ f ∈ run.executions,
    shape e.text = s ∧ shape f.text = s ∧ part e.text ≠ part f.text

instance {α : Type} [DecidableEq α] (run : Run) (s : String) (part : String → α) :
    Decidable (run.Differ s part) :=
  inferInstanceAs (Decidable (∃ e ∈ run.executions, ∃ f ∈ run.executions, _))

/-- The values of the shape stay the same while the parameters move. -/
def ParametersMove (run : Run) (s : String) : Prop :=
  ¬ run.Differ s valuesOf ∧ run.Differ s parametersOf

/-- The values of the shape stay the same while its tokens change, which are written alike. -/
def WrittenAlike (run : Run) (s : String) : Prop :=
  ¬ run.Differ s valuesOf ∧ run.Differ s outlineOf

instance (run : Run) (s : String) : Decidable (run.ParametersMove s) :=
  inferInstanceAs (Decidable (_ ∧ _))

instance (run : Run) (s : String) : Decidable (run.WrittenAlike s) :=
  inferInstanceAs (Decidable (_ ∧ _))

variable {run : Run} {s : String}

/-- Executions that do not differ in a part agree in it. -/
theorem eq_of_not_differ {α : Type} {part : String → α} (h : ¬ run.Differ s part)
    {e f : Execution} (he : e ∈ run.executions) (hf : f ∈ run.executions)
    (hes : shape e.text = s) (hfs : shape f.text = s) : part e.text = part f.text := by
  by_contra hne
  exact h ⟨e, he, f, hf, hes, hfs, hne⟩

/-- Executions that differ in a part differ in everything that determines it. -/
theorem Differ.mono {α β : Type} {part : String → α} {whole : String → β}
    (h : run.Differ s part)
    (hdetermined : ∀ {text text' : String}, whole text = whole text' → part text = part text') :
    run.Differ s whole := by
  obtain ⟨e, he, f, hf, hes, hfs, hne⟩ := h
  exact ⟨e, he, f, hf, hes, hfs, fun hwhole => hne (hdetermined hwhole)⟩

/-- **Executions of one shape differ in content** if they differ in the outline, in the
parameters, or in the values. -/
theorem differ_contentOf_iff :
    run.Differ s contentOf ↔
      run.Differ s outlineOf ∨ run.Differ s parametersOf ∨ run.Differ s valuesOf := by
  constructor
  · rintro ⟨e, he, f, hf, hes, hfs, hcontent⟩
    by_contra hnone
    simp only [not_or] at hnone
    obtain ⟨houtline, hparameters, hvalues⟩ := hnone
    exact hcontent (Statement.contentOf_eq_iff.mpr
      ⟨eq_of_not_differ houtline he hf hes hfs, eq_of_not_differ hparameters he hf hes hfs,
        eq_of_not_differ hvalues he hf hes hfs⟩)
  · rintro (houtline | hparameters | hvalues)
    · exact houtline.mono fun hcontent => (Statement.contentOf_eq_iff.mp hcontent).1
    · exact hparameters.mono fun hcontent => (Statement.contentOf_eq_iff.mp hcontent).2.1
    · exact hvalues.mono fun hcontent => (Statement.contentOf_eq_iff.mp hcontent).2.2

/-- **The values of a shape differ** when its contents do, but for the two exceptions. -/
theorem differ_valuesOf_iff :
    run.Differ s valuesOf ↔
      run.Differ s contentOf ∧ ¬ run.ParametersMove s ∧ ¬ run.WrittenAlike s := by
  rw [differ_contentOf_iff, ParametersMove, WrittenAlike]
  tauto

/-- A shape that is read back has one outline. -/
theorem not_differ_outlineOf
    (h : ∀ e ∈ run.executions, shape e.text = s → ReadBack e.text) :
    ¬ run.Differ s outlineOf := by
  rintro ⟨e, he, f, hf, hes, hfs, hne⟩
  exact hne (Statement.outlineOf_eq_of_shape_eq (h e he hes) (h f hf hfs) (hes.trans hfs.symm))

/-- In one outline, different numbers of parameters leave room for different numbers of
values. -/
theorem differ_valuesOf_of_count (houtline : ¬ run.Differ s outlineOf)
    (h : run.Differ s fun text => (parametersOf text).count true) : run.Differ s valuesOf := by
  obtain ⟨e, he, f, hf, hes, hfs, hne⟩ := h
  refine ⟨e, he, f, hf, hes, hfs, fun hvalues => hne ?_⟩
  have hlength := Statement.length_valuesOf_add e.text
  rw [eq_of_not_differ houtline he hf hes hfs, ← Statement.length_valuesOf_add f.text,
    hvalues] at hlength
  exact Nat.add_left_cancel hlength

/-- **Which repeated shapes were executed with different values.**

* It is those whose executions differ in content, unless they have the same values and
  either their parameters move or their tokens are written alike.
* If the shape is read back, no tokens are written alike.  Then the values differ if the
  numbers of parameters do; and they differ if the parameters stay in their places and no
  content was written in two ways. -/
theorem analyze_values {r : RepeatedShape} (hr : r ∈ run.analyze.repeatedShapes) :
    (run.Differ r.shape valuesOf ↔
      run.Differ r.shape contentOf ∧
        ¬ run.ParametersMove r.shape ∧ ¬ run.WrittenAlike r.shape) ∧
    ((∀ e ∈ run.executions, shape e.text = r.shape → ReadBack e.text) →
      ¬ run.WrittenAlike r.shape ∧
      ((run.Differ r.shape fun text => (parametersOf text).count true) →
        run.Differ r.shape valuesOf) ∧
      (¬ run.Differ r.shape parametersOf →
        (∀ e ∈ run.executions, ∀ f ∈ run.executions, shape e.text = r.shape →
          shape f.text = r.shape → contentOf e.text = contentOf f.text → e.text = f.text) →
        run.Differ r.shape valuesOf)) := by
  refine ⟨differ_valuesOf_iff, fun hread => ?_⟩
  have houtline := not_differ_outlineOf hread
  refine ⟨fun halike => houtline halike.2, differ_valuesOf_of_count houtline, ?_⟩
  intro hparameters hlayout
  obtain ⟨e, f, hbefore, hne, hes, hfs⟩ :=
    mem_repeatedShapes_iff.mp (List.mem_map_of_mem hr)
  have hsub := before_iff_sublist.mp hbefore
  have he : e ∈ run.executions := hsub.subset (by simp)
  have hf : f ∈ run.executions := hsub.subset (by simp)
  have hcontent : run.Differ r.shape contentOf :=
    ⟨e, he, f, hf, hes, hfs, fun hcontent => hne (hlayout e he f hf hes hfs hcontent)⟩
  have hpart := differ_contentOf_iff.mp hcontent
  exact (hpart.resolve_left houtline).resolve_left hparameters

/-- A value that is bound once and written once, a statement in two layouts, and a sign. -/
theorem analyze_values_of_parameter :
    let run : Run := ⟨[⟨"SELECT a FROM t WHERE b = ?", .select, true, 1⟩,
      ⟨"SELECT a FROM t -- all", .select, true, 1⟩,
      ⟨"SELECT a FROM t WHERE b = 5", .select, false, 1⟩,
      ⟨"SELECT a\n FROM t", .select, true, 1⟩, ⟨"SELECT 1 + ?", .select, true, 1⟩,
      ⟨"SELECT -1 + ?", .select, true, 1⟩]⟩
    run.analyze.repeatedShapes =
        [⟨"SELECT a FROM t WHERE b = ?", 2⟩, ⟨"SELECT a FROM t", 2⟩, ⟨"SELECT ? + ?", 2⟩] ∧
      run.Differ "SELECT a FROM t WHERE b = ?" valuesOf ∧
      ¬ run.Differ "SELECT a FROM t" valuesOf ∧ run.Differ "SELECT ? + ?" valuesOf := by
  intro run
  have hshapes : run.analyze.repeatedShapes =
      [⟨"SELECT a FROM t WHERE b = ?", 2⟩, ⟨"SELECT a FROM t", 2⟩, ⟨"SELECT ? + ?", 2⟩] := by
    decide +kernel
  have hread : ∀ e ∈ run.executions, ReadBack e.text := by
    have hlegible : ∀ e ∈ run.executions,
        ∃ ts ∈ tokenize e.text.toList, Statement.Legible ts := by decide +kernel
    intro e he
    obtain ⟨ts, hts, hlegible⟩ := hlegible e he
    exact hlegible.readBack hts
  have hall {r : RepeatedShape} (hr : r ∈ run.analyze.repeatedShapes) := analyze_values hr
  rw [hshapes] at hall
  have hbound := hall (r := ⟨"SELECT a FROM t WHERE b = ?", 2⟩) (by decide)
  have hlayout := hall (r := ⟨"SELECT a FROM t", 2⟩) (by decide)
  have hsign := hall (r := ⟨"SELECT ? + ?", 2⟩) (by decide)
  refine ⟨hshapes, ?_, ?_, ?_⟩
  · exact (hbound.2 fun e he _ => hread e he).2.1 (by decide +kernel)
  · intro hvalues
    have hcontent := (hlayout.1.mp hvalues).1
    revert hcontent
    decide +kernel
  · exact (hsign.2 fun e he _ => hread e he).2.2 (by decide +kernel) (by decide +kernel)

/-- Texts that differ in a comment, in the places of their parameters, or in operators that
are only written alike make a finding without different values. -/
theorem not_differ_valuesOf :
    let comments : Run := ⟨[
      ⟨"SELECT title FROM book WHERE id = 7 /* request 1 */", .select, true, 1⟩,
      ⟨"SELECT title FROM book WHERE id = 7 /* request 2 */", .select, true, 1⟩]⟩
    let parameters : Run := ⟨[⟨"SELECT a FROM t WHERE b = ? AND c = 1", .select, true, 1⟩,
      ⟨"SELECT a FROM t WHERE b = 1 AND c = ?", .select, true, 1⟩]⟩
    let operators : Run := ⟨[⟨"SELECT a <!= b FROM t", .select, true, 1⟩,
      ⟨"SELECT a <<> b FROM t", .select, true, 1⟩]⟩
    (∀ e ∈ comments.executions ++ parameters.executions ++ operators.executions,
      (tokenize e.text.toList).isSome = true) ∧
    (comments.analyze.repeatedShapes = [⟨"SELECT title FROM book WHERE id = ?", 2⟩] ∧
      ¬ comments.Differ "SELECT title FROM book WHERE id = ?" valuesOf) ∧
    (parameters.analyze.repeatedShapes = [⟨"SELECT a FROM t WHERE b = ? AND c = ?", 2⟩] ∧
      parameters.ParametersMove "SELECT a FROM t WHERE b = ? AND c = ?") ∧
    operators.analyze.repeatedShapes = [⟨"SELECT a <<> b FROM t", 2⟩] ∧
      operators.WrittenAlike "SELECT a <<> b FROM t" := by
  decide +kernel

end QueryAudit.Run
