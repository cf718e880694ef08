import QueryAudit.Proofs.Statement.Ordinary
import QueryAudit.Proofs.Statement.SameKind

/-!
# The kind of a shape

Shaping a statement keeps its words and its parentheses, and puts the mark in place of tokens
that are as mute as the mark itself.  What it drops are gaps, signs in front of numbers, and
semicolons at the end.  So the tokens of a shape are of the kind of the statement's tokens,
`sameKind_shapeTokens`.

The kind of the shape is read off its text.  Where this text is read as the tokens of the
shape, the statement and its shape are of one kind, and statements that share a shape are too.
-/

namespace QueryAudit.Statement

open Sql

/-- Literals are mute. -/
theorem isMute_of_isLiteral {t : Token} (h : t.isLiteral = true) : isMute t = true := by
  cases t <;> first | rfl | cases h

/-- Spacing does not change the kind. -/
theorem sameKind_spaced (gap : Bool) (ts : List Token) : SameKind (spaced gap ts) ts := by
  fun_induction spaced gap ts with
  | case1 => exact .refl []
  | case2 gap t ts ht ih => exact (ih.symm.gap ht).symm
  | case3 t ts ht ih => exact (ih.cons t).gap rfl
  | case4 gap t ts ht hgap ih => exact ih.cons t

/-- Nor does masking. -/
theorem sameKind_masked (operand : Bool) (ts : List Token) : SameKind (masked operand ts) ts := by
  fun_induction masked operand ts with
  | case1 => exact .refl []
  | case2 text ts ih => exact (SameKind.mute rfl rfl ih.afterWith).cons .minus
  | case3 operand text ts _ ih =>
      -- the mark stands for the sign and the number
      refine SameKind.mute rfl rfl fun base depth => ?_
      rw [ih.afterWith, kindAfterWith_eq_tail (t := .number text) (.inr rfl)]
  | case4 operand t ts _ ih =>
      split
      · next hliteral => exact SameKind.mute rfl (isMute_of_isLiteral hliteral) ih.afterWith
      · exact ih.cons t

/-- Nor does a space or semicolon at the end. -/
theorem sameKind_concat_ending {t : Token} (ht : isEnding t = true) (ts : List Token) :
    SameKind (ts ++ [t]) ts := by
  induction ts with
  | nil =>
      rw [isEnding, Bool.or_eq_true, beq_iff_eq, beq_iff_eq] at ht
      rcases ht with rfl | rfl
      · exact (SameKind.refl []).gap rfl
      · exact ⟨fun _ => rfl, fun _ _ => rfl⟩
  | cons u ts ih => exact ih.cons u

/-- So all of them may be dropped. -/
theorem sameKind_trimmed (ts : List Token) : SameKind (trimmed ts) ts := by
  induction ts using List.reverseRecOn with
  | nil => exact .refl []
  | append_singleton ts t ih =>
      cases ht : isEnding t with
      | true =>
          rw [trimmed, List.rdropWhile_concat_pos _ _ _ ht]
          exact ih.trans (sameKind_concat_ending ht ts).symm
      | false =>
          rw [trimmed, List.rdropWhile_concat_neg _ _ _ (by simp [ht])]
          exact .refl _

/-- **Shaping tokens does not change their kind.** -/
theorem sameKind_shapeTokens (ts : List Token) : SameKind (shapeTokens ts) ts :=
  (sameKind_masked false _).trans ((sameKind_spaced false _).trans (SameKind.dropWhile ts))

/-- A legible statement and its shape are of one kind. -/
theorem classify_shape_of_legible {statement : String} {ts : List Token}
    (h : tokenize statement.toList = some ts) (hlegible : Legible ts) :
    classify (shape statement) = classify statement := by
  have hread : tokenize (shape statement).toList = some (trimmed (shapeTokens ts)) := by
    rw [shape, String.toList_ofList]
    exact tokenize_shapeOfChars h hlegible
  have hkind : SameKind (trimmed (shapeTokens ts)) ts :=
    (sameKind_trimmed _).trans (sameKind_shapeTokens ts)
  rw [classify_of_tokenize hread, classify_of_tokenize h, hkind.first]

/-- **The kind of an ordinary statement is that of its shape**, so that two of them with one
shape are of one kind. -/
theorem classify_shape {statement other : String} {ts us : List Token}
    (h : Ordinary statement.toList ts) (hother : Ordinary other.toList us) :
    classify (shape statement) = classify statement ∧
      (shape statement = shape other → classify statement = classify other) := by
  have hkind := classify_shape_of_legible h.tokenize h.legible
  refine ⟨hkind, fun hshape => ?_⟩
  rw [← hkind, hshape, classify_shape_of_legible hother.tokenize hother.legible]

/-- A verb in quotes, one in a comment, a sign, and an open parenthesis in front. -/
theorem classify_shape_of_update :
    ∃ ts us,
      Ordinary "(WITH a AS (SELECT b FROM c) -- DELETE\n UPDATE d SET e = -5, f = 'x';".toList ts ∧
      Ordinary "(WITH a AS (SELECT b FROM c) UPDATE d SET e = 7, f = \"INSERT\"".toList us ∧
      classify (shape "(WITH a AS (SELECT b FROM c) -- DELETE\n UPDATE d SET e = -5, f = 'x';") =
        .update ∧
      classify "(WITH a AS (SELECT b FROM c) -- DELETE\n UPDATE d SET e = -5, f = 'x';" =
        classify "(WITH a AS (SELECT b FROM c) UPDATE d SET e = 7, f = \"INSERT\"" := by
  have hread : tokenize
      "(WITH a AS (SELECT b FROM c) -- DELETE\n UPDATE d SET e = -5, f = 'x';".toList =
        some ((tokenize
          "(WITH a AS (SELECT b FROM c) -- DELETE\n UPDATE d SET e = -5, f = 'x';".toList).getD
            []) := by
    decide +kernel
  have hother : tokenize
      "(WITH a AS (SELECT b FROM c) UPDATE d SET e = 7, f = \"INSERT\"".toList =
        some ((tokenize
          "(WITH a AS (SELECT b FROM c) UPDATE d SET e = 7, f = \"INSERT\"".toList).getD []) := by
    decide +kernel
  have hordinary := ordinary_of_tokenize hread (by decide +kernel) (by decide)
  have hordinary' := ordinary_of_tokenize hother (by decide +kernel) (by decide)
  obtain ⟨hkind, hsame⟩ := classify_shape hordinary hordinary'
  exact ⟨_, _, hordinary, hordinary', hkind.trans (by decide +kernel), hsame (by decide +kernel)⟩

end QueryAudit.Statement
