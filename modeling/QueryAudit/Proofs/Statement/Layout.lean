import Mathlib.Data.List.DropRight
import QueryAudit.Proofs.Sql.Layout
import QueryAudit.Proofs.Statement.LiteralHole
import QueryAudit.Proofs.Statement.ReadBack

/-!
# Layout does not show in a shape

Where two parts of a statement are set apart by a space, any amount of blanks and complete
comments may follow that space, and the shape stays the same: at the start of the statement,
in the middle and at its end.  At the end spaces and semicolons do not show either.

The tokens need not stay the same.  Carriage returns and line feeds can meet, an open line
comment takes in what follows, and a lone mark makes a word of a semicolon.  What stays is
all that a shape takes from them (`shape_of_layout`).
-/

namespace QueryAudit.Statement

open Sql

/-! ## Gaps in the middle -/

/-- Behind a gap more gaps do not count. -/
theorem spaced_dropWhile (ts : List Token) :
    spaced true (ts.dropWhile Token.isGap) = spaced true ts := by
  induction ts with
  | nil => rfl
  | cons t ts ih =>
      cases ht : t.isGap with
      | true => rw [List.dropWhile_cons_of_pos ht, ih, spaced, if_pos ht]
      | false => rw [List.dropWhile_cons_of_neg (by simp [ht])]

/-- Nor do they behind a gap in the middle of a list. -/
theorem spaced_append_gap {t : Token} (ht : t.isGap = true) (gap : Bool) (ts us : List Token) :
    spaced gap (ts ++ t :: us) = spaced gap (ts ++ t :: us.dropWhile Token.isGap) := by
  induction ts generalizing gap with
  | nil => simp only [List.nil_append, spaced, if_pos ht, spaced_dropWhile]
  | cons u ts ih => simp only [List.cons_append, spaced, ih]

/-- **What follows a gap counts from its first token that is none.** -/
theorem shapeTokens_append_gap {t : Token} (ht : t.isGap = true) (ts us : List Token) :
    shapeTokens (ts ++ t :: us) = shapeTokens (ts ++ t :: us.dropWhile Token.isGap) := by
  rw [shapeTokens, shapeTokens, List.dropWhile_append, List.dropWhile_append]
  cases hts : ts.dropWhile Token.isGap with
  | nil => simp [ht, List.dropWhile_idempotent]
  | cons u rest =>
      simp only [List.isEmpty_cons, Bool.false_eq_true, if_false]
      rw [spaced_append_gap ht]

/-! ## The end -/

/-- Spacing drops a gap at the end. -/
theorem spaced_concat_gap {t : Token} (ht : t.isGap = true) (gap : Bool) (ts : List Token) :
    spaced gap (ts ++ [t]) = spaced gap ts := by
  induction ts generalizing gap with
  | nil => simp [spaced, ht]
  | cons u ts ih => simp only [List.cons_append, spaced, ih]

/-- A gap at the end does not count. -/
theorem shapeTokens_concat_gap {t : Token} (ht : t.isGap = true) (ts : List Token) :
    shapeTokens (ts ++ [t]) = shapeTokens ts := by
  rw [shapeTokens, shapeTokens, List.dropWhile_append]
  cases hts : ts.dropWhile Token.isGap with
  | nil => simp [ht]
  | cons u rest =>
      simp only [List.isEmpty_cons, Bool.false_eq_true, if_false]
      rw [spaced_concat_gap ht]

/-- A token that is neither a gap nor a literal stands at the end of the shape, behind what
does not depend on it. -/
theorem shapeTokens_concat {t : Token} (hgap : t.isGap = false) (hliteral : t.isLiteral = false)
    (ts : List Token) :
    shapeTokens (ts ++ [t]) =
      masked false (spacedBefore false (ts.dropWhile Token.isGap)) ++ [t] := by
  rw [shapeTokens, Text.dropWhile_append_cons hgap, spaced_append_cons hgap, spaced,
    masked_concat false _ hliteral]

/-- What spacing puts in front of a token is the spaced list, or that and a space. -/
theorem spacedBefore_eq (gap : Bool) (ts : List Token) :
    spacedBefore gap ts = spaced gap ts ∨ spacedBefore gap ts = spaced gap ts ++ [.space] := by
  induction ts generalizing gap with
  | nil => cases gap <;> simp [spacedBefore, spaced]
  | cons t ts ih =>
      rw [spacedBefore, spaced]
      cases t.isGap with
      | true => simpa using ih true
      | false =>
          rcases ih false with h | h
          · exact .inl (by simp [h])
          · exact .inr (by cases gap <;> simp [h])

/-- Spaces and semicolons at the end of a text do not count. -/
theorem dropTrailing_append {e : List Char} (he : ∀ c ∈ e, isTrailing c = true) (a : List Char) :
    dropTrailing (a ++ e) = dropTrailing a := by
  rw [dropTrailing, List.reverse_append, List.dropWhile_append_of_pos (by simpa using he)]
  rfl

/-- **A space or semicolon behind a statement leaves its shape as it is.** -/
theorem dropTrailing_of_extends {f : Char} (hf : f ∈ [' ', ';']) {ts us : List Token}
    (h : Extends f ts us) :
    dropTrailing (Token.text (shapeTokens us)) = dropTrailing (Token.text (shapeTokens ts)) := by
  have htrailing : ∀ c ∈ [f], isTrailing c = true := by
    simp only [List.mem_cons, List.not_mem_nil, or_false] at hf
    rcases hf with rfl | rfl <;> simp [isTrailing]
  cases h with
  | comment front text => rw [shapeTokens_concat_gap rfl, shapeTokens_concat_gap rfl]
  | mark front mark =>
      have hword : Token.text [.word (mark ++ [f])] = Token.text [.symbol mark] ++ [f] := by
        simp [Token.text, Token.written]
      rw [shapeTokens_concat rfl rfl, shapeTokens_concat rfl rfl, Token.text_append, hword,
        ← List.append_assoc, dropTrailing_append htrailing, Token.text_append]
  | token _ ht =>
      simp only [List.mem_cons, List.not_mem_nil, or_false] at hf
      rcases hf with rfl | rfl
      · cases ht
        rw [shapeTokens_concat_gap rfl]
      · cases ht
        rw [shapeTokens_concat rfl rfl, Token.text_append]
        show dropTrailing (_ ++ [';']) = _
        rw [dropTrailing_append htrailing]
        rcases spacedBefore_eq false (ts.dropWhile Token.isGap) with h | h
        · rw [h]
          rfl
        · rw [h, masked_concat _ _ rfl, Token.text_append]
          exact dropTrailing_append (by simp [Token.text, Token.written, isTrailing]) _

/-! ## Shapes -/

/-- A statement that can be read can still be read with spaces and semicolons behind it, and
has the same shape. -/
theorem shapeOfChars_append {t u : List Char} (ht : (tokenize t).isSome)
    (hu : ∀ c ∈ u, c ∈ [' ', ';']) : shapeOfChars (t ++ u) = shapeOfChars t := by
  induction u generalizing t with
  | nil => rw [List.append_nil]
  | cons f u ih =>
      obtain ⟨ts, hts⟩ := Option.isSome_iff_exists.mp ht
      obtain ⟨us, hus, hextends⟩ := exists_extends hts (hu f List.mem_cons_self)
      have hstep : shapeOfChars (t ++ [f]) = shapeOfChars t := by
        rw [shapeOfChars_of_tokenize hus, shapeOfChars_of_tokenize hts,
          dropTrailing_of_extends (hu f List.mem_cons_self) hextends]
      have hrest := ih (t := t ++ [f]) (by rw [hus]; rfl)
        fun c hc => hu c (List.mem_cons_of_mem f hc)
      rw [← hstep, ← hrest, List.append_assoc, List.singleton_append]

/-- A shape does not depend on the layout behind a space. -/
theorem shapeOfChars_layout {p w s : List Char} {ts : List Token} (hp : tokenize p = some ts)
    (hend : ¬ EndsInComment ts) (hw : Layout w) (hread : (tokenize (p ++ ' ' :: s)).isSome) :
    shapeOfChars (p ++ ' ' :: (w ++ s)) = shapeOfChars (p ++ ' ' :: s) := by
  have hgaps := hw.tokenize_append s
  rw [tokenize_append_space hp hend, Option.isSome_map] at hread
  obtain ⟨us, hus⟩ := Option.isSome_iff_exists.mp hread
  rw [behindGaps, behindGaps, hus] at hgaps
  obtain ⟨vs, hvs, hdrop⟩ := Option.map_eq_some_iff.mp hgaps
  have hshort := tokenize_append_space hp hend s
  have hlong := tokenize_append_space hp hend (w ++ s)
  rw [hus] at hshort
  rw [hvs] at hlong
  rw [shapeOfChars_of_tokenize hshort, shapeOfChars_of_tokenize hlong,
    shapeTokens_append_gap rfl ts vs, hdrop, ← shapeTokens_append_gap rfl ts us]

/-- **Layout never changes a shape.**  Where a space sets two texts apart, blanks and complete
comments may follow it, and at the end spaces and semicolons. -/
theorem shape_of_layout :
    (∀ {p w s : String} {ts : List Token}, tokenize p.toList = some ts → ¬ EndsInComment ts →
      Layout w.toList → (tokenize (p ++ " " ++ s).toList).isSome →
        shape (p ++ (" " ++ w) ++ s) = shape (p ++ " " ++ s)) ∧
    ∀ {t u : String}, (tokenize t.toList).isSome → (∀ c ∈ u.toList, c = ' ' ∨ c = ';') →
      shape (t ++ u) = shape t := by
  have hspace : " ".toList = [' '] := rfl
  refine ⟨fun {p w s ts} hp hend hw hread => ?_, fun {t u} ht hu => ?_⟩
  · have hshort : (p ++ " " ++ s).toList = p.toList ++ ' ' :: s.toList := by simp [hspace]
    have hlong : (p ++ (" " ++ w) ++ s).toList = p.toList ++ ' ' :: (w.toList ++ s.toList) := by
      simp [hspace]
    rw [hshort] at hread
    rw [shape, shape, hshort, hlong, shapeOfChars_layout hp hend hw hread]
  · rw [shape, shape, String.toList_append, shapeOfChars_append ht (by simpa using hu)]

/-- A lone mark, a nested comment with quotes in it, and a semicolon behind a mark. -/
theorem shape_of_nested_comments :
    shape ("SELECT @" ++ (" " ++ "/* /* ' */ ; */-- it's\n\t") ++ "a") = shape "SELECT @ a" ∧
      shape ("SELECT @" ++ "; ;") = "SELECT @" := by
  have hlayout : Layout "/* /* ' */ ; */-- it's\n\t".toList :=
    @Layout.block " /* ' */ ; */".toList " /* ' */ ; ".toList _ (by decide +kernel)
      (@Layout.line " it's".toList _ (by decide) (.blank (by decide) .nil))
  have hend : ¬ EndsInComment [.word "SELECT".toList, .space, .symbol ['@']] := by
    rintro ⟨text, hlast, _⟩
    cases hlast
  constructor
  · exact shape_of_layout.1 (by decide +kernel) hend hlayout (by decide +kernel)
  · rw [shape_of_layout.2 (by decide +kernel) (by simp)]
    decide +kernel

end QueryAudit.Statement
