import Mathlib.Data.List.Chain
import QueryAudit.Statement.Shape

/-!
# The tokens of a shape

Shaping does three things to a token list: it makes gaps single spaces, drops them at
both ends, and puts the mark in place of literals.  `Plain` says what is left to do
nothing about, and `shapeTokens_eq_self_iff` that these are the lists which shaping
leaves alone.  Every shape is plain, so shaping tokens twice is shaping them once.
-/

namespace QueryAudit.Statement

open Sql

/-- Gaps are spaces, stand one by one and not at the end. -/
structure Spaced (ts : List Token) : Prop where
  space : ∀ t ∈ ts, t.isGap = true → t = .space
  single : ts.IsChain fun t u => ¬ (t.isGap = true ∧ u.isGap = true)
  last : ∀ t ∈ ts.getLast?, t.isGap = false

/-- No literals, and no gaps but single spaces between other tokens. -/
structure Plain (ts : List Token) : Prop extends Spaced ts where
  first : ∀ t ∈ ts.head?, t.isGap = false
  literal : ∀ t ∈ ts, t.isLiteral = false

/-! ## Gaps -/

theorem Spaced.nil : Spaced [] := ⟨by simp, .nil, by simp⟩

/-- A token that is no gap may stand in front of every spaced list. -/
theorem Spaced.cons_token {t : Token} {ts : List Token} (ht : t.isGap = false)
    (h : Spaced ts) : Spaced (t :: ts) where
  space := by
    intro u hu hgap
    rcases List.mem_cons.mp hu with rfl | hu
    · rw [ht] at hgap
      cases hgap
    · exact h.space u hu hgap
  single := by
    refine List.isChain_cons.mpr ⟨?_, h.single⟩
    intro u _ hgaps
    obtain ⟨hgap, _⟩ := hgaps
    rw [ht] at hgap
    cases hgap
  last := by
    intro u hu
    cases hts : ts.getLast? with
    | none =>
        rw [List.getLast?_eq_none_iff.mp hts] at hu
        cases hu
        exact ht
    | some v =>
        rw [List.getLast?_cons, hts] at hu
        cases hu
        exact h.last _ hts

/-- A space may stand in front of a spaced list that starts with another token. -/
theorem Spaced.cons_space {t : Token} {ts : List Token} (ht : t.isGap = false)
    (h : Spaced (t :: ts)) : Spaced (.space :: t :: ts) where
  space := by
    intro u hu hgap
    rcases List.mem_cons.mp hu with rfl | hu
    · rfl
    · exact h.space u hu hgap
  single := by
    refine List.isChain_cons.mpr ⟨?_, h.single⟩
    intro u hu hgaps
    obtain ⟨_, hgap⟩ := hgaps
    cases hu
    rw [ht] at hgap
    cases hgap
  last := fun u hu => h.last u (by simpa using hu)

/-- The end of a spaced list is spaced. -/
theorem Spaced.tail {t : Token} {ts : List Token} (h : Spaced (t :: ts)) : Spaced ts where
  space := fun u hu => h.space u (List.mem_cons_of_mem t hu)
  single := h.single.tail
  last := by
    intro u hu
    apply h.last u
    rw [List.getLast?_cons, Option.mem_def.mp hu]
    rfl

/-- Behind a space of a spaced list stands another token. -/
theorem Spaced.exists_cons {t : Token} {ts : List Token} (ht : t.isGap = true)
    (h : Spaced (t :: ts)) : ∃ u us, ts = u :: us ∧ u.isGap = false := by
  cases ts with
  | nil =>
      have hlast := h.last t rfl
      rw [ht] at hlast
      cases hlast
  | cons u us =>
      refine ⟨u, us, rfl, ?_⟩
      have hpair := (List.isChain_cons_cons.mp h.single).1
      grind

/-- Spacing makes a list spaced. -/
theorem spaced_spaced (gap : Bool) (ts : List Token) : Spaced (spaced gap ts) := by
  fun_induction spaced gap ts with
  | case1 => exact Spaced.nil
  | case2 gap t ts ht ih => exact ih
  | case3 t ts ht ih =>
      have ht : t.isGap = false := by simpa using ht
      exact (ih.cons_token ht).cons_space ht
  | case4 gap t ts ht hgap ih =>
      have ht : t.isGap = false := by simpa using ht
      exact ih.cons_token ht

/-- Spacing leaves a spaced list alone. -/
theorem spaced_eq_self {ts : List Token} (h : Spaced ts) : spaced false ts = ts := by
  induction ts with
  | nil => rfl
  | cons t ts ih =>
      have hrest := ih h.tail
      cases ht : t.isGap with
      | true =>
          obtain rfl := h.space t List.mem_cons_self ht
          obtain ⟨u, us, rfl, hu⟩ := h.exists_cons rfl
          have hnext : u :: spaced false us = u :: us := by
            simpa [spaced, hu] using hrest
          rw [spaced, if_pos ht, spaced, if_neg (by simp [hu]), if_pos rfl, hnext]
      | false => simp [spaced, ht, hrest]

/-- Spacing a list that starts with a token other than a gap keeps that token in front. -/
theorem head?_spaced {ts : List Token} (h : ∀ t ∈ ts.head?, t.isGap = false) :
    (spaced false ts).head? = ts.head? := by
  cases ts with
  | nil => rfl
  | cons t ts => simp [spaced, h t rfl]

/-! ## Literals -/

/-- The mark is no gap. -/
theorem isGap_mark : mark.isGap = false := rfl

/-- The mark in place of a literal. -/
def hidden (t : Token) : Token := if t.isLiteral then mark else t

/-- What hides a literal is none. -/
theorem isLiteral_hidden (t : Token) : (hidden t).isLiteral = false := by
  unfold hidden
  split
  · rfl
  · next h => simpa using h

/-- Literals are no gaps, and neither is what hides them. -/
theorem isGap_hidden (t : Token) : (hidden t).isGap = t.isGap := by
  unfold hidden
  split
  · cases t <;> first | rfl | contradiction
  · rfl

/-- A token that hides as a gap is that gap. -/
theorem hidden_of_isGap {t : Token} (h : t.isGap = true) : hidden t = t := by
  cases t <;> simp [Token.isGap] at h <;> rfl

/-- Masking hides every literal. -/
theorem masked_literal (operand : Bool) (ts : List Token) :
    ∀ t ∈ masked operand ts, t.isLiteral = false := by
  fun_induction masked operand ts with
  | case1 => simp
  | case2 text ts ih =>
      simp only [List.mem_cons, forall_eq_or_imp]
      exact ⟨rfl, rfl, ih⟩
  | case3 operand text ts _ ih =>
      simp only [List.mem_cons, forall_eq_or_imp]
      exact ⟨rfl, ih⟩
  | case4 operand t ts _ ih =>
      simp only [List.mem_cons, forall_eq_or_imp]
      exact ⟨isLiteral_hidden t, ih⟩

/-- Masking leaves a list without literals alone. -/
theorem masked_eq_self {operand : Bool} {ts : List Token}
    (h : ∀ t ∈ ts, t.isLiteral = false) : masked operand ts = ts := by
  fun_induction masked operand ts with
  | case1 => rfl
  | case2 text ts ih | case3 operand text ts _ ih =>
      have hnumber := h (.number text) (by simp)
      cases hnumber
  | case4 operand t ts _ ih =>
      have ht := h t List.mem_cons_self
      have hts := ih fun u hu => h u (List.mem_cons_of_mem t hu)
      rw [hts]
      simp [ht]

/-- A token that is no literal makes no minus sign in front of it the sign of a number. -/
theorem unsigned_concat {t last : Token} {ts : List Token} (hlast : last.isLiteral = false)
    (h : ∀ text us, t = .minus → ts = .number text :: us → False) :
    ∀ text us, t = .minus → ts ++ [last] = .number text :: us → False := by
  intro text us ht hus
  cases ts with
  | nil =>
      obtain rfl := (List.cons.inj hus).1
      cases hlast
  | cons u ts => exact h text ts ht (by rw [(List.cons.inj hus).1])

/-- Masking leaves a token at the end alone if it is no literal. -/
theorem masked_concat (operand : Bool) (ts : List Token) {last : Token}
    (h : last.isLiteral = false) : masked operand (ts ++ [last]) = masked operand ts ++ [last] := by
  fun_induction masked operand ts with
  | case1 => exact masked_eq_self (by simpa using h)
  | case2 text ts ih | case3 operand text ts _ ih => simp [masked, *]
  | case4 operand t ts hpair ih =>
      rw [List.cons_append, masked, ih]
      · rfl
      · exact unsigned_concat h hpair

/-- Masking keeps a list spaced, and a gap in front of it. -/
theorem masked_spaced (operand : Bool) {ts : List Token} (h : Spaced ts) :
    Spaced (masked operand ts) ∧
      (masked operand ts).head?.map Token.isGap = ts.head?.map Token.isGap := by
  fun_induction masked operand ts with
  | case1 => exact ⟨h, rfl⟩
  | case2 text ts ih =>
      have hrest := (ih h.tail.tail).1
      exact ⟨(hrest.cons_token isGap_mark).cons_token rfl, rfl⟩
  | case3 operand text ts _ ih =>
      have hrest := (ih h.tail.tail).1
      exact ⟨hrest.cons_token isGap_mark, rfl⟩
  | case4 operand t ts _ ih =>
      obtain ⟨hrest, hhead⟩ := ih h.tail
      refine ⟨?_, by simp [← isGap_hidden t, hidden]⟩
      change Spaced (hidden t :: _)
      cases ht : t.isGap with
      | false => exact hrest.cons_token (by rw [isGap_hidden, ht])
      | true =>
          -- behind a gap stands another token, also when it is masked
          obtain rfl := h.space t List.mem_cons_self ht
          obtain ⟨u, us, rfl, hu⟩ := h.exists_cons ht
          cases hmasked : masked (operandAfter operand .space) (u :: us) with
          | nil => simp [hmasked] at hhead
          | cons v vs =>
              rw [hmasked] at hhead hrest
              simp only [List.head?_cons, Option.map_some, Option.some.injEq] at hhead
              exact hrest.cons_space (by rw [hhead, hu])

/-! ## Shapes -/

/-- What is left of a list when the gaps in front are dropped starts with none. -/
theorem isGap_of_mem_head?_dropWhile (ts : List Token) :
    ∀ t ∈ (ts.dropWhile Token.isGap).head?, t.isGap = false := by
  intro t ht
  have hnot := List.head?_dropWhile_not Token.isGap ts
  rwa [Option.mem_def.mp ht] at hnot

/-- **Every shape is plain.** -/
theorem shapeTokens_plain (ts : List Token) : Plain (shapeTokens ts) := by
  have hspaced := spaced_spaced false (ts.dropWhile Token.isGap)
  obtain ⟨hmasked, hhead⟩ := masked_spaced false hspaced
  refine ⟨hmasked, ?_, masked_literal _ _⟩
  have hfirst := isGap_of_mem_head?_dropWhile ts
  intro t ht
  rw [head?_spaced hfirst] at hhead
  have hmap : ((ts.dropWhile Token.isGap).head?).map Token.isGap = some t.isGap := by
    rw [← hhead]
    exact congrArg (Option.map Token.isGap) ht
  obtain ⟨u, hu, hgap⟩ := Option.map_eq_some_iff.mp hmap
  rw [← hgap]
  exact hfirst u hu

/-- **Shaping leaves exactly the plain lists alone.** -/
theorem shapeTokens_eq_self_iff {ts : List Token} : shapeTokens ts = ts ↔ Plain ts := by
  constructor
  · intro h
    rw [← h]
    exact shapeTokens_plain ts
  · intro h
    have hdrop : ts.dropWhile Token.isGap = ts := by
      cases ts with
      | nil => rfl
      | cons t ts => simp [h.first t rfl]
    rw [shapeTokens, hdrop, spaced_eq_self h.toSpaced, masked_eq_self h.literal]

end QueryAudit.Statement
