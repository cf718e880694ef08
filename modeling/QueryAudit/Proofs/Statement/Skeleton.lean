import Mathlib.Data.List.Destutter
import QueryAudit.Proofs.Statement.LiteralHole
import QueryAudit.Proofs.Statement.ReadBack

/-!
# Skeletons

The skeleton of a statement is what its shape is meant to show: the tokens with a mark in
place of every value.  It is said here without the states that shaping passes along.  A
run of gaps is what remains of it when repeated spaces are struck out, and a minus sign
belongs to a number by what stands in front of it, however far the last token is behind.

The tokens of a shape are the skeleton, `trimmed_shapeTokens`.
-/

namespace QueryAudit.Statement

open Sql

/-- The token, or a space for a gap. -/
def gapAsSpace (t : Token) : Token := if t.isGap then .space else t

/-- Two tokens that are not both spaces. -/
def NotSpaces (t u : Token) : Prop := ¬ (t = .space ∧ u = .space)

instance : DecidableRel NotSpaces := fun _ _ => inferInstanceAs (Decidable (¬ _))

/-- Is the last token that is no gap a literal or an operand? -/
def endsOperand (before : List Token) : Bool :=
  (before.filter fun t => !t.isGap).getLast?.any fun t => t.isLiteral || t.isOperand

/-- Is the token, with these tokens in front and behind, a minus sign that belongs to a
number?  It is if it stands directly in front of the number and does not subtract. -/
def isSign (before : List Token) (t : Token) (after : List Token) : Bool :=
  t == .minus && after.head?.any Token.isNumber && !endsOperand before

/-- The tokens behind `before` without the minus signs that belong to a number. -/
def unsigned (before : List Token) : List Token → List Token
  | [] => []
  | t :: ts =>
    if isSign before t ts then unsigned (before ++ [t]) ts
    else t :: unsigned (before ++ [t]) ts

/-- **The skeleton of a statement.**  Gaps are dropped in front and every run of them is
made one space; a minus sign that belongs to a number is dropped, and every literal made
the mark; then spaces and semicolons are dropped at the end. -/
def skeleton (ts : List Token) : List Token :=
  let spacedOut := ((ts.dropWhile Token.isGap).map gapAsSpace).destutter NotSpaces
  ((unsigned [] spacedOut).map hidden).rdropWhile isEnding

/-! ## Gaps -/

/-- A space that may be left at the end. -/
def IsLastSpace (ts : List Token) : Prop := ts = [] ∨ ts = [.space]

/-- Spacing strikes out repeated spaces, and the one at the end. -/
theorem destutter'_eq_spaced (ts : List Token) :
    (∀ t, t.isGap = false → ∃ last, IsLastSpace last ∧
      (ts.map gapAsSpace).destutter' NotSpaces t = t :: (spaced false ts ++ last)) ∧
    ∃ last, IsLastSpace last ∧
      (ts.map gapAsSpace).destutter' NotSpaces .space = spaced true ts ++ last := by
  induction ts with
  | nil => exact ⟨fun t _ => ⟨[], .inl rfl, rfl⟩, [.space], .inr rfl, rfl⟩
  | cons u ts ih =>
      obtain ⟨htoken, last, hlast, hspace⟩ := ih
      cases hu : u.isGap with
      | true =>
          have hgap : gapAsSpace u = .space := if_pos hu
          rw [List.map_cons, hgap, spaced, spaced, if_pos hu, if_pos hu]
          refine ⟨fun t ht => ⟨last, hlast, ?_⟩, last, hlast, ?_⟩
          · have hne : NotSpaces t .space := by
              rintro ⟨rfl, _⟩
              cases ht
            rw [List.destutter'_cons_pos _ hne, hspace]
          · rw [List.destutter'_cons_neg _ (by simp [NotSpaces]), hspace]
      | false =>
          have hsame : gapAsSpace u = u := if_neg (by simp [hu])
          have hne : ∀ t, NotSpaces t u := by
            rintro t ⟨_, rfl⟩
            cases hu
          obtain ⟨last, hlast, htoken⟩ := htoken u hu
          rw [List.map_cons, hsame]
          refine ⟨fun t _ => ⟨last, hlast, ?_⟩, last, hlast, ?_⟩
          · rw [List.destutter'_cons_pos _ (hne t), htoken, spaced, if_neg (by simp [hu])]
            rfl
          · rw [List.destutter'_cons_pos _ (hne _), htoken, spaced, if_neg (by simp [hu])]
            rfl

/-- What a statement is without its repeated gaps. -/
theorem destutter_eq_spaced (ts : List Token) : ∃ last, IsLastSpace last ∧
    ((ts.dropWhile Token.isGap).map gapAsSpace).destutter NotSpaces =
      spaced false (ts.dropWhile Token.isGap) ++ last := by
  cases hts : ts.dropWhile Token.isGap with
  | nil => exact ⟨[], .inl rfl, rfl⟩
  | cons t us =>
      have ht : t.isGap = false := by
        have hhead := List.head?_dropWhile_not Token.isGap ts
        rw [hts] at hhead
        simpa using hhead
      obtain ⟨last, hlast, heq⟩ := (destutter'_eq_spaced us).1 t ht
      have hsame : gapAsSpace t = t := if_neg (by simp [ht])
      refine ⟨last, hlast, ?_⟩
      rw [List.map_cons, hsame, List.destutter_cons', heq, spaced, if_neg (by simp [ht])]
      rfl

/-! ## Signs -/

/-- A sign is dropped. -/
theorem unsigned_sign {before ts : List Token} {t : Token} (h : isSign before t ts = true) :
    unsigned before (t :: ts) = unsigned (before ++ [t]) ts := by
  rw [unsigned, if_pos h]

/-- Any other token is kept. -/
theorem unsigned_token {before ts : List Token} {t : Token} (h : isSign before t ts = false) :
    unsigned before (t :: ts) = t :: unsigned (before ++ [t]) ts := by
  rw [unsigned, if_neg (by simp [h])]

/-- The last token decides, if it is no gap. -/
theorem endsOperand_append (before : List Token) (t : Token) :
    endsOperand (before ++ [t]) = operandAfter (endsOperand before) t := by
  have hstate (ts : List Token) : endsOperand ts = ts.foldl operandAfter false := by
    rw [foldl_operandAfter, endsOperand]
    cases (ts.filter fun t => !t.isGap).getLast? <;> rfl
  rw [hstate, hstate, List.foldl_append]
  rfl

/-- **Masking drops the signs of numbers and hides the literals.** -/
theorem masked_eq_hidden {operand : Bool} {before : List Token}
    (hbefore : endsOperand before = operand) (ts : List Token) :
    masked operand ts = (unsigned before ts).map hidden := by
  have hnumber (before ts : List Token) (text : List Char) :
      isSign before (.number text) ts = false := rfl
  fun_induction masked operand ts generalizing before with
  | case1 => rfl
  | case2 text ts ih =>
      have hsign : isSign before .minus (.number text :: ts) = false := by
        simp [isSign, hbefore]
      have hnext : endsOperand (before ++ [.minus] ++ [.number text]) = true :=
        endsOperand_append _ _
      change _ = (unsigned before (.minus :: .number text :: ts)).map hidden
      rw [unsigned_token hsign, unsigned_token (hnumber _ _ _), ih hnext]
      rfl
  | case3 operand text ts hoperand ih =>
      have hsign : isSign before .minus (.number text :: ts) = true := by
        simp [isSign, hbefore, hoperand, Token.isNumber]
      have hnext : endsOperand (before ++ [.minus] ++ [.number text]) = true :=
        endsOperand_append _ _
      change _ = (unsigned before (.minus :: .number text :: ts)).map hidden
      rw [unsigned_sign hsign, unsigned_token (hnumber _ _ _), ih hnext]
      rfl
  | case4 operand t ts hpair ih =>
      have hsign : isSign before t ts = false := by
        by_contra hsign
        simp only [isSign, Bool.not_eq_false, Bool.and_eq_true, beq_iff_eq] at hsign
        obtain ⟨⟨ht, hnumber⟩, _⟩ := hsign
        cases ts with
        | nil => cases hnumber
        | cons u ts =>
            cases u with
            | number text => exact hpair text ts ht rfl
            | _ => cases hnumber
      have hnext : endsOperand (before ++ [t]) = operandAfter operand t := by
        rw [endsOperand_append, hbefore]
      rw [unsigned_token hsign, ih hnext]
      rfl

/-- A space at the end is no number and has none behind it. -/
theorem unsigned_append_space (before ts : List Token) :
    unsigned before (ts ++ [.space]) = unsigned before ts ++ [.space] := by
  induction ts generalizing before with
  | nil => rfl
  | cons t ts ih =>
      have hsame : isSign before t (ts ++ [.space]) = isSign before t ts := by
        cases ts with
        | nil => simp [isSign, Token.isNumber]
        | cons u ts => rfl
      rw [List.cons_append, unsigned, unsigned, hsame, ih]
      split <;> rfl

/-- **The tokens of a shape are the skeleton of the statement.** -/
theorem trimmed_shapeTokens (ts : List Token) : trimmed (shapeTokens ts) = skeleton ts := by
  obtain ⟨last, hlast, hspaced⟩ := destutter_eq_spaced ts
  have hempty : endsOperand [] = false := rfl
  rw [skeleton, hspaced, trimmed, shapeTokens, masked_eq_hidden hempty]
  rcases hlast with rfl | rfl
  · rw [List.append_nil]
  · rw [unsigned_append_space, List.map_append]
    exact (List.rdropWhile_concat_pos _ _ _ rfl).symm

end QueryAudit.Statement
