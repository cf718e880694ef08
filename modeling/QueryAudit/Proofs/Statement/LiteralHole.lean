import QueryAudit.Proofs.Sql.Hole
import QueryAudit.Proofs.Statement.ShapeTokens

/-!
# Literals do not show in a shape

A statement with a hole is a text before the hole and a text behind it.  Whatever
literal fills the hole, the shape is the same: the literal is read as a token of its
own, or as two when a minus sign stands in front, and becomes the mark.
`shape_eq_of_fills` says so for all texts around the hole.
-/

namespace QueryAudit.Statement

open Sql

/-! ## Shaping piece by piece -/

/-- What spacing puts in front of a token: the tokens before it, and a space for the gap
that may have been passed last. -/
def spacedBefore (gap : Bool) : List Token → List Token
  | [] => if gap then [.space] else []
  | t :: ts =>
    if t.isGap then spacedBefore true ts
    else if gap then .space :: t :: spacedBefore false ts
    else t :: spacedBefore false ts

/-- Spacing starts again behind every token that is no gap. -/
theorem spaced_append_cons {v : Token} (hv : v.isGap = false) (gap : Bool)
    (ts vs : List Token) :
    spaced gap (ts ++ v :: vs) = spacedBefore gap ts ++ v :: spaced false vs := by
  induction ts generalizing gap with
  | nil => cases gap <;> simp [spaced, spacedBefore, hv]
  | cons t ts ih =>
      rw [List.cons_append, spaced, spacedBefore, ih, ih]
      cases t.isGap <;> cases gap <;> simp

/-- Spaces do not count for the operand state. -/
theorem foldl_operandAfter_spacedBefore (operand gap : Bool) (ts : List Token) :
    (spacedBefore gap ts).foldl operandAfter operand = ts.foldl operandAfter operand := by
  have hspace (operand : Bool) : operandAfter operand .space = operand := rfl
  induction ts generalizing operand gap with
  | nil => cases gap <;> rfl
  | cons t ts ih =>
      rw [spacedBefore]
      cases ht : t.isGap with
      | true =>
          have hgap : operandAfter operand t = operand := by simp [operandAfter, ht]
          rw [if_pos rfl, ih, List.foldl_cons, hgap]
      | false => cases gap <;> simp [ih, hspace]

/-- Spacing leaves the last token in its place, or a space for a gap. -/
theorem getLast?_spacedBefore (gap : Bool) (ts : List Token) (t : Token) :
    (spacedBefore gap (ts ++ [t])).getLast? = some (if t.isGap then .space else t) := by
  induction ts generalizing gap with
  | nil => cases ht : t.isGap <;> cases gap <;> simp [spacedBefore, ht]
  | cons u ts ih =>
      have hcons (v : Token) : (v :: spacedBefore false (ts ++ [t])).getLast? =
          some (if t.isGap then .space else t) := by
        rw [List.getLast?_cons, ih]
        rfl
      rw [List.cons_append, spacedBefore]
      cases u.isGap with
      | true => exact ih true
      | false =>
          cases gap with
          | false => exact hcons u
          | true =>
              have hu := hcons u
              simp only [Bool.false_eq_true, if_false, if_true]
              rw [List.getLast?_cons, hu]
              rfl

/-- The operand state after some tokens is decided by the last one that is no gap. -/
theorem foldl_operandAfter (operand : Bool) (ts : List Token) :
    ts.foldl operandAfter operand =
      match (ts.filter fun t => !t.isGap).getLast? with
      | none => operand
      | some t => t.isLiteral || t.isOperand := by
  induction ts using List.reverseRecOn with
  | nil => rfl
  | append_singleton ts t ih =>
      rw [List.foldl_append, List.foldl_cons, List.foldl_nil, ih, List.filter_append]
      cases ht : t.isGap <;> simp [operandAfter, ht]

/-- **Masking goes on where it stopped**, unless a minus sign was last. -/
theorem masked_append {operand : Bool} {ts : List Token} (h : ts.getLast? ≠ some .minus)
    (us : List Token) :
    masked operand (ts ++ us) =
      masked operand ts ++ masked (ts.foldl operandAfter operand) us := by
  have htail {t : Token} {ts : List Token} (h : (t :: ts).getLast? ≠ some .minus) :
      ts.getLast? ≠ some .minus := by
    intro hlast
    rw [List.getLast?_cons, hlast] at h
    exact h rfl
  fun_induction masked operand ts with
  | case1 => rfl
  | case2 text ts ih =>
      rw [List.cons_append, List.cons_append, masked, if_pos rfl, ih (htail (htail h))]
      rfl
  | case3 operand text ts hoperand ih =>
      rw [List.cons_append, List.cons_append, masked, if_neg hoperand, ih (htail (htail h))]
      rfl
  | case4 operand t ts hnumber ih =>
      rw [List.cons_append, masked, ih (htail h)]
      · rfl
      · -- a number behind the token would have been there before
        intro text vs ht hvs
        cases ts with
        | nil => exact h (by rw [ht]; rfl)
        | cons u ts => exact hnumber text ts ht (by rw [(List.cons.inj hvs).1])

/-! ## Literals in a hole -/

/-- The tokens behind which a minus sign negates a literal in a hole. -/
def opensSigned : List Token :=
  [.symbol ['='], .symbol ['<'], .symbol ['>'], .openParen, .symbol [',']]

/-- The texts that may fill a hole behind some tokens: a decimal number, a string in
plain quotes with any content, and, where a minus sign negates, a negative number. -/
inductive Fills (ts : List Token) : List Char → Prop
  | number (l : List Char) (h : Decimal l) : Fills ts l
  | quoted (content : List Char) : Fills ts ('\'' :: (doubled '\'' content ++ ['\'']))
  | negative (l : List Char) (h : Decimal l) (t : Token)
      (hlast : (ts.filter fun t => !t.isGap).getLast? = some t) (ht : t ∈ opensSigned) :
      Fills ts ('-' :: l)

/-- The tokens of a literal behind some others. -/
inductive ValueTokens (ts : List Token) : List Token → Prop
  | literal (t : Token) (h : t.isLiteral = true) : ValueTokens ts [t]
  | negative (text : List Char) (h : ts.foldl operandAfter false = false) :
      ValueTokens ts [.minus, .number text]

/-- **A literal in a hole is read for itself.** -/
theorem Fills.tokens {ts : List Token} {l : List Char} (h : Fills ts l) :
    ∃ vs, ValueTokens ts vs ∧
      ∀ s, EndsValue s → tokenize (l ++ s) = (tokenize s).map (vs ++ ·) := by
  cases h with
  | number l h => exact ⟨[.number l], .literal _ rfl, fun s hs => tokenize_decimal h hs⟩
  | quoted content =>
      exact ⟨[.literal .plain content], .literal _ rfl, fun s hs => tokenize_quoted content hs⟩
  | negative l h t hlast ht =>
      refine ⟨[.minus, .number l], .negative l ?_, fun s hs => tokenize_negative h hs⟩
      rw [foldl_operandAfter, hlast]
      simp only [opensSigned, List.mem_cons, List.not_mem_nil, or_false] at ht
      rcases ht with rfl | rfl | rfl | rfl | rfl <;> rfl

/-- A literal may stand where one is expected. -/
theorem Fills.enters {ts : List Token} {l : List Char} (h : Fills ts l) (s : List Char) :
    Enters (l ++ s) := by
  have hdigit {c : Char} (hc : c.isDigit = true) : c ∉ ['\n', '=', '>'] := by
    intro hmem
    simp only [List.mem_cons, List.not_mem_nil, or_false] at hmem
    rcases hmem with rfl | rfl | rfl <;> cases hc
  intro c hc
  cases h with
  | number l h =>
      obtain ⟨digits, f, e, hne, hdigits, _, _⟩ := h
      obtain ⟨d, ds, rfl⟩ := List.exists_cons_of_ne_nil hne
      obtain rfl : d = c := Option.some.inj hc
      exact hdigit (hdigits d List.mem_cons_self)
  | quoted content =>
      obtain rfl : '\'' = c := Option.some.inj hc
      decide
  | negative l h t hlast ht =>
      obtain rfl : '-' = c := Option.some.inj hc
      decide

/-- The gaps in front do not count for the operand state. -/
theorem foldl_operandAfter_dropWhile (operand : Bool) (ts : List Token) :
    (ts.dropWhile Token.isGap).foldl operandAfter operand = ts.foldl operandAfter operand := by
  induction ts with
  | nil => rfl
  | cons t ts ih =>
      cases ht : t.isGap with
      | false => simp [ht]
      | true => simp [ht, ih, operandAfter]

/-- What stands before a literal ends with a minus sign only if it did before it was
spaced. -/
theorem getLast?_front_ne_minus {ts : List Token} (h : ts.getLast? ≠ some .minus) :
    (spacedBefore false (ts.dropWhile Token.isGap)).getLast? ≠ some .minus := by
  rcases List.eq_nil_or_concat (ts.dropWhile Token.isGap) with hnil | ⟨us, t, hus⟩
  · rw [hnil]
    simp [spacedBefore]
  · rw [List.concat_eq_append] at hus
    obtain ⟨a, ha⟩ := List.dropWhile_suffix (l := ts) Token.isGap
    have hlast : ts.getLast? = some t := by
      rw [← ha, hus, ← List.append_assoc, List.getLast?_concat]
    rw [hus, getLast?_spacedBefore]
    cases ht : t.isGap with
    | true =>
        intro hm
        cases hm
    | false => simpa [hlast] using h

/-- Shaping starts again, in the operand state that was reached, at every token that is
no gap. -/
theorem shapeTokens_append_cons {ts : List Token} (hts : ts.getLast? ≠ some .minus)
    {v : Token} (hv : v.isGap = false) (us : List Token) :
    shapeTokens (ts ++ v :: us) =
      masked false (spacedBefore false (ts.dropWhile Token.isGap)) ++
        masked (ts.foldl operandAfter false) (v :: spaced false us) := by
  rw [shapeTokens, Text.dropWhile_append_cons hv, spaced_append_cons hv,
    masked_append (getLast?_front_ne_minus hts), foldl_operandAfter_spacedBefore,
    foldl_operandAfter_dropWhile]

/-- A token that is no gap shows, or is hidden, and what stands around it sees only whether
it ends an operand. -/
theorem shapeTokens_append_token {ts : List Token} (hts : ts.getLast? ≠ some .minus) {t : Token}
    (hgap : t.isGap = false) (hminus : t ≠ .minus) (us : List Token) :
    shapeTokens (ts ++ t :: us) =
      masked false (spacedBefore false (ts.dropWhile Token.isGap)) ++
        hidden t :: masked (t.isLiteral || t.isOperand) (spaced false us) := by
  rw [shapeTokens_append_cons hts hgap, masked]
  · simp [hidden, operandAfter, hgap]
  · exact fun _ _ hm _ => hminus hm

/-- **A literal becomes the mark**, and what stands around it does not see which literal
it was. -/
theorem shapeTokens_append {ts vs : List Token} (hts : ts.getLast? ≠ some .minus)
    (h : ValueTokens ts vs) (us : List Token) :
    shapeTokens (ts ++ (vs ++ us)) =
      masked false (spacedBefore false (ts.dropWhile Token.isGap)) ++
        mark :: masked true (spaced false us) := by
  cases h with
  | literal t ht =>
      have hgap : t.isGap = false := by
        cases t <;> first | rfl | cases ht
      have hminus : t ≠ .minus := by
        intro heq
        subst heq
        cases ht
      rw [List.singleton_append, shapeTokens_append_token hts hgap hminus]
      simp [hidden, ht]
  | negative text hoperand =>
      have hnumber : spaced false (.number text :: us) = .number text :: spaced false us := rfl
      have hsplit : [Token.minus, .number text] ++ us = .minus :: .number text :: us := rfl
      rw [hsplit, shapeTokens_append_cons hts rfl, hoperand, hnumber]
      rfl

/-- **Literal values do not show in a shape.**  Two texts that differ only in the literal
in a hole have one shape, if the text with one of them can be read at all. -/
theorem shapeOfChars_eq_of_fills {p s l l' : List Char} {ts : List Token}
    (hp : tokenize p = some ts) (hlast : ∀ t ∈ ts.getLast?, t ∈ opensValue)
    (hs : EndsValue s) (hl : Fills ts l) (hl' : Fills ts l')
    (hread : (tokenize (p ++ l ++ s)).isSome) :
    shapeOfChars (p ++ l ++ s) = shapeOfChars (p ++ l' ++ s) := by
  have hminus : ts.getLast? ≠ some .minus := by
    intro hm
    have hmem := hlast _ hm
    revert hmem
    decide
  -- both texts are read piece by piece, and the pieces around the literal are the same
  have hfilled {l : List Char} (hl : Fills ts l) : ∃ vs, ValueTokens ts vs ∧
      tokenize (p ++ l ++ s) = (tokenize s).map fun us => ts ++ (vs ++ us) := by
    obtain ⟨vs, hvs, htokens⟩ := hl.tokens
    refine ⟨vs, hvs, ?_⟩
    rw [List.append_assoc, tokenize_append hp hlast (hl.enters s), htokens s hs,
      Option.map_map]
    rfl
  obtain ⟨vs, hvs, htokens⟩ := hfilled hl
  obtain ⟨vs', hvs', htokens'⟩ := hfilled hl'
  rw [htokens, Option.isSome_map] at hread
  obtain ⟨us, hus⟩ := Option.isSome_iff_exists.mp hread
  rw [hus] at htokens htokens'
  simp only [shapeOfChars, htokens, htokens', Option.map_some, shapeTokens_append hminus hvs,
    shapeTokens_append hminus hvs']

end QueryAudit.Statement
