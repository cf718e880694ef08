import Mathlib.Data.List.Infix
import QueryAudit.Statement.Classify

/-!
# Nesting in parentheses

Parentheses are *balanced* when none is closed before it is opened and none stays open.
A token stands *outside* when as many have been closed in front of it as opened.

Nothing here follows the reading of a kind: all is said by counting parentheses in the
first tokens of a list.  The depth that the reading keeps is this count as long as no
parenthesis too many is closed (`foldl_depthAfter`).
-/

namespace QueryAudit.Statement

open Sql

/-- No parenthesis is closed before it is opened, and none stays open. -/
structure Balanced (ts : List Token) : Prop where
  opened : ∀ us, us <+: ts → us.count .closeParen ≤ us.count .openParen
  closed : ts.count .closeParen = ts.count .openParen

/-- The token stands in the list, outside all parentheses. -/
def Outside (t : Token) (ts : List Token) : Prop :=
  ∃ before after, ts = before ++ t :: after ∧
    before.count .closeParen = before.count .openParen

/-- Balanced tokens with no verb outside their parentheses. -/
structure Passed (ts : List Token) : Prop extends Balanced ts where
  no_verb : ∀ name, Outside (.word name) ts → verbKind? name = none

/-- Is the token neither a parenthesis nor a verb? -/
def isPassable : Token → Bool
  | .openParen | .closeParen => false
  | .word name => (verbKind? name).isNone
  | _ => true

instance (ts : List Token) : Decidable (Balanced ts) :=
  decidable_of_iff
    ((∀ us ∈ ts.inits, us.count .closeParen ≤ us.count .openParen) ∧
      ts.count .closeParen = ts.count .openParen)
    ⟨fun h => ⟨fun us hus => h.1 us ((List.mem_inits us ts).mpr hus), h.2⟩,
      fun h => ⟨fun us hus => h.opened us ((List.mem_inits us ts).mp hus), h.closed⟩⟩

/-! ## Balanced lists -/

theorem Balanced.append {ts us : List Token} (hts : Balanced ts) (hus : Balanced us) :
    Balanced (ts ++ us) where
  opened := by
    rintro vs ⟨rest, hsplit⟩
    rcases List.append_eq_append_iff.mp hsplit with ⟨ws, hws, _⟩ | ⟨ws, rfl, hws⟩
    · exact hts.opened vs ⟨ws, hws.symm⟩
    · have hcount := hus.opened ws ⟨rest, hws.symm⟩
      rw [List.count_append, List.count_append, hts.closed]
      omega
  closed := by rw [List.count_append, List.count_append, hts.closed, hus.closed]

/-- Every token of a balanced list in parentheses is behind one that is still open. -/
theorem count_lt_of_prefix_parens {ts us : List Token} (h : Balanced ts)
    (hus : us <+: .openParen :: ts) (hne : us ≠ []) :
    us.count .closeParen < us.count .openParen := by
  rcases List.prefix_cons_iff.mp hus with rfl | ⟨vs, rfl, hvs⟩
  · exact absurd rfl hne
  · have hcount := h.opened vs hvs
    rw [List.count_cons_self, List.count_cons_of_ne (by decide)]
    omega

/-! ## Lists that are passed over -/

theorem Passed.append {ts us : List Token} (hts : Passed ts) (hus : Passed us) :
    Passed (ts ++ us) where
  toBalanced := hts.toBalanced.append hus.toBalanced
  no_verb := by
    rintro name ⟨before, after, hsplit, hcount⟩
    rcases List.append_eq_append_iff.mp hsplit with ⟨vs, rfl, hvs⟩ | ⟨vs, rfl, hvs⟩
    · refine hus.no_verb name ⟨vs, after, hvs, ?_⟩
      rw [List.count_append, List.count_append, hts.closed] at hcount
      omega
    · cases vs with
      | nil => exact hus.no_verb name ⟨[], after, hvs.symm, rfl⟩
      | cons v vs =>
          obtain ⟨rfl, _⟩ := List.cons.inj hvs
          exact hts.no_verb name ⟨before, vs, rfl, hcount⟩

theorem isPassable_of_isGap {t : Token} (h : t.isGap = true) : isPassable t = true := by
  cases t with
  | space => rfl
  | lineComment => rfl
  | blockComment => rfl
  | _ => cases h

/-- Tokens without parentheses and verbs are passed over. -/
theorem passed_of_isPassable {ts : List Token} (h : ∀ t ∈ ts, isPassable t = true) :
    Passed ts := by
  have hnone : ∀ us, us <+: ts →
      us.count .closeParen = 0 ∧ us.count .openParen = 0 := by
    intro us hus
    refine ⟨List.count_eq_zero.mpr fun hmem => ?_, List.count_eq_zero.mpr fun hmem => ?_⟩
    · cases h _ (hus.subset hmem)
    · cases h _ (hus.subset hmem)
  refine ⟨⟨fun us hus => ?_, ?_⟩, ?_⟩
  · obtain ⟨hclose, hopen⟩ := hnone us hus
    rw [hclose, hopen]
  · obtain ⟨hclose, hopen⟩ := hnone ts List.prefix_rfl
    rw [hclose, hopen]
  · rintro name ⟨before, after, rfl, _⟩
    exact Option.isNone_iff_eq_none.mp (h (.word name) (by simp))

/-- What stands in parentheses is passed over, verbs and all. -/
theorem Balanced.passed_parens {ts : List Token} (h : Balanced ts) :
    Passed (.openParen :: ts ++ [.closeParen]) := by
  have hcounts : (Token.openParen :: ts).count .openParen =
      (Token.openParen :: ts).count .closeParen + 1 := by
    rw [List.count_cons_self, List.count_cons_of_ne (by decide), h.closed]
  -- a proper first part holds the opening parenthesis and not the closing one
  have hproper : ∀ us, us <+: .openParen :: ts ++ [.closeParen] →
      us = [] ∨ us.count .closeParen < us.count .openParen ∨
        us = .openParen :: ts ++ [.closeParen] := by
    intro us hus
    rcases List.prefix_concat_iff.mp hus with rfl | hus
    · exact .inr (.inr rfl)
    · rcases us with _ | ⟨u, us⟩
      · exact .inl rfl
      · exact .inr (.inl (count_lt_of_prefix_parens h hus (by simp)))
  refine ⟨⟨?_, ?_⟩, ?_⟩
  · intro us hus
    rcases hproper us hus with rfl | hlt | rfl
    · rfl
    · exact hlt.le
    · rw [List.count_append, List.count_append, hcounts]
      rfl
  · rw [List.count_append, List.count_append, hcounts]
    rfl
  · rintro name ⟨before, after, hsplit, hcount⟩
    rcases hproper before ⟨_, hsplit.symm⟩ with rfl | hlt | rfl
    · cases (List.cons.inj hsplit).1
    · omega
    · have hlength := congrArg List.length hsplit
      rw [List.length_append] at hlength
      simp at hlength

/-! ## Depth -/

/-- The depth after a token. -/
def depthAfter (depth : Nat) : Token → Nat
  | .openParen => depth + 1
  | .closeParen => depth - 1
  | _ => depth

/-- A token changes the depth by the parenthesis that it is, unless it closes one too
many. -/
theorem depthAfter_add_count {depth : Nat} {t : Token}
    (h : [t].count .closeParen ≤ depth + [t].count .openParen) :
    depthAfter depth t + [t].count .closeParen = depth + [t].count .openParen := by
  by_cases hopen : t = .openParen
  · subst hopen
    rfl
  by_cases hclose : t = .closeParen
  · subst hclose
    exact Nat.sub_add_cancel h
  have hsame : depthAfter depth t = depth := by
    unfold depthAfter
    split
    · exact absurd rfl hopen
    · exact absurd rfl hclose
    · rfl
  rw [hsame, List.count_eq_zero.mpr (by simpa [eq_comm] using hclose),
    List.count_eq_zero.mpr (by simpa [eq_comm] using hopen)]

/-- More parentheses that are open all along stay open behind a token that closes none too
many. -/
theorem depthAfter_add {depth : Nat} {t : Token}
    (h : [t].count .closeParen ≤ depth + [t].count .openParen) (k : Nat) :
    depthAfter (depth + k) t = depthAfter depth t + k := by
  have hstep := depthAfter_add_count h
  have hmore := @depthAfter_add_count (depth + k) t (by omega)
  omega

/-- Behind a token none too many is closed if none is from this token on. -/
theorem count_le_depthAfter {depth : Nat} {t : Token} {ts : List Token}
    (h : ∀ us, us <+: t :: ts → us.count .closeParen ≤ depth + us.count .openParen) :
    ∀ us, us <+: ts → us.count .closeParen ≤ depthAfter depth t + us.count .openParen := by
  intro us hus
  have hstep := depthAfter_add_count (h [t] ⟨ts, rfl⟩)
  have hcount := h (t :: us) (List.cons_prefix_cons.mpr ⟨rfl, hus⟩)
  rw [List.count_cons, List.count_cons] at hcount
  rw [List.count_singleton, List.count_singleton] at hstep
  omega

/-- **The depth counts the parentheses**, as long as none too many is closed. -/
theorem foldl_depthAfter {depth : Nat} {ts : List Token}
    (h : ∀ us, us <+: ts → us.count .closeParen ≤ depth + us.count .openParen) :
    ts.foldl depthAfter depth + ts.count .closeParen = depth + ts.count .openParen := by
  induction ts generalizing depth with
  | nil => rfl
  | cons t ts ih =>
      have hstep := depthAfter_add_count (h [t] ⟨ts, rfl⟩)
      have hrest := ih (count_le_depthAfter h)
      rw [List.count_singleton, List.count_singleton] at hstep
      rw [List.foldl_cons, List.count_cons, List.count_cons]
      omega

/-- Behind balanced tokens the depth is what it was, and inside them it is so only where
a token stands outside. -/
theorem Balanced.foldl_depthAfter_eq_iff {ts us : List Token} (h : Balanced ts) (hus : us <+: ts)
    (depth : Nat) :
    us.foldl depthAfter depth = depth ↔ us.count .closeParen = us.count .openParen := by
  have hcount : us.foldl depthAfter depth + us.count .closeParen =
      depth + us.count .openParen :=
    foldl_depthAfter fun vs hvs =>
      (h.opened vs (hvs.trans hus)).trans (Nat.le_add_left _ _)
  omega

end QueryAudit.Statement
