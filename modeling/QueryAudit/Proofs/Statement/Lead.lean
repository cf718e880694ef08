import QueryAudit.Proofs.Sql.Layout
import QueryAudit.Proofs.Statement.SameKind

/-!
# What stands in front of a statement

Blanks, complete comments and opening parentheses may be put in front of a statement.  Its
kind stays the same, also where the parentheses are never closed: they are open for all of
the statement, so that a `WITH` stands as much deeper as the verb that it waits for.

Two readings are compared that run at different depths, with the same distance all along.
A parenthesis closed too many would change the distance, since the depth does not go below
zero: the statement must close none that it has not opened.
-/

namespace QueryAudit.Statement

open Sql

/-- Layout with `k` opening parentheses in it. -/
inductive Lead : Nat → List Char → Prop where
  | layout {w : List Char} (h : Layout w) : Lead 0 w
  | paren {k : Nat} {w n : List Char} (hw : Layout w) (h : Lead k n) : Lead (k + 1) (w ++ '(' :: n)

/-! ## Reading at a greater depth -/

/-- **After a `WITH` only the distance to its depth counts**, as long as no parenthesis too
many is closed. -/
theorem kindAfterWith_add {base depth : Nat} {ts : List Token}
    (h : ∀ us, us <+: ts → us.count .closeParen ≤ depth + us.count .openParen) (k : Nat) :
    kindAfterWith (base + k) (depth + k) ts = kindAfterWith base depth ts := by
  induction ts generalizing depth with
  | nil => rfl
  | cons t ts ih =>
      have hdecided : decided? (base + k) (depth + k) t = decided? base depth t := by
        cases t <;> simp [decided?]
      rw [kindAfterWith_step, kindAfterWith_step, hdecided, depthAfter_add (h [t] ⟨ts, rfl⟩),
        ih (count_le_depthAfter h)]

/-- **Parentheses that are open all along do not count.** -/
theorem kindOfTokens_add {depth : Nat} {ts : List Token}
    (h : ∀ us, us <+: ts → us.count .closeParen ≤ depth + us.count .openParen) (k : Nat) :
    kindOfTokens (depth + k) ts = kindOfTokens depth ts := by
  induction ts generalizing depth with
  | nil => rfl
  | cons t ts ih =>
      have hrest := count_le_depthAfter h
      rcases skipped_word_or_mute t with hskipped | ⟨name, rfl⟩ | hmute
      · rw [kindOfTokens_skipped hskipped, kindOfTokens_skipped hskipped,
          depthAfter_add (h [t] ⟨ts, rfl⟩), ih hrest]
      · have hwith : kindAfterWith (depth + k) (depth + k) ts = kindAfterWith depth depth ts :=
          kindAfterWith_add hrest k
        rw [kindOfTokens, kindOfTokens, hwith]
      · rw [kindOfTokens_mute hmute, kindOfTokens_mute hmute]

/-! ## Characters in front -/

/-- Gaps in front of the tokens of a text do not count for its kind. -/
theorem map_kindOfTokens_behindGaps (depth : Nat) (s : List Char) :
    (behindGaps s).map (kindOfTokens depth) = (tokenize s).map (kindOfTokens depth) := by
  rw [behindGaps, Option.map_map]
  congr 1
  funext ts
  exact (SameKind.dropWhile ts).first depth

/-- Layout in front of a text does not count for its kind. -/
theorem map_kindOfTokens_layout {w : List Char} (hw : Layout w) (depth : Nat) (s : List Char) :
    (tokenize (w ++ s)).map (kindOfTokens depth) = (tokenize s).map (kindOfTokens depth) := by
  rw [← map_kindOfTokens_behindGaps, hw.tokenize_append, map_kindOfTokens_behindGaps]

/-- **Layout and opening parentheses in front of a text** only change the depth at which it
is read. -/
theorem Lead.map_kindOfTokens {k : Nat} {n : List Char} (h : Lead k n) (depth : Nat)
    (s : List Char) :
    (tokenize (n ++ s)).map (kindOfTokens depth) =
      (tokenize s).map (kindOfTokens (depth + k)) := by
  induction h generalizing depth with
  | layout hw => exact map_kindOfTokens_layout hw depth s
  | @paren k w n hw _ ih =>
      have hopen : tokenize ('(' :: (n ++ s)) = (tokenize (n ++ s)).map (.openParen :: ·) :=
        tokenize_cons_some rfl
      calc (tokenize (w ++ '(' :: n ++ s)).map (kindOfTokens depth)
          = (tokenize ('(' :: (n ++ s))).map (kindOfTokens depth) := by
            rw [List.append_assoc, List.cons_append, map_kindOfTokens_layout hw]
        _ = (tokenize (n ++ s)).map (kindOfTokens (depth + 1)) := by
            rw [hopen, Option.map_map]
            rfl
        _ = (tokenize s).map (kindOfTokens (depth + (k + 1))) := by
            rw [ih, Nat.add_assoc, Nat.add_comm 1 k]

/-- **Blanks, comments and opening parentheses in front of a statement leave its kind as it
is**, if it closes no parenthesis that it has not opened. -/
theorem classify_lead_append {k : Nat} {n t : String} {ts : List Token} (hn : Lead k n.toList)
    (ht : tokenize t.toList = some ts)
    (hclosed : ∀ us, us <+: ts → us.count .closeParen ≤ us.count .openParen) :
    classify (n ++ t) = classify t := by
  have hread := hn.map_kindOfTokens 0 t.toList
  rw [ht, Option.map_some] at hread
  obtain ⟨us, hus, hkind⟩ := Option.map_eq_some_iff.mp hread
  have hdepth : kindOfTokens (0 + k) ts = kindOfTokens 0 ts :=
    kindOfTokens_add (by simpa using hclosed) k
  rw [← String.toList_append] at hus
  rw [classify_of_tokenize hus, classify_of_tokenize ht, hkind, hdepth]

/-- A parenthesis in a comment, and a line break that runs over the seam. -/
theorem classify_with_behind_comments :
    Lead 2 "-- a\n( /* ( */(\r".toList ∧
      ∃ ts, tokenize "\nWITH a AS (SELECT (b)) UPDATE c".toList = some ts ∧ Balanced ts ∧
        classify ("-- a\n( /* ( */(\r" ++ "\nWITH a AS (SELECT (b)) UPDATE c") = .update := by
  have hlead : Lead 2 "-- a\n( /* ( */(\r".toList :=
    .paren (@Layout.line " a".toList [] (by decide) .nil)
      (.paren (.blank (by decide) (@Layout.block " ( */".toList " ( ".toList [] (by decide) .nil))
        (.layout (.blank (by decide) .nil)))
  have htokens : tokenize "\nWITH a AS (SELECT (b)) UPDATE c".toList =
      some ((tokenize "\nWITH a AS (SELECT (b)) UPDATE c".toList).getD []) := by
    decide +kernel
  have hbalanced : Balanced
      ((tokenize "\nWITH a AS (SELECT (b)) UPDATE c".toList).getD []) := by
    decide +kernel
  refine ⟨hlead, _, htokens, hbalanced, ?_⟩
  rw [classify_lead_append hlead htokens hbalanced.opened]
  decide +kernel

end QueryAudit.Statement
