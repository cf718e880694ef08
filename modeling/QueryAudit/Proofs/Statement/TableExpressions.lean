import QueryAudit.Proofs.Sql.Seam
import QueryAudit.Proofs.Statement.MainVerb

/-!
# Table expressions in front of a statement

`WITH a AS (...), b AS (...)` may stand in front of a statement.  All that follows the
`WITH` up to the statement is passed over, since verbs stand there in parentheses only.
What decides then is the first verb outside the parentheses of the statement.

Without the table expressions the first word decides.  The two agree on a statement that
starts with a verb.  They differ on `MERGE`, which is no verb but has verbs in its
branches.
-/

namespace QueryAudit.Statement

open Sql

/-- A name that is no keyword, `AS`, and tokens in parentheses. -/
inductive TableExpression : List Token → Prop where
  | intro {name as : List Char} {gaps gaps' body : List Token}
      (hname : isKeyword name = false) (hgaps : ∀ t ∈ gaps, t.isGap = true)
      (has : lookupForm as = "AS") (hgaps' : ∀ t ∈ gaps', t.isGap = true)
      (hbody : Balanced body) :
      TableExpression (.word name :: gaps ++ .word as :: gaps' ++
        (.openParen :: body ++ [.closeParen]))

/-- One or more table expressions with commas between them. -/
inductive TableExpressions : List Token → Prop where
  | last {gaps e : List Token} (hgaps : ∀ t ∈ gaps, t.isGap = true) (he : TableExpression e) :
      TableExpressions (gaps ++ e)
  | comma {gaps e gaps' es : List Token} (hgaps : ∀ t ∈ gaps, t.isGap = true)
      (he : TableExpression e) (hgaps' : ∀ t ∈ gaps', t.isGap = true)
      (hes : TableExpressions es) :
      TableExpressions (gaps ++ e ++ gaps' ++ .symbol [','] :: es)

/-- The kind that the first verb outside all parentheses names; without such a verb it is
none of the four. -/
inductive OuterKind : List Token → Kind → Prop where
  | verb {before after : List Token} {verb : List Char} {kind : Kind} (hbefore : Passed before)
      (hverb : verbKind? verb = some kind) : OuterKind (before ++ .word verb :: after) kind
  | none {ts : List Token} (h : Passed ts) : OuterKind ts .other

/-- Does the statement open with a parenthesis? -/
def OpensParen (ts : List Token) : Prop :=
  (ts.dropWhile Token.isGap).head? = some .openParen

/-- Is the first word of the statement a verb? -/
def OpensVerb (ts : List Token) : Prop :=
  ∃ verb kind, (ts.dropWhile Token.isGap).head? = some (.word verb) ∧ verbKind? verb = some kind

/-! ## The table expressions -/

/-- The verbs are keywords. -/
theorem verbKind?_of_not_isKeyword {name : List Char} (h : isKeyword name = false) :
    verbKind? name = none := by
  have hne : ∀ keyword ∈ keywords, lookupForm name ≠ keyword := by
    intro keyword hkeyword heq
    rw [isKeyword, heq, List.contains_iff_mem.mpr hkeyword] at h
    cases h
  have hverbs : ∀ keyword ∈ ["SELECT", "INSERT", "UPDATE", "DELETE"], keyword ∈ keywords := by
    decide +kernel
  rw [verbKind?, Kind.ofVerb?, if_neg (hne _ (hverbs _ (by simp))),
    if_neg (hne _ (hverbs _ (by simp))), if_neg (hne _ (hverbs _ (by simp))),
    if_neg (hne _ (hverbs _ (by simp)))]

/-- Gaps are passed over. -/
theorem passed_gaps {gaps : List Token} (h : ∀ t ∈ gaps, t.isGap = true) : Passed gaps :=
  passed_of_isPassable fun t ht => isPassable_of_isGap (h t ht)

/-- A word that is no verb is passed over. -/
theorem passed_word {name : List Char} (h : verbKind? name = none) : Passed [.word name] :=
  passed_of_isPassable (by simp [isPassable, h])

/-- All verbs of a table expression are in parentheses. -/
theorem TableExpression.passed {ts : List Token} (h : TableExpression ts) : Passed ts := by
  obtain ⟨hname, hgaps, has, hgaps', hbody⟩ := h
  rename_i name as gaps gaps' body
  have hfront : Passed ([.word name] ++ gaps) :=
    (passed_word (verbKind?_of_not_isKeyword hname)).append (passed_gaps hgaps)
  have hback : Passed ([.word as] ++ gaps') :=
    (passed_word (by rw [verbKind?, has]; rfl)).append (passed_gaps hgaps')
  exact (hfront.append hback).append hbody.passed_parens

/-- All verbs of table expressions are in parentheses. -/
theorem TableExpressions.passed {ts : List Token} (h : TableExpressions ts) : Passed ts := by
  induction h with
  | last hgaps he => exact (passed_gaps hgaps).append he.passed
  | comma hgaps he hgaps' _ ih =>
      have hcomma : Passed [.symbol [',']] := passed_of_isPassable (by decide)
      exact (((passed_gaps hgaps).append he.passed).append (passed_gaps hgaps')).append
        (hcomma.append ih)

/-- Table expressions end with a closing parenthesis. -/
theorem TableExpressions.getLast? {ts : List Token} (h : TableExpressions ts) :
    ts.getLast? = some .closeParen := by
  induction h with
  | last _ he =>
      obtain ⟨_, _, _, _, _⟩ := he
      simp [List.getLast?_cons]
  | comma _ _ _ _ ih => simp [List.getLast?_cons, ih]

/-! ## The statement behind them -/

/-- The first verb outside all parentheses decides after `WITH`. -/
theorem kindAfterWith_of_outerKind {ts : List Token} {kind : Kind} (h : OuterKind ts kind)
    (base : Nat) : kindAfterWith base base ts = kind := by
  cases h with
  | verb hbefore hverb => rw [hbefore.kindAfterWith_append, kindAfterWith_verb hverb]
  | none h =>
      have hend := h.kindAfterWith_append base []
      rw [List.append_nil] at hend
      rw [hend, kindAfterWith]

/-- Tokens that close no parenthesis too many have a first verb outside all parentheses, or
they have none there. -/
theorem exists_first_verb {ts : List Token}
    (h : ∀ us, us <+: ts → us.count .closeParen ≤ us.count .openParen) :
    (∃ before verb kind after, ts = before ++ .word verb :: after ∧ Passed before ∧
      verbKind? verb = some kind) ∨
      ∀ name, Outside (.word name) ts → verbKind? name = none := by
  induction ts using List.reverseRecOn with
  | nil =>
      right
      rintro name ⟨before, after, hsplit, _⟩
      simp at hsplit
  | append_singleton ts t ih =>
      have hts : ∀ us, us <+: ts → us.count .closeParen ≤ us.count .openParen :=
        fun us hus => h us (hus.trans (List.prefix_append _ _))
      rcases ih hts with ⟨before, verb, kind, after, rfl, hbefore, hverb⟩ | hnone
      · exact .inl ⟨before, verb, kind, after ++ [t], by simp, hbefore, hverb⟩
      by_cases hlast : ∃ verb kind, t = .word verb ∧ verbKind? verb = some kind ∧
          ts.count .closeParen = ts.count .openParen
      · obtain ⟨verb, kind, rfl, hverb, hclosed⟩ := hlast
        exact .inl ⟨ts, verb, kind, [], rfl, ⟨⟨hts, hclosed⟩, hnone⟩, hverb⟩
      · right
        rintro name ⟨before, after, hsplit, hcount⟩
        rcases List.eq_nil_or_concat after with rfl | ⟨after, last, rfl⟩
        · obtain ⟨rfl, hword⟩ := List.append_inj' hsplit rfl
          cases hverb : verbKind? name with
          | none => rfl
          | some kind => exact absurd ⟨name, kind, List.singleton_inj.mp hword, hverb, hcount⟩ hlast
        · rw [List.concat_eq_append, ← List.cons_append, ← List.append_assoc] at hsplit
          exact hnone name ⟨before, after, (List.append_inj' hsplit rfl).1, hcount⟩

/-- Every statement with balanced parentheses has a kind by its verbs outside them. -/
theorem Balanced.exists_outerKind {ts : List Token} (h : Balanced ts) :
    ∃ kind, OuterKind ts kind := by
  rcases exists_first_verb h.opened with ⟨before, verb, kind, after, rfl, hbefore, hverb⟩ | hnone
  · exact ⟨kind, .verb hbefore hverb⟩
  · exact ⟨.other, .none ⟨h, hnone⟩⟩

/-- Table expressions, a space and a statement are read one after the other. -/
theorem classify_append {head main : String} {w : List Char} {tables ts : List Token}
    {kind : Kind} (hw : isWith w = true)
    (hhead : tokenize head.toList = some (.word w :: tables)) (htables : TableExpressions tables)
    (hmain : tokenize main.toList = some ts) (hkind : OuterKind ts kind) :
    classify (head ++ " " ++ main) = kind := by
  have hend : ¬ EndsInComment (Token.word w :: tables) := by
    rintro ⟨text, hlast, _⟩
    rw [List.getLast?_cons, htables.getLast?] at hlast
    cases hlast
  have htext : (head ++ " " ++ main).toList = head.toList ++ ' ' :: main.toList := by
    rw [String.toList_append, String.toList_append, List.append_assoc]
    rfl
  have htokens : tokenize (head ++ " " ++ main).toList =
      some ([] ++ .word w :: ((tables ++ [.space]) ++ ts)) := by
    rw [htext, tokenize_append_space hhead hend, hmain, List.append_assoc]
    rfl
  have hpassed : Passed (tables ++ [.space]) := htables.passed.append (passed_gaps (by decide))
  obtain ⟨base, hbase⟩ := @kindOfTokens_with [] _ _ (by simp) hw hpassed ts
  rw [classify_of_tokenize htokens, hbase, kindAfterWith_of_outerKind hkind]

/-- A statement that starts with a verb is of its kind, and this verb is the first outside
all parentheses. -/
theorem OpensVerb.outerKind {main : String} {ts : List Token} (h : OpensVerb ts)
    (hmain : tokenize main.toList = some ts) : OuterKind ts (classify main) := by
  obtain ⟨verb, kind, hhead, hverb⟩ := h
  obtain ⟨rest, hrest⟩ : ∃ rest, ts.dropWhile Token.isGap = .word verb :: rest :=
    List.head?_eq_some_iff.mp hhead
  have hgaps : ∀ t ∈ ts.takeWhile Token.isGap, t.isGap = true :=
    fun t ht => List.mem_takeWhile_imp ht
  have hts : ts = ts.takeWhile Token.isGap ++ .word verb :: rest := by
    rw [← hrest, List.takeWhile_append_dropWhile]
  have hkind : classify main = kind := by
    rw [classify_of_tokenize hmain, hts, kindOfTokens_append fun t ht => .inl (hgaps t ht),
      kindOfTokens_verb hverb]
  rw [hkind, hts]
  exact .verb (passed_gaps hgaps) hverb

/-- **Table expressions in front of a statement** leave its kind as it is if this is the
kind by the verbs outside its parentheses, in particular if it starts with a verb.  A
statement that opens with no parenthesis has that kind behind table expressions. -/
theorem classify_after_tables {head main : String} {w : List Char} {tables ts : List Token}
    (hw : isWith w = true) (hhead : tokenize head.toList = some (.word w :: tables))
    (htables : TableExpressions tables) (hmain : tokenize main.toList = some ts)
    (hbalanced : Balanced ts) :
    (∃ kind, OuterKind ts kind) ∧
    (∀ kind, OuterKind ts kind →
      (classify main = kind → classify (head ++ " " ++ main) = classify main) ∧
      (¬ OpensParen ts → classify (head ++ " " ++ main) = kind)) ∧
    (OpensVerb ts → classify (head ++ " " ++ main) = classify main) := by
  refine ⟨hbalanced.exists_outerKind, fun kind hkind => ⟨fun hsame => ?_, fun _ => ?_⟩, ?_⟩
  · rw [hsame]
    exact classify_append hw hhead htables hmain hkind
  · exact classify_append hw hhead htables hmain hkind
  · intro hverb
    exact classify_append hw hhead htables hmain (hverb.outerKind hmain)

/-- Two table expressions, one of them with a verb of another kind in its parentheses. -/
theorem classify_delete_after_tables :
    ∃ tables ts,
      tokenize "WITH a AS (SELECT (1)), b AS (UPDATE c)".toList =
        some (.word "WITH".toList :: tables) ∧
      TableExpressions tables ∧
      tokenize "DELETE FROM c WHERE d IN (SELECT e FROM a)".toList = some ts ∧ Balanced ts ∧
      classify ("WITH a AS (SELECT (1)), b AS (UPDATE c)" ++ " " ++
        "DELETE FROM c WHERE d IN (SELECT e FROM a)") = .delete := by
  have ha := @TableExpression.intro ['a'] "AS".toList [.space] [.space]
    [.word "SELECT".toList, .space, .openParen, .number ['1'], .closeParen]
    (by decide +kernel) (by decide) rfl (by decide) (by decide)
  have hb := @TableExpression.intro ['b'] "AS".toList [.space] [.space]
    [.word "UPDATE".toList, .space, .word ['c']]
    (by decide +kernel) (by decide) rfl (by decide) (by decide)
  have htables := @TableExpressions.comma [.space] _ [] _ (by decide) ha (by decide)
    (@TableExpressions.last [.space] _ (by decide) hb)
  have hmain : tokenize "DELETE FROM c WHERE d IN (SELECT e FROM a)".toList =
      some ((tokenize "DELETE FROM c WHERE d IN (SELECT e FROM a)".toList).getD []) := by
    decide +kernel
  have hbalanced : Balanced
      ((tokenize "DELETE FROM c WHERE d IN (SELECT e FROM a)".toList).getD []) := by
    decide +kernel
  refine ⟨_, _, by decide +kernel, htables, hmain, hbalanced, ?_⟩
  obtain ⟨_, _, hverb⟩ := @classify_after_tables "WITH a AS (SELECT (1)), b AS (UPDATE c)"
    "DELETE FROM c WHERE d IN (SELECT e FROM a)" "WITH".toList _ _ rfl (by decide +kernel)
    htables hmain hbalanced
  rw [hverb ⟨"DELETE".toList, .delete, by decide +kernel, rfl⟩]
  decide +kernel

/-- **The kind of a statement that starts with no verb can change** behind table
expressions: `MERGE` is none of the four, but the `UPDATE` in its branch is found. -/
theorem classify_merge_after_tables_ne :
    ¬ ∀ (head main : String) (w : List Char) (tables ts : List Token), isWith w = true →
      tokenize head.toList = some (.word w :: tables) → TableExpressions tables →
      tokenize main.toList = some ts → Balanced ts →
      (∀ name, (ts.dropWhile Token.isGap).head? = some (.word name) → isWith name = false) →
      classify (head ++ " " ++ main) = classify main := by
  intro h
  have htables := @TableExpressions.last [.space] _ (by decide)
    (@TableExpression.intro ['s'] "AS".toList [.space] [.space]
      [.word "SELECT".toList, .space, .number ['1']]
      (by decide +kernel) (by decide) rfl (by decide) (by decide))
  have hmain : tokenize "MERGE INTO t USING s ON a = b WHEN MATCHED THEN UPDATE SET a = 1".toList =
      some ((tokenize
        "MERGE INTO t USING s ON a = b WHEN MATCHED THEN UPDATE SET a = 1".toList).getD []) := by
    decide +kernel
  have hsame := h "WITH s AS (SELECT 1)"
    "MERGE INTO t USING s ON a = b WHEN MATCHED THEN UPDATE SET a = 1" "WITH".toList _ _ rfl
    (by decide +kernel) htables hmain (by decide +kernel) (by
      intro name hname
      have hmerge : some (Token.word "MERGE".toList) = some (.word name) := by
        rw [← hname]
        decide +kernel
      cases hmerge
      rfl)
  exact absurd hsame (by decide +kernel)

end QueryAudit.Statement
