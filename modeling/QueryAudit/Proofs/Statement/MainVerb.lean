import QueryAudit.Proofs.Statement.Nesting

/-!
# The verb that decides after `WITH`

After a `WITH` the depth is followed token by token.  Only a verb at the depth of the
`WITH` ends this, so all tokens of a list without such a verb can be passed over at once
(`kindAfterWith_append`).  The parentheses that are open in front of the `WITH` move the
depth at which the list starts and the one that is waited for alike: they do not matter.

In front of the first word gaps and parentheses do nothing but change the depth
(`kindOfTokens_skipped`).
-/

namespace QueryAudit.Statement

open Sql

/-! ## Verbs in any case of letters -/

/-- A character whose upper case is a capital letter is in upper case for the keywords. -/
theorem upperChar_of_toUpper {c : Char} (h : c.toUpper.isUpper = true) :
    Text.upperChar c = [c.toUpper] := by
  unfold Text.upperChar
  split
  all_goals first | rfl | exact absurd h (by decide)

/-- A word that is a keyword up to the case of letters is looked up as this keyword. -/
theorem lookupForm_of_sameIgnoringCase {name keyword : List Char}
    (hupper : keyword.map Char.toUpper = keyword) (hcapital : keyword.all Char.isUpper = true)
    (h : Text.sameIgnoringCase name keyword = true) : lookupForm name = String.ofList keyword := by
  have hname : name.map Char.toUpper = keyword := by
    rw [Text.sameIgnoringCase, beq_iff_eq, hupper] at h
    exact h
  have hchars : ∀ c ∈ name, Text.upperChar c = [c.toUpper] := by
    intro c hc
    refine upperChar_of_toUpper (List.all_eq_true.mp hcapital _ ?_)
    rw [← hname]
    exact List.mem_map_of_mem hc
  rw [lookupForm, Text.upperCase, List.flatMap_congr hchars, ← List.map_eq_flatMap, hname]

/-- The name of each of the four kinds is its verb, in any case of letters. -/
theorem verbKind?_of_sameIgnoringCase {name : List Char} {kind : Kind} (hkind : kind ≠ .other)
    (h : Text.sameIgnoringCase name kind.name.toList = true) : verbKind? name = some kind := by
  cases kind with
  | other => exact absurd rfl hkind
  | _ => rw [verbKind?, lookupForm_of_sameIgnoringCase (by decide) (by decide) h]; rfl

/-- `WITH` is no verb. -/
theorem isWith_of_verbKind? {verb : List Char} {kind : Kind} (h : verbKind? verb = some kind) :
    isWith verb = false := by
  rw [isWith, beq_eq_false_iff_ne]
  intro hwith
  rw [verbKind?, hwith] at h
  cases h

/-! ## Passing tokens over -/

/-- The kind that a token decides, `depth` parentheses deep after a `WITH` at depth `base`. -/
def decided? (base depth : Nat) : Token → Option Kind
  | .word name => if depth = base then verbKind? name else none
  | _ => none

/-- **One token after `WITH`**: it decides, or all it does is to change the depth. -/
theorem kindAfterWith_step (base depth : Nat) (t : Token) (ts : List Token) :
    kindAfterWith base depth (t :: ts) =
      (decided? base depth t).getD (kindAfterWith base (depthAfter depth t) ts) := by
  unfold depthAfter
  split
  · rfl
  · rfl
  · next hopen hclose =>
      rw [kindAfterWith.eq_def]
      split
      · next heq => cases heq
      · next heq => exact absurd (List.cons.inj heq).1 hopen
      · next heq => exact absurd (List.cons.inj heq).1 hclose
      · next name us heq =>
          obtain ⟨rfl, rfl⟩ := List.cons.inj heq
          rw [decided?]
          split
          · cases verbKind? name <;> rfl
          · rfl
      · next hword heq =>
          obtain ⟨rfl, rfl⟩ := List.cons.inj heq
          rw [decided?]
          · rfl
          · exact hword

/-- A token that is no verb at the depth of the `WITH` only changes the depth. -/
theorem kindAfterWith_cons {base depth : Nat} {t : Token}
    (h : ∀ name, t = .word name → depth = base → verbKind? name = none) (ts : List Token) :
    kindAfterWith base depth (t :: ts) = kindAfterWith base (depthAfter depth t) ts := by
  have hnone : decided? base depth t = none := by
    unfold decided?
    split
    · next name =>
        split
        · next hbase => exact h name rfl hbase
        · rfl
    · rfl
  rw [kindAfterWith_step, hnone, Option.getD_none]

/-- **Tokens without a verb at the depth of the `WITH` are passed over.** -/
theorem kindAfterWith_append {base depth : Nat} {ts : List Token}
    (h : ∀ before name after, ts = before ++ .word name :: after →
      before.foldl depthAfter depth = base → verbKind? name = none) (us : List Token) :
    kindAfterWith base depth (ts ++ us) =
      kindAfterWith base (ts.foldl depthAfter depth) us := by
  induction ts generalizing depth with
  | nil => rfl
  | cons t ts ih =>
      have hhead : ∀ name, t = .word name → depth = base → verbKind? name = none := by
        rintro name rfl hdepth
        exact h [] name ts rfl hdepth
      rw [List.cons_append, kindAfterWith_cons hhead, List.foldl_cons]
      refine ih fun before name after hsplit hdepth => ?_
      exact h (t :: before) name after (by rw [hsplit, List.cons_append]) hdepth

/-- What is passed over leaves the depth as it was. -/
theorem Passed.kindAfterWith_append {ts : List Token} (h : Passed ts) (base : Nat)
    (us : List Token) : kindAfterWith base base (ts ++ us) = kindAfterWith base base us := by
  have hdepth : ts.foldl depthAfter base = base :=
    (h.toBalanced.foldl_depthAfter_eq_iff List.prefix_rfl base).mpr h.closed
  rw [Statement.kindAfterWith_append, hdepth]
  intro before name after hsplit hbase
  have hprefix : before <+: ts := ⟨_, hsplit.symm⟩
  exact h.no_verb name
    ⟨before, after, hsplit, (h.toBalanced.foldl_depthAfter_eq_iff hprefix base).mp hbase⟩

/-- A verb at the depth of the `WITH` decides. -/
theorem kindAfterWith_verb {verb : List Char} {kind : Kind} (h : verbKind? verb = some kind)
    (base : Nat) (ts : List Token) : kindAfterWith base base (.word verb :: ts) = kind := by
  rw [kindAfterWith, if_pos rfl, h]

/-! ## In front of the first word -/

/-- Is the token passed over in front of the first word? -/
def isSkipped : Token → Bool
  | .openParen | .closeParen => true
  | t => t.isGap

/-- Gaps are passed over. -/
theorem isSkipped_of_isGap {t : Token} (h : t.isGap = true) : isSkipped t = true := by
  cases t <;> first | rfl | cases h

/-- In front of the first word a token that is passed over only changes the depth. -/
theorem kindOfTokens_skipped {t : Token} (h : isSkipped t = true) (depth : Nat)
    (ts : List Token) : kindOfTokens depth (t :: ts) = kindOfTokens (depthAfter depth t) ts := by
  unfold isSkipped at h
  split at h
  · rfl
  · rfl
  · cases t <;> first | rfl | cases h

/-- Gaps and opening parentheses in front of the first word only change the depth. -/
theorem kindOfTokens_append {lead : List Token}
    (h : ∀ t ∈ lead, t.isGap = true ∨ t = .openParen) (depth : Nat) (ts : List Token) :
    kindOfTokens depth (lead ++ ts) = kindOfTokens (lead.foldl depthAfter depth) ts := by
  induction lead generalizing depth with
  | nil => rfl
  | cons t lead ih =>
      obtain ⟨ht, hlead⟩ := List.forall_mem_cons.mp h
      have hskipped : isSkipped t = true := by
        rcases ht with hgap | rfl
        · exact isSkipped_of_isGap hgap
        · rfl
      rw [List.cons_append, kindOfTokens_skipped hskipped, ih hlead, List.foldl_cons]

/-- A verb as the first word decides. -/
theorem kindOfTokens_verb {verb : List Char} {kind : Kind} (h : verbKind? verb = some kind)
    (depth : Nat) (ts : List Token) : kindOfTokens depth (.word verb :: ts) = kind := by
  rw [kindOfTokens, isWith_of_verbKind? h, h]
  rfl

/-- **After `WITH` and what is passed over, the kind is that of what follows**, whatever
stands in front of the `WITH`. -/
theorem kindOfTokens_with {lead passed : List Token} {w : List Char}
    (hlead : ∀ t ∈ lead, t.isGap = true ∨ t = .openParen) (hw : isWith w = true)
    (hpassed : Passed passed) (ts : List Token) :
    ∃ base, kindOfTokens 0 (lead ++ .word w :: (passed ++ ts)) = kindAfterWith base base ts := by
  refine ⟨lead.foldl depthAfter 0, ?_⟩
  rw [kindOfTokens_append hlead, kindOfTokens, if_pos hw, hpassed.kindAfterWith_append]

/-- The kind of a statement that can be read as tokens. -/
theorem classify_of_tokenize {statement : String} {ts : List Token}
    (h : tokenize statement.toList = some ts) : classify statement = kindOfTokens 0 ts := by
  rw [classify, kindOfChars, h]

/-- **A statement that opens with table expressions is what its main statement says.**
Tokens with balanced parentheses and no verb outside them may follow the `WITH`: the
first verb behind them decides, and without one the statement is none of the four. -/
theorem classify_with {lead passed : List Token} {w : List Char}
    (hlead : ∀ t ∈ lead, t.isGap = true ∨ t = .openParen) (hw : isWith w = true)
    (hpassed : Passed passed) :
    (∀ (statement : String) (verb : List Char) (kind : Kind) (rest : List Token),
      verbKind? verb = some kind →
      tokenize statement.toList =
        some (lead ++ .word w :: (passed ++ .word verb :: rest)) →
      classify statement = kind) ∧
    ∀ statement : String, tokenize statement.toList = some (lead ++ .word w :: passed) →
      classify statement = .other := by
  refine ⟨?_, ?_⟩
  · intro statement verb kind rest hverb htokens
    obtain ⟨base, hbase⟩ := kindOfTokens_with hlead hw hpassed (.word verb :: rest)
    rw [classify_of_tokenize htokens, hbase, kindAfterWith_verb hverb]
  · intro statement htokens
    obtain ⟨base, hbase⟩ := kindOfTokens_with hlead hw hpassed []
    rw [List.append_nil] at hbase
    rw [classify_of_tokenize htokens, hbase, kindAfterWith]

/-- The parenthesis in front of the `WITH` stays open, a verb stands in nested ones, and
the verb that decides is written in mixed case. -/
theorem classify_with_in_parens :
    ∃ lead passed rest, (∀ t ∈ lead, t.isGap = true ∨ t = .openParen) ∧ Passed passed ∧
      tokenize "(/* all */ with a AS (SELECT max(b) FROM c) DeLeTe FROM a)".toList =
        some (lead ++ .word "with".toList :: (passed ++ .word "DeLeTe".toList :: rest)) ∧
      classify "(/* all */ with a AS (SELECT max(b) FROM c) DeLeTe FROM a)" = .delete := by
  let lead : List Token := [.openParen, .blockComment " all ".toList, .space]
  let head : List Token := [.space, .word "a".toList, .space, .word "AS".toList, .space]
  let body : List Token := [.word "SELECT".toList, .space, .word "max".toList, .openParen,
    .word "b".toList, .closeParen, .space, .word "FROM".toList, .space, .word "c".toList]
  let rest : List Token := [.space, .word "FROM".toList, .space, .word "a".toList, .closeParen]
  have hlead : ∀ t ∈ lead, t.isGap = true ∨ t = .openParen := by decide
  have hpassed : Passed (head ++ (.openParen :: body ++ [.closeParen]) ++ [.space]) :=
    ((passed_of_isPassable (by decide +kernel)).append
      (Balanced.passed_parens (by decide))).append (passed_of_isPassable (by decide))
  have htokens : tokenize "(/* all */ with a AS (SELECT max(b) FROM c) DeLeTe FROM a)".toList =
      some (lead ++ .word "with".toList ::
        ((head ++ (.openParen :: body ++ [.closeParen]) ++ [.space]) ++
          .word "DeLeTe".toList :: rest)) := by decide +kernel
  have hverb : verbKind? "DeLeTe".toList = some .delete :=
    verbKind?_of_sameIgnoringCase (by decide) (by decide)
  exact ⟨lead, _, rest, hlead, hpassed, htokens,
    (classify_with hlead (by decide) hpassed).1 _ _ _ _ hverb htokens⟩

end QueryAudit.Statement
