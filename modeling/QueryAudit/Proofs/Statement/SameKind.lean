import QueryAudit.Proofs.Statement.MainVerb

/-!
# What does not count for a kind

Up to the first word gaps and parentheses are passed over, and any other token settles that
the statement has no verb.  After a `WITH` only words and parentheses count.  So two token
lists may differ and still be of one kind wherever they stand: behind the same tokens, at any
depth, before a `WITH` and after it.  `SameKind` is that relation.  The same tokens may be put
in front of both lists (`SameKind.cons`), a gap in front of one of them (`SameKind.gap`), and
two mute tokens, one in front of each (`SameKind.mute`).
-/

namespace QueryAudit.Statement

open Sql

/-- Is the token neither a gap nor a parenthesis nor a word? -/
def isMute : Token → Bool
  | .openParen | .closeParen | .word _ => false
  | t => !t.isGap

/-- No reading of a kind tells the two lists apart. -/
structure SameKind (ts us : List Token) : Prop where
  first : ∀ depth, kindOfTokens depth ts = kindOfTokens depth us
  afterWith : ∀ base depth, kindAfterWith base depth ts = kindAfterWith base depth us

/-! ## One token -/

/-- Every token is passed over in front of the first word, is a word, or is mute. -/
theorem skipped_word_or_mute (t : Token) :
    isSkipped t = true ∨ (∃ name, t = .word name) ∨ isMute t = true := by
  unfold isSkipped
  split
  · exact .inl rfl
  · exact .inl rfl
  · next hopen hclose =>
      cases hgap : t.isGap with
      | true => exact .inl rfl
      | false =>
          right
          unfold isMute
          split
          · exact absurd rfl hopen
          · exact absurd rfl hclose
          · exact .inl ⟨_, rfl⟩
          · exact .inr (by rw [hgap]; rfl)

/-- Neither a gap nor a mute token changes the depth. -/
theorem depthAfter_eq_self {t : Token} (h : t.isGap = true ∨ isMute t = true) (depth : Nat) :
    depthAfter depth t = depth := by
  unfold depthAfter
  split
  · rcases h with h | h <;> cases h
  · rcases h with h | h <;> cases h
  · rfl

/-- A mute token in front of the first word settles that there is no verb. -/
theorem kindOfTokens_mute {t : Token} (h : isMute t = true) (depth : Nat) (ts : List Token) :
    kindOfTokens depth (t :: ts) = .other := by
  unfold isMute at h
  split at h
  case h_4 hopen hclose hword =>
    rw [kindOfTokens]
    · rw [if_neg (by simpa using h)]
    · exact hopen
    · exact hclose
    · exact hword
  all_goals cases h

/-- After a `WITH` neither a gap nor a mute token counts. -/
theorem kindAfterWith_eq_tail {t : Token} (h : t.isGap = true ∨ isMute t = true)
    (base depth : Nat) (ts : List Token) :
    kindAfterWith base depth (t :: ts) = kindAfterWith base depth ts := by
  rw [kindAfterWith_cons, depthAfter_eq_self h]
  rintro name rfl
  rcases h with h | h <;> cases h

/-! ## Lists of the same kind -/

namespace SameKind

variable {ts us vs : List Token} {t u : Token}

theorem refl (ts : List Token) : SameKind ts ts := ⟨fun _ => rfl, fun _ _ => rfl⟩

theorem symm (h : SameKind ts us) : SameKind us ts :=
  ⟨fun depth => (h.first depth).symm, fun base depth => (h.afterWith base depth).symm⟩

theorem trans (h : SameKind ts us) (h' : SameKind us vs) : SameKind ts vs :=
  ⟨fun depth => (h.first depth).trans (h'.first depth),
    fun base depth => (h.afterWith base depth).trans (h'.afterWith base depth)⟩

/-- **The same token may stand in front of both.** -/
theorem cons (t : Token) (h : SameKind ts us) : SameKind (t :: ts) (t :: us) where
  first := by
    intro depth
    rcases skipped_word_or_mute t with hskipped | ⟨name, rfl⟩ | hmute
    · rw [kindOfTokens_skipped hskipped, kindOfTokens_skipped hskipped, h.first]
    · rw [kindOfTokens, kindOfTokens, h.afterWith]
    · rw [kindOfTokens_mute hmute, kindOfTokens_mute hmute]
  afterWith := by
    intro base depth
    rw [kindAfterWith_step, kindAfterWith_step, h.afterWith]

/-- A gap may stand in front of one of them. -/
theorem gap (ht : t.isGap = true) (h : SameKind ts us) : SameKind (t :: ts) us where
  first := by
    intro depth
    rw [kindOfTokens_skipped (isSkipped_of_isGap ht), depthAfter_eq_self (.inl ht), h.first]
  afterWith := by
    intro base depth
    rw [kindAfterWith_eq_tail (.inl ht), h.afterWith]

/-- Any two mute tokens may stand in front of lists that are alike after a `WITH`. -/
theorem mute (ht : isMute t = true) (hu : isMute u = true)
    (h : ∀ base depth, kindAfterWith base depth ts = kindAfterWith base depth us) :
    SameKind (t :: ts) (u :: us) where
  first := by
    intro depth
    rw [kindOfTokens_mute ht, kindOfTokens_mute hu]
  afterWith := by
    intro base depth
    rw [kindAfterWith_eq_tail (.inr ht), kindAfterWith_eq_tail (.inr hu), h]

/-- Gaps in front of a list do not count. -/
theorem dropWhile (ts : List Token) : SameKind (ts.dropWhile Token.isGap) ts := by
  induction ts with
  | nil => exact refl []
  | cons t ts ih =>
      cases ht : t.isGap with
      | true =>
          rw [List.dropWhile_cons_of_pos ht]
          exact (gap ht ih.symm).symm
      | false =>
          rw [List.dropWhile_cons_of_neg (by simp [ht])]
          exact refl _

end SameKind

end QueryAudit.Statement
