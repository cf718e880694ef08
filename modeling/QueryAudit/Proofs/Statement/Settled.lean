import QueryAudit.Proofs.Sql.Spelling
import QueryAudit.Proofs.Statement.ShapeTokens
import QueryAudit.Proofs.Text.Collapse

/-!
# Texts that are their own shape

`shapeOfChars_eq_self_iff` says which texts shaping leaves alone.  No step of it
lengthens a text: tokens are written no longer than they were spelled, gaps only
shrink, and a literal becomes a single character.  A text that is its own shape keeps
its length, so every step left the length alone, and this forces each one to have done
nothing.  The one step that can trade a character for another is hiding a literal; but
a text that has a `?` where a literal starts has no literal there.
-/

namespace QueryAudit.Statement

open Sql

/-- **The texts that shaping leaves alone.**  Their tokens are plain and written as
they are spelled, and no space or semicolon stands at their end.  A text without tokens
only has to be collapsed. -/
def Settled (s : List Char) : Prop :=
  match tokenize s with
  | some ts => Plain ts ∧ Token.text ts = s ∧ ∀ c ∈ s.getLast?, isTrailing c = false
  | none => Text.Collapsed s

/-! ## Lengths -/

/-- Dropping the end of a text leaves a beginning of it. -/
theorem dropTrailing_prefix (s : List Char) : dropTrailing s <+: s := by
  have hsuffix := List.dropWhile_suffix (l := s.reverse) isTrailing
  rw [← List.reverse_prefix, List.reverse_reverse] at hsuffix
  exact hsuffix

/-- A text keeps its end if that is no space and no semicolon. -/
theorem dropTrailing_eq_self_iff {s : List Char} :
    dropTrailing s = s ↔ ∀ c ∈ s.getLast?, isTrailing c = false := by
  have hrev : dropTrailing s = s ↔ s.reverse.dropWhile isTrailing = s.reverse := by
    rw [dropTrailing, List.reverse_eq_iff]
  rw [hrev, ← List.head?_reverse]
  cases s.reverse with
  | nil => simp
  | cons c t =>
      rw [List.dropWhile_eq_self_iff]
      simp

/-- A gap that is written as one character is a space. -/
theorem eq_space_or_two_le_length {t : Token} (h : t.isGap = true) :
    t = .space ∨ 2 ≤ t.written.length := by
  cases t <;> simp [Token.isGap] at h <;> simp [Token.written]

/-- A hidden token is not longer than what it was read from. -/
theorem scan_hidden_length {c : Char} {s rest : List Char} {t : Token}
    (h : scan c s = some (t, rest)) :
    (hidden t).written.length + rest.length ≤ s.length + 1 := by
  cases hliteral : t.isLiteral with
  | true =>
      have hle := (scan_suffix h).length_le
      simp only [hidden, hliteral, if_pos, mark, Token.written, List.length_singleton]
      omega
  | false =>
      obtain ⟨a, hspelled, hs⟩ := scan_spelled h hliteral
      have hle := hspelled.length_le
      have hlen := congrArg List.length hs
      simp only [List.length_cons, List.length_append] at hlen
      rw [hidden, hliteral, if_neg (by simp)]
      omega

/-- The text of some tokens, one after another. -/
theorem text_cons (t : Token) (ts : List Token) :
    Token.text (t :: ts) = t.written ++ Token.text ts := rfl

/-- Hiding the literals of a text does not lengthen it. -/
theorem tokenize_hidden_length {s : List Char} {ts : List Token} (h : tokenize s = some ts) :
    (Token.text (ts.map hidden)).length ≤ s.length := by
  fun_induction tokenize s generalizing ts with
  | case1 => cases h; exact Nat.le_refl 0
  | case2 => cases h
  | case3 c s t rest hscan _ ih =>
      obtain ⟨us, hus, rfl⟩ := Option.map_eq_some_iff.mp h
      have hfirst := scan_hidden_length hscan
      have hrest := ih hus
      rw [List.map_cons, text_cons, List.length_append, List.length_cons]
      omega

/-- The length of a text whose literals are hidden. -/
def hiddenLength (ts : List Token) : Nat := (Token.text (ts.map hidden)).length

theorem hiddenLength_cons (t : Token) (ts : List Token) :
    hiddenLength (t :: ts) = (hidden t).written.length + hiddenLength ts := by
  rw [hiddenLength, List.map_cons, text_cons, List.length_append]
  rfl

/-- A gap takes its written form. -/
theorem hiddenLength_cons_gap {t : Token} (h : t.isGap = true) (ts : List Token) :
    hiddenLength (t :: ts) = t.written.length + hiddenLength ts := by
  rw [hiddenLength_cons, hidden_of_isGap h]

/-- **Spacing shortens a text or leaves it alone.**  A gap that was passed counts as the
space that is still to come. -/
theorem spaced_shortens (ts : List Token) :
    (spaced false ts = ts ∨ hiddenLength (spaced false ts) < hiddenLength ts) ∧
      (spaced true ts = .space :: ts ∨
        hiddenLength (spaced true ts) < hiddenLength (.space :: ts)) := by
  have hspace (us : List Token) : hiddenLength (.space :: us) = 1 + hiddenLength us :=
    hiddenLength_cons_gap rfl us
  induction ts with
  | nil =>
      refine ⟨.inl rfl, .inr ?_⟩
      rw [hspace]
      exact Nat.one_pos
  | cons t ts ih =>
      obtain ⟨hfalse, htrue⟩ := ih
      cases ht : t.isGap with
      | false =>
          have hcons := hiddenLength_cons t
          have hstep : spaced false (t :: ts) = t :: spaced false ts := by simp [spaced, ht]
          have hgap : spaced true (t :: ts) = .space :: t :: spaced false ts := by
            simp [spaced, ht]
          rw [hstep, hgap]
          rcases hfalse with hfalse | hfalse
          · rw [hfalse]
            exact ⟨.inl rfl, .inl rfl⟩
          · refine ⟨.inr ?_, .inr ?_⟩
            · rw [hcons, hcons]
              omega
            · rw [hspace, hspace, hcons, hcons]
              omega
      | true =>
          have hstep (gap : Bool) : spaced gap (t :: ts) = spaced true ts := by
            simp [spaced, ht]
          have hcons := hiddenLength_cons_gap ht ts
          have hle : hiddenLength (spaced true ts) ≤ 1 + hiddenLength ts := by
            rcases htrue with htrue | htrue
            · rw [htrue, hspace]
            · rw [hspace] at htrue
              omega
          rw [hstep, hstep, hspace, hcons]
          rcases eq_space_or_two_le_length ht with rfl | hlong
          · refine ⟨htrue.imp_right ?_, .inr ?_⟩
            · intro hlt
              rwa [hspace] at hlt
            · change _ < 1 + (1 + _)
              omega
          · exact ⟨.inr (by omega), .inr (by omega)⟩

/-- **Masking shortens a text or hides the literals one by one.** -/
theorem masked_shortens (operand : Bool) (ts : List Token) :
    masked operand ts = ts.map hidden ∨
      (Token.text (masked operand ts)).length < hiddenLength ts := by
  fun_induction masked operand ts with
  | case1 => exact .inl rfl
  | case2 text ts ih =>
      rcases ih with ih | ih
      · rw [ih]
        exact .inl rfl
      · apply Or.inr
        rw [hiddenLength_cons, hiddenLength_cons, text_cons, text_cons, List.length_append,
          List.length_append]
        change 1 + (1 + _) < 1 + (1 + _)
        omega
  | case3 operand text ts _ ih =>
      -- the minus sign is gone
      apply Or.inr
      have hle : (Token.text (masked true ts)).length ≤ hiddenLength ts := by
        rcases ih with ih | ih
        · rw [ih]
          exact Nat.le_refl _
        · exact Nat.le_of_lt ih
      rw [hiddenLength_cons, hiddenLength_cons, text_cons, List.length_append]
      change 1 + _ < 1 + (1 + _)
      omega
  | case4 operand t ts _ ih =>
      rcases ih with ih | ih
      · rw [ih]
        exact .inl rfl
      · apply Or.inr
        rw [hiddenLength_cons, text_cons, List.length_append]
        change (hidden t).written.length + _ < _
        omega

/-- **Dropping the gaps in front shortens a text or leaves it alone.** -/
theorem dropWhile_isGap_shortens (ts : List Token) :
    ts.dropWhile Token.isGap = ts ∨
      hiddenLength (ts.dropWhile Token.isGap) < hiddenLength ts := by
  induction ts with
  | nil => exact .inl rfl
  | cons t ts ih =>
      cases ht : t.isGap with
      | false => exact .inl (by simp [ht])
      | true =>
          have hcons := hiddenLength_cons_gap ht ts
          have hpos : 0 < t.written.length := by
            rcases eq_space_or_two_le_length ht with rfl | hlong
            · exact Nat.one_pos
            · omega
          have hdrop : (t :: ts).dropWhile Token.isGap = ts.dropWhile Token.isGap := by
            simp [ht]
          rw [hdrop]
          rcases ih with ih | ih
          · rw [ih]
            exact .inr (by omega)
          · exact .inr (by omega)

/-! ## Fixed points -/

/-- A question mark starts a placeholder. -/
theorem scan_question (s : List Char) : scan '?' s = some (questionToken s) := rfl

/-- **A literal cannot start with a question mark.**  A text that hiding its literals
leaves alone has none. -/
theorem literal_of_text_hidden_eq {s : List Char} {ts : List Token}
    (h : tokenize s = some ts) (htext : Token.text (ts.map hidden) = s) :
    ∀ t ∈ ts, t.isLiteral = false := by
  fun_induction tokenize s generalizing ts with
  | case1 => cases h; simp
  | case2 => cases h
  | case3 c s t rest hscan _ ih =>
      obtain ⟨us, hus, rfl⟩ := Option.map_eq_some_iff.mp h
      rw [List.map_cons, text_cons] at htext
      -- the texts behind the first token are as long as each other, hence the same
      have hfirst := scan_hidden_length hscan
      have hle := tokenize_hidden_length hus
      have hlen := congrArg List.length htext
      rw [List.length_append, List.length_cons] at hlen
      have hrest : Token.text (us.map hidden) = rest := by
        have hs : rest <:+ c :: s := (scan_suffix hscan).trans (List.suffix_cons c s)
        have hsuffix := List.suffix_of_suffix_length_le ⟨_, htext⟩ hs hle
        exact hsuffix.eq_of_length (by omega)
      intro u hu
      rcases List.mem_cons.mp hu with rfl | hu
      · cases hliteral : u.isLiteral with
        | false => rfl
        | true =>
            rw [hidden, hliteral, if_pos rfl] at htext
            obtain ⟨rfl, _⟩ := List.cons.inj htext
            rw [scan_question] at hscan
            obtain ⟨rfl, _⟩ := parts_of_eq_some hscan
            cases hliteral
      · exact ih hus hrest u hu

/-- **Shaping shortens the text of some tokens**, unless it only hides literals. -/
theorem shapeTokens_shortens (ts : List Token) :
    (shapeTokens ts = ts.map hidden ∧ Spaced ts ∧ ∀ t ∈ ts.head?, t.isGap = false) ∨
      (Token.text (shapeTokens ts)).length < hiddenLength ts := by
  have hmasked := masked_shortens false (spaced false (ts.dropWhile Token.isGap))
  have hspaced := (spaced_shortens (ts.dropWhile Token.isGap)).1
  have hdrop := dropWhile_isGap_shortens ts
  change shapeTokens ts = _ ∨ (Token.text (shapeTokens ts)).length < _ at hmasked
  have hle1 : (Token.text (shapeTokens ts)).length ≤
      hiddenLength (spaced false (ts.dropWhile Token.isGap)) := by
    rcases hmasked with h | h
    · rw [h]
      exact Nat.le_refl _
    · exact Nat.le_of_lt h
  have hle2 : hiddenLength (spaced false (ts.dropWhile Token.isGap)) ≤
      hiddenLength (ts.dropWhile Token.isGap) := by
    rcases hspaced with h | h
    · rw [h]
    · exact Nat.le_of_lt h
  have hle3 : hiddenLength (ts.dropWhile Token.isGap) ≤ hiddenLength ts := by
    rcases hdrop with h | h
    · rw [h]
    · exact Nat.le_of_lt h
  apply or_iff_not_imp_right.mpr
  intro hnot
  have hshape := hmasked.resolve_right (by omega)
  have hsame := hspaced.resolve_right (by omega)
  have hfront := hdrop.resolve_right (by omega)
  rw [hfront] at hshape hsame
  have hfirst := isGap_of_mem_head?_dropWhile ts
  rw [hfront] at hfirst
  rw [hsame] at hshape
  exact ⟨hshape, hsame ▸ spaced_spaced false ts, hfirst⟩

/-- **A text is its own shape exactly when it is settled.** -/
theorem shapeOfChars_eq_self_iff {s : List Char} : shapeOfChars s = s ↔ Settled s := by
  unfold shapeOfChars Settled
  cases hread : tokenize s with
  | none => exact Text.collapse_eq_self_iff
  | some ts =>
      constructor
      · intro h
        dsimp only at h
        have hend := dropTrailing_prefix (Token.text (shapeTokens ts))
        have hle : hiddenLength ts ≤ s.length := tokenize_hidden_length hread
        -- no step has shortened the text
        have hlen : s.length ≤ (Token.text (shapeTokens ts)).length := by
          rw [h] at hend
          exact hend.length_le
        obtain ⟨hshape, hspaced, hfirst⟩ := (shapeTokens_shortens ts).resolve_right (by omega)
        rw [hshape] at h hend hlen
        have htext : Token.text (ts.map hidden) = s := by
          rw [h] at hend
          exact (hend.eq_of_length_le hle).symm
        have hliteral := literal_of_text_hidden_eq hread htext
        have hplain : Plain ts := ⟨hspaced, hfirst, hliteral⟩
        rw [htext] at h
        rw [← hshape, shapeTokens_eq_self_iff.mpr hplain] at htext
        exact ⟨hplain, htext, dropTrailing_eq_self_iff.mp h⟩
      · intro h
        obtain ⟨hplain, htext, hlast⟩ := h
        dsimp only
        rw [shapeTokens_eq_self_iff.mpr hplain, htext, dropTrailing_eq_self_iff]
        exact hlast

end QueryAudit.Statement
