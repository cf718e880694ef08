import Mathlib.Data.List.DropRight
import QueryAudit.Proofs.Sql.ReadBack
import QueryAudit.Proofs.Statement.Settled

/-!
# Reading a shape

A shape is a text again.  When no two of its tokens can be taken for something else,
the shape is read as the very tokens that were written to it, so that shaping it again
changes nothing.  `Legible` is the condition, on the tokens of the statement; what it
asks for comes down to a few rare neighbours.
-/

namespace QueryAudit.Statement

open Sql Text

/-- **What keeps two neighbours of a statement apart in its shape.**  A literal becomes a
question mark, which a numeral would lengthen and a lone mark would join; and `<` joins
the other spelling of "not equal". -/
structure Apart (t u : Token) : Prop where
  literal : t.isLiteral = true → StopsAt isNumeric (hidden u).written
  lone : t ∈ loneMarks → u.isLiteral = false
  less : ¬ (t = .symbol ['<'] ∧ u = .symbol ['<', '>'])

instance : DecidableRel Apart := fun t u =>
  decidable_of_iff
    ((t.isLiteral = true → StopsAt isNumeric (hidden u).written) ∧
      (t ∈ loneMarks → u.isLiteral = false) ∧
      ¬ (t = .symbol ['<'] ∧ u = .symbol ['<', '>']))
    ⟨fun h => ⟨h.1, h.2.1, h.2.2⟩, fun h => ⟨h.literal, h.lone, h.less⟩⟩

/-- Does the token vanish at the end of a shape? -/
def isEnding (t : Token) : Bool := t == .space || t == .symbol [';']

/-- The tokens of a statement whose shape can be read back: what is shown of them reads
alone for itself, keeps apart from its neighbours, and does not end like a token that
vanishes. -/
structure Legible (ts : List Token) : Prop where
  faithful : ∀ t ∈ ts, t.isLiteral = false → t.isGap = false → Faithful t
  apart : ts.IsChain Apart
  ending : ∀ t ∈ ts, t.isLiteral = false → t.isGap = false → isEnding t = false →
    t.written.getLast?.any isTrailing = false

instance : DecidablePred Legible := fun ts =>
  decidable_of_iff
    ((∀ t ∈ ts, t.isLiteral = false → t.isGap = false → Faithful t) ∧ ts.IsChain Apart ∧
      ∀ t ∈ ts, t.isLiteral = false → t.isGap = false → isEnding t = false →
        t.written.getLast?.any isTrailing = false)
    ⟨fun h => ⟨h.1, h.2.1, h.2.2⟩, fun h => ⟨h.faithful, h.apart, h.ending⟩⟩

/-! ## Neighbours -/

/-- Two tokens are related, or one of them is a space. -/
def Across (R : Token → Token → Prop) (t u : Token) : Prop := t = .space ∨ u = .space ∨ R t u

/-- Behind a gap, spacing starts with a space. -/
theorem head?_spaced_true (ts : List Token) : ∀ u ∈ (spaced true ts).head?, u = .space := by
  induction ts with
  | nil => simp [spaced]
  | cons t ts ih =>
      cases ht : t.isGap with
      | true => simpa [spaced, ht] using ih
      | false => simp [spaced, ht]

/-- **Spacing brings no tokens together.**  Neighbours were neighbours before, or have a
space between them. -/
theorem spaced_across {R : Token → Token → Prop} (gap : Bool) {ts : List Token}
    (h : ts.IsChain R) : (spaced gap ts).IsChain (Across R) := by
  have hhead {t : Token} {ts : List Token} (h : (t :: ts).IsChain R) :
      ∀ u ∈ (spaced false ts).head?, Across R t u := by
    intro u hu
    cases ts with
    | nil => cases hu
    | cons v ts =>
        cases hv : v.isGap with
        | true =>
            rw [spaced, if_pos hv] at hu
            exact .inr (.inl (head?_spaced_true ts u hu))
        | false =>
            obtain rfl : v = u := by simpa [spaced, hv] using hu
            exact .inr (.inr (List.isChain_cons_cons.mp h).1)
  fun_induction spaced gap ts with
  | case1 => exact .nil
  | case2 gap t ts ht ih => exact ih h.tail
  | case3 t ts ht ih =>
      have hrest := List.isChain_cons.mpr ⟨hhead h, ih h.tail⟩
      exact List.isChain_cons_cons.mpr ⟨.inl rfl, hrest⟩
  | case4 gap t ts ht hgap ih => exact List.isChain_cons.mpr ⟨hhead h, ih h.tail⟩

/-- Spacing brings no token but spaces, and leaves no gap but them. -/
theorem mem_spaced {gap : Bool} {ts : List Token} {t : Token} (h : t ∈ spaced gap ts) :
    t = .space ∨ (t ∈ ts ∧ t.isGap = false) := by
  fun_induction spaced gap ts with
  | case1 => cases h
  | case2 gap u ts _ ih =>
      exact (ih h).imp_right fun hmem => ⟨List.mem_cons_of_mem u hmem.1, hmem.2⟩
  | case3 u ts hu ih =>
      rcases List.mem_cons.mp h with rfl | h
      · exact .inl rfl
      rcases List.mem_cons.mp h with rfl | h
      · exact .inr ⟨List.mem_cons_self, by simpa using hu⟩
      · exact (ih h).imp_right fun hmem => ⟨List.mem_cons_of_mem u hmem.1, hmem.2⟩
  | case4 gap u ts hu _ ih =>
      rcases List.mem_cons.mp h with rfl | h
      · exact .inr ⟨List.mem_cons_self, by simpa using hu⟩
      · exact (ih h).imp_right fun hmem => ⟨List.mem_cons_of_mem u hmem.1, hmem.2⟩

/-- Masking brings no token but the mark. -/
theorem mem_masked {operand : Bool} {ts : List Token} {t : Token}
    (h : t ∈ masked operand ts) : t = mark ∨ t ∈ ts := by
  fun_induction masked operand ts with
  | case1 => cases h
  | case2 text ts ih =>
      rcases List.mem_cons.mp h with rfl | h
      · exact .inr List.mem_cons_self
      rcases List.mem_cons.mp h with rfl | h
      · exact .inl rfl
      · exact (ih h).imp_right fun hmem => by simp [hmem]
  | case3 operand text ts _ ih =>
      rcases List.mem_cons.mp h with rfl | h
      · exact .inl rfl
      · exact (ih h).imp_right fun hmem => by simp [hmem]
  | case4 operand u ts _ ih =>
      rcases List.mem_cons.mp h with rfl | h
      · split
        · exact .inl rfl
        · exact .inr List.mem_cons_self
      · exact (ih h).imp_right (List.mem_cons_of_mem u)

/-! ## Joining -/

/-- What is left to mask: spaces, literals, and tokens that read for themselves. -/
def Shown (t : Token) : Prop := t = .space ∨ t.isLiteral = true ∨ Solid t

/-- The relation of tokens that keep apart right behind each other. -/
def Near (t u : Token) : Prop := Adjacent t u ∧ Apart t u

/-- A solid token shows as itself. -/
theorem hidden_of_solid {t : Token} (h : Solid t) : hidden t = t := by
  simp [hidden, h.literal]

/-- A literal shows as the mark. -/
theorem hidden_of_isLiteral {t : Token} (h : t.isLiteral = true) : hidden t = mark := by
  simp [hidden, h]

/-- What is shown has a first character. -/
theorem Shown.written_ne_nil {t : Token} (h : Shown t) : (hidden t).written ≠ [] := by
  rcases h with rfl | hliteral | hsolid
  · simp [hidden, Token.isLiteral, Token.written]
  · rw [hidden_of_isLiteral hliteral]
    simp [mark, Token.written]
  · obtain ⟨c, s, r, hread⟩ := hsolid.read
    obtain ⟨d, b, hwritten, _⟩ := scan_starts hread hsolid.literal hsolid.gap
    simp [hidden_of_solid hsolid, hwritten]

/-- Directly behind a lone mark stands no minus sign. -/
theorem not_mem_loneMarks {t : Token} (h : Adjacent t .minus) : t ∉ loneMarks := by
  intro hmem
  obtain ⟨c, s, d, r, q, hread, hnext⟩ := h
  have hd := rest_of_loneMark hread hmem d rfl
  obtain rfl : d = '-' := eq_of_head?_written hnext rfl rfl (by decide) rfl
  exact absurd hd (by decide)

/-- **What is shown of neighbours joins.**  The second may have lost a minus sign in
front of a number. -/
theorem hidden_joins {t u v : Token} (ht : Shown t) (hu : Shown u) (hnear : Across Near t u)
    (hv : v = hidden u ∨ (u = .minus ∧ v = mark)) : Joins (hidden t) v := by
  rcases ht with rfl | hliteral | hsolid
  · exact fun w _ => readsBefore_space _
  · -- a literal is shown as a question mark, and no numeral follows
    rw [hidden_of_isLiteral hliteral]
    have hnumeral : StopsAt isNumeric (hidden u).written := by
      rcases hnear with rfl | rfl | ⟨_, hapart⟩
      · cases hliteral
      · exact stopsAt_cons.mpr (by decide)
      · exact hapart.literal hliteral
    rcases hv with rfl | ⟨_, rfl⟩
    · exact question_joins hu.written_ne_nil hnumeral
    · exact question_joins (by simp [mark, Token.written]) (stopsAt_cons.mpr (by decide))
  · rw [hidden_of_solid hsolid]
    rcases hnear with rfl | rfl | ⟨hadjacent, hapart⟩
    · cases hsolid.gap
    · rcases hv with rfl | ⟨hminus, _⟩
      · exact hsolid.joins_space
      · cases hminus
    · rcases hv with rfl | ⟨rfl, rfl⟩
      · rcases hu with rfl | hliteral' | hsolid'
        · exact hsolid.joins_space
        · rw [hidden_of_isLiteral hliteral']
          refine hsolid.joins_question fun hmem => ?_
          rw [hapart.lone hmem] at hliteral'
          cases hliteral'
        · rw [hidden_of_solid hsolid']
          exact hsolid.joins hsolid' hadjacent hapart.less
      · exact hsolid.joins_question (not_mem_loneMarks hadjacent)

/-- Masking starts with what is shown of the first token, unless it is a minus sign that
was lost. -/
theorem head?_masked {operand : Bool} {t v : Token} {ts : List Token}
    (h : v ∈ (masked operand (t :: ts)).head?) : v = hidden t ∨ (t = .minus ∧ v = mark) := by
  unfold masked at h
  split at h
  · cases h
  · next heq =>
      obtain ⟨rfl, _⟩ := List.cons.inj heq
      split at h
      · exact .inl (Option.some.inj h).symm
      · exact .inr ⟨rfl, (Option.some.inj h).symm⟩
  · next heq =>
      obtain ⟨rfl, _⟩ := List.cons.inj heq
      exact .inl (Option.some.inj h).symm

/-- **Masked tokens join.** -/
theorem masked_joins (operand : Bool) {ts : List Token} (hshown : ∀ t ∈ ts, Shown t)
    (h : ts.IsChain (Across Near)) : (masked operand ts).IsChain Joins := by
  -- what is shown of the first token joins what masking makes of the others
  have hhead {operand : Bool} {t : Token} {ts : List Token} (hshown : ∀ u ∈ t :: ts, Shown u)
      (h : (t :: ts).IsChain (Across Near)) :
      ∀ v ∈ (masked operand ts).head?, Joins (hidden t) v := by
    intro v hv
    cases ts with
    | nil => cases hv
    | cons u ts =>
        exact hidden_joins (hshown t (by simp)) (hshown u (by simp))
          (List.isChain_cons_cons.mp h).1 (head?_masked hv)
  fun_induction masked operand ts with
  | case1 => exact .nil
  | case2 text ts ih =>
      obtain ⟨hminus, hnumber⟩ := List.forall_mem_cons.mp hshown
      have hrest := ih (List.forall_mem_cons.mp hnumber).2 h.tail.tail
      have hmark := List.isChain_cons.mpr ⟨hhead hnumber h.tail, hrest⟩
      have hsigned := hidden_joins hminus (hnumber _ List.mem_cons_self)
        (List.isChain_cons_cons.mp h).1 (.inl rfl)
      exact List.isChain_cons_cons.mpr ⟨hsigned, hmark⟩
  | case3 operand text ts _ ih =>
      obtain ⟨_, hnumber⟩ := List.forall_mem_cons.mp hshown
      have hrest := ih (List.forall_mem_cons.mp hnumber).2 h.tail.tail
      exact List.isChain_cons.mpr ⟨hhead hnumber h.tail, hrest⟩
  | case4 operand t ts _ ih =>
      have hrest := ih (List.forall_mem_cons.mp hshown).2 h.tail
      exact List.isChain_cons.mpr ⟨hhead hshown h, hrest⟩

/-! ## The end of a shape -/

/-- The tokens of a shape without those that vanish at its end. -/
def trimmed (ts : List Token) : List Token := ts.rdropWhile isEnding

/-- Dropping the end of a text drops the tokens that vanish there, if no other token ends
like them. -/
theorem dropTrailing_text {ts : List Token}
    (h : ∀ t ∈ ts, isEnding t = false →
      ∃ a c, t.written = a ++ [c] ∧ isTrailing c = false) :
    dropTrailing (Token.text ts) = Token.text (trimmed ts) := by
  have hdrop (s : List Char) : dropTrailing s = s.rdropWhile isTrailing := rfl
  induction ts using List.reverseRecOn with
  | nil => rfl
  | append_singleton ts t ih =>
      have ht : Token.text (ts ++ [t]) = Token.text ts ++ t.written := by
        simp [Token.text]
      cases hend : isEnding t with
      | true =>
          have hrest := ih fun u hu => h u (List.mem_append_left [t] hu)
          have hwritten : ∃ c, t.written = [c] ∧ isTrailing c = true := by
            rw [isEnding, Bool.or_eq_true, beq_iff_eq, beq_iff_eq] at hend
            rcases hend with rfl | rfl
            · exact ⟨' ', rfl, rfl⟩
            · exact ⟨';', rfl, rfl⟩
          obtain ⟨c, hc, htrailing⟩ := hwritten
          rw [trimmed, List.rdropWhile_concat_pos _ _ _ hend, ht, hc, hdrop,
            List.rdropWhile_concat_pos _ _ _ htrailing]
          exact hrest
      | false =>
          obtain ⟨a, c, hc, htrailing⟩ := h t (by simp) hend
          have hkeep : ¬ isEnding t = true := by simp [hend]
          rw [trimmed, List.rdropWhile_concat_neg _ _ _ hkeep, ht, hc, hdrop,
            ← List.append_assoc, List.rdropWhile_concat_neg]
          simp [htrailing]

/-- Dropping tokens at the end leaves a plain list plain. -/
theorem trimmed_plain {ts : List Token} (h : Plain ts) : Plain (trimmed ts) := by
  obtain ⟨dropped, hdropped⟩ := List.rdropWhile_prefix isEnding ts
  have hmem {t : Token} (ht : t ∈ trimmed ts) : t ∈ ts := by
    rw [← hdropped]
    exact List.mem_append_left dropped ht
  have hsingle := h.single
  have hfirst := h.first
  rw [← hdropped] at hsingle hfirst
  refine ⟨⟨fun t ht => h.space t (hmem ht), hsingle.left_of_append, ?_⟩, ?_, fun t ht =>
    h.literal t (hmem ht)⟩
  · intro t ht
    obtain ⟨hne, hlast⟩ := List.mem_getLast?_eq_getLast ht
    have hend := List.rdropWhile_last_not isEnding ts hne
    cases hgap : t.isGap with
    | false => rfl
    | true =>
        -- a space would have been dropped
        obtain rfl := h.space t (hmem (List.mem_of_getLast? ht)) hgap
        exact absurd (congrArg isEnding hlast).symm hend
  · intro t ht
    apply hfirst t
    change t ∈ (trimmed ts ++ dropped).head?
    simp [Option.mem_def.mp ht]

/-- The shape of a text with tokens. -/
theorem shapeOfChars_of_tokenize {s : List Char} {ts : List Token} (h : tokenize s = some ts) :
    shapeOfChars s = dropTrailing (Token.text (shapeTokens ts)) := by
  simp only [shapeOfChars, h]

/-! ## Reading back -/

/-- What spacing leaves of a legible statement is shown token by token. -/
theorem shown_of_legible {s : List Char} {ts : List Token} (h : tokenize s = some ts)
    (hlegible : Legible ts) :
    ∀ t ∈ spaced false (ts.dropWhile Token.isGap), Shown t := by
  intro t ht
  rcases mem_spaced ht with rfl | ⟨hmem, hgap⟩
  · exact .inl rfl
  · have hmem := (List.dropWhile_suffix Token.isGap).subset hmem
    have hread := (tokenize_adjacent h).2 t hmem
    cases hliteral : t.isLiteral with
    | true => exact .inr (.inl hliteral)
    | false =>
        have hfaithful := hlegible.faithful t hmem hliteral hgap
        exact .inr (.inr ⟨hread, hliteral, hgap, hfaithful⟩)

/-- The tokens of a legible statement keep apart. -/
theorem across_of_legible {s : List Char} {ts : List Token} (h : tokenize s = some ts)
    (hlegible : Legible ts) :
    (spaced false (ts.dropWhile Token.isGap)).IsChain (Across Near) := by
  have hadjacent := List.isChain_iff_forall_rel_of_append_cons_cons.mp (tokenize_adjacent h).1
  have hapart := List.isChain_iff_forall_rel_of_append_cons_cons.mp hlegible.apart
  have hnear : ts.IsChain Near := by
    apply List.isChain_iff_forall_rel_of_append_cons_cons.mpr
    intro t u before after hts
    exact ⟨hadjacent hts, hapart hts⟩
  exact spaced_across false (hnear.suffix (List.dropWhile_suffix _))

/-- A token of the shape of a legible statement is a space, the mark, or a solid token of
the statement. -/
theorem mem_shapeTokens_of_legible {s : List Char} {ts : List Token}
    (h : tokenize s = some ts) (hlegible : Legible ts) {t : Token}
    (ht : t ∈ shapeTokens ts) : t = .space ∨ t = mark ∨ (t ∈ ts ∧ Solid t) := by
  have hliteral := (shapeTokens_plain ts).literal t ht
  rcases mem_masked ht with rfl | hmem
  · exact .inr (.inl rfl)
  rcases shown_of_legible h hlegible t hmem with hspace | hl | hsolid
  · exact .inl hspace
  · rw [hl] at hliteral
    cases hliteral
  · rcases mem_spaced hmem with rfl | ⟨hts, _⟩
    · exact .inl rfl
    · exact .inr (.inr ⟨(List.dropWhile_suffix Token.isGap).subset hts, hsolid⟩)

/-- The shape of a legible statement is the text of its tokens, less those that vanish. -/
theorem shapeOfChars_of_legible {s : List Char} {ts : List Token} (h : tokenize s = some ts)
    (hlegible : Legible ts) : shapeOfChars s = Token.text (trimmed (shapeTokens ts)) := by
  have hends : ∀ t ∈ shapeTokens ts, isEnding t = false →
      ∃ a c, t.written = a ++ [c] ∧ isTrailing c = false := by
    intro t ht hend
    rcases mem_shapeTokens_of_legible h hlegible ht with rfl | rfl | ⟨hts, hsolid⟩
    · cases hend
    · exact ⟨[], '?', rfl, rfl⟩
    · have hlast := hlegible.ending t hts hsolid.literal hsolid.gap hend
      obtain ⟨c, s, r, hread⟩ := hsolid.read
      obtain ⟨d, b, hwritten, _⟩ := scan_starts hread hsolid.literal hsolid.gap
      rcases List.eq_nil_or_concat t.written with hnil | ⟨a, x, hx⟩
      · rw [hnil] at hwritten
        cases hwritten
      · rw [List.concat_eq_append] at hx
        rw [hx, List.getLast?_concat] at hlast
        exact ⟨a, x, hx, hlast⟩
  rw [shapeOfChars_of_tokenize h, dropTrailing_text hends]

/-- **The shape of a legible statement is read as the tokens of the shape.** -/
theorem tokenize_shapeOfChars {s : List Char} {ts : List Token} (h : tokenize s = some ts)
    (hlegible : Legible ts) : tokenize (shapeOfChars s) = some (trimmed (shapeTokens ts)) := by
  obtain ⟨dropped, hdropped⟩ := List.rdropWhile_prefix isEnding (shapeTokens ts)
  have hmem {t : Token} (ht : t ∈ trimmed (shapeTokens ts)) :
      t = .space ∨ t = mark ∨ Solid t := by
    have ht : t ∈ shapeTokens ts := by
      rw [← hdropped]
      exact List.mem_append_left dropped ht
    exact (mem_shapeTokens_of_legible h hlegible ht).imp_right (.imp_right And.right)
  have hjoins := masked_joins false (shown_of_legible h hlegible) (across_of_legible h hlegible)
  change (shapeTokens ts).IsChain Joins at hjoins
  rw [← hdropped] at hjoins
  rw [shapeOfChars_of_legible h hlegible]
  refine tokenize_text ?_ ?_ hjoins.left_of_append
  · intro t ht
    rcases hmem ht with rfl | rfl | hsolid
    · decide
    · decide
    · exact hsolid.head?_ne_quote
  · intro t ht
    rcases hmem ht with rfl | rfl | hsolid
    · exact readsBefore_space []
    · exact readsBefore_question (stopsAt_nil _)
    · exact hsolid.readsBefore_nil

/-- **Shaping a legible statement twice is shaping it once.** -/
theorem shapeOfChars_shapeOfChars_of_legible {s : List Char} {ts : List Token}
    (h : tokenize s = some ts) (hlegible : Legible ts) :
    shapeOfChars (shapeOfChars s) = shapeOfChars s := by
  have hread := tokenize_shapeOfChars h hlegible
  have hplain := trimmed_plain (shapeTokens_plain ts)
  rw [shapeOfChars_of_tokenize hread, shapeTokens_eq_self_iff.mpr hplain,
    ← shapeOfChars_of_legible h hlegible, shapeOfChars_of_tokenize h]
  exact List.rdropWhile_idempotent isTrailing _

end QueryAudit.Statement
