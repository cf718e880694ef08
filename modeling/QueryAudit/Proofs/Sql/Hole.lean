import Mathlib.Data.List.Basic
import QueryAudit.Proofs.Sql.Spelling

/-!
# Reading a literal in its place

A text is read up to a place where a literal may stand, then the literal, then what
follows it.  `tokenize_append` says that what stands before the place is read the same
whatever stands behind it; `tokenize_decimal`, `tokenize_quoted` and `tokenize_negative`
say that the literal is read for itself.
-/

namespace QueryAudit.Sql

open Text

/-! ## The end of a text -/

/-- A character that ends every number, exponents included, and is no part of the
opening of a Unicode string. -/
def Firm (c : Char) : Prop := c.isDigit = false ∧ c ∉ ['e', 'E', '+', '-', '&']

/-- A sign is read the same with more text behind. -/
theorem sign_append_right {s : List Char} (hs : s ≠ []) (w : List Char) :
    sign (s ++ w) = ((sign s).1, (sign s).2 ++ w) := by
  obtain ⟨c, t, rfl⟩ := List.exists_cons_of_ne_nil hs
  rw [List.cons_append]
  by_cases hplus : c = '+'
  · subst hplus
    rfl
  · by_cases hminus : c = '-'
    · subst hminus
      rfl
    · simp [sign, hplus, hminus]

/-- An exponent is missing if no digit follows its letter and sign. -/
theorem exponent_fst_eq_nil_iff {c : Char} (hc : c = 'e' ∨ c = 'E') (s : List Char) :
    (exponent (c :: s)).1 = [] ↔ StopsAt Char.isDigit (sign s).2 := by
  rw [← takeWhile_eq_nil_iff_stopsAt]
  by_cases hdigits : (sign s).2.takeWhile Char.isDigit = []
  · simp [exponent, hdigits]
  · simp [exponent, hc, hdigits]

/-- A text that ends firmly gets no exponent from what is put behind it. -/
theorem exponent_append_eq_nil {q w : List Char} {f : Char} (hf : Firm f)
    (h : (exponent (q ++ [f])).1 = []) : (exponent (q ++ [f] ++ w)).1 = [] := by
  obtain ⟨hdigit, hletter⟩ := hf
  simp only [List.mem_cons, List.not_mem_nil, or_false, not_or] at hletter
  obtain ⟨he, hE, hplus, hminus, _⟩ := hletter
  cases q with
  | nil => rw [exponent_of_head?_ne (by simpa using he) (by simpa using hE)]
  | cons c t =>
      by_cases hc : c = 'e' ∨ c = 'E'
      · rw [List.cons_append, exponent_fst_eq_nil_iff hc] at h
        rw [List.cons_append, List.cons_append, exponent_fst_eq_nil_iff hc,
          sign_append_right (by simp)]
        have hrest : (sign (t ++ [f])).2 ≠ [] := by
          intro hnil
          have happ := sign_append (t ++ [f])
          rw [hnil, List.append_nil] at happ
          have hlast : (sign (t ++ [f])).1.getLast? = some f := by rw [happ]; simp
          have hsign := sign_fst_mem (t ++ [f])
          simp only [List.mem_cons, List.not_mem_nil, or_false] at hsign
          rcases hsign with hs | hs | hs <;> rw [hs] at hlast
          · cases hlast
          · exact hplus (Option.some.inj hlast).symm
          · exact hminus (Option.some.inj hlast).symm
        intro d hd
        rw [List.head?_append_of_ne_nil _ hrest] at hd
        exact h d hd
      · rw [exponent_of_head?_ne]
        · simpa using fun h => hc (.inl h)
        · simpa using fun h => hc (.inr h)

/-- **A text that ends firmly is read the same up to its end.** -/
theorem alike_append {token : Token} {q : List Char} {f : Char} (hf : Firm f)
    (w : List Char) : Alike token (q ++ [f]) (q ++ [f] ++ w) := by
  refine alike_of_head? (by simp) (List.head?_append_of_ne_nil _ (by simp)) ?_ ?_
  · intro h
    obtain ⟨u, hu⟩ := h
    rcases q with _ | ⟨c, _ | ⟨d, q⟩⟩
    · obtain ⟨rfl, _⟩ := List.cons.inj hu
      exact absurd hf.2 (by decide)
    · obtain ⟨rfl, htail⟩ := List.cons.inj hu
      obtain ⟨rfl, _⟩ := List.cons.inj htail
      exact ⟨[], rfl⟩
    · obtain ⟨rfl, htail⟩ := List.cons.inj hu
      obtain ⟨rfl, _⟩ := List.cons.inj htail
      exact ⟨q ++ [f], rfl⟩
  · intro _ h
    exact exponent_append_eq_nil hf h

/-! ## Before the place -/

/-- The tokens behind which a literal may stand directly. -/
def opensValue : List Token := [.space, .openParen, .symbol [','], .symbol ['=']]

/-- What may stand there: a text that goes on neither a line break nor an operator. -/
def Enters (w : List Char) : Prop := ∀ c ∈ w.head?, c ∉ ['\n', '=', '>']

/-- A blank is different from what is none. -/
theorem ne_of_isBlank {c d : Char} (hc : isBlank c = true) (hd : isBlank d = false) :
    c ≠ d := by
  intro heq
  subst heq
  rw [hc] at hd
  cases hd

/-- A blank is no digit. -/
theorem isDigit_of_isBlank {c : Char} (h : isBlank c = true) : c.isDigit = false := by
  obtain ⟨range, hrange, hlo, hhi⟩ := CharSet.has_iff.mp h
  have hnone : ∀ range ∈ blanks, range.2 < 48 ∨ 57 < range.1 := by decide
  by_contra hdigit
  rw [Bool.not_eq_false, Char.isDigit, Bool.and_eq_true, decide_eq_true_eq,
    decide_eq_true_eq] at hdigit
  have h0 : 48 ≤ c.toNat := hdigit.1
  have h9 : c.toNat ≤ 57 := hdigit.2
  have hout := hnone range hrange
  omega

/-- A blank is no part of a word. -/
theorem isWordPart_of_isBlank {c : Char} (h : isBlank c = true) : isWordPart c = false := by
  have hall : ∀ range ∈ blanks, ∀ k < range.2 + 1 - range.1,
      isWordPart (Char.ofNat (range.1 + k)) = false := by decide +kernel
  obtain ⟨range, hrange, hlow, hhigh⟩ := CharSet.has_iff.mp h
  have hblank := hall range hrange (c.toNat - range.1) (by omega)
  rwa [Nat.add_sub_cancel' hlow, Char.ofNat_toNat] at hblank

/-- A blank ends a text firmly. -/
theorem firm_of_isBlank {c : Char} (h : isBlank c = true) : Firm c := by
  refine ⟨isDigit_of_isBlank h, ?_⟩
  simp only [List.mem_cons, List.not_mem_nil, or_false, not_or]
  exact ⟨ne_of_isBlank h (by decide), ne_of_isBlank h (by decide), ne_of_isBlank h (by decide),
    ne_of_isBlank h (by decide), ne_of_isBlank h (by decide)⟩

/-- A blank is read alone, unless a line feed completes it. -/
theorem scan_blank {c : Char} (h : isBlank c = true) {w : List Char}
    (hw : w.head? ≠ some '\n') : scan c w = some (.space, w) := by
  rw [scan, if_pos h, afterBlank_of_head?_ne hw]

/-- An equals sign is read alone, unless another sign completes it. -/
theorem scan_equals {w : List Char} (hw : Enters w) :
    scan '=' w = some (.symbol ['='], w) := by
  cases w with
  | nil => rfl
  | cons c w =>
      have hc := hw c rfl
      simp only [List.mem_cons, List.not_mem_nil, or_false, not_or] at hc
      obtain ⟨_, heq, harrow⟩ := hc
      change some (operator '=' (c :: w)) = _
      simp [operator, operators, Ne.symm heq, Ne.symm harrow]

/-- The last token before the place ends the text firmly, and is read the same in front
of what may stand there. -/
theorem scan_opensValue {c : Char} {s : List Char} {t : Token} (h : scan c s = some (t, []))
    (ht : t ∈ opensValue) :
    (∃ q f, c :: s = q ++ [f] ∧ Firm f) ∧ ∀ w, Enters w → scan c (s ++ w) = some (t, w) := by
  have hfeed {w : List Char} (hw : Enters w) : w.head? ≠ some '\n' :=
    fun hhead => hw _ hhead (by simp)
  have hsymbol {d : Char} (hspelled : c :: s = [d]) : c = d ∧ s = [] := by
    obtain ⟨rfl, rfl⟩ := List.cons.inj hspelled
    exact ⟨rfl, rfl⟩
  have hliteral : t.isLiteral = false := by
    simp only [opensValue, List.mem_cons, List.not_mem_nil, or_false] at ht
    rcases ht with rfl | rfl | rfl | rfl <;> rfl
  obtain ⟨a, hspelled, hs⟩ := scan_spelled h hliteral
  rw [List.append_nil] at hs
  simp only [opensValue, List.mem_cons, List.not_mem_nil, or_false] at ht
  rcases ht with rfl | rfl | rfl | rfl
  · cases hspelled with
    | written =>
        obtain ⟨rfl, rfl⟩ := hsymbol hs
        exact ⟨⟨[], ' ', rfl, by unfold Firm; decide⟩,
          fun w hw => scan_blank (by decide) (hfeed hw)⟩
    | blank d hd =>
        obtain ⟨rfl, rfl⟩ := hsymbol hs
        exact ⟨⟨[], c, rfl, firm_of_isBlank hd⟩, fun w hw => scan_blank hd (hfeed hw)⟩
    | lineBreak =>
        obtain ⟨rfl, rfl⟩ := List.cons.inj hs
        exact ⟨⟨['\r'], '\n', rfl, by unfold Firm; decide⟩, fun w _ => rfl⟩
  · cases hspelled with
    | written =>
        obtain ⟨rfl, rfl⟩ := hsymbol hs
        exact ⟨⟨[], '(', rfl, by unfold Firm; decide⟩, fun w _ => rfl⟩
  · cases hspelled with
    | written =>
        obtain ⟨rfl, rfl⟩ := hsymbol hs
        exact ⟨⟨[], ',', rfl, by unfold Firm; decide⟩, fun w _ => rfl⟩
  · cases hspelled with
    | written =>
        obtain ⟨rfl, rfl⟩ := hsymbol hs
        exact ⟨⟨[], '=', rfl, by unfold Firm; decide⟩, fun w hw => scan_equals hw⟩

/-- Only the empty text has no tokens. -/
theorem eq_nil_of_tokenize {s : List Char} (h : tokenize s = some []) : s = [] := by
  cases s with
  | nil => rfl
  | cons c s =>
      cases hscan : scan c s with
      | none =>
          rw [tokenize_cons_none hscan] at h
          cases h
      | some q =>
          rw [tokenize_cons_some hscan] at h
          obtain ⟨us, _, hus⟩ := Option.map_eq_some_iff.mp h
          cases hus

/-- What stands before the place ends firmly, and is read the same whatever stands
behind it. -/
theorem firm_and_tokenize_append {p w : List Char} {ts : List Token}
    (hp : tokenize p = some ts) (hlast : ∀ t ∈ ts.getLast?, t ∈ opensValue) (hw : Enters w) :
    (p ≠ [] → ∃ q f, p = q ++ [f] ∧ Firm f) ∧
      tokenize (p ++ w) = (tokenize w).map (ts ++ ·) := by
  fun_induction tokenize p generalizing ts with
  | case1 =>
      cases hp
      exact ⟨fun h => absurd rfl h, by simp⟩
  | case2 => cases hp
  | case3 c s t r hscan _ ih =>
      obtain ⟨us, hus, rfl⟩ := Option.map_eq_some_iff.mp hp
      by_cases hr : r = []
      · subst hr
        rw [tokenize_nil] at hus
        obtain rfl : [] = us := Option.some.inj hus
        obtain ⟨hfirm, hread⟩ := scan_opensValue hscan (hlast t rfl)
        exact ⟨fun _ => hfirm, by rw [List.cons_append, tokenize_cons_some (hread w hw)]; rfl⟩
      · have hne : us ≠ [] := by
          intro heq
          subst heq
          exact hr (eq_nil_of_tokenize hus)
        obtain ⟨u, us, rfl⟩ := List.exists_cons_of_ne_nil hne
        obtain ⟨hfirm, happend⟩ := ih hus fun v hv => hlast v (by simpa using hv)
        obtain ⟨q, f, rfl, hf⟩ := hfirm hr
        obtain ⟨a, rfl, hread⟩ := scan_steady hscan
        refine ⟨fun _ => ⟨c :: a ++ q, f, by simp, hf⟩, ?_⟩
        have hstep := hread _ (alike_append hf w)
        rw [List.cons_append, List.append_assoc, tokenize_cons_some hstep, happend,
          Option.map_map]
        rfl

/-- **What stands before the place is read the same.**  The tokens of a text that ends
where a literal may stand do not depend on what stands there. -/
theorem tokenize_append {p w : List Char} {ts : List Token} (hp : tokenize p = some ts)
    (hlast : ∀ t ∈ ts.getLast?, t ∈ opensValue) (hw : Enters w) :
    tokenize (p ++ w) = (tokenize w).map (ts ++ ·) :=
  (firm_and_tokenize_append hp hlast hw).2

/-! ## Numbers and strings -/

/-- What may stand behind a literal: nothing, a blank, or a mark that ends values. -/
def EndsValue (s : List Char) : Prop :=
  ∀ c ∈ s.head?, isBlank c = true ∨ c ∈ [')', ',', ';']

/-- A point and digits, or nothing. -/
def IsFraction (f : List Char) : Prop :=
  f = [] ∨ ∃ digits, f = '.' :: digits ∧ ∀ c ∈ digits, c.isDigit = true

/-- An exponent with its sign, or nothing. -/
def IsExponent (e : List Char) : Prop :=
  e = [] ∨ ∃ letter sign digits, e = letter :: (sign ++ digits) ∧ letter ∈ ['e', 'E'] ∧
    sign ∈ [[], ['+'], ['-']] ∧ digits ≠ [] ∧ ∀ c ∈ digits, c.isDigit = true

/-- An unsigned decimal number: digits, and perhaps a fraction and an exponent. -/
inductive Decimal : List Char → Prop
  | mk (digits fraction exponent : List Char) (hne : digits ≠ [])
      (hdigits : ∀ c ∈ digits, c.isDigit = true) (hfraction : IsFraction fraction)
      (hexponent : IsExponent exponent) : Decimal (digits ++ fraction ++ exponent)

/-- What stands behind a literal starts with no other character. -/
theorem EndsValue.head?_ne {s : List Char} {x : Char} (h : EndsValue s)
    (hblank : isBlank x = false) (hx : x ∉ [')', ',', ';']) : s.head? ≠ some x := by
  intro hhead
  rcases h x hhead with hx' | hx'
  · rw [hx'] at hblank
    cases hblank
  · exact hx hx'

/-- What stands behind a literal adds no digits to it. -/
theorem EndsValue.stopsAt_isDigit {s : List Char} (h : EndsValue s) :
    StopsAt Char.isDigit s := by
  intro c hc
  rcases h c hc with hblank | hmark
  · exact isDigit_of_isBlank hblank
  · simp only [List.mem_cons, List.not_mem_nil, or_false] at hmark
    rcases hmark with rfl | rfl | rfl <;> decide

/-- An exponent is read up to what stands behind the number. -/
theorem exponent_append_of_endsValue {e s : List Char} (he : IsExponent e)
    (hs : EndsValue s) : exponent (e ++ s) = (e, s) := by
  rcases he with rfl | ⟨letter, sg, digits, rfl, hletter, hsign, hne, hdigits⟩
  · exact exponent_of_head?_ne (hs.head?_ne (by decide) (by decide))
      (hs.head?_ne (by decide) (by decide))
  · have hread : sign (sg ++ (digits ++ s)) = (sg, digits ++ s) := by
      obtain ⟨d, ds, rfl⟩ := List.exists_cons_of_ne_nil hne
      exact sign_append_digit hsign (hdigits d List.mem_cons_self) (ds ++ s)
    have hstop := hs.stopsAt_isDigit
    have hle : letter = 'e' ∨ letter = 'E' := by simpa using hletter
    rw [List.cons_append, List.append_assoc, exponent]
    simp only [hread, takeWhile_append_of_stopsAt hdigits hstop,
      dropWhile_append_of_stopsAt hdigits hstop]
    rw [if_pos ⟨hle, hne⟩]
    rfl

/-- A fraction is read up to the exponent. -/
theorem fraction_append_of_endsValue {f e s : List Char} (hf : IsFraction f)
    (he : IsExponent e) (hs : EndsValue s) : fraction (f ++ (e ++ s)) = (f, e ++ s) := by
  have hstop : StopsAt Char.isDigit (e ++ s) := by
    rcases he with rfl | ⟨letter, sg, digits, rfl, hletter, _⟩
    · exact hs.stopsAt_isDigit
    · apply stopsAt_cons.mpr
      simp only [List.mem_cons, List.not_mem_nil, or_false] at hletter
      rcases hletter with rfl | rfl <;> decide
  rcases hf with rfl | ⟨digits, rfl, hdigits⟩
  · refine fraction_of_head?_ne ?_
    rcases he with rfl | ⟨letter, sg, digits, rfl, hletter, _⟩
    · exact hs.head?_ne (by decide) (by decide)
    · simp only [List.mem_cons, List.not_mem_nil, or_false] at hletter
      rcases hletter with rfl | rfl <;> simp
  · simp [fraction, takeWhile_append_of_stopsAt hdigits hstop,
      dropWhile_append_of_stopsAt hdigits hstop]

/-- The digits, one by one. -/
theorem mem_of_isDigit {c : Char} (h : c.isDigit = true) :
    c ∈ ['0', '1', '2', '3', '4', '5', '6', '7', '8', '9'] := by
  rw [Char.isDigit, Bool.and_eq_true, decide_eq_true_eq, decide_eq_true_eq] at h
  have h0 : 48 ≤ c.toNat := h.1
  have h9 : c.toNat ≤ 57 := h.2
  have hall : ∀ n < 58, 48 ≤ n →
      Char.ofNat n ∈ ['0', '1', '2', '3', '4', '5', '6', '7', '8', '9'] := by decide
  have hmem := hall c.toNat (by omega) h0
  rwa [Char.ofNat_toNat] at hmem

/-- A digit starts a number. -/
theorem scan_digit {c : Char} (h : c.isDigit = true) (s : List Char) :
    scan c s = some (numeral c s) := by
  have hmem := mem_of_isDigit h
  simp only [List.mem_cons, List.not_mem_nil, or_false] at hmem
  rcases hmem with rfl | rfl | rfl | rfl | rfl | rfl | rfl | rfl | rfl | rfl <;> rfl

/-- **A decimal number is one token.** -/
theorem tokenize_decimal {l s : List Char} (hl : Decimal l) (hs : EndsValue s) :
    tokenize (l ++ s) = (tokenize s).map (.number l :: ·) := by
  obtain ⟨digits, f, e, hne, hdigits, hf, he⟩ := hl
  obtain ⟨c, ds, rfl⟩ := List.exists_cons_of_ne_nil hne
  have hc := hdigits c List.mem_cons_self
  have hds : ∀ d ∈ ds, d.isDigit = true := fun d hd => hdigits d (List.mem_cons_of_mem c hd)
  have hfraction := fraction_append_of_endsValue hf he hs
  have hexponent := exponent_append_of_endsValue he hs
  -- what stands behind the digits is a fraction, an exponent or the end of the number
  have hstart : ∀ d ∈ (f ++ (e ++ s)).head?, d.isDigit = false ∧ d ≠ 'x' := by
    intro d hd
    rcases hf with rfl | ⟨_, rfl, _⟩
    · rcases he with rfl | ⟨letter, _, _, rfl, hletter, _⟩
      · refine ⟨hs.stopsAt_isDigit d hd, ?_⟩
        intro heq
        subst heq
        exact hs.head?_ne (by decide) (by decide) hd
      · obtain rfl : letter = d := Option.some.inj hd
        simp only [List.mem_cons, List.not_mem_nil, or_false] at hletter
        rcases hletter with rfl | rfl <;> decide
    · obtain rfl : '.' = d := Option.some.inj hd
      decide
  have hstop : StopsAt Char.isDigit (f ++ (e ++ s)) := fun d hd => (hstart d hd).1
  have hpoint : c ≠ '.' := by
    intro heq
    subst heq
    cases hc
  have hhex : ¬ (c = '0' ∧ (ds ++ (f ++ (e ++ s))).head? = some 'x') := by
    intro h
    obtain ⟨_, hx⟩ := h
    cases ds with
    | nil => exact (hstart 'x' hx).2 rfl
    | cons d ds =>
        obtain rfl : d = 'x' := Option.some.inj hx
        have hdigit := hds 'x' List.mem_cons_self
        cases hdigit
  have hlong := longMark_of_head?_ne (hs.head?_ne (x := 'L') (by decide) (by decide))
  have hread : scan c (ds ++ (f ++ (e ++ s))) = some (.number (c :: ds ++ f ++ e), s) := by
    rw [scan_digit hc, numeral_of_digit hpoint hhex, takeWhile_append_of_stopsAt hds hstop,
      dropWhile_append_of_stopsAt hds hstop, hfraction]
    simp only [finishNumber, hexponent, hlong, List.append_nil]
  have hsplit : c :: ds ++ f ++ e ++ s = c :: (ds ++ (f ++ (e ++ s))) := by simp
  rw [hsplit, tokenize_cons_some hread]

/-- **A string in plain quotes is one token**, whatever it holds. -/
theorem tokenize_quoted (content : List Char) {s : List Char} (hs : EndsValue s) :
    tokenize ('\'' :: (doubled '\'' content ++ ['\'']) ++ s) =
      (tokenize s).map (.literal .plain content :: ·) := by
  have hquoted : quotedBy '\'' (doubled '\'' content ++ '\'' :: s) = some (content, s) :=
    quotedBy_eq_some_iff.mpr ⟨rfl, hs.head?_ne (by decide) (by decide)⟩
  have hread : scan '\'' (doubled '\'' content ++ '\'' :: s) =
      some (.literal .plain content, s) :=
    congrArg (withContent (.literal .plain)) hquoted
  have hsplit : '\'' :: (doubled '\'' content ++ ['\'']) ++ s =
      '\'' :: (doubled '\'' content ++ '\'' :: s) := by simp
  rw [hsplit, tokenize_cons_some hread]

/-- **A minus sign in front of a decimal number is a token of its own.** -/
theorem tokenize_negative {l s : List Char} (hl : Decimal l) (hs : EndsValue s) :
    tokenize ('-' :: l ++ s) = (tokenize s).map ([.minus, .number l] ++ ·) := by
  have hnumber := tokenize_decimal hl hs
  obtain ⟨digits, f, e, hne, hdigits, hf, he⟩ := hl
  obtain ⟨c, ds, rfl⟩ := List.exists_cons_of_ne_nil hne
  have hc := hdigits c List.mem_cons_self
  have hread : scan '-' (c :: ds ++ f ++ e ++ s) = some (.minus, c :: ds ++ f ++ e ++ s) := by
    have hmem := mem_of_isDigit hc
    simp only [List.mem_cons, List.not_mem_nil, or_false] at hmem
    rcases hmem with rfl | rfl | rfl | rfl | rfl | rfl | rfl | rfl | rfl | rfl <;> rfl
  rw [List.cons_append, tokenize_cons_some hread, hnumber, Option.map_map]
  rfl

end QueryAudit.Sql
