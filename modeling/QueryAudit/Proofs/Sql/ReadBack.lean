import Mathlib.Data.List.Chain
import QueryAudit.Proofs.Sql.Spelling

/-!
# Reading written tokens

Tokens that are written one behind another can be read for something else: a mark in
quotes is no longer doubled, and a token may join with the next.  A token is `Faithful`
if its written form alone gives it back, and it `Joins` the next if it is not touched by
it.  A list of faithful tokens that join is what its text is read as (`tokenize_text`).
-/

namespace QueryAudit.Sql

open Text

/-- The written token is read for itself in front of the text. -/
def ReadsBefore (t : Token) (v : List Char) : Prop :=
  ∃ c a, t.written = c :: a ∧ scan c (a ++ v) = some (t, v)

/-- The first token is read for itself in front of the second, whatever follows but a
quote. -/
def Joins (t u : Token) : Prop :=
  ∀ w, w.head? ≠ some '\'' → ReadsBefore t (u.written ++ w)

/-- **Tokens that join are read back.** -/
theorem tokenize_text {ts : List Token} (hquote : ∀ t ∈ ts, t.written.head? ≠ some '\'')
    (hend : ∀ t ∈ ts, ReadsBefore t []) (hjoins : ts.IsChain Joins) :
    tokenize (Token.text ts) = some ts := by
  induction ts with
  | nil => exact tokenize_nil
  | cons t ts ih =>
      have hrest := ih (fun u hu => hquote u (List.mem_cons_of_mem t hu))
        (fun u hu => hend u (List.mem_cons_of_mem t hu)) hjoins.tail
      have hreads : ReadsBefore t (Token.text ts) := by
        cases ts with
        | nil => exact hend t List.mem_cons_self
        | cons u us =>
            apply (List.isChain_cons_cons.mp hjoins).1 (Token.text us)
            cases us with
            | nil => simp [Token.text]
            | cons x xs =>
                obtain ⟨c, a, hwritten, _⟩ := hend x (by simp)
                have hx := hquote x (by simp)
                rw [hwritten] at hx
                change (x.written ++ Token.text xs).head? ≠ _
                rw [hwritten]
                exact hx
      obtain ⟨c, a, hwritten, hscan⟩ := hreads
      change tokenize (t.written ++ Token.text ts) = _
      rw [hwritten, List.cons_append, tokenize_cons_some hscan, hrest]
      rfl

/-! ## Faithful tokens -/

/-- The token holds no mark that reading would take for the end of it, nor an escape. -/
def Faithful : Token → Prop
  | .quotedWord mark name => mark = '"' ∨ mark ∉ name
  | .bytes mark content => mark ∉ content
  | .raw [mark] content => mark ∉ content
  | .unicode content => '\'' ∉ content ∧ '\\' ∉ content
  | _ => True

instance : DecidablePred Faithful
  | .quotedWord mark name => inferInstanceAs (Decidable (mark = '"' ∨ mark ∉ name))
  | .bytes mark content => inferInstanceAs (Decidable (mark ∉ content))
  | .raw [mark] content => inferInstanceAs (Decidable (mark ∉ content))
  | .unicode content => inferInstanceAs (Decidable ('\'' ∉ content ∧ '\\' ∉ content))
  | .raw [] _ | .raw (_ :: _ :: _) _ | .space | .lineComment _ | .blockComment _ | .word _
  | .number _ | .literal .. | .dollar .. | .placeholder _ | .symbol _ => isTrue trivial

/-- The characters that a written token starts with, for the one that it was read from.
They are the same, but for one spelling of "not equal" and the case of a prefix. -/
inductive Starts (t : Token) : Char → Char → Prop
  | same (c : Char) : Starts t c c
  | notEqual (h : t = .symbol ['<', '>']) : Starts t '!' '<'
  | bytes : Starts t 'b' 'B'
  | raw : Starts t 'r' 'R'
  | unicode : Starts t 'u' 'U'

/-- A prefix letter is written as a capital. -/
theorem starts_of_toUpper_eq (t : Token) {c d : Char} (hc : c.toUpper = d)
    (hd : d ∈ ['B', 'R', 'U']) : Starts t c d := by
  rcases toUpper_cases c with h | ⟨_, h⟩
  · obtain rfl : c = d := h.symm.trans hc
    exact .same c
  · have hsmall : c = Char.ofNat (d.toNat + 32) := by rw [← hc, ← h, Char.ofNat_toNat]
    simp only [List.mem_cons, List.not_mem_nil, or_false] at hd
    rcases hd with rfl | rfl | rfl
    · rw [hsmall]
      exact .bytes
    · rw [hsmall]
      exact .raw
    · rw [hsmall]
      exact .unicode

/-- A prefix letter opens the same in either case. -/
theorem scan_letter {c d : Char} (hc : c.toUpper = d) (hd : d ∈ ['B', 'R', 'U'])
    {s : List Char} (ho : (opening? d s).isSome) : scan c s = scan d s := by
  have hparts : d.toUpper = d ∧ isBlank d = false ∧ isBlank c = false := by
    have hstarts := starts_of_toUpper_eq .space hc hd
    simp only [List.mem_cons, List.not_mem_nil, or_false] at hd
    rcases hd with rfl | rfl | rfl <;> cases hstarts <;> decide
  obtain ⟨hup, hblankd, hblankc⟩ := hparts
  have hsame : opening? c s = opening? d s := by
    unfold opening?
    rw [hc, hup]
  obtain ⟨o, ho⟩ := Option.isSome_iff_exists.mp ho
  rw [scan, scan, hsame, ho, hblankc, hblankd]
  rfl

/-- Behind the end of a Unicode string stands no quote. -/
theorem unicodeString_rest {s content rest : List Char}
    (h : unicodeString s = some (content, rest)) : rest.head? ≠ some '\'' := by
  fun_induction unicodeString s generalizing content with
  | case1 => simp at h
  | case2 s ih =>
      obtain ⟨c, hc, rfl⟩ := Delimited.prepend_eq_some_iff.mp h
      exact ih hc
  | case3 s hs =>
      simp only [Option.some.injEq, Prod.mk.injEq] at h
      obtain ⟨rfl, rfl⟩ := h
      intro hhead
      obtain ⟨t, rfl⟩ := List.head?_eq_some_iff.mp hhead
      exact hs t rfl
  | case4 => simp at h
  | case5 s d t hread _ ih =>
      obtain ⟨e, he, rfl⟩ := Delimited.prepend_eq_some_iff.mp h
      exact ih he
  | case6 c s _ _ _ ih =>
      obtain ⟨d, hd, rfl⟩ := Delimited.prepend_eq_some_iff.mp h
      exact ih hd

/-- A content without quotes and escapes is read as it stands. -/
theorem unicodeString_plain {content v : List Char} (hquote : '\'' ∉ content)
    (hslash : '\\' ∉ content) (hv : v.head? ≠ some '\'') :
    unicodeString (content ++ '\'' :: v) = some (content, v) := by
  induction content with
  | nil => exact unicodeString_close hv
  | cons c content ih =>
      simp only [List.mem_cons, not_or] at hquote hslash
      rw [List.cons_append, unicodeString_other (Ne.symm hquote.1) (Ne.symm hslash.1),
        ih hquote.2 hslash.2]
      rfl

/-- A token behind a prefix letter is read back with the capital. -/
theorem readsBefore_of_letter {c d : Char} {b v : List Char} {t : Token}
    (hscan : scan c (b ++ v) = some (t, v)) (hc : c.toUpper = d) (hd : d ∈ ['B', 'R', 'U'])
    (ho : (opening? d (b ++ v)).isSome) (hwritten : t.written = d :: b) :
    ReadsBefore t v := by
  refine ⟨d, b, hwritten, ?_⟩
  rw [← scan_letter hc hd ho]
  exact hscan

/-- **A faithful token is read back** in front of every text that is alike to the one
behind it. -/
theorem scan_readsBefore {c : Char} {s r v : List Char} {t : Token}
    (h : scan c s = some (t, r)) (hliteral : t.isLiteral = false) (hf : Faithful t)
    (hv : Alike t r v) : ReadsBefore t v := by
  obtain ⟨a, hspelled, hs⟩ := scan_spelled h hliteral
  obtain ⟨b, rfl, hread⟩ := scan_steady h
  have ha : c :: b = a := List.append_cancel_right hs
  have hscan := hread v hv
  have hopens {d mark : Char} (hmark : mark ∈ ['\'', '"']) (hd : d ∈ ['B', 'R'])
      (s : List Char) : (opening? d (mark :: s)).isSome := by
    simp only [List.mem_cons, List.not_mem_nil, or_false] at hmark hd
    rcases hmark with rfl | rfl <;> rcases hd with rfl | rfl <;> rfl
  cases hspelled with
  | written => exact ⟨c, b, ha.symm, hscan⟩
  | blank | lineBreak => exact ⟨' ', [], rfl, rfl⟩
  | notEqual => exact ⟨'<', ['>'], rfl, rfl⟩
  | word name =>
      have hname : '\x60' ∉ name := hf.resolve_left (by decide)
      rw [doubled_eq_self hname] at ha
      exact ⟨c, b, ha.symm, hscan⟩
  | bytes letter mark content hletter hmark =>
      rw [doubled_eq_self hf] at ha
      obtain ⟨rfl, rfl⟩ := List.cons.inj ha
      exact readsBefore_of_letter hscan hletter (by decide) (hopens hmark (by decide) _) rfl
  | raw letter mark content hletter hmark =>
      rw [doubled_eq_self hf] at ha
      obtain ⟨rfl, rfl⟩ := List.cons.inj ha
      exact readsBefore_of_letter hscan hletter (by decide) (hopens hmark (by decide) _) rfl
  | rawTriple letter mark content hletter hmark =>
      obtain ⟨rfl, rfl⟩ := List.cons.inj ha
      exact readsBefore_of_letter hscan hletter (by decide) (hopens hmark (by decide) _) rfl
  | unicode letter content a hletter _ =>
      obtain ⟨rfl, rfl⟩ := List.cons.inj ha
      -- the content may have been escaped, but behind it there is no quote
      rw [scan_letter hletter (by decide) rfl] at hscan
      have hunicode : withContent .unicode (unicodeString (a ++ ['\''] ++ v)) =
          some (.unicode content, v) := hscan
      obtain ⟨content', hcontent, _⟩ := withContent_eq_some hunicode
      have hplain := unicodeString_plain hf.1 hf.2 (unicodeString_rest hcontent)
      refine ⟨'U', ['&', '\''] ++ (content ++ ['\'']), by simp [Token.written], ?_⟩
      have hsplit : ['&', '\''] ++ (content ++ ['\'']) ++ v =
          '&' :: '\'' :: (content ++ '\'' :: v) := by simp
      rw [hsplit]
      exact congrArg (withContent .unicode) hplain

/-! ## Heads -/

/-- A written token starts as it was spelled, up to the exceptions. -/
theorem Spelled.starts {t : Token} {c : Char} {b : List Char} (h : Spelled t (c :: b))
    (hgap : t.isGap = false) : ∃ d w, t.written = d :: w ∧ Starts t c d := by
  generalize ha : c :: b = a at h
  cases h with
  | written => exact ⟨c, b, ha.symm, .same c⟩
  | blank | lineBreak => cases hgap
  | notEqual =>
      obtain ⟨rfl, _⟩ := List.cons.inj ha
      exact ⟨'<', ['>'], rfl, .notEqual rfl⟩
  | word name =>
      obtain ⟨rfl, _⟩ := List.cons.inj ha
      exact ⟨'\x60', _, rfl, .same _⟩
  | bytes letter mark content hup =>
      obtain ⟨rfl, _⟩ := List.cons.inj ha
      exact ⟨'B', _, rfl, starts_of_toUpper_eq _ hup (by decide)⟩
  | raw letter mark content hup | rawTriple letter mark content hup =>
      obtain ⟨rfl, _⟩ := List.cons.inj ha
      exact ⟨'R', _, rfl, starts_of_toUpper_eq _ hup (by decide)⟩
  | unicode letter content a hup =>
      obtain ⟨rfl, _⟩ := List.cons.inj ha
      exact ⟨'U', _, rfl, starts_of_toUpper_eq _ hup (by decide)⟩

/-- **A written token starts as it was read**, up to the exceptions. -/
theorem scan_starts {c : Char} {s r : List Char} {t : Token}
    (h : scan c s = some (t, r)) (hliteral : t.isLiteral = false) (hgap : t.isGap = false) :
    ∃ d w, t.written = d :: w ∧ Starts t c d := by
  obtain ⟨a, hspelled, hs⟩ := scan_spelled h hliteral
  obtain ⟨b, rfl, _⟩ := scan_steady h
  obtain rfl : c :: b = a := List.append_cancel_right hs
  exact hspelled.starts hgap

/-- A written token starts with a character that stands for itself only if it was read
from it. -/
theorem eq_of_head?_written {c x : Char} {s r : List Char} {t : Token}
    (h : scan c s = some (t, r)) (hliteral : t.isLiteral = false) (hgap : t.isGap = false)
    (hx : x ∉ ['<', 'B', 'R', 'U']) (hhead : t.written.head? = some x) : c = x := by
  obtain ⟨d, w, hwritten, hstarts⟩ := scan_starts h hliteral hgap
  rw [hwritten] at hhead
  obtain rfl : d = x := Option.some.inj hhead
  cases hstarts with
  | same => rfl
  | notEqual | bytes | raw | unicode => exact absurd hx (by decide)

/-- **No written token starts with a quote**, apart from literals. -/
theorem head?_written_ne_quote {c : Char} {s r : List Char} {t : Token}
    (h : scan c s = some (t, r)) (hliteral : t.isLiteral = false) (hgap : t.isGap = false) :
    t.written.head? ≠ some '\'' := by
  intro hhead
  obtain rfl : c = '\'' := eq_of_head?_written h hliteral hgap (by decide) hhead
  have hread : withContent (.literal .plain) (quotedBy '\'' s) = some (t, r) := h
  obtain ⟨content, _, rfl⟩ := withContent_eq_some hread
  cases hliteral

/-- An ampersand is read as one sign or as two. -/
theorem written_of_ampersand {s r : List Char} {t : Token} (h : scan '&' s = some (t, r)) :
    t.written = ['&'] ∨ t.written = ['&', '&'] := by
  have hread : some (operator '&' s) = some (t, r) := h
  have hall : ∀ o ∈ operators, o.head? = some '&' → o = ['&', '&'] := by decide
  obtain ⟨rfl, _⟩ := parts_of_eq_some hread
  unfold operator
  split
  next o ho =>
    obtain ⟨hmem, ⟨u, hu⟩, _⟩ := find?_operators_eq_some_iff.mp ho
    have hlen := two_le_length_of_mem_operators hmem
    obtain ⟨d, o, rfl⟩ := List.exists_cons_of_ne_nil (l := o) (by
      intro hnil
      simp [hnil] at hlen)
    obtain ⟨rfl, _⟩ := List.cons.inj hu
    rw [hall _ hmem rfl]
    exact .inr rfl
  next => exact .inl rfl

/-- **An ampersand is written in front of no quote.** -/
theorem not_quote_prefix_written {c : Char} {s r w : List Char} {t : Token}
    (h : scan c s = some (t, r)) (hliteral : t.isLiteral = false) (hgap : t.isGap = false)
    (hw : w.head? ≠ some '\'') : ¬ ['&', '\''] <+: t.written ++ w := by
  intro hopen
  obtain ⟨u, hu⟩ := hopen
  obtain ⟨d, b, hwritten, _⟩ := scan_starts h hliteral hgap
  have hhead : t.written.head? = some '&' := by
    rw [hwritten] at hu ⊢
    exact congrArg some (List.cons.inj hu).1.symm
  obtain rfl : c = '&' := eq_of_head?_written h hliteral hgap (by decide) hhead
  rcases written_of_ampersand h with hone | htwo
  · rw [hone] at hu
    obtain rfl : '\'' :: u = w := (List.cons.inj hu).2
    exact hw rfl
  · rw [htwo] at hu
    cases (List.cons.inj (List.cons.inj hu).2).1

/-- A lone mark stands in front of a space, a quote or nothing. -/
theorem rest_of_loneMark {c : Char} {s r : List Char} {t : Token}
    (h : scan c s = some (t, r)) (ht : t ∈ loneMarks) :
    ∀ x ∈ r.head?, x ∈ [' ', '\'', '"', '\x60'] := by
  intro x hx
  have hliteral : t.isLiteral = false := by
    simp only [loneMarks, List.mem_cons, List.not_mem_nil, or_false] at ht
    rcases ht with rfl | rfl | rfl <;> rfl
  obtain ⟨a, hspelled, hs⟩ := scan_spelled h hliteral
  simp only [loneMarks, List.mem_cons, List.not_mem_nil, or_false] at ht
  rcases ht with rfl | rfl | rfl
  · cases hspelled
    obtain ⟨rfl, rfl⟩ := List.cons.inj hs
    rw [eq_space_of_hashToken (Option.some.inj h) x hx]
    decide
  · cases hspelled
    obtain ⟨rfl, rfl⟩ := List.cons.inj hs
    exact mem_of_atToken (Option.some.inj h) x hx
  · cases hspelled
    obtain ⟨rfl, rfl⟩ := List.cons.inj hs
    rw [(eq_space_of_atToken_double (Option.some.inj h)).2 x hx]
    decide

/-! ## Neighbours -/

/-- The token is read somewhere, and is neither a gap nor a literal. -/
structure Solid (t : Token) : Prop where
  read : ∃ c s r, scan c s = some (t, r)
  literal : t.isLiteral = false
  gap : t.isGap = false
  faithful : Faithful t

/-- A token that is no gap is no comment. -/
theorem ne_lineComment {t : Token} (ht : t.isGap = false) (text : List Char) :
    t ≠ .lineComment text := by
  intro h
  rw [h] at ht
  cases ht

/-- The end of the text is alike to every text behind a token. -/
theorem alike_nil (t : Token) (r : List Char) : Alike t r [] where
  follows := follows_nil r
  quote := by simp
  exponent := fun _ _ => rfl
  less := fun _ _ => by simp
  lone := fun _ => .inl rfl
  comment := fun _ _ _ => rfl

/-- A text that starts with a space is alike to every text behind a token, apart from
line comments. -/
theorem alike_space {t : Token} (ht : ∀ text, t ≠ .lineComment text) (r w : List Char) :
    Alike t r (' ' :: w) where
  follows := fun _ hp _ => stopsAt_cons.mpr hp.space
  quote := by simp
  exponent := fun _ _ => rfl
  less := fun _ _ => by simp
  lone := fun _ => .inr (.inl rfl)
  comment := fun text h => absurd h (ht text)

/-- So is a text that starts with a semicolon, unless a mark stands alone in front. -/
theorem alike_semicolon {t : Token} (ht : ∀ text, t ≠ .lineComment text) (hlone : t ∉ loneMarks)
    (r w : List Char) : Alike t r (';' :: w) where
  follows := fun _ hp _ => stopsAt_cons.mpr hp.semicolon
  quote := by simp
  exponent := fun _ _ => rfl
  less := fun _ _ => by simp
  lone := fun hmem => absurd hmem hlone
  comment := fun text h => absurd h (ht text)

/-- So is a text that starts with a question mark, unless a mark stands alone in front. -/
theorem alike_question {t : Token} (ht : t.isGap = false) (hlone : t ∉ loneMarks)
    (r w : List Char) : Alike t r ('?' :: w) where
  follows := fun _ hp _ => stopsAt_cons.mpr hp.question
  quote := by simp
  exponent := fun _ _ => rfl
  less := fun _ _ => by simp
  lone := fun hmem => absurd hmem hlone
  comment := fun _ h => (ne_lineComment ht _ h).elim

/-- **A token is written alike to what it was read from**, for the token in front of it.
Only `<` is an exception, in front of the other spelling of "not equal". -/
theorem alike_written {c d : Char} {s r q w : List Char} {t u : Token}
    (hread : scan c s = some (t, d :: r)) (hnext : scan d r = some (u, q))
    (ht : t.isLiteral = false ∧ t.isGap = false) (hu : u.isLiteral = false ∧ u.isGap = false)
    (hless : ¬ (t = .symbol ['<'] ∧ u = .symbol ['<', '>'])) (hw : w.head? ≠ some '\'') :
    Alike t (d :: r) (u.written ++ w) := by
  obtain ⟨e, b, hwritten, hstarts⟩ := scan_starts hnext hu.1 hu.2
  have hquote := not_quote_prefix_written hnext hu.1 hu.2 hw
  rw [hwritten] at hquote ⊢
  constructor
  case follows =>
    intro p hp hstop
    have hd : p d = false := stopsAt_cons.mp hstop
    apply stopsAt_cons.mpr
    cases hstarts with
    | same => exact hd
    | notEqual => exact hp.less
    | bytes => exact hp.bytes hd
    | raw => exact hp.raw hd
    | unicode => exact hp.unicode hd
  case quote => exact fun h => absurd h hquote
  case exponent =>
    intro hnumber
    cases t <;> cases hnumber
    cases ht.1
  case less =>
    intro hsymbol hr hv
    obtain rfl : e = '<' := Option.some.inj hv
    cases hstarts with
    | same => exact hr rfl
    | notEqual hu => exact hless ⟨hsymbol, hu⟩
  case lone =>
    intro hmem
    have hd := rest_of_loneMark hread hmem d rfl
    cases hstarts with
    | same => exact .inr (.inr rfl)
    | notEqual | bytes | raw | unicode => exact absurd hd (by decide)
  case comment => exact fun _ h => (ne_lineComment ht.2 _ h).elim

/-! ## Reading on -/

/-- The second token is read right behind the first. -/
def Adjacent (t u : Token) : Prop :=
  ∃ c s d r q, scan c s = some (t, d :: r) ∧ scan d r = some (u, q)

/-- The tokens of a text are read one right behind the other. -/
theorem tokenize_adjacent {s : List Char} {ts : List Token} (h : tokenize s = some ts) :
    ts.IsChain Adjacent ∧ ∀ t ∈ ts, ∃ c a r, scan c a = some (t, r) := by
  fun_induction tokenize s generalizing ts with
  | case1 =>
      cases h
      exact ⟨.nil, by simp⟩
  | case2 => cases h
  | case3 c s t r hscan _ ih =>
      obtain ⟨us, hus, rfl⟩ := Option.map_eq_some_iff.mp h
      obtain ⟨hchain, hread⟩ := ih hus
      refine ⟨List.isChain_cons.mpr ⟨?_, hchain⟩, ?_⟩
      case refine_2 => exact List.forall_mem_cons.mpr ⟨⟨c, s, r, hscan⟩, hread⟩
      intro u hu
      cases r with
      | nil =>
          rw [tokenize_nil] at hus
          cases hus
          cases hu
      | cons d r =>
          cases hnext : scan d r with
          | none =>
              rw [tokenize_cons_none hnext] at hus
              cases hus
          | some p =>
              rw [tokenize_cons_some hnext] at hus
              obtain ⟨vs, _, rfl⟩ := Option.map_eq_some_iff.mp hus
              obtain rfl : p.1 = u := Option.some.inj hu
              exact ⟨c, s, d, r, p.2, hscan, hnext⟩

/-- A space is read for itself in front of everything. -/
theorem readsBefore_space (v : List Char) : ReadsBefore .space v := ⟨' ', [], rfl, rfl⟩

/-- A question mark is read for itself in front of everything that starts with no
numeral. -/
theorem readsBefore_question {v : List Char} (h : StopsAt isNumeric v) :
    ReadsBefore (.placeholder ['?']) v := by
  have hdrop : v.dropWhile isNumeric = v := dropWhile_append_of_stopsAt (a := []) (by simp) h
  refine ⟨'?', [], rfl, ?_⟩
  change some (questionToken v) = _
  rw [questionToken, takeWhile_eq_nil_iff_stopsAt.mpr h, hdrop]

/-- A solid token is read for itself at the end of the text. -/
theorem Solid.readsBefore_nil {t : Token} (h : Solid t) : ReadsBefore t [] := by
  obtain ⟨c, s, r, hread⟩ := h.read
  exact scan_readsBefore hread h.literal h.faithful (alike_nil t r)

/-- A solid token starts with no quote. -/
theorem Solid.head?_ne_quote {t : Token} (h : Solid t) : t.written.head? ≠ some '\'' := by
  obtain ⟨c, s, r, hread⟩ := h.read
  exact head?_written_ne_quote hread h.literal h.gap

/-- A solid token is not touched by a space. -/
theorem Solid.joins_space {t : Token} (h : Solid t) : Joins t .space := by
  obtain ⟨c, s, r, hread⟩ := h.read
  intro w _
  exact scan_readsBefore hread h.literal h.faithful (alike_space (ne_lineComment h.gap) r w)

/-- A solid token is not touched by a question mark, unless it is a lone mark. -/
theorem Solid.joins_question {t : Token} (h : Solid t) (hlone : t ∉ loneMarks) :
    Joins t (.placeholder ['?']) := by
  obtain ⟨c, s, r, hread⟩ := h.read
  intro w _
  exact scan_readsBefore hread h.literal h.faithful (alike_question h.gap hlone r w)

/-- **Neighbours join** as they did in the text that they were read from. -/
theorem Solid.joins {t u : Token} (h : Solid t) (hu : Solid u) (hnext : Adjacent t u)
    (hless : ¬ (t = .symbol ['<'] ∧ u = .symbol ['<', '>'])) : Joins t u := by
  obtain ⟨c, s, d, r, q, hread, hread'⟩ := hnext
  intro w hw
  apply scan_readsBefore hread h.literal h.faithful
  exact alike_written hread hread' ⟨h.literal, h.gap⟩ ⟨hu.literal, hu.gap⟩ hless hw

/-- A question mark is touched by nothing but a numeral. -/
theorem question_joins {u : Token} (hne : u.written ≠ [])
    (h : StopsAt isNumeric u.written) : Joins (.placeholder ['?']) u := by
  intro w _
  apply readsBefore_question
  obtain ⟨c, a, hwritten⟩ := List.exists_cons_of_ne_nil hne
  rw [hwritten] at h ⊢
  exact stopsAt_cons.mpr (stopsAt_cons.mp h)

end QueryAudit.Sql
