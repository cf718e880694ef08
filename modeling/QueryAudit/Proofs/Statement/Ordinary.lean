import QueryAudit.Proofs.Statement.Skeleton

/-!
# Ordinary statements

An *ordinary* statement is made of plain words, values, placeholders and the usual symbols.
No two neighbours of its skeleton can be taken for something else: words start with letters,
and no symbol runs on into the next.  So its shape is read as its skeleton, and two ordinary
statements have one shape only if they have one skeleton.
-/

namespace QueryAudit.Statement

open Sql Text

/-- The symbols of an ordinary statement. -/
def ordinarySymbols : List (List Char) :=
  [['('], [')'], [','], ['.'], [';'], ['='], ['<'], ['>'], ['<', '='], ['>', '='], ['<', '>'],
   ['+'], ['-'], ['*'], ['/'], ['|', '|']]

/-- Is the word made of ASCII letters, digits and underscores, a letter first? -/
def isOrdinaryName : List Char → Bool
  | [] => false
  | c :: name => c.isAlpha && name.all fun d => d.isAlphanum || d == '_'

/-- Is the token a gap, an ordinary word or symbol, a value, or a placeholder with ASCII
digits? -/
def isOrdinary : Token → Bool
  | .space | .lineComment _ | .blockComment _ | .number _ | .literal .. => true
  | .word name => isOrdinaryName name
  | .quotedWord mark _ => mark == '"'
  | .placeholder text => text.head? == some '?' && text.tail.all Char.isDigit
  | .symbol text => ordinarySymbols.contains text
  | _ => false

/-- The text is read as these tokens, all of them ordinary, with `<>` as the only spelling
of "not equal". -/
inductive Ordinary : List Char → List Token → Prop where
  | nil : Ordinary [] []
  | cons {c : Char} {s r : List Char} {t : Token} {ts : List Token}
      (hscan : scan c s = some (t, r)) (ht : isOrdinary t = true)
      (hspelling : t = .symbol ['<', '>'] → c = '<') (hr : Ordinary r ts) :
      Ordinary (c :: s) (t :: ts)

/-! ## Ordinary tokens -/

/-- The tokens of an ordinary text are its tokens. -/
theorem Ordinary.tokenize {s : List Char} {ts : List Token} (h : Ordinary s ts) :
    tokenize s = some ts := by
  induction h with
  | nil => exact tokenize_nil
  | cons hscan _ _ _ ih => rw [tokenize_cons_some hscan, ih]; rfl

/-- All tokens of an ordinary text are ordinary. -/
theorem Ordinary.forall_isOrdinary {s : List Char} {ts : List Token} (h : Ordinary s ts) :
    ∀ t ∈ ts, isOrdinary t = true := by
  induction h with
  | nil => simp
  | cons _ ht _ _ ih => exact List.forall_mem_cons.mpr ⟨ht, ih⟩

/-- Without an exclamation mark there is only one spelling of "not equal". -/
theorem ordinary_of_tokenize {s : List Char} {ts : List Token} (h : Sql.tokenize s = some ts)
    (hordinary : ∀ t ∈ ts, isOrdinary t = true) (hmark : '!' ∉ s) : Ordinary s ts := by
  fun_induction Sql.tokenize s generalizing ts with
  | case1 =>
      cases h
      exact .nil
  | case2 => cases h
  | case3 c s t r hscan _ ih =>
      obtain ⟨us, hus, rfl⟩ := Option.map_eq_some_iff.mp h
      obtain ⟨ht, hus'⟩ := List.forall_mem_cons.mp hordinary
      have hrest : '!' ∉ r := fun hr =>
        hmark (List.mem_cons_of_mem c ((scan_suffix hscan).subset hr))
      refine .cons hscan ht ?_ (ih hus hus' hrest)
      rintro rfl
      obtain ⟨d, b, hwritten, hstarts⟩ := scan_starts hscan rfl rfl
      obtain ⟨rfl, _⟩ := List.cons.inj hwritten
      cases hstarts with
      | same => rfl
      | notEqual => exact absurd List.mem_cons_self hmark

/-- An ordinary token holds nothing that is doubled or escaped. -/
theorem faithful_of_isOrdinary {t : Token} (h : isOrdinary t = true) : Faithful t := by
  cases t with
  | quotedWord mark name => exact .inl (by simpa [isOrdinary] using h)
  | bytes | raw | unicode | dollar => cases h
  | _ => trivial

/-- The characters of ordinary words and placeholders. -/
def isNameChar (c : Char) : Bool := c.isAlphanum || c == '_' || c == '?'

/-- Ordinary words and placeholders are made of their characters. -/
theorem isNameChar_of_mem {name : List Char} (h : isOrdinaryName name = true) :
    ∀ c ∈ name, isNameChar c = true := by
  cases name with
  | nil => simp
  | cons d name =>
      rw [isOrdinaryName, Bool.and_eq_true, List.all_eq_true] at h
      intro c hc
      rcases List.mem_cons.mp hc with rfl | hc
      · simp [isNameChar, Char.isAlphanum, h.1]
      · simpa [isNameChar] using .inl (by simpa using h.2 c hc)

/-- A text of such characters does not end like one that vanishes. -/
theorem getLast?_of_isNameChar {s : List Char} (h : ∀ c ∈ s, isNameChar c = true) :
    s.getLast?.any isTrailing = false := by
  cases hlast : s.getLast? with
  | none => rfl
  | some c =>
      have hc := h c (List.mem_of_getLast? hlast)
      by_contra htrailing
      rw [Option.any_some, Bool.not_eq_false, isTrailing, Bool.or_eq_true, beq_iff_eq,
        beq_iff_eq] at htrailing
      rcases htrailing with rfl | rfl <;> exact absurd hc (by decide)

/-- Only a space and a semicolon end like tokens that vanish. -/
theorem getLast?_of_isOrdinary {t : Token} (h : isOrdinary t = true)
    (hliteral : t.isLiteral = false) (hgap : t.isGap = false) (hend : isEnding t = false) :
    t.written.getLast?.any isTrailing = false := by
  cases t with
  | word name => exact getLast?_of_isNameChar (isNameChar_of_mem h)
  | placeholder text =>
      refine getLast?_of_isNameChar fun c hc => ?_
      rw [isOrdinary, Bool.and_eq_true, beq_iff_eq, List.all_eq_true] at h
      obtain ⟨ds, rfl⟩ := List.head?_eq_some_iff.mp h.1
      rcases List.mem_cons.mp hc with rfl | hc
      · rfl
      · simp [isNameChar, Char.isAlphanum, h.2 c hc]
  | symbol text =>
      have hall : ∀ text ∈ ordinarySymbols, isEnding (.symbol text) = false →
          text.getLast?.any isTrailing = false := by decide
      exact hall text (List.contains_iff_mem.mp h) hend
  | space | lineComment | blockComment => cases hgap
  | number | literal => cases hliteral
  | quotedWord mark name =>
      -- what stands in double quotes is a literal
      rw [show (Token.quotedWord mark name).isLiteral = true from h] at hliteral
      cases hliteral
  | bytes | raw | unicode | dollar => cases h

/-- Letters have codes between those of `A` and `z`. -/
theorem toNat_of_isAlpha {c : Char} (h : c.isAlpha = true) : 65 ≤ c.toNat ∧ c.toNat ≤ 122 := by
  rcases Bool.or_eq_true_iff.mp h with hupper | hlower
  · have hcapital : 65 ≤ c.toNat ∧ c.toNat ≤ 90 := of_decide_eq_true hupper
    omega
  · obtain ⟨hlow, hhigh⟩ := Bool.and_eq_true_iff.mp hlower
    have hsmall : 97 ≤ c.toNat ∧ c.toNat ≤ 122 :=
      ⟨of_decide_eq_true hlow, of_decide_eq_true hhigh⟩
    omega

/-- A letter is no digit. -/
theorem isDigit_of_isAlpha {c : Char} (h : c.isAlpha = true) : c.isDigit = false := by
  obtain ⟨hlow, _⟩ := toNat_of_isAlpha h
  have hbeyond : decide (c.toNat ≤ 57) = false := decide_eq_false (by omega)
  exact Bool.and_eq_false_iff.mpr (.inr hbeyond)

/-- A letter is not numeric. -/
theorem isNumeric_of_isAlpha {c : Char} (h : c.isAlpha = true) : isNumeric c = false := by
  obtain ⟨_, hhigh⟩ := toNat_of_isAlpha h
  have hascii : isAscii c = true := decide_eq_true (by omega)
  rw [isNumeric, if_pos hascii, isDigit_of_isAlpha h]

/-- What is shown of an ordinary token does not start like a numeral. -/
theorem stopsAt_isNumeric_of_isOrdinary {t : Token} (h : isOrdinary t = true) :
    StopsAt isNumeric (hidden t).written := by
  have hmark : StopsAt isNumeric mark.written := stopsAt_cons.mpr (by decide)
  cases t with
  | word name =>
      cases name with
      | nil => exact stopsAt_nil _
      | cons c name =>
          rw [isOrdinary, isOrdinaryName, Bool.and_eq_true] at h
          exact stopsAt_cons.mpr (isNumeric_of_isAlpha h.1)
  | placeholder text =>
      rw [isOrdinary, Bool.and_eq_true, beq_iff_eq] at h
      obtain ⟨ds, rfl⟩ := List.head?_eq_some_iff.mp h.1
      exact stopsAt_cons.mpr (by decide)
  | symbol text =>
      have hall : ∀ text ∈ ordinarySymbols, text.head?.any isNumeric = false := by decide
      intro c hc
      have hfirst := hall text (List.contains_iff_mem.mp h)
      rwa [show text.head? = some c from hc] at hfirst
  | quotedWord mark name =>
      have hliteral : (Token.quotedWord mark name).isLiteral = true := h
      rw [hidden_of_isLiteral hliteral]
      exact hmark
  | number | literal => exact hmark
  | space | lineComment | blockComment => exact stopsAt_cons.mpr (by decide)
  | bytes | raw | unicode | dollar => cases h

/-- No ordinary token is a lone mark. -/
theorem not_mem_loneMarks_of_isOrdinary {t : Token} (h : isOrdinary t = true) :
    t ∉ loneMarks := by
  intro hmem
  simp only [loneMarks, List.mem_cons, List.not_mem_nil, or_false] at hmem
  rcases hmem with rfl | rfl | rfl <;> cases h

/-! ## Neighbours -/

/-- Behind `<` alone stands no second one: the two would be read together. -/
theorem head?_ne_less {c : Char} {s r : List Char} (h : scan c s = some (.symbol ['<'], r)) :
    r.head? ≠ some '<' := by
  intro hr
  obtain ⟨r, rfl⟩ := List.head?_eq_some_iff.mp hr
  obtain ⟨a, hspelled, hs⟩ := scan_spelled h rfl
  cases hspelled
  obtain ⟨rfl, rfl⟩ := List.cons.inj hs
  have hread : operator '<' ('<' :: r) = (.symbol ['<'], '<' :: r) := Option.some.inj h
  unfold operator at hread
  split at hread
  · next op hop =>
      obtain ⟨hmem, _⟩ := find?_operators_eq_some_iff.mp hop
      have hall : ∀ op ∈ operators, symbolOf op ≠ .symbol ['<'] := by decide
      exact hall op hmem (Prod.mk.inj hread).1
  · next hnone =>
      have hdouble := List.find?_eq_none.mp hnone ['<', '<'] (by decide)
      exact hdouble (by simp)

/-- **Neighbours of an ordinary text keep apart in its shape.** -/
theorem Ordinary.apart {s : List Char} {ts : List Token} (h : Ordinary s ts) :
    ts.IsChain Apart := by
  induction h with
  | nil => exact .nil
  | cons hscan ht _ hr ih =>
      refine List.isChain_cons.mpr ⟨fun u hu => ?_, ih⟩
      cases hr with
      | nil => cases hu
      | cons hnext hordinary hspelling _ =>
          obtain rfl := Option.some.inj hu
          refine ⟨fun _ => stopsAt_isNumeric_of_isOrdinary hordinary,
            fun hlone => absurd hlone (not_mem_loneMarks_of_isOrdinary ht), ?_⟩
          rintro ⟨rfl, rfl⟩
          exact head?_ne_less hscan (congrArg some (hspelling rfl))

/-- Ordinary statements are legible. -/
theorem Ordinary.legible {s : List Char} {ts : List Token} (h : Ordinary s ts) : Legible ts where
  faithful := fun t ht _ _ => faithful_of_isOrdinary (h.forall_isOrdinary t ht)
  apart := h.apart
  ending := fun t ht => getLast?_of_isOrdinary (h.forall_isOrdinary t ht)

/-- **The shape of an ordinary statement is read as its skeleton**, so that two of them have
one shape exactly if they have one skeleton. -/
theorem tokenize_shape_of_ordinary {statement other : String} {ts us : List Token}
    (h : Ordinary statement.toList ts) (hother : Ordinary other.toList us) :
    tokenize (shape statement).toList = some (skeleton ts) ∧
      (shape statement = shape other ↔ skeleton ts = skeleton us) := by
  have hread {statement : String} {ts : List Token} (h : Ordinary statement.toList ts) :
      tokenize (shape statement).toList = some (skeleton ts) := by
    rw [shape, String.toList_ofList, ← trimmed_shapeTokens]
    exact tokenize_shapeOfChars h.tokenize h.legible
  have htext {statement : String} {ts : List Token} (h : Ordinary statement.toList ts) :
      shape statement = String.ofList (Token.text (skeleton ts)) := by
    rw [shape, shapeOfChars_of_legible h.tokenize h.legible, trimmed_shapeTokens]
  refine ⟨hread h, ?_, ?_⟩
  · intro hshape
    have hsame := hread h
    rw [hshape, hread hother] at hsame
    exact (Option.some.inj hsame).symm
  · intro hskeleton
    rw [htext h, htext hother, hskeleton]

/-- A comment, a sign and the forms of the values are all that differs. -/
theorem tokenize_shape_of_values :
    ∃ ts us,
      Ordinary "SELECT a.b FROM c -- d\n WHERE e<>-5 AND f||'g''' >= ?1;".toList ts ∧
      Ordinary "SELECT a.b FROM c WHERE e<>.5e3 AND f||N'h' >= ?1 ; ".toList us ∧
      tokenize (shape "SELECT a.b FROM c -- d\n WHERE e<>-5 AND f||'g''' >= ?1;").toList =
        some (skeleton ts) ∧
      shape "SELECT a.b FROM c -- d\n WHERE e<>-5 AND f||'g''' >= ?1;" =
        shape "SELECT a.b FROM c WHERE e<>.5e3 AND f||N'h' >= ?1 ; " := by
  have hread : tokenize "SELECT a.b FROM c -- d\n WHERE e<>-5 AND f||'g''' >= ?1;".toList =
      some ((tokenize
        "SELECT a.b FROM c -- d\n WHERE e<>-5 AND f||'g''' >= ?1;".toList).getD []) := by
    decide +kernel
  have hother : tokenize "SELECT a.b FROM c WHERE e<>.5e3 AND f||N'h' >= ?1 ; ".toList =
      some ((tokenize
        "SELECT a.b FROM c WHERE e<>.5e3 AND f||N'h' >= ?1 ; ".toList).getD []) := by
    decide +kernel
  have hordinary := ordinary_of_tokenize hread (by decide +kernel) (by decide)
  have hordinary' := ordinary_of_tokenize hother (by decide +kernel) (by decide)
  obtain ⟨htokens, hshape⟩ := tokenize_shape_of_ordinary hordinary hordinary'
  exact ⟨_, _, hordinary, hordinary', htokens, hshape.mpr (by decide +kernel)⟩

end QueryAudit.Statement
