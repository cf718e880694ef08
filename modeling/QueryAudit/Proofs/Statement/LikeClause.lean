import QueryAudit.Proofs.Sql.Hole
import QueryAudit.Proofs.Sql.Places
import QueryAudit.Statement.LeadingWildcard

/-!
# Clauses with a leading wildcard

The search for a leading wildcard is on the plain text.  Where a token is read it finds
exactly what the tokens have there, `wildcardLikeAt_eq`: the word `like`, spaces, and a
pattern without a prefix.  Anything else that it finds starts inside of a token.
`hasLeadingWildcard_iff` says so of whole statements.

This is not what a search on the tokens would find, `hasLeadingWildcard_hasClause_independent`:
there a comment may stand in front of a pattern, and holds none itself.
-/

namespace QueryAudit.Statement

open Sql Text

/-- Is the character a wildcard? -/
def isWildcard (c : Char) : Bool := c == '%' || c == '_'

/-- Is the word `like`, in any form of its letters? -/
def isLike (name : List Char) : Bool := afterLike? name == some []

/-- Is the token a string in plain quotes or a word in double quotes, a wildcard first? -/
def isPlainPattern : Token → Bool
  | .literal .plain content => content.head?.any isWildcard
  | .quotedWord mark name => mark == '"' && name.head?.any isWildcard
  | _ => false

/-- Do the tokens start with a keyword and, behind what is skipped, a pattern? -/
def startsClause (keyword : List Char → Bool) (skipped pattern : Token → Bool) :
    List Token → Bool
  | .word name :: ts => keyword name && (ts.dropWhile skipped).head?.any pattern
  | _ => false

/-! ## The search -/

/-- Does the text end with a word character?  For an empty one `inWord` says it. -/
def endsInWord (inWord : Bool) (a : List Char) : Bool := (a.getLast?.map isWordChar).getD inWord

/-- The first character counts only if it is the last. -/
theorem endsInWord_cons (inWord : Bool) (c : Char) (a : List Char) :
    endsInWord inWord (c :: a) = endsInWord (isWordChar c) a := by
  rw [endsInWord, endsInWord, List.getLast?_cons]
  cases a.getLast? <;> rfl

/-- **The search finds every place** that does not stand directly behind a word character. -/
theorem wildcardLikeFrom_iff {inWord : Bool} {s : List Char} :
    wildcardLikeFrom inWord s = true ↔
      ∃ a r, s = a ++ r ∧ endsInWord inWord a = false ∧ wildcardLikeAt r = true := by
  induction s generalizing inWord with
  | nil =>
      constructor
      · intro h
        cases h
      · rintro ⟨a, r, hs, _, hat⟩
        obtain ⟨_, rfl⟩ := List.append_eq_nil_iff.mp hs.symm
        cases hat
  | cons c s ih =>
      rw [wildcardLikeFrom, Bool.or_eq_true, Bool.and_eq_true, ih]
      constructor
      · rintro (⟨hword, hat⟩ | ⟨a, r, rfl, hword, hat⟩)
        · exact ⟨[], c :: s, rfl, by simpa [endsInWord] using hword, hat⟩
        · exact ⟨c :: a, r, rfl, (endsInWord_cons inWord c a).trans hword, hat⟩
      · rintro ⟨a, r, hs, hword, hat⟩
        cases a with
        | nil =>
            rw [List.nil_append] at hs
            subst hs
            exact .inl ⟨by simpa [endsInWord] using hword, hat⟩
        | cons d a =>
            obtain ⟨rfl, rfl⟩ := List.cons.inj hs
            rw [endsInWord_cons] at hword
            exact .inr ⟨a, r, rfl, hword, hat⟩

/-! ## Blanks -/

/-- A space is read from a blank. -/
theorem isBlank_of_scan {c : Char} {s r : List Char} (h : scan c s = some (.space, r)) :
    isBlank c = true := by
  obtain ⟨a, hspelled, hs⟩ := scan_spelled h rfl
  cases hspelled with
  | written | lineBreak =>
      obtain ⟨rfl, _⟩ := List.cons.inj hs
      decide
  | blank d hd =>
      obtain ⟨rfl, _⟩ := List.cons.inj hs
      exact hd

/-- Without the blanks in front of a text, its tokens are those without the spaces. -/
theorem tokenize_dropWhile_isBlank {s : List Char} {ts : List Token}
    (h : tokenize s = some ts) :
    tokenize (s.dropWhile isBlank) = some (ts.dropWhile (· == .space)) := by
  have hafter (c : Char) (s : List Char) :
      (afterBlank c s).dropWhile isBlank = s.dropWhile isBlank := by
    unfold afterBlank
    split
    · exact (List.dropWhile_cons_of_pos (by decide)).symm
    · rfl
  fun_induction tokenize s generalizing ts with
  | case1 =>
      cases h
      exact tokenize_nil
  | case2 => cases h
  | case3 c s t r hscan _ ih =>
      obtain ⟨us, hus, rfl⟩ := Option.map_eq_some_iff.mp h
      cases hc : isBlank c with
      | true =>
          rw [scan, if_pos hc] at hscan
          obtain ⟨rfl, rfl⟩ := parts_of_eq_some hscan
          rw [List.dropWhile_cons_of_pos hc, ← hafter c s, ih hus]
          rfl
      | false =>
          have ht : t ≠ .space := by
            rintro rfl
            rw [isBlank_of_scan hscan] at hc
            cases hc
          rw [List.dropWhile_cons_of_neg (by simp [hc]),
            List.dropWhile_cons_of_neg (by simpa using ht), tokenize_cons_some hscan, hus]
          rfl

/-! ## Patterns -/

/-- A quoted content starts with a wildcard if the text behind the quote does. -/
theorem isWildcard_head?_of_quotedBy {mark : Char} {s content rest : List Char}
    (h : quotedBy mark s = some (content, rest)) (hmark : isWildcard mark = false) :
    s.head?.any isWildcard = content.head?.any isWildcard := by
  obtain ⟨rfl, _⟩ := quotedBy_eq_some_iff.mp h
  cases content with
  | nil => exact hmark
  | cons c content =>
      rw [doubled_cons]
      split <;> rfl

/-- A pattern is read from a quote. -/
theorem quote_of_scan {c : Char} {s r : List Char} {t : Token} (h : scan c s = some (t, r))
    (ht : isPlainPattern t = true) : c = '\'' ∨ c = '"' := by
  rcases scan_cases h with rfl | ⟨o, q, ho, hgives⟩ | ⟨name, rfl⟩ | hnumeral | hmarked
  · cases ht
  · unfold opening? at ho
    split at ho <;> simp only [Option.some.injEq, Prod.mk.injEq, reduceCtorEq] at ho
    all_goals obtain ⟨rfl, rfl⟩ := ho
    case h_1 hc => exact .inr (eq_of_toUpper_eq hc (by decide))
    case h_3 hc => exact .inl (eq_of_toUpper_eq hc (by decide))
    -- the other openings give no pattern
    all_goals
      cases hgives
      cases ht
  · cases ht
  · rcases numeral_cases c s with ⟨text, hn⟩ | hn | ⟨content, hn⟩ <;>
      cases hn.symm.trans hnumeral <;> cases ht
  · cases hmarked <;> cases ht

/-- **A quote and a wildcard start a pattern.** -/
theorem startsWithWildcard_eq {s : List Char} {ts : List Token} (h : tokenize s = some ts) :
    startsWithWildcard s = ts.head?.any isPlainPattern := by
  cases ts with
  | nil =>
      obtain rfl := eq_nil_of_tokenize h
      rfl
  | cons t ts =>
      obtain ⟨r, hreads, _⟩ := exists_reads_of_tokenize h
      obtain ⟨c, s, rfl, hscan⟩ := hreads.scan
      have hstarts : startsWithWildcard (c :: s) =
          ((c == '\'' || c == '"') && s.head?.any isWildcard) := by
        cases s <;> simp [startsWithWildcard, isWildcard]
      rw [hstarts]
      by_cases hc : c = '\'' ∨ c = '"'
      · rcases hc with rfl | rfl
        · have hread : withContent (.literal .plain) (quotedBy '\'' s) = some (t, r) := hscan
          obtain ⟨content, hcontent, rfl⟩ := withContent_eq_some hread
          exact isWildcard_head?_of_quotedBy hcontent (by decide)
        · have hread : withContent (.quotedWord '"') (quotedBy '"' s) = some (t, r) := hscan
          obtain ⟨content, hcontent, rfl⟩ := withContent_eq_some hread
          exact isWildcard_head?_of_quotedBy hcontent (by decide)
      · have ht : isPlainPattern t = false := by
          by_contra ht
          exact hc (quote_of_scan hscan (by simpa using ht))
        rw [not_or] at hc
        simp [hc, ht]

/-! ## Keywords -/

/-- The word is four letters, each in one of its forms. -/
theorem afterLike?_eq_some_iff {s rest : List Char} :
    afterLike? s = some rest ↔ ∃ c₁ c₂ c₃ c₄, s = [c₁, c₂, c₃, c₄] ++ rest ∧
      isLetterForm 'l' c₁ = true ∧ isLetterForm 'i' c₂ = true ∧ isLetterForm 'k' c₃ = true ∧
      isLetterForm 'e' c₄ = true := by
  constructor
  · intro h
    unfold afterLike? at h
    split at h
    · next c₁ c₂ c₃ c₄ rest' =>
        split at h
        · next hletters =>
            obtain rfl := Option.some.inj h
            simp only [Bool.and_eq_true, and_assoc] at hletters
            exact ⟨c₁, c₂, c₃, c₄, rfl, hletters⟩
        · cases h
    · cases h
  · rintro ⟨c₁, c₂, c₃, c₄, rfl, h₁, h₂, h₃, h₄⟩
    simp [afterLike?, h₁, h₂, h₃, h₄]

/-- The word by itself. -/
theorem isLike_iff {name : List Char} :
    isLike name = true ↔ ∃ c₁ c₂ c₃ c₄, name = [c₁, c₂, c₃, c₄] ∧
      isLetterForm 'l' c₁ = true ∧ isLetterForm 'i' c₂ = true ∧ isLetterForm 'k' c₃ = true ∧
      isLetterForm 'e' c₄ = true := by
  rw [isLike, beq_iff_eq, afterLike?_eq_some_iff]
  simp only [List.append_nil]

/-- **What the search finds**: the word, blanks, a quote and a wildcard. -/
theorem wildcardLikeAt_iff {s : List Char} :
    wildcardLikeAt s = true ↔ ∃ name rest, s = name ++ rest ∧ isLike name = true ∧
      startsWithWildcard (rest.dropWhile isBlank) = true := by
  constructor
  · intro h
    unfold wildcardLikeAt at h
    split at h
    · next rest hlike =>
        obtain ⟨c₁, c₂, c₃, c₄, rfl, hletters⟩ := afterLike?_eq_some_iff.mp hlike
        exact ⟨[c₁, c₂, c₃, c₄], rest, rfl, isLike_iff.mpr ⟨c₁, c₂, c₃, c₄, rfl, hletters⟩, h⟩
    · cases h
  · rintro ⟨name, rest, rfl, hname, hpattern⟩
    obtain ⟨c₁, c₂, c₃, c₄, rfl, hletters⟩ := isLike_iff.mp hname
    rw [wildcardLikeAt, afterLike?_eq_some_iff.mpr ⟨c₁, c₂, c₃, c₄, rfl, hletters⟩]
    exact hpattern

/-- The first letter has two forms. -/
theorem eq_of_isLetterForm_l {c : Char} (h : isLetterForm 'l' c = true) : c = 'l' ∨ c = 'L' := by
  rw [isLetterForm, Bool.or_eq_true, Bool.or_eq_true, beq_iff_eq, beq_iff_eq] at h
  rcases h with h | hkelvin
  · exact h
  · cases hkelvin

/-- The forms of a letter of the word are part of a word. -/
theorem isWordPart_of_isLetterForm {letter c : Char} (hletter : letter ∈ ['l', 'i', 'k', 'e'])
    (h : isLetterForm letter c = true) : isWordPart c = true := by
  have hforms : isWordPart letter = true ∧ isWordPart letter.toUpper = true := by
    simp only [List.mem_cons, List.not_mem_nil, or_false] at hletter
    rcases hletter with rfl | rfl | rfl | rfl <;> decide
  rw [isLetterForm, Bool.or_eq_true, Bool.or_eq_true, Bool.and_eq_true, beq_iff_eq, beq_iff_eq,
    beq_iff_eq] at h
  rcases h with (rfl | rfl) | ⟨_, hkelvin⟩
  · exact hforms.1
  · exact hforms.2
  · obtain rfl := beq_iff_eq.mp hkelvin
    decide +kernel

/-- **The word is read as one token** if no more of a word follows. -/
theorem tokenize_like {name rest : List Char} (h : isLike name = true)
    (hrest : StopsAt isWordPart rest) :
    tokenize (name ++ rest) = (tokenize rest).map (.word name :: ·) := by
  obtain ⟨c₁, c₂, c₃, c₄, rfl, h₁, h₂, h₃, h₄⟩ := isLike_iff.mp h
  have hparts : ∀ c ∈ [c₂, c₃, c₄], isWordPart c = true := by
    intro c hc
    simp only [List.mem_cons, List.not_mem_nil, or_false] at hc
    rcases hc with rfl | rfl | rfl
    · exact isWordPart_of_isLetterForm (by decide) h₂
    · exact isWordPart_of_isLetterForm (by decide) h₃
    · exact isWordPart_of_isLetterForm (by decide) h₄
  have hscan (s : List Char) : scan c₁ s = some (wordFrom [c₁] s) := by
    rcases eq_of_isLetterForm_l h₁ with rfl | rfl <;> rfl
  have hread : scan c₁ ([c₂, c₃, c₄] ++ rest) = some (.word [c₁, c₂, c₃, c₄], rest) := by
    rw [hscan, wordFrom, takeWhile_append_of_stopsAt hparts hrest,
      dropWhile_append_of_stopsAt hparts hrest]
    rfl
  exact tokenize_cons_some hread

/-- In front of a pattern a word is at its end. -/
theorem stopsAt_isWordPart {rest : List Char}
    (h : startsWithWildcard (rest.dropWhile isBlank) = true) : StopsAt isWordPart rest := by
  cases rest with
  | nil => exact stopsAt_nil _
  | cons c rest =>
      refine stopsAt_cons.mpr ?_
      cases hc : isBlank c with
      | true => exact isWordPart_of_isBlank hc
      | false =>
          rw [List.dropWhile_cons_of_neg (by simp [hc])] at h
          cases rest with
          | nil => cases h
          | cons d rest =>
              rw [startsWithWildcard, Bool.and_eq_true, Bool.or_eq_true, beq_iff_eq,
                beq_iff_eq] at h
              rcases h.1 with rfl | rfl <;> decide

/-! ## Clauses -/

/-- **Where a token is read, the search finds exactly the clauses** of the tokens that
follow: the word, spaces, and a pattern. -/
theorem wildcardLikeAt_eq {s : List Char} {ts : List Token} (h : tokenize s = some ts) :
    wildcardLikeAt s = startsClause isLike (· == .space) isPlainPattern ts := by
  rw [Bool.eq_iff_iff, wildcardLikeAt_iff]
  constructor
  · rintro ⟨name, rest, rfl, hname, hpattern⟩
    rw [tokenize_like hname (stopsAt_isWordPart hpattern)] at h
    obtain ⟨us, hus, rfl⟩ := Option.map_eq_some_iff.mp h
    rw [startsWithWildcard_eq (tokenize_dropWhile_isBlank hus)] at hpattern
    exact Bool.and_eq_true_iff.mpr ⟨hname, hpattern⟩
  · intro hclause
    unfold startsClause at hclause
    split at hclause
    · next name us =>
        obtain ⟨hname, hpattern⟩ := Bool.and_eq_true_iff.mp hclause
        obtain ⟨rest, hreads, hus⟩ := exists_reads_of_tokenize h
        obtain ⟨c, q, rfl, hscan⟩ := hreads.scan
        -- the word is spelled as it is written
        obtain ⟨a, hspelled, hs⟩ := scan_spelled hscan rfl
        cases hspelled
        refine ⟨name, rest, hs, hname, ?_⟩
        rw [startsWithWildcard_eq (tokenize_dropWhile_isBlank hus)]
        exact hpattern
    · cases hclause

/-- What the search finds starts with a letter. -/
theorem isAlpha_of_wildcardLikeAt {r : List Char} (h : wildcardLikeAt r = true) :
    ∃ d ∈ r.head?, d.isAlpha = true := by
  obtain ⟨name, rest, rfl, hname, _⟩ := wildcardLikeAt_iff.mp h
  obtain ⟨c₁, c₂, c₃, c₄, rfl, hfirst, _⟩ := isLike_iff.mp hname
  refine ⟨c₁, rfl, ?_⟩
  rcases eq_of_isLetterForm_l hfirst with rfl | rfl <;> decide

/-- **When a statement is taken for one with a leading wildcard.**  It is if, not directly
behind a word character, its tokens have the word, spaces, and a plain pattern; or if the
letters of such a clause start inside of one token: a comment, a string, or a word, a number
or a placeholder behind a character that is no word character. -/
theorem hasLeadingWildcard_iff {statement : String} {ts : List Token}
    (h : tokenize statement.toList = some ts) :
    hasLeadingWildcard statement = true ↔
      ∃ a r, statement.toList = a ++ r ∧ endsInWord false a = false ∧
        ((∃ before after, Reads statement.toList before r ∧ ts = before ++ after ∧
            startsClause isLike (· == .space) isPlainPattern after = true) ∨
          ∃ t, Inside statement.toList t r ∧ isBare t = false ∧ wildcardLikeAt r = true) := by
  have hreads {before : List Token} {r : List Char} (hr : Reads statement.toList before r) :
      ∃ after, tokenize r = some after ∧ ts = before ++ after := by
    rw [hr.tokenize] at h
    obtain ⟨after, hafter, hts⟩ := Option.map_eq_some_iff.mp h
    exact ⟨after, hafter, hts.symm⟩
  rw [hasLeadingWildcard, wildcardLikeFrom_iff]
  constructor
  · rintro ⟨a, r, hs, hword, hat⟩
    refine ⟨a, r, hs, hword, ?_⟩
    rcases reads_or_inside h ⟨a, hs.symm⟩ with ⟨before, hbefore⟩ | ⟨t, ht⟩
    · obtain ⟨after, hafter, hts⟩ := hreads hbefore
      rw [wildcardLikeAt_eq hafter] at hat
      exact .inl ⟨before, after, hbefore, hts, hat⟩
    · refine .inr ⟨t, ht, ?_, hat⟩
      by_contra hbare
      obtain ⟨d, hd, halpha⟩ := isAlpha_of_wildcardLikeAt hat
      rw [isAlpha_of_inside ht (by simpa using hbare) d hd] at halpha
      cases halpha
  · rintro ⟨a, r, hs, hword, ⟨before, after, hbefore, hts, hclause⟩ | ⟨t, _, _, hat⟩⟩
    · obtain ⟨after', hafter, hts'⟩ := hreads hbefore
      rw [hts] at hts'
      rw [List.append_cancel_left hts', ← wildcardLikeAt_eq hafter] at hclause
      exact ⟨a, r, hs, hword, hclause⟩
    · exact ⟨a, r, hs, hword, hat⟩

/-- A clause with two spaces in it. -/
theorem hasLeadingWildcard_of_clause : hasLeadingWildcard "b Like  '%x'" = true := by
  have hread : tokenize "b Like  '%x'".toList =
      some [.word ['b'], .space, .word "Like".toList, .space, .space,
        .literal .plain ['%', 'x']] := by decide +kernel
  refine (hasLeadingWildcard_iff hread).mpr ⟨['b', ' '], "Like  '%x'".toList, rfl, by decide, ?_⟩
  exact .inl ⟨[.word ['b'], .space], _, .cons rfl (.cons rfl (.nil _)), rfl, by decide⟩

/-! ## Clauses that the search does not see -/

/-- Is the word the keyword, in any case of ASCII letters? -/
def isLikeKeyword (name : List Char) : Bool := name.map Char.toUpper == "LIKE".toList

/-- Is the token a literal, with or without a prefix, that starts with a wildcard? -/
def isPattern : Token → Bool
  | .literal kind content => kind != .hex && content.head?.any isWildcard
  | .quotedWord mark name => mark == '"' && name.head?.any isWildcard
  | _ => false

/-- Do the tokens have the keyword and, behind nothing but gaps, a pattern? -/
def hasClause (ts : List Token) : Bool :=
  ts.tails.any (startsClause isLikeKeyword Token.isGap isPattern)

/-- Neither implies the other: the search misses a pattern with a prefix, and it finds the
letters of a clause in a comment. -/
theorem hasLeadingWildcard_hasClause_independent :
    (¬ ∀ statement ts, tokenize statement.toList = some ts →
      hasClause ts = true → hasLeadingWildcard statement = true) ∧
    ¬ ∀ statement ts, tokenize statement.toList = some ts →
      hasLeadingWildcard statement = true → hasClause ts = true := by
  constructor
  · intro hall
    have hread : tokenize "SELECT a FROM t WHERE b LIKE N'%x'".toList =
        some [.word "SELECT".toList, .space, .word ['a'], .space, .word "FROM".toList, .space,
          .word ['t'], .space, .word "WHERE".toList, .space, .word ['b'], .space,
          .word "LIKE".toList, .space, .literal .national ['%', 'x']] := by decide +kernel
    have hfound := hall "SELECT a FROM t WHERE b LIKE N'%x'" _ hread (by decide +kernel)
    revert hfound
    decide +kernel
  · intro hall
    have hread : tokenize "SELECT a FROM t -- like '%x'".toList =
        some [.word "SELECT".toList, .space, .word ['a'], .space, .word "FROM".toList, .space,
          .word ['t'], .space, .lineComment " like '%x'".toList] := by decide +kernel
    have hclause := hall "SELECT a FROM t -- like '%x'" _ hread (by decide +kernel)
    revert hclause
    decide +kernel

end QueryAudit.Statement
