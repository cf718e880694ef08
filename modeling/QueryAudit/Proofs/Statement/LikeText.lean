import QueryAudit.Proofs.Statement.LikeClause

/-!
# Texts with a leading wildcard

The search for a leading wildcard tries every place of a text that does not stand behind a
word character, and at each of them it reads the word `like`, blanks, a quote and a wildcard.
A place where it fails hides no other: what is found is exactly a way to take the text apart,
`hasLeadingWildcard_iff_split`.  This holds of every text, whether or not it has tokens.
-/

namespace QueryAudit.Statement

open Text

/-- The first two letters and the last one have two forms each, the third one has three. -/
theorem isLike_iff_forms {word : List Char} :
    isLike word = true ↔
      ∃ l ∈ ['l', 'L'], ∃ i ∈ ['i', 'I'], ∃ k ∈ ['k', 'K', '\u212a'], ∃ e ∈ ['e', 'E'],
        word = [l, i, k, e] := by
  have hforms (c : Char) : (isLetterForm 'l' c = true ↔ c ∈ ['l', 'L']) ∧
      (isLetterForm 'i' c = true ↔ c ∈ ['i', 'I']) ∧
      (isLetterForm 'k' c = true ↔ c ∈ ['k', 'K', '\u212a']) ∧
      (isLetterForm 'e' c = true ↔ c ∈ ['e', 'E']) := by
    simp [isLetterForm, or_assoc]
  rw [isLike_iff]
  constructor
  · rintro ⟨l, i, k, e, rfl, hl, hi, hk, he⟩
    exact ⟨l, (hforms l).1.mp hl, i, (hforms i).2.1.mp hi, k, (hforms k).2.2.1.mp hk,
      e, (hforms e).2.2.2.mp he, rfl⟩
  · rintro ⟨l, hl, i, hi, k, hk, e, he, rfl⟩
    exact ⟨l, i, k, e, rfl, (hforms l).1.mpr hl, (hforms i).2.1.mpr hi,
      (hforms k).2.2.1.mpr hk, (hforms e).2.2.2.mpr he⟩

/-- A text starts with a quote and a wildcard. -/
theorem startsWithWildcard_iff {s : List Char} :
    startsWithWildcard s = true ↔
      ∃ quote ∈ ['\'', '"'], ∃ wildcard ∈ ['%', '_'], ∃ after, s = [quote, wildcard] ++ after := by
  constructor
  · intro h
    unfold startsWithWildcard at h
    split at h
    · next quote wildcard after =>
        rw [Bool.and_eq_true] at h
        exact ⟨quote, by simpa using h.1, wildcard, by simpa using h.2, after, rfl⟩
    · cases h
  · rintro ⟨quote, hquote, wildcard, hwildcard, after, rfl⟩
    rw [List.mem_pair] at hquote hwildcard
    simp [startsWithWildcard, hquote, hwildcard]

/-- **Blanks in front of a quote are a gap of any length.**  The quote is no blank, so the gap
ends where it stands. -/
theorem startsWithWildcard_dropWhile_iff {s : List Char} :
    startsWithWildcard (s.dropWhile isBlank) = true ↔
      ∃ gap rest, s = gap ++ rest ∧ (∀ c ∈ gap, isBlank c = true) ∧
        startsWithWildcard rest = true := by
  constructor
  · intro h
    exact ⟨s.takeWhile isBlank, s.dropWhile isBlank, List.takeWhile_append_dropWhile.symm,
      fun c hc => List.mem_takeWhile_imp hc, h⟩
  · rintro ⟨gap, rest, rfl, hgap, hrest⟩
    have hstops : StopsAt isBlank rest := by
      obtain ⟨quote, hquote, _, _, after, rfl⟩ := startsWithWildcard_iff.mp hrest
      rw [List.mem_pair] at hquote
      rcases hquote with rfl | rfl <;> exact stopsAt_cons.mpr (by decide)
    rwa [dropWhile_append_of_stopsAt hgap hstops]

/-- A text does not end with a word character if it is empty or its last character is none. -/
theorem endsInWord_false_iff {a : List Char} :
    endsInWord false a = false ↔ ∀ c ∈ a.getLast?, isWordChar c = false := by
  rw [endsInWord]
  cases a.getLast? <;> simp

/-- **The language of the search.**  A statement is taken for one with a leading wildcard if
and only if its text can be taken apart into

* anything that does not end with a word character,
* the word `like`, its letters in any of their forms,
* blanks, or none,
* a quote and a wildcard,
* and anything behind them. -/
theorem hasLeadingWildcard_iff_split (statement : String) :
    hasLeadingWildcard statement = true ↔
      ∃ before word gap after : List Char, ∃ quote wildcard : Char,
        statement.toList = before ++ word ++ gap ++ [quote, wildcard] ++ after ∧
        (∀ c ∈ before.getLast?, isWordChar c = false) ∧
        (∃ l ∈ ['l', 'L'], ∃ i ∈ ['i', 'I'], ∃ k ∈ ['k', 'K', '\u212a'], ∃ e ∈ ['e', 'E'],
          word = [l, i, k, e]) ∧
        (∀ c ∈ gap, isBlank c = true) ∧
        quote ∈ ['\'', '"'] ∧ wildcard ∈ ['%', '_'] := by
  rw [hasLeadingWildcard, wildcardLikeFrom_iff]
  constructor
  · rintro ⟨before, found, htext, hbefore, hfound⟩
    obtain ⟨word, rest, rfl, hword, hrest⟩ := wildcardLikeAt_iff.mp hfound
    obtain ⟨gap, pattern, rfl, hgap, hpattern⟩ := startsWithWildcard_dropWhile_iff.mp hrest
    obtain ⟨quote, hquote, wildcard, hwildcard, after, rfl⟩ := startsWithWildcard_iff.mp hpattern
    refine ⟨before, word, gap, after, quote, wildcard, ?_, endsInWord_false_iff.mp hbefore,
      isLike_iff_forms.mp hword, hgap, hquote, hwildcard⟩
    rw [htext]
    simp only [List.append_assoc]
  · rintro ⟨before, word, gap, after, quote, wildcard, htext, hbefore, hword, hgap, hquote,
      hwildcard⟩
    have hpattern : startsWithWildcard ([quote, wildcard] ++ after) = true :=
      startsWithWildcard_iff.mpr ⟨quote, hquote, wildcard, hwildcard, after, rfl⟩
    refine ⟨before, word ++ (gap ++ ([quote, wildcard] ++ after)), ?_,
      endsInWord_false_iff.mpr hbefore, ?_⟩
    · rw [htext]
      simp only [List.append_assoc]
    · exact wildcardLikeAt_iff.mpr ⟨word, _, rfl, isLike_iff_forms.mpr hword,
        startsWithWildcard_dropWhile_iff.mpr ⟨gap, _, rfl, hgap, hpattern⟩⟩

/-- Two words that miss it do not hide the third one. -/
example : hasLeadingWildcard "unlike '%x' like li\u212ae '_x'" = true := by decide +kernel

end QueryAudit.Statement
