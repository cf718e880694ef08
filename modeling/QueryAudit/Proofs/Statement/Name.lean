import QueryAudit.Proofs.Statement.Ordinary

/-!
# Names in a text

A name of letters, digits and underscores is read as one word (`tokenize_name`), unless more
of a word follows it, or a quote.  A quote matters since the first letter of the name may be
all of it, and some letters open a string in front of a quote.
-/

namespace QueryAudit.Statement

open Sql Text

/-- A letter is no blank, opens no quotes by itself, and may start a word. -/
theorem starts_of_isAlpha {c : Char} (h : c.isAlpha = true) :
    isBlank c = false ∧ c.toUpper ∉ ['"', '\x60', '\''] ∧ isAlphabetic c = true := by
  have hall : ∀ n < 123, (Char.ofNat n).isAlpha = true → isBlank (Char.ofNat n) = false ∧
      (Char.ofNat n).toUpper ∉ ['"', '\x60', '\''] ∧ isAlphabetic (Char.ofNat n) = true := by
    decide +kernel
  obtain ⟨_, hhigh⟩ := toNat_of_isAlpha h
  have hplace := hall c.toNat (by omega)
  rw [Char.ofNat_toNat] at hplace
  exact hplace h

/-- A letter without a quote behind it opens no string. -/
theorem opening?_eq_none_of_isAlpha {c : Char} {s : List Char} (hc : c.isAlpha = true)
    (hs : ∀ d ∈ s.head?, d ∉ ['\'', '"', '&']) : opening? c s = none := by
  obtain ⟨_, hquote, _⟩ := starts_of_isAlpha hc
  unfold opening?
  split
  case h_1 h | h_2 h | h_3 h => exact absurd (by rw [h]; decide) hquote
  case h_12 => rfl
  all_goals exact absurd (by decide) (hs _ rfl)

/-- The letters, digits and underscores of a name are parts of a word, and none is a quote. -/
theorem isWordPart_of_name {c : Char} (h : (c.isAlphanum || c == '_') = true) :
    isWordPart c = true ∧ c ∉ ['\'', '"', '&'] := by
  constructor
  · rw [Char.isAlphanum, Bool.or_eq_true, Bool.or_eq_true] at h
    rcases h with (halpha | hdigit) | hunder
    · simp [isWordPart, (starts_of_isAlpha halpha).2.2]
    · simp [isWordPart, hdigit]
    · simp [isWordPart, hunder]
  · intro hmem
    simp only [List.mem_cons, List.not_mem_nil, or_false] at hmem
    rcases hmem with rfl | rfl | rfl <;> cases h

/-- **A name is one word** if neither more of a word nor a quote follows. -/
theorem tokenize_name {name rest : List Char} (h : isOrdinaryName name = true)
    (hstop : StopsAt isWordPart rest) (hquote : ∀ d ∈ rest.head?, d ∉ ['\'', '"', '&']) :
    tokenize (name ++ rest) = (tokenize rest).map (.word name :: ·) := by
  cases name with
  | nil => cases h
  | cons c name =>
      rw [isOrdinaryName, Bool.and_eq_true, List.all_eq_true] at h
      obtain ⟨hfirst, hparts⟩ := h
      obtain ⟨hblank, _, halphabetic⟩ := starts_of_isAlpha hfirst
      have hopens : opening? c (name ++ rest) = none := by
        refine opening?_eq_none_of_isAlpha hfirst ?_
        cases name with
        | nil => exact hquote
        | cons d name =>
            intro x hx
            obtain rfl : d = x := Option.some.inj hx
            exact (isWordPart_of_name (hparts d List.mem_cons_self)).2
      have hword : ∀ d ∈ name, isWordPart d = true :=
        fun d hd => (isWordPart_of_name (hparts d hd)).1
      have hread : scan c (name ++ rest) = some (.word (c :: name), rest) := by
        have hstart : isWordStart c = true := by simp [isWordStart, halphabetic]
        rw [scan, if_neg (by simp [hblank]), hopens]
        simp only [if_pos hstart, wordFrom, takeWhile_append_of_stopsAt hword hstop,
          dropWhile_append_of_stopsAt hword hstop]
        rfl
      exact tokenize_cons_some hread

end QueryAudit.Statement
