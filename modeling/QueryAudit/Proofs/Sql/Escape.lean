import QueryAudit.Proofs.Sql.Delimited
import QueryAudit.Sql.Escape

/-!
# What closes a string with escapes

An escape takes characters from a fixed number of places and looks at no others,
except that a short run of digits is ended by the character behind it.  Inside a
string that character is at the latest the closing quote, so a string with
escapes is read the same in front of every text that does not double its quote.
-/

namespace QueryAudit.Sql

open Text

/-- A code point reads the same in front of every text. -/
theorem codePoint_steady {width : Nat} {s rest : List Char} {c : Char}
    (h : codePoint width s = some (c, rest)) :
    ∃ a, a ≠ [] ∧ s = a ++ rest ∧ ∀ v, codePoint width (a ++ v) = some (c, v) := by
  unfold codePoint at h
  split at h
  · next hw =>
      obtain ⟨code, hcode, h⟩ := Option.bind_eq_some_iff.mp h
      obtain ⟨d, hd, h⟩ := Option.map_eq_some_iff.mp h
      simp only [Prod.mk.injEq] at h
      obtain ⟨rfl, rfl⟩ := h
      refine ⟨s.take width, ?_, (List.take_append_drop width s).symm, ?_⟩
      · intro hnil
        simp [hnil, hexNumber?] at hcode
      · intro v
        have htake : (s.take width ++ v).take width = s.take width := by
          rw [List.take_append_of_le_length (Nat.le_of_eq hw.symm), List.take_take,
            Nat.min_self]
        have hdrop : (s.take width ++ v).drop width = v := by
          rw [List.drop_append_of_le_length (Nat.le_of_eq hw.symm),
            List.drop_eq_nil_of_le (Nat.le_of_eq hw), List.nil_append]
        rw [codePoint, htake, if_pos hw, hcode, hdrop]
        simp [hd]
  · simp at h

/-- A code point with a sign reads the same in front of every text. -/
theorem signedCodePoint_steady {width : Nat} {s rest : List Char} {c : Char}
    (h : signedCodePoint width s = some (c, rest)) :
    ∃ a, a ≠ [] ∧ s = a ++ rest ∧ ∀ v, signedCodePoint width (a ++ v) = some (c, v) := by
  unfold signedCodePoint at h
  split at h
  · obtain ⟨a, _, rfl, hread⟩ := codePoint_steady h
    exact ⟨'+' :: a, by simp, rfl, hread⟩
  · next hplus =>
      obtain ⟨a, ha, rfl, hread⟩ := codePoint_steady h
      obtain ⟨d, a, rfl⟩ := List.exists_cons_of_ne_nil ha
      have hd : d ≠ '+' := fun hd => hplus (a ++ rest) (by rw [hd]; rfl)
      refine ⟨d :: a, ha, rfl, ?_⟩
      intro v
      simpa [signedCodePoint, hd] using hread v

/-- A few digits, and what is read from them, are the same in front of a text that
starts as before. -/
theorem digits_steady {n : Nat} {p : Char → Bool} {s v : List Char}
    (hv : v.head? = (s.drop ((s.take n).takeWhile p).length).head?) :
    let digits := (s.take n).takeWhile p
    s = digits ++ s.drop digits.length ∧
      ((digits ++ v).take n).takeWhile p = digits ∧ (digits ++ v).drop digits.length = v := by
  have hprefix : (s.take n).takeWhile p <+: s :=
    (List.takeWhile_prefix p).trans (List.take_prefix n s)
  have hs : s = (s.take n).takeWhile p ++ s.drop ((s.take n).takeWhile p).length :=
    (List.prefix_iff_eq_append.mp hprefix).symm
  exact ⟨hs, takeWhile_take_append rfl hs hv, by simp⟩

/-- Hexadecimal digits make a number in any base, from any start. -/
theorem ofDigits?_isSome {base start : Nat} {s : List Char}
    (h : ∀ c ∈ s, isHexDigit c = true) : (ofDigits? base start s).isSome := by
  induction s generalizing start with
  | nil => rfl
  | cons c s ih =>
      obtain ⟨d, hd⟩ := Option.isSome_iff_exists.mp (h c List.mem_cons_self)
      rw [ofDigits?, hd]
      exact ih fun c hc => h c (List.mem_cons_of_mem _ hc)

/-- Only a text without digits is no number. -/
theorem hexNumber?_eq_none {s : List Char} (hs : ∀ c ∈ s, isHexDigit c = true)
    (h : hexNumber? s = none) : s = [] := by
  unfold hexNumber? at h
  split at h
  · next he => exact List.isEmpty_iff.mp he
  · have hsome : (ofDigits? 16 0 s).isSome := ofDigits?_isSome hs
    rw [h] at hsome
    cases hsome

/-- An octal digit opens an escape of up to three octal digits. -/
theorem unescape_octal {c : Char} (hc : isOctalDigit c = true) (s : List Char) :
    unescape c s =
      ((ofDigits? 8 0 (c :: (s.take 2).takeWhile isOctalDigit)).bind asciiOfCode?).map
        fun d => (d, s.drop ((s.take 2).takeWhile isOctalDigit).length) := by
  unfold unescape
  split
  case h_9 => rw [if_pos hc]
  all_goals exact absurd hc (by decide)

/-- An escape reads the same in front of every text that starts as before. -/
theorem unescape_steady {c d : Char} {s rest : List Char}
    (h : unescape c s = some (d, rest)) :
    ∃ a, s = a ++ rest ∧ ∀ v, v.head? = rest.head? → unescape c (a ++ v) = some (d, v) := by
  unfold unescape at h
  split at h
  case h_6 =>
    obtain ⟨a, _, ha, hread⟩ := signedCodePoint_steady h
    exact ⟨a, ha, fun v _ => by simpa [unescape] using hread v⟩
  case h_7 =>
    obtain ⟨a, _, ha, hread⟩ := signedCodePoint_steady h
    exact ⟨a, ha, fun v _ => by simpa [unescape] using hread v⟩
  case h_8 =>
    dsimp only at h
    split at h
    · next hnone =>
        simp only [Option.some.injEq, Prod.mk.injEq] at h
        obtain ⟨rfl, rfl⟩ := h
        have hnil := hexNumber?_eq_none (fun c hc => List.mem_takeWhile_imp hc) hnone
        refine ⟨[], rfl, ?_⟩
        intro v hv
        have hv' : (v.take 2).takeWhile isHexDigit = [] := takeWhile_take_append hnil rfl hv
        simp only [List.nil_append, unescape, hv']
        rfl
    · next code hcode =>
        obtain ⟨e, he, h⟩ := Option.map_eq_some_iff.mp h
        simp only [Prod.mk.injEq] at h
        obtain ⟨rfl, rfl⟩ := h
        refine ⟨_, (digits_steady rfl).1, ?_⟩
        intro v hv
        obtain ⟨_, hdigits, hdrop⟩ := digits_steady hv
        simp [unescape, hdigits, hdrop, hcode, he]
  case h_9 =>
    split at h
    · next hoctal =>
        obtain ⟨e, he, h⟩ := Option.map_eq_some_iff.mp h
        simp only [Prod.mk.injEq] at h
        obtain ⟨rfl, rfl⟩ := h
        refine ⟨_, (digits_steady rfl).1, ?_⟩
        intro v hv
        obtain ⟨_, hdigits, hdrop⟩ := digits_steady hv
        rw [unescape_octal hoctal, hdigits, hdrop, he]
        rfl
    · next hoctal =>
        simp only [Option.some.injEq, Prod.mk.injEq] at h
        obtain ⟨rfl, rfl⟩ := h
        refine ⟨[], rfl, fun v hv => ?_⟩
        clear hv
        unfold unescape
        split <;> simp_all
  all_goals
    simp only [Option.some.injEq, Prod.mk.injEq] at h
    obtain ⟨rfl, rfl⟩ := h
    exact ⟨[], rfl, fun v _ => rfl⟩

/-! ## Strings with escapes -/

/-- A quote that is not doubled closes an escaped string. -/
theorem escapedString_close {rest : List Char} (h : rest.head? ≠ some '\'') :
    escapedString ('\'' :: rest) = some ([], rest) := by
  cases rest with
  | nil => simp [escapedString]
  | cons d rest =>
      have hd : d ≠ '\'' := by simpa using h
      simp [escapedString, hd]

/-- An escape adds the character that it stands for. -/
theorem escapedString_escape {c d : Char} {s rest : List Char}
    (h : unescape c s = some (d, rest)) (hd : d ≠ '\x00') :
    escapedString ('\\' :: c :: s) = (escapedString rest).prepend [d] := by
  rw [escapedString]
  split <;> simp_all

/-- Any character but the quote and the backslash is read for itself. -/
theorem escapedString_other {c : Char} (hq : c ≠ '\'') (hb : c ≠ '\\') (s : List Char) :
    escapedString (c :: s) = (escapedString s).prepend [c] := by
  cases s <;> simp [escapedString, hq, hb]

/-- An escaped string reads the same in front of every text that does not double its
last quote. -/
theorem escapedString_steady {s content rest : List Char}
    (h : escapedString s = some (content, rest)) :
    ∃ a, a ≠ [] ∧ s = a ++ rest ∧
      ∀ v, KeepsOff '\'' rest v → escapedString (a ++ v) = some (content, v) := by
  fun_induction escapedString s generalizing content with
  | case1 => simp at h
  | case2 s ih =>
      obtain ⟨c, hc, rfl⟩ := Delimited.prepend_eq_some_iff.mp h
      obtain ⟨a, _, rfl, hread⟩ := ih hc
      refine ⟨'\'' :: '\'' :: a, by simp, rfl, ?_⟩
      intro v hv
      rw [List.cons_append, List.cons_append, escapedString, hread v hv]
      rfl
  | case3 s hs =>
      simp only [Option.some.injEq, Prod.mk.injEq] at h
      obtain ⟨rfl, rfl⟩ := h
      have hne : s.head? ≠ some '\'' := by
        intro hhead
        obtain ⟨t, rfl⟩ := List.head?_eq_some_iff.mp hhead
        exact hs t rfl
      exact ⟨['\''], by simp, rfl, fun v hv => escapedString_close (hv hne)⟩
  | case4 => simp at h
  | case5 => simp at h
  | case6 c s d t hread hd _ ih =>
      obtain ⟨e, he, rfl⟩ := Delimited.prepend_eq_some_iff.mp h
      obtain ⟨a, ha, rfl, hrest⟩ := ih he
      obtain ⟨b, rfl, hescape⟩ := unescape_steady hread
      obtain ⟨f, a, rfl⟩ := List.exists_cons_of_ne_nil ha
      refine ⟨'\\' :: c :: (b ++ (f :: a)), by simp, by simp, ?_⟩
      intro v hv
      have hc := hescape (f :: a ++ v) rfl
      rw [List.cons_append, List.cons_append, List.append_assoc, escapedString_escape hc hd,
        hrest v hv]
      rfl
  | case7 c s h1 h2 h3 ih =>
      obtain ⟨d, hd, rfl⟩ := Delimited.prepend_eq_some_iff.mp h
      have hslash : c ≠ '\\' := by
        intro heq
        subst heq
        cases s with
        | nil => simp [escapedString] at hd
        | cons e s => exact h3 e s rfl rfl
      obtain ⟨a, _, rfl, hread⟩ := ih hd
      refine ⟨c :: a, by simp, rfl, ?_⟩
      intro v hv
      rw [List.cons_append, escapedString_other h2 hslash, hread v hv]
      rfl

/-- A code point escape reads the same in front of every text. -/
theorem unicodeEscape_steady {s rest : List Char} {c : Char}
    (h : unicodeEscape s = some (c, rest)) :
    ∃ a, s = a ++ rest ∧ ∀ v, unicodeEscape (a ++ v) = some (c, v) := by
  unfold unicodeEscape at h
  split at h
  · next t =>
      simp only [Option.some.injEq, Prod.mk.injEq] at h
      obtain ⟨rfl, rfl⟩ := h
      exact ⟨['\\'], rfl, fun v => rfl⟩
  · obtain ⟨a, _, rfl, hread⟩ := codePoint_steady h
    exact ⟨'+' :: a, rfl, hread⟩
  · next hslash hplus =>
      obtain ⟨a, ha, rfl, hread⟩ := codePoint_steady h
      obtain ⟨d, a, rfl⟩ := List.exists_cons_of_ne_nil ha
      have h1 : d ≠ '\\' := fun hd => hslash (a ++ rest) (by rw [hd]; rfl)
      have h2 : d ≠ '+' := fun hd => hplus (a ++ rest) (by rw [hd]; rfl)
      refine ⟨d :: a, rfl, ?_⟩
      intro v
      simpa [unicodeEscape, h1, h2] using hread v

/-- A quote that is not doubled closes a Unicode string. -/
theorem unicodeString_close {rest : List Char} (h : rest.head? ≠ some '\'') :
    unicodeString ('\'' :: rest) = some ([], rest) := by
  cases rest with
  | nil => simp [unicodeString]
  | cons d rest =>
      have hd : d ≠ '\'' := by simpa using h
      simp [unicodeString, hd]

/-- An escape adds the character that it stands for. -/
theorem unicodeString_escape {c : Char} {s rest : List Char}
    (h : unicodeEscape s = some (c, rest)) :
    unicodeString ('\\' :: s) = (unicodeString rest).prepend [c] := by
  rw [unicodeString]
  split <;> simp_all

/-- Any character but the quote and the backslash is read for itself. -/
theorem unicodeString_other {c : Char} (hq : c ≠ '\'') (hb : c ≠ '\\') (s : List Char) :
    unicodeString (c :: s) = (unicodeString s).prepend [c] := by
  rw [unicodeString]
  · exact fun t hc _ => hq hc
  · exact hq
  · exact hb

/-- A Unicode string reads the same in front of every text that does not double its
last quote. -/
theorem unicodeString_steady {s content rest : List Char}
    (h : unicodeString s = some (content, rest)) :
    Steady unicodeString s content rest (KeepsOff '\'' rest) := by
  fun_induction unicodeString s generalizing content with
  | case1 => simp at h
  | case2 s ih =>
      obtain ⟨c, hc, rfl⟩ := Delimited.prepend_eq_some_iff.mp h
      exact (ih hc).prepend ['\'', '\''] fun t => by simp [unicodeString]
  | case3 s hs =>
      simp only [Option.some.injEq, Prod.mk.injEq] at h
      obtain ⟨rfl, rfl⟩ := h
      have hne : s.head? ≠ some '\'' := by
        intro hhead
        obtain ⟨t, rfl⟩ := List.head?_eq_some_iff.mp hhead
        exact hs t rfl
      exact ⟨['\''], rfl, fun v hv => unicodeString_close (hv hne)⟩
  | case4 => simp at h
  | case5 s d t hread _ ih =>
      obtain ⟨e, he, rfl⟩ := Delimited.prepend_eq_some_iff.mp h
      obtain ⟨b, rfl, hescape⟩ := unicodeEscape_steady hread
      obtain ⟨a, rfl, hrest⟩ := ih he
      refine ⟨'\\' :: (b ++ a), by simp, ?_⟩
      intro v hv
      rw [List.cons_append, List.append_assoc, unicodeString_escape (hescape (a ++ v)),
        hrest v hv]
      rfl
  | case6 c s h1 h2 h3 ih =>
      obtain ⟨d, hd, rfl⟩ := Delimited.prepend_eq_some_iff.mp h
      exact (ih hd).prepend [c] fun t =>
        unicodeString_other h2 (fun hc => h3 hc) t

end QueryAudit.Sql
