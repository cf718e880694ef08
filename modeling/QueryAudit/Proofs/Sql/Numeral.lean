import QueryAudit.Proofs.Sql.Delimited
import QueryAudit.Sql.Numeral

/-!
# What ends a number

A number is a row of optional parts.  Each part ends where its class of
characters stops, and a missing part is missing because the text does not start
with it.  So a number reads the same in front of two texts when the second
starts with nothing that would lengthen a number, unless the first does too:
this is `Follows`, together with a word on exponents, which are noticed only
three characters later.
-/

namespace QueryAudit.Sql

open Text

/-- A class of characters by which a token can be lengthened.  No class holds the
space, the semicolon, the question mark or the less sign, and none tells the capital of a
prefix letter from the small one. -/
structure IsClass (p : Char → Bool) : Prop where
  space : p ' ' = false
  semicolon : p ';' = false
  question : p '?' = false
  less : p '<' = false
  bytes : p 'b' = false → p 'B' = false
  raw : p 'r' = false → p 'R' = false
  unicode : p 'u' = false → p 'U' = false

/-- The second text starts with a character of a class only if the first does. -/
def Follows (r v : List Char) : Prop := ∀ p, IsClass p → StopsAt p r → StopsAt p v

/-- Nothing can be lengthened by the end of the text. -/
theorem follows_nil (r : List Char) : Follows r [] := fun p _ _ => stopsAt_nil p

/-- Only the first character counts. -/
theorem follows_of_head? {r v : List Char} (h : v.head? = r.head?) : Follows r v := by
  intro p _ hr c hc
  rw [h] at hc
  exact hr c hc

/-- A text may follow where another may, whatever stands in front of both. -/
theorem Follows.append {r v : List Char} (h : Follows r v) (a : List Char) :
    Follows (a ++ r) (a ++ v) := by
  cases a with
  | nil => exact h
  | cons c a => exact follows_of_head? rfl

/-- The classes that lengthen a number. -/
theorem isClass_isDigit : IsClass Char.isDigit :=
  ⟨by decide, by decide, by decide, by decide, by decide, by decide, by decide⟩

theorem isClass_isHexDigit : IsClass isHexDigit :=
  ⟨by decide, by decide, by decide, by decide, by decide, by decide, by decide⟩

/-- A single character is a class, apart from those that are in none. -/
theorem isClass_eq {x : Char} (h : x ∉ [' ', ';', '?', '<', 'B', 'R', 'U']) :
    IsClass (· == x) := by
  simp only [List.mem_cons, List.not_mem_nil, or_false, not_or] at h
  obtain ⟨h1, h2, h3, h4, h5, h6, h7⟩ := h
  refine ⟨?_, ?_, ?_, ?_, fun _ => ?_, fun _ => ?_, fun _ => ?_⟩
  · simpa using Ne.symm h1
  · simpa using Ne.symm h2
  · simpa using Ne.symm h3
  · simpa using Ne.symm h4
  · simpa using Ne.symm h5
  · simpa using Ne.symm h6
  · simpa using Ne.symm h7

/-- A class of one character stops at a text that does not start with it. -/
theorem stopsAt_eq_iff {x : Char} {s : List Char} :
    StopsAt (· == x) s ↔ s.head? ≠ some x := by
  cases s with
  | nil => simp [stopsAt_nil]
  | cons c s => simp [stopsAt_cons]

/-- A text starts with a given character only if the text that it follows does. -/
theorem Follows.head?_ne {r v : List Char} {x : Char} (h : Follows r v)
    (hx : x ∉ [' ', ';', '?', '<', 'B', 'R', 'U']) (hr : r.head? ≠ some x) : v.head? ≠ some x :=
  stopsAt_eq_iff.mp (h _ (isClass_eq hx) (stopsAt_eq_iff.mpr hr))

/-! ## The parts of a number -/

/-- A text without a point in front has no fraction. -/
theorem fraction_of_head?_ne {s : List Char} (h : s.head? ≠ some '.') :
    fraction s = ([], s) := by
  cases s with
  | nil => rfl
  | cons c s =>
      have hc : c ≠ '.' := by simpa using h
      simp [fraction, hc]

/-- A fraction ends where the digits stop. -/
theorem fraction_steady {s v : List Char} (h : Follows (fraction s).2 v) :
    fraction ((fraction s).1 ++ v) = ((fraction s).1, v) := by
  by_cases hs : s.head? = some '.'
  · obtain ⟨t, rfl⟩ := List.head?_eq_some_iff.mp hs
    have hv : StopsAt Char.isDigit v := h _ isClass_isDigit (stopsAt_dropWhile _ t)
    have hall : ∀ c ∈ t.takeWhile Char.isDigit, c.isDigit = true :=
      fun c hc => List.mem_takeWhile_imp hc
    simp only [fraction, List.cons_append, takeWhile_append_of_stopsAt hall hv,
      dropWhile_append_of_stopsAt hall hv]
  · rw [fraction_of_head?_ne hs] at h ⊢
    exact fraction_of_head?_ne (h.head?_ne (by decide) hs)

/-- A text without an exponent in front. -/
theorem exponent_of_fst_eq_nil {s : List Char} (h : (exponent s).1 = []) :
    exponent s = ([], s) := by
  have happ := exponent_append s
  rw [h] at happ
  exact Prod.ext h (by simpa using happ)

/-- Only `e` opens an exponent. -/
theorem exponent_of_head?_ne {s : List Char} (he : s.head? ≠ some 'e')
    (hE : s.head? ≠ some 'E') : exponent s = ([], s) := by
  cases s with
  | nil => rfl
  | cons c s =>
      have h1 : c ≠ 'e' := by simpa using he
      have h2 : c ≠ 'E' := by simpa using hE
      simp [exponent, h1, h2]

/-- A sign is one character or missing. -/
theorem sign_fst_mem (s : List Char) : (sign s).1 ∈ [[], ['+'], ['-']] := by
  unfold sign
  split <;> simp

/-- A sign, present or missing, is read the same in front of every digit. -/
theorem sign_append_digit {sg : List Char} (hsg : sg ∈ [[], ['+'], ['-']]) {d : Char}
    (hd : d.isDigit = true) (v : List Char) : sign (sg ++ d :: v) = (sg, d :: v) := by
  have hne {x : Char} (hx : x.isDigit = false) : d ≠ x := by
    intro h
    rw [h, hx] at hd
    cases hd
  simp only [List.mem_cons, List.not_mem_nil, or_false] at hsg
  rcases hsg with rfl | rfl | rfl
  · simp [sign, hne (x := '+') (by decide), hne (x := '-') (by decide)]
  · rfl
  · rfl

/-- An exponent ends where the digits stop; a text that opens none is not followed by
one that does. -/
theorem exponent_steady {s v : List Char} (h : Follows (exponent s).2 v)
    (he : (exponent (exponent s).2).1 = [] → (exponent v).1 = []) :
    exponent ((exponent s).1 ++ v) = ((exponent s).1, v) := by
  by_cases hs : (exponent s).1 = []
  · have hes := exponent_of_fst_eq_nil hs
    rw [hes] at he ⊢
    exact exponent_of_fst_eq_nil (he hs)
  · cases s with
    | nil => exact absurd rfl hs
    | cons c t =>
        unfold exponent at h hs ⊢
        dsimp only at h hs ⊢
        split at h
        · next hc =>
            rw [if_pos hc]
            obtain ⟨d, ds, hds⟩ := List.exists_cons_of_ne_nil hc.2
            have hd : d.isDigit = true :=
              List.mem_takeWhile_imp (hds ▸ List.mem_cons_self : d ∈ (sign t).2.takeWhile _)
            have hall : ∀ c ∈ (sign t).2.takeWhile Char.isDigit, c.isDigit = true :=
              fun c hc => List.mem_takeWhile_imp hc
            have hv : StopsAt Char.isDigit v := h _ isClass_isDigit (stopsAt_dropWhile _ _)
            have hsign : sign ((sign t).1 ++ ((sign t).2.takeWhile Char.isDigit ++ v)) =
                ((sign t).1, (sign t).2.takeWhile Char.isDigit ++ v) := by
              rw [hds]
              exact sign_append_digit (sign_fst_mem t) hd (ds ++ v)
            simp only [List.cons_append, List.append_assoc, hsign,
              takeWhile_append_of_stopsAt hall hv, dropWhile_append_of_stopsAt hall hv, if_pos hc]
        · next hc => exact absurd (by rw [if_neg hc]) hs

/-- Only `L` is a mark. -/
theorem longMark_of_head?_ne {s : List Char} (h : s.head? ≠ some 'L') :
    longMark s = ([], s) := by
  cases s with
  | nil => rfl
  | cons c s =>
      have hc : c ≠ 'L' := by simpa using h
      simp [longMark, hc]

/-- A mark is read in front of every text that does not start with one. -/
theorem longMark_steady {s v : List Char} (h : Follows (longMark s).2 v) :
    longMark ((longMark s).1 ++ v) = ((longMark s).1, v) := by
  by_cases hs : s.head? = some 'L'
  · obtain ⟨t, rfl⟩ := List.head?_eq_some_iff.mp hs
    rfl
  · rw [longMark_of_head?_ne hs] at h ⊢
    exact longMark_of_head?_ne (h.head?_ne (by decide) hs)

/-- A text that may stand behind a numeral in place of another: it starts with nothing
new, and behind a number it opens no exponent where there was none. -/
structure EndsNumeral (token : Token) (r v : List Char) : Prop where
  follows : Follows r v
  exponent : token.isNumber = true → (exponent r).1 = [] → (Sql.exponent v).1 = []

/-- Exponent and mark end where the number did. -/
theorem finishNumber_steady (digits s : List Char) :
    Steady (fun t => some (finishNumber digits t)) s (finishNumber digits s).1
      (finishNumber digits s).2
      (EndsNumeral (finishNumber digits s).1 (finishNumber digits s).2) := by
  have hmark : (longMark (exponent s).2).1 ++ (finishNumber digits s).2 = (exponent s).2 :=
    longMark_append _
  refine ⟨(exponent s).1 ++ (longMark (exponent s).2).1, ?_, ?_⟩
  · rw [List.append_assoc, hmark, exponent_append]
  · intro v h
    have hfollows : Follows (exponent s).2 ((longMark (exponent s).2).1 ++ v) := by
      have happ := h.follows.append (longMark (exponent s).2).1
      rwa [hmark] at happ
    have hexp : (exponent (exponent s).2).1 = [] →
        (exponent ((longMark (exponent s).2).1 ++ v)).1 = [] := by
      intro hnone
      cases hl : (longMark (exponent s).2).1 with
      | nil =>
          rw [hl, List.nil_append] at hmark
          rw [← hmark] at hnone
          exact h.exponent rfl hnone
      | cons c l =>
          have hc : c = 'L' := by
            unfold longMark at hl
            split at hl
            · exact (List.cons.inj hl).1.symm
            · cases hl
          rw [hc, List.cons_append, exponent_of_head?_ne (by simp) (by simp)]
    have hlong : longMark ((longMark (exponent s).2).1 ++ v) = ((longMark (exponent s).2).1, v) :=
      longMark_steady h.follows
    have hexponent : exponent ((exponent s).1 ++ (longMark (exponent s).2).1 ++ v) =
        ((exponent s).1, (longMark (exponent s).2).1 ++ v) := by
      rw [List.append_assoc]
      exact exponent_steady hfollows hexp
    simp only [finishNumber, hexponent, hlong]

/-! ## Whole numbers -/

/-- A number that starts with a digit, where no hexadecimal string starts. -/
theorem numeral_of_digit {c : Char} {s : List Char} (hc : c ≠ '.')
    (hx : ¬ (c = '0' ∧ s.head? = some 'x')) :
    numeral c s = finishNumber
      (c :: s.takeWhile Char.isDigit ++ (fraction (s.dropWhile Char.isDigit)).1)
      (fraction (s.dropWhile Char.isDigit)).2 := by
  unfold numeral
  split
  · exact absurd rfl hc
  · next t => exact absurd ⟨rfl, rfl⟩ hx
  · rfl

/-- A point is a symbol, or it starts a number with the digits behind it. -/
theorem numeral_point_steady (s : List Char) :
    Steady (fun t => some (numeral '.' t)) s (numeral '.' s).1 (numeral '.' s).2
      (EndsNumeral (numeral '.' s).1 (numeral '.' s).2) := by
  by_cases hs : s.takeWhile Char.isDigit = []
  · have hnum : numeral '.' s = (.symbol ['.'], s) := by simp [numeral, hs]
    rw [hnum]
    refine ⟨[], rfl, ?_⟩
    intro v hv
    have hstop := hv.follows _ isClass_isDigit (takeWhile_eq_nil_iff_stopsAt.mp hs)
    simp [numeral, takeWhile_eq_nil_iff_stopsAt.mpr hstop]
  · have hnum : numeral '.' s =
        finishNumber ('.' :: s.takeWhile Char.isDigit) (s.dropWhile Char.isDigit) := by
      simp only [numeral, if_neg hs]
    rw [hnum]
    obtain ⟨a, ha, hread⟩ :=
      finishNumber_steady ('.' :: s.takeWhile Char.isDigit) (s.dropWhile Char.isDigit)
    refine ⟨s.takeWhile Char.isDigit ++ a, ?_, ?_⟩
    · rw [List.append_assoc, ← ha, List.takeWhile_append_dropWhile]
    · intro v hv
      have hstop : StopsAt Char.isDigit (a ++ v) :=
        hv.follows.append a _ isClass_isDigit (ha ▸ stopsAt_dropWhile _ s)
      have hall : ∀ c ∈ s.takeWhile Char.isDigit, c.isDigit = true :=
        fun c hc => List.mem_takeWhile_imp hc
      simp only [numeral, List.append_assoc, takeWhile_append_of_stopsAt hall hstop,
        dropWhile_append_of_stopsAt hall hstop, if_neg hs]
      exact hread v hv

/-- A zero with an `x` behind it opens a string of hexadecimal digits. -/
theorem numeral_hex_steady (s : List Char) :
    Steady (fun t => some (numeral '0' t)) ('x' :: s) (numeral '0' ('x' :: s)).1
      (numeral '0' ('x' :: s)).2
      (EndsNumeral (numeral '0' ('x' :: s)).1 (numeral '0' ('x' :: s)).2) := by
  refine ⟨'x' :: s.takeWhile isHexDigit, by simp [numeral], ?_⟩
  intro v hv
  have hstop := hv.follows _ isClass_isHexDigit (stopsAt_dropWhile _ s)
  have hall : ∀ c ∈ s.takeWhile isHexDigit, isHexDigit c = true :=
    fun c hc => List.mem_takeWhile_imp hc
  simp only [List.cons_append, numeral, takeWhile_append_of_stopsAt hall hstop,
    dropWhile_append_of_stopsAt hall hstop]

/-- Any other digit starts a number. -/
theorem numeral_digit_steady {c : Char} {s : List Char} (hc : c ≠ '.')
    (hx : ¬ (c = '0' ∧ s.head? = some 'x')) :
    Steady (fun t => some (numeral c t)) s (numeral c s).1 (numeral c s).2
      (EndsNumeral (numeral c s).1 (numeral c s).2) := by
  have hall : ∀ c ∈ s.takeWhile Char.isDigit, c.isDigit = true :=
    fun c hc => List.mem_takeWhile_imp hc
  have hsplit := List.takeWhile_append_dropWhile (p := Char.isDigit) (l := s)
  have hstop := stopsAt_dropWhile Char.isDigit s
  have happ := fraction_append (s.dropWhile Char.isDigit)
  have hpart := fun v => fraction_steady (s := s.dropWhile Char.isDigit) (v := v)
  rw [numeral_of_digit hc hx]
  generalize s.takeWhile Char.isDigit = ds at *
  generalize s.dropWhile Char.isDigit = t at *
  generalize hf : fraction t = f at *
  obtain ⟨point, t'⟩ := f
  obtain ⟨a, ha, hread⟩ := finishNumber_steady (c :: ds ++ point) t'
  simp only at *
  generalize finishNumber (c :: ds ++ point) t' = n at *
  have hs : s = ds ++ (point ++ (a ++ n.2)) := by rw [← ha, happ, hsplit]
  refine ⟨ds ++ (point ++ a), by simpa using hs, ?_⟩
  intro v hv
  have htail : Follows t' (a ++ v) := by
    rw [ha]
    exact hv.follows.append a
  have hdigits : StopsAt Char.isDigit (point ++ (a ++ v)) := by
    have h := htail.append point
    rw [happ] at h
    exact h _ isClass_isDigit hstop
  have hx' : ¬ (c = '0' ∧ (ds ++ (point ++ (a ++ v))).head? = some 'x') := by
    intro h
    obtain ⟨hzero, hhead⟩ := h
    refine (((hv.follows.append a).append point).append ds).head?_ne (by decide) ?_ hhead
    intro hhead'
    exact hx ⟨hzero, hs ▸ hhead'⟩
  show some (numeral c (ds ++ (point ++ a) ++ v)) = some (n.1, v)
  rw [List.append_assoc, List.append_assoc, numeral_of_digit hc hx',
    takeWhile_append_of_stopsAt hall hdigits, dropWhile_append_of_stopsAt hall hdigits,
    hpart _ htail]
  exact hread v hv

/-- **A numeral reads the same** in front of every text that does not lengthen it. -/
theorem numeral_steady (c : Char) (s : List Char) :
    Steady (fun t => some (numeral c t)) s (numeral c s).1 (numeral c s).2
      (EndsNumeral (numeral c s).1 (numeral c s).2) := by
  by_cases hpoint : c = '.'
  · subst hpoint
    exact numeral_point_steady s
  · by_cases hx : c = '0' ∧ s.head? = some 'x'
    · obtain ⟨rfl, hs⟩ := hx
      obtain ⟨t, rfl⟩ := List.head?_eq_some_iff.mp hs
      exact numeral_hex_steady t
    · exact numeral_digit_steady hpoint hx

end QueryAudit.Sql
