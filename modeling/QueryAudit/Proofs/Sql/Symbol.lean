import QueryAudit.Proofs.Sql.Numeral
import QueryAudit.Sql.Symbol

/-!
# What ends a word, a placeholder and an operator

Words and placeholders end where their class of characters stops.  An operator
ends where no longer one goes on: the operators are closed under beginnings of at
least two characters, so the first character behind an operator decides.

A single `#`, `@` or `@@` is the exception among symbols.  It is one only at the
end of the text or in front of a space or a quote, and starts a word in front of
almost anything else.
-/

namespace QueryAudit.Sql

open Text

theorem isClass_isWordPart : IsClass isWordPart :=
  ⟨by decide, by decide, by decide, by decide, by decide, by decide, by decide⟩

theorem isClass_isNumeric : IsClass isNumeric :=
  ⟨by decide, by decide, by decide, by decide, by decide, by decide, by decide⟩

/-- The characters of a tag behind a dollar sign. -/
def isTagChar (c : Char) : Bool := isAlphanumeric c || c == '_'

theorem isClass_isTagChar : IsClass isTagChar :=
  ⟨by decide, by decide, by decide, by decide, by decide, by decide, by decide⟩

/-- A word ends where no character of a word stands. -/
theorem wordFrom_steady (start s : List Char) :
    Steady (fun t => some (wordFrom start t)) s (wordFrom start s).1 (wordFrom start s).2
      (Follows (wordFrom start s).2) := by
  refine ⟨s.takeWhile isWordPart, List.takeWhile_append_dropWhile.symm, ?_⟩
  intro v hv
  have hall : ∀ c ∈ s.takeWhile isWordPart, isWordPart c = true :=
    fun c hc => List.mem_takeWhile_imp hc
  have hstop := hv _ isClass_isWordPart (stopsAt_dropWhile _ s)
  simp only [wordFrom, takeWhile_append_of_stopsAt hall hstop,
    dropWhile_append_of_stopsAt hall hstop]

/-- A placeholder ends where no numeric character stands. -/
theorem questionToken_steady (s : List Char) :
    Steady (fun t => some (questionToken t)) s (questionToken s).1 (questionToken s).2
      (Follows (questionToken s).2) := by
  refine ⟨s.takeWhile isNumeric, List.takeWhile_append_dropWhile.symm, ?_⟩
  intro v hv
  have hall : ∀ c ∈ s.takeWhile isNumeric, isNumeric c = true :=
    fun c hc => List.mem_takeWhile_imp hc
  have hstop := hv _ isClass_isNumeric (stopsAt_dropWhile _ s)
  simp only [questionToken, takeWhile_append_of_stopsAt hall hstop,
    dropWhile_append_of_stopsAt hall hstop]

/-! ## Operators -/

/-- A beginning of an operator is an operator, unless it is a single character. -/
theorem take_mem_operators {o : List Char} (ho : o ∈ operators) {k : Nat} (hk : 2 ≤ k) :
    o.take k ∈ operators := by
  have hall : ∀ o ∈ operators, o.length ≤ 4 ∧ ∀ k ∈ [2, 3, 4], o.take k ∈ operators := by
    decide
  obtain ⟨hlen, htake⟩ := hall o ho
  by_cases hk4 : k ≤ 4
  · exact htake k (by simp only [List.mem_cons, List.not_mem_nil, or_false]; omega)
  · rw [List.take_of_length_le (by omega)]
    exact ho

/-- Operators have at least two characters. -/
theorem two_le_length_of_mem_operators {o : List Char} (ho : o ∈ operators) :
    2 ≤ o.length := by
  have hall : ∀ o ∈ operators, 2 ≤ o.length := by decide
  exact hall o ho

/-- Longer operators come first. -/
theorem operators_pairwise : operators.Pairwise fun o o' => ¬ o <+: o' := by
  decide

/-- The operator that is found is the longest that fits. -/
theorem find?_operators_eq_some_iff {s op : List Char} :
    operators.find? (·.isPrefixOf s) = some op ↔
      op ∈ operators ∧ op <+: s ∧ ∀ o ∈ operators, o <+: s → o <+: op := by
  have hlongest {op : List Char} (h : operators.find? (·.isPrefixOf s) = some op) :
      op ∈ operators ∧ op <+: s ∧ ∀ o ∈ operators, o <+: s → o <+: op := by
    obtain ⟨hop, before, after, hsplit, hbefore⟩ := List.find?_eq_some_iff_append.mp h
    have hprefix : op <+: s := List.isPrefixOf_iff_prefix.mp hop
    refine ⟨by rw [hsplit]; simp, hprefix, ?_⟩
    intro o ho hos
    rw [hsplit, List.mem_append, List.mem_cons] at ho
    rcases ho with ho | rfl | ho
    · have hno := hbefore o ho
      rw [List.isPrefixOf_iff_prefix.mpr hos] at hno
      cases hno
    · exact List.prefix_refl _
    · have hpair := operators_pairwise
      rw [hsplit, List.pairwise_append, List.pairwise_cons] at hpair
      have hnot := hpair.2.1.1 o ho
      exact (List.prefix_or_prefix_of_prefix hos hprefix).resolve_right hnot
  refine ⟨hlongest, ?_⟩
  intro h
  obtain ⟨hop, hprefix, hmax⟩ := h
  cases hfind : operators.find? (·.isPrefixOf s) with
  | none =>
      have hno := List.find?_eq_none.mp hfind op hop
      exact absurd (List.isPrefixOf_iff_prefix.mpr hprefix) hno
  | some op' =>
      obtain ⟨hop', hprefix', hmax'⟩ := hlongest hfind
      have hle := hmax op' hop' hprefix'
      have hge := hmax' op hop hprefix
      rw [hle.eq_of_length_le hge.length_le]

/-- Only `<<` has a less sign behind another character at its end. -/
theorem eq_of_concat_less_mem_operators {m : List Char} (h : m ++ ['<'] ∈ operators) :
    m = ['<'] := by
  have hall : ∀ o ∈ operators, o.getLast? = some '<' → o = ['<'] ++ ['<'] := by decide
  exact List.append_cancel_right (hall _ h (by simp))

/-- **Operators do not grow.**  If the operators that a text starts with all lie in
its part `m`, so do those of a text that goes on differently behind `m`, but starts
there with nothing new. -/
theorem operators_prefix_of_follows {m r v : List Char} (hm : m ≠ []) (hv : Follows r v)
    (hless : m = ['<'] → r.head? ≠ some '<' → v.head? ≠ some '<')
    (hr : ∀ o ∈ operators, o <+: m ++ r → o <+: m) :
    ∀ o ∈ operators, o <+: m ++ v → o <+: m := by
  intro o ho hov
  by_contra hno
  have hlen : 0 < m.length := List.length_pos_iff.mpr hm
  -- the operator goes on behind `m`, by a first character `x`
  have hmo : m <+: o :=
    (List.prefix_or_prefix_of_prefix hov (List.prefix_append m v)).resolve_left hno
  obtain ⟨w, rfl⟩ := hmo
  obtain ⟨x, w, rfl⟩ := List.exists_cons_of_ne_nil (l := w) (by
    intro heq
    subst heq
    exact hno (by simp))
  have hxv : v.head? = some x := by
    obtain ⟨u, hu⟩ := (List.prefix_append_right_inj m).mp hov
    rw [← hu]
    rfl
  have hshort : m ++ [x] ∈ operators := by
    have htake : (m ++ x :: w).take (m.length + 1) = m ++ [x] := by
      rw [List.take_append, List.take_of_length_le (by omega)]
      simp
    rw [← htake]
    exact take_mem_operators ho (by omega)
  have hxr : r.head? ≠ some x := by
    intro hrx
    obtain ⟨u, rfl⟩ := List.head?_eq_some_iff.mp hrx
    have hle := (hr _ hshort (by simp)).length_le
    simp only [List.length_append, List.length_singleton] at hle
    omega
  have hclass : ∀ o ∈ operators,
      o.all (fun x => x == '<' || x ∉ [' ', ';', '?', '<', 'B', 'R', 'U']) = true := by
    decide
  by_cases hlt : x = '<'
  · subst hlt
    exact hless (eq_of_concat_less_mem_operators hshort) hxr hxv
  · have hx := List.all_eq_true.mp (hclass _ hshort) x (by simp)
    rw [Bool.or_eq_true, beq_iff_eq, decide_eq_true_eq] at hx
    exact hv.head?_ne (hx.resolve_left hlt) hxr hxv

/-- An operator, or a character that starts none, ends where no longer operator goes
on. -/
theorem operator_steady (c : Char) (s : List Char) :
    Steady (fun t => some (operator c t)) s (operator c s).1 (operator c s).2
      fun v => Follows (operator c s).2 v ∧ ((operator c s).1 = .symbol ['<'] →
        (operator c s).2.head? ≠ some '<' → v.head? ≠ some '<') := by
  cases hfind : operators.find? (·.isPrefixOf (c :: s)) with
  | some op =>
      have hop : operator c s = (symbolOf op, s.drop (op.length - 1)) := by
        rw [operator, hfind]
      rw [hop]
      obtain ⟨hmem, ⟨t, ht⟩, hmax⟩ := find?_operators_eq_some_iff.mp hfind
      have hlen := two_le_length_of_mem_operators hmem
      obtain ⟨d, a, rfl⟩ := List.exists_cons_of_ne_nil (l := op) (by
        intro hnil
        simp [hnil] at hlen)
      rw [List.cons_append] at ht
      obtain ⟨rfl, rfl⟩ := List.cons.inj ht
      simp only [List.length_cons, Nat.add_sub_cancel, List.drop_left]
      refine ⟨a, rfl, ?_⟩
      intro v hv
      obtain ⟨hv, _⟩ := hv
      have hless : d :: a = ['<'] → t.head? ≠ some '<' → v.head? ≠ some '<' := by
        intro h
        rw [h] at hlen
        simp at hlen
      have hmax' := operators_prefix_of_follows (by simp) hv hless hmax
      have hfind' := find?_operators_eq_some_iff.mpr ⟨hmem, List.prefix_append _ v, hmax'⟩
      rw [List.cons_append] at hfind'
      simp [operator, hfind']
  | none =>
      have hop : operator c s = (.symbol [c], s) := by rw [operator, hfind]
      rw [hop]
      refine ⟨[], rfl, ?_⟩
      intro v hv
      obtain ⟨hv, hless⟩ := hv
      have hnone : ∀ o ∈ operators, o <+: [c] ++ s → o <+: [c] := fun o ho hos =>
        absurd (List.isPrefixOf_iff_prefix.mpr hos) (List.find?_eq_none.mp hfind o ho)
      have hless' : [c] = ['<'] → s.head? ≠ some '<' → v.head? ≠ some '<' :=
        fun hc => hless (by rw [hc])
      have hnone' := operators_prefix_of_follows (by simp) hv hless' hnone
      have hfind' : operators.find? (·.isPrefixOf (c :: v)) = none := by
        rw [List.find?_eq_none]
        intro o ho hov
        have hle := (hnone' o ho (List.isPrefixOf_iff_prefix.mp hov)).length_le
        have hlen := two_le_length_of_mem_operators ho
        simp only [List.length_singleton] at hle
        omega
      simp [operator, hfind']

/-! ## Marks -/

/-- A text that keeps a lone mark alone: the end, a space, or what stood there. -/
def KeepsLone (r v : List Char) : Prop :=
  v = [] ∨ v.head? = some ' ' ∨ v.head? = r.head?

/-- A text that keeps a mark alone is empty or starts with a character at which the
mark stood alone before. -/
theorem KeepsLone.cases {r v : List Char} (h : KeepsLone r v) :
    v = [] ∨ ∃ c w, v = c :: w ∧ (c = ' ' ∨ r.head? = some c) := by
  rcases h with h | h | h
  · exact .inl h
  · obtain ⟨w, rfl⟩ := List.head?_eq_some_iff.mp h
    exact .inr ⟨' ', w, rfl, .inl rfl⟩
  · cases v with
    | nil => exact .inl rfl
    | cons c w => exact .inr ⟨c, w, rfl, .inr h.symm⟩

/-- A number sign and any other character start a word. -/
theorem hashToken_word {c : Char} (h : c ∉ ['-', '>', ' ']) (t : List Char) :
    hashToken (c :: t) = wordFrom ['#', c] t := by
  simp only [List.mem_cons, List.not_mem_nil, or_false, not_or] at h
  obtain ⟨h1, h2, h3⟩ := h
  simp [hashToken, markedWord, h1, h2, h3]

/-- A number sign and one arrow are an operator, if no second arrow follows. -/
theorem hashToken_arrow {t : List Char} (h : t.head? ≠ some '>') :
    hashToken ('>' :: t) = (.symbol ['#', '>'], t) := by
  cases t with
  | nil => rfl
  | cons c t =>
      have hc : c ≠ '>' := by simpa using h
      simp [hashToken, hc]

/-- What starts with a number sign ends where a word or an operator would. -/
theorem hashToken_steady (s : List Char) :
    Steady (fun t => some (hashToken t)) s (hashToken s).1 (hashToken s).2
      fun v => Follows (hashToken s).2 v ∧
        ((hashToken s).1 = .symbol ['#'] → KeepsLone (hashToken s).2 v) := by
  cases s with
  | nil =>
      refine ⟨[], rfl, ?_⟩
      intro v hv
      obtain ⟨_, hlone⟩ := hv
      rcases (hlone rfl).cases with rfl | ⟨c, w, rfl, rfl | hc⟩
      · rfl
      · rfl
      · cases hc
  | cons c t =>
      by_cases hword : c ∉ ['-', '>', ' ']
      · rw [hashToken_word hword]
        have hsteady : Steady (fun t => some (hashToken t)) ([c] ++ t) _ _ _ :=
          (wordFrom_steady ['#', c] t).front fun t => congrArg some (hashToken_word hword t)
        exact hsteady.mono fun v hv => hv.1
      · simp only [List.mem_cons, List.not_mem_nil, or_false, not_not] at hword
        rcases hword with rfl | rfl | rfl
        · exact ⟨['-'], rfl, fun v _ => rfl⟩
        · by_cases harrow : t.head? = some '>'
          · obtain ⟨t, rfl⟩ := List.head?_eq_some_iff.mp harrow
            exact ⟨['>', '>'], rfl, fun v _ => rfl⟩
          · rw [hashToken_arrow harrow]
            refine ⟨['>'], rfl, ?_⟩
            intro v hv
            obtain ⟨hv, _⟩ := hv
            exact congrArg some (hashToken_arrow (hv.head?_ne (by decide) harrow))
        · refine ⟨[], rfl, ?_⟩
          intro v hv
          obtain ⟨_, hlone⟩ := hv
          rcases (hlone rfl).cases with rfl | ⟨c, w, rfl, rfl | hc⟩
          · rfl
          · rfl
          · cases hc
            rfl

/-- A number sign stands alone in front of nothing but a space. -/
theorem eq_space_of_hashToken {s r : List Char} (h : hashToken s = (.symbol ['#'], r)) :
    ∀ x ∈ r.head?, x = ' ' := by
  intro x hx
  cases s with
  | nil =>
      cases h
      cases hx
  | cons c t =>
      by_cases hword : c ∉ ['-', '>', ' ']
      · rw [hashToken_word hword] at h
        cases h
      · simp only [List.mem_cons, List.not_mem_nil, or_false, not_not] at hword
        rcases hword with rfl | rfl | rfl
        · cases h
        · by_cases harrow : t.head? = some '>'
          · obtain ⟨t, rfl⟩ := List.head?_eq_some_iff.mp harrow
            cases h
          · rw [hashToken_arrow harrow] at h
            cases h
        · cases h
          exact (Option.some.inj hx).symm

/-- An at sign stands alone in front of a space or a quote. -/
theorem atToken_lone {c : Char} (h : c ∈ [' ', '\'', '"', '\x60']) (t : List Char) :
    atToken (c :: t) = (.symbol ['@'], c :: t) := by
  simp only [List.mem_cons, List.not_mem_nil, or_false] at h
  rcases h with rfl | rfl | rfl | rfl <;> rfl

/-- An at sign and any other character start a word. -/
theorem atToken_word {c : Char} (h : c ∉ ['>', '?', '@', ' ', '\'', '"', '\x60'])
    (t : List Char) : atToken (c :: t) = wordFrom ['@', c] t := by
  simp only [List.mem_cons, List.not_mem_nil, or_false, not_or] at h
  obtain ⟨h1, h2, h3, h4, h5, h6, h7⟩ := h
  simp_all [atToken, markedWord]

/-- Two at signs and any character but a space start a word. -/
theorem atToken_doubleWord {c : Char} (h : c ≠ ' ') (t : List Char) :
    atToken ('@' :: c :: t) = wordFrom ['@', '@', c] t := by
  simp [atToken, markedWord, h]

/-- Two at signs stand alone in front of nothing but a space, and no single one is read
there. -/
theorem eq_space_of_atToken_double {s r : List Char} {mark : List Char}
    (h : atToken ('@' :: s) = (.symbol mark, r)) :
    mark = ['@', '@'] ∧ ∀ x ∈ r.head?, x = ' ' := by
  cases s with
  | nil =>
      cases h
      exact ⟨rfl, by simp⟩
  | cons c t =>
      by_cases hc : c = ' '
      · subst hc
        cases h
        exact ⟨rfl, by simp⟩
      · rw [atToken_doubleWord hc] at h
        cases h

/-- A single at sign stands alone in front of nothing but a space or a quote. -/
theorem mem_of_atToken {s r : List Char} (h : atToken s = (.symbol ['@'], r)) :
    ∀ x ∈ r.head?, x ∈ [' ', '\'', '"', '\x60'] := by
  intro x hx
  cases s with
  | nil =>
      cases h
      cases hx
  | cons c t =>
      by_cases hword : c ∉ ['>', '?', '@', ' ', '\'', '"', '\x60']
      · rw [atToken_word hword] at h
        cases h
      · by_cases hquote : c ∈ [' ', '\'', '"', '\x60']
        · rw [atToken_lone hquote] at h
          cases h
          rwa [← Option.some.inj hx]
        · have hc : c = '>' ∨ c = '?' ∨ c = '@' := by
            simp only [List.mem_cons, List.not_mem_nil, or_false] at hword hquote
            grind
          rcases hc with rfl | rfl | rfl
          · cases h
          · cases h
          · cases (eq_space_of_atToken_double h).1

/-- What starts with two at signs ends where a word would, or stands alone. -/
theorem atToken_double_steady (s : List Char) :
    Steady (fun t => some (atToken t)) ('@' :: s) (atToken ('@' :: s)).1 (atToken ('@' :: s)).2
      fun v => Follows (atToken ('@' :: s)).2 v ∧
        ((atToken ('@' :: s)).1 = .symbol ['@', '@'] → KeepsLone (atToken ('@' :: s)).2 v) := by
  cases s with
  | nil =>
      refine ⟨['@'], rfl, ?_⟩
      intro v hv
      obtain ⟨_, hlone⟩ := hv
      rcases (hlone rfl).cases with rfl | ⟨c, w, rfl, rfl | hc⟩
      · rfl
      · rfl
      · cases hc
  | cons c t =>
      by_cases hc : c = ' '
      · subst hc
        refine ⟨['@'], rfl, ?_⟩
        intro v hv
        obtain ⟨_, hlone⟩ := hv
        rcases (hlone rfl).cases with rfl | ⟨c, w, rfl, rfl | hc⟩
        · rfl
        · rfl
        · cases hc
          rfl
      · rw [atToken_doubleWord hc]
        have hsteady : Steady (fun t => some (atToken t)) (['@', c] ++ t) _ _ _ :=
          (wordFrom_steady ['@', '@', c] t).front fun t => congrArg some (atToken_doubleWord hc t)
        exact hsteady.mono fun v hv => hv.1

/-- What starts with an at sign ends where a word or an operator would, or stands
alone. -/
theorem atToken_steady (s : List Char) :
    Steady (fun t => some (atToken t)) s (atToken s).1 (atToken s).2
      fun v => Follows (atToken s).2 v ∧
        ((atToken s).1 = .symbol ['@'] ∨ (atToken s).1 = .symbol ['@', '@'] →
          KeepsLone (atToken s).2 v) := by
  cases s with
  | nil =>
      refine ⟨[], rfl, ?_⟩
      intro v hv
      obtain ⟨_, hlone⟩ := hv
      rcases (hlone (.inl rfl)).cases with rfl | ⟨c, w, rfl, rfl | hc⟩
      · rfl
      · rfl
      · cases hc
  | cons c t =>
      by_cases hword : c ∉ ['>', '?', '@', ' ', '\'', '"', '\x60']
      · rw [atToken_word hword]
        have hsteady : Steady (fun t => some (atToken t)) ([c] ++ t) _ _ _ :=
          (wordFrom_steady ['@', c] t).front fun t => congrArg some (atToken_word hword t)
        exact hsteady.mono fun v hv => hv.1
      · by_cases hquote : c ∈ [' ', '\'', '"', '\x60']
        · rw [atToken_lone hquote]
          refine ⟨[], rfl, ?_⟩
          intro v hv
          obtain ⟨_, hlone⟩ := hv
          rcases (hlone (.inl rfl)).cases with rfl | ⟨d, w, rfl, rfl | hd⟩
          · rfl
          · rfl
          · obtain rfl : c = d := Option.some.inj hd
            exact congrArg some (atToken_lone hquote w)
        · have hc : c = '>' ∨ c = '?' ∨ c = '@' := by
            simp only [List.mem_cons, List.not_mem_nil, or_false] at hword hquote
            grind
          rcases hc with rfl | rfl | rfl
          · exact ⟨['>'], rfl, fun v _ => rfl⟩
          · exact ⟨['?'], rfl, fun v _ => rfl⟩
          · exact (atToken_double_steady t).mono fun v hv => ⟨hv.1, fun h => hv.2 (.inr h)⟩

end QueryAudit.Sql
