import QueryAudit.Proofs.Sql.Readers

/-!
# Places in a text

A search on the plain text does not know where tokens are read.  What it finds starts
either with a token or inside of one, `reads_or_inside`.  If it starts with a letter, it is
not inside of a blank or a symbol, since these hold no letter behind their first character.
-/

namespace QueryAudit.Sql

open Text

/-- Reading the tokens from the front of a text leaves the rest. -/
inductive Reads : List Char → List Token → List Char → Prop where
  | nil (s : List Char) : Reads s [] s
  | cons {c : Char} {s s' r : List Char} {t : Token} {ts : List Token}
      (hscan : scan c s = some (t, s')) (hrest : Reads s' ts r) : Reads (c :: s) (t :: ts) r

/-- The end `r` of the text starts inside the token `t`, neither where it is read nor behind
it. -/
def Inside (s : List Char) (t : Token) (r : List Char) : Prop :=
  ∃ before a b rest, Reads s before (a ++ r) ∧ Reads (a ++ r) [t] rest ∧ r = b ++ rest ∧
    a ≠ [] ∧ b ≠ []

/-- Is the token a blank or a symbol? -/
def isBare : Token → Bool
  | .space | .symbol _ => true
  | _ => false

/-! ## Reading up to a place -/

/-- The tokens of a text are those up to a place and those behind it. -/
theorem Reads.tokenize {s r : List Char} {ts : List Token} (h : Reads s ts r) :
    tokenize s = (tokenize r).map (ts ++ ·) := by
  induction h with
  | nil s => simp
  | cons hscan _ ih =>
      rw [tokenize_cons_some hscan, ih, Option.map_map]
      rfl

/-- A single token is the first that is read. -/
theorem Reads.scan {s r : List Char} {t : Token} (h : Reads s [t] r) :
    ∃ c q, s = c :: q ∧ scan c q = some (t, r) := by
  cases h with
  | cons hscan hrest =>
      cases hrest
      exact ⟨_, _, rfl, hscan⟩

/-- The first token of a text is read from it, and the others behind it. -/
theorem exists_reads_of_tokenize {s : List Char} {t : Token} {ts : List Token}
    (h : Sql.tokenize s = some (t :: ts)) :
    ∃ r, Reads s [t] r ∧ Sql.tokenize r = some ts := by
  cases s with
  | nil =>
      rw [tokenize_nil] at h
      cases h
  | cons c s =>
      cases hscan : Sql.scan c s with
      | none =>
          rw [tokenize_cons_none hscan] at h
          cases h
      | some p =>
          obtain ⟨u, r⟩ := p
          rw [tokenize_cons_some hscan] at h
          obtain ⟨us, hus, heq⟩ := Option.map_eq_some_iff.mp h
          cases heq
          exact ⟨r, .cons hscan (.nil r), hus⟩

/-- A place inside a token that is read later. -/
theorem Inside.cons {c : Char} {s s' r : List Char} {t u : Token}
    (hscan : Sql.scan c s = some (u, s')) (h : Inside s' t r) : Inside (c :: s) t r := by
  obtain ⟨before, a, b, rest, hbefore, hparts⟩ := h
  exact ⟨u :: before, a, b, rest, .cons hscan hbefore, hparts⟩

/-- **Every place of a text that can be read** is where a token is read, or inside one. -/
theorem reads_or_inside {s r : List Char} {ts : List Token} (h : tokenize s = some ts)
    (hr : r <:+ s) : (∃ before, Reads s before r) ∨ ∃ t, Inside s t r := by
  fun_induction tokenize s generalizing ts with
  | case1 =>
      obtain rfl := List.suffix_nil.mp hr
      exact .inl ⟨[], .nil []⟩
  | case2 => cases h
  | case3 c s t s' hscan _ ih =>
      obtain ⟨us, hus, _⟩ := Option.map_eq_some_iff.mp h
      rcases List.suffix_cons_iff.mp hr with rfl | hr
      · exact .inl ⟨[], .nil _⟩
      rcases List.suffix_or_suffix_of_suffix hr (scan_suffix hscan) with hlater | hinside
      · rcases ih hus hlater with ⟨before, hbefore⟩ | ⟨u, hu⟩
        · exact .inl ⟨t :: before, .cons hscan hbefore⟩
        · exact .inr ⟨u, hu.cons hscan⟩
      · obtain ⟨b, rfl⟩ := hinside
        obtain ⟨a, rfl⟩ := hr
        by_cases hb : b = []
        · subst hb
          exact .inl ⟨[t], .cons hscan (.nil _)⟩
        · exact .inr ⟨t, [], c :: a, b, s', .nil _, .cons hscan (.nil _), rfl, by simp, hb⟩

/-! ## Letters -/

/-- A blank or a symbol is spelled without letters behind its first character. -/
theorem Spelled.isAlpha_of_mem_tail {c : Char} {s r w : List Char} {t : Token}
    (hscan : scan c s = some (t, r)) (h : Spelled t w) (ht : isBare t = true) :
    ∀ d ∈ w.tail, d.isAlpha = false := by
  have hlong : ∀ x ∈ longSymbols, x.tail.all fun d => !d.isAlpha := by decide
  cases h with
  | written =>
      cases t with
      | space => simp [Token.written]
      | symbol x =>
          rcases scan_symbol hscan with hone | hmem
          · obtain ⟨d, rfl⟩ := List.length_eq_one_iff.mp hone
            simp [Token.written]
          · intro d hd
            simpa using List.all_eq_true.mp (hlong x hmem) d hd
      | _ => cases ht
  | blank => simp
  | lineBreak | notEqual =>
      intro d hd
      obtain rfl := List.mem_singleton.mp hd
      rfl
  | word | bytes | raw | rawTriple | unicode => cases ht

/-- **Inside of a blank or a symbol no letter is found.** -/
theorem isAlpha_of_inside {s r : List Char} {t : Token} (h : Inside s t r)
    (ht : isBare t = true) : ∀ d ∈ r.head?, d.isAlpha = false := by
  obtain ⟨before, a, b, rest, _, hreads, rfl, ha, hb⟩ := h
  obtain ⟨c, q, hs, hscan⟩ := hreads.scan
  have hliteral : t.isLiteral = false := by
    cases t <;> first | rfl | cases ht
  obtain ⟨w, hspelled, hw⟩ := scan_spelled hscan hliteral
  obtain rfl : a ++ b = w := by
    rw [← hs, ← List.append_assoc] at hw
    exact List.append_cancel_right hw
  obtain ⟨x, a, rfl⟩ := List.exists_cons_of_ne_nil ha
  obtain ⟨y, b, rfl⟩ := List.exists_cons_of_ne_nil hb
  intro d hd
  obtain rfl := Option.some.inj hd
  exact hspelled.isAlpha_of_mem_tail hscan ht y (by simp)

end QueryAudit.Sql
