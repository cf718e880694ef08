import QueryAudit.Proofs.Sql.Hole

/-!
# Strings behind a prefix

A letter in front of the opening quote says how a string is read.  The readers differ in
what a backslash and a quote mean inside the string; for a content with neither they agree,
and each gives the token of its own kind with that content (`tokenize_prefixed`).
-/

namespace QueryAudit.Sql

open Text

/-- The prefixes, in capital and small letters, and how a string opens behind them. -/
inductive OpensWith : List Char → Opening → Prop where
  | national {c : Char} (h : c ∈ ['N', 'n']) : OpensWith [c] (.literal .national)
  | escaped {c : Char} (h : c ∈ ['E', 'e']) : OpensWith [c] (.literal .escaped)
  | hex {c : Char} (h : c ∈ ['X', 'x']) : OpensWith [c] (.literal .hex)
  | bytes {c : Char} (h : c ∈ ['B', 'b']) : OpensWith [c] (.bytes '\'')
  | raw {c : Char} (h : c ∈ ['R', 'r']) : OpensWith [c] (.raw '\'')
  | unicode {c : Char} (h : c ∈ ['U', 'u']) : OpensWith [c, '&'] .unicode

/-- A content that means itself in every kind of string. -/
def Unquoted (content : List Char) : Prop := '\'' ∉ content ∧ '\\' ∉ content

/-- The token that a string of a kind is read as. -/
def Opening.token : Opening → List Char → Token
  | .word mark, content => .quotedWord mark content
  | .literal kind, content => .literal kind content
  | .bytes mark, content => .bytes mark content
  | .raw mark, content => .raw [mark] content
  | .unicode, content => .unicode content

/-! ## Contents -/

/-- A reader that stops at a single quote, and takes any character but quote and backslash
for itself, reads such a content up to the quote. -/
theorem read_unquoted {read : List Char → Delimited} {s : List Char}
    (hclose : read ('\'' :: s) = some ([], s))
    (hother : ∀ c : Char, c ≠ '\'' → c ≠ '\\' → ∀ t, read (c :: t) = (read t).prepend [c])
    {content : List Char} (h : Unquoted content) :
    read (content ++ '\'' :: s) = some (content, s) := by
  obtain ⟨hquote, hslash⟩ := h
  induction content with
  | nil => exact hclose
  | cons c content ih =>
      simp only [List.mem_cons, not_or] at hquote hslash
      rw [List.cons_append, hother c (Ne.symm hquote.1) (Ne.symm hslash.1),
        ih hquote.2 hslash.2]
      rfl

/-- Such a content in plain quotes. -/
theorem quotedBy_unquoted {content s : List Char} (h : Unquoted content)
    (hs : s.head? ≠ some '\'') : quotedBy '\'' (content ++ '\'' :: s) = some (content, s) :=
  read_unquoted (quotedBy_close hs) (fun _ hc _ t => quotedBy_other hc t) h

/-- Such a content in a raw string. -/
theorem rawToken_unquoted {content s : List Char} (h : Unquoted content)
    (hs : s.head? ≠ some '\'') :
    rawToken '\'' (content ++ '\'' :: s) = some (.raw ['\''] content, s) := by
  have hquoted := quotedBy_unquoted h hs
  cases content with
  | nil => exact rawToken_empty hs
  | cons c content =>
      have hc : c ≠ '\'' := fun heq => h.1 (heq ▸ List.mem_cons_self)
      rw [List.cons_append] at hquoted ⊢
      rw [rawToken_plain hc, hquoted]
      rfl

/-- **Every kind of string is read up to its quote.** -/
theorem OpensWith.read {k : List Char} {o : Opening} (h : OpensWith k o)
    {content s : List Char} (hcontent : Unquoted content) (hs : s.head? ≠ some '\'') :
    o.read (content ++ '\'' :: s) = some (o.token content, s) := by
  cases h with
  | national => exact congrArg (withContent _) (quotedBy_unquoted hcontent hs)
  | bytes => exact congrArg (withContent _) (quotedBy_unquoted hcontent hs)
  | raw => exact rawToken_unquoted hcontent hs
  | escaped =>
      exact congrArg (withContent _) (read_unquoted (escapedString_close hs)
        (fun _ hc hb t => escapedString_other hc hb t) hcontent)
  | hex =>
      exact congrArg (withContent _) (read_unquoted (hexString_close hs)
        (fun _ hc hb t => hexString_other hc hb t) hcontent)
  | unicode =>
      exact congrArg (withContent _) (read_unquoted (unicodeString_close hs)
        (fun _ hc hb t => unicodeString_other hc hb t) hcontent)

/-! ## Prefixes -/

/-- A prefix and a quote open a string, and nothing stands in their way. -/
theorem OpensWith.scan {k : List Char} {o : Opening} (h : OpensWith k o) (t : List Char) :
    ∃ c more, k = c :: more ∧ Sql.scan c (more ++ '\'' :: t) = o.read t ∧
      c ∉ ['\n', '=', '>'] := by
  cases h with
  | national h | escaped h | hex h | bytes h | raw h | unicode h =>
      simp only [List.mem_cons, List.not_mem_nil, or_false] at h
      rcases h with rfl | rfl <;> exact ⟨_, _, rfl, rfl, by decide⟩

/-- **A string behind a prefix is one token**, where a value may end. -/
theorem tokenize_prefixed {k : List Char} {o : Opening} (h : OpensWith k o)
    {content s : List Char} (hcontent : Unquoted content) (hs : EndsValue s) :
    tokenize (k ++ '\'' :: (content ++ '\'' :: s)) =
      (tokenize s).map (o.token content :: ·) := by
  obtain ⟨c, more, rfl, hscan, _⟩ := h.scan (content ++ '\'' :: s)
  rw [h.read hcontent (hs.head?_ne (by decide) (by decide))] at hscan
  rw [List.cons_append, tokenize_cons_some hscan]

/-- A prefix may stand where a value is expected. -/
theorem OpensWith.enters {k : List Char} {o : Opening} (h : OpensWith k o) (t : List Char) :
    Enters (k ++ t) := by
  obtain ⟨c, more, rfl, _, hc⟩ := h.scan []
  intro d hd
  obtain rfl : c = d := Option.some.inj hd
  exact hc

end QueryAudit.Sql
