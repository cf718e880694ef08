import QueryAudit.Proofs.Sql.Spelling

/-!
# What the readers of tokens give

A text is handed to one of a few readers, according to its first character, and each of
them gives tokens of a few forms only.  `scan_cases` puts these together: a fact about
whatever was read has one case for each reader, and none of them has to be opened again.
-/

namespace QueryAudit.Sql

open Text

/-! ## Quoted tokens -/

/-- What is read as a raw string is one. -/
theorem eq_raw_of_rawToken {mark : Char} {s r : List Char} {t : Token}
    (h : rawToken mark s = some (t, r)) : ∃ fence content, t = .raw fence content := by
  unfold rawToken at h
  split at h
  · cases h
  · split at h
    · cases h
      exact ⟨_, _, rfl⟩
    · cases h
  · split at h
    · split at h
      · obtain ⟨_, _, hraw⟩ := Option.map_eq_some_iff.mp h
        cases hraw
        exact ⟨_, _, rfl⟩
      · cases h
        exact ⟨_, _, rfl⟩
    · obtain ⟨_, _, hraw⟩ := Option.map_eq_some_iff.mp h
      cases hraw
      exact ⟨_, _, rfl⟩

/-- The tokens that an opening can give. -/
inductive Opening.Gives : Opening → Token → Prop
  | word (mark : Char) (name : List Char) : Gives (.word mark) (.quotedWord mark name)
  | literal (kind : LiteralKind) (content : List Char) :
      Gives (.literal kind) (.literal kind content)
  | bytes (mark : Char) (content : List Char) : Gives (.bytes mark) (.bytes mark content)
  | raw (mark : Char) (fence content : List Char) : Gives (.raw mark) (.raw fence content)
  | unicode (content : List Char) : Gives .unicode (.unicode content)

/-- A quoted token is of the form that was opened. -/
theorem Opening.gives_of_read {o : Opening} {s r : List Char} {t : Token}
    (h : o.read s = some (t, r)) : o.Gives t := by
  cases o with
  | literal kind =>
      cases kind with
      | plain | national | escaped | hex =>
          obtain ⟨content, _, rfl⟩ := withContent_eq_some h
          exact .literal _ content
  | raw mark =>
      obtain ⟨fence, content, rfl⟩ := eq_raw_of_rawToken h
      exact .raw mark fence content
  | word mark =>
      obtain ⟨name, _, rfl⟩ := withContent_eq_some h
      exact .word mark name
  | bytes mark =>
      obtain ⟨content, _, rfl⟩ := withContent_eq_some h
      exact .bytes mark content
  | unicode =>
      obtain ⟨content, _, rfl⟩ := withContent_eq_some h
      exact .unicode content

/-! ## Marks -/

/-- The symbols of more than one character. -/
def longSymbols : List (List Char) :=
  operators ++ [['#', '-'], ['#', '>', '>'], ['#', '>'], ['@', '>'], ['@', '?'], ['@', '@']]

/-- The tokens that a mark can start. -/
inductive Marked : Token → Prop
  | lineComment (text : List Char) : Marked (.lineComment text)
  | blockComment (text : List Char) : Marked (.blockComment text)
  | word (name : List Char) : Marked (.word name)
  | placeholder (text : List Char) : Marked (.placeholder text)
  | dollar (fence content : List Char) : Marked (.dollar fence content)
  | short (c : Char) : Marked (.symbol [c])
  | long (x : List Char) (h : x ∈ longSymbols) : Marked (.symbol x)

/-- A marked word may be a lone mark. -/
theorem marked_of_markedWord {mark s : List Char} (h : Marked (.symbol mark)) :
    Marked (markedWord mark s).1 := by
  cases s with
  | nil => exact h
  | cons c s => exact .word _

/-- **What a mark starts.** -/
theorem marked_of_scanMark {c : Char} {s r : List Char} {t : Token}
    (h : scanMark c s = some (t, r)) : Marked t := by
  unfold scanMark at h
  split at h
  case h_2 =>
    obtain ⟨content, _, rfl⟩ := withContent_eq_some h
    exact .blockComment content
  case h_6 =>
    rw [dollarToken_eq] at h
    split at h
    · obtain ⟨content, _, rfl⟩ := withContent_eq_some h
      exact .dollar _ content
    · cases h
      exact .placeholder _
  all_goals obtain ⟨rfl, _⟩ := parts_of_eq_some h
  case h_1 => exact .lineComment _
  case h_3 =>
    unfold hashToken
    split
    case h_4 => exact .short '#'
    case h_5 => exact marked_of_markedWord (.short '#')
    all_goals exact .long _ (by decide)
  case h_4 =>
    unfold atToken
    split
    case h_4 => exact marked_of_markedWord (.long _ (by decide))
    case h_5 =>
      split
      · exact .short '@'
      · exact marked_of_markedWord (.short '@')
    case h_6 => exact .short '@'
    all_goals exact .long _ (by decide)
  case h_5 => exact .placeholder _
  case h_7 =>
    have hall : ∀ op ∈ operators,
        (if op = ['!', '='] then ['<', '>'] else op) ∈ longSymbols := by decide
    unfold operator
    split
    next op hop =>
      obtain ⟨hmem, _⟩ := find?_operators_eq_some_iff.mp hop
      exact .long _ (hall op hmem)
    next => exact .short c

/-! ## All tokens -/

/-- A numeral is a number, a point, or a string of hexadecimal digits. -/
theorem numeral_cases (c : Char) (s : List Char) :
    (∃ text, (numeral c s).1 = .number text) ∨ (numeral c s).1 = .symbol ['.'] ∨
      ∃ content, (numeral c s).1 = .literal .hex content := by
  unfold numeral
  split
  · split
    · exact .inr (.inl rfl)
    · exact .inl ⟨_, rfl⟩
  · exact .inr (.inr ⟨_, rfl⟩)
  · exact .inl ⟨_, rfl⟩

/-- **The readers of a token**, one for each way in which it can start. -/
theorem scan_cases {c : Char} {s r : List Char} {t : Token} (h : scan c s = some (t, r)) :
    t = .space ∨ (∃ o q, opening? c s = some (o, q) ∧ o.Gives t) ∨ (∃ name, t = .word name) ∨
      (numeral c s).1 = t ∨ Marked t := by
  unfold scan at h
  split at h
  · cases h
    exact .inl rfl
  split at h
  · next o q ho => exact .inr (.inl ⟨o, q, ho, Opening.gives_of_read h⟩)
  split at h
  · cases h
    exact .inr (.inr (.inl ⟨_, rfl⟩))
  split at h
  · exact .inr (.inr (.inr (.inl (parts_of_eq_some h).1.symm)))
  · exact .inr (.inr (.inr (.inr (marked_of_scanMark h))))

/-- **A symbol has one character or is in the list.** -/
theorem scan_symbol {c : Char} {s r x : List Char} (h : scan c s = some (.symbol x, r)) :
    x.length = 1 ∨ x ∈ longSymbols := by
  rcases scan_cases h with hspace | ⟨o, q, _, hgives⟩ | ⟨name, hword⟩ | hnumeral | hmarked
  · cases hspace
  · cases hgives
  · cases hword
  · rcases numeral_cases c s with ⟨text, hn⟩ | hn | ⟨content, hn⟩ <;>
      cases hn.symm.trans hnumeral
    exact .inl rfl
  · cases hmarked with
    | short => exact .inl rfl
    | long _ hmem => exact .inr hmem

end QueryAudit.Sql
