/-!
# Delimited text

Text that runs to a closing mark.  Each reader takes the text after the opening
mark and gives the content and what follows the closing mark, or nothing when
the closing mark is missing.  The `_suffix` lemmas say that what follows is the
end of the text that was read.
-/

namespace QueryAudit.Sql

/-- A content and the text after its closing mark. -/
abbrev Delimited := Option (List Char × List Char)

/-- Adds characters in front of the content. -/
def Delimited.prepend (front : List Char) (d : Delimited) : Delimited :=
  d.map fun (content, rest) => (front ++ content, rest)

/-- What follows is unchanged by adding to the content. -/
theorem Delimited.prepend_eq_some {front content rest : List Char} {d : Delimited}
    (h : d.prepend front = some (content, rest)) : ∃ c, d = some (c, rest) := by
  obtain ⟨⟨c, r⟩, hd, hc⟩ := Option.map_eq_some_iff.mp h
  simp only [Prod.mk.injEq] at hc
  exact ⟨c, by rw [hd, hc.2]⟩

/-- Content up to a mark; a doubled mark stands for the mark itself. -/
def quotedBy (mark : Char) : List Char → Delimited
  | [] => none
  | [c] => if c = mark then some ([], []) else none
  | c :: d :: s =>
    if c = mark then
      if d = mark then (quotedBy mark s).prepend [mark] else some ([], d :: s)
    else (quotedBy mark (d :: s)).prepend [c]

/-- What follows a quoted text is an end of what was read. -/
theorem quotedBy_suffix {mark : Char} {s content rest : List Char}
    (h : quotedBy mark s = some (content, rest)) : rest <:+ s := by
  fun_induction quotedBy mark s generalizing content with
  | case1 => simp at h
  | case2 => simp_all
  | case3 => simp at h
  | case4 s ih =>
    obtain ⟨c, hc⟩ := Delimited.prepend_eq_some h
    exact (ih hc).trans ⟨[mark, mark], rfl⟩
  | case5 d s =>
    simp only [Option.some.injEq, Prod.mk.injEq] at h
    exact h.2 ▸ List.suffix_cons _ _
  | case6 c d s _ ih =>
    obtain ⟨c, hc⟩ := Delimited.prepend_eq_some h
    exact (ih hc).trans (List.suffix_cons _ _)

/-- Content up to the first occurrence of a fence. -/
def fencedBy (fence : List Char) : List Char → Delimited
  | [] => none
  | c :: s =>
    if fence.isPrefixOf (c :: s) then some ([], (c :: s).drop fence.length)
    else (fencedBy fence s).prepend [c]

/-- What follows a fenced text is an end of what was read. -/
theorem fencedBy_suffix {fence s content rest : List Char}
    (h : fencedBy fence s = some (content, rest)) : rest <:+ s := by
  induction s generalizing content with
  | nil => simp [fencedBy] at h
  | cons c s ih =>
    rw [fencedBy] at h
    split at h
    · simp only [Option.some.injEq, Prod.mk.injEq] at h
      exact h.2 ▸ List.drop_suffix _ _
    · obtain ⟨c, hc⟩ := Delimited.prepend_eq_some h
      exact (ih hc).trans (List.suffix_cons _ _)

/-- The character that a backslash and the next one stand for in a hexadecimal string. -/
def backslashed : Char → Char
  | '0' => '\x00'
  | 'a' => '\x07'
  | 'b' => '\x08'
  | 'f' => '\x0c'
  | 'n' => '\n'
  | 'r' => '\r'
  | 't' => '\t'
  | 'Z' => '\x1a'
  | c => c

/-- Content up to an unescaped quote; a backslash stands with the next character for one,
and a doubled quote stands for the quote. -/
def hexString : List Char → Delimited
  | [] => none
  | '\'' :: '\'' :: s => (hexString s).prepend ['\'']
  | '\'' :: s => some ([], s)
  | '\\' :: c :: s => (hexString s).prepend [backslashed c]
  | c :: s => (hexString s).prepend [c]

/-- What follows a hexadecimal string is an end of what was read. -/
theorem hexString_suffix {s content rest : List Char}
    (h : hexString s = some (content, rest)) : rest <:+ s := by
  fun_induction hexString s generalizing content with
  | case1 => simp at h
  | case2 s ih =>
    obtain ⟨c, hc⟩ := Delimited.prepend_eq_some h
    exact (ih hc).trans ⟨['\'', '\''], rfl⟩
  | case3 s =>
    simp only [Option.some.injEq, Prod.mk.injEq] at h
    exact h.2 ▸ List.suffix_cons _ _
  | case4 c s ih =>
    obtain ⟨d, hd⟩ := Delimited.prepend_eq_some h
    exact (ih hd).trans ⟨['\\', c], rfl⟩
  | case5 c s _ _ _ ih =>
    obtain ⟨d, hd⟩ := Delimited.prepend_eq_some h
    exact (ih hd).trans (List.suffix_cons _ _)

/-- The text of a block comment.  Comments nest: `depth` of them are open around
the one that is read. -/
def blockComment (depth : Nat) : List Char → Delimited
  | [] => none
  | '/' :: '*' :: s => (blockComment (depth + 1) s).prepend ['/', '*']
  | '*' :: '/' :: s =>
    match depth with
    | 0 => some ([], s)
    | depth + 1 => (blockComment depth s).prepend ['*', '/']
  | c :: s => (blockComment depth s).prepend [c]

/-- What follows a block comment is an end of what was read. -/
theorem blockComment_suffix {depth : Nat} {s content rest : List Char}
    (h : blockComment depth s = some (content, rest)) : rest <:+ s := by
  fun_induction blockComment depth s generalizing content with
  | case1 => simp at h
  | case2 _ s ih =>
    obtain ⟨c, hc⟩ := Delimited.prepend_eq_some h
    exact (ih hc).trans ⟨['/', '*'], rfl⟩
  | case3 s =>
    simp only [Option.some.injEq, Prod.mk.injEq] at h
    exact h.2 ▸ ⟨['*', '/'], rfl⟩
  | case4 s _ ih =>
    obtain ⟨c, hc⟩ := Delimited.prepend_eq_some h
    exact (ih hc).trans ⟨['*', '/'], rfl⟩
  | case5 _ c s _ _ ih =>
    obtain ⟨d, hd⟩ := Delimited.prepend_eq_some h
    exact (ih hd).trans (List.suffix_cons _ _)

/-- The text of a line comment, its line feed included, and what follows. -/
def lineComment (s : List Char) : List Char × List Char :=
  match s.dropWhile (· ≠ '\n') with
  | [] => (s.takeWhile (· ≠ '\n'), [])
  | c :: rest => (s.takeWhile (· ≠ '\n') ++ [c], rest)

/-- A line comment and what follows it make up the text. -/
theorem lineComment_append (s : List Char) :
    (lineComment s).1 ++ (lineComment s).2 = s := by
  have h : s.takeWhile (· ≠ '\n') ++ s.dropWhile (· ≠ '\n') = s :=
    List.takeWhile_append_dropWhile
  unfold lineComment
  split
  next hrest => rwa [hrest] at h
  next hrest => rw [hrest] at h; simpa using h

end QueryAudit.Sql
