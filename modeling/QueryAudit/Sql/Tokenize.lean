import QueryAudit.Sql.Escape
import QueryAudit.Sql.Numeral
import QueryAudit.Sql.Symbol
import QueryAudit.Text.Blank

/-!
# Reading a statement as tokens

`scan` reads the token that a text starts with and gives the text after it;
`tokenize` repeats that to the end.  A text has no token list when a quoted
token or a block comment is not closed, or when an escape is faulty.

`scan_suffix` says that what a token leaves is an end of the text behind its
first character, so every token takes at least one character away.
-/

namespace QueryAudit.Sql

open Text

/-- The ways in which a quoted token opens. -/
inductive Opening where
  | word (mark : Char)
  | literal (kind : LiteralKind)
  | bytes (mark : Char)
  | raw (mark : Char)
  | unicode
  deriving DecidableEq, Repr

/-- The opening of a quoted token, and the text behind the opening mark. -/
def opening? (c : Char) (s : List Char) : Option (Opening × List Char) :=
  match c.toUpper, s with
  | '"', s => some (.word '"', s)
  | '\x60', s => some (.word '\x60', s)
  | '\'', s => some (.literal .plain, s)
  | 'N', '\'' :: t => some (.literal .national, t)
  | 'E', '\'' :: t => some (.literal .escaped, t)
  | 'X', '\'' :: t => some (.literal .hex, t)
  | 'B', '\'' :: t => some (.bytes '\'', t)
  | 'B', '"' :: t => some (.bytes '"', t)
  | 'R', '\'' :: t => some (.raw '\'', t)
  | 'R', '"' :: t => some (.raw '"', t)
  | 'U', '&' :: '\'' :: t => some (.unicode, t)
  | _, _ => none

/-- What follows an opening is an end of what stands behind its first character. -/
theorem opening?_suffix {c : Char} {s rest : List Char} {o : Opening}
    (h : opening? c s = some (o, rest)) : rest <:+ s := by
  unfold opening? at h
  split at h <;> simp only [Option.some.injEq, Prod.mk.injEq, reduceCtorEq] at h
  all_goals obtain ⟨_, rfl⟩ := h
  case h_1 | h_2 | h_3 => exact List.suffix_refl _
  case h_11 => exact ⟨['&', '\''], rfl⟩
  all_goals exact List.suffix_cons _ _

/-- A raw string behind its first mark: two marks are the empty string, three
open a string that the next three close. -/
def rawToken (mark : Char) (s : List Char) : Option (Token × List Char) :=
  match s with
  | [] => none
  | [c] => if c = mark then some (.raw [mark] [], []) else none
  | c :: d :: t =>
    if c = mark then
      if d = mark then
        (fencedBy [mark, mark, mark] t).map fun (content, rest) =>
          (.raw [mark, mark, mark] content, rest)
      else some (.raw [mark] [], d :: t)
    else
      (quotedBy mark (c :: d :: t)).map fun (content, rest) => (.raw [mark] content, rest)

/-- What follows a raw string is an end of what was read. -/
theorem rawToken_suffix {mark : Char} {s rest : List Char} {token : Token}
    (h : rawToken mark s = some (token, rest)) : rest <:+ s := by
  unfold rawToken at h
  split at h
  · simp at h
  · simp_all
  · next c d t =>
    split at h
    · split at h
      · obtain ⟨_, hc, h⟩ := Option.map_eq_some_iff.mp h
        simp only [Prod.mk.injEq] at h
        exact (h.2 ▸ fencedBy_suffix hc).trans ⟨[c, d], rfl⟩
      · simp only [Option.some.injEq, Prod.mk.injEq] at h
        exact h.2 ▸ List.suffix_cons _ _
    · obtain ⟨_, hc, h⟩ := Option.map_eq_some_iff.mp h
      simp only [Prod.mk.injEq] at h
      exact h.2 ▸ quotedBy_suffix hc

/-- The token with a given content. -/
def withContent (make : List Char → Token) (d : Delimited) : Option (Token × List Char) :=
  d.map fun (content, rest) => (make content, rest)

/-- A token with a content comes from that content. -/
theorem withContent_eq_some {make : List Char → Token} {d : Delimited} {token : Token}
    {rest : List Char} (h : withContent make d = some (token, rest)) :
    ∃ content, d = some (content, rest) ∧ token = make content := by
  obtain ⟨⟨content, r⟩, hd, hc⟩ := Option.map_eq_some_iff.mp h
  simp only [Prod.mk.injEq] at hc
  exact ⟨content, by rw [hd, hc.2], hc.1.symm⟩

/-- Reads a quoted token behind its opening mark. -/
def Opening.read (o : Opening) (s : List Char) : Option (Token × List Char) :=
  match o with
  | .word mark => withContent (.quotedWord mark) (quotedBy mark s)
  | .literal .escaped => withContent (.literal .escaped) (escapedString s)
  | .literal .hex => withContent (.literal .hex) (hexString s)
  | .literal kind => withContent (.literal kind) (quotedBy '\'' s)
  | .bytes mark => withContent (.bytes mark) (quotedBy mark s)
  | .raw mark => rawToken mark s
  | .unicode => withContent .unicode (unicodeString s)

/-- What follows a quoted token is an end of what stands behind its opening mark. -/
theorem Opening.read_suffix {o : Opening} {s rest : List Char} {token : Token}
    (h : o.read s = some (token, rest)) : rest <:+ s := by
  unfold Opening.read at h
  split at h
  case h_1 | h_4 | h_5 =>
    obtain ⟨content, hc, _⟩ := withContent_eq_some h
    exact quotedBy_suffix hc
  case h_2 =>
    obtain ⟨content, hc, _⟩ := withContent_eq_some h
    exact escapedString_suffix hc
  case h_3 =>
    obtain ⟨content, hc, _⟩ := withContent_eq_some h
    exact hexString_suffix hc
  case h_6 => exact rawToken_suffix h
  case h_7 =>
    obtain ⟨content, hc, _⟩ := withContent_eq_some h
    exact unicodeString_suffix hc

/-- The token that starts with `$`.  A tag with a second `$` behind it opens a
text that the tag closes; otherwise it is a placeholder. -/
def dollarToken (s : List Char) : Option (Token × List Char) :=
  let tag := s.takeWhile fun c => isAlphanumeric c || c == '_'
  match s.dropWhile fun c => isAlphanumeric c || c == '_' with
  | '$' :: t =>
    let fence := ['$'] ++ tag ++ ['$']
    withContent (.dollar fence) (fencedBy fence t)
  | rest => some (.placeholder ('$' :: tag), rest)

/-- What follows the token is an end of what stands behind its mark. -/
theorem dollarToken_suffix {s rest : List Char} {token : Token}
    (h : dollarToken s = some (token, rest)) : rest <:+ s := by
  have hs : (s.dropWhile fun c => isAlphanumeric c || c == '_') <:+ s :=
    List.dropWhile_suffix _
  unfold dollarToken at h
  dsimp only at h
  split at h
  next t ht =>
    obtain ⟨content, hc, _⟩ := withContent_eq_some h
    exact ((fencedBy_suffix hc).trans (List.suffix_cons _ _)).trans (ht ▸ hs)
  next =>
    simp only [Option.some.injEq, Prod.mk.injEq] at h
    exact h.2 ▸ hs

/-- What follows a token that is certain to be read. -/
theorem suffix_of_eq_some {p : Token × List Char} {s rest : List Char} {token : Token}
    (h : some p = some (token, rest)) (hp : p.2 <:+ s) : rest <:+ s := by
  cases h
  exact hp

/-- The token that starts with a character which opens no quotes, starts no word
and no number. -/
def scanMark (c : Char) (s : List Char) : Option (Token × List Char) :=
  match c, s with
  | '-', '-' :: t => some (.lineComment (lineComment t).1, (lineComment t).2)
  | '/', '*' :: t => withContent .blockComment (blockComment 0 t)
  | '#', s => some (hashToken s)
  | '@', s => some (atToken s)
  | '?', s => some (questionToken s)
  | '$', s => dollarToken s
  | c, s => some (operator c s)

/-- What follows the token is an end of what stands behind its first character. -/
theorem scanMark_suffix {c : Char} {s rest : List Char} {token : Token}
    (h : scanMark c s = some (token, rest)) : rest <:+ s := by
  unfold scanMark at h
  split at h
  case h_1 t =>
    simp only [Option.some.injEq, Prod.mk.injEq] at h
    exact h.2 ▸ List.IsSuffix.trans ⟨_, lineComment_append t⟩ (List.suffix_cons _ _)
  case h_2 t =>
    obtain ⟨content, hc, _⟩ := withContent_eq_some h
    exact (blockComment_suffix hc).trans (List.suffix_cons _ _)
  case h_6 => exact dollarToken_suffix h
  case h_3 => exact suffix_of_eq_some h (hashToken_suffix _)
  case h_4 => exact suffix_of_eq_some h (atToken_suffix _)
  case h_5 => exact suffix_of_eq_some h (questionToken_suffix _)
  case h_7 => exact suffix_of_eq_some h (operator_suffix _ _)

/-- The blank that starts with `c`: a carriage return takes its line feed along. -/
def afterBlank (c : Char) (s : List Char) : List Char :=
  match c, s with
  | '\r', '\n' :: t => t
  | _, s => s

/-- What follows a blank is an end of what stands behind its first character. -/
theorem afterBlank_suffix (c : Char) (s : List Char) : afterBlank c s <:+ s := by
  unfold afterBlank
  split
  · exact List.suffix_cons _ _
  · exact List.suffix_refl s

/-- The token that the text `c :: s` starts with, and the text after it. -/
def scan (c : Char) (s : List Char) : Option (Token × List Char) :=
  if isBlank c then some (.space, afterBlank c s)
  else
    match opening? c s with
    | some (o, t) => o.read t
    | none =>
      if isWordStart c then some (wordFrom [c] s)
      else if c.isDigit || c == '.' then some (numeral c s)
      else scanMark c s

/-- Every token takes at least one character away. -/
theorem scan_suffix {c : Char} {s rest : List Char} {token : Token}
    (h : scan c s = some (token, rest)) : rest <:+ s := by
  unfold scan at h
  split at h
  · simp only [Option.some.injEq, Prod.mk.injEq] at h
    exact h.2 ▸ afterBlank_suffix c s
  · split at h
    next ho => exact (Opening.read_suffix h).trans (opening?_suffix ho)
    next =>
      split at h
      · exact suffix_of_eq_some h (wordFrom_suffix [c] s)
      · split at h
        · exact suffix_of_eq_some h (numeral_suffix c s)
        · exact scanMark_suffix h

/-- The tokens of a text, if it can be read to its end. -/
def tokenize : List Char → Option (List Token)
  | [] => some []
  | c :: s =>
    match h : scan c s with
    | none => none
    | some (token, rest) =>
      have := (scan_suffix h).length_le
      (tokenize rest).map (token :: ·)
termination_by s => s.length
decreasing_by simp_wf; omega

/-- The empty text has no tokens. -/
@[simp] theorem tokenize_nil : tokenize [] = some [] := by
  rw [tokenize]

/-- A text whose first token has no reading has none. -/
theorem tokenize_cons_none {c : Char} {s : List Char} (h : scan c s = none) :
    tokenize (c :: s) = none := by
  rw [tokenize]
  split <;> simp_all

/-- The tokens of a text are its first token and the tokens of the rest. -/
theorem tokenize_cons_some {c : Char} {s rest : List Char} {token : Token}
    (h : scan c s = some (token, rest)) :
    tokenize (c :: s) = (tokenize rest).map (token :: ·) := by
  rw [tokenize]
  split <;> simp_all

end QueryAudit.Sql
