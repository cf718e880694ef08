import QueryAudit.Sql.Delimited
import QueryAudit.Text.Digits

/-!
# Escapes in string literals

Escaped strings (`E'…'`) take the usual letters, code points in four or eight
hexadecimal digits, and single characters of ASCII in hexadecimal or octal; a
character may not be NUL.  Unicode strings (`U&'…'`) take code points only.
A faulty escape leaves the string without a reading.
-/

namespace QueryAudit.Sql

open Text

/-- A code point in exactly `width` hexadecimal digits. -/
def codePoint (width : Nat) (s : List Char) : Option (Char × List Char) :=
  if (s.take width).length = width then
    (hexNumber? (s.take width)).bind fun code =>
      (charOfCode? code).map fun c => (c, s.drop width)
  else none

/-- What follows a code point is an end of what was read. -/
theorem codePoint_suffix {width : Nat} {s rest : List Char} {c : Char}
    (h : codePoint width s = some (c, rest)) : rest <:+ s := by
  unfold codePoint at h
  split at h
  · obtain ⟨code, _, h⟩ := Option.bind_eq_some_iff.mp h
    obtain ⟨d, _, h⟩ := Option.map_eq_some_iff.mp h
    simp only [Prod.mk.injEq] at h
    exact h.2 ▸ List.drop_suffix _ _
  · simp at h

/-- A code point in exactly `width` places, of which the first may be a plus sign. -/
def signedCodePoint (width : Nat) (s : List Char) : Option (Char × List Char) :=
  match s with
  | '+' :: t => codePoint (width - 1) t
  | s => codePoint width s

/-- What follows a code point with a sign is an end of what was read. -/
theorem signedCodePoint_suffix {width : Nat} {s rest : List Char} {c : Char}
    (h : signedCodePoint width s = some (c, rest)) : rest <:+ s := by
  unfold signedCodePoint at h
  split at h
  · exact (codePoint_suffix h).trans (List.suffix_cons _ _)
  · exact codePoint_suffix h

/-- The character of ASCII whose code is the low byte of a number. -/
def asciiOfCode? (code : Nat) : Option Char :=
  if code % 256 < 128 then some (Char.ofNat (code % 256)) else none

/-- Reads an escape; `c` is the character after the backslash. -/
def unescape (c : Char) (s : List Char) : Option (Char × List Char) :=
  match c with
  | 'b' => some ('\x08', s)
  | 'f' => some ('\x0c', s)
  | 'n' => some ('\n', s)
  | 'r' => some ('\r', s)
  | 't' => some ('\t', s)
  | 'u' => signedCodePoint 4 s
  | 'U' => signedCodePoint 8 s
  | 'x' =>
    let digits := (s.take 2).takeWhile isHexDigit
    match hexNumber? digits with
    | none => some ('x', s)
    | some code => (asciiOfCode? code).map fun d => (d, s.drop digits.length)
  | c =>
    if isOctalDigit c then
      let digits := (s.take 2).takeWhile isOctalDigit
      ((ofDigits? 8 0 (c :: digits)).bind asciiOfCode?).map fun d => (d, s.drop digits.length)
    else some (c, s)

/-- What follows an escape is an end of what was read. -/
theorem unescape_suffix {c d : Char} {s rest : List Char}
    (h : unescape c s = some (d, rest)) : rest <:+ s := by
  unfold unescape at h
  split at h
  case h_6 => exact signedCodePoint_suffix h
  case h_7 => exact signedCodePoint_suffix h
  case h_8 =>
    dsimp only at h
    split at h
    · simp_all
    · obtain ⟨e, _, h⟩ := Option.map_eq_some_iff.mp h
      simp only [Prod.mk.injEq] at h
      exact h.2 ▸ List.drop_suffix _ _
  case h_9 =>
    split at h
    · obtain ⟨e, _, h⟩ := Option.map_eq_some_iff.mp h
      simp only [Prod.mk.injEq] at h
      exact h.2 ▸ List.drop_suffix _ _
    · simp_all
  all_goals simp_all

/-- The content of an escaped string. -/
def escapedString : List Char → Delimited
  | [] => none
  | '\'' :: '\'' :: s => (escapedString s).prepend ['\'']
  | '\'' :: s => some ([], s)
  | '\\' :: c :: s =>
    match h : unescape c s with
    | none => none
    | some (d, rest) =>
      if d = '\x00' then none
      else
        have := (unescape_suffix h).length_le
        (escapedString rest).prepend [d]
  | c :: s => (escapedString s).prepend [c]
termination_by s => s.length
decreasing_by all_goals simp_wf <;> omega

/-- What follows an escaped string is an end of what was read. -/
theorem escapedString_suffix {s content rest : List Char}
    (h : escapedString s = some (content, rest)) : rest <:+ s := by
  fun_induction escapedString s generalizing content with
  | case1 => simp at h
  | case2 s ih =>
    obtain ⟨c, hc⟩ := Delimited.prepend_eq_some h
    exact (ih hc).trans ⟨['\'', '\''], rfl⟩
  | case3 s =>
    simp only [Option.some.injEq, Prod.mk.injEq] at h
    exact h.2 ▸ List.suffix_cons _ _
  | case4 => simp at h
  | case5 => simp at h
  | case6 c s d t hd _ _ ih =>
    obtain ⟨e, he⟩ := Delimited.prepend_eq_some h
    exact ((ih he).trans (unescape_suffix hd)).trans ⟨['\\', c], rfl⟩
  | case7 c s _ _ _ ih =>
    obtain ⟨d, hd⟩ := Delimited.prepend_eq_some h
    exact (ih hd).trans (List.suffix_cons _ _)

/-- Reads a code point escape of a Unicode string; `s` follows the backslash. -/
def unicodeEscape (s : List Char) : Option (Char × List Char) :=
  match s with
  | '\\' :: t => some ('\\', t)
  | '+' :: t => codePoint 6 t
  | s => codePoint 4 s

/-- What follows a code point escape is an end of what was read. -/
theorem unicodeEscape_suffix {s rest : List Char} {c : Char}
    (h : unicodeEscape s = some (c, rest)) : rest <:+ s := by
  unfold unicodeEscape at h
  split at h
  · simp only [Option.some.injEq, Prod.mk.injEq] at h
    exact h.2 ▸ List.suffix_cons _ _
  · exact (codePoint_suffix h).trans (List.suffix_cons _ _)
  · exact codePoint_suffix h

/-- The content of a Unicode string. -/
def unicodeString : List Char → Delimited
  | [] => none
  | '\'' :: '\'' :: s => (unicodeString s).prepend ['\'']
  | '\'' :: s => some ([], s)
  | '\\' :: s =>
    match h : unicodeEscape s with
    | none => none
    | some (c, rest) =>
      have := (unicodeEscape_suffix h).length_le
      (unicodeString rest).prepend [c]
  | c :: s => (unicodeString s).prepend [c]
termination_by s => s.length
decreasing_by all_goals simp_wf <;> omega

/-- What follows a Unicode string is an end of what was read. -/
theorem unicodeString_suffix {s content rest : List Char}
    (h : unicodeString s = some (content, rest)) : rest <:+ s := by
  fun_induction unicodeString s generalizing content with
  | case1 => simp at h
  | case2 s ih =>
    obtain ⟨c, hc⟩ := Delimited.prepend_eq_some h
    exact (ih hc).trans ⟨['\'', '\''], rfl⟩
  | case3 s =>
    simp only [Option.some.injEq, Prod.mk.injEq] at h
    exact h.2 ▸ List.suffix_cons _ _
  | case4 => simp at h
  | case5 s d t hd _ ih =>
    obtain ⟨e, he⟩ := Delimited.prepend_eq_some h
    exact ((ih he).trans (unicodeEscape_suffix hd)).trans (List.suffix_cons _ _)
  | case6 c s _ _ _ ih =>
    obtain ⟨d, hd⟩ := Delimited.prepend_eq_some h
    exact (ih hd).trans (List.suffix_cons _ _)

end QueryAudit.Sql
