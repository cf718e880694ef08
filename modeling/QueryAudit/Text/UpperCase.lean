/-!
# Upper case

Words of a statement are compared with the dialect's keywords in upper case.
Every keyword is plain ASCII, so only characters whose upper case is plain
ASCII matter: the small letters, the dotless `ı`, the long `ſ`, the sharp `ß`
and the Latin ligatures.  All other characters are left as they are.
-/

namespace QueryAudit.Text

/-- The upper case of a character, if that is plain ASCII, and else the character. -/
def upperChar (c : Char) : List Char :=
  match c with
  | '\u00df' => ['S', 'S']
  | '\u0131' => ['I']
  | '\u017f' => ['S']
  | '\ufb00' => ['F', 'F']
  | '\ufb01' => ['F', 'I']
  | '\ufb02' => ['F', 'L']
  | '\ufb03' => ['F', 'F', 'I']
  | '\ufb04' => ['F', 'F', 'L']
  | '\ufb05' => ['S', 'T']
  | '\ufb06' => ['S', 'T']
  | c => [c.toUpper]

/-- The upper case of a text, character by character. -/
def upperCase (s : List Char) : List Char := s.flatMap upperChar

/-- Equality up to the case of ASCII letters. -/
def sameIgnoringCase (s t : List Char) : Bool := s.map Char.toUpper == t.map Char.toUpper

end QueryAudit.Text
