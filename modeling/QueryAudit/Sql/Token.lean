import QueryAudit.Sql.Keyword

/-!
# Tokens

A statement is read as a list of tokens.  Blanks and comments are *gaps*: they
separate tokens and mean nothing by themselves.  Numbers, strings and words in
double quotes are *literals*, the values that a statement is run with.  An
*operand* is a token after which a minus sign subtracts instead of negating.

Every token has a written form.  It need not be the text that the token was
read from: `!=` is written `<>`, a prefix letter is written in upper case, and
a doubled quote is written once.
-/

namespace QueryAudit.Sql

/-- The forms of a string literal that stand for one value. -/
inductive LiteralKind where
  | plain
  | national
  | escaped
  | hex
  deriving DecidableEq, Repr

/-- The letter in front of the opening quote. -/
def LiteralKind.letter : LiteralKind → List Char
  | .plain => []
  | .national => ['N']
  | .escaped => ['E']
  | .hex => ['X']

/-- The tokens of the dialect.  Quoted tokens hold their content as it is meant,
with doubled quotes and escapes resolved. -/
inductive Token where
  | space
  | lineComment (text : List Char)
  | blockComment (text : List Char)
  | word (name : List Char)
  | quotedWord (mark : Char) (name : List Char)
  | number (text : List Char)
  | literal (kind : LiteralKind) (content : List Char)
  | bytes (mark : Char) (content : List Char)
  | raw (fence : List Char) (content : List Char)
  | unicode (content : List Char)
  | dollar (fence : List Char) (content : List Char)
  | placeholder (text : List Char)
  | symbol (text : List Char)
  deriving DecidableEq, Repr

namespace Token

/-- The opening parenthesis. -/
@[match_pattern] def openParen : Token := .symbol ['(']

/-- The closing parenthesis. -/
@[match_pattern] def closeParen : Token := .symbol [')']

/-- The minus sign. -/
@[match_pattern] def minus : Token := .symbol ['-']

/-- Blanks and comments are gaps. -/
def isGap : Token → Bool
  | space | lineComment _ | blockComment _ => true
  | _ => false

/-- Is the token an unsigned number? -/
def isNumber : Token → Bool
  | number _ => true
  | _ => false

/-- Numbers, strings and words in double quotes are literals. -/
def isLiteral : Token → Bool
  | number _ | literal .. => true
  | quotedWord mark _ => mark == '"'
  | _ => false

/-- Does a minus sign after the token subtract?  Names, placeholders and
closing brackets are operands; a keyword is none. -/
def isOperand : Token → Bool
  | placeholder _ | quotedWord .. | closeParen | symbol [']'] => true
  | word name => !isKeyword name
  | _ => false

/-- The written form of a token. -/
def written : Token → List Char
  | space => [' ']
  | lineComment text => ['-', '-'] ++ text
  | blockComment text => ['/', '*'] ++ text ++ ['*', '/']
  | word name => name
  | quotedWord mark name => [mark] ++ name ++ [mark]
  | number text => text
  | literal kind content => kind.letter ++ ['\''] ++ content ++ ['\'']
  | bytes mark content => ['B', mark] ++ content ++ [mark]
  | raw fence content => ['R'] ++ fence ++ content ++ fence
  | unicode content => ['U', '&', '\''] ++ content ++ ['\'']
  | dollar fence content => fence ++ content ++ fence
  | placeholder text => text
  | symbol text => text

/-- The text of a token list. -/
def text (tokens : List Token) : List Char := tokens.flatMap written

/-- The text of two token lists in a row is the two texts in a row. -/
theorem text_append (ts us : List Token) : text (ts ++ us) = text ts ++ text us := by
  simp [text]

end Token

end QueryAudit.Sql
