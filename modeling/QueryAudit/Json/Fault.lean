import QueryAudit.Decimal.Layout
import QueryAudit.Text.Quoted

/-!
# Faults in a line of JSON

Why a line could not be read as a record, and at which column.  Columns count
bytes; a fault lies at the character that was refused or, when it is noticed
only afterwards, at the last byte that was read.
-/

namespace QueryAudit.Json

/-- What stands in a place where something else is wanted. -/
inductive Found where
  | null
  | boolean (value : Bool)
  | integer (value : Int)
  /-- A number that is no 64-bit integer, by the bits of its double precision value. -/
  | float (bits : UInt64)
  | string (content : String)
  | sequence
  | map
  deriving DecidableEq, Repr

/-- Floating point numbers are written in place from the fifth digit behind the
point up to sixteen digits before it. -/
def floatLayout : Decimal.Layout := ⟨-5, 15⟩

/-- How a message names what was found. -/
def Found.name : Found → String
  | null => "null"
  | boolean true => "boolean `true`"
  | boolean false => "boolean `false`"
  | integer n => "integer `" ++ toString n ++ "`"
  | float bits => "floating point `" ++ String.ofList (floatLayout.writeBits bits) ++ "`"
  | string content => "string " ++ Text.quoted content
  | sequence => "sequence"
  | map => "map"

/-- What is wrong with a line. -/
inductive Cause where
  | endInValue
  | endInList
  | endInObject
  | endInString
  | expectedColon
  | expectedCommaOrBracket
  | expectedCommaOrBrace
  | expectedIdent
  | expectedValue
  | invalidEscape
  | invalidNumber
  | numberOutOfRange
  | controlCharacter
  | keyNotString
  | loneSurrogate
  | unfinishedEscape
  | trailingComma
  | trailingCharacters
  | duplicateField (name : String)
  | missingField (name : String)
  | tooFewElements (count : Nat) (wanted : String)
  | wrongType (found : Found) (wanted : String)
  | wrongValue (found : Found) (wanted : String)
  deriving DecidableEq, Repr

/-- The reason that is given for a fault. -/
def Cause.reason : Cause → String
  | endInValue => "EOF while parsing a value"
  | endInList => "EOF while parsing a list"
  | endInObject => "EOF while parsing an object"
  | endInString => "EOF while parsing a string"
  | expectedColon => "expected `:`"
  | expectedCommaOrBracket => "expected `,` or `]`"
  | expectedCommaOrBrace => "expected `,` or `\x7d`"
  | expectedIdent => "expected ident"
  | expectedValue => "expected value"
  | invalidEscape => "invalid escape"
  | invalidNumber => "invalid number"
  | numberOutOfRange => "number out of range"
  | controlCharacter => "control character (\\u0000-\\u001F) found while parsing a string"
  | keyNotString => "key must be a string"
  | loneSurrogate => "lone leading surrogate in hex escape"
  | unfinishedEscape => "unexpected end of hex escape"
  | trailingComma => "trailing comma"
  | trailingCharacters => "trailing characters"
  | duplicateField name => "duplicate field `" ++ name ++ "`"
  | missingField name => "missing field `" ++ name ++ "`"
  | tooFewElements count wanted =>
    "invalid length " ++ toString count ++ ", expected " ++ wanted
  | wrongType found wanted => "invalid type: " ++ found.name ++ ", expected " ++ wanted
  | wrongValue found wanted => "invalid value: " ++ found.name ++ ", expected " ++ wanted

/-- A cause and the column at which it was noticed. -/
structure Fault where
  cause : Cause
  column : Nat
  deriving DecidableEq, Repr

/-- The message about a fault.  What is read is always a single line. -/
def Fault.message (fault : Fault) : String :=
  fault.cause.reason ++ " at line 1 column " ++ toString fault.column

end QueryAudit.Json
