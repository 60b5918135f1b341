import Tileboard.Text.Quoted
import Tileboard.Token

/-!
What can be wrong with the text of a board file.

A fault is about the form of the text, or about a value that is not of the kind wanted at its place.
`Fault.message` puts it in words.
-/

namespace Tileboard.BoardFile

/-- What a text ends in the middle of. -/
inductive Unfinished
  | value
  | string
  | list
  | object
  deriving DecidableEq, Repr

/-- What is wanted at some place of a file. -/
inductive Expected
  | file
  | token
  | dimension
  | param
  | list
  | unit
  deriving DecidableEq, Repr

/-- A value that is not what is wanted; of a number with a fraction, its text. -/
inductive Found
  | null
  | boolean (value : Bool)
  | integer (value : Int)
  | real (text : String)
  | string (text : String)
  | list
  | object
  deriving DecidableEq, Repr

/-- Why a text is no board file. -/
inductive Fault
  | unfinished (what : Unfinished)
  | expectedValue
  | expectedLiteral
  | expectedColon
  | expectedCommaOrBracket
  | expectedCommaOrBrace
  | keyNotString
  | trailingComma
  | trailingCharacters
  | malformedNumber
  | numberTooLarge
  | malformedEscape
  | rawControl
  | loneSurrogate
  | cutSurrogate
  | wrongType (found : Found) (expected : Expected)
  | wrongValue (found : Int) (expected : Expected)
  | wrongLength (found : Nat) (expected : Expected)
  | duplicateField (name : String)
  | missingField (name : String)
  | unknownKind (name : String)
  deriving DecidableEq, Repr

/-- What a text ends in the middle of, in words. -/
def Unfinished.text : Unfinished → String
  | value => "a value"
  | string => "a string"
  | list => "a list"
  | object => "an object"

/-- What is wanted, in words. -/
def Expected.text : Expected → String
  | file => "struct GridFile"
  | token => "struct Token"
  | dimension => "usize"
  | param => "u8"
  | list => "a sequence"
  | unit => "unit"

/-- The number of fields of what is wanted. -/
def Expected.fieldCount : Expected → Nat
  | file => 3
  | token => 2
  | _ => 0

/-- A text between backticks. -/
def ticked (text : String) : String :=
  "`" ++ text ++ "`"

/-- A value, in words. -/
def Found.text : Found → String
  | null => "null"
  | boolean value => "boolean " ++ ticked (toString value)
  | integer value => "integer " ++ ticked (toString value)
  | real text => "floating point " ++ ticked text
  | string text => "string " ++ Text.quote text
  | list => "sequence"
  | object => "map"

/-- The fault, in words. -/
def Fault.message : Fault → String
  | unfinished what => "EOF while parsing " ++ what.text
  | expectedValue => "expected value"
  | expectedLiteral => "expected ident"
  | expectedColon => "expected `:`"
  | expectedCommaOrBracket => "expected `,` or `]`"
  | expectedCommaOrBrace => "expected `,` or `\x7d`"
  | keyNotString => "key must be a string"
  | trailingComma => "trailing comma"
  | trailingCharacters => "trailing characters"
  | malformedNumber => "invalid number"
  | numberTooLarge => "number out of range"
  | malformedEscape => "invalid escape"
  | rawControl => "control character (\\u0000-\\u001F) found while parsing a string"
  | loneSurrogate => "lone leading surrogate in hex escape"
  | cutSurrogate => "unexpected end of hex escape"
  | wrongType found expected => "invalid type: " ++ found.text ++ ", expected " ++ expected.text
  | wrongValue found expected =>
    "invalid value: " ++ (Found.integer found).text ++ ", expected " ++ expected.text
  | wrongLength found expected =>
    "invalid length " ++ toString found ++ ", expected " ++ expected.text ++ " with "
      ++ toString expected.fieldCount ++ " elements"
  | duplicateField name => "duplicate field " ++ ticked name
  | missingField name => "missing field " ++ ticked name
  | unknownKind name =>
    "unknown variant " ++ ticked name ++ ", expected one of "
      ++ ", ".intercalate (Kind.all.map (ticked ·.key))

end Tileboard.BoardFile
