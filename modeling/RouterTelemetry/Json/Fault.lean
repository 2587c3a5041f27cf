import RouterTelemetry.Decimal.Layout
import RouterTelemetry.Text.Quoted

/-!
# Why a JSON text was refused

A refusal is of one of three kinds: the text ended too early, it is malformed,
or it is well formed as far as it was read but has the wrong shape.  The wording
of each cause is in `Fault.message`, and nowhere else.
-/

namespace RouterTelemetry.Json

/-- What was being read when the text ended. -/
inductive Construct where
  | value
  | list
  | object
  | text
deriving Repr, DecidableEq

/-- Ways in which a text breaks the grammar or a limit of the reader. -/
inductive Flaw where
  | expectedValue
  | expectedWord
  | expectedCommaOrBracket
  | expectedCommaOrBrace
  | expectedColon
  | trailingComma
  | trailingCharacters
  | keyNotText
  | invalidNumber
  | numberOutOfRange
  | invalidEscape
  | unfinishedSurrogatePair
  | loneSurrogate
  | controlCharacter
  | notUnicode
  | tooDeep
deriving Repr, DecidableEq

/-- What stands where something else was expected. -/
inductive Found where
  | null
  | boolean (value : Bool)
  | integer (value : Int)
  | float (value : Float)
  | text (value : String)
  | list
  | object

/-- Ways in which a value has the wrong shape. -/
inductive Mismatch where
  | type (found : Found) (expected : String)
  | value (found : Found) (expected : String)
  | duplicateField (name : String)
  | missingField (name : String)
  | tooShort (length : Nat) (expected : String)
  | unknownVariant (name : String) (known : List String)

/-- The cause of a refusal. -/
inductive Fault where
  | ended (inside : Construct)
  | malformed (flaw : Flaw)
  | misshapen (mismatch : Mismatch)

/-- The three kinds of refusal. -/
inductive Fault.Kind where
  | eof
  | syntactic
  | data
deriving Repr, DecidableEq

/-- The kind of a cause. -/
def Fault.kind : Fault → Fault.Kind
  | .ended _ => .eof
  | .malformed _ => .syntactic
  | .misshapen _ => .data

/-- The construct as a message names it. -/
def Construct.name : Construct → String
  | .value => "a value"
  | .list => "a list"
  | .object => "an object"
  | .text => "a string"

/-- The wording of each flaw. -/
def Flaw.message : Flaw → String
  | .expectedValue => "expected value"
  | .expectedWord => "expected ident"
  | .expectedCommaOrBracket => "expected `,` or `]`"
  | .expectedCommaOrBrace => "expected `,` or `\x7d`"
  | .expectedColon => "expected `:`"
  | .trailingComma => "trailing comma"
  | .trailingCharacters => "trailing characters"
  | .keyNotText => "key must be a string"
  | .invalidNumber => "invalid number"
  | .numberOutOfRange => "number out of range"
  | .invalidEscape => "invalid escape"
  | .unfinishedSurrogatePair => "unexpected end of hex escape"
  | .loneSurrogate => "lone leading surrogate in hex escape"
  | .controlCharacter => "control character (\\u0000-\\u001F) found while parsing a string"
  | .notUnicode => "invalid unicode code point"
  | .tooDeep => "recursion limit exceeded"

/-- The found value as a message describes it. -/
def Found.describe : Found → String
  | .null => "null"
  | .boolean value => "boolean `" ++ (if value then "true" else "false") ++ "`"
  | .integer value => "integer `" ++ toString value ++ "`"
  | .float value => "floating point `" ++ Decimal.quoted.render value ++ "`"
  | .text value => "string " ++ Text.quoted value
  | .list => "sequence"
  | .object => "map"

/-- Variants offered in a message, for a choice of one, two, or more. -/
def oneOf : List String → String
  | [] => "there are no variants"
  | [only] => "expected `" ++ only ++ "`"
  | [first, second] => "expected `" ++ first ++ "` or `" ++ second ++ "`"
  | known => "expected one of " ++ ", ".intercalate (known.map fun name => "`" ++ name ++ "`")

/-- The wording of each mismatch. -/
def Mismatch.message : Mismatch → String
  | .type found expected => "invalid type: " ++ found.describe ++ ", expected " ++ expected
  | .value found expected => "invalid value: " ++ found.describe ++ ", expected " ++ expected
  | .duplicateField name => "duplicate field `" ++ name ++ "`"
  | .missingField name => "missing field `" ++ name ++ "`"
  | .tooShort length expected => "invalid length " ++ toString length ++ ", expected " ++ expected
  | .unknownVariant name known => "unknown variant `" ++ name ++ "`, " ++ oneOf known

/-- The wording of a cause.  The line and the column that the reader of a text appends to
it are left out: a cause does not tell where it was met. -/
def Fault.message : Fault → String
  | .ended inside => "EOF while parsing " ++ inside.name
  | .malformed flaw => flaw.message
  | .misshapen mismatch => mismatch.message

end RouterTelemetry.Json
