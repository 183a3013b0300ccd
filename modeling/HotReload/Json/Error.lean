import HotReload.Json.Value
import HotReload.Text.Quoted

set_option autoImplicit false

namespace HotReload.Json

inductive Found where
  | null
  | boolean (value : Bool)
  | integer (value : Int)
  | float (value : Float)
  | text (value : String)
  | sequence
  | map

def Value.found : Value → Found
  | .null => .null
  | .bool b => .boolean b
  | .number (.integer n _ _) => .integer n
  | .number (.float x) => .float x
  | .string s => .text s
  | .array _ => .sequence
  | .object _ => .map

def Found.phrase : Found → String
  | .null => "null"
  | .boolean true => "boolean `true`"
  | .boolean false => "boolean `false`"
  | .integer n => "integer `" ++ Decimal.ofInt n ++ "`"
  | .float x => "floating point `" ++ Decimal.ofFloat x ++ "`"
  | .text s => "string " ++ Text.quoted s
  | .sequence => "sequence"
  | .map => "map"

inductive Expected where
  | text
  | boolean
  | unsigned8
  | unsigned64
  | signed64
  | unit
  | sequence
  | map
  | tuple (size : Nat)
  | record (name : String)
  | recordOf (name : String) (fields : Nat)
  | taggedChoice (name : String)
  | variantName
  | variantOf (name : String) (fields : Nat)
  | fewerItems
  | items (count : Nat)

def counted (count : Nat) : String :=
  Decimal.ofNat count ++ (if count = 1 then " element" else " elements")

def Expected.phrase : Expected → String
  | .text => "a string"
  | .boolean => "a boolean"
  | .unsigned8 => "u8"
  | .unsigned64 => "u64"
  | .signed64 => "i64"
  | .unit => "unit"
  | .sequence => "a sequence"
  | .map => "a map"
  | .tuple size => "a tuple of size " ++ Decimal.ofNat size
  | .record name => "struct " ++ name
  | .recordOf name fields => "struct " ++ name ++ " with " ++ counted fields
  | .taggedChoice name => "internally tagged enum " ++ name
  | .variantName => "variant identifier"
  | .variantOf name fields => "struct variant " ++ name ++ " with " ++ counted fields
  | .fewerItems => "fewer elements in array"
  | .items count => counted count ++ " in sequence"

inductive Cause where
  | unfinishedList
  | unfinishedObject
  | unfinishedString
  | unfinishedValue
  | expectedColon
  | expectedListComma
  | expectedObjectComma
  | expectedIdent
  | expectedValue
  | invalidEscape
  | invalidNumber
  | numberOutOfRange
  | controlCharacter
  | keyNotString
  | loneSurrogate
  | unpairedSurrogate
  | trailingComma
  | trailingCharacters
  | tooDeep
  | wrongType (found : Found) (expected : Expected)
  | wrongValue (found : Int) (expected : Expected)
  | wrongLength (length : Nat) (expected : Expected)
  | missingField (name : String)
  | duplicateField (name : String)
  | unknownVariant (name : String) (choices : List String)

def ticked (name : String) : String := "`" ++ name ++ "`"

def Cause.phrase : Cause → String
  | .unfinishedList => "EOF while parsing a list"
  | .unfinishedObject => "EOF while parsing an object"
  | .unfinishedString => "EOF while parsing a string"
  | .unfinishedValue => "EOF while parsing a value"
  | .expectedColon => "expected `:`"
  | .expectedListComma => "expected `,` or `]`"
  | .expectedObjectComma => "expected `,` or `\x7d`"
  | .expectedIdent => "expected ident"
  | .expectedValue => "expected value"
  | .invalidEscape => "invalid escape"
  | .invalidNumber => "invalid number"
  | .numberOutOfRange => "number out of range"
  | .controlCharacter =>
    "control character (\\u0000-\\u001F) found while parsing a string"
  | .keyNotString => "key must be a string"
  | .loneSurrogate => "lone leading surrogate in hex escape"
  | .unpairedSurrogate => "unexpected end of hex escape"
  | .trailingComma => "trailing comma"
  | .trailingCharacters => "trailing characters"
  | .tooDeep => "recursion limit exceeded"
  | .wrongType found expected =>
    "invalid type: " ++ found.phrase ++ ", expected " ++ expected.phrase
  | .wrongValue found expected =>
    "invalid value: " ++ (Found.integer found).phrase ++ ", expected " ++ expected.phrase
  | .wrongLength length expected =>
    "invalid length " ++ Decimal.ofNat length ++ ", expected " ++ expected.phrase
  | .missingField name => "missing field " ++ ticked name
  | .duplicateField name => "duplicate field " ++ ticked name
  | .unknownVariant name choices =>
    "unknown variant " ++ ticked name ++ ", expected "
      ++ String.intercalate " or " (choices.map ticked)

-- Lines count from one; the column is the number of bytes of the line read so far.
structure Place where
  line : Nat
  column : Nat

structure Error where
  cause : Cause
  place : Option Place

def Error.message (e : Error) : String :=
  match e.place with
  | none => e.cause.phrase
  | some place =>
    e.cause.phrase ++ " at line " ++ Decimal.ofNat place.line
      ++ " column " ++ Decimal.ofNat place.column

end HotReload.Json
