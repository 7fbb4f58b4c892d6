import UpnpAv.Decimal.Shortest
import UpnpAv.Text.Quoted

/-!
# Why a JSON text is rejected

A text is rejected because it breaks off, because it is not JSON, or because
it is JSON of another form than the one asked for.
-/

namespace UpnpAv
namespace JsonText

/-! # Numbers -/

/-- Digits in JSON form: positional near one, otherwise with an exponent. -/
def scientificChars (s : Decimal.Scientific) : List Char :=
  let point := s.point
  if -5 < point && point ≤ 16 then
    s.positional ".0".toList
  else
    let digits := Text.decimal s.digits
    let fraction := digits.drop 1
    let shown := digits.take 1 ++ if fraction.isEmpty then [] else '.' :: fraction
    let exponent := point - 1
    shown ++ 'e' :: (if exponent < 0 then '-' else '+') :: Text.decimal exponent.natAbs

/-- A floating-point number in JSON form; there is none for a number that is not finite. -/
def floatText (x : Float) : String :=
  match Decimal.Binary.ofFloat x with
  | .nan => "null"
  | .infinite _ => "null"
  | .finite negative significand exponent narrow =>
      String.ofList <| Decimal.sign negative ++
        if significand = 0 then "0.0".toList
        else scientificChars (Decimal.shortest .toEven significand exponent narrow)

/-! # Reasons -/

/-- What stands where something else was asked for. -/
inductive Found where
  | null
  | boolean (value : Bool)
  | integer (value : Int)
  | float (value : Float)
  | string (value : String)
  | sequence
  | map
  | unitVariant

/-- A found thing in messages. -/
def Found.message : Found -> String
  | null => "null"
  | boolean value => s!"boolean `{value}`"
  | integer value => s!"integer `{value}`"
  | float value => "floating point `" ++ floatText value ++ "`"
  | string value => "string " ++ Text.quoted value
  | sequence => "sequence"
  | map => "map"
  | unitVariant => "unit variant"

/-- Why a text is rejected. -/
inductive Error where
  | endInValue
  | endInObject
  | endInList
  | endInString
  | expectedColon
  | expectedListEnd
  | expectedObjectEnd
  | expectedWord
  | expectedValue
  | badEscape
  | badNumber
  | numberOutOfRange
  | controlCharacter
  | keyNotString
  | loneSurrogate
  | unfinishedSurrogate
  | trailingComma
  | trailingCharacters
  | wrongType (found : Found) (expected : String)
  | wrongValue (found : Found) (expected : String)
  | wrongLength (length : Nat) (expected : String)
  | missingField (name : String)
  | duplicateField (name : String)
  | unknownField (name : String) (known : List String)
  | unknownVariant (name : String) (known : List String)
  | durationOverflow

/-- The kinds of reasons. -/
inductive Category where
  | syntaxFault
  | dataFault
  | endFault
deriving Repr, DecidableEq

/-- Names in a message, each between backquotes. -/
def oneOf : List String -> String
  | [] => "there are no names"
  | [only] => s!"expected `{only}`"
  | [first, second] => s!"expected `{first}` or `{second}`"
  | names => "expected one of " ++ String.intercalate ", " (names.map fun name => s!"`{name}`")

/-- The text about a reason. -/
def Error.message : Error -> String
  | endInValue => "EOF while parsing a value"
  | endInObject => "EOF while parsing an object"
  | endInList => "EOF while parsing a list"
  | endInString => "EOF while parsing a string"
  | expectedColon => "expected `:`"
  | expectedListEnd => "expected `,` or `]`"
  | expectedObjectEnd => "expected `,` or `\x7d`"
  | expectedWord => "expected ident"
  | expectedValue => "expected value"
  | badEscape => "invalid escape"
  | badNumber => "invalid number"
  | numberOutOfRange => "number out of range"
  | controlCharacter => "control character (\\u0000-\\u001F) found while parsing a string"
  | keyNotString => "key must be a string"
  | loneSurrogate => "lone leading surrogate in hex escape"
  | unfinishedSurrogate => "unexpected end of hex escape"
  | trailingComma => "trailing comma"
  | trailingCharacters => "trailing characters"
  | wrongType found expected => s!"invalid type: {found.message}, expected {expected}"
  | wrongValue found expected => s!"invalid value: {found.message}, expected {expected}"
  | wrongLength length expected => s!"invalid length {length}, expected {expected}"
  | missingField name => s!"missing field `{name}`"
  | duplicateField name => s!"duplicate field `{name}`"
  | unknownField name known => s!"unknown field `{name}`, " ++ oneOf known
  | unknownVariant name known => s!"unknown variant `{name}`, " ++ oneOf known
  | durationOverflow => "overflow deserializing Duration"

/-- The kind of a reason. -/
def Error.category : Error -> Category
  | endInValue => .endFault
  | endInObject => .endFault
  | endInList => .endFault
  | endInString => .endFault
  | wrongType _ _ => .dataFault
  | wrongValue _ _ => .dataFault
  | wrongLength _ _ => .dataFault
  | missingField _ => .dataFault
  | duplicateField _ => .dataFault
  | unknownField _ _ => .dataFault
  | unknownVariant _ _ => .dataFault
  | durationOverflow => .dataFault
  | _ => .syntaxFault

end JsonText
end UpnpAv
