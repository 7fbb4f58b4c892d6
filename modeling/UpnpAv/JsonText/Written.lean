import UpnpAv.JsonText.Escape
import UpnpAv.Text.Split

/-!
# Written JSON texts

Values are written without any space.
-/

namespace UpnpAv
namespace JsonText

/-- A written value. -/
abbrev Written :=
  List Char

namespace Written

/-- A text. -/
def text (value : String) : Written :=
  encode value.toList

/-- A truth value. -/
def boolean (value : Bool) : Written :=
  (if value then "true" else "false").toList

/-- A whole number. -/
def int (value : Int) : Written :=
  (if value < 0 then ['-'] else []) ++ Text.decimal value.natAbs

/-- A floating-point number. -/
def float (value : Float) : Written :=
  (floatText value).toList

/-- A value that may be missing. -/
def optional {α : Type} (write : α -> Written) : Option α -> Written
  | none => "null".toList
  | some value => write value

/-- A key and its value. -/
def member (entry : String × Written) : Written :=
  text entry.1 ++ ':' :: entry.2

/-- An object with its members in order. -/
def object (members : List (String × Written)) : Written :=
  '\x7b' :: Text.join [','] (members.map member) ++ ['\x7d']

end Written
end JsonText
end UpnpAv
