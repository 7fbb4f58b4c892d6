/-!
# ASCII letters and digits

Letters outside ASCII keep their case here.
-/

namespace UpnpAv
namespace Text

/-- A text with its ASCII capitals made small. -/
def lowered (text : List Char) : List Char :=
  text.map Char.toLower

/-- Whether two texts agree up to the case of ASCII letters. -/
def sameIgnoringCase (first second : List Char) : Bool :=
  lowered first == lowered second

/-- Whether a text is a non-empty row of ASCII digits. -/
def isDigits (text : List Char) : Bool :=
  !text.isEmpty && text.all Char.isDigit

/-- The number that a row of decimal digits denotes. -/
def decimalValue (digits : List Char) : Nat :=
  digits.foldl (fun value c => value * 10 + (c.toNat - '0'.toNat)) 0

/-- The number that a text denotes when it is a non-empty row of ASCII digits. -/
def digitsValue? (text : List Char) : Option Nat :=
  if isDigits text then some (decimalValue text) else none

/-- A number in decimal digits. -/
def decimal (n : Nat) : List Char :=
  Nat.toDigits 10 n

/-- A text filled up with zeros on the left to at least a given length. -/
def padLeft (width : Nat) (digits : List Char) : List Char :=
  List.replicate (width - digits.length) '0' ++ digits

/-- A text filled up with zeros on the right to at least a given length. -/
def padRight (width : Nat) (digits : List Char) : List Char :=
  digits ++ List.replicate (width - digits.length) '0'

@[simp] theorem isDigits_nil : isDigits [] = false :=
  rfl

theorem sameIgnoringCase_self (text : List Char) : sameIgnoringCase text text = true := by
  simp [sameIgnoringCase]

end Text
end UpnpAv
