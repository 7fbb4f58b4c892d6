import UpnpAv.Text.Ascii
import UpnpAv.Text.Split

/-!
# Numeric host addresses
-/

namespace UpnpAv
namespace Url

/-! # Addresses of four bytes -/

/-- Whether a character is a digit of a base up to sixteen. -/
def isDigitOf (base : Nat) (c : Char) : Bool :=
  if c.isDigit then c.toNat - '0'.toNat < base
  else base = 16 && (('a' ≤ c && c ≤ 'f') || ('A' ≤ c && c ≤ 'F'))

/-- The value of a digit of a base up to sixteen. -/
def digitOf (c : Char) : Nat :=
  if c.isDigit then c.toNat - '0'.toNat else c.toLower.toNat - 'a'.toNat + 10

/-- The value of a row of digits. -/
def valueOf (base : Nat) (digits : List Char) : Nat :=
  digits.foldl (fun value c => value * base + digitOf c) 0

/-- Base and digits of a number: `0x` announces base sixteen and a further zero base eight. -/
def numeral : List Char -> Nat × List Char
  | '0' :: 'x' :: digits => (16, digits)
  | '0' :: 'X' :: digits => (16, digits)
  | '0' :: next :: digits => (8, next :: digits)
  | digits => (10, digits)

/-- The number that one part of an address denotes. -/
def part? (text : List Char) : Option Nat :=
  let (base, digits) := numeral text
  if text.isEmpty || !(digits.all (isDigitOf base)) then none
  else some (valueOf base digits)

/-- The parts of a host between its dots; one dot at the end does not count. -/
def labels (host : List Char) : List (List Char) :=
  let parts := Text.splitOn '.' host
  if 1 < parts.length && parts.getLast? == some [] then parts.dropLast else parts

/-- Whether the last label of a host is a number, so that the host has to be an address. -/
def endsInNumber (host : List Char) : Bool :=
  match (labels host).getLast? with
  | none => false
  | some last => Text.isDigits last || (part? last).isSome

/-- Whether the numbers of an address fit: the last one fills the bytes that remain. -/
def partsFit (numbers : List Nat) : Bool :=
  match numbers.getLast? with
  | none => false
  | some last =>
      numbers.length ≤ 4 && numbers.dropLast.all (· ≤ 255) &&
        last < Nat.pow 256 (5 - numbers.length)

/-- Whether a host is an address of four bytes in one to four parts. -/
def isAddress4 (host : List Char) : Bool :=
  match (labels host).mapM part? with
  | none => false
  | some numbers => partsFit numbers

/-! # Addresses of eight groups -/

/-- Whether a text is a group of one to four hexadecimal digits. -/
def isGroup (text : List Char) : Bool :=
  !text.isEmpty && text.length ≤ 4 && text.all (isDigitOf 16)

/-- Whether a text is a number of at most one byte without needless zeros. -/
def isByte (text : List Char) : Bool :=
  Text.isDigits text && (text.length == 1 || text.head? != some '0') &&
    Text.decimalValue text ≤ 255

/-- Whether a text is four bytes with dots between them. -/
def isDotted (text : List Char) : Bool :=
  let parts := Text.splitOn '.' text
  parts.length == 4 && parts.all isByte

/-- The number of groups in a list of groups, of which the last may be four dotted bytes. -/
def groupCount? (dotted : Bool) : List (List Char) -> Option Nat
  | [] => some 0
  | [last] => if isGroup last then some 1 else if dotted && isDotted last then some 2 else none
  | group :: rest => if isGroup group then (groupCount? dotted rest).map (· + 1) else none

/-- The groups between the colons of a text; an empty text has none. -/
def groups (text : List Char) : List (List Char) :=
  if text.isEmpty then [] else Text.splitOn ':' text

/-- The parts of a text around its first double colon. -/
def aroundGap? : List Char -> Option (List Char × List Char)
  | ':' :: ':' :: rest => some ([], rest)
  | c :: rest => (aroundGap? rest).map fun (before, after) => (c :: before, after)
  | [] => none

/-- Whether a text is an address of eight groups, where a double colon stands for one or more. -/
def isAddress6 (text : List Char) : Bool :=
  match aroundGap? text with
  | none => groupCount? true (groups text) == some 8
  | some (before, after) =>
      match groupCount? false (groups before), groupCount? true (groups after) with
      | some first, some second => first + second ≤ 7
      | _, _ => false

end Url
end UpnpAv
