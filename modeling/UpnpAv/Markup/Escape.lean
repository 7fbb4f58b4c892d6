/-!
# Escaped character data

Character data and attribute values are written with five characters replaced
by entities.  Reading resolves these entities and character references, and
nothing else.
-/

namespace UpnpAv
namespace Markup

/-! # Writing -/

/-- How one character is written. -/
def escapeChar (c : Char) : List Char :=
  if c = '<' then "&lt;".toList
  else if c = '>' then "&gt;".toList
  else if c = '&' then "&amp;".toList
  else if c = '\'' then "&apos;".toList
  else if c = '"' then "&quot;".toList
  else [c]

/-- How a text is written. -/
def escape (text : List Char) : List Char :=
  text.flatMap escapeChar

@[simp] theorem escape_nil : escape [] = [] :=
  rfl

@[simp] theorem escape_cons (c : Char) (rest : List Char) :
    escape (c :: rest) = escapeChar c ++ escape rest :=
  rfl

theorem escape_append (first second : List Char) :
    escape (first ++ second) = escape first ++ escape second := by
  simp [escape]

/-! # Reading -/

/-- Why a written text cannot be read.  Places are byte offsets in the UTF-8 form. -/
inductive EscapeError where
  | unterminated (start stop : Nat)
  | unknownEntity (start stop : Nat) (name : List Char)
  | nullCharacter (start stop : Nat)
  | longHexadecimal
  | badHexadecimal (byte : Nat)
  | longDecimal
  | badDecimal (byte : Nat)
  | notACharacter (code : Nat)
deriving Repr, DecidableEq

/-- The number of bytes of a text in UTF-8. -/
def byteLength (text : List Char) : Nat :=
  text.foldl (fun bytes c => bytes + c.utf8Size) 0

/-- The first byte of a character in UTF-8. -/
def leadByte (c : Char) : Nat :=
  let n := c.toNat
  if n < 0x80 then n
  else if n < 0x800 then 0xC0 + n / 0x40
  else if n < 0x10000 then 0xE0 + n / 0x1000
  else 0xF0 + n / 0x40000

/-- The value of a decimal digit. -/
def decimalDigit? (c : Char) : Option Nat :=
  if '0' ≤ c ∧ c ≤ '9' then some (c.toNat - '0'.toNat) else none

/-- The value of a hexadecimal digit, in either case. -/
def hexDigit? (c : Char) : Option Nat :=
  if '0' ≤ c ∧ c ≤ '9' then some (c.toNat - '0'.toNat)
  else if 'a' ≤ c ∧ c ≤ 'f' then some (c.toNat - 'a'.toNat + 10)
  else if 'A' ≤ c ∧ c ≤ 'F' then some (c.toNat - 'A'.toNat + 10)
  else none

/-- The number that a list of digits denotes, or the lead byte of the first non-digit. -/
def digitsValue (base : Nat) (digit? : Char -> Option Nat) :
    Nat -> List Char -> Except Nat Nat
  | value, [] => .ok value
  | value, c :: rest =>
      match digit? c with
      | none => .error (leadByte c)
      | some d => digitsValue base digit? (value * base + d) rest

/-- The number of a character reference, written after the hash sign. -/
def referenceCode : List Char -> Except EscapeError Nat
  | 'x' :: digits =>
      if byteLength digits > 6 then .error .longHexadecimal
      else (digitsValue 16 hexDigit? 0 digits).mapError .badHexadecimal
  | digits =>
      if byteLength digits > 7 then .error .longDecimal
      else (digitsValue 10 decimalDigit? 0 digits).mapError .badDecimal

/-- The character with a given number. -/
def charOfCode? (code : Nat) : Option Char :=
  if h : code.isValidChar then some (Char.ofNatAux code h) else none

/-- The character that the text between an ampersand and its semicolon stands for. -/
def resolve (start stop : Nat) (name : List Char) : Except EscapeError Char :=
  match name with
  | '#' :: reference => do
      let code ← referenceCode reference
      if code = 0 then
        throw (.nullCharacter start stop)
      match charOfCode? code with
      | some c => pure c
      | none => throw (.notACharacter code)
  | _ =>
      if name = "lt".toList then pure '<'
      else if name = "gt".toList then pure '>'
      else if name = "amp".toList then pure '&'
      else if name = "apos".toList then pure '\''
      else if name = "quot".toList then pure '"'
      else throw (.unknownEntity (start + 1) stop name)

/--
Read a written text whose first character stands at byte `place`; `total` is
the length of the whole text.  After an ampersand, `name` collects what stands
before its semicolon, in reverse.
-/
def unescapeFrom (total : Nat) :
    (place : Nat) -> Option (Nat × List Char) -> List Char -> Except EscapeError (List Char)
  | _, none, [] => .ok []
  | _, some (start, _), [] => .error (.unterminated start total)
  | place, none, c :: rest =>
      if c = '&' then
        unescapeFrom total (place + 1) (some (place, [])) rest
      else do
        let more ← unescapeFrom total (place + c.utf8Size) none rest
        pure (c :: more)
  | place, some (start, name), c :: rest =>
      if c = ';' then do
        let resolved ← resolve start place name.reverse
        let more ← unescapeFrom total (place + 1) none rest
        pure (resolved :: more)
      else if c = '&' then
        .error (.unterminated start total)
      else
        unescapeFrom total (place + c.utf8Size) (some (start, c :: name)) rest

/-- Read a written text. -/
def unescape (text : List Char) : Except EscapeError (List Char) :=
  unescapeFrom (byteLength text) 0 none text

end Markup
end UpnpAv
