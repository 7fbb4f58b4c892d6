import UpnpAv.JsonText.Error

/-!
# Numbers of a JSON text

A number is first taken apart into its digits.  Its value is exact when it is
whole and fits 64 bits; otherwise it is a floating-point number, computed from
the leading digits and a power of ten.
-/

namespace UpnpAv
namespace JsonText

/-- The digits of a number without its sign. -/
structure Numeral where
  whole : List Char
  /-- The digits after the point, if there is one. -/
  fraction : Option (List Char)
  /-- Whether the exponent is negative, and its digits, if there is one. -/
  exponent : Option (Bool × List Char)
deriving Repr, DecidableEq

/-- Why there is no number. -/
inductive Malformed where
  /-- The text ends where a digit is needed. -/
  | ended
  /-- Something else stands where a digit is needed, or after a leading zero. -/
  | misplaced
deriving Repr, DecidableEq

namespace Numeral

/-! # Taking apart -/

/-- The digits at the front of a text, of which there must be one. -/
def digits (text : List Char) : Except Malformed (List Char × List Char) :=
  match text with
  | [] => .error .ended
  | c :: _ =>
      if c.isDigit then .ok (text.takeWhile Char.isDigit, text.dropWhile Char.isDigit)
      else .error .misplaced

/-- The digits before the point; a leading zero stands alone. -/
def wholePart (text : List Char) : Except Malformed (List Char × List Char) :=
  match text with
  | '0' :: c :: rest => if c.isDigit then .error .misplaced else .ok (['0'], c :: rest)
  | _ => digits text

/-- The digits after the point. -/
def fractionPart : List Char -> Except Malformed (Option (List Char) × List Char)
  | '.' :: text => (digits text).map fun (found, rest) => (some found, rest)
  | text => .ok (none, text)

/-- The sign of an exponent, which may be left out. -/
def exponentSign : List Char -> Bool × List Char
  | '+' :: rest => (false, rest)
  | '-' :: rest => (true, rest)
  | text => (false, text)

/-- The exponent. -/
def exponentPart : List Char -> Except Malformed (Option (Bool × List Char) × List Char)
  | [] => .ok (none, [])
  | c :: text =>
      if c = 'e' ∨ c = 'E' then
        let (negative, text) := exponentSign text
        (digits text).map fun (found, rest) => (some (negative, found), rest)
      else .ok (none, c :: text)

/-- The number at the front of a text, and what stands behind it. -/
def scan (text : List Char) : Except Malformed (Numeral × List Char) := do
  let (whole, text) ← wholePart text
  let (fraction, text) ← fractionPart text
  let (exponent, text) ← exponentPart text
  pure (⟨whole, fraction, exponent⟩, text)

/-! # Values -/

/--
Append digits to a number as long as it stays below a limit.  Answers the
number and the digits that were left out.
-/
def absorb (limit : Nat) (number : Nat) : List Char -> Nat × List Char
  | [] => (number, [])
  | c :: rest =>
      let next := number * 10 + (c.toNat - '0'.toNat)
      if next < limit then absorb limit next rest else (number, c :: rest)

/-- A power of ten that is in the range of the format. -/
def power (exponent : Nat) : Float :=
  Float.ofScientific 1 false exponent

/--
A number times a power of ten, in one step where the power is in the range of
the format.  There is no answer when the result is too large.
-/
def scale (number : Float) (exponent : Int) : Option Float :=
  if 308 < exponent then
    if number == 0.0 then some number else none
  else if 0 ≤ exponent then
    let product := number * power exponent.toNat
    if product.isInf then none else some product
  else if -308 ≤ exponent then
    some (number / power (-exponent).toNat)
  else if number == 0.0 then some number
  else scale (number / power 308) (exponent + 308)
termination_by (-exponent).toNat
decreasing_by omega

/-- A number with its sign. -/
def signed (negative : Bool) (number : Float) : Float :=
  if negative then -number else number

/-- The floating-point number `number * 10 ^ exponent` with its sign. -/
def float (negative : Bool) (number : Nat) (exponent : Int) : Except Error Found :=
  match scale number.toUInt64.toFloat exponent with
  | some value => .ok (.float (signed negative value))
  | none => .error .numberOutOfRange

/-- A whole number; zero with a minus, and what does not fit 64 bits, is a floating-point number. -/
def integer (negative : Bool) (number : Nat) : Found :=
  if negative then
    if number = 0 ∨ Nat.pow 2 63 < number then .float (-number.toUInt64.toFloat)
    else .integer (-number)
  else .integer number

/-- A number with an exponent, which is added to the places that its digits give. -/
def withExponent (negative : Bool) (number : Nat) (places : Int)
    (exponent : Option (Bool × List Char)) : Except Error Found :=
  match exponent with
  | none => float negative number places
  | some (isNegative, digits) =>
      match absorb (Nat.pow 2 31) 0 digits with
      | (value, []) => float negative number (if isNegative then places - value else places + value)
      | (_, _ :: _) =>
          if number = 0 ∨ isNegative then .ok (.float (signed negative 0.0))
          else .error .numberOutOfRange

/-- The value of a number with the given sign. -/
def value (negative : Bool) (numeral : Numeral) : Except Error Found :=
  let (number, dropped) := absorb (Nat.pow 2 64) 0 numeral.whole
  match numeral.fraction with
  | some fraction =>
      let (number, unread) := absorb (Nat.pow 2 64) number fraction
      let places : Int := dropped.length + unread.length - fraction.length
      withExponent negative number places numeral.exponent
  | none =>
      if dropped.isEmpty && numeral.exponent.isNone then .ok (integer negative number)
      else withExponent negative number dropped.length numeral.exponent

/-! # Lengths -/

/-- At least one digit is taken. -/
theorem digits_length {text found rest : List Char} (done : digits text = .ok (found, rest)) :
    rest.length < text.length := by
  unfold digits at done
  split at done
  · cases done
  · rename_i c text
    split at done
    · rename_i isDigit
      cases done
      rw [List.dropWhile_cons, if_pos isDigit]
      exact Nat.lt_succ_of_le (List.IsSuffix.length_le (List.dropWhile_suffix _))
    · cases done

theorem wholePart_length {text found rest : List Char}
    (done : wholePart text = .ok (found, rest)) : rest.length < text.length := by
  unfold wholePart at done
  split at done
  · split at done
    · cases done
    · cases done
      simp
  · exact digits_length done

theorem fractionPart_length {text rest : List Char} {found : Option (List Char)}
    (done : fractionPart text = .ok (found, rest)) : rest.length ≤ text.length := by
  unfold fractionPart at done
  split at done
  · rename_i text
    cases read : digits text with
    | error e =>
        rw [read] at done
        cases done
    | ok pair =>
        obtain ⟨digits, after⟩ := pair
        rw [read] at done
        cases done
        exact Nat.le_succ_of_le (Nat.le_of_lt (digits_length read))
  · cases done
    exact Nat.le_refl _

theorem exponentSign_length (text : List Char) :
    (exponentSign text).2.length ≤ text.length := by
  unfold exponentSign
  split <;> simp

theorem exponentPart_length {text rest : List Char} {found : Option (Bool × List Char)}
    (done : exponentPart text = .ok (found, rest)) : rest.length ≤ text.length := by
  unfold exponentPart at done
  split at done
  · cases done
    exact Nat.le_refl _
  · rename_i c text
    split at done
    · have short := exponentSign_length text
      cases read : digits (exponentSign text).2 with
      | error e =>
          simp only [read] at done
          cases done
      | ok pair =>
          obtain ⟨digits, after⟩ := pair
          simp only [read] at done
          cases done
          have bound := digits_length read
          simp only [List.length_cons]
          omega
    · cases done
      exact Nat.le_refl _

/-- A number takes at least one character. -/
theorem scan_length {text rest : List Char} {numeral : Numeral}
    (done : scan text = .ok (numeral, rest)) : rest.length < text.length := by
  unfold scan at done
  cases first : wholePart text with
  | error e =>
      rw [first] at done
      cases done
  | ok whole =>
      obtain ⟨whole, text₁⟩ := whole
      rw [first] at done
      cases second : fractionPart text₁ with
      | error e =>
          simp only [bind, Except.bind, second] at done
          cases done
      | ok fraction =>
          obtain ⟨fraction, text₂⟩ := fraction
          cases third : exponentPart text₂ with
          | error e =>
              simp only [bind, Except.bind, second, third] at done
              cases done
          | ok exponent =>
              obtain ⟨exponent, text₃⟩ := exponent
              simp only [bind, Except.bind, second, third] at done
              cases done
              have a := wholePart_length first
              have b := fractionPart_length second
              have c := exponentPart_length third
              omega

end Numeral
end JsonText
end UpnpAv
