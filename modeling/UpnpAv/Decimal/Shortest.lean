import UpnpAv.Decimal.Binary
import UpnpAv.Text.Ascii

/-!
# The fewest digits that read back

Among the decimal numbers that are nearer to a given binary number than to any
other, the one with the fewest digits is chosen, and of these the nearest.  Two
of them may be equally near; each format has its own choice then.
-/

namespace UpnpAv
namespace Decimal

/-- Which of two equally near neighbours is chosen. -/
inductive Tie where
  /-- The one with an even last digit. -/
  | toEven
  /-- The greater one. -/
  | up
deriving Repr, DecidableEq

/-- The chosen one of two equally near neighbours, of which `floor` is the smaller. -/
def Tie.choose (tie : Tie) (floor : Nat) : Nat :=
  match tie with
  | toEven => if floor % 2 = 0 then floor else floor + 1
  | up => floor + 1

/-- The positive decimal number `digits * 10 ^ exponent`. -/
structure Scientific where
  digits : Nat
  exponent : Int
deriving Repr, DecidableEq

/-- An exact positive number, as a fraction of two numbers. -/
structure Ratio where
  num : Nat
  den : Nat
deriving Repr, DecidableEq

namespace Ratio

/-- The number `n * 2 ^ e`. -/
def scaled (n : Nat) (e : Int) : Ratio :=
  if 0 ≤ e then ⟨n * Nat.pow 2 e.toNat, 1⟩ else ⟨n, Nat.pow 2 (-e).toNat⟩

/-- A number divided by `10 ^ k`. -/
def overPower (r : Ratio) (k : Int) : Ratio :=
  if 0 ≤ k then ⟨r.num, r.den * Nat.pow 10 k.toNat⟩
  else ⟨r.num * Nat.pow 10 (-k).toNat, r.den⟩

/-- How many places the first digit of a number stands above the units; it may stand below. -/
def magnitude (r : Ratio) : Int :=
  (Text.decimal (r.num * Nat.pow 10 400 / r.den)).length - 400

end Ratio

/-- The numbers that read back as one binary number, around its value, in quarter units. -/
structure Interval where
  value : Ratio
  low : Ratio
  high : Ratio
  closed : Bool
deriving Repr, DecidableEq

/--
The interval of `significand * 2 ^ exponent`.  The ends belong to it if the
significand is even.
-/
def interval (significand : Nat) (exponent : Int) (narrow : Bool) : Interval :=
  let below := if narrow then 1 else 2
  { value := .scaled (4 * significand) (exponent - 2)
    low := .scaled (4 * significand - below) (exponent - 2)
    high := .scaled (4 * significand + 2) (exponent - 2)
    closed := significand % 2 == 0 }

/-- Whether a whole number lies in an interval. -/
def Interval.holds (i : Interval) (n : Nat) : Bool :=
  let above := if i.closed then i.low.num ≤ n * i.low.den else i.low.num < n * i.low.den
  let below := if i.closed then n * i.high.den ≤ i.high.num else n * i.high.den < i.high.num
  above && below

/-- An interval divided by `10 ^ k`. -/
def Interval.overPower (i : Interval) (k : Int) : Interval :=
  { i with
    value := i.value.overPower k
    low := i.low.overPower k
    high := i.high.overPower k }

/-- The whole number of an interval that is nearest to its value. -/
def Interval.nearest? (tie : Tie) (i : Interval) : Option Nat :=
  let floor := i.value.num / i.value.den
  let remainder := i.value.num % i.value.den
  let down := i.holds floor && floor != 0
  let up := i.holds (floor + 1)
  if down && up then
    if 2 * remainder < i.value.den then some floor
    else if i.value.den < 2 * remainder then some (floor + 1)
    else some (tie.choose floor)
  else if down then some floor
  else if up then some (floor + 1)
  else none

/-- The shortest decimal number that reads back as `significand * 2 ^ exponent`. -/
def shortest (tie : Tie) (significand : Nat) (exponent : Int) (narrow : Bool) : Scientific :=
  let exact := interval significand exponent narrow
  let top := exact.value.magnitude
  let found := (List.range 20).findSome? fun (i : Nat) =>
    let k : Int := top - i
    ((exact.overPower k).nearest? tie).map fun digits => Scientific.mk digits k
  found.getD ⟨significand, exponent⟩

/-! # Texts -/

/-- Where the decimal point stands, counted from the left of the digits. -/
def Scientific.point (s : Scientific) : Int :=
  (Text.decimal s.digits).length + s.exponent

/-- A positive decimal number without an exponent; `whole` ends a number without a fraction. -/
def Scientific.positional (whole : List Char) (s : Scientific) : List Char :=
  let digits := Text.decimal s.digits
  let point := s.point
  if 0 ≤ s.exponent then
    digits ++ List.replicate s.exponent.toNat '0' ++ whole
  else if 0 < point then
    digits.take point.toNat ++ '.' :: digits.drop point.toNat
  else
    '0' :: '.' :: List.replicate (-point).toNat '0' ++ digits

/-- The sign of a number that is less than zero, or zero with that sign. -/
def sign (negative : Bool) : List Char :=
  if negative then ['-'] else []

/--
A number in its fewest digits, never with an exponent, whole numbers without a
point.  Of two equally near numbers the greater one is shown.
-/
def plain : Binary -> String
  | .nan => "NaN"
  | .infinite negative => String.ofList (sign negative ++ "inf".toList)
  | .finite negative significand exponent narrow =>
      String.ofList <| sign negative ++
        if significand = 0 then ['0']
        else (shortest .up significand exponent narrow).positional []

end Decimal
end UpnpAv
