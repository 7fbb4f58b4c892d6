import UpnpAv.Decimal.Binary
import UpnpAv.Decimal.Shortest

/-!
# A fixed number of places
-/

namespace UpnpAv
namespace Decimal

/-- The whole number nearest to `num / den`; a half goes to the even neighbour. -/
def roundDiv (num den : Nat) : Nat :=
  let floor := num / den
  let remainder := num % den
  if 2 * remainder < den then floor
  else if den < 2 * remainder then floor + 1
  else Tie.toEven.choose floor

/-- A number with a fixed number of places after the point. -/
def fixed (places : Nat) : Binary -> String
  | .nan => "NaN"
  | .infinite negative => String.ofList (sign negative ++ "inf".toList)
  | .finite negative significand exponent _ =>
      let exact := Ratio.scaled significand exponent
      let units := roundDiv (exact.num * Nat.pow 10 places) exact.den
      let digits := Text.padLeft (places + 1) (Text.decimal units)
      let whole := digits.take (digits.length - places)
      let fraction := digits.drop (digits.length - places)
      String.ofList (sign negative ++ whole ++ if places = 0 then [] else '.' :: fraction)

end Decimal
end UpnpAv
