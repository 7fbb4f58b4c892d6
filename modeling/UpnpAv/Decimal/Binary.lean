/-!
# Binary floating-point numbers

A floating-point number is taken apart into sign, significand and exponent, so
that its decimal text can be computed in exact arithmetic.
-/

namespace UpnpAv
namespace Decimal

/-- The layout of a binary format. -/
structure Format where
  fractionBits : Nat
  exponentBits : Nat
deriving Repr, DecidableEq

/-- The 32-bit format. -/
def Format.single : Format :=
  ⟨23, 8⟩

/-- The 64-bit format. -/
def Format.double : Format :=
  ⟨52, 11⟩

/-- A floating-point number, taken apart. -/
inductive Binary where
  | nan
  | infinite (negative : Bool)
  /--
  The number `significand * 2 ^ exponent`.  When `narrow`, the next smaller
  number is only half as far away as the next greater one.
  -/
  | finite (negative : Bool) (significand : Nat) (exponent : Int) (narrow : Bool)
deriving Repr, DecidableEq

namespace Binary

/-- The number that a bit pattern denotes. -/
def ofBits (format : Format) (bits : Nat) : Binary :=
  let fraction := bits % Nat.pow 2 format.fractionBits
  let biased := bits / Nat.pow 2 format.fractionBits % Nat.pow 2 format.exponentBits
  let negative := bits / Nat.pow 2 (format.fractionBits + format.exponentBits) % 2 == 1
  let shift : Int := Int.pow 2 (format.exponentBits - 1) - 1 + format.fractionBits
  if biased = Nat.pow 2 format.exponentBits - 1 then
    if fraction = 0 then .infinite negative else .nan
  else if biased = 0 then
    .finite negative fraction (1 - shift) false
  else
    .finite negative (Nat.pow 2 format.fractionBits + fraction) (biased - shift)
      (fraction == 0 && biased != 1)

/-- A 32-bit number, taken apart. -/
def ofFloat32 (x : Float32) : Binary :=
  ofBits .single x.toBits.toNat

/-- A 64-bit number, taken apart. -/
def ofFloat (x : Float) : Binary :=
  ofBits .double x.toBits.toNat

end Binary
end Decimal
end UpnpAv
