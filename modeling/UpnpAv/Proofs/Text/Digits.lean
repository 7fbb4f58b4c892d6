import UpnpAv.Text.Ascii
import UpnpAv.Text.Blank

/-!
# Rows of decimal digits

Zeros on the left leave the number of a row as it is, and each zero on the right
makes it ten times as large.  A number written in decimal digits is read back.
-/

namespace UpnpAv
namespace Text

/-- A row of ASCII digits, one at least. -/
structure IsNumeral (digits : List Char) : Prop where
  nonempty : digits ≠ []
  digits : forall c, c ∈ digits -> c.isDigit = true

theorem isDigits_iff {digits : List Char} : isDigits digits = true <-> IsNumeral digits := by
  rw [isDigits, Bool.and_eq_true, List.all_eq_true]
  constructor
  · intro hdigits
    constructor
    · simpa using hdigits.1
    · exact hdigits.2
  · intro hnumeral
    constructor
    · simpa using hnumeral.nonempty
    · exact hnumeral.digits

theorem IsNumeral.not_mem {digits : List Char} (hnumeral : IsNumeral digits) {c : Char}
    (hc : c.isDigit = false) : c ∉ digits := by
  intro hmem
  rw [hnumeral.digits c hmem] at hc
  cases hc

theorem isBlank_of_isDigit {c : Char} (hc : c.isDigit = true) : isBlank c = false := by
  have hbounds : 48 ≤ c.toNat ∧ c.toNat ≤ 57 := Char.isDigit_iff_toNat.mp hc
  simp only [isBlank, Bool.or_eq_false_iff, Bool.and_eq_false_iff, decide_eq_false_iff_not,
    beq_eq_false_iff_ne]
  omega

/-!
# Values
-/

/-- The value of a row is read from the left in base ten. -/
theorem decimalValue_eq (digits : List Char) :
    decimalValue digits = Nat.ofDigitChars 10 digits 0 := by
  rw [decimalValue, Nat.ofDigitChars_eq_foldl]
  congr
  funext value c
  rw [Nat.mul_comm]

theorem digitsValue?_eq_some {text : List Char} {n : Nat} :
    digitsValue? text = some n <-> IsNumeral text ∧ Nat.ofDigitChars 10 text 0 = n := by
  rw [digitsValue?, ← decimalValue_eq, ← isDigits_iff]
  cases isDigits text <;> simp

theorem decimal_isNumeral (n : Nat) : IsNumeral (decimal n) where
  nonempty := Nat.toDigits_ne_nil
  digits _ hc := Nat.isDigit_of_mem_toDigits (by decide) (by decide) hc

theorem value_decimal (n : Nat) : Nat.ofDigitChars 10 (decimal n) 0 = n :=
  Nat.ofDigitChars_ten_toDigits

/-!
# Zeros on either side
-/

theorem IsNumeral.padLeft {digits : List Char} (hnumeral : IsNumeral digits) (width : Nat) :
    IsNumeral (padLeft width digits) := by
  constructor
  · intro hnil
    exact hnumeral.nonempty (List.append_eq_nil_iff.mp hnil).2
  · intro c hc
    rcases List.mem_append.mp hc with hzero | hdigit
    · rw [List.eq_of_mem_replicate hzero]
      rfl
    · exact hnumeral.digits c hdigit

theorem value_padLeft (width : Nat) (digits : List Char) :
    Nat.ofDigitChars 10 (padLeft width digits) 0 = Nat.ofDigitChars 10 digits 0 := by
  rw [padLeft, Nat.ofDigitChars_append, Nat.ofDigitChars_replicate_zero, Nat.mul_zero]

theorem isNumeral_padRight {width : Nat} {digits : List Char} (hnonempty : digits ≠ []) :
    IsNumeral (padRight width digits) <-> IsNumeral digits := by
  constructor
  · intro hpadded
    constructor
    · exact hnonempty
    · intro c hc
      exact hpadded.digits c (List.mem_append_left _ hc)
  · intro hnumeral
    constructor
    · intro hnil
      exact hnonempty (List.append_eq_nil_iff.mp hnil).1
    · intro c hc
      rcases List.mem_append.mp hc with hdigit | hzero
      · exact hnumeral.digits c hdigit
      · rw [List.eq_of_mem_replicate hzero]
        rfl

theorem value_padRight (width : Nat) (digits : List Char) :
    Nat.ofDigitChars 10 (padRight width digits) 0 =
      Nat.ofDigitChars 10 digits 0 * Nat.pow 10 (width - digits.length) := by
  rw [padRight, Nat.ofDigitChars_append, Nat.ofDigitChars_replicate_zero, Nat.mul_comm,
    Nat.pow_eq]

end Text
end UpnpAv
