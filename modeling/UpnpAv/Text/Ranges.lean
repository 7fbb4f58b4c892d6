/-!
# Sets of characters

A large set of characters is given by the runs of neighbouring code points that
belong to it.
-/

namespace UpnpAv
namespace Text

/-- First and last code point of each run. -/
abbrev Ranges :=
  Array (Nat × Nat)

namespace Ranges

/-- Whether a character lies in one of the runs. -/
def contains (ranges : Ranges) (c : Char) : Bool :=
  ranges.any fun (first, last) => first ≤ c.toNat && c.toNat ≤ last

theorem contains_iff {ranges : Ranges} {c : Char} :
    ranges.contains c = true ↔ ∃ range ∈ ranges, range.1 ≤ c.toNat ∧ c.toNat ≤ range.2 := by
  simp only [contains, Array.any_eq_true', Bool.and_eq_true, decide_eq_true_eq]

end Ranges
end Text
end UpnpAv
