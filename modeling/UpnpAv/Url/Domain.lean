import UpnpAv.Text.Split
import UpnpAv.Url.Domain.Direction
import UpnpAv.Url.Domain.Form
import UpnpAv.Url.Domain.Joiner
import UpnpAv.Url.Domain.Punycode
import UpnpAv.Url.Domain.Standing

/-!
# Internationalised domains

A domain is looked up after each of its characters is replaced by what it stands
for.  Its labels, shown without their ASCII form, must be well formed one by one
and readable together.
-/

namespace UpnpAv
namespace Url
namespace Domain

/-- The characters that a character stands for; none when no domain may contain it. -/
def standing? (c : Char) : Option (List Char) :=
  match form? c with
  | some form => some form
  | none =>
      if refused.contains c then none
      else if ignored.contains c then some []
      else some [c]

/-- A text in which a stroke through a sign of order makes one character with the sign. -/
def struck : List Char -> List Char
  | '<' :: '\u0338' :: rest => '≮' :: struck rest
  | '>' :: '\u0338' :: rest => '≯' :: struck rest
  | c :: rest => c :: struck rest
  | [] => []

/-- Whether a label does not begin with a mark and has its joiners where they may stand. -/
def isWellFormed (label : List Char) : Bool :=
  !label.head?.any isMark && joinersFit [] label

/-- The most characters of a label that has an ASCII form. -/
def longestLabel : Nat :=
  1000

/-- The label that a text in ASCII form, without the mark in front of it, tells of. -/
def decodedLabel? (text : List Char) : Option (List Char) :=
  (Punycode.decode? text).filter fun label =>
    label.all isValid && isComposed label && isWellFormed label

/-- The characters that a label shows; none when it is not well formed. -/
def shown? (label : List Char) : Option (List Char) :=
  match label with
  | 'x' :: 'n' :: '-' :: '-' :: text => decodedLabel? text
  | _ =>
      if label.all (·.toNat < 128) || (isWellFormed label && label.length ≤ longestLabel) then
        some label
      else none

/-- A domain with its characters replaced by what they stand for; none when it is unacceptable. -/
def resolved? (domain : List Char) : Option (List Char) := do
  let text := struck (← domain.mapM standing?).flatten
  let labels ← (Text.splitOn '.' text).mapM shown?
  if areReadable labels then some text else none

/-- A single unacceptable character makes the domain unacceptable. -/
theorem resolved?_eq_none_of_mem {domain : List Char} {c : Char} (member : c ∈ domain)
    (unacceptable : standing? c = none) : resolved? domain = none := by
  have stops : domain.mapM standing? = none := by
    induction domain with
    | nil =>
        cases member
    | cons first rest ih =>
        rw [List.mapM_cons]
        cases List.mem_cons.mp member with
        | inl same =>
            subst same
            rw [unacceptable]
            rfl
        | inr later =>
            rw [ih later]
            cases standing? first <;> rfl
  unfold resolved?
  rw [stops]
  rfl

end Domain
end Url
end UpnpAv
