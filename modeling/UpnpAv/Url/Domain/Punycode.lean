/-!
# Labels in ASCII form

A label with characters beyond ASCII is written as its ASCII characters, then a
hyphen, then digits of base thirty-six.  The digits say which character comes
next in the order of code points, and where it is inserted.
-/

namespace UpnpAv
namespace Url
namespace Domain
namespace Punycode

/-- The value of a digit. -/
def digit? (c : Char) : Option Nat :=
  if c.isDigit then some (c.toNat - '0'.toNat + 26)
  else if c.isAlpha then some (c.toLower.toNat - 'a'.toNat)
  else none

/-- The least digit that does not end a number; `place` counts the digits before it. -/
def threshold (bias place : Nat) : Nat :=
  min 26 (max 1 (36 * (place + 1) - bias))

/-- The number at the front of a text, and what stands behind it. -/
def number? (bias : Nat) :
    (place weight sum : Nat) -> List Char -> Option (Nat × List Char)
  | _, _, _, [] => none
  | place, weight, sum, c :: rest => do
      let digit ← digit? c
      let sum := sum + digit * weight
      let threshold := threshold bias place
      if Nat.pow 2 32 ≤ sum then none
      else if digit < threshold then pure (sum, rest)
      else number? bias (place + 1) (weight * (36 - threshold)) sum rest

/-- A number takes at least one character. -/
theorem number?_length {bias place weight sum number : Nat} {text rest : List Char}
    (done : number? bias place weight sum text = some (number, rest)) :
    rest.length < text.length := by
  induction text generalizing place weight sum with
  | nil =>
      cases done
  | cons c text ih =>
      unfold number? at done
      cases read : digit? c with
      | none =>
          rw [read] at done
          cases done
      | some digit =>
          rw [read] at done
          simp only [Option.bind_eq_bind, Option.bind_some] at done
          split at done
          · cases done
          · split at done
            · cases done
              exact Nat.lt_succ_self _
            · exact Nat.lt_succ_of_lt (ih done)

/-- The bias that a distance leads to, which is divided until it is small. -/
def settled (distance bias : Nat) : Nat :=
  if 455 < distance then settled (distance / 35) (bias + 36)
  else bias + 36 * distance / (distance + 38)
termination_by distance

/-- The bias for the next number; `length` counts the characters so far. -/
def nextBias (distance length : Nat) (isFirst : Bool) : Nat :=
  let distance := if isFirst then distance / 700 else distance / 2
  settled (distance + distance / length) 0

/-- The character with a given code point. -/
def char? (code : Nat) : Option Char :=
  if h : code.isValidChar then some (Char.ofNatAux code h) else none

/--
Insert the characters that a text of digits tells of into the characters `known`.
`code` is the code point and `place` the place where counting goes on.
-/
def insertFrom (bias code place : Nat) (known : List Char) (text : List Char) :
    Option (List Char) :=
  match text with
  | [] => some known
  | c :: more =>
      match _ : number? bias 0 1 place (c :: more) with
      | none => none
      | some (sum, rest) =>
          let length := known.length + 1
          let code := code + sum / length
          match char? code with
          | none => none
          | some inserted =>
              insertFrom (nextBias (sum - place) length (place == 0)) code (sum % length + 1)
                (known.insertIdx (sum % length) inserted) rest
termination_by text.length
decreasing_by exact number?_length ‹_›

/-- The most characters of a label that is decoded. -/
def longest : Nat :=
  2000

/-- The characters that a text in ASCII form tells of; none when it tells of nothing. -/
def decode? (text : List Char) : Option (List Char) :=
  let digits := (text.reverse.takeWhile (· ≠ '-')).reverse
  let plain := text.take (text.length - digits.length - 1)
  if digits.isEmpty || longest < text.length || !plain.all (·.toNat < 128) then none
  else insertFrom 72 128 0 plain digits

end Punycode
end Domain
end Url
end UpnpAv
