import UpnpAv.Text.Ascii
import UpnpAv.Text.Blank
import UpnpAv.Text.Split

/-!
# Clock times

Durations and positions are exchanged as `H:MM:SS` with an optional fraction.
Inside, they are nanoseconds that fit 64 bits with sign.
-/

namespace UpnpAv
namespace Clock

/-- Nanoseconds in a second. -/
def second : Nat :=
  1000000000

/-- The largest number of nanoseconds. -/
def limit : Nat :=
  Nat.pow 2 63 - 1

/-! # Writing -/

/-- The whole seconds of a time; an unknown or negative time counts as zero. -/
def wholeSeconds (time : Option Int) : Nat :=
  (time.getD 0).toNat / second

/-- Whole seconds as hours, minutes and seconds. -/
def chars (total : Nat) : List Char :=
  Text.decimal (total / 3600) ++
    ':' :: Text.padLeft 2 (Text.decimal (total / 60 % 60)) ++
    ':' :: Text.padLeft 2 (Text.decimal (total % 60))

/-- A time in nanoseconds as hours, minutes and whole seconds. -/
def format (time : Option Int) : String :=
  String.ofList (chars (wholeSeconds time))

/-! # Reading -/

/-- A number, if 64 bits with sign can hold it. -/
def held? (n : Nat) : Option Nat :=
  if n ≤ limit then some n else none

/-- The number that a row of digits denotes, if it can be held. -/
def number? (text : List Char) : Option Nat :=
  (Text.digitsValue? text).bind held?

/-- The nanoseconds of a fraction of a second, written after the point. -/
def fraction? : Option (List Char) -> Option Nat
  | none => some 0
  | some digits =>
      if !digits.isEmpty && digits.length ≤ 9 then number? (Text.padRight 9 digits) else none

/-- A number of minutes or seconds, which is below sixty. -/
def sixty? (text : List Char) : Option Nat :=
  (number? text).filter (· < 60)

/-- Whole seconds and fraction of the last part of a time. -/
def secondsPart (text : List Char) : List Char × Option (List Char) :=
  match Text.splitOnce? '.' text with
  | none => (text, none)
  | some (whole, fraction) => (whole, some fraction)

/-- The nanoseconds of a time in its three parts, if every number on the way can be held. -/
def combine? (hours minutes seconds : List Char) : Option Nat := do
  let (whole, fraction) := secondsPart seconds
  let h ← number? hours
  let m ← sixty? minutes
  let s ← sixty? whole
  let f ← fraction? fraction
  let wholeHours ← held? (h * 3600)
  let wholeSeconds ← held? (wholeHours + (m * 60 + s))
  let nanoseconds ← held? (wholeSeconds * second)
  held? (nanoseconds + f)

/-- The nanoseconds of a time text; blanks around it do not count. -/
def parse? (text : String) : Option Nat :=
  match Text.splitOn ':' (Text.trim text.toList) with
  | [hours, minutes, seconds] => combine? hours minutes seconds
  | _ => none

end Clock
end UpnpAv
