import UpnpAv.Clock
import UpnpAv.Proofs.Text.Digits
import UpnpAv.Proofs.Text.Split

/-!
# The grammar of clock times

A clock time consists of hours, minutes, seconds and maybe a fraction, each of
them a row of digits.  Reading accepts just these, as long as the nanoseconds
can be held, and what is written is one of them.
-/

namespace UpnpAv
namespace Clock

open Text (IsNumeral Blank)

/-!
# Spellings
-/

/-- A clock time as it is written. -/
structure Spelling where
  hours : List Char
  minutes : List Char
  seconds : List Char
  /-- What follows the point, if there is one. -/
  fraction : Option (List Char)

/-- The number that a row of digits denotes. -/
def value (digits : List Char) : Nat :=
  Nat.ofDigitChars 10 digits 0

/-- The point and what follows it. -/
def pointed : Option (List Char) -> List Char
  | none => []
  | some digits => '.' :: digits

/-- The nanoseconds of a fraction with nine digits at most. -/
def fractionValue : Option (List Char) -> Nat
  | none => 0
  | some digits => value digits * Nat.pow 10 (9 - digits.length)

namespace Spelling

/-- The characters of a clock time. -/
def chars (spelling : Spelling) : List Char :=
  spelling.hours ++ ':' :: (spelling.minutes ++ ':' :: (spelling.seconds ++
    pointed spelling.fraction))

/-- The nanoseconds that a clock time names. -/
def nanoseconds (spelling : Spelling) : Nat :=
  ((value spelling.hours * 60 + value spelling.minutes) * 60 + value spelling.seconds) *
    1000000000 + fractionValue spelling.fraction

theorem hours_le (spelling : Spelling) : value spelling.hours ≤ spelling.nanoseconds := by
  rw [nanoseconds]
  omega

/-- The rules for the parts of a clock time. -/
structure Valid (spelling : Spelling) : Prop where
  hours : IsNumeral spelling.hours
  minutes : IsNumeral spelling.minutes
  minutes_lt : value spelling.minutes < 60
  seconds : IsNumeral spelling.seconds
  seconds_lt : value spelling.seconds < 60
  fraction : forall digits, spelling.fraction = some digits ->
    IsNumeral digits ∧ digits.length ≤ 9

end Spelling

/-- A text names a number of nanoseconds; blanks around the time do not count. -/
def Names (text : String) (n : Nat) : Prop :=
  exists (before : List Char) (spelling : Spelling) (after : List Char),
    text.toList = before ++ spelling.chars ++ after ∧
    Blank before ∧ Blank after ∧ spelling.Valid ∧ spelling.nanoseconds = n

/-!
# Numbers that can be held
-/

theorem held?_eq_some {n m : Nat} : held? n = some m <-> n = m ∧ n ≤ limit := by
  rw [held?]
  by_cases hn : n ≤ limit
  · simp [hn]
  · simp [hn]

/-- A check on the way to a number that is no smaller does not refuse more than the last one. -/
theorem held?_bind (next : Nat -> Nat) {n : Nat} (hnext : n ≤ next n) :
    (held? n).bind (fun m => held? (next m)) = held? (next n) := by
  by_cases hn : n ≤ limit
  · rw [held?, if_pos hn, Option.bind_some]
  · have hlater : ¬ next n ≤ limit := fun hle => hn (Nat.le_trans hnext hle)
    rw [held?, held?, if_neg hn, if_neg hlater, Option.bind_none]

theorem held?_total (h m s f : Nat) :
    ((held? (h * 3600)).bind fun hours =>
      (held? (hours + (m * 60 + s))).bind fun seconds =>
        (held? (seconds * second)).bind fun nanoseconds => held? (nanoseconds + f)) =
      held? (((h * 60 + m) * 60 + s) * second + f) := by
  -- From the last one on, each check is taken over by the one after it.
  have hfraction (seconds : Nat) :
      ((held? (seconds * second)).bind fun nanoseconds => held? (nanoseconds + f)) =
        held? (seconds * second + f) :=
    held?_bind (fun nanoseconds => nanoseconds + f) (Nat.le_add_right _ _)
  have hseconds (hours : Nat) :
      ((held? (hours + (m * 60 + s))).bind fun seconds => held? (seconds * second + f)) =
        held? ((hours + (m * 60 + s)) * second + f) := by
    apply held?_bind fun seconds => seconds * second + f
    rw [second]
    omega
  have hhours :
      ((held? (h * 3600)).bind fun hours => held? ((hours + (m * 60 + s)) * second + f)) =
        held? ((h * 3600 + (m * 60 + s)) * second + f) := by
    apply held?_bind fun hours => (hours + (m * 60 + s)) * second + f
    rw [second]
    omega
  have htotal : h * 3600 + (m * 60 + s) = (h * 60 + m) * 60 + s := by omega
  simp only [hfraction, hseconds, hhours, htotal]

/-!
# Parts
-/

theorem number?_eq_some {text : List Char} {n : Nat} :
    number? text = some n <-> IsNumeral text ∧ value text = n ∧ n ≤ limit := by
  rw [number?, Option.bind_eq_some_iff]
  constructor
  · intro hread
    rcases hread with ⟨m, hm, hheld⟩
    rcases Text.digitsValue?_eq_some.mp hm with ⟨hnumeral, hvalue⟩
    rcases held?_eq_some.mp hheld with ⟨rfl, hle⟩
    exact ⟨hnumeral, hvalue, hle⟩
  · intro hread
    rcases hread with ⟨hnumeral, hvalue, hle⟩
    exact ⟨n, Text.digitsValue?_eq_some.mpr ⟨hnumeral, hvalue⟩, held?_eq_some.mpr ⟨rfl, hle⟩⟩

theorem sixty?_eq_some {text : List Char} {n : Nat} :
    sixty? text = some n <-> IsNumeral text ∧ value text = n ∧ n < 60 := by
  rw [sixty?, Option.filter_eq_some_iff, number?_eq_some, decide_eq_true_eq]
  constructor
  · intro hread
    exact ⟨hread.1.1, hread.1.2.1, hread.2⟩
  · intro hread
    have hlimit : 60 ≤ limit := by decide
    exact ⟨⟨hread.1, hread.2.1, Nat.le_trans (Nat.le_of_lt hread.2.2) hlimit⟩, hread.2.2⟩

theorem fraction?_eq_some {fraction : Option (List Char)} {n : Nat} :
    fraction? fraction = some n <->
      (forall digits, fraction = some digits -> IsNumeral digits ∧ digits.length ≤ 9) ∧
        fractionValue fraction = n ∧ n ≤ limit := by
  cases fraction with
  | none =>
      rw [fraction?, Option.some.injEq]
      constructor
      · intro hzero
        constructor
        · intro digits hdigits
          cases hdigits
        · exact ⟨hzero, hzero ▸ Nat.zero_le limit⟩
      · intro hread
        exact hread.2.1
  | some digits =>
      simp only [fraction?, fractionValue, Option.some.injEq, forall_eq']
      by_cases hdigits : digits ≠ [] ∧ digits.length ≤ 9
      · have hguard : (!digits.isEmpty && decide (digits.length ≤ 9)) = true := by
          simpa using hdigits
        rw [if_pos hguard, number?_eq_some, Text.isNumeral_padRight hdigits.1, value,
          Text.value_padRight, and_iff_left hdigits.2]
        rfl
      · have hguard : ¬ (!digits.isEmpty && decide (digits.length ≤ 9)) = true := by
          simpa using hdigits
        rw [if_neg hguard]
        constructor
        · intro hread
          cases hread
        · intro hread
          exact absurd ⟨hread.1.1.nonempty, hread.1.2⟩ hdigits

/-!
# Reading
-/

/-- The spelling that is read from three parts. -/
def spelled (hours minutes seconds : List Char) : Spelling :=
  ⟨hours, minutes, (secondsPart seconds).1, (secondsPart seconds).2⟩

theorem chars_spelled (hours minutes seconds : List Char) :
    (spelled hours minutes seconds).chars = hours ++ ':' :: (minutes ++ ':' :: seconds) := by
  have hseconds : (secondsPart seconds).1 ++ pointed (secondsPart seconds).2 = seconds := by
    rw [secondsPart]
    cases hsplit : Text.splitOnce? '.' seconds with
    | none =>
        exact List.append_nil seconds
    | some parts =>
        exact (Text.eq_of_splitOnce? hsplit).symm
  rw [Spelling.chars, spelled, hseconds]

theorem combine?_eq (hours minutes seconds : List Char) :
    combine? hours minutes seconds =
      (number? hours).bind fun h =>
        (sixty? minutes).bind fun m =>
          (sixty? (secondsPart seconds).1).bind fun s =>
            (fraction? (secondsPart seconds).2).bind fun f =>
              held? (((h * 60 + m) * 60 + s) * second + f) := by
  simp only [← held?_total]
  rfl

theorem combine?_eq_some {hours minutes seconds : List Char} {n : Nat} :
    combine? hours minutes seconds = some n <->
      (spelled hours minutes seconds).Valid ∧
        (spelled hours minutes seconds).nanoseconds = n ∧ n ≤ limit := by
  rw [combine?_eq]
  simp only [Option.bind_eq_some_iff]
  constructor
  · intro hread
    rcases hread with ⟨h, hhours, m, hminutes, s, hseconds, f, hfraction, htotal⟩
    rcases number?_eq_some.mp hhours with ⟨hvalidHours, rfl, _⟩
    rcases sixty?_eq_some.mp hminutes with ⟨hvalidMinutes, rfl, hminutesLt⟩
    rcases sixty?_eq_some.mp hseconds with ⟨hvalidSeconds, rfl, hsecondsLt⟩
    rcases fraction?_eq_some.mp hfraction with ⟨hvalidFraction, rfl, _⟩
    rcases held?_eq_some.mp htotal with ⟨rfl, hle⟩
    constructor
    · exact ⟨hvalidHours, hvalidMinutes, hminutesLt, hvalidSeconds, hsecondsLt, hvalidFraction⟩
    · exact ⟨rfl, hle⟩
  · intro hread
    rcases hread with ⟨hvalid, rfl, hle⟩
    -- Both the hours and the fraction are bounded by the whole.
    have hhours : value hours ≤ limit :=
      Nat.le_trans (Spelling.hours_le (spelled hours minutes seconds)) hle
    have hfraction : fractionValue (secondsPart seconds).2 ≤ limit :=
      Nat.le_trans (Nat.le_add_left _ _) hle
    refine ⟨_, number?_eq_some.mpr ⟨hvalid.hours, rfl, hhours⟩,
      _, sixty?_eq_some.mpr ⟨hvalid.minutes, rfl, hvalid.minutes_lt⟩,
      _, sixty?_eq_some.mpr ⟨hvalid.seconds, rfl, hvalid.seconds_lt⟩,
      _, fraction?_eq_some.mpr ⟨hvalid.fraction, rfl, hfraction⟩, ?_⟩
    exact held?_eq_some.mpr ⟨rfl, hle⟩

/-!
# Spellings are unambiguous
-/

namespace Spelling

variable {spelling : Spelling}

theorem Valid.not_mem_pointed (hvalid : spelling.Valid) {c : Char} (hc : c.isDigit = false)
    (hpoint : c ≠ '.') : c ∉ pointed spelling.fraction := by
  cases hfraction : spelling.fraction with
  | none =>
      exact List.not_mem_nil
  | some digits =>
      intro hmem
      rcases List.mem_cons.mp hmem with hsame | hdigit
      · exact hpoint hsame
      · exact (hvalid.fraction digits hfraction).1.not_mem hc hdigit

theorem Valid.splitOn (hvalid : spelling.Valid) :
    Text.splitOn ':' spelling.chars =
      [spelling.hours, spelling.minutes, spelling.seconds ++ pointed spelling.fraction] := by
  have hlast : ':' ∉ spelling.seconds ++ pointed spelling.fraction := by
    intro hmem
    rcases List.mem_append.mp hmem with hdigit | hpointed
    · exact hvalid.seconds.not_mem rfl hdigit
    · exact hvalid.not_mem_pointed rfl (by decide) hpointed
  rw [chars, Text.splitOn_append (hvalid.hours.not_mem rfl),
    Text.splitOn_append (hvalid.minutes.not_mem rfl), Text.splitOn_of_not_mem hlast]

theorem Valid.secondsPart (hvalid : spelling.Valid) :
    secondsPart (spelling.seconds ++ pointed spelling.fraction) =
      (spelling.seconds, spelling.fraction) := by
  have hseconds : '.' ∉ spelling.seconds := hvalid.seconds.not_mem rfl
  rw [Clock.secondsPart]
  cases spelling.fraction with
  | none =>
      rw [pointed, List.append_nil, Text.splitOnce?_of_not_mem hseconds]
  | some digits =>
      rw [pointed, Text.splitOnce?_append hseconds]

theorem Valid.spelled (hvalid : spelling.Valid) :
    spelled spelling.hours spelling.minutes (spelling.seconds ++ pointed spelling.fraction) =
      spelling := by
  rw [Clock.spelled, hvalid.secondsPart]

/-- What is written is written in one way. -/
theorem Valid.eq_of_chars_eq {other : Spelling} (hvalid : spelling.Valid) (hother : other.Valid)
    (hchars : spelling.chars = other.chars) : spelling = other := by
  have hparts := hvalid.splitOn
  rw [hchars, hother.splitOn] at hparts
  injection hparts with hhours hrest
  injection hrest with hminutes hrest
  injection hrest with hseconds
  rw [← hvalid.spelled, ← hhours, ← hminutes, ← hseconds, hother.spelled]

theorem Valid.mem_chars (hvalid : spelling.Valid) {c : Char} (hc : c ∈ spelling.chars) :
    c.isDigit = true ∨ c = ':' ∨ c = '.' := by
  simp only [chars, List.mem_append, List.mem_cons] at hc
  rcases hc with hdigit | hcolon | hdigit | hcolon | hdigit | hpointed
  · exact Or.inl (hvalid.hours.digits c hdigit)
  · exact Or.inr (Or.inl hcolon)
  · exact Or.inl (hvalid.minutes.digits c hdigit)
  · exact Or.inr (Or.inl hcolon)
  · exact Or.inl (hvalid.seconds.digits c hdigit)
  · cases hfraction : spelling.fraction with
    | none =>
        rw [hfraction] at hpointed
        cases hpointed
    | some digits =>
        rw [hfraction] at hpointed
        rcases List.mem_cons.mp hpointed with hpoint | hdigit
        · exact Or.inr (Or.inr hpoint)
        · exact Or.inl ((hvalid.fraction digits hfraction).1.digits c hdigit)

theorem Valid.unblank (hvalid : spelling.Valid) {c : Char} (hc : c ∈ spelling.chars) :
    Text.isBlank c = false := by
  rcases hvalid.mem_chars hc with hdigit | rfl | rfl
  · exact Text.isBlank_of_isDigit hdigit
  · rfl
  · rfl

theorem Valid.trim (hvalid : spelling.Valid) {before after : List Char} (hbefore : Blank before)
    (hafter : Blank after) : Text.trim (before ++ spelling.chars ++ after) = spelling.chars := by
  apply Text.trim_append hbefore hafter
  · intro c hc
    exact hvalid.unblank (List.mem_of_mem_head? hc)
  · intro c hc
    exact hvalid.unblank (List.mem_of_getLast? hc)

end Spelling

/-- Reading accepts the texts that name a number which can be held, and answers that number. -/
theorem parse?_eq_some {text : String} {n : Nat} :
    parse? text = some n <-> Names text n ∧ n ≤ limit := by
  constructor
  · intro hread
    rw [parse?] at hread
    split at hread
    · next hours minutes seconds hparts =>
        rcases combine?_eq_some.mp hread with ⟨hvalid, hnanoseconds, hle⟩
        rcases Text.exists_trim text.toList with ⟨before, after, hbefore, hafter, htext⟩
        have hjoined := Text.join_splitOn ':' (Text.trim text.toList)
        rw [hparts] at hjoined
        have hchars : (spelled hours minutes seconds).chars = Text.trim text.toList := by
          rw [chars_spelled, ← hjoined]
          simp [Text.join]
        rw [← hchars] at htext
        exact ⟨⟨before, _, after, htext, hbefore, hafter, hvalid, hnanoseconds⟩, hle⟩
    · cases hread
  · intro hnamed
    rcases hnamed with ⟨⟨before, spelling, after, htext, hbefore, hafter, hvalid, hnanoseconds⟩,
      hle⟩
    rw [parse?, htext, hvalid.trim hbefore hafter, hvalid.splitOn]
    apply combine?_eq_some.mpr
    rw [hvalid.spelled]
    exact ⟨hvalid, hnanoseconds, hle⟩

/-!
# Writing
-/

/-- The spelling in which whole seconds are written. -/
def written (total : Nat) : Spelling :=
  ⟨Text.decimal (total / 3600), Text.padLeft 2 (Text.decimal (total / 60 % 60)),
    Text.padLeft 2 (Text.decimal (total % 60)), none⟩

theorem chars_written (total : Nat) : (written total).chars = chars total := by
  simp [Spelling.chars, written, pointed, chars]

theorem written_valid (total : Nat) : (written total).Valid where
  hours := Text.decimal_isNumeral _
  minutes := (Text.decimal_isNumeral _).padLeft 2
  minutes_lt := by
    show Nat.ofDigitChars 10 _ 0 < 60
    rw [written, Text.value_padLeft, Text.value_decimal]
    exact Nat.mod_lt _ (by decide)
  seconds := (Text.decimal_isNumeral _).padLeft 2
  seconds_lt := by
    show Nat.ofDigitChars 10 _ 0 < 60
    rw [written, Text.value_padLeft, Text.value_decimal]
    exact Nat.mod_lt _ (by decide)
  fraction digits hdigits := by cases hdigits

theorem nanoseconds_written (total : Nat) : (written total).nanoseconds = total * second := by
  have hhours : value (written total).hours = total / 3600 := Text.value_decimal _
  have hminutes : value (written total).minutes = total / 60 % 60 :=
    (Text.value_padLeft 2 _).trans (Text.value_decimal _)
  have hseconds : value (written total).seconds = total % 60 :=
    (Text.value_padLeft 2 _).trans (Text.value_decimal _)
  rw [Spelling.nanoseconds, hhours, hminutes, hseconds, second]
  show ((total / 3600 * 60 + total / 60 % 60) * 60 + total % 60) * 1000000000 + 0 = _
  omega

theorem format_names (time : Option Int) : Names (format time) (wholeSeconds time * second) := by
  refine ⟨[], written (wholeSeconds time), [], ?_, ?_, ?_, written_valid _,
    nanoseconds_written _⟩
  · rw [format, String.toList_ofList, chars_written, List.nil_append, List.append_nil]
  · intro c hc
    cases hc
  · intro c hc
    cases hc

theorem parse?_format {time : Option Int} (htime : wholeSeconds time * second ≤ limit) :
    parse? (format time) = some (wholeSeconds time * second) :=
  parse?_eq_some.mpr ⟨format_names time, htime⟩

theorem format_injective {time other : Option Int} (hformat : format time = format other) :
    wholeSeconds time = wholeSeconds other := by
  have hchars := congrArg String.toList hformat
  rw [format, format, String.toList_ofList, String.toList_ofList, ← chars_written,
    ← chars_written] at hchars
  have hwritten := (written_valid _).eq_of_chars_eq (written_valid _) hchars
  have hnanoseconds := congrArg Spelling.nanoseconds hwritten
  rw [nanoseconds_written, nanoseconds_written] at hnanoseconds
  exact Nat.eq_of_mul_eq_mul_right (by decide) hnanoseconds

theorem wholeSeconds_mul (n : Nat) :
    wholeSeconds (some (n : Int)) * second = n - n % second := by
  show n / second * second = n - n % second
  rw [second]
  omega

theorem wholeSeconds_neg {n : Int} (hn : n < 0) : wholeSeconds (some n) = 0 := by
  rw [wholeSeconds, Option.getD_some, Int.toNat_of_nonpos (Int.le_of_lt hn), Nat.zero_div]

/--
What is written of a time reads as that time without its fraction, and as zero if
the time is not known or negative.  So two times are written alike exactly when they
have as many whole seconds, and writing what was read drops the fraction and no more.
-/
theorem format_read_back :
    (forall n : Nat, n ≤ limit ->
      parse? (format (some (n : Int))) = some (n - n % second)) ∧
    parse? (format none) = some 0 ∧
    (forall n : Int, n < 0 -> parse? (format (some n)) = some 0) ∧
    (forall time other : Option Int,
      format time = format other <-> wholeSeconds time = wholeSeconds other) ∧
    (forall text n, parse? text = some n ->
      parse? (format (some (n : Int))) = some (n - n % second)) := by
  have hback (n : Nat) (hn : n ≤ limit) :
      parse? (format (some (n : Int))) = some (n - n % second) := by
    rw [← wholeSeconds_mul]
    apply parse?_format
    rw [wholeSeconds_mul]
    exact Nat.le_trans (Nat.sub_le _ _) hn
  have hzero {time : Option Int} (htime : wholeSeconds time = 0) :
      parse? (format time) = some 0 := by
    rw [parse?_format (by rw [htime, Nat.zero_mul]; exact Nat.zero_le _), htime, Nat.zero_mul]
  constructor
  · exact hback
  constructor
  · exact hzero rfl
  constructor
  · intro n hn
    exact hzero (wholeSeconds_neg hn)
  constructor
  · intro time other
    constructor
    · exact format_injective
    · intro hseconds
      rw [format, format, hseconds]
  · intro text n hread
    exact hback n (parse?_eq_some.mp hread).2

end Clock
end UpnpAv
