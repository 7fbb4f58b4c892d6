import UpnpAv.JsonText.Error

/-!
# Strings of a JSON text

A string stands between double quotes.  The quote, the backslash and the
controls are escaped; any character may be, as one or two groups of four
hexadecimal digits.  A string that nobody wants to know is only skipped, and
then nobody asks whether its groups pair up.
-/

namespace UpnpAv
namespace JsonText

/-! # Groups of four hexadecimal digits -/

/-- The value of a hexadecimal digit in either case. -/
def hexDigit? (c : Char) : Option Nat :=
  if c.isDigit then some (c.toNat - '0'.toNat)
  else if 'a' ≤ c ∧ c ≤ 'f' then some (c.toNat - 'a'.toNat + 10)
  else if 'A' ≤ c ∧ c ≤ 'F' then some (c.toNat - 'A'.toNat + 10)
  else none

/-- The number that four hexadecimal digits denote. -/
def hexNumber? (a b c d : Char) : Option Nat := do
  pure (((← hexDigit? a) * 16 + (← hexDigit? b)) * 256 + (← hexDigit? c) * 16 + (← hexDigit? d))

/-- A text too short for four digits breaks off, unless its bytes would be enough. -/
def tooShort (text : List Char) : Error :=
  if text.foldl (fun bytes c => bytes + c.utf8Size) 0 < 4 then .endInString else .badEscape

/-- The number that the first four characters of a text denote, and what stands behind them. -/
def hexGroup : List Char -> Except Error (Nat × List Char)
  | a :: b :: c :: d :: rest =>
      match hexNumber? a b c d with
      | some number => .ok (number, rest)
      | none => .error .badEscape
  | text => .error (tooShort text)

theorem hexGroup_length {text rest : List Char} {number : Nat}
    (done : hexGroup text = .ok (number, rest)) : rest.length ≤ text.length := by
  unfold hexGroup at done
  split at done
  · split at done
    · cases done
      simp only [List.length_cons]
      omega
    · cases done
  · cases done

/-- The first number of a pair. -/
def isLeading (number : Nat) : Bool :=
  0xD800 ≤ number && number ≤ 0xDBFF

/-- The second number of a pair. -/
def isTrailing (number : Nat) : Bool :=
  0xDC00 ≤ number && number ≤ 0xDFFF

/-- The character that a pair of numbers denotes. -/
def paired (leading trailing : Nat) : Char :=
  Char.ofNat (0x10000 + (leading - 0xD800) * 0x400 + (trailing - 0xDC00))

/-- The second group of a pair. -/
def trailingGroup : List Char -> Except Error (Nat × List Char)
  | [] => .error .endInString
  | ['\\'] => .error .endInString
  | '\\' :: 'u' :: text => do
      let (number, rest) ← hexGroup text
      if isTrailing number then pure (number, rest) else throw .loneSurrogate
  | _ => .error .unfinishedSurrogate

theorem trailingGroup_length {text rest : List Char} {number : Nat}
    (done : trailingGroup text = .ok (number, rest)) : rest.length ≤ text.length := by
  unfold trailingGroup at done
  split at done
  · cases done
  · cases done
  · rename_i text
    cases group : hexGroup text with
    | error e =>
        rw [group] at done
        cases done
    | ok pair =>
        obtain ⟨found, after⟩ := pair
        rw [group] at done
        simp only [bind, Except.bind] at done
        split at done
        · cases done
          have bound := hexGroup_length group
          simp only [List.length_cons]
          omega
        · cases done
  · cases done

/-- The character that a group denotes, perhaps together with a second group. -/
def escapedNumber (text : List Char) : Except Error (Char × List Char) := do
  let (number, rest) ← hexGroup text
  if isTrailing number then throw .loneSurrogate
  else if isLeading number then
    let (trailing, rest) ← trailingGroup rest
    pure (paired number trailing, rest)
  else pure (Char.ofNat number, rest)

theorem escapedNumber_length {text rest : List Char} {c : Char}
    (done : escapedNumber text = .ok (c, rest)) : rest.length ≤ text.length := by
  unfold escapedNumber at done
  cases group : hexGroup text with
  | error e =>
      rw [group] at done
      cases done
  | ok pair =>
      obtain ⟨number, after⟩ := pair
      have bound := hexGroup_length group
      rw [group] at done
      simp only [bind, Except.bind] at done
      split at done
      · cases done
      · split at done
        · cases second : trailingGroup after with
          | error e =>
              rw [second] at done
              cases done
          | ok pair =>
              obtain ⟨trailing, final⟩ := pair
              rw [second] at done
              injection done with same
              injection same with _ same
              exact same ▸ Nat.le_trans (trailingGroup_length second) bound
        · injection done with same
          injection same with _ same
          exact same ▸ bound

/-! # Reading -/

/-- The escapes of one letter and the characters that they stand for. -/
def shortEscapes : List (Char × Char) :=
  [ ('"', '"'), ('\\', '\\'), ('/', '/'), ('b', '\x08'), ('f', '\x0C'), ('n', '\n'),
    ('r', '\r'), ('t', '\t') ]

/-- Whether a character may not stand in a string as it is. -/
def isControl (c : Char) : Bool :=
  c.toNat < 0x20

/-- The characters of a string, read up to the quote that ends it. -/
def decode (text : List Char) : Except Error (List Char) :=
  match text with
  | [] => .error .endInString
  | ['\\'] => .error .endInString
  | '\\' :: 'u' :: rest =>
      match _ : escapedNumber rest with
      | .error e => .error e
      | .ok (c, rest) => (decode rest).map (c :: ·)
  | '\\' :: letter :: rest =>
      match shortEscapes.lookup letter with
      | some c => (decode rest).map (c :: ·)
      | none => .error .badEscape
  | c :: rest =>
      if c = '"' then .ok []
      else if isControl c then .error .controlCharacter
      else (decode rest).map (c :: ·)
termination_by text.length
decreasing_by
  all_goals simp only [List.length_cons]
  · have bound := escapedNumber_length ‹_›
    omega
  · omega
  · omega

/-- What stands behind the quote that ends a string. -/
def skip (text : List Char) : Except Error (List Char) :=
  match text with
  | [] => .error .endInString
  | ['\\'] => .error .endInString
  | '\\' :: 'u' :: rest =>
      match _ : hexGroup rest with
      | .error e => .error e
      | .ok (_, rest) => skip rest
  | '\\' :: letter :: rest =>
      if (shortEscapes.lookup letter).isSome then skip rest else .error .badEscape
  | c :: rest =>
      if c = '"' then .ok rest
      else if isControl c then .error .controlCharacter
      else skip rest
termination_by text.length
decreasing_by
  all_goals simp only [List.length_cons]
  · have bound := hexGroup_length ‹_›
    omega
  · omega
  · omega

theorem skip_length {text rest : List Char} (done : skip text = .ok rest) :
    rest.length ≤ text.length := by
  fun_induction skip text with
  | case1 =>
      cases done
  | case2 =>
      cases done
  | case3 text e failed =>
      cases done
  | case4 text number after group ih =>
      have bound := hexGroup_length group
      have shorter := ih done
      simp only [List.length_cons]
      omega
  | case5 letter text notU known ih =>
      have shorter := ih done
      simp only [List.length_cons]
      omega
  | case6 =>
      cases done
  | case7 =>
      cases done
      simp
  | case8 =>
      cases done
  | case9 c text _ _ _ _ _ ih =>
      have shorter := ih done
      simp only [List.length_cons]
      omega

/-! # Writing -/

/-- How one character is written in a string. -/
def encodeChar (c : Char) : List Char :=
  if c = '"' then ['\\', '"']
  else if c = '\\' then ['\\', '\\']
  else if c = '\x08' then ['\\', 'b']
  else if c = '\x0C' then ['\\', 'f']
  else if c = '\n' then ['\\', 'n']
  else if c = '\r' then ['\\', 'r']
  else if c = '\t' then ['\\', 't']
  else if isControl c then
    ['\\', 'u'] ++ Text.padLeft 4 (Nat.toDigits 16 c.toNat)
  else [c]

/-- A string as it is written, with its quotes. -/
def encode (text : List Char) : List Char :=
  '"' :: text.flatMap encodeChar ++ ['"']

end JsonText
end UpnpAv
