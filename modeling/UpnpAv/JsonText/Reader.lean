import UpnpAv.JsonText.Skip

/-!
# Readers

A reader takes a value of one form from the front of a list of tokens.  What
is wrong with a text is reported where it first shows, be it a fault of the
text or a value of another form.  A reader never gives more tokens back than
it was given.
-/

namespace UpnpAv
namespace JsonText

/-- Tokens that are left of a list of tokens. -/
abbrev Rest (tokens : List Token) : Type :=
  { rest : List Token // rest.length ≤ tokens.length }

/-- A reader of values. -/
def Reader (α : Type) : Type :=
  (tokens : List Token) -> Except Error (α × Rest tokens)

namespace Reader

variable {α β : Type}

/-! # Sequencing -/

/-- Read a value, then go on with `next`. -/
def bind (read : Reader α) (next : α -> Reader β) : Reader β := fun tokens =>
  match read tokens with
  | .error e => .error e
  | .ok (a, rest) =>
      match next a rest.val with
      | .error e => .error e
      | .ok (b, final) => .ok (b, ⟨final.val, Nat.le_trans final.property rest.property⟩)

instance : Monad Reader where
  pure a := fun tokens => .ok (a, ⟨tokens, Nat.le_refl _⟩)
  bind := bind

/-- Reject the text. -/
def fail (e : Error) : Reader α := fun _ =>
  .error e

/-- Go on with a computed result. -/
def ofExcept : Except Error α -> Reader α
  | .ok a => pure a
  | .error e => fail e

/-- The next token, which stays where it is. -/
def peek : Reader (Option Token) := fun tokens =>
  .ok (tokens.head?, ⟨tokens, Nat.le_refl _⟩)

/-- Pass over the next token. -/
def advance : Reader Unit := fun tokens =>
  .ok ((), ⟨tokens.drop 1, by simp⟩)

/-- Pass over a value that nobody asked for. -/
def skip : Reader Unit := fun tokens =>
  match done : Skip.rest .start tokens with
  | .error e => .error e
  | .ok rest => .ok ((), ⟨rest, Skip.rest_length done⟩)

/-! # Values of another form -/

/-- A word as it is found. -/
def foundWord : Word -> Found
  | .null => .null
  | .boolean value => .boolean value

/-- The value of a number token. -/
def numberValue (negative : Bool) : Except Malformed Numeral -> Except Error Found
  | .ok numeral => numeral.value negative
  | .error .ended => .error .endInValue
  | .error .misplaced => .error .badNumber

/-- What a token is, where it begins a value. -/
def found : Token -> Except Error Found
  | .word word => word.map foundWord
  | .number negative numeral => numberValue negative numeral
  | .string text _ => text.map .string
  | .beginList => .ok .sequence
  | .beginObject => .ok .map
  | _ => .error .expectedValue

/-- Reject the next token, which is not of the expected form. -/
def reject (expected : String) (token : Token) : Reader α :=
  match found token with
  | .ok found => fail (.wrongType found expected)
  | .error e => fail e

/-- The next token, which must begin a value. -/
def valueToken : Reader Token := do
  match ← peek with
  | none => fail .endInValue
  | some token => pure token

/-! # Simple values -/

/-- A text. -/
def text : Reader String := do
  match ← valueToken with
  | .string text _ => do
      advance
      ofExcept text
  | token => reject "a string" token

/-- A truth value. -/
def boolean : Reader Bool := do
  match ← valueToken with
  | .word (.ok (.boolean value)) => do
      advance
      pure value
  | token => reject "a boolean" token

/-- The value that stands for nothing. -/
def null : Reader Unit := do
  match ← valueToken with
  | .word (.ok .null) => advance
  | token => reject "unit" token

/-- A whole number between two bounds. -/
def bounded (expected : String) (low high : Int) : Reader Int := do
  match ← valueToken with
  | .number negative numeral => do
      advance
      match ← ofExcept (numberValue negative numeral) with
      | .integer value =>
          if low ≤ value ∧ value ≤ high then pure value
          else fail (.wrongValue (.integer value) expected)
      | other => fail (.wrongType other expected)
  | token => reject expected token

/-- A whole number of 64 bits with sign. -/
def int64 : Reader Int :=
  bounded "i64" (-Int.pow 2 63) (Int.pow 2 63 - 1)

/-- A natural number of 64 bits. -/
def nat64 : Reader Nat := do
  pure (← bounded "u64" 0 (Int.pow 2 64 - 1)).toNat

/-- A natural number of 32 bits. -/
def nat32 : Reader Nat := do
  pure (← bounded "u32" 0 (Int.pow 2 32 - 1)).toNat

/-- The floating-point number nearest to a whole number of 64 bits. -/
def nearest (value : Int) : Float :=
  Numeral.signed (value < 0) value.natAbs.toUInt64.toFloat

/-- A floating-point number; a whole number will do. -/
def float : Reader Float := do
  match ← valueToken with
  | .number negative numeral => do
      advance
      match ← ofExcept (numberValue negative numeral) with
      | .integer value => pure (nearest value)
      | .float value => pure value
      | other => fail (.wrongType other "f64")
  | token => reject "f64" token

/-- A value that may be missing. -/
def optional (read : Reader α) : Reader (Option α) := do
  match ← peek with
  | some (.word (.ok .null)) => do
      advance
      pure none
  | _ => some <$> read

/-! # Whole texts -/

/-- Read a text that holds one value and nothing else. -/
def run (read : Reader α) (text : String) : Except Error α :=
  match read (Token.scan text.toList) with
  | .error e => .error e
  | .ok (value, rest) =>
      if rest.val.isEmpty then .ok value else .error .trailingCharacters

end Reader
end JsonText
end UpnpAv
