import UpnpAv.JsonText.Reader

/-!
# Records and variants

A record is read from an object, whose members may come in any order, or from
a list, which holds the fields in theirs.  A variant is a text that names it, or
an object whose only member bears its name and holds its content.
-/

namespace UpnpAv
namespace JsonText

/-! # Fields -/

/-- One field of a record; `σ` holds what was read of the record so far. -/
structure Field (σ : Type) where
  name : String
  /-- Whether the field was read before. -/
  isRead : σ -> Bool
  read : Reader (σ -> σ)

/-- The field that keeps what was read in one place of `σ`. -/
def Field.of {σ β : Type} (name : String) (get : σ -> Option β) (put : β -> σ -> σ)
    (read : Reader β) : Field σ where
  name := name
  isRead known := (get known).isSome
  read := put <$> read

/-- What a record is read from. -/
inductive Form where
  | object
  /-- A list with that many of the fields. -/
  | list (length : Nat)
deriving Repr, DecidableEq

/-- How a record is read. -/
structure Record (σ α : Type) where
  name : String
  /-- What is known before any field was read. -/
  blank : σ
  fields : List (Field σ)
  /-- Whether members that are no fields are refused. -/
  isStrict : Bool
  /-- What the fields amount to. -/
  finish : Form -> σ -> Except Error α

/-- A field that must be there. -/
def required {α : Type} (form : Form) (field expected : String) :
    Option α -> Except Error α
  | some value => .ok value
  | none =>
      match form with
      | .object => .error (.missingField field)
      | .list length => .error (.wrongLength length expected)

/-- A field that may be left out of an object. -/
def omittable {α : Type} (form : Form) (expected : String) :
    Option (Option α) -> Except Error (Option α)
  | some value => .ok value
  | none =>
      match form with
      | .object => .ok none
      | .list length => .error (.wrongLength length expected)

namespace Reader

variable {σ α : Type}

/-! # Objects -/

/-- Pass over the colon between key and value. -/
def colon : Reader Unit := do
  match ← peek with
  | none => fail .endInObject
  | some .colon => advance
  | some _ => fail .expectedColon

/-- The key behind a comma. -/
def keyAfterComma : List Token -> Except Error (String × List Token)
  | [] => .error .endInValue
  | .string key _ :: tokens => key.map fun key => (key, tokens)
  | .endObject :: _ => .error .trailingComma
  | _ :: _ => .error .keyNotString

/-- The key of the next member; none at the end of the object, which is passed. -/
def nextKey (isFirst : Bool) :
    List Token -> Except Error (Option String × List Token)
  | [] => .error .endInObject
  | .endObject :: tokens => .ok (none, tokens)
  | .comma :: tokens =>
      if isFirst then .error .keyNotString
      else (keyAfterComma tokens).map fun (key, rest) => (some key, rest)
  | .string key _ :: tokens =>
      if isFirst then key.map fun key => (some key, tokens) else .error .expectedObjectEnd
  | _ :: _ => .error (if isFirst then .keyNotString else .expectedObjectEnd)

theorem keyAfterComma_length {tokens rest : List Token} {key : String}
    (done : keyAfterComma tokens = .ok (key, rest)) : rest.length ≤ tokens.length := by
  unfold keyAfterComma at done
  split at done
  · cases done
  · rename_i text _ tokens
    cases text with
    | error e =>
        cases done
    | ok text =>
        cases done
        exact Nat.le_succ _
  · cases done
  · cases done

theorem nextKey_length {isFirst : Bool} {tokens rest : List Token} {key : Option String}
    (done : nextKey isFirst tokens = .ok (key, rest)) : rest.length < tokens.length := by
  unfold nextKey at done
  split at done
  · cases done
  · cases done
    exact Nat.lt_succ_self _
  · rename_i tokens
    split at done
    · cases done
    · cases read : keyAfterComma tokens with
      | error e =>
          rw [read] at done
          cases done
      | ok pair =>
          obtain ⟨key, after⟩ := pair
          rw [read] at done
          cases done
          exact Nat.lt_succ_of_le (keyAfterComma_length read)
  · rename_i text _ tokens
    split at done
    · cases text with
      | error e =>
          cases done
      | ok text =>
          cases done
          exact Nat.lt_succ_self _
    · cases done
  · cases done

/-- The value of a member whose key was read. -/
def member (record : Record σ α) (key : String) (known : σ) : Reader σ := do
  match record.fields.find? fun field => field.name == key with
  | none =>
      if record.isStrict then
        fail (.unknownField key (record.fields.map Field.name))
      else
        colon
        skip
        pure known
  | some field =>
      if field.isRead known then
        fail (.duplicateField key)
      else
        colon
        let put ← field.read
        pure (put known)

/-- The members of an object up to its end. -/
def members (record : Record σ α) (isFirst : Bool) (known : σ) : Reader σ := fun tokens =>
  match _ : nextKey isFirst tokens with
  | .error e => .error e
  | .ok (none, rest) => .ok (known, ⟨rest, Nat.le_of_lt (nextKey_length ‹_›)⟩)
  | .ok (some key, rest) =>
      have shorter : rest.length < tokens.length := nextKey_length ‹_›
      match member record key known rest with
      | .error e => .error e
      | .ok (known, after) =>
          have bound : after.val.length < tokens.length :=
            Nat.lt_of_le_of_lt after.property shorter
          match members record false known after.val with
          | .error e => .error e
          | .ok (known, final) =>
              .ok (known, ⟨final.val, Nat.le_trans final.property (Nat.le_of_lt bound)⟩)
termination_by tokens => tokens.length

/-! # Lists -/

/-- Whether a list goes on; a comma before a further element is passed. -/
def hasElement (isFirst : Bool) : Reader Bool := do
  match ← peek with
  | none => fail .endInList
  | some .endList => pure false
  | some token =>
      if isFirst then pure true
      else
        match token with
        | .comma => do
            advance
            match ← peek with
            | none => fail .endInValue
            | some .endList => fail .trailingComma
            | some _ => pure true
        | _ => fail .expectedListEnd

/-- The fields of a record from a list, as long as it goes on. -/
def elements : List (Field σ) -> (length : Nat) -> (known : σ) -> Reader (Nat × σ)
  | [], length, known => pure (length, known)
  | field :: fields, length, known => do
      if ← hasElement (length = 0) then
        let put ← field.read
        elements fields (length + 1) (put known)
      else
        pure (length, known)

/-- Pass over the end of a list. -/
def endOfList : Reader Unit := do
  match ← peek with
  | none => fail .endInList
  | some .endList => advance
  | some .comma => do
      advance
      match ← peek with
      | some .endList => fail .trailingComma
      | _ => fail .trailingCharacters
  | some _ => fail .trailingCharacters

/-! # Records -/

/-- A record. -/
def record (record : Record σ α) : Reader α := do
  match ← valueToken with
  | .beginObject => do
      advance
      let known ← members record true record.blank
      ofExcept (record.finish .object known)
  | .beginList => do
      advance
      let (length, known) ← elements record.fields 0 record.blank
      let value ← ofExcept (record.finish (.list length) known)
      endOfList
      pure value
  | token => reject ("struct " ++ record.name) token

end Reader

/-! # Variants -/

/-- One of several possible values. -/
inductive Variant (α : Type) where
  | plain (value : α)
  | holding (content : Reader α)

namespace Reader

variable {α : Type}

/-- The name of a variant, which is the only key of its object. -/
def variantKey : Reader String := do
  match ← peek with
  | none => fail .endInObject
  | some (.string name _) => do
      advance
      ofExcept name
  | some .endObject => fail .expectedValue
  | some _ => fail .keyNotString

/-- The variant of a given name. -/
def variantNamed (variants : List (String × Variant α)) (name : String) : Reader (Variant α) :=
  match variants.lookup name with
  | some variant => pure variant
  | none => fail (.unknownVariant name (variants.map Prod.fst))

/-- The value of a variant in an object, where a plain one holds nothing. -/
def content : Variant α -> Reader α
  | .plain value => do
      null
      pure value
  | .holding content => content

/-- The end of an object that holds a variant. -/
def endOfVariant : Reader Unit := do
  match ← peek with
  | none => fail .endInObject
  | some .endObject => advance
  | some _ => fail .expectedValue

/-- One of several variants. -/
def variant (variants : List (String × Variant α)) : Reader α := do
  match ← valueToken with
  | .beginObject => do
      advance
      let variant ← variantNamed variants (← variantKey)
      colon
      let value ← content variant
      endOfVariant
      pure value
  | .string name _ => do
      advance
      match ← variantNamed variants (← ofExcept name) with
      | .plain value => pure value
      | .holding _ => fail (.wrongType .unitVariant "newtype variant")
  | _ => fail .expectedValue

end Reader
end JsonText
end UpnpAv
