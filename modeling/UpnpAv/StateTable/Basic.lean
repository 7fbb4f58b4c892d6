/-!
# State tables

A service declares its state variables once, in a table.  The position of a
variable in the table is its identifier.  Assigning a value that differs from
the present one is a change; assigning the present value again is none.
-/

namespace UpnpAv

/-- The position of a variable in its table. -/
abbrev VariableId :=
  Nat

/-- What a service declares about one variable. -/
structure Variable where
  name : String
  initial : String
  /-- Whether subscribers are told about its changes. -/
  evented : Bool
deriving Repr, DecidableEq

namespace Variable

/-- A variable whose changes subscribers are told about. -/
def subscribed (name initial : String) : Variable :=
  ⟨name, initial, true⟩

/-- A variable that is only asked for. -/
def silent (name initial : String) : Variable :=
  ⟨name, initial, false⟩

end Variable

/-- A variable together with its present value. -/
structure Slot where
  declared : Variable
  value : String
deriving Repr, DecidableEq

/-- A value that was replaced by a different one. -/
structure Change where
  id : VariableId
  name : String
  oldValue : String
  newValue : String
  evented : Bool
deriving Repr, DecidableEq

/-- The variables of one service with their present values. -/
structure StateTable where
  slots : List Slot
deriving Repr, DecidableEq

namespace StateTable

/-- Why an assignment is refused. -/
inductive Error where
  | unknownVariable (id : VariableId)
deriving Repr, DecidableEq

/-- The text of a refusal. -/
def Error.message : Error -> String
  | .unknownVariable id => s!"Unknown variable id: {id}"

/-- The table of the declared variables, each with its initial value. -/
def ofVariables (declared : List Variable) : StateTable :=
  ⟨declared.map fun v => ⟨v, v.initial⟩⟩

/-! # Looking up -/

/-- The present value of a variable. -/
def get? (table : StateTable) (id : VariableId) : Option String :=
  table.slots[id]?.map Slot.value

/-- The name of a variable. -/
def name? (table : StateTable) (id : VariableId) : Option String :=
  table.slots[id]?.map fun slot => slot.declared.name

/-- Whether subscribers are told about a variable. -/
def evented? (table : StateTable) (id : VariableId) : Option Bool :=
  table.slots[id]?.map fun slot => slot.declared.evented

/-- The first variable of a given name. -/
def idOf? (table : StateTable) (name : String) : Option VariableId :=
  table.slots.findIdx? fun slot => slot.declared.name == name

/-- The present value of the first variable of a given name. -/
def valueOf? (table : StateTable) (name : String) : Option String :=
  (table.idOf? name).bind table.get?

/-- The number of variables. -/
def size (table : StateTable) : Nat :=
  table.slots.length

/-- All present values in the order of the identifiers. -/
def values (table : StateTable) : List String :=
  table.slots.map Slot.value

/-- All variables as identifier, name and value, in the order of the identifiers. -/
def entries (table : StateTable) : List (VariableId × String × String) :=
  table.slots.zipIdx.map fun (slot, id) => (id, slot.declared.name, slot.value)

/-- Name and value of every variable that subscribers are told about, in order. -/
def eventedPairs (table : StateTable) : List (String × String) :=
  (table.slots.filter fun slot => slot.declared.evented).map fun slot =>
    (slot.declared.name, slot.value)

/-! # Assigning -/

/--
Assign a value.  The answer holds the table afterwards and, when the value is
a new one, the change.
-/
def assign (table : StateTable) (id : VariableId) (value : String) :
    Except Error (StateTable × Option Change) :=
  match table.slots[id]? with
  | none => .error (.unknownVariable id)
  | some slot =>
      if slot.value = value then
        .ok (table, none)
      else
        .ok
          (⟨table.slots.set id { slot with value := value }⟩,
            some ⟨id, slot.declared.name, slot.value, value, slot.declared.evented⟩)

/-- Assign several values in order, before anybody watches. -/
def seed (table : StateTable) : List (VariableId × String) -> Except Error StateTable
  | [] => .ok table
  | (id, value) :: rest => do
      let (next, _) ← table.assign id value
      seed next rest

theorem assign_unknown {table : StateTable} {id : VariableId} {value : String}
    (unknown : table.slots[id]? = none) :
    table.assign id value = .error (.unknownVariable id) := by
  simp [assign, unknown]

theorem assign_same {table : StateTable} {id : VariableId} {slot : Slot}
    (known : table.slots[id]? = some slot) :
    table.assign id slot.value = .ok (table, none) := by
  simp [assign, known]

theorem assign_new {table : StateTable} {id : VariableId} {slot : Slot} {value : String}
    (known : table.slots[id]? = some slot) (new : slot.value ≠ value) :
    table.assign id value =
      .ok
        (⟨table.slots.set id { slot with value := value }⟩,
          some ⟨id, slot.declared.name, slot.value, value, slot.declared.evented⟩) := by
  simp [assign, known, new]

end StateTable
end UpnpAv
