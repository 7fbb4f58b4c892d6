import UpnpAv.Proofs.StateTable.Written

/-!
# Tables after several assignments

Assigning several values in order, each to a variable of its own, leaves every
variable with the value that was listed for it, or else with the one it had.
-/

namespace UpnpAv
namespace StateTable

/-- The table with several values replaced in order. -/
def writtenAll (table : StateTable) (values : List (VariableId × String)) : StateTable :=
  values.foldl (fun table (id, value) => table.written id value) table

/-- Name and new value of every evented variable whose values differ, in order. -/
def changedPairs (before after : StateTable) : List (String × String) :=
  ((before.slots.zip after.slots).filter fun (old, new) =>
    new.declared.evented && old.value != new.value).map fun (_, new) =>
      (new.declared.name, new.value)

/-!
# Several assignments
-/

@[simp] theorem writtenAll_nil (table : StateTable) : table.writtenAll [] = table :=
  rfl

@[simp] theorem writtenAll_cons (table : StateTable) (id : VariableId) (value : String)
    (rest : List (VariableId × String)) :
    table.writtenAll ((id, value) :: rest) = (table.written id value).writtenAll rest :=
  rfl

@[simp] theorem declared_writtenAll (values : List (VariableId × String)) :
    forall table : StateTable, (table.writtenAll values).declared = table.declared := by
  induction values with
  | nil =>
      intro table
      rfl
  | cons pair rest ih =>
      intro table
      rw [writtenAll_cons, ih, declared_written]

/-- Values that could be assigned before anybody watches are the ones that are written. -/
theorem seed_eq_writtenAll {values : List (VariableId × String)} :
    forall {table next : StateTable}, table.seed values = .ok next ->
      next = table.writtenAll values := by
  induction values with
  | nil =>
      intro table next hseed
      cases hseed
      rfl
  | cons pair rest ih =>
      intro table next hseed
      rw [writtenAll_cons]
      rcases table.assign_cases pair.1 pair.2 with
        ⟨_, hassign⟩ | ⟨hkept, hassign⟩ | ⟨slot, _, _, hassign⟩
      · rw [seed, hassign] at hseed
        cases hseed
      · rw [seed, hassign] at hseed
        rw [written_eq_self hkept]
        exact ih hseed
      · rw [seed, hassign] at hseed
        exact ih hseed

theorem length_slots_written (table : StateTable) (id : VariableId) (value : String) :
    (table.written id value).slots.length = table.slots.length := by
  rw [length_slots_eq, length_slots_eq, declared_written]

/-- A variable that nothing was listed for keeps its value. -/
theorem get?_writtenAll_other {id : VariableId} {values : List (VariableId × String)} :
    forall {table : StateTable}, id ∉ values.map Prod.fst ->
      (table.writtenAll values).get? id = table.get? id := by
  induction values with
  | nil =>
      intro table _
      rfl
  | cons pair rest ih =>
      intro table hid
      rw [List.map_cons, List.mem_cons, not_or] at hid
      rw [writtenAll_cons, ih hid.2, get?_written_other pair.2 (Ne.symm hid.1)]

/-- A variable has the value that was listed for it, or else the one it had. -/
theorem get?_writtenAll {id : VariableId} {values : List (VariableId × String)} :
    forall {table : StateTable}, (values.map Prod.fst).Nodup -> id < table.slots.length ->
      (table.writtenAll values).get? id = (values.lookup id).or (table.get? id) := by
  induction values with
  | nil =>
      intro table _ _
      rfl
  | cons pair rest ih =>
      intro table hdistinct hid
      rw [List.map_cons, List.nodup_cons] at hdistinct
      rw [writtenAll_cons, List.lookup_cons]
      by_cases hfirst : id = pair.1
      · rw [beq_iff_eq.mpr hfirst, hfirst, get?_writtenAll_other hdistinct.1,
          get?_written_same pair.2 (hfirst ▸ hid)]
        rfl
      · rw [beq_eq_false_iff_ne.mpr hfirst, ih hdistinct.2,
          get?_written_other pair.2 (Ne.symm hfirst)]
        rw [length_slots_written]
        exact hid

/-!
# Changed pairs
-/

theorem changedPairs_self (table : StateTable) : changedPairs table table = [] := by
  rw [changedPairs, List.map_eq_nil_iff, List.filter_eq_nil_iff]
  rintro ⟨old, new⟩ hmem
  rcases List.mem_iff_getElem?.mp hmem with ⟨id, hid⟩
  rw [List.getElem?_zip_eq_some] at hid
  have hsame : old = new := Option.some.inj (hid.1.symm.trans hid.2)
  rw [hsame]
  simp

/-- Only evented variables have changed pairs. -/
theorem declared_of_mem_changedPairs {before after : StateTable} {pair : String × String}
    (hpair : pair ∈ changedPairs before after) :
    exists declared, declared ∈ after.declared ∧ declared.evented = true ∧
      declared.name = pair.1 := by
  rcases List.mem_map.mp hpair with ⟨⟨old, new⟩, hmem, rfl⟩
  rcases List.mem_filter.mp hmem with ⟨hzip, hdiffers⟩
  rw [Bool.and_eq_true] at hdiffers
  exact ⟨new.declared, List.mem_map.mpr ⟨new, (List.of_mem_zip hzip).2, rfl⟩, hdiffers.1, rfl⟩

end StateTable
end UpnpAv
