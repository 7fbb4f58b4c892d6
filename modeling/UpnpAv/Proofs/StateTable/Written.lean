import UpnpAv.StateTable.Basic

/-!
# Tables after an assignment

Assigning changes one value and leaves the declarations as they are.  The pairs
of the evented variables follow: the pair of the assigned variable is replaced,
and all others stay.
-/

namespace UpnpAv
namespace StateTable

/-- The table with one value replaced; a variable that does not exist is passed over. -/
def written (table : StateTable) (id : VariableId) (value : String) : StateTable :=
  ⟨table.slots.modify id fun slot => { slot with value := value }⟩

/-- What the variables of a table are declared to be. -/
def declared (table : StateTable) : List Variable :=
  table.slots.map Slot.declared

/-!
# Assigning
-/

theorem written_eq_set {table : StateTable} {id : VariableId} {slot : Slot} (value : String)
    (hslot : table.slots[id]? = some slot) :
    table.written id value = ⟨table.slots.set id { slot with value := value }⟩ := by
  rw [written]
  congr 1
  apply List.ext_getElem?
  intro i
  rw [List.getElem?_modify, List.getElem?_set]
  by_cases hid : id = i
  · subst hid
    rcases List.getElem?_eq_some_iff.mp hslot with ⟨hlt, hget⟩
    simp [hlt, hget]
  · simp [hid]

/-- Everything that assigning can do. -/
theorem assign_cases (table : StateTable) (id : VariableId) (value : String) :
    (table.slots[id]? = none ∧ table.assign id value = .error (.unknownVariable id)) ∨
      (table.get? id = some value ∧ table.assign id value = .ok (table, none)) ∨
      (exists slot, table.slots[id]? = some slot ∧ slot.value ≠ value ∧
        table.assign id value =
          .ok (table.written id value,
            some ⟨id, slot.declared.name, slot.value, value, slot.declared.evented⟩)) := by
  cases hslot : table.slots[id]? with
  | none =>
      exact Or.inl ⟨rfl, assign_unknown hslot⟩
  | some slot =>
      apply Or.inr
      by_cases hsame : slot.value = value
      · apply Or.inl
        subst hsame
        exact ⟨by simp [get?, hslot], assign_same hslot⟩
      · apply Or.inr
        refine ⟨slot, rfl, hsame, ?_⟩
        rw [assign_new hslot hsame, written_eq_set value hslot]

/-- An assignment changes a variable exactly if it brings a value that differs. -/
theorem assign_changes_iff {table : StateTable} {id : VariableId} {old new : String}
    (hold : table.get? id = some old) :
    (exists next change, table.assign id new = .ok (next, some change)) <-> old ≠ new := by
  constructor
  · rintro ⟨next, change, hassign⟩ hequal
    rcases table.assign_cases id new with
      ⟨_, hrefused⟩ | ⟨_, hkept⟩ | ⟨slot, hslot, hdiffers, _⟩
    · rw [hrefused] at hassign
      cases hassign
    · rw [hkept] at hassign
      cases hassign
    · rw [get?, hslot] at hold
      exact hdiffers ((Option.some.inj hold).trans hequal)
  · intro hdiffers
    rcases table.assign_cases id new with
      ⟨hunknown, _⟩ | ⟨hkept, _⟩ | ⟨slot, _, _, hassign⟩
    · rw [get?, hunknown] at hold
      cases hold
    · rw [hold] at hkept
      exact absurd (Option.some.inj hkept) hdiffers
    · exact ⟨_, _, hassign⟩

/-!
# Looking up
-/

@[simp] theorem declared_written (table : StateTable) (id : VariableId) (value : String) :
    (table.written id value).declared = table.declared := by
  simp only [declared, written]
  apply List.ext_getElem?
  intro i
  rw [List.getElem?_map, List.getElem?_map, List.getElem?_modify]
  cases table.slots[i]? with
  | none =>
      rfl
  | some slot =>
      by_cases hid : id = i <;> simp [hid]

theorem slots_written_same {table : StateTable} {id : VariableId} {slot : Slot} (value : String)
    (hslot : table.slots[id]? = some slot) :
    (table.written id value).slots[id]? = some { slot with value := value } := by
  simp [written, hslot]

theorem slots_written_other {table : StateTable} {id other : VariableId} (value : String)
    (hother : id ≠ other) : (table.written id value).slots[other]? = table.slots[other]? := by
  simp [written, List.getElem?_modify_ne _ _ hother]

theorem get?_written_same {table : StateTable} {id : VariableId} (value : String)
    (hid : id < table.slots.length) : (table.written id value).get? id = some value := by
  simp [get?, written, hid]

theorem get?_written_other {table : StateTable} {id other : VariableId} (value : String)
    (hother : id ≠ other) : (table.written id value).get? other = table.get? other := by
  simp [get?, written, List.getElem?_modify_ne _ _ hother]

theorem length_slots_eq (table : StateTable) : table.slots.length = table.declared.length := by
  rw [declared, List.length_map]

theorem written_eq_self {table : StateTable} {id : VariableId} {value : String}
    (hvalue : table.get? id = some value) : table.written id value = table := by
  rcases Option.map_eq_some_iff.mp hvalue with ⟨slot, hslot, rfl⟩
  rw [written_eq_set slot.value hslot]
  rcases List.getElem?_eq_some_iff.mp hslot with ⟨hlt, rfl⟩
  exact congrArg StateTable.mk (List.set_getElem_self hlt)

theorem written_unknown {table : StateTable} {id : VariableId} (value : String)
    (hslot : table.slots[id]? = none) : table.written id value = table := by
  rw [written, List.modify_eq_self (List.getElem?_eq_none_iff.mp hslot)]

theorem idOf?_eq (table : StateTable) (name : String) :
    table.idOf? name = table.declared.findIdx? fun declared => declared.name == name := by
  rw [idOf?, declared, List.findIdx?_map]
  rfl

theorem evented?_eq (table : StateTable) (id : VariableId) :
    table.evented? id = table.declared[id]?.map Variable.evented := by
  rw [evented?, declared, List.getElem?_map, Option.map_map]
  rfl

theorem getElem?_declared (table : StateTable) (id : VariableId) :
    table.declared[id]? = table.slots[id]?.map Slot.declared :=
  List.getElem?_map

theorem declared_of_slot {table : StateTable} {id : VariableId} {slot : Slot}
    (hslot : table.slots[id]? = some slot) : table.declared[id]? = some slot.declared := by
  rw [getElem?_declared, hslot]
  rfl

theorem exists_slot {table : StateTable} {id : VariableId} {v : Variable}
    (hv : table.declared[id]? = some v) :
    exists slot, table.slots[id]? = some slot ∧ slot.declared = v := by
  rw [getElem?_declared] at hv
  exact Option.map_eq_some_iff.mp hv

/-- Where all names are distinct, a name belongs to one identifier only. -/
theorem id_eq_of_name_eq {table : StateTable} {first second : VariableId} {slot other : Slot}
    (hnames : (table.declared.map Variable.name).Nodup)
    (hslot : table.slots[first]? = some slot) (hother : table.slots[second]? = some other)
    (hname : slot.declared.name = other.declared.name) : first = second := by
  rcases List.getElem?_eq_some_iff.mp hslot with ⟨hlt, _⟩
  apply (List.getElem?_inj _ hnames).mp
  · simp [declared, hslot, hother, hname]
  · simpa [declared] using hlt

/-!
# Evented pairs
-/

/-- A list of pairs with the value of one name replaced. -/
def replaced (pair : String × String) (held : List (String × String)) :
    List (String × String) :=
  held.map fun old => if old.1 = pair.1 then pair else old

theorem names_replaced (pair : String × String) (held : List (String × String)) :
    (replaced pair held).map Prod.fst = held.map Prod.fst := by
  rw [replaced, List.map_map]
  apply List.map_congr_left
  intro old _
  by_cases hold : old.1 = pair.1
  · simp [hold]
  · simp [hold]

theorem replaced_eq_self {pair : String × String} {held : List (String × String)}
    (hpair : forall old, old ∈ held -> old.1 = pair.1 -> old = pair) :
    replaced pair held = held := by
  rw [replaced]
  apply (List.map_congr_left ?_).trans (List.map_id held)
  intro old hold
  by_cases hname : old.1 = pair.1
  · rw [if_pos hname, hpair old hold hname, id]
  · rw [if_neg hname, id]

theorem replaced_comm {first second : String × String} (held : List (String × String))
    (hnames : first.1 ≠ second.1) :
    replaced second (replaced first held) = replaced first (replaced second held) := by
  rw [replaced, replaced, replaced, replaced, List.map_map, List.map_map]
  apply List.map_congr_left
  intro old _
  by_cases hfirst : old.1 = first.1
  · simp [hfirst, hnames]
  · by_cases hsecond : old.1 = second.1
    · simp [hsecond, Ne.symm hnames]
    · simp [hfirst, hsecond]

theorem replaced_replaced {first second : String × String} (held : List (String × String))
    (hnames : first.1 = second.1) :
    replaced second (replaced first held) = replaced second held := by
  rw [replaced, replaced, replaced, List.map_map]
  apply List.map_congr_left
  intro old _
  by_cases hsecond : old.1 = second.1
  · simp [hnames, hsecond]
  · simp [hnames, hsecond]

theorem mem_eventedPairs {table : StateTable} {pair : String × String} :
    pair ∈ table.eventedPairs <->
      exists slot, slot ∈ table.slots ∧ slot.declared.evented = true ∧
        (slot.declared.name, slot.value) = pair := by
  simp [eventedPairs, and_assoc]

theorem pair_mem_eventedPairs {table : StateTable} {id : VariableId} {slot : Slot}
    (hslot : table.slots[id]? = some slot) (hevented : slot.declared.evented = true) :
    (slot.declared.name, slot.value) ∈ table.eventedPairs :=
  mem_eventedPairs.mpr ⟨slot, List.mem_of_getElem? hslot, hevented, rfl⟩

theorem names_eventedPairs (table : StateTable) :
    table.eventedPairs.map Prod.fst =
      (table.declared.filter Variable.evented).map Variable.name := by
  rw [eventedPairs, declared, List.filter_map, List.map_map, List.map_map]
  rfl

theorem nodup_names_eventedPairs {table : StateTable}
    (hnames : (table.declared.map Variable.name).Nodup) :
    (table.eventedPairs.map Prod.fst).Nodup := by
  rw [names_eventedPairs]
  exact hnames.sublist (List.filter_sublist.map Variable.name)

/-- Under its name an evented variable is found with its value, and a silent one is not found. -/
theorem lookup_eventedPairs {table : StateTable} {slot : Slot}
    (hnames : (table.declared.map Variable.name).Nodup) (hslot : slot ∈ table.slots) :
    table.eventedPairs.lookup slot.declared.name =
      if slot.declared.evented then some slot.value else none := by
  rcases table with ⟨slots⟩
  simp only [eventedPairs, declared, List.map_map] at hnames hslot ⊢
  induction slots with
  | nil =>
      cases hslot
  | cons head rest ih =>
      rw [List.map_cons, List.nodup_cons] at hnames
      rcases List.mem_cons.mp hslot with rfl | hmem
      · cases hevented : slot.declared.evented with
        | true =>
            simp [hevented]
        | false =>
            simp only [List.filter_cons, hevented, Bool.false_eq_true, if_false]
            apply List.lookup_eq_none_iff.mpr
            intro pair hpair
            rcases List.mem_map.mp hpair with ⟨other, hother, rfl⟩
            apply bne_iff_ne.mpr
            intro hname
            apply hnames.1
            rw [show (Variable.name ∘ Slot.declared) slot = other.declared.name from hname]
            exact List.mem_map.mpr ⟨other, (List.mem_filter.mp hother).1, rfl⟩
      · have hrest := ih hmem hnames.2
        have hname : slot.declared.name ≠ head.declared.name := by
          intro hsame
          apply hnames.1
          rw [show (Variable.name ∘ Slot.declared) head = slot.declared.name from hsame.symm]
          exact List.mem_map.mpr ⟨slot, hmem, rfl⟩
        cases hhead : head.declared.evented with
        | true =>
            rw [List.filter_cons, if_pos hhead, List.map_cons, List.lookup_cons,
              beq_eq_false_iff_ne.mpr hname]
            exact hrest
        | false =>
            rw [List.filter_cons, if_neg (Bool.eq_false_iff.mp hhead)]
            exact hrest

/-- Assigning a silent variable changes no evented pair. -/
theorem eventedPairs_written_silent {table : StateTable} {id : VariableId} {slot : Slot}
    (value : String) (hslot : table.slots[id]? = some slot)
    (hsilent : slot.declared.evented = false) :
    (table.written id value).eventedPairs = table.eventedPairs := by
  rcases table with ⟨slots⟩
  simp only [written, eventedPairs] at hslot ⊢
  induction slots generalizing id with
  | nil =>
      cases hslot
  | cons head rest ih =>
      cases id with
      | zero =>
          cases hslot
          simp [hsilent]
      | succ id =>
          have hrest := ih hslot
          by_cases hhead : head.declared.evented = true <;> simp [hhead, hrest]

/-- Assigning an evented variable replaces the value of its name. -/
theorem eventedPairs_written {table : StateTable} {id : VariableId} {slot : Slot}
    (value : String) (hslot : table.slots[id]? = some slot)
    (hevented : slot.declared.evented = true)
    (hnames : (table.declared.map Variable.name).Nodup) :
    (table.written id value).eventedPairs =
      replaced (slot.declared.name, value) table.eventedPairs := by
  rcases table with ⟨slots⟩
  simp only [written, eventedPairs, declared, List.map_map] at hslot hnames ⊢
  induction slots generalizing id with
  | nil =>
      cases hslot
  | cons head rest ih =>
      rw [List.map_cons, List.nodup_cons] at hnames
      cases id with
      | zero =>
          cases hslot
          have hrest : replaced (slot.declared.name, value)
              ((rest.filter fun slot => slot.declared.evented).map fun slot =>
                (slot.declared.name, slot.value)) =
              ((rest.filter fun slot => slot.declared.evented).map fun slot =>
                (slot.declared.name, slot.value)) := by
            apply replaced_eq_self
            intro old hold hname
            rcases List.mem_map.mp hold with ⟨other, hother, rfl⟩
            exfalso
            apply hnames.1
            exact List.mem_map.mpr ⟨other, (List.mem_filter.mp hother).1, hname⟩
          simp only [List.modify_zero_cons, List.filter_cons, hevented, if_true, List.map_cons]
          rw [replaced, List.map_cons, if_pos rfl]
          exact congrArg _ hrest.symm
      | succ id =>
          have hmem : slot ∈ rest := List.mem_of_getElem? hslot
          have hother : head.declared.name ≠ slot.declared.name := by
            intro hsame
            apply hnames.1
            rw [show (Variable.name ∘ Slot.declared) head = slot.declared.name from hsame]
            exact List.mem_map.mpr ⟨slot, hmem, rfl⟩
          have hrest := ih hslot hnames.2
          by_cases hhead : head.declared.evented = true
          · simp only [List.modify_succ_cons, List.filter_cons, hhead, if_true, List.map_cons]
            rw [hrest, replaced, replaced, List.map_cons, if_neg hother]
          · simp only [List.modify_succ_cons, List.filter_cons, hhead]
            exact hrest

end StateTable
end UpnpAv
