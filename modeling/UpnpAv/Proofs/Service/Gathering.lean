import UpnpAv.Proofs.LastChange.Reporter
import UpnpAv.Proofs.StateTable.Changed
import UpnpAv.Service.Basic

/-!
# What a service gathers for the next document

While the transaction of a service is open and every variable is assigned at
most once, the entries that wait for the commit are exactly the evented
variables whose values differ from those at the start.
-/

namespace UpnpAv
namespace Service

/-!
# Gathered entries
-/

/-- The entries are the evented variables whose values differ from those before, in order. -/
structure Gathers (before table : StateTable) (entries : List Pending) : Prop where
  ascending : Pending.Ascending entries
  mem : forall entry, entry ∈ entries <->
    exists slot, table.slots[entry.id]? = some slot ∧ slot.declared.evented = true ∧
      before.get? entry.id ≠ some slot.value ∧ entry.pair = (slot.declared.name, slot.value)

theorem gathers_nil (table : StateTable) : Gathers table table [] := by
  refine ⟨List.Pairwise.nil, ?_⟩
  intro entry
  constructor
  · intro hentry
    cases hentry
  · rintro ⟨slot, hslot, _, hnew, _⟩
    apply absurd _ hnew
    rw [StateTable.get?, hslot]
    rfl

section

variable {before table : StateTable} {entries : List Pending} {id : VariableId} {slot : Slot}

/-- Assigning a silent variable adds no entry. -/
theorem gathers_silent (value : String) (hslot : table.slots[id]? = some slot)
    (hsilent : slot.declared.evented = false) (hgathers : Gathers before table entries) :
    Gathers before (table.written id value) entries := by
  refine ⟨hgathers.ascending, ?_⟩
  intro entry
  rw [hgathers.mem]
  by_cases hid : id = entry.id
  · rw [← hid, StateTable.slots_written_same value hslot, hslot]
    constructor <;>
    · rintro ⟨other, hother, hevented, _⟩
      cases hother
      rw [show slot.declared.evented = true from hevented] at hsilent
      cases hsilent
  · rw [StateTable.slots_written_other value hid]

/-- Assigning a new value to an evented variable for the first time adds an entry. -/
theorem gathers_insert {value : String} (hslot : table.slots[id]? = some slot)
    (hevented : slot.declared.evented = true) (hnew : slot.value ≠ value)
    (hfirst : before.get? id = table.get? id) (hgathers : Gathers before table entries) :
    Gathers before (table.written id value)
      (Pending.insert ⟨id, slot.declared.name, value⟩ entries) := by
  refine ⟨Pending.ascending_insert _ hgathers.ascending, ?_⟩
  intro entry
  rw [Pending.mem_insert hgathers.ascending, hgathers.mem]
  by_cases hid : id = entry.id
  · rw [← hid, StateTable.slots_written_same value hslot, hfirst, StateTable.get?, hslot]
    constructor
    · rintro (rfl | ⟨_, hother⟩)
      · refine ⟨_, rfl, hevented, ?_, rfl⟩
        intro hsame
        exact hnew (Option.some.inj hsame)
      · exact absurd rfl hother
    · rintro ⟨other, hother, _, _, hpair⟩
      cases hother
      apply Or.inl
      rcases entry with ⟨entryId, name, text⟩
      cases hid
      cases hpair
      rfl
  · rw [StateTable.slots_written_other value hid]
    constructor
    · rintro (rfl | ⟨hentry, _⟩)
      · exact absurd rfl hid
      · exact hentry
    · intro hentry
      exact Or.inr ⟨hentry, Ne.symm hid⟩

end

/-!
# Gathered pairs
-/

/-- The entries of the evented variables whose values differ between two tables. -/
def changes (before after : StateTable) : List Pending :=
  ((before.slots.zip after.slots).zipIdx.filter fun ((old, new), _) =>
    new.declared.evented && old.value != new.value).map fun ((_, new), id) =>
      ⟨id, new.declared.name, new.value⟩

theorem ascending_changes (before after : StateTable) :
    Pending.Ascending (changes before after) := by
  rw [Pending.Ascending, changes, List.pairwise_map]
  apply List.Pairwise.filter
  have hplaces := List.pairwise_lt_range' (s := 0) (n := (before.slots.zip after.slots).length)
  rw [← List.zipIdx_map_snd, List.pairwise_map] at hplaces
  exact hplaces

theorem mem_changes {before after : StateTable} {entry : Pending}
    (hlength : before.slots.length = after.slots.length) :
    entry ∈ changes before after <->
      exists slot, after.slots[entry.id]? = some slot ∧ slot.declared.evented = true ∧
        before.get? entry.id ≠ some slot.value ∧
          entry.pair = (slot.declared.name, slot.value) := by
  constructor
  · intro hentry
    rcases List.mem_map.mp hentry with ⟨⟨⟨old, new⟩, id⟩, hmem, rfl⟩
    rcases List.mem_filter.mp hmem with ⟨hplace, hdiffers⟩
    rw [List.mem_zipIdx_iff_getElem?, List.getElem?_zip_eq_some] at hplace
    rw [Bool.and_eq_true, bne_iff_ne] at hdiffers
    refine ⟨new, hplace.2, hdiffers.1, ?_, rfl⟩
    intro hsame
    rw [StateTable.get?, hplace.1] at hsame
    exact hdiffers.2 (Option.some.inj hsame)
  · rintro ⟨new, hnew, hevented, hdiffers, hpair⟩
    rcases List.getElem?_eq_some_iff.mp hnew with ⟨hlt, _⟩
    have hold := List.getElem?_eq_getElem (hlength ▸ hlt)
    refine List.mem_map.mpr ⟨((before.slots[entry.id], new), entry.id), ?_, ?_⟩
    · rw [List.mem_filter, List.mem_zipIdx_iff_getElem?, List.getElem?_zip_eq_some,
        Bool.and_eq_true, bne_iff_ne]
      refine ⟨⟨hold, hnew⟩, hevented, ?_⟩
      intro hsame
      apply hdiffers
      rw [StateTable.get?, hold]
      exact congrArg some hsame
    · rcases entry with ⟨id, name, value⟩
      cases hpair
      rfl

theorem map_pair_changes (before after : StateTable) :
    (changes before after).map Pending.pair = StateTable.changedPairs before after := by
  have hfirst := List.zipIdx_map_fst 0 (before.slots.zip after.slots)
  rw [StateTable.changedPairs, ← hfirst, List.filter_map, List.map_map, changes, List.map_map]
  rfl

/-- What was gathered is what a comparison of the tables shows. -/
theorem map_pair_eq_changedPairs {before table : StateTable} {entries : List Pending}
    (hlength : before.slots.length = table.slots.length)
    (hgathers : Gathers before table entries) :
    entries.map Pending.pair = StateTable.changedPairs before table := by
  have hsame : entries = changes before table := by
    apply hgathers.ascending.eq_of_mem_iff (ascending_changes before table)
    intro entry
    rw [hgathers.mem, mem_changes hlength]
  rw [hsame, map_pair_changes]

end Service
end UpnpAv
