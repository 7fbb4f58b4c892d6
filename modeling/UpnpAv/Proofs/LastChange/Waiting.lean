import UpnpAv.Proofs.LastChange.Reporter
import UpnpAv.Proofs.StateTable.Written

/-!
# Entries that wait for a commit

Whatever happens to a table and a reporter on it, the entries that wait belong
to evented variables and hold the present values of these, and without an open
transaction none wait.
-/

namespace UpnpAv
namespace Reporter

/-- The entries that wait for a commit say what the table says. -/
structure Waits (table : StateTable) (reporter : Reporter) : Prop where
  ascending : Pending.Ascending reporter.pending
  current : forall entry, entry ∈ reporter.pending ->
    exists slot, table.slots[entry.id]? = some slot ∧ slot.declared.evented = true ∧
      entry.pair = (slot.declared.name, slot.value)
  closed : reporter.isOpen = false -> reporter.pending = []

theorem waits_attached (table : StateTable) (space : String) (recipient : Recipient) :
    (Reporter.attached space recipient).Waits table := by
  refine ⟨List.Pairwise.nil, ?_, fun _ => rfl⟩
  intro entry hentry
  cases hentry

theorem waits_open {table : StateTable} {reporter : Reporter} (hwaits : reporter.Waits table) :
    ({ reporter with isOpen := true } : Reporter).Waits table := by
  refine ⟨hwaits.ascending, hwaits.current, ?_⟩
  intro hclosed
  cases hclosed

theorem pending_committed (reporter : Reporter) : reporter.committed.pending = [] := by
  rw [committed]
  by_cases hpending : reporter.pending = []
  · rw [if_pos hpending]
    exact hpending
  · rw [if_neg hpending]
    rfl

theorem waits_committed (table : StateTable) (reporter : Reporter) :
    reporter.committed.Waits table := by
  have hpending := pending_committed reporter
  refine ⟨?_, ?_, fun _ => hpending⟩
  · rw [hpending]
    exact List.Pairwise.nil
  · intro entry hentry
    rw [hpending] at hentry
    cases hentry

/-- An entry for another variable than the assigned one stays true. -/
theorem current_written {table : StateTable} {id : VariableId} (value : String)
    {entry : Pending} (hother : id ≠ entry.id)
    (hentry : exists slot, table.slots[entry.id]? = some slot ∧ slot.declared.evented = true ∧
      entry.pair = (slot.declared.name, slot.value)) :
    exists slot, (table.written id value).slots[entry.id]? = some slot ∧
      slot.declared.evented = true ∧ entry.pair = (slot.declared.name, slot.value) := by
  rw [StateTable.slots_written_other value hother]
  exact hentry

theorem waits_noticed {table : StateTable} {reporter : Reporter} {id : VariableId} {slot : Slot}
    (value : String) (hslot : table.slots[id]? = some slot) (hwaits : reporter.Waits table) :
    (reporter.noticed
      ⟨id, slot.declared.name, slot.value, value, slot.declared.evented⟩).Waits
        (table.written id value) := by
  cases hevented : slot.declared.evented with
  | false =>
      refine ⟨hwaits.ascending, ?_, hwaits.closed⟩
      intro entry hentry
      have hcurrent := hwaits.current entry hentry
      apply current_written value _ hcurrent
      rintro rfl
      rcases hcurrent with ⟨other, hother, hotherEvented, _⟩
      rw [hslot] at hother
      cases hother
      rw [hevented] at hotherEvented
      cases hotherEvented
  | true =>
      cases hopen : reporter.isOpen with
      | false =>
          have hpending := hwaits.closed hopen
          rw [noticed, if_pos rfl, hopen, if_neg Bool.false_ne_true]
          refine ⟨hwaits.ascending, ?_, fun _ => hpending⟩
          intro entry hentry
          rw [handed, hpending] at hentry
          cases hentry
      | true =>
          rw [noticed, if_pos rfl, hopen, if_pos rfl]
          refine ⟨Pending.ascending_insert _ hwaits.ascending, ?_, ?_⟩
          · intro entry hentry
            rcases (Pending.mem_insert hwaits.ascending).mp hentry with rfl | ⟨hmem, hother⟩
            · exact ⟨_, StateTable.slots_written_same value hslot, hevented, rfl⟩
            · exact current_written value (Ne.symm hother) (hwaits.current entry hmem)
          · intro hclosed
            cases hclosed

theorem pair_mem_eventedPairs {table : StateTable} {reporter : Reporter} {entry : Pending}
    (hwaits : reporter.Waits table) (hentry : entry ∈ reporter.pending) :
    entry.pair ∈ table.eventedPairs := by
  rcases hwaits.current entry hentry with ⟨slot, hslot, hevented, hpair⟩
  rw [hpair]
  exact StateTable.pair_mem_eventedPairs hslot hevented

/-- An entry that waits bears the name of a variable exactly when it belongs to it. -/
theorem name_eq_iff {table : StateTable} {reporter : Reporter} {entry : Pending}
    {id : VariableId} {slot : Slot} (hnames : (table.declared.map Variable.name).Nodup)
    (hwaits : reporter.Waits table) (hentry : entry ∈ reporter.pending)
    (hslot : table.slots[id]? = some slot) :
    entry.name = slot.declared.name <-> entry.id = id := by
  rcases hwaits.current entry hentry with ⟨other, hother, _, hpair⟩
  have hname : entry.name = other.declared.name := congrArg Prod.fst hpair
  constructor
  · intro hsame
    exact StateTable.id_eq_of_name_eq hnames hother hslot (hname.symm.trans hsame)
  · rintro rfl
    rw [hslot] at hother
    cases hother
    exact hname

end Reporter
end UpnpAv
