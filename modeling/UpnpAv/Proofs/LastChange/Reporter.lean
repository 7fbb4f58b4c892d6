import Mathlib.Data.List.Sort
import UpnpAv.LastChange.Reporter
import UpnpAv.Proofs.Act

/-!
# What a reporter does about changes and transactions

The entries that wait for a commit ascend by identifier, each identifier at
most once.  Noticing a change, opening and closing a transaction each have one
equation for the state they leave.
-/

namespace UpnpAv

namespace Pending

/-!
# Waiting entries
-/

/-- The identifiers of a list of entries ascend strictly. -/
def Ascending (entries : List Pending) : Prop :=
  entries.Pairwise fun first second => first.id < second.id

/-- Lists that ascend and have the same entries are equal. -/
theorem Ascending.eq_of_mem_iff {entries others : List Pending} (hentries : Ascending entries)
    (hothers : Ascending others) (hmem : forall entry, entry ∈ entries <-> entry ∈ others) :
    entries = others := by
  have : Std.Irrefl fun first second : Pending => first.id < second.id :=
    ⟨fun entry => Nat.lt_irrefl entry.id⟩
  have : Std.Antisymm fun first second : Pending => first.id < second.id :=
    ⟨fun _ _ hlt hgt => absurd hgt (Nat.lt_asymm hlt)⟩
  exact List.Pairwise.eq_of_mem_iff hentries hothers fun {entry} => hmem entry

theorem insert_ne_nil (entry : Pending) (entries : List Pending) : insert entry entries ≠ [] := by
  cases entries with
  | nil =>
      simp [insert]
  | cons head rest =>
      rw [insert]
      split
      · simp
      · split <;> simp

theorem mem_insert {entry other : Pending} {entries : List Pending}
    (hentries : Ascending entries) :
    other ∈ insert entry entries <->
      other = entry ∨ (other ∈ entries ∧ other.id ≠ entry.id) := by
  induction entries with
  | nil =>
      simp [insert]
  | cons head rest ih =>
      rcases List.pairwise_cons.mp hentries with ⟨hhead, hrest⟩
      by_cases hlt : entry.id < head.id
      · rw [insert, if_pos hlt, List.mem_cons]
        constructor
        · rintro (rfl | hmem)
          · exact Or.inl rfl
          · refine Or.inr ⟨hmem, ?_⟩
            rcases List.mem_cons.mp hmem with rfl | hother
            · exact Nat.ne_of_gt hlt
            · exact Nat.ne_of_gt (Nat.lt_trans hlt (hhead other hother))
        · rintro (rfl | ⟨hmem, _⟩)
          · exact Or.inl rfl
          · exact Or.inr hmem
      · by_cases heq : entry.id = head.id
        · rw [insert, if_neg hlt, if_pos heq, List.mem_cons, List.mem_cons]
          constructor
          · rintro (rfl | hmem)
            · exact Or.inl rfl
            · refine Or.inr ⟨Or.inr hmem, ?_⟩
              rw [heq]
              exact Nat.ne_of_gt (hhead other hmem)
          · rintro (rfl | ⟨rfl | hmem, hne⟩)
            · exact Or.inl rfl
            · exact absurd heq.symm hne
            · exact Or.inr hmem
        · rw [insert, if_neg hlt, if_neg heq, List.mem_cons, List.mem_cons, ih hrest]
          constructor
          · rintro (rfl | rfl | ⟨hmem, hne⟩)
            · exact Or.inr ⟨Or.inl rfl, Ne.symm heq⟩
            · exact Or.inl rfl
            · exact Or.inr ⟨Or.inr hmem, hne⟩
          · rintro (rfl | ⟨rfl | hmem, hne⟩)
            · exact Or.inr (Or.inl rfl)
            · exact Or.inl rfl
            · exact Or.inr (Or.inr ⟨hmem, hne⟩)

theorem ascending_insert (entry : Pending) {entries : List Pending}
    (hentries : Ascending entries) : Ascending (insert entry entries) := by
  induction entries with
  | nil =>
      exact List.pairwise_singleton _ _
  | cons head rest ih =>
      rcases List.pairwise_cons.mp hentries with ⟨hhead, hrest⟩
      by_cases hlt : entry.id < head.id
      · rw [insert, if_pos hlt]
        apply List.pairwise_cons.mpr
        refine ⟨?_, hentries⟩
        intro other hother
        rcases List.mem_cons.mp hother with rfl | hmem
        · exact hlt
        · exact Nat.lt_trans hlt (hhead other hmem)
      · by_cases heq : entry.id = head.id
        · rw [insert, if_neg hlt, if_pos heq]
          apply List.pairwise_cons.mpr
          refine ⟨?_, hrest⟩
          intro other hother
          rw [heq]
          exact hhead other hother
        · rw [insert, if_neg hlt, if_neg heq]
          apply List.pairwise_cons.mpr
          refine ⟨?_, ih hrest⟩
          intro other hother
          rcases (mem_insert hrest).mp hother with rfl | ⟨hmem, _⟩
          · exact Nat.lt_of_le_of_ne (Nat.not_lt.mp hlt) (Ne.symm heq)
          · exact hhead other hmem

end Pending

namespace Reporter

variable {ε : Type}

/-!
# Noticing a change
-/

/-- The reporter after it handed out a document. -/
def handed (document : String) (reporter : Reporter) : Reporter :=
  { reporter with
    lastDocument := some document
    sent := reporter.sent ++ [document] }

/-- The reporter after it noticed a change. -/
def noticed (change : Change) (reporter : Reporter) : Reporter :=
  if change.evented then
    if reporter.isOpen then
      { reporter with
        pending := Pending.insert ⟨change.id, change.name, change.newValue⟩ reporter.pending }
    else
      reporter.handed
        (LastChange.Document.encode reporter.space [(change.name, change.newValue)])
  else reporter

theorem noteLoss_state (reporter : Reporter) :
    ((noteLoss : Act Reporter ε Unit) reporter).state = reporter := by
  rw [noteLoss, Act.bind_state]
  by_cases hlost : reporter.recipient = .queue false <;> simp [hlost]

theorem noteLoss_result (reporter : Reporter) :
    ((noteLoss : Act Reporter ε Unit) reporter).result = .ok () := by
  rw [noteLoss, Act.bind_result]
  by_cases hlost : reporter.recipient = .queue false <;> simp [hlost]

theorem send_apply (document : String) (reporter : Reporter) :
    (send document : Act Reporter ε Unit) reporter = ⟨.ok (), reporter.handed document, []⟩ :=
  rfl

theorem observe_state (change : Change) (reporter : Reporter) :
    ((observe change : Act Reporter ε Unit) reporter).state = noticed change reporter := by
  rw [observe, noticed, Act.bind_state]
  cases hevented : change.evented <;> cases hopen : reporter.isOpen <;>
    simp [hopen, Act.bind_state, send_apply, noteLoss_state]

theorem observe_result (change : Change) (reporter : Reporter) :
    ((observe change : Act Reporter ε Unit) reporter).result = .ok () := by
  rw [observe, Act.bind_result]
  cases hevented : change.evented <;> cases hopen : reporter.isOpen <;>
    simp [hopen, Act.bind_result, send_apply, noteLoss_result]

/-!
# Transactions
-/

/-- The reporter after its open transaction was closed. -/
def committed (reporter : Reporter) : Reporter :=
  if reporter.pending = [] then
    { reporter with isOpen := false }
  else
    { reporter with isOpen := false, pending := [] }.handed
      (LastChange.Document.encode reporter.space (reporter.pending.map Pending.pair))

theorem start_state (reporter : Reporter) :
    (start reporter).state = { reporter with isOpen := true } := by
  rw [start, Act.bind_state]
  cases reporter with
  | mk space recipient isOpen pending lastDocument sent =>
      cases isOpen with
      | false =>
          rfl
      | true =>
          rfl

theorem start_result (reporter : Reporter) :
    (start reporter).result = if reporter.isOpen then .error .alreadyOpen else .ok () := by
  rw [start, Act.bind_result]
  cases hopen : reporter.isOpen <;> simp [hopen, Act.bind_result]

theorem commit_state (reporter : Reporter) :
    (commit reporter).state =
      if reporter.isOpen then reporter.committed else reporter := by
  rw [commit, committed, Act.bind_state]
  cases hopen : reporter.isOpen with
  | false =>
      simp [hopen]
  | true =>
      by_cases hpending : reporter.pending = []
      · simp [hopen, hpending, Act.bind_state]
      · simp [hopen, hpending, Act.bind_state, send_apply, noteLoss_state]

theorem commit_result (reporter : Reporter) :
    (commit reporter).result = if reporter.isOpen then .ok () else .error .notOpen := by
  rw [commit, Act.bind_result]
  cases hopen : reporter.isOpen with
  | false =>
      simp [hopen]
  | true =>
      by_cases hpending : reporter.pending = []
      · simp [hopen, hpending, Act.bind_result]
      · simp [hopen, hpending, Act.bind_result, send_apply, noteLoss_result]

end Reporter
end UpnpAv
