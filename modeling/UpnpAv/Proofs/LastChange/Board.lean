import UpnpAv.LastChange.Board
import UpnpAv.Proofs.LastChange.Reporter
import UpnpAv.Proofs.StateTable.Written

/-!
# What the operations of a board make of it

Assigning, attaching and the transactions of any reporter, in any order and
nested in any way, lead from a board to the boards that it reaches.
-/

namespace UpnpAv
namespace Board

/-!
# Reporters and their places
-/

theorem reporter_attach {board : Board} {place : Nat} (space : String) (recipient : Recipient)
    (hplace : place < board.reporters.length) :
    (board.attach space recipient).reporter place = board.reporter place := by
  simp [attach, reporter, List.getElem?_append_left hplace]

theorem lt_length_attach {board : Board} {place : Nat} (space : String) (recipient : Recipient)
    (hplace : place < board.reporters.length) :
    place < (board.attach space recipient).reporters.length := by
  rw [attach, List.length_append]
  exact Nat.lt_add_right 1 hplace

theorem reporter_attached (board : Board) (space : String) (recipient : Recipient) :
    (board.attach space recipient).reporter board.reporters.length =
      .attached space recipient := by
  simp [attach, reporter]

theorem onReporter_state {ε α : Type} (place : Nat) (m : Act Reporter ε α) (board : Board) :
    (onReporter place m board).state =
      { board with reporters := board.reporters.set place (m (board.reporter place)).state } :=
  rfl

theorem reporter_set_same {board : Board} {place : Nat} (reporter : Reporter)
    (hplace : place < board.reporters.length) :
    ({ board with reporters := board.reporters.set place reporter } : Board).reporter place =
      reporter := by
  simp [Board.reporter, hplace]

theorem reporter_set_other {board : Board} {place other : Nat} (reporter : Reporter)
    (hother : other ≠ place) :
    ({ board with reporters := board.reporters.set other reporter } : Board).reporter place =
      board.reporter place := by
  simp [Board.reporter, List.getElem?_set_ne hother]

/-!
# Assigning
-/

theorem tell_fst (change : Change) (reporters : List Reporter) :
    (tell change reporters).1 = reporters.map (Reporter.noticed change) := by
  induction reporters with
  | nil =>
      rfl
  | cons reporter rest ih =>
      rw [tell, List.map_cons, ← ih, ← Reporter.observe_state]

/-- The board after a new value was assigned and told. -/
def assigned (board : Board) (id : VariableId) (slot : Slot) (value : String) : Board :=
  ⟨board.table.written id value,
    board.reporters.map <| Reporter.noticed
      ⟨id, slot.declared.name, slot.value, value, slot.declared.evented⟩⟩

/--
Assigning a new value is noticed by every reporter.  Any other assignment
changes nothing, and answers so or fails.
-/
theorem set_cases (id : VariableId) (value : String) (board : Board) :
    ((set id value board).result ≠ .ok true ∧ (set id value board).state = board) ∨
      (exists slot, board.table.slots[id]? = some slot ∧ slot.value ≠ value ∧
        (set id value board).result = .ok true ∧
        (set id value board).state = board.assigned id slot value) := by
  rw [set, Act.bind_result, Act.bind_state]
  simp only [Act.read_apply]
  rcases board.table.assign_cases id value with
    ⟨_, hassign⟩ | ⟨_, hassign⟩ | ⟨slot, hslot, hnew, hassign⟩
  · rw [hassign]
    exact Or.inl ⟨by simp, rfl⟩
  · rw [hassign]
    exact Or.inl ⟨by simp, rfl⟩
  · rw [hassign]
    refine Or.inr ⟨slot, hslot, hnew, rfl, ?_⟩
    show Board.mk _ (tell _ board.reporters).1 = _
    rw [tell_fst]
    rfl

theorem reporter_assigned {board : Board} {place : Nat} (id : VariableId) (slot : Slot)
    (value : String) (hplace : place < board.reporters.length) :
    (board.assigned id slot value).reporter place =
      (board.reporter place).noticed
        ⟨id, slot.declared.name, slot.value, value, slot.declared.evented⟩ := by
  simp [assigned, reporter, hplace]

theorem length_assigned {board : Board} (id : VariableId) (slot : Slot) (value : String) :
    (board.assigned id slot value).reporters.length = board.reporters.length :=
  List.length_map _

/-!
# Transactions
-/

theorem start_result (place : Nat) (board : Board) :
    (start place board).result =
      if (board.reporter place).isOpen then .error .alreadyOpen else .ok () :=
  Reporter.start_result (board.reporter place)

theorem commit_result (place : Nat) (board : Board) :
    (commit place board).result =
      if (board.reporter place).isOpen then .ok () else .error .notOpen :=
  Reporter.commit_result (board.reporter place)

theorem length_start (place : Nat) (board : Board) :
    (start place board).state.reporters.length = board.reporters.length :=
  List.length_set

theorem length_commit (place : Nat) (board : Board) :
    (commit place board).state.reporters.length = board.reporters.length :=
  List.length_set

theorem reporter_start {board : Board} {place : Nat} (other : Nat)
    (hplace : place < board.reporters.length) :
    (start other board).state.reporter place =
      if other = place then { board.reporter place with isOpen := true }
      else board.reporter place := by
  rw [start, onReporter_state, Reporter.start_state]
  by_cases hother : other = place
  · rw [if_pos hother, hother, reporter_set_same _ hplace]
  · rw [if_neg hother, reporter_set_other _ hother]

theorem reporter_commit {board : Board} {place : Nat} (other : Nat)
    (hplace : place < board.reporters.length) :
    (commit other board).state.reporter place =
      if other = place ∧ (board.reporter place).isOpen = true then
        (board.reporter place).committed
      else board.reporter place := by
  rw [commit, onReporter_state, Reporter.commit_state]
  by_cases hother : other = place
  · rw [hother, reporter_set_same _ hplace]
    simp
  · rw [reporter_set_other _ hother, if_neg fun hboth => hother hboth.1]

theorem transaction_state {α : Type} (place : Nat) (body : Act Board Reporter.Error α)
    (board : Board) :
    (transaction place body board).state =
      match (start place board).result with
      | .error _ => (start place board).state
      | .ok _ => (commit place (body (start place board).state).state).state := by
  rw [transaction, Act.bind_state]
  cases (start place board).result with
  | error e =>
      rfl
  | ok done =>
      simp only [Act.bind_state, Act.attempt_apply]
      cases (commit place (body (start place board).state).state).result <;> rfl

/-!
# Reaching
-/

/--
The boards that the operations lead to.  The body of a transaction is any act
that does nothing to a board but carry out operations; it may fail, and it may
close the transaction or open others.
-/
inductive Reaches : Board -> Board -> Prop where
  | here (board : Board) : Reaches board board
  | set {board next : Board} (id : VariableId) (value : String) :
      Reaches board next -> Reaches board (set id value next).state
  | attach {board next : Board} (space : String) (recipient : Recipient) :
      Reaches board next -> Reaches board (next.attach space recipient)
  | start {board next : Board} (place : Nat) :
      Reaches board next -> Reaches board (start place next).state
  | commit {board next : Board} (place : Nat) :
      Reaches board next -> Reaches board (commit place next).state
  | transaction {board next : Board} {α : Type} (place : Nat)
      {body : Act Board Reporter.Error α} :
      (forall inner, Reaches inner (body inner).state) ->
      Reaches board next -> Reaches board (transaction place body next).state

/-- What every single operation keeps is kept by all of them together. -/
theorem Reaches.keeps {P : Board -> Prop}
    (hset : forall id value board, P board -> P (Board.set id value board).state)
    (hattach : forall space recipient board, P board -> P (board.attach space recipient))
    (hstart : forall place board, P board -> P (Board.start place board).state)
    (hcommit : forall place board, P board -> P (Board.commit place board).state)
    {board next : Board} (hreach : Reaches board next) : P board -> P next := by
  induction hreach with
  | here board =>
      exact id
  | set id value _ ih =>
      intro hboard
      exact hset id value _ (ih hboard)
  | attach space recipient _ ih =>
      intro hboard
      exact hattach space recipient _ (ih hboard)
  | start place _ ih =>
      intro hboard
      exact hstart place _ (ih hboard)
  | commit place _ ih =>
      intro hboard
      exact hcommit place _ (ih hboard)
  | @transaction _ next _ place body _ _ ihBody ih =>
      intro hboard
      have hopened := hstart place _ (ih hboard)
      rw [transaction_state]
      cases (Board.start place next).result with
      | error e =>
          exact hopened
      | ok done =>
          exact hcommit place _ (ihBody _ hopened)

/-- No operation changes what the variables are declared to be. -/
theorem Reaches.declared {board next : Board} (hreach : Reaches board next) :
    next.table.declared = board.table.declared := by
  refine hreach.keeps (P := fun reached => reached.table.declared = board.table.declared)
    ?_ ?_ ?_ ?_ rfl
  · intro id value reached hreached
    rcases set_cases id value reached with ⟨_, hsame⟩ | ⟨slot, _, _, _, hnew⟩
    · rw [hsame]
      exact hreached
    · rw [hnew]
      exact (reached.table.declared_written id value).trans hreached
  · intro _ _ _ hreached
    exact hreached
  · intro _ _ hreached
    exact hreached
  · intro _ _ hreached
    exact hreached

/--
What one reporter and the table keep under a change, under the start and under
the commit of this reporter, they keep whatever else is carried out.
-/
theorem Reaches.keeps_reporter {P : StateTable -> Reporter -> Prop} {board next : Board}
    {place : Nat}
    (hnotice : forall table reporter id slot value, table.slots[id]? = some slot ->
      P table reporter -> P (table.written id value)
        (reporter.noticed ⟨id, slot.declared.name, slot.value, value, slot.declared.evented⟩))
    (hstart : forall table reporter, P table reporter ->
      P table { reporter with isOpen := true })
    (hcommit : forall table reporter, P table reporter -> P table reporter.committed)
    (hreach : Reaches board next) (hplace : place < board.reporters.length)
    (hboard : P board.table (board.reporter place)) :
    place < next.reporters.length ∧ P next.table (next.reporter place) := by
  refine hreach.keeps
    (P := fun reached => place < reached.reporters.length ∧
      P reached.table (reached.reporter place)) ?_ ?_ ?_ ?_ ⟨hplace, hboard⟩
  · rintro id value reached ⟨hlt, hreached⟩
    rcases set_cases id value reached with ⟨_, hsame⟩ | ⟨slot, hslot, _, _, hnew⟩
    · rw [hsame]
      exact ⟨hlt, hreached⟩
    · rw [hnew, reporter_assigned id slot value hlt, length_assigned]
      exact ⟨hlt, hnotice reached.table _ id slot value hslot hreached⟩
  · rintro space recipient reached ⟨hlt, hreached⟩
    rw [reporter_attach space recipient hlt]
    exact ⟨lt_length_attach space recipient hlt, hreached⟩
  · rintro other reached ⟨hlt, hreached⟩
    rw [reporter_start other hlt, length_start]
    refine ⟨hlt, ?_⟩
    split
    · exact hstart _ _ hreached
    · exact hreached
  · rintro other reached ⟨hlt, hreached⟩
    rw [reporter_commit other hlt, length_commit]
    refine ⟨hlt, ?_⟩
    split
    · exact hcommit _ _ hreached
    · exact hreached

theorem reaches_sets (sets : List (VariableId × String)) (board : Board) :
    Reaches board
      (Act.collect (fun (id, value) => (set id value).mapError Reporter.Error.table)
        sets board).state := by
  apply Act.collect_keeps (P := Reaches board) _ board (Reaches.here board)
  intro pair _ next hnext
  exact Reaches.set pair.1 pair.2 hnext

theorem reaches_body (place : Nat) (body : Body) (board : Board) :
    Reaches board (body.act place board).state := by
  have hsets := reaches_sets body.sets board
  rw [Body.act, Act.bind_state]
  split
  · exact hsets
  · cases hcommits : body.commits with
    | false =>
        cases body.failure <;> exact hsets
    | true =>
        have hcommit := Reaches.commit place hsets
        simp only [if_true, Act.bind_state]
        split
        · exact hcommit
        · cases body.failure <;> exact hcommit

theorem reaches_after {board next : Board} (hreach : Reaches board next) (step : Step) :
    Reaches board (next.after step) := by
  cases step with
  | set id value =>
      exact Reaches.set id value hreach
  | attach space recipient =>
      exact Reaches.attach space recipient hreach
  | start place =>
      exact Reaches.start place hreach
  | commit place =>
      exact Reaches.commit place hreach
  | transaction place body =>
      exact Reaches.transaction place (reaches_body place body) hreach

/-- Every run of steps reaches the board at its end. -/
theorem reaches_run (steps : List Step) :
    forall {board next : Board}, Reaches board next -> Reaches board (next.run steps) := by
  induction steps with
  | nil =>
      intro board next hreach
      exact hreach
  | cons step rest ih =>
      intro board next hreach
      rw [run_cons]
      exact ih (reaches_after hreach step)

end Board
end UpnpAv
