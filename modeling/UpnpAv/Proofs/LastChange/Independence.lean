import UpnpAv.Proofs.LastChange.TransactionStates
import UpnpAv.Proofs.StateTable.Changed

/-!
# Reporters do not disturb one another

The reporters of one table share nothing but its changes.  What becomes of a
reporter can be told from the assignments and its own calls: it fares as it
would alone, whoever else is attached and whatever they start and commit.
-/

namespace UpnpAv
namespace Board

/-!
# A reporter alone
-/

/-- The table with a single one of its reporters. -/
def alone (board : Board) (place : Nat) : Board :=
  ⟨board.table, [board.reporter place]⟩

/-- A board, and the board on which one of its reporters is alone. -/
def Alone (place : Nat) (board single : Board) : Prop :=
  place < board.reporters.length ∧ single = board.alone place

/-- Assignments in order; the first one to an unknown variable is the last that is tried. -/
def attempted (size : Nat) : List (VariableId × String) -> List (VariableId × String)
  | [] => []
  | (id, value) :: rest =>
      if id < size then (id, value) :: attempted size rest else [(id, value)]

/-- The assignments that a step comes to; a transaction that is refused has none. -/
def assignments (board : Board) : Step -> List (VariableId × String)
  | .set id value => [(id, value)]
  | .transaction place body =>
      if (board.reporter place).isOpen then [] else attempted board.table.slots.length body.sets
  | _ => []

/-- The call of a reporter, as it would make it alone. -/
def call? (place : Nat) : Step -> Option Step
  | .start other => if other = place then some (.start 0) else none
  | .commit other => if other = place then some (.commit 0) else none
  | .transaction other body => if other = place then some (.transaction 0 body) else none
  | _ => none

/-- The assignments of a list as steps. -/
def sets (assigned : List (VariableId × String)) : List Step :=
  assigned.map fun (id, value) => .set id value

/-- What concerns a reporter about a step: its own call, or else the assignments. -/
def concerning (board : Board) (place : Nat) (step : Step) : List Step :=
  match call? place step with
  | some call => [call]
  | none => sets (board.assignments step)

/-- What concerns a reporter about the steps of a run. -/
def concerns (board : Board) (place : Nat) : List Step -> List Step
  | [] => []
  | step :: rest => board.concerning place step ++ (board.after step).concerns place rest

/-- The assignments that the steps of a run come to. -/
def assignmentsOf (board : Board) : List Step -> List (VariableId × String)
  | [] => []
  | step :: rest => board.assignments step ++ (board.after step).assignmentsOf rest

/-- The result of a call of a reporter; a transaction answers which values were new ones. -/
def result? (board : Board) (place : Nat) :
    Step -> Option (Except Reporter.Error (List Bool))
  | .start other =>
      if other = place then some ((start place board).result.map fun _ => []) else none
  | .commit other =>
      if other = place then some ((commit place board).result.map fun _ => []) else none
  | .transaction other body =>
      if other = place then some (transaction place (body.act place) board).result else none
  | _ => none

/-- The results of the calls of a reporter in a run. -/
def results (board : Board) (place : Nat) :
    List Step -> List (Except Reporter.Error (List Bool))
  | [] => []
  | step :: rest => (board.result? place step).toList ++ (board.after step).results place rest

/-!
# Own calls
-/

section

variable {place : Nat}

theorem set_alone (id : VariableId) (value : String) :
    Act.Agree (Alone place) (set id value) (set id value) := by
  rintro board _ ⟨hplace, rfl⟩
  rw [set, Act.bind_result, Act.bind_result, Act.bind_state, Act.bind_state]
  simp only [Act.read_apply]
  have htable : (board.alone place).table = board.table := rfl
  rw [htable]
  rcases board.table.assign_cases id value with
    ⟨_, hassign⟩ | ⟨_, hassign⟩ | ⟨slot, hslot, hnew, hassign⟩
  · rw [hassign]
    exact ⟨rfl, hplace, rfl⟩
  · rw [hassign]
    exact ⟨rfl, hplace, rfl⟩
  · rw [hassign]
    refine ⟨rfl, ?_, ?_⟩
    · show place < (tell _ board.reporters).1.length
      rw [tell_fst, List.length_map]
      exact hplace
    · show Board.mk _ (tell _ [board.reporter place]).1 =
        alone (Board.mk _ (tell _ board.reporters).1) place
      rw [tell_fst, tell_fst]
      simp [alone, reporter, hplace]

theorem onReporter_alone {ε α : Type} (m : Act Reporter ε α) :
    Act.Agree (Alone place) (onReporter place m) (onReporter 0 m) := by
  rintro board _ ⟨hplace, rfl⟩
  refine ⟨rfl, ?_, ?_⟩
  · rw [onReporter_state, List.length_set]
    exact hplace
  · show Board.mk board.table [(m (board.reporter place)).state] =
      (onReporter place m board).state.alone place
    rw [onReporter_state, alone, reporter_set_same _ hplace]

theorem start_alone : Act.Agree (Alone place) (start place) (start 0) :=
  onReporter_alone Reporter.start

theorem commit_alone : Act.Agree (Alone place) (commit place) (commit 0) :=
  onReporter_alone Reporter.commit

theorem transaction_alone {α : Type} {body single : Act Board Reporter.Error α}
    (hbody : Act.Agree (Alone place) body single) :
    Act.Agree (Alone place) (transaction place body) (transaction 0 single) := by
  refine start_alone.bind ?_
  intro started
  refine hbody.attempt.bind ?_
  intro result
  refine commit_alone.bind ?_
  intro committed
  exact Act.Agree.ofExcept result

theorem body_alone (body : Body) :
    Act.Agree (Alone place) (body.act place) (body.act 0) := by
  rcases body with ⟨assigned, commits, failure⟩
  refine (Act.Agree.collect ?_ assigned).bind ?_
  · rintro ⟨id, value⟩
    exact (set_alone id value).mapError Reporter.Error.table
  · intro answers
    cases commits with
    | false =>
        cases failure with
        | none =>
            exact Act.Agree.ofExcept (.ok answers)
        | some reason =>
            exact Act.Agree.ofExcept (.error (Reporter.Error.refused reason))
    | true =>
        refine commit_alone.bind ?_
        intro committed
        cases failure with
        | none =>
            exact Act.Agree.ofExcept (.ok answers)
        | some reason =>
            exact Act.Agree.ofExcept (.error (Reporter.Error.refused reason))

end

/-!
# Assignments
-/

theorem set_isOk (id : VariableId) (value : String) (board : Board) :
    (set id value board).result.isOk = decide (id < board.table.slots.length) := by
  rw [set, Act.bind_result]
  simp only [Act.read_apply]
  by_cases hid : id < board.table.slots.length
  · rw [decide_eq_true hid]
    rcases board.table.assign_cases id value with
      ⟨hnone, _⟩ | ⟨_, hassign⟩ | ⟨slot, _, _, hassign⟩
    · exact absurd (List.getElem?_eq_none_iff.mp hnone) (Nat.not_le.mpr hid)
    · rw [hassign]
      rfl
    · rw [hassign]
      rfl
  · rw [decide_eq_false hid,
      StateTable.assign_unknown (List.getElem?_eq_none_iff.mpr (Nat.not_lt.mp hid))]
    rfl

theorem set_table (id : VariableId) (value : String) (board : Board) :
    (set id value board).state.table = board.table.written id value := by
  rw [set, Act.bind_state]
  simp only [Act.read_apply]
  rcases board.table.assign_cases id value with
    ⟨hnone, hassign⟩ | ⟨hsame, hassign⟩ | ⟨slot, _, _, hassign⟩
  · rw [hassign]
    exact (StateTable.written_unknown value hnone).symm
  · rw [hassign]
    exact (StateTable.written_eq_self hsame).symm
  · rw [hassign]
    rfl

theorem run_sets_table (assigned : List (VariableId × String)) :
    forall board : Board,
      (board.run (sets assigned)).table = board.table.writtenAll assigned := by
  induction assigned with
  | nil =>
      intro board
      rfl
  | cons pair rest ih =>
      intro board
      exact (ih _).trans (congrArg (fun table => table.writtenAll rest)
        (set_table pair.1 pair.2 board))

theorem run_sets_alone {place : Nat} (assigned : List (VariableId × String)) :
    forall {board single : Board}, Alone place board single ->
      Alone place (board.run (sets assigned)) (single.run (sets assigned)) := by
  induction assigned with
  | nil =>
      intro board single halone
      exact halone
  | cons pair rest ih =>
      intro board single halone
      exact ih (set_alone pair.1 pair.2 board single halone).2

/-- What a list of assignments leads to when the first failure ends it. -/
theorem collect_sets (assigned : List (VariableId × String)) :
    forall board : Board,
      (Act.collect (fun (id, value) => (set id value).mapError Reporter.Error.table)
        assigned board).state =
        board.run (sets (attempted board.table.slots.length assigned)) := by
  induction assigned with
  | nil =>
      intro board
      rfl
  | cons pair rest ih =>
      intro board
      rcases pair with ⟨id, value⟩
      have hknown := set_isOk id value board
      have hlength : (set id value board).state.table.slots.length =
          board.table.slots.length := by
        rw [set_table, StateTable.length_slots_written]
      cases hset : (set id value board).result with
      | error e =>
          have hfirst : ((set id value).mapError Reporter.Error.table board).result =
              .error (.table e) := congrArg (Except.mapError Reporter.Error.table) hset
          rw [hset] at hknown
          rw [Act.collect, Act.bind_state, attempted, if_neg (of_decide_eq_false hknown.symm)]
          simp only [hfirst]
          rfl
      | ok new =>
          have hfirst : ((set id value).mapError Reporter.Error.table board).result =
              .ok new := congrArg (Except.mapError Reporter.Error.table) hset
          rw [hset] at hknown
          rw [Act.collect, Act.bind_state, attempted, if_pos (of_decide_eq_true hknown.symm)]
          simp only [hfirst]
          have hrest := ih (set id value board).state
          rw [hlength] at hrest
          exact (Act.map_state (List.cons new) (Act.collect _ rest) _).trans hrest

/-- A body assigns, and then it may commit. -/
theorem body_state (place : Nat) (body : Body) (board : Board) :
    let assigned := board.run (sets (attempted board.table.slots.length body.sets))
    (body.act place board).state = assigned ∨
      (body.act place board).state = (commit place assigned).state := by
  rcases body with ⟨listed, commits, failure⟩
  intro assigned
  have hassigned : (Act.collect (fun (id, value) => (set id value).mapError Reporter.Error.table)
      listed board).state = assigned := collect_sets listed board
  rw [Body.act, Act.bind_state, hassigned]
  split
  · exact Or.inl rfl
  · cases commits with
    | false =>
        cases failure <;> exact Or.inl rfl
    | true =>
        apply Or.inr
        simp only [if_true, Act.bind_state]
        split
        · rfl
        · cases failure <;> rfl

theorem table_after (step : Step) (board : Board) :
    (board.after step).table = board.table.writtenAll (board.assignments step) := by
  cases step with
  | set id value =>
      exact set_table id value board
  | attach space recipient =>
      rfl
  | start place =>
      rfl
  | commit place =>
      rfl
  | transaction place body =>
      rw [after, transaction_state, assignments, start_result]
      cases hopen : (board.reporter place).isOpen with
      | true =>
          rfl
      | false =>
          have hassigned := run_sets_table (attempted board.table.slots.length body.sets)
            (start place board).state
          rcases body_state place body (start place board).state with hbody | hbody
          · exact (congrArg Board.table hbody).trans hassigned
          · exact (congrArg Board.table hbody).trans hassigned

theorem table_run (steps : List Step) :
    forall board : Board,
      (board.run steps).table = board.table.writtenAll (board.assignmentsOf steps) := by
  induction steps with
  | nil =>
      intro board
      rfl
  | cons step rest ih =>
      intro board
      rw [run_cons, ih, table_after, assignmentsOf, StateTable.writtenAll, StateTable.writtenAll,
        StateTable.writtenAll, List.foldl_append]

/-!
# Calls of others
-/

section

variable {place other : Nat} {board single : Board}

theorem alone_start (halone : Alone place board single) (hother : other ≠ place) :
    Alone place (start other board).state single := by
  rcases halone with ⟨hplace, rfl⟩
  refine ⟨(length_start other board).symm ▸ hplace, ?_⟩
  rw [alone, alone, reporter_start other hplace, if_neg hother]
  rfl

theorem alone_commit (halone : Alone place board single) (hother : other ≠ place) :
    Alone place (commit other board).state single := by
  rcases halone with ⟨hplace, rfl⟩
  refine ⟨(length_commit other board).symm ▸ hplace, ?_⟩
  rw [alone, alone, reporter_commit other hplace, if_neg fun hboth => hother hboth.1]
  rfl

theorem alone_attach (space : String) (recipient : Recipient)
    (halone : Alone place board single) : Alone place (board.attach space recipient) single := by
  rcases halone with ⟨hplace, rfl⟩
  refine ⟨lt_length_attach space recipient hplace, ?_⟩
  rw [alone, alone, reporter_attach space recipient hplace]
  rfl

/-- A transaction of another reporter comes to its assignments. -/
theorem alone_transaction (body : Body) (halone : Alone place board single)
    (hother : other ≠ place) :
    Alone place (board.after (.transaction other body))
      (single.run (sets (board.assignments (.transaction other body)))) := by
  have hopened := alone_start halone hother
  rw [after, transaction_state, assignments, start_result]
  cases hopen : (board.reporter other).isOpen with
  | true =>
      exact hopened
  | false =>
      have hassigned := run_sets_alone (attempted board.table.slots.length body.sets) hopened
      rcases body_state other body (start other board).state with hbody | hbody
      · exact alone_commit (hbody ▸ hassigned) hother
      · exact alone_commit (hbody ▸ alone_commit hassigned hother) hother

end

/-!
# Runs
-/

section

variable {place : Nat} {board single : Board}

/-- A reporter's own call does to it what the call does to the reporter alone. -/
theorem own_after {step call : Step} (hcall : call? place step = some call)
    (halone : Alone place board single) :
    Alone place (board.after step) (single.after call) ∧
      board.result? place step = single.result? 0 call := by
  cases step with
  | set id value =>
      cases hcall
  | attach space recipient =>
      cases hcall
  | start other =>
      rw [call?, Option.ite_none_right_eq_some] at hcall
      rcases hcall with ⟨rfl, ⟨rfl⟩⟩
      rcases start_alone board single halone with ⟨hresult, hstate⟩
      refine ⟨hstate, ?_⟩
      rw [result?, result?, if_pos rfl, if_pos rfl, hresult]
  | commit other =>
      rw [call?, Option.ite_none_right_eq_some] at hcall
      rcases hcall with ⟨rfl, ⟨rfl⟩⟩
      rcases commit_alone board single halone with ⟨hresult, hstate⟩
      refine ⟨hstate, ?_⟩
      rw [result?, result?, if_pos rfl, if_pos rfl, hresult]
  | transaction other body =>
      rw [call?, Option.ite_none_right_eq_some] at hcall
      rcases hcall with ⟨rfl, ⟨rfl⟩⟩
      rcases transaction_alone (body_alone body) board single halone with ⟨hresult, hstate⟩
      refine ⟨hstate, ?_⟩
      rw [result?, result?, if_pos rfl, if_pos rfl, hresult]

/-- Anything else comes to its assignments. -/
theorem others_after {step : Step} (hcall : call? place step = none)
    (halone : Alone place board single) :
    Alone place (board.after step) (single.run (sets (board.assignments step))) ∧
      board.result? place step = none := by
  cases step with
  | set id value =>
      exact ⟨(set_alone id value board single halone).2, rfl⟩
  | attach space recipient =>
      exact ⟨alone_attach space recipient halone, rfl⟩
  | start other =>
      rw [call?, ite_eq_right_iff] at hcall
      have hother : other ≠ place := fun hsame => nomatch hcall hsame
      exact ⟨alone_start halone hother, if_neg hother⟩
  | commit other =>
      rw [call?, ite_eq_right_iff] at hcall
      have hother : other ≠ place := fun hsame => nomatch hcall hsame
      exact ⟨alone_commit halone hother, if_neg hother⟩
  | transaction other body =>
      rw [call?, ite_eq_right_iff] at hcall
      have hother : other ≠ place := fun hsame => nomatch hcall hsame
      exact ⟨alone_transaction body halone hother, if_neg hother⟩

theorem results_sets (assigned : List (VariableId × String)) :
    forall single : Board, single.results 0 (sets assigned) = [] := by
  induction assigned with
  | nil =>
      intro single
      rfl
  | cons pair rest ih =>
      intro single
      exact ih _

theorem results_append (first second : List Step) :
    forall board : Board,
      board.results place (first ++ second) =
        board.results place first ++ (board.run first).results place second := by
  induction first with
  | nil =>
      intro board
      rfl
  | cons step rest ih =>
      intro board
      rw [List.cons_append, results, results, ih, run_cons, List.append_assoc]

/-- A step does to a reporter what that which concerns it does to the reporter alone. -/
theorem alone_after (step : Step) (halone : Alone place board single) :
    Alone place (board.after step) (single.run (board.concerning place step)) ∧
      (board.result? place step).toList = single.results 0 (board.concerning place step) := by
  rw [concerning]
  cases hcall : call? place step with
  | none =>
      rcases others_after hcall halone with ⟨hnext, hresult⟩
      rw [hresult]
      exact ⟨hnext, (results_sets _ single).symm⟩
  | some call =>
      rcases own_after hcall halone with ⟨hnext, hresult⟩
      rw [hresult]
      exact ⟨hnext, (List.append_nil _).symm⟩

theorem alone_run (steps : List Step) :
    forall {board single : Board}, Alone place board single ->
      Alone place (board.run steps) (single.run (board.concerns place steps)) ∧
        board.results place steps = single.results 0 (board.concerns place steps) := by
  induction steps with
  | nil =>
      intro board single halone
      exact ⟨halone, rfl⟩
  | cons step rest ih =>
      intro board single halone
      rcases alone_after step halone with ⟨hnext, hresult⟩
      rcases ih hnext with ⟨hrun, hresults⟩
      rw [run_cons, concerns, run_append, results, results_append, hresult, hresults]
      exact ⟨hrun, rfl⟩

theorem Alone.reporter (halone : Alone place board single) :
    board.reporter place = single.reporter 0 := by
  rw [halone.2]
  rfl

theorem Alone.table (halone : Alone place board single) : board.table = single.table := by
  rw [halone.2]
  rfl

/-- Where a reporter is attached it is alone with what was assigned before. -/
theorem alone_attached (steps : List Step) (space : String) (recipient : Recipient) :
    Alone (board.run steps).reporters.length ((board.run steps).attach space recipient)
      ⟨board.table.writtenAll (board.assignmentsOf steps), [.attached space recipient]⟩ := by
  refine ⟨?_, ?_⟩
  · simp [attach]
  · rw [alone, reporter_attached, ← table_run]
    rfl

end

/-!
# Transactions with any body
-/

/-- The steps of a transaction whose body comes to some steps of its own. -/
def writtenOut (board : Board) (place : Nat) (inside : List Step) : List Step :=
  if (board.reporter place).isOpen then [.start place]
  else .start place :: inside ++ [.commit place]

section

variable {α : Type} {place : Nat} {board : Board} {body : Act Board Reporter.Error α}
  {inside : List Step}

theorem transaction_writtenOut
    (hinside : (body (start place board).state).state = (start place board).state.run inside) :
    (transaction place body board).state = board.run (board.writtenOut place inside) := by
  rw [transaction_state, start_result, writtenOut]
  cases hopen : (board.reporter place).isOpen with
  | true =>
      rfl
  | false =>
      simp only [Bool.false_eq_true, if_false, hinside]
      rw [List.cons_append, run_cons, run_append]
      rfl

/--
Transactions of reporters that are alike have the same result when their bodies
come to alike steps with the same result.
-/
theorem transaction_alike {other : Nat} {board' single : Board}
    {body' : Act Board Reporter.Error α} {inside' : List Step}
    (halone : Alone place board single) (halone' : Alone other board' single)
    (hinside : (body (start place board).state).state = (start place board).state.run inside)
    (hinside' : (body' (start other board').state).state =
      (start other board').state.run inside')
    (hconcerns : (start place board).state.concerns place inside =
      (start other board').state.concerns other inside')
    (hresult : (body (start place board).state).result =
      (body' (start other board').state).result) :
    (transaction place body board).result = (transaction other body' board').result ∧
      (transaction place body board).state.reporter place =
        (transaction other body' board').state.reporter other := by
  have hsame : board.reporter place = board'.reporter other :=
    halone.reporter.trans halone'.reporter.symm
  cases hopen : (board.reporter place).isOpen with
  | true =>
      rw [transaction_refused hopen, transaction_refused (hsame ▸ hopen)]
      exact ⟨rfl, hsame⟩
  | false =>
      have hopened := (start_alone board single halone).2
      have hopened' := (start_alone board' single halone').2
      have hbody : Alone place (body (start place board).state).state _ :=
        hinside ▸ (alone_run inside hopened).1
      have hbody' : Alone other (body' (start other board').state).state _ :=
        hinside' ▸ hconcerns ▸ (alone_run inside' hopened').1
      have hclosing := (commit_alone _ _ hbody).2
      have hclosing' := (commit_alone _ _ hbody').2
      constructor
      · rw [transaction_result hopen, transaction_result (hsame ▸ hopen), hbody.reporter,
          hbody'.reporter, hresult]
      · rw [transaction_state, transaction_state, start_result, start_result, ← hsame, hopen]
        exact hclosing.reporter.trans hclosing'.reporter.symm

end

/-!
# Independence
-/

/-- What concerns a reporter about steps among which no other one has a whole transaction. -/
def concern? (place : Nat) : Step -> Option Step
  | .set id value => some (.set id value)
  | step => call? place step

theorem concerning_plain {place : Nat} {board : Board} {step : Step}
    (hplain : forall other body, .transaction other body = step -> other = place) :
    board.concerning place step = (concern? place step).toList := by
  rw [concerning]
  cases step with
  | set id value =>
      rfl
  | attach space recipient =>
      rfl
  | start other =>
      show _ = (call? place (.start other)).toList
      cases call? place (.start other) <;> rfl
  | commit other =>
      show _ = (call? place (.commit other)).toList
      cases call? place (.commit other) <;> rfl
  | transaction other body =>
      show _ = (call? place (.transaction other body)).toList
      rw [call?, if_pos (hplain other body rfl)]
      rfl

theorem concerns_plain {place : Nat} (steps : List Step) :
    forall {board : Board},
      (forall other body, .transaction other body ∈ steps -> other = place) ->
        board.concerns place steps = steps.filterMap (concern? place) := by
  induction steps with
  | nil =>
      intro board _
      rfl
  | cons step rest ih =>
      intro board hplain
      have hrest : (board.after step).concerns place rest = rest.filterMap (concern? place) :=
        ih fun other body hmem => hplain other body (List.mem_cons_of_mem step hmem)
      have hstep : board.concerning place step = (concern? place step).toList :=
        concerning_plain fun other body hsame =>
          hplain other body (hsame ▸ List.mem_cons_self)
      rw [concerns, hrest, hstep, List.filterMap_cons]
      cases concern? place step <;> rfl

/--
Two reporters that are attached with the same recipient, to tables of the same
variables, fare alike: if the same values were assigned before them, and the
same values were assigned among the same calls of theirs afterwards, then they
have sent and hold back the same, and their calls had the same results.  What
others start and commit does not count, and neither does who else is attached;
the whole transactions of others count as the assignments that they come to.
-/
theorem reporters_independent (declared : List Variable) (space : String)
    (recipient : Recipient) (earlier earlier' later later' : List Step) :
    let before := (ofVariables declared).run earlier
    let before' := (ofVariables declared).run earlier'
    let place := before.reporters.length
    let place' := before'.reporters.length
    let joined := before.attach space recipient
    let joined' := before'.attach space recipient
    let now := joined.run later
    let now' := joined'.run later'
    ((ofVariables declared).assignmentsOf earlier =
        (ofVariables declared).assignmentsOf earlier' ->
      joined.concerns place later = joined'.concerns place' later' ->
        now.table = now'.table ∧
        now.reporter place = now'.reporter place' ∧
        joined.results place later = joined'.results place' later' ∧
        forall (α : Type) (body body' : Act Board Reporter.Error α) (inside inside' : List Step),
          let opened := (start place now).state
          let opened' := (start place' now').state
          (body opened).state = opened.run inside ->
          (body' opened').state = opened'.run inside' ->
          opened.concerns place inside = opened'.concerns place' inside' ->
          (body opened).result = (body' opened').result ->
            (transaction place body now).result = (transaction place' body' now').result ∧
            (transaction place body now).state.reporter place =
              (transaction place' body' now').state.reporter place') ∧
    ((forall other body, .transaction other body ∈ later -> other = place) ->
      joined.concerns place later = later.filterMap (concern? place)) ∧
    (forall (α : Type) (other : Nat) (body : Act Board Reporter.Error α) (inside : List Step),
      (body (start other now).state).state = (start other now).state.run inside ->
        (transaction other body now).state = now.run (now.writtenOut other inside)) := by
  intro before before' place place' joined joined' now now'
  refine ⟨?_, fun hplain => concerns_plain later hplain, fun α other body inside hinside =>
    transaction_writtenOut hinside⟩
  intro hearlier hlater
  have hjoined : Alone place joined _ :=
    alone_attached earlier space recipient
  have hjoined' : Alone place' joined' _ :=
    alone_attached earlier' space recipient
  rw [← hearlier] at hjoined'
  rcases alone_run later hjoined with ⟨hnow, hresults⟩
  rcases alone_run later' hjoined' with ⟨hnow', hresults'⟩
  rw [← hlater] at hnow' hresults'
  refine ⟨hnow.table.trans hnow'.table.symm, hnow.reporter.trans hnow'.reporter.symm,
    hresults.trans hresults'.symm, ?_⟩
  intro α body body' inside inside' opened opened' hinside hinside' hconcerns hresult
  exact transaction_alike hnow hnow' hinside hinside' hconcerns hresult

/-- Before the second reporter is attached. -/
def companyBefore : List Step :=
  [.attach "urn:first" .function, .start 0, .set 0 "40"]

/-- The second reporter holds back a change, and the first one fails to start again. -/
def company : List Step :=
  [ .start 1,
    .set 2 "1",
    .transaction 0 ⟨[(0, "30")], false, none⟩,
    .commit 0,
    .set 0 "20",
    .attach "urn:third" .function,
    .commit 1 ]

/-- The same assignments and calls of a reporter that has no company. -/
def solitude : List Step :=
  [.start 0, .set 2 "1", .set 0 "20", .commit 0]

/-- With company or without, the reporter has sent the same document. -/
theorem reporters_independent_company :
    let joined := ((ofVariables soundVariables).run companyBefore).attach "urn:own" .function
    let joined' := ((ofVariables soundVariables).run [.set 0 "40"]).attach "urn:own" .function
    joined.concerns 1 company = joined'.concerns 0 solitude ∧
      (joined.run company).reporter 1 = (joined'.run solitude).reporter 0 ∧
      ((joined.run company).reporter 1).sent.length = 1 ∧
      joined.results 1 company = joined'.results 0 solitude ∧
      (transaction 1 ((set 0 "30").mapError Reporter.Error.table) (joined.run company)).result =
        (transaction 0 ((set 0 "30").mapError Reporter.Error.table)
          (joined'.run solitude)).result := by
  intro joined joined'
  have hconcerns : joined.concerns 1 company = joined'.concerns 0 solitude := by decide
  rcases (reporters_independent soundVariables "urn:own" .function companyBefore [.set 0 "40"]
    company solitude).1 (by decide) hconcerns with ⟨_, hreporter, hresults, htransaction⟩
  have hassigned := htransaction Bool ((set 0 "30").mapError Reporter.Error.table)
    ((set 0 "30").mapError Reporter.Error.table) [.set 0 "30"] [.set 0 "30"] rfl rfl
    (by decide) (by decide)
  exact ⟨hconcerns, hreporter, by decide, hresults, hassigned.1⟩

end Board
end UpnpAv
