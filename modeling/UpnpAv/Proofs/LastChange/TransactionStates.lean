import UpnpAv.Proofs.LastChange.Transaction

/-!
# The states of a transaction

A transaction is open or closed, and while it is closed nothing waits.  A body
that is carried out inside a transaction may do anything to the board, and close
the transaction itself; afterwards the transaction is closed all the same, and
what the body changed is reported.
-/

namespace UpnpAv
namespace Board

open LastChange

/-!
# Changes on the way

Unlike the changes that are gathered for one commit, these go on when the
transaction of a reporter is closed in between.
-/

/-- The boards to which operations lead, with the changes of evented variables on the way. -/
inductive Changes (board : Board) : List (VariableId × String) -> Board -> Prop where
  | here : Changes board [] board
  | set {made : List (VariableId × String)} {next : Board} (id : VariableId) (value : String) :
      Changes board made next ->
      Changes board (made ++ next.news id value) (set id value next).state
  | attach {made : List (VariableId × String)} {next : Board} (space : String)
      (recipient : Recipient) :
      Changes board made next -> Changes board made (next.attach space recipient)
  | start {made : List (VariableId × String)} {next : Board} (place : Nat) :
      Changes board made next -> Changes board made (start place next).state
  | commit {made : List (VariableId × String)} {next : Board} (place : Nat) :
      Changes board made next -> Changes board made (commit place next).state

theorem Changes.trans {board middle next : Board} {earlier later : List (VariableId × String)}
    (hearlier : Changes board earlier middle) (hlater : Changes middle later next) :
    Changes board (earlier ++ later) next := by
  induction hlater with
  | here =>
      rw [List.append_nil]
      exact hearlier
  | set id value _ ih =>
      rw [← List.append_assoc]
      exact ih.set id value
  | attach space recipient _ ih =>
      exact ih.attach space recipient
  | start place _ ih =>
      exact ih.start place
  | commit place _ ih =>
      exact ih.commit place

theorem Reaches.changes {board next : Board} (hreach : Reaches board next) :
    exists made, Changes board made next := by
  induction hreach with
  | here board =>
      exact ⟨[], Changes.here⟩
  | set id value _ ih =>
      rcases ih with ⟨made, hmade⟩
      exact ⟨_, hmade.set id value⟩
  | attach space recipient _ ih =>
      rcases ih with ⟨made, hmade⟩
      exact ⟨made, hmade.attach space recipient⟩
  | start place _ ih =>
      rcases ih with ⟨made, hmade⟩
      exact ⟨made, hmade.start place⟩
  | commit place _ ih =>
      rcases ih with ⟨made, hmade⟩
      exact ⟨made, hmade.commit place⟩
  | @transaction _ next _ place body _ _ ihBody ih =>
      -- The changes of the body come on top, if it is carried out at all.
      rcases ih with ⟨made, hmade⟩
      have hopened := hmade.start place
      rw [transaction_state]
      cases (Board.start place next).result with
      | error e =>
          exact ⟨made, hopened⟩
      | ok done =>
          rcases ihBody (Board.start place next).state with ⟨more, hmore⟩
          exact ⟨_, (hopened.trans hmore).commit place⟩

/--
What one reporter and the table keep under a change, which adds to the changes,
under the start and under the commit, they keep on any way.
-/
theorem Changes.keeps_reporter
    {P : List (VariableId × String) -> StateTable -> Reporter -> Prop} {board next : Board}
    {place : Nat} {made : List (VariableId × String)}
    (hnotice : forall made table reporter id slot value, table.slots[id]? = some slot ->
      P made table reporter ->
      P (made ++ if slot.declared.evented then [(id, value)] else []) (table.written id value)
        (reporter.noticed ⟨id, slot.declared.name, slot.value, value, slot.declared.evented⟩))
    (hstart : forall made table reporter, P made table reporter ->
      P made table { reporter with isOpen := true })
    (hcommit : forall made table reporter, P made table reporter ->
      P made table reporter.committed)
    (hchanges : Changes board made next) (hplace : place < board.reporters.length)
    (hboard : P [] board.table (board.reporter place)) :
    place < next.reporters.length ∧ P made next.table (next.reporter place) := by
  induction hchanges with
  | here =>
      exact ⟨hplace, hboard⟩
  | @set made next id value _ ih =>
      rcases ih with ⟨hlt, hnext⟩
      rcases news_cases id value next with ⟨hnews, hstate⟩ | ⟨slot, hslot, hstate, hnews⟩
      · rw [hnews, hstate, List.append_nil]
        exact ⟨hlt, hnext⟩
      · rw [hnews, hstate, reporter_assigned id slot value hlt, length_assigned]
        exact ⟨hlt, hnotice made next.table _ id slot value hslot hnext⟩
  | attach space recipient _ ih =>
      rcases ih with ⟨hlt, hnext⟩
      rw [reporter_attach space recipient hlt]
      exact ⟨lt_length_attach space recipient hlt, hnext⟩
  | start other _ ih =>
      rcases ih with ⟨hlt, hnext⟩
      rw [reporter_start other hlt, length_start]
      refine ⟨hlt, ?_⟩
      split
      · exact hstart _ _ _ hnext
      · exact hnext
  | commit other _ ih =>
      rcases ih with ⟨hlt, hnext⟩
      rw [reporter_commit other hlt, length_commit]
      refine ⟨hlt, ?_⟩
      split
      · exact hcommit _ _ _ hnext
      · exact hnext

/-!
# Reports
-/

/-- A document that says, of declared variables only, what a variable holds. -/
def Reports (declared : List Variable) (space document : String) (pair : String × String) :
    Prop :=
  exists pairs, document = Document.encode space pairs ∧ pair ∈ pairs ∧
    forall other, other ∈ pairs -> other.1 ∈ declared.map Variable.name

/-- A value of an evented variable waits for the commit, or a document reports it. -/
def Accounted (declared : List Variable) (documents : List String) (reporter : Reporter)
    (id : VariableId) (value : String) : Prop :=
  exists v, declared[id]? = some v ∧ v.evented = true ∧
    (⟨id, v.name, value⟩ ∈ reporter.pending ∨
      exists document, document ∈ documents ∧
        Reports declared reporter.space document (v.name, value))

/-- Once a reporter has sent `before`, the last value of each changed variable is accounted for. -/
structure Accounts (declared : List Variable) (space : String) (before : List String)
    (made : List (VariableId × String)) (table : StateTable) (reporter : Reporter) : Prop where
  listed : table.declared = declared
  namespaced : reporter.space = space
  waits : reporter.Waits table
  accounted : exists documents, reporter.sent = before ++ documents ∧
    forall id value, lastValue? made id = some value ->
      Accounted declared documents reporter id value

theorem reports_encode {declared : List Variable} {pairs : List (String × String)}
    {pair : String × String} (space : String) (hpair : pair ∈ pairs)
    (hnames : forall other, other ∈ pairs -> other.1 ∈ declared.map Variable.name) :
    Reports declared space (Document.encode space pairs) pair :=
  ⟨pairs, rfl, hpair, hnames⟩

theorem sent_handed {reporter : Reporter} {before documents : List String} (document : String)
    (hsent : reporter.sent = before ++ documents) :
    (reporter.handed document).sent = before ++ (documents ++ [document]) := by
  show reporter.sent ++ [document] = _
  rw [hsent, List.append_assoc]

theorem name_mem_declared {table : StateTable} {id : VariableId} {slot : Slot}
    (hslot : table.slots[id]? = some slot) :
    slot.declared.name ∈ table.declared.map Variable.name :=
  List.mem_map_of_mem (List.mem_map_of_mem (List.mem_of_getElem? hslot))

theorem accounts_here {table : StateTable} {reporter : Reporter}
    (hwaits : reporter.Waits table) :
    Accounts table.declared reporter.space reporter.sent [] table reporter := by
  refine ⟨rfl, rfl, hwaits, [], (List.append_nil _).symm, ?_⟩
  intro id value hvalue
  cases hvalue

section

variable {declared : List Variable} {space : String} {before documents : List String}
  {made : List (VariableId × String)} {table : StateTable} {reporter : Reporter}

theorem Accounted.imp {next : Reporter} {later : List String} {id : VariableId}
    {value : String} (haccounted : Accounted declared documents reporter id value)
    (hspace : next.space = reporter.space)
    (hpending : forall entry, entry ∈ reporter.pending -> entry.id = id ->
      entry ∈ next.pending ∨ exists document, document ∈ later ∧
        Reports declared reporter.space document entry.pair) :
    Accounted declared (documents ++ later) next id value := by
  rcases haccounted with ⟨v, hv, hevented, hreported⟩
  refine ⟨v, hv, hevented, ?_⟩
  rw [hspace]
  rcases hreported with hwaiting | ⟨document, hdocument, hreports⟩
  · rcases hpending _ hwaiting rfl with hkept | ⟨document, hdocument, hreports⟩
    · exact Or.inl hkept
    · exact Or.inr ⟨document, List.mem_append_right _ hdocument, hreports⟩
  · exact Or.inr ⟨document, List.mem_append_left _ hdocument, hreports⟩

/-- One more change takes the place of an earlier one of the same variable. -/
theorem accounted_append {next : Reporter} {later : List String} {id : VariableId}
    {value : String}
    (haccounted : forall other last, lastValue? made other = some last ->
      Accounted declared documents reporter other last)
    (hspace : next.space = reporter.space)
    (hpending : forall entry, entry ∈ reporter.pending -> entry.id ≠ id ->
      entry ∈ next.pending)
    (hnew : Accounted declared (documents ++ later) next id value) :
    forall other last, lastValue? (made ++ [(id, value)]) other = some last ->
      Accounted declared (documents ++ later) next other last := by
  intro other last hlast
  rw [lastValue?_append] at hlast
  by_cases hother : other = id
  · rw [if_pos hother] at hlast
    cases hlast
    exact hother ▸ hnew
  · rw [if_neg hother] at hlast
    apply (haccounted other last hlast).imp hspace
    intro entry hentry hid
    exact Or.inl (hpending entry hentry (hid ▸ hother))

theorem accounts_open (haccounts : Accounts declared space before made table reporter) :
    Accounts declared space before made table { reporter with isOpen := true } :=
  ⟨haccounts.listed, haccounts.namespaced, Reporter.waits_open haccounts.waits,
    haccounts.accounted⟩

theorem accounts_committed (haccounts : Accounts declared space before made table reporter) :
    Accounts declared space before made table reporter.committed := by
  rcases haccounts with ⟨hvariables, hspace, hwaits, documents, hsent, haccounted⟩
  have hclosed := Reporter.waits_committed table reporter
  by_cases hpending : reporter.pending = []
  · rw [Reporter.committed, if_pos hpending] at hclosed ⊢
    exact ⟨hvariables, hspace, hclosed, documents, hsent, haccounted⟩
  · rw [Reporter.committed, if_neg hpending] at hclosed ⊢
    refine ⟨hvariables, hspace, hclosed, _, sent_handed _ hsent, ?_⟩
    intro id value hvalue
    refine (haccounted id value hvalue).imp rfl ?_
    intro entry hentry _
    refine Or.inr ⟨_, List.mem_singleton_self _, reports_encode _ ?_ ?_⟩
    · exact List.mem_map_of_mem hentry
    · intro pair hpair
      rcases List.mem_map.mp hpair with ⟨other, hother, rfl⟩
      rcases hwaits.current other hother with ⟨slot, hslot, _, htells⟩
      rw [htells, ← hvariables]
      exact name_mem_declared hslot

/-- A change of an evented variable replaces what was to be reported about it, and only that. -/
theorem accounts_noticed {id : VariableId} {slot : Slot} (value : String)
    (hslot : table.slots[id]? = some slot)
    (haccounts : Accounts declared space before made table reporter) :
    Accounts declared space before
      (made ++ if slot.declared.evented then [(id, value)] else []) (table.written id value)
      (reporter.noticed ⟨id, slot.declared.name, slot.value, value, slot.declared.evented⟩) := by
  have hwaits := Reporter.waits_noticed value hslot haccounts.waits
  have hvariables := (table.declared_written id value).trans haccounts.listed
  have hv : declared[id]? = some slot.declared :=
    haccounts.listed ▸ StateTable.declared_of_slot hslot
  rcases haccounts with ⟨hbefore, hspace, hwaited, documents, hsent, haccounted⟩
  cases hevented : slot.declared.evented with
  | false =>
      rw [hevented] at hwaits
      rw [if_neg Bool.false_ne_true, List.append_nil]
      exact ⟨hvariables, hspace, hwaits, documents, hsent, haccounted⟩
  | true =>
      rw [hevented] at hwaits
      rw [if_pos rfl]
      cases hopen : reporter.isOpen with
      | true =>
          rw [Reporter.noticed, if_pos rfl, hopen, if_pos rfl] at hwaits ⊢
          refine ⟨hvariables, hspace, hwaits, documents ++ [], ?_, ?_⟩
          · rw [List.append_nil]
            exact hsent
          · refine accounted_append haccounted rfl ?_ ?_
            · intro entry hentry hother
              exact (Pending.mem_insert hwaited.ascending).mpr (Or.inr ⟨hentry, hother⟩)
            · exact ⟨slot.declared, hv, hevented,
                Or.inl ((Pending.mem_insert hwaited.ascending).mpr (Or.inl rfl))⟩
      | false =>
          rw [Reporter.noticed, if_pos rfl, hopen, if_neg Bool.false_ne_true] at hwaits ⊢
          refine ⟨hvariables, hspace, hwaits, _, sent_handed _ hsent, ?_⟩
          refine accounted_append haccounted rfl ?_ ?_
          · intro entry hentry _
            exact hentry
          · refine ⟨slot.declared, hv, hevented, Or.inr ⟨_, List.mem_append_right _
              (List.mem_singleton_self _), reports_encode _ (List.mem_singleton_self _) ?_⟩⟩
            intro pair hpair
            rw [List.mem_singleton.mp hpair, ← hbefore]
            exact name_mem_declared hslot

theorem isOpen_committed (reporter : Reporter) : reporter.committed.isOpen = false := by
  rw [Reporter.committed]
  split <;> rfl

/-- With its commit a transaction is closed, and so it is without when it was closed before. -/
theorem accounts_closed (haccounts : Accounts declared space before made table reporter) :
    exists after, (if reporter.isOpen then reporter.committed else reporter) = after ∧
      after.isOpen = false ∧ after.pending = [] ∧
      Accounts declared space before made table after := by
  refine ⟨_, rfl, ?_⟩
  cases hopen : reporter.isOpen with
  | true =>
      rw [if_pos rfl]
      exact ⟨isOpen_committed reporter, Reporter.pending_committed reporter,
        accounts_committed haccounts⟩
  | false =>
      rw [if_neg Bool.false_ne_true]
      exact ⟨hopen, haccounts.waits.closed hopen, haccounts⟩

theorem Accounts.reported {id : VariableId} {value : String}
    (haccounts : Accounts declared space before made table reporter)
    (hpending : reporter.pending = []) (hsent : reporter.sent = before ++ documents)
    (hvalue : lastValue? made id = some value) :
    exists v pairs,
      declared[id]? = some v ∧ v.evented = true ∧
      Document.encode space pairs ∈ documents ∧ (v.name, value) ∈ pairs ∧
      ((forall other, other ∈ declared -> isName other.name = true) ->
        Document.decode (Document.encode space pairs) = .ok pairs) := by
  rcases haccounts.accounted with ⟨others, hothers, haccounted⟩
  rcases haccounted id value hvalue with ⟨v, hv, hevented, hwaiting | ⟨_, hdocument, hreports⟩⟩
  · rw [hpending] at hwaiting
    cases hwaiting
  · rcases hreports with ⟨pairs, rfl, hpair, hlisted⟩
    rw [haccounts.namespaced] at hdocument
    rw [← List.append_cancel_left (hothers.symm.trans hsent)]
    refine ⟨v, pairs, hv, hevented, hdocument, hpair, ?_⟩
    intro hnames
    apply Document.decode_encode
    intro pair hmem
    rcases List.mem_map.mp (hlisted pair hmem) with ⟨other, hother, hname⟩
    rw [← hname]
    exact hnames other hother

end

/-- What a body changes in an opened transaction is accounted for when it ends. -/
theorem Changes.accounts {opened ended : Board} {place : Nat}
    {made : List (VariableId × String)} (hchanges : Changes opened made ended)
    (hplace : place < opened.reporters.length)
    (hwaits : (opened.reporter place).Waits opened.table) :
    place < ended.reporters.length ∧
      Accounts opened.table.declared (opened.reporter place).space (opened.reporter place).sent
        made ended.table (ended.reporter place) :=
  hchanges.keeps_reporter
    (P := Accounts opened.table.declared (opened.reporter place).space
      (opened.reporter place).sent)
    (fun _ _ _ _ _ value hslot haccounts => accounts_noticed value hslot haccounts)
    (fun _ _ _ haccounts => accounts_open haccounts)
    (fun _ _ _ haccounts => accounts_committed haccounts) hplace (accounts_here hwaits)

/-!
# Refusals
-/

theorem set_reporter_self (board : Board) (place : Nat) :
    board.reporters.set place (board.reporter place) = board.reporters := by
  by_cases hplace : place < board.reporters.length
  · rw [reporter, List.getD_eq_getElem?_getD, List.getElem?_eq_getElem hplace, Option.getD_some,
      List.set_getElem_self]
  · exact List.set_eq_of_length_le (Nat.not_lt.mp hplace)

theorem start_refused {place : Nat} {board : Board}
    (hopen : (board.reporter place).isOpen = true) : (start place board).state = board := by
  have hsame : { board.reporter place with isOpen := true } = board.reporter place := by
    rw [← hopen]
  rw [start, onReporter_state, Reporter.start_state, hsame, set_reporter_self]

theorem commit_refused {place : Nat} {board : Board}
    (hclosed : (board.reporter place).isOpen = false) : (commit place board).state = board := by
  rw [commit, onReporter_state, Reporter.commit_state, hclosed, if_neg Bool.false_ne_true,
    set_reporter_self]

/-- Where a transaction is open, another one ends before its body. -/
theorem transaction_refused {α : Type} {place : Nat} {board : Board}
    (hopen : (board.reporter place).isOpen = true) (body : Act Board Reporter.Error α) :
    transaction place body board = ⟨.error .alreadyOpen, board, (start place board).lines⟩ := by
  apply Act.bind_apply_error
  have hresult := start_result place board
  rw [hopen, if_pos rfl] at hresult
  rw [← hresult]
  exact congrArg (Outcome.mk _ · _) (start_refused hopen)

/-!
# Transactions
-/

theorem transaction_result {α : Type} {place : Nat} {board : Board}
    (hclosed : (board.reporter place).isOpen = false) (body : Act Board Reporter.Error α) :
    (transaction place body board).result =
      if ((body (start place board).state).state.reporter place).isOpen then
        (body (start place board).state).result
      else .error .notOpen := by
  have hstart := start_result place board
  have hcommit := commit_result place (body (start place board).state).state
  rw [hclosed, if_neg Bool.false_ne_true] at hstart
  rw [transaction, Act.bind_result, hstart]
  simp only [Act.bind_result, Act.attempt_apply]
  cases hended : ((body (start place board).state).state.reporter place).isOpen with
  | true =>
      rw [hended, if_pos rfl] at hcommit
      rw [hcommit, if_pos rfl]
      rfl
  | false =>
      rw [hended, if_neg Bool.false_ne_true] at hcommit
      rw [hcommit, if_neg Bool.false_ne_true]

theorem Reaches.reporters_wait {declared : List Variable} {board : Board}
    (hboard : Reaches (ofVariables declared) board) :
    forall place, place < board.reporters.length ->
      (board.reporter place).Waits board.table := by
  refine hboard.keeps
    (P := fun reached => forall place, place < reached.reporters.length ->
      (reached.reporter place).Waits reached.table) ?_ ?_ ?_ ?_ ?_
  · intro id value reached hreached place hplace
    rcases set_cases id value reached with ⟨_, hsame⟩ | ⟨slot, hslot, _, _, hnew⟩
    · rw [hsame] at hplace ⊢
      exact hreached place hplace
    · rw [hnew, length_assigned] at hplace
      rw [hnew, reporter_assigned id slot value hplace]
      exact Reporter.waits_noticed value hslot (hreached place hplace)
  · intro space recipient reached hreached place hplace
    rw [Board.attach, List.length_append] at hplace
    rcases Nat.lt_or_eq_of_le (Nat.le_of_lt_succ hplace) with hlt | rfl
    · rw [reporter_attach space recipient hlt]
      exact hreached place hlt
    · rw [reporter_attached]
      exact Reporter.waits_attached _ _ _
  · intro other reached hreached place hplace
    rw [length_start] at hplace
    rw [reporter_start other hplace]
    split
    · exact Reporter.waits_open (hreached place hplace)
    · exact hreached place hplace
  · intro other reached hreached place hplace
    rw [length_commit] at hplace
    rw [reporter_commit other hplace]
    split
    · exact Reporter.waits_committed _ _
    · exact hreached place hplace
  · intro place hplace
    exact absurd hplace (Nat.not_lt_zero place)

theorem transaction_accounts {declared : List Variable} {board : Board} {place : Nat} {α : Type}
    {made : List (VariableId × String)} (hboard : Reaches (ofVariables declared) board)
    (hplace : place < board.reporters.length)
    (hclosed : (board.reporter place).isOpen = false) (body : Act Board Reporter.Error α)
    (hchanges : Changes (start place board).state made
      (body (start place board).state).state) :
    let after := (transaction place body board).state.reporter place
    after.isOpen = false ∧ after.pending = [] ∧
      Accounts declared (board.reporter place).space (board.reporter place).sent made
        (body (start place board).state).state.table after := by
  intro after
  have hopened := reporter_start place hplace
  rw [if_pos rfl] at hopened
  have hwaits : ((start place board).state.reporter place).Waits (start place board).state.table :=
    hopened ▸ Reporter.waits_open (hboard.reporters_wait place hplace)
  rcases hchanges.accounts ((length_start place board).symm ▸ hplace) hwaits with
    ⟨hlt, haccounts⟩
  rw [hopened, show (start place board).state.table.declared = declared from hboard.declared_eq]
    at haccounts
  rcases accounts_closed haccounts with ⟨closed, hcommitted, hclosing⟩
  have hafter : after = closed := by
    show (transaction place body board).state.reporter place = closed
    rw [transaction_state, start_result, if_neg (ne_true_of_eq_false hclosed),
      reporter_commit place hlt, ← hcommitted]
    simp only [true_and]
  rw [hafter]
  exact hclosing

/--
A reporter whose transaction is closed holds nothing back.  A transaction is
started only where none is open, and committed only where one is; a refusal
changes nothing, and the body of a refused transaction is never carried out.
Any other transaction is closed in the end, whatever its body did.  Then a
document says the last value of every evented variable that the body changed,
and the result is that of the body, unless the body left no transaction to be
closed.
-/
theorem transaction_closes_and_reports {declared : List Variable} {board : Board} {place : Nat}
    (hboard : Reaches (ofVariables declared) board) (hplace : place < board.reporters.length) :
    let reporter := board.reporter place
    (reporter.isOpen = false -> reporter.pending = []) ∧
    (start place board).result = (if reporter.isOpen then .error .alreadyOpen else .ok ()) ∧
    (commit place board).result = (if reporter.isOpen then .ok () else .error .notOpen) ∧
    (reporter.isOpen = true ->
      (start place board).state = board ∧
      forall {α : Type} (body : Act Board Reporter.Error α),
        transaction place body board =
          ⟨.error .alreadyOpen, board, (start place board).lines⟩) ∧
    (reporter.isOpen = false ->
      (commit place board).state = board ∧
      forall {α : Type} (body : Act Board Reporter.Error α),
        (forall inner, Reaches inner (body inner).state) ->
        let opened := (start place board).state
        let ended := body opened
        let done := transaction place body board
        let after := done.state.reporter place
        after.isOpen = false ∧
        after.pending = [] ∧
        done.result =
          (if (ended.state.reporter place).isOpen then ended.result else .error .notOpen) ∧
        exists documents,
          after.sent = reporter.sent ++ documents ∧
          forall made, Changes opened made ended.state ->
            forall id value, lastValue? made id = some value ->
              exists v pairs,
                declared[id]? = some v ∧ v.evented = true ∧
                Document.encode reporter.space pairs ∈ documents ∧
                (v.name, value) ∈ pairs ∧
                ((forall other, other ∈ declared -> isName other.name = true) ->
                  Document.decode (Document.encode reporter.space pairs) = .ok pairs)) := by
  intro reporter
  refine ⟨(hboard.reporters_wait place hplace).closed, start_result place board,
    commit_result place board, ?_, ?_⟩
  · intro hopen
    exact ⟨start_refused hopen, fun body => transaction_refused hopen body⟩
  · intro hclosed
    refine ⟨commit_refused hclosed, ?_⟩
    intro α body hbody opened ended done after
    rcases (hbody opened).changes with ⟨all, hall⟩
    rcases transaction_accounts hboard hplace hclosed body hall with
      ⟨hisOpen, hpending, haccounts⟩
    rcases haccounts.accounted with ⟨documents, hsent, _⟩
    refine ⟨hisOpen, hpending, transaction_result hclosed body, documents, hsent, ?_⟩
    intro made hchanges id value hvalue
    rcases transaction_accounts hboard hplace hclosed body hchanges with ⟨_, _, hmade⟩
    exact hmade.reported hpending hsent hvalue

/-- A body that commits halfway, goes on assigning and then fails. -/
def halfwayCommitted (place : Nat) : Act Board Reporter.Error Unit := do
  let _ ← Body.act place ⟨[(2, "1"), (0, "30")], true, none⟩
  let _ ← (set 0 "20").mapError Reporter.Error.table
  Act.fail (.refused "unsupported")

theorem reaches_halfwayCommitted (place : Nat) (board : Board) :
    Reaches board (halfwayCommitted place board).state := by
  have hbody := reaches_body place ⟨[(2, "1"), (0, "30")], true, none⟩ board
  rw [halfwayCommitted, Act.bind_state]
  split
  · exact hbody
  · rw [Act.bind_state]
    split <;> exact hbody.set 0 "20"

/-- A transaction whose body commits halfway, and the same one where another is open. -/
theorem transaction_closes_and_reports_halfway :
    (let done := transaction 1 (halfwayCommitted 1) twoReporters
     let after := done.state.reporter 1
     done.result = .error .notOpen ∧ after.isOpen = false ∧ after.pending = [] ∧
     exists documents pairs,
       after.sent = (twoReporters.reporter 1).sent ++ documents ∧
       Document.encode "urn:second" pairs ∈ documents ∧
       ("Volume", "20") ∈ pairs ∧
       Document.decode (Document.encode "urn:second" pairs) = .ok pairs) ∧
    (let opened := (start 1 twoReporters).state
     (transaction 1 (halfwayCommitted 1) opened).result = .error .alreadyOpen ∧
     (transaction 1 (halfwayCommitted 1) opened).state = opened) := by
  have hboard : Reaches (ofVariables soundVariables) twoReporters :=
    reaches_run _ (Reaches.attach _ _ (Reaches.attach _ _ (Reaches.here _)))
  have hplace : 1 < twoReporters.reporters.length := by decide
  have hplaceOpened : 1 < (start 1 twoReporters).state.reporters.length := by decide
  constructor
  · rcases transaction_closes_and_reports hboard hplace with ⟨_, _, _, _, hclosed⟩
    rcases (hclosed rfl).2 (halfwayCommitted 1) (reaches_halfwayCommitted 1) with
      ⟨hisOpen, hpending, hresult, documents, hsent, hreported⟩
    have hchanges : Changes (start 1 twoReporters).state [(2, "1"), (0, "30"), (0, "20")]
        (halfwayCommitted 1 (start 1 twoReporters).state).state :=
      (((Changes.here.set 2 "1").set 0 "30").commit 1).set 0 "20"
    rcases hreported _ hchanges 0 "20" (by decide) with
      ⟨v, pairs, hv, _, hdocument, hpair, hread⟩
    cases hv
    exact ⟨hresult, hisOpen, hpending, documents, pairs, hsent, hdocument, hpair,
      hread (by decide)⟩
  · rcases transaction_closes_and_reports (hboard.start 1) hplaceOpened with
      ⟨_, _, _, hopen, _⟩
    have hrefused := (hopen rfl).2 (halfwayCommitted 1)
    exact ⟨by rw [hrefused], by rw [hrefused]⟩

end Board
end UpnpAv
