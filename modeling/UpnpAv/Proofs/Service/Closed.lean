import UpnpAv.Proofs.Service.Update
import UpnpAv.Service.Session

/-!
# Updates while nobody holds the transaction

A service is used by others as well, who may open its transaction themselves.
As long as they leave it closed, an update of known variables answers: no step
of it can fail.
-/

namespace UpnpAv

theorem Reporter.isOpen_noticed (change : Change) (reporter : Reporter) :
    (reporter.noticed change).isOpen = reporter.isOpen := by
  unfold noticed
  cases change.evented <;> cases hopen : reporter.isOpen <;> simp [handed, hopen]

namespace Service

/-!
# Evented services
-/

/-- Whether a transaction is open; a service that reports nothing has none. -/
def isOpen (service : Service) : Bool :=
  match service.eventing with
  | none => false
  | some eventing => eventing.reporter.isOpen

/-- A service with certain variables, one of which holds the last document. -/
structure Evented (declared : List Variable) (last : VariableId) (service : Service) : Prop where
  declared : service.table.declared = declared
  eventing : exists reporter delivered, service.eventing = some ⟨reporter, delivered, some last⟩

/-- An evented service whose transaction is open or closed. -/
structure Stands (declared : List Variable) (last : VariableId) (opened : Bool)
    (service : Service) : Prop where
  evented : service.Evented declared last
  isOpen : service.isOpen = opened

section

variable {declared : List Variable} {last : VariableId} {opened : Bool} {ε α : Type}

theorem evented_of_idOf? {name space : String} {table : StateTable}
    (hlast : table.idOf? "LastChange" = some last) :
    (evented name table space).Evented table.declared last := by
  refine ⟨rfl, .attached space .function, 0, ?_⟩
  rw [Service.evented, hlast]

theorem Evented.withReporter {service : Service} (hevented : service.Evented declared last)
    (f : Reporter -> Reporter) :
    Evented declared last
      { service with
        eventing := service.eventing.map fun eventing =>
          { eventing with reporter := f eventing.reporter } } := by
  rcases hevented.eventing with ⟨reporter, delivered, heventing⟩
  refine ⟨hevented.declared, f reporter, delivered, ?_⟩
  rw [heventing]
  rfl

/-!
# Assigning
-/

theorem set_cases (id : VariableId) (value : String) (service : Service) :
    (service.table.slots[id]? = none ∧ (set id value service).state = service) ∨
      ((set id value service).result = .ok false ∧ (set id value service).state = service) ∨
      (exists slot, (set id value service).result = .ok true ∧
        (set id value service).state = service.assigned id slot value) := by
  rcases service.table.assign_cases id value with
    ⟨hunknown, hassign⟩ | ⟨hsame, _⟩ | ⟨slot, hslot, hnew, _⟩
  · apply Or.inl
    refine ⟨hunknown, ?_⟩
    rw [set, Act.bind_state]
    simp only [Act.read_apply, hassign]
    rfl
  · exact Or.inr (Or.inl (set_same service hsame))
  · exact Or.inr (Or.inr ⟨slot, set_new service hslot hnew⟩)

theorem Stands.assigned {service : Service} (hstands : service.Stands declared last opened)
    (id : VariableId) (slot : Slot) (value : String) :
    (service.assigned id slot value).Stands declared last opened := by
  have hevented := hstands.evented.withReporter
    (Reporter.noticed ⟨id, slot.declared.name, slot.value, value, slot.declared.evented⟩)
  constructor
  · refine ⟨?_, hevented.eventing⟩
    exact (StateTable.declared_written ..).trans hstands.evented.declared
  · rcases service with ⟨name, table, _ | eventing⟩
    · exact hstands.isOpen
    · exact (Reporter.isOpen_noticed _ _).trans hstands.isOpen

theorem set_keeps (id : VariableId) (value : String) :
    (set id value).Keeps (Stands declared last opened) := by
  intro service hstands
  rcases set_cases id value service with ⟨_, hstate⟩ | ⟨_, hstate⟩ | ⟨slot, _, hstate⟩
  · rw [hstate]
    exact hstands
  · rw [hstate]
    exact hstands
  · rw [hstate]
    exact hstands.assigned id slot value

theorem putAll_keeps (values : List (VariableId × String)) :
    (putAll values).Keeps (Stands declared last opened) := by
  intro service hstands
  apply Act.each_keeps _ service hstands
  intro pair _ reached hreached
  rw [put_state]
  exact set_keeps pair.1 pair.2 reached hreached

theorem put_answers (value : String) {id : VariableId} (hid : id < declared.length) :
    Act.Answers (Stands declared last opened) (put id value)
      fun _ => Stands declared last opened := by
  intro service hstands
  have hkeeps := set_keeps id value service hstands
  rw [put_result, put_state]
  rcases set_cases id value service with ⟨hunknown, _⟩ | ⟨hresult, _⟩ | ⟨_, hresult, _⟩
  · rw [List.getElem?_eq_none_iff, StateTable.length_slots_eq, hstands.evented.declared]
      at hunknown
    exact absurd hid (Nat.not_lt.mpr hunknown)
  · rw [hresult]
    exact ⟨(), rfl, hkeeps⟩
  · rw [hresult]
    exact ⟨(), rfl, hkeeps⟩

theorem putAll_answers {values : List (VariableId × String)}
    (hids : forall id, id ∈ values.map Prod.fst -> id < declared.length) :
    Act.Answers (Stands declared last opened) (putAll values)
      fun _ => Stands declared last opened := by
  induction values with
  | nil =>
      intro service hstands
      exact ⟨(), rfl, hstands⟩
  | cons pair rest ih =>
      rw [putAll, Act.each_cons]
      apply Act.Answers.bind
      · exact put_answers pair.2 (hids pair.1 List.mem_cons_self)
      · intro done
        exact ih fun id hid => hids id (List.mem_cons_of_mem pair.1 hid)

theorem act_keeps (body : Body) : body.act.Keeps (Stands declared last opened) := by
  unfold Body.act
  apply Act.Keeps.bind
  · intro service hstands
    apply Act.collect_keeps _ service hstands
    intro pair _ reached hreached
    exact set_keeps pair.1 pair.2 reached hreached
  · intro answers service hstands
    cases body.failure <;> exact hstands

/-!
# Transactions
-/

theorem onReporter_keeps (m : Act Reporter ε Unit) :
    (onReporter m).Keeps (Evented declared last) := by
  intro service hevented
  rw [onReporter_state]
  exact hevented.withReporter fun reporter => (m reporter).state

theorem start_answers :
    Act.Answers (Stands declared last false) start fun _ => Stands declared last true := by
  rintro service ⟨hevented, hclosed⟩
  have hkept := onReporter_keeps (Reporter.start.mapError Renderer.Error.reporter) service hevented
  rcases service with ⟨name, table, eventing⟩
  rcases hevented with ⟨_, reporter, delivered, heventing⟩
  cases heventing
  refine ⟨(), ?_, hkept, ?_⟩
  · show (Reporter.start reporter).result.mapError Renderer.Error.reporter = .ok ()
    rw [Reporter.start_result, show reporter.isOpen = false from hclosed]
    rfl
  · show (Reporter.start reporter).state.isOpen = true
    rw [Reporter.start_state]

theorem commit_answers :
    Act.Answers (Stands declared last true) commit fun _ => Stands declared last false := by
  rintro service ⟨hevented, hopen⟩
  have hkept := onReporter_keeps (Reporter.commit.mapError Renderer.Error.reporter) service
    hevented
  rcases service with ⟨name, table, eventing⟩
  rcases hevented with ⟨_, reporter, delivered, heventing⟩
  cases heventing
  refine ⟨(), ?_, hkept, ?_⟩
  · show (Reporter.commit reporter).result.mapError Renderer.Error.reporter = .ok ()
    rw [Reporter.commit_result, show reporter.isOpen = true from hopen]
    rfl
  · show (Reporter.commit reporter).state.isOpen = false
    rw [Reporter.commit_state, if_pos (show reporter.isOpen = true from hopen), Reporter.committed]
    cases reporter.pending <;> rfl

theorem transaction_answers {body : Act Service Renderer.Error α}
    (hbody : Act.Answers (Stands declared last true) body
      fun _ => Stands declared last true) :
    Act.Answers (Stands declared last false) (transaction body)
      fun _ => Stands declared last false := by
  unfold transaction
  apply start_answers.bind
  rintro - service hopen
  rcases hbody service hopen with ⟨answer, hresult, hreached⟩
  rcases commit_answers (body service).state hreached with ⟨done, hcommit, hclosed⟩
  refine ⟨answer, ?_, ?_⟩
  · simp only [Act.bind_result, Act.attempt_apply, hcommit]
    exact hresult
  · simp only [Act.bind_state, Act.attempt_apply, hcommit]
    exact hclosed

theorem transaction_keeps {body : Act Service Renderer.Error α}
    (hbody : body.Keeps (Evented declared last)) :
    (transaction body).Keeps (Evented declared last) := by
  unfold transaction
  refine (onReporter_keeps _).bind fun _ => ?_
  refine Act.Keeps.bind hbody fun result => ?_
  refine (onReporter_keeps _).bind fun _ => ?_
  intro service hevented
  exact hevented

/-!
# Updates
-/

theorem storeLastDocument_answers (hlast : last < declared.length) :
    Act.Answers (Stands declared last opened) storeLastDocument
      fun _ => Stands declared last opened := by
  intro service hstands
  rcases hstands.evented.eventing with ⟨reporter, delivered, heventing⟩
  rw [storeLastDocument, Act.bind_result, Act.bind_state]
  simp only [Act.read_apply, heventing]
  cases reporter.lastDocument with
  | none =>
      exact ⟨(), rfl, hstands⟩
  | some document =>
      exact put_answers document hlast service hstands

/-- An update answers if nobody else holds the transaction and its body answers. -/
theorem update_answers {body : Act Service Renderer.Error α} {service : Service}
    (hlast : last < declared.length) (hstands : service.Stands declared last false)
    (hbody : Act.Answers (Stands declared last true) body
      fun _ => Stands declared last true) :
    exists answer deliveries,
      ((update body : Act Service ε _) service).result = .ok (.ok answer, deliveries) := by
  rcases hstands.evented.eventing with ⟨reporter, delivered, heventing⟩
  rcases transaction_answers hbody service hstands with ⟨answer, hresult, hclosed⟩
  rcases storeLastDocument_answers hlast _ hclosed with ⟨done, hstored, _⟩
  refine ⟨answer, (storeLastDocument (transaction body service).state).state.waiting, ?_⟩
  rw [update_result body heventing, hresult, hstored]
  rfl

/-- However an update ends, the service stays an evented one with the same variables. -/
theorem update_keeps {body : Act Service Renderer.Error α} (hlast : last < declared.length)
    (hbody : body.Keeps (Evented declared last)) :
    (update body : Act Service ε _).Keeps (Evented declared last) := by
  intro service hevented
  rcases hevented.eventing with ⟨reporter, delivered, heventing⟩
  have htransaction := transaction_keeps hbody service hevented
  rcases storeLastDocument_answers hlast _ ⟨htransaction, rfl⟩ with ⟨_, _, hstored⟩
  rcases hstored.evented.eventing with ⟨reached, earlier, hreached⟩
  rw [update_state body heventing, hreached]
  exact ⟨hstored.evented.declared, reached, reached.sent.length, rfl⟩

/-!
# Users
-/

theorem onTransaction_keeps (m : Act Reporter Reporter.Error Unit) :
    (onTransaction m : Act Service ε _).Keeps (Evented declared last) := by
  intro service hevented
  rw [onTransaction, Act.bind_state]
  exact onReporter_keeps m service hevented

/-- Whatever users give to an evented service, it stays one. -/
theorem respond_keeps (hlast : last < declared.length) (input : Input) :
    (respond input : Act Service ε _).Keeps (Evented declared last) := by
  have hlook : forall answer : Service -> Answer × List Delivery,
      (Act.read >>= fun service => pure (answer service) :
        Act Service ε _).Keeps (Evented declared last) := by
    intro answer service hevented
    exact hevented
  cases input with
  | update body =>
      apply Act.Keeps.bind
      · apply update_keeps hlast
        intro service hevented
        exact (act_keeps body service ⟨hevented, rfl⟩).evented
      · intro answer service hevented
        exact hevented
  | start =>
      exact (onTransaction_keeps _).bind fun answer service hevented => hevented
  | commit =>
      exact (onTransaction_keeps _).bind fun answer service hevented => hevented
  | get id =>
      exact hlook _
  | getByName name =>
      exact hlook _
  | values =>
      exact hlook _
  | initialDocument =>
      exact hlook _
  | reporter =>
      exact hlook _
  | name =>
      exact hlook _
  | description =>
      exact hlook _

end

end Service
end UpnpAv
