import UpnpAv.Proofs.Service.Gathering

/-!
# What an update of a service comes to

Between two updates nothing waits at an evented service, neither for a commit
nor for delivery.  An update that assigns every variable at most once keeps it
so, and delivers one document about the evented variables that it changed, or
none when it changed none.
-/

namespace UpnpAv
namespace Service

open LastChange (Document.encode)

/-!
# Assigning
-/

/-- The service after a new value was assigned and noticed. -/
def assigned (service : Service) (id : VariableId) (slot : Slot) (value : String) : Service :=
  { service with
    table := service.table.written id value
    eventing := service.eventing.map fun eventing =>
      { eventing with
        reporter := eventing.reporter.noticed
          ⟨id, slot.declared.name, slot.value, value, slot.declared.evented⟩ } }

theorem onReporter_result {ε : Type} (m : Act Reporter ε Unit) (service : Service) :
    (onReporter m service).result =
      match service.eventing with
      | none => .ok ()
      | some eventing => (m eventing.reporter).result := by
  rw [onReporter]
  cases service.eventing <;> rfl

theorem onReporter_state {ε : Type} (m : Act Reporter ε Unit) (service : Service) :
    (onReporter m service).state =
      { service with
        eventing := service.eventing.map fun eventing =>
          { eventing with reporter := (m eventing.reporter).state } } := by
  rcases service with ⟨name, table, _ | eventing⟩ <;> rfl

theorem set_present (service : Service) {id : VariableId} {value : String}
    (hvalue : service.table.get? id = some value) :
    set id value service = ⟨.ok false, service, []⟩ := by
  have hassign : service.table.assign id value = .ok (service.table, none) := by
    rcases Option.map_eq_some_iff.mp hvalue with ⟨slot, hslot, rfl⟩
    exact StateTable.assign_same hslot
  rw [set, Act.bind_apply_ok (Act.read_apply service)]
  simp only [hassign]
  rfl

theorem set_same (service : Service) {id : VariableId} {value : String}
    (hvalue : service.table.get? id = some value) :
    (set id value service).result = .ok false ∧ (set id value service).state = service := by
  rw [set_present service hvalue]
  exact ⟨rfl, rfl⟩

theorem set_new (service : Service) {id : VariableId} {slot : Slot} {value : String}
    (hslot : service.table.slots[id]? = some slot) (hnew : slot.value ≠ value) :
    (set id value service).result = .ok true ∧
      (set id value service).state = service.assigned id slot value := by
  have hassign := StateTable.assign_new hslot hnew
  rw [← StateTable.written_eq_set value hslot] at hassign
  have hresult : forall (change : Change) (other : Service),
      ((onReporter (Reporter.observe change) : Act Service Renderer.Error Unit) other).result =
        .ok () := by
    intro change other
    rw [onReporter_result]
    cases other.eventing with
    | none =>
        rfl
    | some eventing =>
        exact Reporter.observe_result change eventing.reporter
  constructor
  · rw [set, Act.bind_result]
    simp only [Act.read_apply, hassign, Act.bind_result, Act.modify_apply, hresult]
    rfl
  · rw [set, Act.bind_state]
    simp only [Act.read_apply, hassign, Act.bind_state, Act.modify_apply, hresult]
    simp only [Act.pure_apply, onReporter_state, Reporter.observe_state]
    rfl

theorem put_result (id : VariableId) (value : String) (service : Service) :
    (put id value service).result = (set id value service).result.map fun _ => () := by
  rw [put, Act.bind_result]
  cases (set id value service).result <;> rfl

theorem put_state (id : VariableId) (value : String) (service : Service) :
    (put id value service).state = (set id value service).state := by
  rw [put, Act.bind_state]
  cases (set id value service).result <;> rfl

/-!
# Assigning inside a transaction
-/

section

variable (name : String) (delivered : Nat) (last : Option VariableId) {before : StateTable}

/-- Inside a transaction a first assignment to a variable is gathered. -/
theorem put_gathers {table : StateTable} {reporter : Reporter} {id : VariableId}
    (value : String) (hopen : reporter.isOpen = true) (hid : id < table.slots.length)
    (hfirst : before.get? id = table.get? id)
    (hgathers : Gathers before table reporter.pending) :
    exists entries,
      (put id value ⟨name, table, some ⟨reporter, delivered, last⟩⟩).result = .ok () ∧
      (put id value ⟨name, table, some ⟨reporter, delivered, last⟩⟩).state =
        ⟨name, table.written id value,
          some ⟨{ reporter with pending := entries }, delivered, last⟩⟩ ∧
      Gathers before (table.written id value) entries := by
  have hslot := List.getElem?_eq_getElem hid
  rw [put_result, put_state]
  by_cases hsame : table.slots[id].value = value
  · have hvalue : table.get? id = some value := by
      rw [StateTable.get?, hslot]
      exact congrArg some hsame
    have hset := set_same ⟨name, table, some ⟨reporter, delivered, last⟩⟩ hvalue
    rw [hset.1, hset.2, StateTable.written_eq_self hvalue]
    exact ⟨reporter.pending, rfl, rfl, hgathers⟩
  · have hset := set_new ⟨name, table, some ⟨reporter, delivered, last⟩⟩ hslot hsame
    rw [hset.1, hset.2]
    cases hevented : table.slots[id].declared.evented with
    | false =>
        refine ⟨reporter.pending, rfl, ?_, gathers_silent value hslot hevented hgathers⟩
        simp [assigned, Reporter.noticed, hevented]
    | true =>
        refine ⟨Pending.insert ⟨id, table.slots[id].declared.name, value⟩ reporter.pending, rfl,
          ?_, gathers_insert hslot hevented hsame hfirst hgathers⟩
        simp [assigned, Reporter.noticed, hevented, hopen]

/-- Inside a transaction assignments to distinct variables are gathered. -/
theorem putAll_gathers {values : List (VariableId × String)} :
    forall {table : StateTable} {reporter : Reporter}, reporter.isOpen = true ->
      (values.map Prod.fst).Nodup ->
      (forall id, id ∈ values.map Prod.fst ->
        id < table.slots.length ∧ before.get? id = table.get? id) ->
      Gathers before table reporter.pending ->
        exists entries,
          (putAll values ⟨name, table, some ⟨reporter, delivered, last⟩⟩).result = .ok () ∧
          (putAll values ⟨name, table, some ⟨reporter, delivered, last⟩⟩).state =
            ⟨name, table.writtenAll values,
              some ⟨{ reporter with pending := entries }, delivered, last⟩⟩ ∧
          Gathers before (table.writtenAll values) entries := by
  induction values with
  | nil =>
      intro table reporter _ _ _ hgathers
      exact ⟨reporter.pending, rfl, rfl, hgathers⟩
  | cons pair rest ih =>
      intro table reporter hopen hdistinct hids hgathers
      rw [List.map_cons, List.nodup_cons] at hdistinct
      have hfirst := hids pair.1 (by simp)
      rcases put_gathers name delivered last pair.2 hopen hfirst.1 hfirst.2 hgathers with
        ⟨entries, hresult, hstate, hput⟩
      have hrest : forall id, id ∈ rest.map Prod.fst ->
          id < (table.written pair.1 pair.2).slots.length ∧
            before.get? id = (table.written pair.1 pair.2).get? id := by
        intro id hid
        have hother : pair.1 ≠ id := by
          rintro rfl
          exact hdistinct.1 hid
        have hknown := hids id (List.mem_cons_of_mem pair.1 hid)
        rw [StateTable.length_slots_written, StateTable.get?_written_other pair.2 hother]
        exact hknown
      have hopen' : ({ reporter with pending := entries } : Reporter).isOpen = true := hopen
      rcases ih hopen' hdistinct.2 hrest hput with ⟨all, hrestResult, hrestState, hall⟩
      refine ⟨all, ?_, ?_, hall⟩
      · rw [putAll, Act.each_cons, Act.bind_result, hresult, hstate]
        exact hrestResult
      · rw [putAll, Act.each_cons, Act.bind_state, hresult, hstate]
        exact hrestState

end

/-- A body that assigns certain values in order, and does nothing else to a service. -/
structure Assigns (body : Act Service Renderer.Error Unit)
    (values : List (VariableId × String)) : Prop where
  result : forall service, (body service).result = (putAll values service).result
  state : forall service, (body service).state = (putAll values service).state

theorem assigns_putAll (values : List (VariableId × String)) :
    Assigns (putAll values) values :=
  ⟨fun _ => rfl, fun _ => rfl⟩

theorem assigns_put (id : VariableId) (value : String) :
    Assigns (put id value) [(id, value)] := by
  constructor
  · intro service
    rw [putAll, Act.each_cons, Act.bind_result]
    cases (put id value service).result <;> rfl
  · intro service
    rw [putAll, Act.each_cons, Act.bind_state]
    cases (put id value service).result <;> rfl

theorem assigns_log {body : Act Service Renderer.Error Unit}
    {values : List (VariableId × String)} (line : Line) (hbody : Assigns body values) :
    Assigns (Act.log line >>= fun _ => body) values := by
  constructor
  · intro service
    rw [Act.bind_result]
    exact hbody.result service
  · intro service
    rw [Act.bind_state]
    exact hbody.state service

/-!
# Updates
-/

/-- The documents about some pairs: one, or none when there are no pairs. -/
def announced (space : String) (pairs : List (String × String)) : List String :=
  if pairs = [] then [] else [Document.encode space pairs]

/--
Between two updates: the transaction is closed, nothing waits for the commit or
for delivery, and the variable that holds the last document is a silent one.
-/
structure Settled (space : String) (last : VariableId) (service : Service) : Prop where
  reporting : exists reporter,
    service.eventing = some ⟨reporter, reporter.sent.length, some last⟩ ∧
      reporter.space = space ∧ reporter.isOpen = false ∧ reporter.pending = []
  silent : service.table.evented? last = some false

theorem settled_evented {name space : String} {table : StateTable} {last : VariableId}
    (hlast : table.idOf? "LastChange" = some last) (hsilent : table.evented? last = some false) :
    (Service.evented name table space).Settled space last := by
  refine ⟨⟨.attached space .function, ?_, rfl, rfl, rfl⟩, hsilent⟩
  rw [Service.evented, hlast]
  rfl

/-- What an update that assigned certain values, and delivered some documents, leaves. -/
structure Updated (space : String) (last : VariableId) (values : List (VariableId × String))
    (before after : Service) (deliveries : List Delivery) : Prop where
  settled : Settled space last after
  declared : after.table.declared = before.table.declared
  values : forall id, id ≠ last ->
    after.table.get? id = (before.table.writtenAll values).get? id
  deliveries : deliveries =
    (announced space (StateTable.changedPairs before.table after.table)).map (Delivery.mk space)

section

variable (name : String) {table : StateTable} (reporter : Reporter) (delivered : Nat)
  (last : VariableId)

/--
A transaction whose body changes only values and what waits for the commit ends
as its body does, and the commit takes what waits.
-/
theorem transaction_closed {α : Type} {body : Act Service Renderer.Error α}
    {after : StateTable} {entries : List Pending} (hclosed : reporter.isOpen = false)
    (hbody : (body ⟨name, table,
        some ⟨{ reporter with isOpen := true }, delivered, some last⟩⟩).state =
      ⟨name, after,
        some ⟨{ reporter with isOpen := true, pending := entries }, delivered, some last⟩⟩) :
    (transaction body ⟨name, table, some ⟨reporter, delivered, some last⟩⟩).result =
        (body ⟨name, table,
          some ⟨{ reporter with isOpen := true }, delivered, some last⟩⟩).result ∧
      (transaction body ⟨name, table, some ⟨reporter, delivered, some last⟩⟩).state =
        ⟨name, after,
          some ⟨({ reporter with isOpen := true, pending := entries } : Reporter).committed,
            delivered, some last⟩⟩ := by
  have hstartResult :
      (start ⟨name, table, some ⟨reporter, delivered, some last⟩⟩).result = .ok () := by
    show (Reporter.start reporter).result.mapError Renderer.Error.reporter = .ok ()
    rw [Reporter.start_result, hclosed]
    rfl
  have hstartState :
      (start ⟨name, table, some ⟨reporter, delivered, some last⟩⟩).state =
        ⟨name, table, some ⟨{ reporter with isOpen := true }, delivered, some last⟩⟩ := by
    show Service.mk name table (some ⟨(Reporter.start reporter).state, delivered, some last⟩) = _
    rw [Reporter.start_state]
  have hcommitResult :
      (commit ⟨name, after,
        some ⟨{ reporter with isOpen := true, pending := entries }, delivered,
          some last⟩⟩).result = .ok () := by
    show (Reporter.commit _).result.mapError Renderer.Error.reporter = .ok ()
    rw [Reporter.commit_result]
    rfl
  constructor
  · rw [transaction, Act.bind_result, hstartResult, hstartState]
    simp only [Act.bind_result, Act.attempt_apply]
    rw [hbody, hcommitResult]
    rfl
  · rw [transaction, Act.bind_state, hstartResult, hstartState]
    simp only [Act.bind_state, Act.attempt_apply]
    rw [hbody, hcommitResult]
    show Service.mk name after
      (some ⟨(Reporter.commit _).state, delivered, some last⟩) = _
    rw [Reporter.commit_state, if_pos rfl]

/-- A reporter after a commit that sent some documents. -/
def concluded (reporter : Reporter) (documents : List String) : Reporter :=
  { reporter with
    isOpen := false
    pending := []
    lastDocument := documents.head?.or reporter.lastDocument
    sent := reporter.sent ++ documents }

theorem committed_eq (entries : List Pending) :
    ({ reporter with isOpen := true, pending := entries } : Reporter).committed =
      concluded reporter (announced reporter.space (entries.map Pending.pair)) := by
  rw [Reporter.committed, announced]
  cases entries with
  | nil =>
      simp [concluded]
  | cons entry rest =>
      simp [concluded, Reporter.handed]

/-- Writing down the last document changes the variable for it and nothing else. -/
theorem storeLastDocument_silent (hsilent : table.evented? last = some false) :
    (storeLastDocument ⟨name, table, some ⟨reporter, delivered, some last⟩⟩).result = .ok () ∧
      exists value,
        some value = reporter.lastDocument.or (table.get? last) ∧
        (storeLastDocument ⟨name, table, some ⟨reporter, delivered, some last⟩⟩).state =
          ⟨name, table.written last value, some ⟨reporter, delivered, some last⟩⟩ := by
  rcases Option.map_eq_some_iff.mp hsilent with ⟨slot, hslot, hevented⟩
  have hvalue : table.get? last = some slot.value := by
    rw [StateTable.get?, hslot]
    rfl
  rw [storeLastDocument, Act.bind_result, Act.bind_state]
  simp only [Act.read_apply]
  cases reporter.lastDocument with
  | none =>
      refine ⟨rfl, slot.value, hvalue.symm, ?_⟩
      rw [StateTable.written_eq_self hvalue]
      rfl
  | some document =>
      simp only [put_result, put_state]
      by_cases hsame : slot.value = document
      · rw [hsame] at hvalue
        have hset := set_same ⟨name, table, some ⟨reporter, delivered, some last⟩⟩ hvalue
        rw [hset.1, hset.2]
        refine ⟨rfl, document, rfl, ?_⟩
        rw [StateTable.written_eq_self hvalue]
      · have hset := set_new ⟨name, table, some ⟨reporter, delivered, some last⟩⟩ hslot hsame
        rw [hset.1, hset.2]
        refine ⟨rfl, document, rfl, ?_⟩
        simp [assigned, Reporter.noticed, show slot.declared.evented = false from hevented]

end

theorem update_result {ε α : Type} (body : Act Service Renderer.Error α) {service : Service}
    {eventing : Eventing} (heventing : service.eventing = some eventing) :
    ((update body : Act Service ε _) service).result =
      .ok ((storeLastDocument (transaction body service).state).result.bind
          fun () => (transaction body service).result,
        (storeLastDocument (transaction body service).state).state.waiting) := by
  rw [update, Act.bind_result]
  simp only [Act.read_apply, heventing, Act.bind_result, Act.attempt_apply, takeWaiting,
    Act.modify_apply, Act.pure_apply]

theorem update_state {ε α : Type} (body : Act Service Renderer.Error α) {service : Service}
    {eventing : Eventing} (heventing : service.eventing = some eventing) :
    ((update body : Act Service ε _) service).state =
      { (storeLastDocument (transaction body service).state).state with
        eventing :=
          (storeLastDocument (transaction body service).state).state.eventing.map fun eventing =>
            { eventing with delivered := eventing.reporter.sent.length } } := by
  rw [update, Act.bind_state]
  simp only [Act.read_apply, heventing, Act.bind_state, Act.attempt_apply, takeWaiting,
    Act.modify_apply, Act.pure_apply]
  rfl

/--
An update that finds the transaction closed, and whose body changes only values
and what waits for the commit: what waited is sent and handed over, and the last
document is written down.
-/
theorem update_closed {ε α : Type} {name : String} {table after : StateTable}
    {reporter : Reporter} {last : VariableId} {body : Act Service Renderer.Error α}
    {entries : List Pending} (hclosed : reporter.isOpen = false)
    (hbody : (body ⟨name, table,
        some ⟨{ reporter with isOpen := true }, reporter.sent.length, some last⟩⟩).state =
      ⟨name, after,
        some ⟨{ reporter with isOpen := true, pending := entries }, reporter.sent.length,
          some last⟩⟩)
    (hsilent : after.evented? last = some false) :
    let service : Service := ⟨name, table, some ⟨reporter, reporter.sent.length, some last⟩⟩
    let documents := announced reporter.space (entries.map Pending.pair)
    let closed := concluded reporter documents
    exists value,
      some value = closed.lastDocument.or (after.get? last) ∧
      ((update body : Act Service ε _) service).result =
        .ok ((body ⟨name, table,
            some ⟨{ reporter with isOpen := true }, reporter.sent.length, some last⟩⟩).result,
          documents.map (Delivery.mk reporter.space)) ∧
      ((update body : Act Service ε _) service).state =
        ⟨name, after.written last value, some ⟨closed, closed.sent.length, some last⟩⟩ := by
  intro service documents closed
  rcases transaction_closed name reporter reporter.sent.length last hclosed hbody with
    ⟨hresult, hstate⟩
  rw [committed_eq] at hstate
  rcases storeLastDocument_silent name closed reporter.sent.length last hsilent with
    ⟨hstoredResult, value, hvalue, hstoredState⟩
  refine ⟨value, hvalue, ?_, ?_⟩
  · rw [update_result body rfl, hstate, hstoredResult, hstoredState, hresult]
    simp [Except.bind, waiting, closed, concluded, documents]
  · rw [update_state body rfl, hstate, hstoredState]
    rfl

/--
An update of a settled service that assigns distinct variables, and not the one
that holds the last document.
-/
theorem update_settled {ε : Type} {space : String} {last : VariableId} {service : Service}
    {body : Act Service Renderer.Error Unit} {values : List (VariableId × String)}
    (hsettled : Settled space last service) (hbody : Assigns body values)
    (hdistinct : (values.map Prod.fst).Nodup)
    (hids : forall id, id ∈ values.map Prod.fst ->
      id < service.table.slots.length ∧ id ≠ last) :
    exists deliveries,
      ((update body : Act Service ε _) service).result = .ok (.ok (), deliveries) ∧
      Updated space last values service ((update body : Act Service ε _) service).state
        deliveries := by
  rcases service with ⟨name, table, eventing⟩
  rcases hsettled with ⟨⟨reporter, heventing, rfl, hclosed, hpending⟩, hsilent⟩
  cases heventing
  have hgathers : Gathers table table ({ reporter with isOpen := true } : Reporter).pending := by
    rw [hpending]
    exact gathers_nil table
  have hopen : ({ reporter with isOpen := true } : Reporter).isOpen = true := rfl
  rcases putAll_gathers name reporter.sent.length (some last) hopen hdistinct
    (fun id hid => ⟨(hids id hid).1, rfl⟩) hgathers with ⟨entries, hresult, hstate, hentries⟩
  rw [← hbody.result] at hresult
  rw [← hbody.state] at hstate
  have hsilentAfter : (table.writtenAll values).evented? last = some false := by
    rw [StateTable.evented?_eq, StateTable.declared_writtenAll, ← StateTable.evented?_eq]
    exact hsilent
  rcases update_closed (ε := ε) hclosed hstate hsilentAfter with
    ⟨document, _, hended, hleft⟩
  have hchanged : entries.map Pending.pair =
      StateTable.changedPairs table ((table.writtenAll values).written last document) := by
    rcases Option.map_eq_some_iff.mp hsilentAfter with ⟨slot, hslot, hevented⟩
    apply map_pair_eq_changedPairs _ (gathers_silent document hslot hevented hentries)
    rw [StateTable.length_slots_eq, StateTable.length_slots_eq, StateTable.declared_written,
      StateTable.declared_writtenAll]
  refine ⟨(announced reporter.space (entries.map Pending.pair)).map (Delivery.mk reporter.space),
    ?_, ?_⟩
  · rw [hended, hresult]
  · rw [hleft]
    refine ⟨⟨⟨_, rfl, rfl, rfl, rfl⟩, ?_⟩, ?_, ?_, ?_⟩
    · rw [StateTable.evented?_eq, StateTable.declared_written, ← StateTable.evented?_eq]
      exact hsilentAfter
    · rw [StateTable.declared_written, StateTable.declared_writtenAll]
    · intro id hid
      exact StateTable.get?_written_other document (Ne.symm hid)
    · rw [hchanged]

end Service
end UpnpAv
