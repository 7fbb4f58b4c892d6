import UpnpAv.Proofs.Service.Closed

/-!
# What an evented service hands over

Whatever is done to an evented service, each document that its reporter sends is
handed over by the update that sent it, so that between two updates nothing
waits.  The last document is then found in its variable as well.

An update that finds the transaction open is refused before its body begins.
-/

namespace UpnpAv
namespace Service

variable {ε α : Type}

/-- The reporter of an evented service. -/
def reporter? (service : Service) : Option Reporter :=
  service.eventing.map Eventing.reporter

/-!
# Inside a transaction
-/

/-- The service with other values, and other entries that wait for the commit. -/
def gathered (service : Service) (table : StateTable) (entries : List Pending) : Service :=
  { service with
    table := table
    eventing := service.eventing.map fun eventing =>
      { eventing with reporter := { eventing.reporter with pending := entries } } }

theorem gathered_assigned {service : Service} {table : StateTable} {entries : List Pending}
    (hopen : service.isOpen = true) (id : VariableId) (slot : Slot) (value : String) :
    exists more, (service.gathered table entries).assigned id slot value =
      service.gathered (table.written id value) more := by
  rcases service with ⟨name, present, _ | ⟨reporter, delivered, last⟩⟩
  · cases hopen
  · cases hevented : slot.declared.evented with
    | false =>
        refine ⟨entries, ?_⟩
        simp [gathered, assigned, Reporter.noticed, hevented]
    | true =>
        refine ⟨Pending.insert ⟨id, slot.declared.name, value⟩ entries, ?_⟩
        have hreporting : reporter.isOpen = true := hopen
        simp [gathered, assigned, Reporter.noticed, hevented, hreporting]

/-- Inside a transaction an assignment changes one variable at most, and sends nothing. -/
theorem set_gathers {service : Service} (hopen : service.isOpen = true) (id : VariableId)
    (value : String) (table : StateTable) (entries : List Pending) :
    exists after more,
      (set id value (service.gathered table entries)).state = service.gathered after more ∧
      after.declared = table.declared ∧
      forall other, other ≠ id -> after.get? other = table.get? other := by
  rcases set_cases id value (service.gathered table entries) with
    ⟨_, hstate⟩ | ⟨_, hstate⟩ | ⟨slot, _, hstate⟩
  · exact ⟨table, entries, hstate, rfl, fun _ _ => rfl⟩
  · exact ⟨table, entries, hstate, rfl, fun _ _ => rfl⟩
  · rcases gathered_assigned hopen id slot value with ⟨more, hassigned⟩
    exact ⟨table.written id value, more, hstate.trans hassigned,
      StateTable.declared_written table id value,
      fun other hother => StateTable.get?_written_other value (Ne.symm hother)⟩

/-- Inside a transaction a body changes the variables that it assigns, and sends nothing. -/
theorem act_gathers (body : Body) {service : Service} (hopen : service.isOpen = true) :
    exists table entries,
      (body.act service).state = service.gathered table entries ∧
      table.declared = service.table.declared ∧
      forall id, id ∉ body.sets.map Prod.fst -> table.get? id = service.table.get? id := by
  have hcollected : exists table entries,
      (Act.collect (fun pair : VariableId × String => set pair.1 pair.2) body.sets service).state =
        service.gathered table entries ∧
      table.declared = service.table.declared ∧
      forall id, id ∉ body.sets.map Prod.fst -> table.get? id = service.table.get? id := by
    apply Act.collect_keeps
      (P := fun reached => exists table entries,
        reached = service.gathered table entries ∧
        table.declared = service.table.declared ∧
        forall id, id ∉ body.sets.map Prod.fst -> table.get? id = service.table.get? id)
    · rintro ⟨id, value⟩ hpair reached ⟨table, entries, rfl, hdeclared, hothers⟩
      rcases set_gathers hopen id value table entries with ⟨after, more, hstate, hkept, hother⟩
      refine ⟨after, more, hstate, hkept.trans hdeclared, ?_⟩
      intro other hunlisted
      rw [hother other, hothers other hunlisted]
      rintro rfl
      exact hunlisted (List.mem_map.mpr ⟨_, hpair, rfl⟩)
    · refine ⟨service.table, (service.reporter?.map Reporter.pending).getD [], ?_, rfl,
        fun _ _ => rfl⟩
      rcases service with ⟨name, table, _ | eventing⟩ <;> rfl
  rw [Body.act, Act.bind_state]
  split
  · exact hcollected
  · cases body.failure <;> exact hcollected

/-!
# Everything handed over
-/

/--
Everything that the reporter sent has been handed over and nothing waits for a
commit.  The last document is in its variable, which is a silent one.
-/
structure HandedOver (space : String) (last : VariableId) (reporter : Reporter)
    (delivered : Delivered) : Prop where
  eventing : delivered.service.eventing = some ⟨reporter, reporter.sent.length, some last⟩
  inSpace : reporter.space = space
  pending : reporter.pending = []
  lastDocument : reporter.lastDocument = reporter.sent.getLast?
  documents : delivered.documents = reporter.sent.map (Delivery.mk space)
  held : forall document, reporter.lastDocument = some document ->
    delivered.service.get? last = some document
  silent : delivered.service.table.evented? last = some false

section

variable {space : String} {last : VariableId} {reporter : Reporter} {service : Service}
  {documents : List Delivery}

theorem handedOver_evented {name : String} {table : StateTable}
    (hlast : table.idOf? "LastChange" = some last) (hsilent : table.evented? last = some false) :
    HandedOver space last (.attached space .function) ⟨evented name table space, []⟩ := by
  refine ⟨?_, rfl, rfl, rfl, rfl, ?_, hsilent⟩
  · rw [evented, hlast]
    rfl
  · intro document hdocument
    cases hdocument

/-- The variable shows the last document, or else what it showed before any was sent. -/
theorem HandedOver.get?_eq {delivered : Delivered}
    (hhanded : HandedOver space last reporter delivered) :
    delivered.service.get? last = reporter.lastDocument.or (delivered.service.get? last) := by
  cases hdocument : reporter.lastDocument with
  | none =>
      rfl
  | some document =>
      exact hhanded.held document hdocument

theorem HandedOver.waiting_eq {delivered : Delivered}
    (hhanded : HandedOver space last reporter delivered) : delivered.service.waiting = [] := by
  rw [waiting, hhanded.eventing]
  show (reporter.sent.drop reporter.sent.length).map _ = []
  rw [List.drop_length]
  rfl

/-!
# Refused updates
-/

theorem start_refused {delivered : Nat} (heventing : service.eventing =
      some ⟨reporter, delivered, some last⟩) (hopen : reporter.isOpen = true) :
    start service =
      ⟨.error (.reporter .alreadyOpen), service,
        [.error s!"LastChange transaction already open for {reporter.space}; refusing to nest"]⟩
    := by
  rcases service with ⟨name, table, eventing⟩
  cases heventing
  rcases reporter with ⟨space, recipient, isOpen, pending, lastDocument, sent⟩
  cases hopen
  rfl

theorem storeLastDocument_held (hhanded : HandedOver space last reporter ⟨service, documents⟩) :
    storeLastDocument service = ⟨.ok (), service, []⟩ := by
  have heventing := hhanded.eventing
  have hheld := hhanded.held
  rcases service with ⟨name, table, eventing⟩
  cases heventing
  rcases reporter with ⟨space, recipient, isOpen, pending, lastDocument, sent⟩
  cases lastDocument with
  | none =>
      rfl
  | some document =>
      have hset := set_present _ (hheld document rfl)
      show put last document _ = _
      rw [put, Act.bind_apply_ok hset]
      rfl

/-- While somebody else holds the transaction, an update does nothing, whatever its body. -/
theorem update_refused (hhanded : HandedOver space last reporter ⟨service, documents⟩)
    (hopen : reporter.isOpen = true) (body : Act Service Renderer.Error α) :
    (update body : Act Service ε _) service =
      ⟨.ok (.error (.reporter .alreadyOpen), []), service,
        [.error s!"LastChange transaction already open for {space}; refusing to nest"]⟩ := by
  have htransaction : transaction body service = _ :=
    Act.bind_apply_error (start_refused hhanded.eventing hopen)
  have hstored := storeLastDocument_held hhanded
  have hwaiting : service.waiting = [] := hhanded.waiting_eq
  have heventing := hhanded.eventing
  rw [hhanded.inSpace] at htransaction
  rcases service with ⟨name, table, eventing⟩
  cases heventing
  rw [update, Act.bind_apply_ok (Act.read_apply _)]
  simp only [Act.attempt, bind, Act.bind, htransaction, hstored, takeWaiting, Act.read,
    Act.modify, pure, hwaiting]
  rfl

/-!
# Steps
-/

/-- At most one document is sent at a commit, and it is the last one. -/
theorem getLast?_announced (sent : List String) (pairs : List (String × String)) :
    (sent ++ announced space pairs).getLast? =
      (announced space pairs).head?.or sent.getLast? := by
  rw [announced]
  by_cases hpairs : pairs = []
  · simp [hpairs]
  · simp [hpairs]

/-- An update that finds the transaction closed hands over what its commit sent. -/
theorem update_handsOver (hhanded : HandedOver space last reporter ⟨service, documents⟩)
    (hclosed : reporter.isOpen = false) (body : Body) :
    exists result next new,
      ((update body.act : Act Service ε _) service).result =
        .ok (result, new.map (Delivery.mk space)) ∧
      next.sent = reporter.sent ++ new ∧
      HandedOver space last next
        ⟨((update body.act : Act Service ε _) service).state,
          documents ++ new.map (Delivery.mk space)⟩ ∧
      (last ∉ body.sets.map Prod.fst ->
        ((update body.act : Act Service ε _) service).state.get? last =
          next.lastDocument.or (service.get? last)) := by
  rcases hhanded with ⟨heventing, rfl, hpending, hlast, hdocuments, _, hsilent⟩
  rcases service with ⟨name, table, eventing⟩
  cases heventing
  have hopened : Service.isOpen ⟨name, table,
      some ⟨{ reporter with isOpen := true }, reporter.sent.length, some last⟩⟩ = true := rfl
  rcases act_gathers body hopened with ⟨after, entries, hstate, hdeclared, hothers⟩
  have hsilentAfter : after.evented? last = some false := by
    rw [StateTable.evented?_eq, hdeclared, ← StateTable.evented?_eq]
    exact hsilent
  rcases update_closed (ε := ε) hclosed hstate hsilentAfter with
    ⟨value, hvalue, hended, hleft⟩
  have hshown : (after.written last value).get? last = some value := by
    apply StateTable.get?_written_same
    rcases Option.map_eq_some_iff.mp hsilentAfter with ⟨slot, hslot, _⟩
    exact (List.getElem?_eq_some_iff.mp hslot).1
  rw [hleft]
  refine ⟨_, _, _, hended, rfl, ⟨rfl, rfl, rfl, ?_, ?_, ?_, ?_⟩, ?_⟩
  · show _ = (reporter.sent ++ announced _ _).getLast?
    rw [getLast?_announced, ← show reporter.lastDocument = _ from hlast]
    rfl
  · exact (congrArg (fun earlier => earlier ++ _) hdocuments).trans List.map_append.symm
  · intro document hdocument
    rw [hdocument] at hvalue
    exact hshown.trans hvalue
  · show (after.written last value).evented? last = some false
    rw [StateTable.evented?_eq, StateTable.declared_written, ← StateTable.evented?_eq]
    exact hsilentAfter
  · intro huntouched
    rw [get?, get?, ← hothers last huntouched, ← hvalue]
    exact hshown

/-- Opening and closing the transaction from outside sends nothing, since nothing waits. -/
theorem HandedOver.onReporter {m : Act Reporter ε Unit} {opened : Bool}
    (hhanded : HandedOver space last reporter ⟨service, documents⟩)
    (hstate : (m reporter).state = { reporter with isOpen := opened }) :
    HandedOver space last { reporter with isOpen := opened }
      ⟨(Service.onReporter m service).state, documents⟩ := by
  rw [onReporter_state, hhanded.eventing, Option.map_some, hstate]
  exact ⟨rfl, hhanded.inSpace, hhanded.pending, hhanded.lastDocument, hhanded.documents,
    hhanded.held, hhanded.silent⟩

theorem commit_unpending (hpending : reporter.pending = []) :
    (Reporter.commit reporter).state = { reporter with isOpen := false } := by
  rw [Reporter.commit_state, Reporter.committed, if_pos hpending]
  rcases reporter with ⟨space, recipient, isOpen, pending, lastDocument, sent⟩
  cases isOpen <;> rfl

theorem after_update {body : Body} {result : Except Renderer.Error (List Bool)}
    {deliveries : List Delivery}
    (hresult : ((update body.act : Act Service Empty _) service).result =
      .ok (result, deliveries)) :
    Delivered.after ⟨service, documents⟩ (.update body) =
      ⟨((update body.act : Act Service Empty _) service).state, documents ++ deliveries⟩ := by
  simp only [Delivered.after, hresult]

/-- The variables that a step assigns. -/
def Step.assigned : Step -> List VariableId
  | .update body => body.sets.map Prod.fst
  | _ => []

/--
Whatever is sent in a step is handed over in the same step, and only an update
sends something.
-/
theorem handedOver_after (step : Step) {delivered : Delivered}
    (hhanded : HandedOver space last reporter delivered) :
    exists next new,
      next.sent = reporter.sent ++ new ∧
      HandedOver space last next (delivered.after step) ∧
      (new ≠ [] -> exists body, step = .update body) ∧
      (last ∉ step.assigned ->
        (delivered.after step).service.get? last =
          next.lastDocument.or (delivered.service.get? last)) := by
  rcases delivered with ⟨service, documents⟩
  have hkept : forall m : Act Reporter Renderer.Error Unit,
      (onReporter m service).state.get? last = service.get? last := by
    intro m
    rw [onReporter_state]
    rfl
  cases step with
  | update body =>
      cases hopen : reporter.isOpen with
      | true =>
          have hrefused := update_refused (ε := Empty) hhanded hopen body.act
          have hafter : Delivered.after ⟨service, documents⟩ (.update body) =
              ⟨service, documents ++ []⟩ := by
            rw [after_update (congrArg Outcome.result hrefused), hrefused]
          rw [hafter, List.append_nil]
          exact ⟨reporter, [], (List.append_nil _).symm, hhanded, fun _ => ⟨body, rfl⟩,
            fun _ => hhanded.get?_eq⟩
      | false =>
          rcases update_handsOver (ε := Empty) hhanded hopen body with
            ⟨result, next, new, hresult, hsent, hnext, hshown⟩
          rw [after_update hresult]
          exact ⟨next, new, hsent, hnext, fun _ => ⟨body, rfl⟩, hshown⟩
  | start =>
      have hstarted : ((Reporter.start.mapError Renderer.Error.reporter) reporter).state =
          { reporter with isOpen := true } := Reporter.start_state reporter
      exact ⟨{ reporter with isOpen := true }, [], (List.append_nil _).symm,
        hhanded.onReporter hstarted, fun hnew => absurd rfl hnew,
        fun _ => (hkept _).trans hhanded.get?_eq⟩
  | commit =>
      have hcommitted : ((Reporter.commit.mapError Renderer.Error.reporter) reporter).state =
          { reporter with isOpen := false } := commit_unpending hhanded.pending
      exact ⟨{ reporter with isOpen := false }, [], (List.append_nil _).symm,
        hhanded.onReporter hcommitted, fun hnew => absurd rfl hnew,
        fun _ => (hkept _).trans hhanded.get?_eq⟩

/-!
# Runs
-/

theorem handedOver_run (steps : List Step) :
    forall {reporter : Reporter} {delivered : Delivered} (initial : Option String),
      HandedOver space last reporter delivered ->
      exists next,
        HandedOver space last next (delivered.run steps) ∧
        ((forall step, step ∈ steps -> last ∉ step.assigned) ->
          delivered.service.get? last = reporter.lastDocument.or initial ->
            (delivered.run steps).service.get? last = next.lastDocument.or initial) := by
  induction steps with
  | nil =>
      intro reporter delivered initial hhanded
      exact ⟨reporter, hhanded, fun _ => id⟩
  | cons step rest ih =>
      intro reporter delivered initial hhanded
      rcases handedOver_after step hhanded with ⟨reached, new, hsent, hreached, _, hshown⟩
      rcases ih initial hreached with ⟨next, hnext, hrest⟩
      refine ⟨next, hnext, ?_⟩
      intro huntouched hinitial
      apply hrest fun later hlater => huntouched later (List.mem_cons_of_mem step hlater)
      rw [hshown (huntouched step List.mem_cons_self), hinitial]
      -- What was sent before this step is replaced as soon as something is sent in it.
      rw [hreached.lastDocument, hhanded.lastDocument, hsent, List.getLast?_append]
      cases new.getLast? <;> cases reporter.sent.getLast? <;> rfl

end

/--
After any run, whatever the reporter of an evented service sent has been handed
over in order, each document by the update that sent it, and nothing waits.  The
last of them is in its variable, as long as nobody assigns that; before the first
the variable keeps its value.  An update that finds the transaction open does
nothing but complain.
-/
theorem documents_handed_over_and_held (name space : String) {table : StateTable}
    {last : VariableId} (hlast : table.idOf? "LastChange" = some last)
    (hsilent : table.evented? last = some false) (steps : List Step) :
    let now := Delivered.run ⟨evented name table space, []⟩ steps
    exists reporter,
      now.service.reporter? = some reporter ∧
      reporter.pending = [] ∧
      now.service.waiting = [] ∧
      now.documents = reporter.sent.map (Delivery.mk space) ∧
      (forall step, exists next new,
        (now.after step).service.reporter? = some next ∧
        next.sent = reporter.sent ++ new ∧
        (now.after step).documents = now.documents ++ new.map (Delivery.mk space) ∧
        (new ≠ [] -> exists body, step = .update body)) ∧
      ((forall step, step ∈ steps -> last ∉ step.assigned) ->
        now.service.get? last =
          (now.documents.getLast?.map Delivery.document).or (table.get? last)) ∧
      (reporter.isOpen = true -> forall (ε α : Type) (body : Act Service Renderer.Error α),
        (update body : Act Service ε _) now.service =
          ⟨.ok (.error (.reporter .alreadyOpen), []), now.service,
            [.error s!"LastChange transaction already open for {space}; refusing to nest"]⟩) := by
  intro now
  have hfresh : HandedOver space last (.attached space .function)
      ⟨evented name table space, []⟩ := handedOver_evented hlast hsilent
  rcases handedOver_run steps (table.get? last) hfresh with ⟨reporter, hhanded, hshown⟩
  refine ⟨reporter, ?_, hhanded.pending, hhanded.waiting_eq, hhanded.documents, ?_, ?_,
    fun hopen ε α body => update_refused hhanded hopen body⟩
  · rw [reporter?, hhanded.eventing]
    rfl
  · intro step
    rcases handedOver_after step hhanded with ⟨next, new, hsent, hnext, hupdate, _⟩
    refine ⟨next, new, ?_, hsent, ?_, hupdate⟩
    · rw [reporter?, hnext.eventing]
      rfl
    · rw [hnext.documents, hsent, List.map_append, ← hhanded.documents]
  · intro huntouched
    rw [hshown huntouched rfl, hhanded.lastDocument, hhanded.documents, List.getLast?_map,
      Option.map_map]
    show _ = (reporter.sent.getLast?.map id).or _
    rw [Option.map_id_fun, id]

/-- A lamp that can be dimmed. -/
def lamp : StateTable :=
  .ofVariables [.subscribed "Power" "off", .subscribed "Level" "9", .silent "LastChange" ""]

/--
An update that stops at an unknown variable, one that is refused in between, one
that fails at its end, and a transaction that is left open.
-/
def troubledUpdates : List Step :=
  [ .update ⟨[(0, "on"), (7, "on")], none⟩,
    .start,
    .update ⟨[(1, "5")], none⟩,
    .commit,
    .update ⟨[(1, "4"), (0, "off")], some "late"⟩,
    .start ]

/-- Two documents were handed over, the second is held, and another update is refused. -/
theorem documents_handed_over_and_held_troubled :
    let now := Delivered.run ⟨evented "Lamp" lamp "urn:lamp", []⟩ troubledUpdates
    lamp.idOf? "LastChange" = some 2 ∧ lamp.evented? 2 = some false ∧
      now.documents.length = 2 ∧
      now.service.get? 2 = (now.documents.getLast?.map Delivery.document).or (lamp.get? 2) ∧
      ((update (Body.act ⟨[(1, "3")], none⟩) : Act Service Empty _) now.service).state =
        now.service := by
  intro now
  have hlast : lamp.idOf? "LastChange" = some 2 := rfl
  rcases documents_handed_over_and_held "Lamp" "urn:lamp" hlast rfl troubledUpdates with
    ⟨reporter, hreporter, _, _, _, _, hheld, hrefused⟩
  have hopen : reporter.isOpen = true := by
    have hleft : now.service.reporter?.map Reporter.isOpen = some true := by decide
    rw [hreporter] at hleft
    exact Option.some.inj hleft
  refine ⟨rfl, rfl, by decide, hheld (by decide), ?_⟩
  rw [hrefused hopen]

end Service
end UpnpAv
