import UpnpAv.Renderer.Error

/-!
# Services

A service owns a state table.  An evented service also has a reporter; each
update of its variables is one transaction, so it leads to at most one
document.  The variable `LastChange`, where a service has one, holds the last
document that was reported.
-/

namespace UpnpAv

/-- The reporting side of an evented service. -/
structure Eventing where
  reporter : Reporter
  /-- How many documents of the reporter have been handed out for delivery. -/
  delivered : Nat
  /-- The variable that holds the last document. -/
  lastChange : Option VariableId
deriving Repr, DecidableEq

/-- A service: its variables and, if it is evented, its reporting side. -/
structure Service where
  name : String
  table : StateTable
  eventing : Option Eventing
deriving Repr, DecidableEq

namespace Service

variable {ε α : Type}

/-- A service that reports nothing. -/
def unevented (name : String) (table : StateTable) : Service :=
  ⟨name, table, none⟩

/-- A service whose changes from now on are reported in a namespace. -/
def evented (name : String) (table : StateTable) (space : String) : Service :=
  ⟨name, table, some ⟨.attached space .function, 0, table.idOf? "LastChange"⟩⟩

/-- The text that describes a service. -/
def describe (service : Service) : String :=
  "Service \x7b name: " ++ Text.quoted service.name ++
    s!", evented: {service.eventing.isSome} \x7d"

/-- The present value of a variable. -/
def get? (service : Service) (id : VariableId) : Option String :=
  service.table.get? id

/-- The present value of a variable; an empty text when there is no such variable. -/
def value (service : Service) (id : VariableId) : String :=
  (service.get? id).getD ""

/-- The document that a new subscriber receives first. -/
def initialDocument? (service : Service) : Option String :=
  service.eventing.map fun eventing => eventing.reporter.fullDocument service.table

/-! # Single changes -/

/-- Carry out an act on the reporter, if there is one. -/
def onReporter (m : Act Reporter ε Unit) : Act Service ε Unit := fun service =>
  match service.eventing with
  | none => ⟨.ok (), service, []⟩
  | some eventing =>
      let done := m eventing.reporter
      ⟨done.result, { service with eventing := some { eventing with reporter := done.state } },
        done.lines⟩

/-- Assign a value and let the reporter take notice.  Answers whether the value was a new one. -/
def set (id : VariableId) (value : String) : Act Service Renderer.Error Bool := do
  let service ← Act.read
  match service.table.assign id value with
  | .error e => Act.fail (.table e)
  | .ok (_, none) => pure false
  | .ok (table, some change) =>
      Act.modify fun service => { service with table := table }
      onReporter (Reporter.observe change)
      pure true

/-- Assign a value, whether or not it is a new one. -/
def put (id : VariableId) (value : String) : Act Service Renderer.Error Unit := do
  let _ ← set id value

/-- Assign several values in order. -/
def putAll (values : List (VariableId × String)) : Act Service Renderer.Error Unit :=
  Act.each (fun (id, value) => put id value) values

/-! # Updates -/

/-- Open a transaction of the reporter. -/
def start : Act Service Renderer.Error Unit :=
  onReporter (Reporter.start.mapError .reporter)

/-- Close the transaction of the reporter. -/
def commit : Act Service Renderer.Error Unit :=
  onReporter (Reporter.commit.mapError .reporter)

/--
Carry out a body inside a transaction.  The commit happens also after a failing
body, and a failing commit hides the result of the body.
-/
def transaction (body : Act Service Renderer.Error α) : Act Service Renderer.Error α := do
  start
  let result ← Act.attempt body
  commit
  Act.ofExcept result

/-- Copy the last document into the variable that holds it. -/
def storeLastDocument : Act Service Renderer.Error Unit := do
  let service ← Act.read
  match service.eventing with
  | some ⟨reporter, _, some id⟩ =>
      match reporter.lastDocument with
      | some document => put id document
      | none => pure ()
  | _ => pure ()

/-- The documents that wait for delivery. -/
def waiting (service : Service) : List Delivery :=
  match service.eventing with
  | none => []
  | some eventing =>
      (eventing.reporter.sent.drop eventing.delivered).map fun document =>
        ⟨eventing.reporter.space, document⟩

/-- Hand out the documents that wait for delivery. -/
def takeWaiting : Act Service ε (List Delivery) := do
  let service ← Act.read
  Act.modify fun service =>
    { service with
      eventing := service.eventing.map fun eventing =>
        { eventing with delivered := eventing.reporter.sent.length } }
  pure service.waiting

/--
Carry out a body as one update.  Answers its result and the documents to
deliver; they are delivered when the update is over, so that whoever receives
them can look at the service.
-/
def update (body : Act Service Renderer.Error α) :
    Act Service ε (Except Renderer.Error α × List Delivery) := do
  let service ← Act.read
  match service.eventing with
  | none =>
      let result ← Act.attempt body
      pure (result, [])
  | some _ =>
      let result ← Act.attempt (transaction body)
      let stored ← Act.attempt storeLastDocument
      let deliveries ← takeWaiting
      pure (stored.bind fun () => result, deliveries)

/-- What an update consists of: assignments, and perhaps a failure after them. -/
structure Body where
  sets : List (VariableId × String)
  failure : Option String
deriving Repr, DecidableEq

/-- Carry out a body.  Answers which of the values were new ones. -/
def Body.act (body : Body) : Act Service Renderer.Error (List Bool) := do
  let answers ← Act.collect (fun (id, value) => set id value) body.sets
  match body.failure with
  | some reason => Act.fail (.refused reason)
  | none => pure answers

/-! # Runs -/

/-- One step in the life of a service. -/
inductive Step where
  | update (body : Body)
  | start
  | commit
deriving Repr, DecidableEq

/-- A service and the documents that were delivered, the earliest first. -/
structure Delivered where
  service : Service
  documents : List Delivery
deriving Repr, DecidableEq

/-- The service after one step, with what the step delivered. -/
def Delivered.after (delivered : Delivered) : Step -> Delivered
  | .update body =>
      let done : Outcome Service Empty _ := Service.update body.act delivered.service
      match done.result with
      | .ok (_, deliveries) => ⟨done.state, delivered.documents ++ deliveries⟩
      | .error impossible => impossible.elim
  | .start => { delivered with service := (Service.start delivered.service).state }
  | .commit => { delivered with service := (Service.commit delivered.service).state }

/-- The service after a list of steps, with everything that was delivered. -/
def Delivered.run (delivered : Delivered) (steps : List Step) : Delivered :=
  steps.foldl Delivered.after delivered

end Service
end UpnpAv
