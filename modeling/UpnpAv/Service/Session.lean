import UpnpAv.Service.Basic

/-!
# Asking a service
-/

namespace UpnpAv
namespace Service

/-- What a service can be given. -/
inductive Input where
  | update (body : Body)
  | get (id : VariableId)
  | getByName (name : String)
  | values
  | initialDocument
  | reporter
  | start
  | commit
  | name
  | description
deriving Repr, DecidableEq

/-- What an input is answered with. -/
inductive Answer where
  | updated (result : Except Renderer.Error (List Bool))
  | text (text : Option String)
  | values (values : List String)
  | reporter (reporter : Option Reporter)
  /-- The result of a transaction call; none for a service without a reporter. -/
  | transaction (result : Option (Except Reporter.Error Unit))
  | document (document : Option String)

variable {ε : Type}

/-- Carry out a transaction call, which needs a reporter. -/
def onTransaction (m : Act Reporter Reporter.Error Unit) : Act Service ε Answer := do
  let service ← Act.read
  let result ← Act.attempt (onReporter m)
  pure (.transaction (service.eventing.map fun _ => result))

/-- Carry out an input.  Answers it and says which documents are to be delivered. -/
def respond : Input -> Act Service ε (Answer × List Delivery)
  | .update body => do
      let (result, deliveries) ← update body.act
      pure (.updated result, deliveries)
  | .get id => do
      let service ← Act.read
      pure (.text (service.get? id), [])
  | .getByName name => do
      let service ← Act.read
      pure (.text (service.table.valueOf? name), [])
  | .values => do
      let service ← Act.read
      pure (.values service.table.values, [])
  | .initialDocument => do
      let service ← Act.read
      pure (.document service.initialDocument?, [])
  | .reporter => do
      let service ← Act.read
      pure (.reporter (service.eventing.map Eventing.reporter), [])
  | .start => do
      let answer ← onTransaction Reporter.start
      pure (answer, [])
  | .commit => do
      let answer ← onTransaction Reporter.commit
      pure (answer, [])
  | .name => do
      let service ← Act.read
      pure (.text (some service.name), [])
  | .description => do
      let service ← Act.read
      pure (.text (some service.describe), [])

end Service
end UpnpAv
