import UpnpAv.Act
import UpnpAv.StateTable.Basic
import UpnpAv.LastChange.Document

/-!
# Reporters of changes

A reporter turns the changes of a state table into documents.  Outside a
transaction every change of an evented variable is one document.  While a
transaction is open, the last value of each changed variable is held back until
the commit, which reports all of them in one document.
-/

namespace UpnpAv

/-- A document on its way to subscribers. -/
structure Delivery where
  space : String
  document : String
deriving Repr, DecidableEq

/-- A variable that waits for the commit, with its last value. -/
structure Pending where
  id : VariableId
  name : String
  value : String
deriving Repr, DecidableEq

namespace Pending

/-- Put an entry into a list that ascends by identifier, in place of an earlier one. -/
def insert (entry : Pending) : List Pending -> List Pending
  | [] => [entry]
  | head :: rest =>
      if entry.id < head.id then entry :: head :: rest
      else if entry.id = head.id then entry :: rest
      else head :: insert entry rest

/-- What a document says about an entry. -/
def pair (entry : Pending) : String × String :=
  (entry.name, entry.value)

end Pending

/-- Who takes the documents of a reporter. -/
inductive Recipient where
  /-- A function that is called with each document. -/
  | function
  /-- A queue whose other end is still read, or is not any more. -/
  | queue (isRead : Bool)
deriving Repr, DecidableEq

/-- A reporter of changes. -/
structure Reporter where
  /-- The namespace of its documents. -/
  space : String
  recipient : Recipient
  isOpen : Bool
  pending : List Pending
  lastDocument : Option String
  /-- Every document handed to the recipient, the earliest first. -/
  sent : List String
deriving Repr, DecidableEq

namespace Reporter

/-- Why a reporter refuses. -/
inductive Error where
  | alreadyOpen
  | notOpen
  | table (cause : StateTable.Error)
  | unreadable (cause : Markup.Error)
  | refused (reason : String)
deriving Repr, DecidableEq

/-- The text of a refusal. -/
def Error.message : Error -> String
  | .alreadyOpen => "A LastChange transaction is already open"
  | .notOpen => "No LastChange transaction is open"
  | .table cause => "Variable store error: " ++ cause.message
  | .unreadable cause => "LastChange document error: " ++ cause.message
  | .refused reason => "LastChange document error: " ++ reason

/-- A reporter that has reported nothing yet. -/
def attached (space : String) (recipient : Recipient) : Reporter :=
  ⟨space, recipient, false, [], none, []⟩

variable {ε α : Type}

/-- Hand a document to the recipient. -/
def send (document : String) : Act Reporter ε Unit := do
  Act.modify fun reporter =>
    { reporter with
      lastDocument := some document
      sent := reporter.sent ++ [document] }

/-- The queue of the recipient is not read any more. -/
def disconnect (reporter : Reporter) : Reporter :=
  match reporter.recipient with
  | .function => reporter
  | .queue _ => { reporter with recipient := .queue false }

/-- The documents that reached the recipient since some number of them was sent. -/
def received (reporter : Reporter) (earlier : Nat) : List Delivery :=
  match reporter.recipient with
  | .queue false => []
  | _ => (reporter.sent.drop earlier).map fun document => ⟨reporter.space, document⟩

/-- What becomes of a document after it was handed over. -/
def noteLoss : Act Reporter ε Unit := do
  let reporter ← Act.read
  if reporter.recipient = .queue false then
    Act.log (.debug "LastChange receiver dropped, discarding document")

/-- Take notice of a change. -/
def observe (change : Change) : Act Reporter ε Unit := do
  let reporter ← Act.read
  if change.evented then
    if reporter.isOpen then
      Act.modify fun reporter =>
        { reporter with
          pending := Pending.insert ⟨change.id, change.name, change.newValue⟩ reporter.pending }
    else
      Act.log (.debug s!"Sending LastChange for {change.name} outside a transaction")
      send (LastChange.Document.encode reporter.space [(change.name, change.newValue)])
      noteLoss

/-- Open a transaction.  Transactions do not nest. -/
def start : Act Reporter Error Unit := do
  let reporter ← Act.read
  if reporter.isOpen then
    Act.log <| .error <|
      s!"LastChange transaction already open for {reporter.space}; refusing to nest"
    Act.fail .alreadyOpen
  else
    Act.modify fun reporter => { reporter with isOpen := true }

/-- Close the open transaction and report what it changed, if anything. -/
def commit : Act Reporter Error Unit := do
  let reporter ← Act.read
  if reporter.isOpen then
    Act.modify fun reporter => { reporter with isOpen := false, pending := [] }
    if !reporter.pending.isEmpty then
      Act.log <| .debug <|
        s!"Committing LastChange with {reporter.pending.length} variables for {reporter.space}"
      send (LastChange.Document.encode reporter.space (reporter.pending.map Pending.pair))
      noteLoss
  else
    Act.fail .notOpen

/-- The document that lists the present value of every evented variable. -/
def fullDocument (reporter : Reporter) (table : StateTable) : String :=
  LastChange.Document.encode reporter.space table.eventedPairs

/-- The text that describes a reporter. -/
def describe (reporter : Reporter) : String :=
  "LastChangeCollector \x7b namespace: " ++ Text.quoted reporter.space ++
    s!", open: {reporter.isOpen}, pending: {reporter.pending.length} \x7d"

end Reporter
end UpnpAv
