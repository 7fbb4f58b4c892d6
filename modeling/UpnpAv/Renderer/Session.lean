import UpnpAv.Player.Session
import UpnpAv.Renderer.Run
import UpnpAv.Renderer.Start
import UpnpAv.Service.Session

/-!
# A renderer with receivers and listeners

Whoever receives a document, or listens to the player before the renderer
does, can react: the next list of inputs is taken from a queue and given to the
renderer, before the call returns.
-/

namespace UpnpAv
namespace Renderer

/-- What a renderer can be shown. -/
inductive View where
  | transportInfo
  | protocolInfo
  | connectionIds
  | metadata
  | outputName
  | description
deriving Repr, DecidableEq

/-- What can be seen of a renderer. -/
inductive Sight where
  | transportInfo (info : TransportInfo)
  | protocolInfo (source sink : String)
  | text (text : Option String)
  | metadata (tags : Metadata)
deriving Repr, DecidableEq

/-- What a view of a renderer shows. -/
def sight {P X : Type} (renderer : Renderer P X) : View -> Sight
  | .transportInfo => .transportInfo renderer.transportInfo
  | .protocolInfo => .protocolInfo renderer.protocolInfo.1 renderer.protocolInfo.2
  | .connectionIds => .text (some renderer.connectionIds)
  | .metadata => .metadata renderer.player.metadata
  | .outputName => .text renderer.outputName
  | .description => .text (some renderer.describe)

/-- What a renderer with receivers and listeners can be given. -/
inductive Input where
  | request (request : Request)
  | view (view : View)
  /-- An input for the player itself, past the renderer. -/
  | player (input : Player.Input)
  /-- An input for one of the services itself. -/
  | service (name : ServiceName) (input : Service.Input)

/-- What an input is answered with. -/
inductive Answer where
  | result (result : Except Error Reply)
  | sight (sight : Sight)
  | player (answer : Player.Answer)
  | service (answer : Service.Answer)

/-- What receivers and listeners leave behind. -/
inductive Note where
  /-- A transition as the early listener heard it. -/
  | early (transition : Transition)
  /-- The answer to an input that a receiver or listener gave. -/
  | reaction (answer : Answer)
  | notice (tag : String) (notice : Notice)

/-- The state of whoever listens to a renderer. -/
structure Audience where
  /-- Whether somebody listens to the player before the renderer does. -/
  hasEarly : Bool
  /-- The inputs of the early listener, one list for each transition. -/
  onTransition : List (List Input)
  /-- The inputs of the receiver, one list for each document. -/
  onDocument : List (List Input)
  /-- The tags of the listeners that were registered on the player later. -/
  listeners : List String
  received : List Delivery
  notes : List Note

/-- A renderer on a pipeline of any kind, and whoever listens. -/
abbrev Session :=
  Renderer (Pipeline.Traced Pipeline.Output) Audience

namespace Session

/-- Change the state of the audience. -/
def onAudience (change : Audience -> Audience) : Act Session Empty Unit :=
  Act.modify fun session => { session with ambient := change session.ambient }

/-- Add a note. -/
def note (note : Note) : Act Session Empty Unit :=
  onAudience fun audience => { audience with notes := audience.notes ++ [note] }

/-- Receive a document and react to it. -/
def receive (react : List Input -> Act Session Empty Unit) (delivery : Delivery) :
    Act Session Empty Unit := do
  onAudience fun audience => { audience with received := audience.received ++ [delivery] }
  let session ← Act.read
  onAudience fun audience => { audience with onDocument := audience.onDocument.drop 1 }
  react (session.ambient.onDocument.headD [])

/-- Hear of a transition before the renderer does and react to it. -/
def hearEarly (react : List Input -> Act Session Empty Unit) :
    Notice -> Act Session Empty Unit
  | .metadata _ => pure ()
  | .transition transition => do
      note (.early transition)
      let session ← Act.read
      onAudience fun audience => { audience with onTransition := audience.onTransition.drop 1 }
      react (session.ambient.onTransition.headD [])

/-- The hooks of an audience; `react` carries out the inputs of a reaction. -/
def hooks (react : List Input -> Act Session Empty Unit) :
    Hooks (Pipeline.Traced Pipeline.Output) Audience where
  deliver := receive react
  earlier audience := if audience.hasEarly then [hearEarly react] else []
  later audience := audience.listeners.map fun tag notice => note (.notice tag notice)

/-- Change the script of the pipeline. -/
def edit (change : Pipeline.Scripted.Edit) : Act Session Empty Unit :=
  Act.modify fun session =>
    { session with
      player :=
        { session.player with
          pipeline :=
            { session.player.pipeline with
              pipeline := session.player.pipeline.pipeline.edit change } } }

/-- Give an input to the player, past the renderer. -/
def respondPlayer (react : List Input -> Act Session Empty Unit) :
    Player.Input -> Act Session Empty Player.Answer
  | .request request => .result <$> Act.attempt (onPlayer (Player.perform request))
  | .view view => do
      let session ← Act.read
      pure (.sight (session.player.sight view))
  | .edit change => do
      edit change
      pure .nothing
  | .listen tag => do
      onAudience fun audience => { audience with listeners := audience.listeners ++ [tag] }
      pure .nothing
  | .event event => do
      handle (hooks react) event
      pure .nothing
  | .report event => do
      let session ← Act.read
      if session.player.pipeline.pipeline.reports then
        handle (hooks react) event
        pure (.reported true)
      else
        pure (.reported false)

/-- Carry out an input; `react` carries out the inputs of a reaction. -/
def respond (react : List Input -> Act Session Empty Unit) :
    Input -> Act Session Empty Answer
  | .request request => .result <$> Act.attempt (perform (receive react) request)
  | .view view => do
      let session ← Act.read
      pure (.sight (session.sight view))
  | .player input => .player <$> respondPlayer react input
  | .service name input => do
      let (answer, deliveries) ← onService name (Service.respond input)
      Act.each (receive react) deliveries
      pure (.service answer)

/-- Carry out an input for a reaction and note its answer. -/
def reactWith (respond : Input -> Act Session Empty Answer) (input : Input) :
    Act Session Empty Unit := do
  let answer ← respond input
  note (.reaction answer)

/-- Carry out an input when reactions may be nested up to a given depth. -/
def inputTo : (depth : Nat) -> Input -> Act Session Empty Answer
  | 0 => respond fun _ => pure ()
  | depth + 1 => respond (Act.each (reactWith (inputTo depth)))

/--
Carry out an input.  Every nested reaction takes a list from one of the queues,
so reactions are nested at most as deep as the queues are long together.
-/
def input (given : Input) : Act Session Empty Answer := fun session =>
  let depth := session.ambient.onDocument.length + session.ambient.onTransition.length
  inputTo depth given session

end Session
end Renderer
end UpnpAv
