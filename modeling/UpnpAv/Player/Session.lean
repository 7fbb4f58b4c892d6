import UpnpAv.Pipeline.Output
import UpnpAv.Player.Attended

/-!
# Listeners that note and react

A listener either notes a notice under its tag, or reacts: it takes the next
list of inputs from a queue and gives them to the player, whose further
notices come back to the listeners before the list goes on.
-/

namespace UpnpAv
namespace Player

/-- What a player can be shown. -/
inductive View where
  | state
  | target
  | metadata
  | mediaTypes
  | supports (type : String)
  | description
deriving Repr, DecidableEq

/-- What can be seen of a player. -/
inductive Sight where
  | state (state : PlayerState)
  | target (target : Target)
  | metadata (tags : Metadata)
  | mediaTypes (types : StringSet)
  | supports (answer : Bool)
  | description (text : String)

/-- What a view of a player shows. -/
def sight {P : Type} (player : Player P) : View -> Sight
  | .state => .state player.state
  | .target => .target player.target
  | .metadata => .metadata player.metadata
  | .mediaTypes => .mediaTypes player.mediaTypes
  | .supports type => .supports (player.mediaTypes.contains type)
  | .description => .description player.describe

/-- What a player with listeners can be given. -/
inductive Input where
  | request (request : Request)
  | view (view : View)
  | edit (change : Pipeline.Scripted.Edit)
  | listen (tag : String)
  | event (event : Pipeline.Event)
  /-- An event that the pipeline itself reports, if it can. -/
  | report (event : Pipeline.Event)

/-- What an input is answered with. -/
inductive Answer where
  | result (result : Except Error Reply)
  | sight (sight : Sight)
  | nothing
  /-- Whether an event was reported. -/
  | reported (answer : Bool)

/-- Who listens to a player. -/
inductive Listener where
  | reacting
  | noting (tag : String)
deriving Repr, DecidableEq

/-- What listeners leave behind. -/
inductive Note where
  /-- The answer to an input that a listener gave, and the state after it. -/
  | reaction (answer : Answer) (state : PlayerState)
  | notice (tag : String) (notice : Notice)

/-- The inputs that the next reactions give, and what was noted. -/
structure Memory where
  reactions : List (List Input)
  notes : List Note

/-- A player on a pipeline of any kind, and whoever listens. -/
abbrev Session :=
  Attended (Pipeline.Traced Pipeline.Output) Listener Memory

namespace Session

/-- A player whose first listener reacts. -/
def around (player : Player (Pipeline.Traced Pipeline.Output))
    (reactions : List (List Input)) : Session :=
  { player := player
    onTransition := [.reacting]
    onMetadata := [.reacting]
    ambient := ⟨reactions, []⟩
    told := [] }

/-- What listeners left behind. -/
def notes (session : Session) : List Note :=
  session.ambient.notes

/-- Add a note. -/
def note (note : Note) : Act Session Empty Unit :=
  Act.modify fun session =>
    { session with ambient := { session.ambient with notes := session.ambient.notes ++ [note] } }

/-- Take the next list of inputs from the queue. -/
def nextReaction : Act Session Empty (List Input) := do
  let session ← Act.read
  Act.modify fun session =>
    { session with
      ambient := { session.ambient with reactions := session.ambient.reactions.drop 1 } }
  pure (session.ambient.reactions.headD [])

/-- What a listener does about a notice; `react` carries out a list of inputs. -/
def reaction (react : List Input -> Act Session Empty Unit) :
    Listener -> Notice -> Act Session Empty Unit
  | .noting tag, notice => note (.notice tag notice)
  | .reacting, _ => do
      let inputs ← nextReaction
      react inputs

/-- Carry out an input; `react` carries out the inputs of a reaction. -/
def respond (react : List Input -> Act Session Empty Unit) :
    Input -> Act Session Empty Answer
  | .request request => .result <$> Act.attempt (Attended.onPlayer (perform request))
  | .view view => do
      let session ← Act.read
      pure (.sight (session.player.sight view))
  | .edit change => do
      Act.modify fun session =>
        session.withPipeline
          { session.player.pipeline with
            pipeline := session.player.pipeline.pipeline.edit change }
      pure .nothing
  | .listen tag => do
      Act.modify fun session =>
        (session.listenToTransitions (.noting tag)).listenToMetadata (.noting tag)
      pure .nothing
  | .event event => do
      Attended.handleEvent (reaction react) event
      pure .nothing
  | .report event => do
      let session ← Act.read
      if session.player.pipeline.pipeline.reports then
        Attended.handleEvent (reaction react) event
        pure (.reported true)
      else
        pure (.reported false)

/-- Carry out an input for a reaction and note its answer. -/
def reactWith (respond : Input -> Act Session Empty Answer) (input : Input) :
    Act Session Empty Unit := do
  let answer ← respond input
  let session ← Act.read
  note (.reaction answer session.player.state)

/-- Carry out an input when reactions may be nested up to a given depth. -/
def inputTo : (depth : Nat) -> Input -> Act Session Empty Answer
  | 0 => respond fun _ => pure ()
  | depth + 1 => respond (Act.each (reactWith (inputTo depth)))

/--
Carry out an input.  Every nested reaction takes a list from the queue, so
reactions are nested at most as deep as the queue is long.
-/
def input (given : Input) : Act Session Empty Answer := fun session =>
  inputTo session.ambient.reactions.length given session

end Session
end Player
end UpnpAv
