import UpnpAv.Player.Run

/-!
# Players with listeners

Listeners are registered for the transitions of a player or for its tags.  What
an event has to announce is told to those who were registered for it when the
player had dealt with the event, in the order of their registration.  A listener
can use the player again, and register others.
-/

namespace UpnpAv
namespace Player

/-- A call of a listener. -/
structure Call (P : Type) where
  /-- The place of the listener among those who listen to the same. -/
  place : Nat
  notice : Notice
  /-- The player as the listener found it. -/
  found : Player P

/-- A player, whoever listens to it, and a state that these share. -/
structure Attended (P L X : Type) where
  player : Player P
  /-- Who listens to transitions, the first one registered first. -/
  onTransition : List L
  /-- Who listens to tags, the first one registered first. -/
  onMetadata : List L
  ambient : X
  /-- Every call of a listener, the earliest first. -/
  told : List (Call P)

namespace Attended

variable {P L X ε α : Type}

/-- A player to whom nobody listens yet. -/
def around (player : Player P) (ambient : X) : Attended P L X :=
  ⟨player, [], [], ambient, []⟩

/-- Who listens to a notice. -/
def listeners (attended : Attended P L X) : Notice -> List L
  | .transition _ => attended.onTransition
  | .metadata _ => attended.onMetadata

/-- The player with another pipeline, or the same one in another state. -/
def withPipeline (attended : Attended P L X) (pipeline : P) : Attended P L X :=
  { attended with player := { attended.player with pipeline := pipeline } }

/-- Carry out an act on the player. -/
def onPlayer (m : Act (Player P) ε α) : Act (Attended P L X) ε α :=
  Act.zoom Attended.player (fun player attended => { attended with player := player }) m

/-- Register a listener for transitions. -/
def listenToTransitions (attended : Attended P L X) (listener : L) : Attended P L X :=
  { attended with onTransition := attended.onTransition ++ [listener] }

/-- Register a listener for tags. -/
def listenToMetadata (attended : Attended P L X) (listener : L) : Attended P L X :=
  { attended with onMetadata := attended.onMetadata ++ [listener] }

/-- What listeners do about notices. -/
abbrev Reaction (P L X : Type) :=
  L -> Notice -> Act (Attended P L X) Empty Unit

/-- Call the listener at a place. -/
def call (react : Reaction P L X) (notice : Notice) (listener : L × Nat) :
    Act (Attended P L X) Empty Unit := do
  Act.modify fun attended =>
    { attended with told := attended.told ++ [⟨listener.2, notice, attended.player⟩] }
  react listener.1 notice

variable [Pipeline P]

/-- Give an event to the player, then call the listeners. -/
def handleEvent (react : Reaction P L X) (event : Pipeline.Event) :
    Act (Attended P L X) Empty Unit := do
  match ← onPlayer (handle event) with
  | none => pure ()
  | some notice => do
      let attended ← Act.read
      Act.each (call react notice) (attended.listeners notice).zipIdx

/-! # Runs -/

/-- One thing that happens to a player with listeners. -/
inductive Step (P L : Type) where
  | request (request : Request)
  | event (event : Pipeline.Event)
  | listenToTransitions (listener : L)
  | listenToMetadata (listener : L)
  /-- The pipeline reaches another state by itself. -/
  | pipeline (pipeline : P)

/-- The player and its listeners after one step. -/
def after (react : Reaction P L X) (attended : Attended P L X) : Step P L -> Attended P L X
  | .request request => (onPlayer (perform request) attended).state
  | .event event => (handleEvent react event attended).state
  | .listenToTransitions listener => attended.listenToTransitions listener
  | .listenToMetadata listener => attended.listenToMetadata listener
  | .pipeline pipeline => attended.withPipeline pipeline

/-- The player and its listeners after a list of steps. -/
def run (react : Reaction P L X) (attended : Attended P L X) (steps : List (Step P L)) :
    Attended P L X :=
  steps.foldl (after react) attended

@[simp] theorem run_nil (react : Reaction P L X) (attended : Attended P L X) :
    attended.run react [] = attended :=
  rfl

@[simp] theorem run_cons (react : Reaction P L X) (attended : Attended P L X)
    (step : Step P L) (rest : List (Step P L)) :
    attended.run react (step :: rest) = (attended.after react step).run react rest :=
  rfl

end Attended
end Player
end UpnpAv
