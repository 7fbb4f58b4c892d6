import UpnpAv.Renderer.Basic

/-!
# Runs of a renderer

A run is a list of requests and events in the order in which they reach the
renderer.
-/

namespace UpnpAv
namespace Renderer

/-- What a renderer can be asked for. -/
inductive Request where
  | setUri (uri : String)
  | setNextUri (uri : String)
  | play
  | pause
  | stop
  | seek (target : String)
  | setVolume (percent : Nat)
  | setMute (mute : Bool)
  | positionInfo
  | readVolume
  | readMute
deriving Repr, DecidableEq

/-- What a request is answered with, when it succeeds. -/
inductive Reply where
  | done
  | position (info : PositionInfo)
  | volume (percent : Nat)
  | mute (mute : Bool)
deriving Repr, DecidableEq

variable {P X : Type} [Pipeline P]

/-- Carry out a request. -/
def perform (deliver : Receiver P X) : Request -> Act (Renderer P X) Error Reply
  | .setUri uri => do setUri deliver uri; pure .done
  | .setNextUri uri => do setNextUri deliver uri; pure .done
  | .play => do play deliver; pure .done
  | .pause => do pause deliver; pure .done
  | .stop => do stop deliver; pure .done
  | .seek target => do seek target; pure .done
  | .setVolume percent => do setVolume deliver percent; pure .done
  | .setMute mute => do setMute deliver mute; pure .done
  | .positionInfo => .position <$> positionInfo deliver
  | .readVolume => do
      let renderer ← Act.read
      Act.ofExcept (renderer.volume.map .volume)
  | .readMute => do
      let renderer ← Act.read
      Act.ofExcept (renderer.mute.map .mute)

/-- One thing that happens to a renderer. -/
inductive Step where
  | request (request : Request)
  | event (event : Pipeline.Event)
deriving DecidableEq

/-- The renderer after one step. -/
def after (hooks : Hooks P X) (renderer : Renderer P X) : Step -> Renderer P X
  | .request request => (perform hooks.deliver request renderer).state
  | .event event => (handle hooks event renderer).state

/-- The renderer after a list of steps. -/
def run (hooks : Hooks P X) (renderer : Renderer P X) (steps : List Step) : Renderer P X :=
  steps.foldl (after hooks) renderer

/-- Documents are kept, and nobody else listens. -/
def keeping : Hooks P (List Delivery) where
  deliver delivery := Act.modify fun renderer =>
    { renderer with ambient := renderer.ambient ++ [delivery] }
  earlier _ := []
  later _ := []

@[simp] theorem run_nil (hooks : Hooks P X) (renderer : Renderer P X) :
    run hooks renderer [] = renderer :=
  rfl

@[simp] theorem run_cons (hooks : Hooks P X) (renderer : Renderer P X) (step : Step)
    (rest : List Step) :
    run hooks renderer (step :: rest) = run hooks (after hooks renderer step) rest :=
  rfl

theorem run_append (hooks : Hooks P X) (renderer : Renderer P X) (first second : List Step) :
    run hooks renderer (first ++ second) = run hooks (run hooks renderer first) second := by
  simp [run, List.foldl_append]

end Renderer
end UpnpAv
