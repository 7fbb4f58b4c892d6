import UpnpAv.Player.Events

/-!
# Runs of a player

A run is a list of requests and events in the order in which they reach the
player.
-/

namespace UpnpAv
namespace Player

/-- What a player can be asked for. -/
inductive Request where
  | setUri (uri : String)
  | setNextUri (uri : String)
  | play
  | pause
  | stop
  | seek (position : Int)
  | setVolume (volume : Float32)
  | setMute (mute : Bool)
  | readTiming
  | readVolume
  | readMute

/-- What a request is answered with, when it succeeds. -/
inductive Reply where
  | done
  | timing (timing : Timing)
  | volume (volume : Float32)
  | mute (mute : Bool)

/-- One thing that happens to a player. -/
inductive Step where
  | request (request : Request)
  | event (event : Pipeline.Event)

variable {P : Type} [Pipeline P]

/-- Carry out a request. -/
def perform : Request -> Act (Player P) Error Reply
  | .setUri uri => do setUri uri; pure .done
  | .setNextUri uri => do setNextUri uri; pure .done
  | .play => do play; pure .done
  | .pause => do pause; pure .done
  | .stop => do stop; pure .done
  | .seek position => do seek position; pure .done
  | .setVolume volume => do setVolume volume; pure .done
  | .setMute mute => do setMute mute; pure .done
  | .readTiming => .timing <$> readTiming
  | .readVolume => do
      let player ← Act.read
      Act.ofExcept (player.volume.map .volume)
  | .readMute => do
      let player ← Act.read
      Act.ofExcept (player.mute.map .mute)

/-- The player after one step. -/
def after (player : Player P) : Step -> Player P
  | .request request => (perform request player).state
  | .event event => (handle event player : Outcome (Player P) Empty (Option Notice)).state

/-- The player after a list of steps. -/
def run (player : Player P) (steps : List Step) : Player P :=
  steps.foldl after player

@[simp] theorem run_nil (player : Player P) : player.run [] = player :=
  rfl

@[simp] theorem run_cons (player : Player P) (step : Step) (rest : List Step) :
    player.run (step :: rest) = (player.after step).run rest :=
  rfl

theorem run_append (player : Player P) (first second : List Step) :
    player.run (first ++ second) = (player.run first).run second := by
  simp [run, List.foldl_append]

theorem run_snoc (player : Player P) (steps : List Step) (step : Step) :
    player.run (steps ++ [step]) = (player.run steps).after step := by
  rw [run_append]
  rfl

end Player
end UpnpAv
