import UpnpAv.Decimal.Fixed
import UpnpAv.Player.Error
import UpnpAv.Text.Quoted
import UpnpAv.Track.Metadata
import UpnpAv.Track.Target
import UpnpAv.Track.Timing

/-!
# Players

A player drives one pipeline.  It keeps what the pipeline does not: the state
of playback, the current and the queued locator, the tags of the stream and
the last known times.
-/

namespace UpnpAv

/-- A player and its pipeline. -/
structure Player (P : Type) where
  pipeline : P
  state : PlayerState
  target : Target
  metadata : Metadata
  /-- The last known times of the current track. -/
  timing : Timing
  /-- The media types that the pipeline named when it was chosen. -/
  mediaTypes : StringSet
  /-- Whether playback pauses while the buffer fills. -/
  buffering : Bool

namespace Player

variable {P ε α : Type}

/-- A player that has not been told anything yet. -/
def around (pipeline : P) (mediaTypes : StringSet) (settings : OutputSettings) : Player P :=
  { pipeline := pipeline
    state := .ready
    target := .none
    metadata := .empty
    timing := .unknown
    mediaTypes := mediaTypes
    buffering := settings.isBuffering }

/-- The text that describes a player. -/
def describe (player : Player P) : String :=
  "PlaybackEngine \x7b state: " ++ player.state.describe ++
    ", target: TrackTarget \x7b uri: " ++ Text.quoted player.target.uri ++
    ", next_uri: " ++ Text.quoted player.target.nextUri ++
    s!" \x7d, buffering_enabled: {player.buffering} \x7d"

/-- Carry out an act on the pipeline. -/
def onPipeline (m : Act P ε α) : Act (Player P) ε α :=
  Act.zoom Player.pipeline (fun pipeline player => { player with pipeline := pipeline }) m

/-- Go to a state. -/
def enter (state : PlayerState) : Act (Player P) ε Unit :=
  Act.modify fun player => { player with state := state }

/-- Forget the known times. -/
def forgetTiming : Act (Player P) ε Unit :=
  Act.modify fun player => { player with timing := .unknown }

/-- A locator is either empty or well formed. -/
def checkUri (uri : String) : Except Error Unit :=
  if uri = "" then .ok () else (Url.check uri).mapError (.malformedUri uri)

variable [Pipeline P]

/-- Tell the pipeline something; its failure is the failure of the command. -/
def tell (command : Pipeline.Command) : Act (Player P) Error Unit :=
  onPipeline ((Pipeline.perform command).mapError .pipeline)

/-- Bring a pipeline back to its ready phase, load a locator and start. -/
def loadAndPlay (uri : String) : Act P Failure Unit := do
  Pipeline.perform .stop
  Pipeline.perform (.load uri)
  Pipeline.perform .play

/-! # Commands -/

/-- Set what to play; an empty text clears it. -/
def setUri (uri : String) : Act (Player P) Error Unit := do
  Act.ofExcept (checkUri uri)
  Act.log (.info s!"Set uri to '{uri}'")
  Act.modify fun player =>
    { player with
      target := { player.target with uri := uri }
      metadata := .empty
      timing := .unknown }

/-- Set what to play after the current track; an empty text clears it. -/
def setNextUri (uri : String) : Act (Player P) Error Unit := do
  Act.ofExcept (checkUri uri)
  Act.log (.info s!"Set next uri to '{uri}'")
  Act.modify fun player => { player with target := { player.target with nextUri := uri } }

/-- Start the current track from its beginning. -/
def restart : Act (Player P) Error Unit := do
  let player ← Act.read
  if player.target.uri = "" then
    Act.fail (.notAllowed .play player.state)
  else
    onPipeline ((loadAndPlay player.target.uri).mapError .pipeline)
    enter .playing
    forgetTiming
    Act.log (.info s!"Playing '{player.target.uri}'")

/-- Resume a pause, or start the current track from its beginning. -/
def play : Act (Player P) Error Unit := do
  let player ← Act.read
  match player.state with
  | .paused reason =>
      Act.log (.debug s!"Resuming playback paused by {reason.name}")
      tell .play
      enter .playing
  | _ => restart

/-- Pause, which makes sense only while playing. -/
def pause : Act (Player P) Error Unit := do
  let player ← Act.read
  if player.state.isPlaying then
    tell .pause
    enter (.paused .user)
  else
    Act.fail (.notAllowed .pause player.state)

/-- Stop.  The player is stopped afterwards even when the pipeline fails to. -/
def stop : Act (Player P) Error Unit := do
  let result ← Act.attempt (onPipeline (Pipeline.perform .stop))
  enter .stopped
  forgetTiming
  match result with
  | .ok () => pure ()
  | .error failure =>
      Act.log (.warn s!"Backend failed to stop cleanly: {failure.text}")
      Act.fail (.pipeline failure)

/-- Go to a position in nanoseconds. -/
def seek (position : Int) : Act (Player P) Error Unit := do
  if position < 0 then
    Act.fail (.negativeSeek position)
  else
    tell (.seek position)
    Act.log (.debug s!"Seeked to {position} ns")

/-- Whether a volume is a fraction of the loudest. -/
def isFraction (volume : Float32) : Bool :=
  0.0 ≤ volume && volume ≤ 1.0

/-- Set the volume as a fraction of the loudest. -/
def setVolume (volume : Float32) : Act (Player P) Error Unit := do
  if isFraction volume then
    tell (.setVolume volume)
    Act.log (.debug ("Volume set to " ++ Decimal.fixed 3 (.ofFloat32 volume)))
  else
    Act.fail (.volumeOutOfRange volume)

/-- Switch the sound off or on. -/
def setMute (mute : Bool) : Act (Player P) Error Unit := do
  tell (.setMute mute)
  Act.log (.debug s!"Mute set to {mute}")

/-! # Questions -/

/-- The volume as a fraction of the loudest. -/
def volume (player : Player P) : Except Error Float32 :=
  (Pipeline.volume player.pipeline).mapError .pipeline

/-- Whether the sound is off. -/
def mute (player : Player P) : Except Error Bool :=
  (Pipeline.mute player.pipeline).mapError .pipeline

/-- A known time, refreshed by the answer to a query. -/
def refreshed (answer : Except Failure Int) (known : Option Int) : Option Int :=
  match answer with
  | .ok time => (Timing.known? time).or known
  | .error _ => known

/-- The log lines about a query that failed. -/
def queryLines (what : String) : Except Failure Int -> List Line
  | .ok _ => []
  | .error failure => [.warn s!"{what} query failed, using cached value: {failure.text}"]

/-- The times after the two queries were answered. -/
def retimed (duration position : Except Failure Int) (timing : Timing) : Timing :=
  { timing with
    duration := refreshed duration timing.duration
    position := refreshed position timing.position }

/--
Duration and position of the current track.  The pipeline is asked only while
playing; where it has no answer, the last known time stands in, and the answer
is marked as stale.
-/
def readTiming : Act (Player P) ε Timing := do
  let player ← Act.read
  if player.state.isPlaying then
    let duration ← Act.attempt (onPipeline (Pipeline.ask .duration))
    let position ← Act.attempt (onPipeline (Pipeline.ask .position))
    Act.logAll (queryLines "Duration" duration ++ queryLines "Position" position)
    let timing := retimed duration position player.timing
    Act.modify fun player => { player with timing := timing }
    pure { timing with stale := !(duration.isOk && position.isOk) }
  else
    pure player.timing.asStale

/-! # Starting up -/

/-- Bring the pipeline to the volume that the settings ask for, with the sound on. -/
def prepare (settings : OutputSettings) : Act (Player P) Error Unit := do
  match settings.initialVolume? with
  | none => pure ()
  | some volume =>
      Act.log <| .info <|
        "Setting initial volume to " ++ Decimal.fixed 3 (.ofFloat32 volume) ++ " (" ++
          Decimal.plain (.ofFloat settings.decibels) ++ " dB)"
      setVolume volume
  setMute false

/-- Prepare a player on a named output. -/
def launch (name : String) (settings : OutputSettings) : Act (Player P) Error Unit := do
  prepare settings
  Act.log (.info s!"Playback engine started on output '{name}'")

end Player
end UpnpAv
