import UpnpAv.Pipeline.Basic
import UpnpAv.Pipeline.Event

/-!
# The silent pipeline

The silent pipeline takes every command and renders nothing.  It keeps a play
position by the clock, so that questions about the position have an answer.
-/

namespace UpnpAv
namespace Pipeline

/-- A pipeline that renders nothing. -/
structure Silent where
  phase : Phase
  uri : String
  /-- The position in nanoseconds at which playing last began or ended. -/
  elapsed : Nat
  /-- What the clock showed when playing began; none while not playing. -/
  playingSince : Option Nat
  /-- What the clock shows, in nanoseconds. -/
  clock : Nat
  volume : Float32
  mute : Bool
  /-- Where events go; none before initialization. -/
  channel : Option Channel
  /-- Every event ever reported, the earliest first. -/
  reported : List Event

namespace Silent

/-- A pipeline that was not initialized yet. -/
def fresh : Silent :=
  { phase := .null
    uri := ""
    elapsed := 0
    playingSince := none
    clock := 0
    volume := 1.0
    mute := false
    channel := none
    reported := [] }

/-- The media types that it claims to render. -/
def types : StringSet :=
  .ofList ["audio/flac", "audio/mpeg", "audio/ogg", "audio/vnd.wave", "audio/x-aiff",
    "audio/x-m4a"]

/-- Let time pass. -/
def wait (nanoseconds : Nat) (silent : Silent) : Silent :=
  { silent with clock := silent.clock + nanoseconds }

/-- The position in nanoseconds. -/
def now (silent : Silent) : Nat :=
  silent.elapsed + (silent.playingSince.map fun since => silent.clock - since).getD 0

/-- Report an event, if there is somebody to report to. -/
def report (event : Event) (silent : Silent) : Silent :=
  match silent.channel with
  | none => silent
  | some channel =>
      { silent with
        channel := some (channel.send event).2
        reported := silent.reported ++ [event] }

/-- Go to a phase.  Going to another phase than the present one is reported. -/
def enter (phase : Phase) (silent : Silent) : Silent :=
  if silent.phase = phase then silent
  else report (.phaseChanged silent.phase phase) { silent with phase := phase }

/-- Start from a position; a pipeline that plays goes on playing from there. -/
def startFrom (position : Nat) (silent : Silent) : Silent :=
  { silent with
    elapsed := position
    playingSince := silent.playingSince.map fun _ => silent.clock }

/-- Begin to play, or go on. -/
def begin (silent : Silent) : Silent :=
  enter .playing
    { silent with playingSince := some (silent.playingSince.getD silent.clock) }

/-- Carry out a command. -/
def obey : Command -> Act Silent Failure Unit
  | .prepare => Act.modify fun silent =>
      enter .ready { silent with channel := some .new }
  | .load uri => do
      Act.log (.debug s!"Null output discarding {uri}")
      Act.modify fun silent => startFrom 0 { silent with uri := uri }
  | .play => do
      let silent ← Act.read
      if silent.uri = "" then Act.fail ⟨"no uri set"⟩ else Act.modify begin
  | .pause => Act.modify fun silent =>
      enter .paused { silent with elapsed := silent.now, playingSince := none }
  | .stop => Act.modify fun silent =>
      enter .ready { silent with elapsed := 0, playingSince := none }
  | .seek position =>
      if position < 0 then Act.fail ⟨"negative seek position"⟩
      else Act.modify (startFrom position.toNat)
  | .setVolume volume => Act.modify fun silent => { silent with volume := volume }
  | .setMute mute => Act.modify fun silent => { silent with mute := mute }

/-- The present position, if it is known and not beyond the largest time. -/
def position (silent : Silent) : Except Failure Int :=
  if silent.phase = .null then .error ⟨"not initialized"⟩
  else if silent.now < Nat.pow 2 63 then .ok silent.now
  else .error ⟨"position out of range"⟩

instance : Pipeline Silent where
  perform := obey
  ask
    | .duration => Act.fail ⟨"null output has no stream duration"⟩
    | .position => do
        let silent ← Act.read
        Act.ofExcept silent.position
  mediaTypes := pure types
  volume silent := .ok silent.volume
  mute silent := .ok silent.mute

/-- Nobody reads the events any more. -/
def disconnect (silent : Silent) : Silent :=
  { silent with channel := silent.channel.map Channel.close }

/-- Take the events that wait to be read. -/
def receive (silent : Silent) : List Event × Silent :=
  match silent.channel with
  | none => ([], silent)
  | some channel =>
      let (events, rest) := channel.receive
      (events, { silent with channel := some rest })

end Silent
end Pipeline
end UpnpAv
