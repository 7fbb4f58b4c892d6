import UpnpAv.Pipeline.Basic

/-!
# Scripted pipelines

A scripted pipeline answers as its script says, and the script can be changed
at any time.
-/

namespace UpnpAv
namespace Pipeline

/-- What a script can make fail. -/
inductive Call where
  | prepare
  | load
  | play
  | pause
  | stop
  | seek
  | duration
  | position
  | setVolume
  | setMute
  | volume
  | mute
deriving Repr, DecidableEq

namespace Call

/-- The name of a call in messages. -/
def name : Call -> String
  | prepare => "initialize"
  | load => "set_uri"
  | play => "play"
  | pause => "pause"
  | stop => "stop"
  | seek => "seek"
  | duration => "query_duration"
  | position => "query_position"
  | setVolume => "set_volume"
  | setMute => "set_mute"
  | volume => "volume"
  | mute => "mute"

/-- All calls. -/
def all : List Call :=
  [prepare, load, play, pause, stop, seek, duration, position, setVolume, setMute,
    volume, mute]

/-- The call with a given name. -/
def ofName? (text : String) : Option Call :=
  all.find? fun call => call.name == text

/-- The call that a command makes. -/
def ofCommand : Command -> Call
  | .prepare => prepare
  | .load _ => load
  | .play => play
  | .pause => pause
  | .stop => stop
  | .seek _ => seek
  | .setVolume _ => setVolume
  | .setMute _ => setMute

/-- The call that a query makes. -/
def ofQuery : Query -> Call
  | .duration => duration
  | .position => position

end Call

/-- A pipeline whose answers are written down beforehand. -/
structure Scripted where
  /-- The calls that fail. -/
  failing : List Call
  mediaTypes : StringSet
  duration : Option Int
  position : Option Int
  volume : Float32
  /-- What is answered in place of the volume. -/
  shownVolume : Option Float32
  mute : Bool
  /-- Whether it was initialized, so that it can report events. -/
  reports : Bool

namespace Scripted

/-- A pipeline that does whatever it is told and knows no times. -/
def willing : Scripted :=
  { failing := []
    mediaTypes := .ofList ["audio/mpeg", "audio/flac"]
    duration := none
    position := none
    volume := 1.0
    shownVolume := none
    mute := false
    reports := false }

/-- The failure that a script prescribes for a call. -/
def failure (call : Call) : Failure :=
  ⟨"scripted " ++ call.name ++ " failure"⟩

/-- Fail if the script says so. -/
def guardCall {α : Type} (call : Call) (go : Act Scripted Failure α) :
    Act Scripted Failure α := do
  let script ← Act.read
  if call ∈ script.failing then Act.fail (failure call) else go

/-- What a command leaves behind when it does not fail. -/
def obey (command : Command) (script : Scripted) : Scripted :=
  match command with
  | .setVolume volume => { script with volume := volume }
  | .setMute mute => { script with mute := mute }
  | _ => script

/-- Events can be reported from initialization on, even from one that fails. -/
def connect (command : Command) (script : Scripted) : Scripted :=
  match command with
  | .prepare => { script with reports := true }
  | _ => script

/-- The time that the script gives as an answer. -/
def time (script : Scripted) : Query -> Except Failure Int
  | .duration => (script.duration.map .ok).getD (.error ⟨"duration unknown"⟩)
  | .position => (script.position.map .ok).getD (.error ⟨"position unknown"⟩)

instance : Pipeline Scripted where
  perform command := do
    Act.modify (connect command)
    guardCall (.ofCommand command) (Act.modify (obey command))
  ask query := guardCall (.ofQuery query) do
    let script ← Act.read
    Act.ofExcept (script.time query)
  mediaTypes := do
    let script ← Act.read
    pure script.mediaTypes
  volume script :=
    if .volume ∈ script.failing then .error (failure .volume)
    else .ok (script.shownVolume.getD script.volume)
  mute script :=
    if .mute ∈ script.failing then .error (failure .mute) else .ok script.mute

/-- A change of the script. -/
inductive Edit where
  | fail (call : Call) (fails : Bool)
  | timing (duration position : Option Int)
  | showVolume (volume : Option Float32)

/-- The script after a change. -/
def edit (script : Scripted) : Edit -> Scripted
  | .fail call true => { script with failing := call :: script.failing }
  | .fail call false => { script with failing := script.failing.filter (· ≠ call) }
  | .timing duration position => { script with duration := duration, position := position }
  | .showVolume volume => { script with shownVolume := volume }

end Scripted
end Pipeline
end UpnpAv
