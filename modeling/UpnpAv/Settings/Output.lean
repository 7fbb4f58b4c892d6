/-!
# Settings of an output
-/

namespace UpnpAv

/-- What a media pipeline is configured with. -/
structure OutputSettings where
  /-- Nanoseconds of media to buffer before playing; none turns buffering off. -/
  buffer : Nat
  /-- The initial volume in decibels below the loudest. -/
  decibels : Float
  audioSink : Option String
  audioDevice : Option String
  audioPipe : Option String
  videoSink : Option String

namespace OutputSettings

/-- The settings of an output that nobody configured. -/
def default : OutputSettings :=
  ⟨0, 0.0, none, none, none, none⟩

/-- What can be wrong with settings. -/
inductive Flaw where
  | sinkAndPipe
  | volumeNotFinite
deriving Repr, DecidableEq

/-- The text about a flaw. -/
def Flaw.message : Flaw -> String
  | sinkAndPipe => "audio_sink and audio_pipe are mutually exclusive"
  | volumeNotFinite => "initial_volume_db must be a finite number"

/-- Look for the first flaw. -/
def validate (settings : OutputSettings) : Except Flaw Unit :=
  if settings.audioSink.isSome && settings.audioPipe.isSome then .error .sinkAndPipe
  else if !settings.decibels.isFinite then .error .volumeNotFinite
  else .ok ()

/-- Whether playback pauses while the buffer fills. -/
def isBuffering (settings : OutputSettings) : Bool :=
  0 < settings.buffer

/-- The volume to start with, as a fraction of the loudest, when it is lower than that. -/
def initialVolume? (settings : OutputSettings) : Option Float32 :=
  if settings.decibels < 0.0 then
    some (Float.pow 10.0 (settings.decibels / 20.0)).toFloat32
  else none

/--
Whether two settings are equal; equal numbers of decibels need not have the same
sign of zero.
-/
def agrees (first second : OutputSettings) : Bool :=
  first.buffer == second.buffer && first.decibels == second.decibels &&
    first.audioSink == second.audioSink && first.audioDevice == second.audioDevice &&
    first.audioPipe == second.audioPipe && first.videoSink == second.videoSink

end OutputSettings
end UpnpAv
