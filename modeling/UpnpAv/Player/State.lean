/-!
# States of a player

```text
           play                       pause
 Ready -----------> Playing -------------------> Paused by the user
   ^                 |   ^  <-------------------   play
   | stop            |   |
 Stopped <-- end ----+   +--- Paused for buffering, until the buffer is full
```
-/

namespace UpnpAv

/-- Why playback is paused. -/
inductive PauseReason where
  /-- It was asked for, and only an explicit command resumes. -/
  | user
  /-- The buffer ran low; playback resumes by itself. -/
  | buffering
deriving Repr, DecidableEq

/-- The name of a pause reason. -/
def PauseReason.name : PauseReason -> String
  | user => "User"
  | buffering => "Buffering"

/-- The states of a player. -/
inductive PlayerState where
  | stopped
  | ready
  | playing
  | paused (reason : PauseReason)
deriving Repr, DecidableEq

namespace PlayerState

/-- Whether media is being rendered. -/
def isPlaying : PlayerState -> Bool
  | playing => true
  | _ => false

/-- The value of the variable `TransportState` in a state. -/
def transportState : PlayerState -> String
  | stopped => "STOPPED"
  | ready => "STOPPED"
  | playing => "PLAYING"
  | paused _ => "PAUSED_PLAYBACK"

/-- The actions that make sense next, as the variable `CurrentTransportActions` lists them. -/
def transportActions : PlayerState -> String
  | stopped => "Play"
  | ready => "Play"
  | playing => "Pause,Stop,Seek"
  | paused _ => "Play,Stop,Seek"

/-- A state in messages. -/
def message : PlayerState -> String
  | stopped => "STOPPED"
  | ready => "READY"
  | playing => "PLAYING"
  | paused .user => "PAUSED (user)"
  | paused .buffering => "PAUSED (buffering)"

/-- A state in descriptions. -/
def describe : PlayerState -> String
  | stopped => "Stopped"
  | ready => "Ready"
  | playing => "Playing"
  | paused reason => "Paused(" ++ reason.name ++ ")"

end PlayerState

/-- What a player announces about the end of a stream. -/
inductive Transition where
  /-- The stream ended and nothing else is played. -/
  | playbackStopped
  /-- The queued stream took over. -/
  | startedNextStream
deriving Repr, DecidableEq

/-- The name of a transition. -/
def Transition.name : Transition -> String
  | playbackStopped => "PlaybackStopped"
  | startedNextStream => "StartedNextStream"

end UpnpAv
