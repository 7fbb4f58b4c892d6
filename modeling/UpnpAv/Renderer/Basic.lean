import UpnpAv.Clock
import UpnpAv.Player.Events
import UpnpAv.Service.Tables
import UpnpAv.Track.Description

/-!
# Renderers

A renderer ties a player to its three services.  A command first runs on the
player; its outcome is then written into the variables of one service, as one
update.  What the player announces by itself is written in the same way.

The documents of an update are delivered when it is over, so that a receiver
can give commands to the renderer again.  What receivers and listeners do is
given by hooks; they work on the renderer and on a state of their own.
-/

namespace UpnpAv

/-- A player, its three services and the state of whoever listens. -/
structure Renderer (P X : Type) where
  outputName : Option String
  player : Player P
  avTransport : Service
  renderingControl : Service
  connectionManager : Service
  ambient : X

/-- The services of a renderer. -/
inductive ServiceName where
  | avTransport
  | renderingControl
  | connectionManager
deriving Repr, DecidableEq

namespace Renderer

variable {P X ε α : Type}

/-- The text that describes a renderer. -/
def describe (renderer : Renderer P X) : String :=
  "Renderer \x7b output: " ++
    (match renderer.outputName with
      | none => "None"
      | some name => "Some(" ++ Text.quoted name ++ ")") ++
    ", engine: " ++ renderer.player.describe ++ " \x7d"

/-! # Parts -/

/-- Carry out an act on the player. -/
def onPlayer (m : Act (Player P) ε α) : Act (Renderer P X) ε α :=
  Act.zoom Renderer.player (fun player renderer => { renderer with player := player }) m

/-- One of the services. -/
def service (renderer : Renderer P X) : ServiceName -> Service
  | .avTransport => renderer.avTransport
  | .renderingControl => renderer.renderingControl
  | .connectionManager => renderer.connectionManager

/-- A renderer with one of its services replaced. -/
def withService (renderer : Renderer P X) (name : ServiceName) (service : Service) :
    Renderer P X :=
  match name with
  | .avTransport => { renderer with avTransport := service }
  | .renderingControl => { renderer with renderingControl := service }
  | .connectionManager => { renderer with connectionManager := service }

/-- Carry out an act on one of the services. -/
def onService (name : ServiceName) (m : Act Service ε α) : Act (Renderer P X) ε α :=
  Act.zoom (fun renderer => renderer.service name)
    (fun service renderer => renderer.withService name service) m

/-- What is done with a document. -/
abbrev Receiver (P X : Type) :=
  Delivery -> Act (Renderer P X) Empty Unit

/-- Carry out a body as one update of a service and deliver its documents. -/
def update (deliver : Receiver P X) (name : ServiceName) (body : Act Service Error α) :
    Act (Renderer P X) Error α := do
  let (result, deliveries) ← onService name (Service.update body)
  (Act.each deliver deliveries).safely
  Act.ofExcept result

/-! # What is written -/

/-- The values that show a state of the player. -/
def stateValues (state : PlayerState) : List (VariableId × String) :=
  [ (TransportVariable.transportState.id, state.transportState),
    (TransportVariable.currentTransportActions.id, state.transportActions) ]

/-- The values that show that no position is known. -/
def noPosition : List (VariableId × String) :=
  [ (TransportVariable.relativeTimePosition.id, Clock.format none),
    (TransportVariable.absoluteTimePosition.id, Clock.format none) ]

/-- The values after a new locator was set. -/
def newUriValues (uri : String) : List (VariableId × String) :=
  [ (TransportVariable.avTransportUri.id, uri),
    (TransportVariable.currentTrackUri.id, uri),
    (TransportVariable.currentTrackDuration.id, Clock.format none),
    (TransportVariable.currentTrackMetaData.id, "") ] ++
  noPosition

/-- The values after the queued stream took over. -/
def nextStreamValues (target : Target) (state : PlayerState) : List (VariableId × String) :=
  [ (TransportVariable.avTransportUri.id, target.uri),
    (TransportVariable.currentTrackUri.id, target.uri),
    (TransportVariable.nextAvTransportUri.id, target.nextUri),
    (TransportVariable.currentTrackDuration.id, Clock.format none),
    (TransportVariable.currentTrackMetaData.id, "") ] ++
  stateValues state ++ noPosition

/-- The values that show a duration and a position. -/
def timingValues (duration position : String) : List (VariableId × String) :=
  [ (TransportVariable.currentTrackDuration.id, duration),
    (TransportVariable.relativeTimePosition.id, position),
    (TransportVariable.absoluteTimePosition.id, position) ]

/-- A volume in whole percent of the loudest. -/
def volumePercent (volume : Float32) : Nat :=
  let clamped : Float32 := if volume < 0.0 then 0.0 else if 1.0 < volume then 1.0 else volume
  (clamped * 100.0).round.toUInt8.toNat

/-- The value of the variable `Mute`. -/
def muteValue (mute : Bool) : String :=
  if mute then "1" else "0"

/-! # Commands -/

section

variable [Pipeline P] (deliver : Receiver P X)

/-- Set what to play. -/
def setUri (uri : String) : Act (Renderer P X) Error Unit := do
  onPlayer ((Player.setUri uri).mapError .player)
  update deliver .avTransport (Service.putAll (newUriValues uri))

/-- Set what to play after the current track. -/
def setNextUri (uri : String) : Act (Renderer P X) Error Unit := do
  onPlayer ((Player.setNextUri uri).mapError .player)
  update deliver .avTransport (Service.put TransportVariable.nextAvTransportUri.id uri)

/-- Start, restart or resume playback. -/
def play : Act (Renderer P X) Error Unit := do
  onPlayer (Player.play.mapError .player)
  let renderer ← Act.read
  update deliver .avTransport <| Service.putAll <|
    stateValues .playing ++
      [(TransportVariable.currentTrackUri.id, renderer.player.target.uri)]

/-- Pause playback. -/
def pause : Act (Renderer P X) Error Unit := do
  onPlayer (Player.pause.mapError .player)
  update deliver .avTransport (Service.putAll (stateValues (.paused .user)))

/-- Stop playback.  The services show it even when the pipeline fails to stop. -/
def stop : Act (Renderer P X) Error Unit := do
  let stopped ← Act.attempt (onPlayer Player.stop)
  update deliver .avTransport (Service.putAll (stateValues .stopped ++ noPosition))
  Act.ofExcept (stopped.mapError .player)

/-- The position that a clock time names. -/
def soughtPosition (target : String) : Except Error Nat :=
  match Clock.parse? target with
  | none => .error (.invalidTime target)
  | some position => .ok position

/-- Go to a position given as a clock time. -/
def seek (target : String) : Act (Renderer P X) Error Unit := do
  let position ← Act.ofExcept (soughtPosition target)
  onPlayer ((Player.seek position).mapError .player)

/-- Set the volume in percent of the loudest. -/
def setVolume (percent : Nat) : Act (Renderer P X) Error Unit := do
  if 100 < percent then
    Act.fail (.volumeOutOfRange percent)
  else
    onPlayer ((Player.setVolume (Float32.ofNat percent / 100.0)).mapError .player)
    update deliver .renderingControl
      (Service.put RenderingVariable.volume.id (toString percent))

/-- Switch the sound off or on. -/
def setMute (mute : Bool) : Act (Renderer P X) Error Unit := do
  onPlayer ((Player.setMute mute).mapError .player)
  update deliver .renderingControl (Service.put RenderingVariable.mute.id (muteValue mute))

/-! # Questions -/

/-- The answer to a question about the position. -/
structure PositionInfo where
  trackUri : String
  trackDuration : String
  relativeTime : String
  absoluteTime : String
  /-- The pipeline had no answer, and earlier ones stand in. -/
  stale : Bool
deriving Repr, DecidableEq

/-- The answer to a question about the transport. -/
structure TransportInfo where
  state : String
  status : String
  speed : String
deriving Repr, DecidableEq

/-- Duration and position of the current track, which are also written into the variables. -/
def positionInfo : Act (Renderer P X) Error PositionInfo := do
  let timing ← onPlayer Player.readTiming
  let duration := Clock.format timing.duration
  let position := Clock.format timing.position
  update deliver .avTransport (Service.putAll (timingValues duration position))
  let renderer ← Act.read
  pure
    { trackUri := renderer.avTransport.value TransportVariable.currentTrackUri.id
      trackDuration := duration
      relativeTime := position
      absoluteTime := position
      stale := timing.stale }

end

/-- The present state of the transport as the variables show it. -/
def transportInfo (renderer : Renderer P X) : TransportInfo :=
  { state := renderer.avTransport.value TransportVariable.transportState.id
    status := renderer.avTransport.value TransportVariable.transportStatus.id
    speed := renderer.avTransport.value TransportVariable.transportPlaySpeed.id }

/-- The volume in percent of the loudest. -/
def volume [Pipeline P] (renderer : Renderer P X) : Except Error Nat :=
  (renderer.player.volume.mapError .player).map volumePercent

/-- Whether the sound is off. -/
def mute [Pipeline P] (renderer : Renderer P X) : Except Error Bool :=
  renderer.player.mute.mapError .player

/-- What the renderer can send and what it can receive. -/
def protocolInfo (renderer : Renderer P X) : String × String :=
  (renderer.connectionManager.value ConnectionVariable.sourceProtocolInfo.id,
    renderer.connectionManager.value ConnectionVariable.sinkProtocolInfo.id)

/-- The identifiers of the present connections. -/
def connectionIds (renderer : Renderer P X) : String :=
  renderer.connectionManager.value ConnectionVariable.currentConnectionIds.id

/-! # Announcements of the player -/

/--
Write a transition into the variables.  The state is the one in which the
player is by now, because listeners that were called earlier may have given
commands.
-/
def transitionBody (player : Player P) : Transition -> Act Service Error Unit
  | .playbackStopped => Service.putAll (stateValues player.state ++ noPosition)
  | .startedNextStream => do
      Act.log (.info s!"Started next stream '{player.target.uri}'")
      Service.putAll (nextStreamValues player.target player.state)

/-- Log a failure that nobody waits for. -/
def logFailure (what : String) : Except Error Unit -> Act (Renderer P X) ε Unit
  | .ok () => pure ()
  | .error e => Act.log (.error s!"Failed to publish {what}: {e.message}")

/-- Write what the player announces into the variables. -/
def publish (deliver : Receiver P X) : Notice -> Act (Renderer P X) ε Unit
  | .transition transition => do
      let renderer ← Act.read
      let result ← Act.attempt <|
        update deliver .avTransport (transitionBody renderer.player transition)
      logFailure transition.name result
  | .metadata tags => do
      Act.log (.info s!"Now playing '{tags.title}' by '{tags.artist}'")
      let result ← Act.attempt <|
        update deliver .avTransport
          (Service.put TransportVariable.currentTrackMetaData.id (Description.encode tags))
      logFailure "track metadata" result

/-- Somebody who listens to the player. -/
abbrev Listener (P X : Type) :=
  Notice -> Act (Renderer P X) Empty Unit

/-- What others do about documents and announcements. -/
structure Hooks (P X : Type) where
  deliver : Receiver P X
  /-- Listeners of the player that are called before the variables are written. -/
  earlier : X -> List (Listener P X)
  /-- Listeners of the player that are called after that. -/
  later : X -> List (Listener P X)

/--
Give an event of the pipeline to the player and publish what it announces.
Only those are called who listened when the event came.
-/
def handle [Pipeline P] (hooks : Hooks P X) (event : Pipeline.Event) :
    Act (Renderer P X) Empty Unit := do
  match ← onPlayer (Player.handle event) with
  | none => pure ()
  | some notice =>
      let renderer ← Act.read
      Act.each (fun listener => listener notice) (hooks.earlier renderer.ambient)
      publish hooks.deliver notice
      Act.each (fun listener => listener notice) (hooks.later renderer.ambient)

end Renderer
end UpnpAv
