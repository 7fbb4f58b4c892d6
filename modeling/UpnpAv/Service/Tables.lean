import UpnpAv.Service.Basic

/-!
# The services of a media renderer

The variables of the three services, each with its place in the table.
-/

namespace UpnpAv

/-- The variables of the service `AVTransport`. -/
inductive TransportVariable where
  | transportState
  | transportStatus
  | transportPlaySpeed
  | avTransportUri
  | nextAvTransportUri
  | currentTrackUri
  | currentTrackDuration
  | relativeTimePosition
  | absoluteTimePosition
  | currentTransportActions
  | currentTrackMetaData
  | lastChange
deriving Repr, DecidableEq

namespace TransportVariable

/-- The place of a variable in its table. -/
def id : TransportVariable -> VariableId
  | transportState => 0
  | transportStatus => 1
  | transportPlaySpeed => 2
  | avTransportUri => 3
  | nextAvTransportUri => 4
  | currentTrackUri => 5
  | currentTrackDuration => 6
  | relativeTimePosition => 7
  | absoluteTimePosition => 8
  | currentTransportActions => 9
  | currentTrackMetaData => 10
  | lastChange => 11

/-- The table of the variables as declared. -/
def declared : List Variable :=
  [ .subscribed "TransportState" "STOPPED",
    .subscribed "TransportStatus" "OK",
    .subscribed "TransportPlaySpeed" "1",
    .subscribed "AVTransportURI" "",
    .subscribed "NextAVTransportURI" "",
    .subscribed "CurrentTrackURI" "",
    .subscribed "CurrentTrackDuration" "0:00:00",
    .silent "RelativeTimePosition" "0:00:00",
    .silent "AbsoluteTimePosition" "0:00:00",
    .subscribed "CurrentTransportActions" "Play",
    .subscribed "CurrentTrackMetaData" "",
    .silent "LastChange" "" ]

end TransportVariable

/-- The variables of the service `RenderingControl`. -/
inductive RenderingVariable where
  | volume
  | mute
  | lastChange
deriving Repr, DecidableEq

namespace RenderingVariable

/-- The place of a variable in its table. -/
def id : RenderingVariable -> VariableId
  | volume => 0
  | mute => 1
  | lastChange => 2

/-- The table of the variables as declared. -/
def declared : List Variable :=
  [ .subscribed "Volume" "100",
    .subscribed "Mute" "0",
    .silent "LastChange" "" ]

end RenderingVariable

/-- The variables of the service `ConnectionManager`. -/
inductive ConnectionVariable where
  | sourceProtocolInfo
  | sinkProtocolInfo
  | currentConnectionIds
deriving Repr, DecidableEq

namespace ConnectionVariable

/-- The place of a variable in its table. -/
def id : ConnectionVariable -> VariableId
  | sourceProtocolInfo => 0
  | sinkProtocolInfo => 1
  | currentConnectionIds => 2

/-- The table of the variables as declared. -/
def declared : List Variable :=
  [ .subscribed "SourceProtocolInfo" "",
    .subscribed "SinkProtocolInfo" "",
    .subscribed "CurrentConnectionIDs" "0" ]

end ConnectionVariable
end UpnpAv
