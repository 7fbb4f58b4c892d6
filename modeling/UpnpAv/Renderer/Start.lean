import UpnpAv.MediaType.Advertised
import UpnpAv.Player.Start
import UpnpAv.Renderer.Basic

/-!
# Starting a renderer
-/

namespace UpnpAv
namespace Renderer

variable {P X : Type} [Pipeline P]

/-- The initial values of the variables that show volume and mute. -/
def renderingValues (volume : Float32) (mute : Bool) : List (VariableId × String) :=
  [ (RenderingVariable.volume.id, toString (volumePercent volume)),
    (RenderingVariable.mute.id, muteValue mute) ]

/-- The initial values of the variables that show the advertised types, if there are any. -/
def connectionValues (types : StringSet) : List (VariableId × String) :=
  if types.isEmpty then []
  else [(ConnectionVariable.sinkProtocolInfo.id, MediaType.protocolInfo types)]

/-- A table with some values set, where all of them belong to the table. -/
def seeded (declared : List Variable) (values : List (VariableId × String)) :
    Except Error StateTable :=
  ((StateTable.ofVariables declared).seed values).mapError .table

/-- Build the services around a player. -/
def assemble (settings : RendererSettings) (player : Player P) (ambient : X) :
    Except Error (Renderer P X) := do
  let volume ← player.volume.mapError .player
  let mute ← player.mute.mapError .player
  let rendering ← seeded RenderingVariable.declared (renderingValues volume mute)
  let filter := MediaType.Filter.parse (settings.mediaTypes.getD "")
  let types := MediaType.advertised player.mediaTypes filter
  let connection ← seeded ConnectionVariable.declared (connectionValues types)
  pure
    { outputName := none
      player := player
      avTransport :=
        .evented "AVTransport" (.ofVariables TransportVariable.declared)
          LastChange.transportNamespace
      renderingControl :=
        .evented "RenderingControl" rendering LastChange.renderingNamespace
      connectionManager := .unevented "ConnectionManager" connection
      ambient := ambient }

/-- The log lines about the advertised types. -/
def assembleLines (settings : RendererSettings) (player : Player P) : List Line :=
  let text := settings.mediaTypes.getD ""
  MediaType.Filter.parseLines text ++
    MediaType.advertisedLines
      (MediaType.advertised player.mediaTypes (MediaType.Filter.parse text))

/-- Build the services around a player that was just started. -/
def around (settings : RendererSettings) (started : Started P Player.Error (String × Player P))
    (ambient : X) : Started P Error (String × Renderer P X) :=
  match started.result with
  | .error e => ⟨.error (.player e), started.pipeline, started.lines⟩
  | .ok (name, player) =>
      match assemble settings player ambient with
      | .error e => ⟨.error e, started.pipeline, started.lines⟩
      | .ok renderer =>
          ⟨.ok (name, renderer), started.pipeline,
            started.lines ++ assembleLines settings player⟩

/-- Start a renderer on an output of a catalog. -/
def start (catalog : Catalog P) (settings : RendererSettings) (ambient : X) :
    Started P Error (Renderer P X) :=
  match settings.validate with
  | .error flaw => ⟨.error (.ofFlaw flaw), none, []⟩
  | .ok () =>
      let started :=
        around settings (Player.start catalog settings.output settings.outputSettings) ambient
      match started.result with
      | .error e => ⟨.error e, started.pipeline, started.lines⟩
      | .ok (name, renderer) =>
          ⟨.ok { renderer with outputName := some name }, started.pipeline,
            started.lines ++ [.info s!"Renderer ready on output '{name}'"]⟩

end Renderer
end UpnpAv
