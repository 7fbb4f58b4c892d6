import UpnpAv.Settings.Output
import UpnpAv.Text.Blank

/-!
# Settings of a renderer
-/

namespace UpnpAv

/-- What a renderer is configured with. -/
structure RendererSettings where
  /-- The name of the output; none for the first one there is. -/
  output : Option String
  /-- The filter on the advertised media types. -/
  mediaTypes : Option String
  outputSettings : OutputSettings

namespace RendererSettings

/-- The settings of a renderer that nobody configured. -/
def default : RendererSettings :=
  ⟨none, none, .default⟩

/-- What can be wrong with settings. -/
inductive Flaw where
  | blankOutput
  | output (flaw : OutputSettings.Flaw)
deriving Repr, DecidableEq

/-- Look for the first flaw. -/
def validate (settings : RendererSettings) : Except Flaw Unit :=
  if settings.output.any fun name => (Text.trim name.toList).isEmpty then
    .error .blankOutput
  else
    settings.outputSettings.validate.mapError .output

/-- Whether two settings are equal. -/
def agrees (first second : RendererSettings) : Bool :=
  first.output == second.output && first.mediaTypes == second.mediaTypes &&
    first.outputSettings.agrees second.outputSettings

end RendererSettings
end UpnpAv
