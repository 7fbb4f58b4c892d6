import UpnpAv.JsonText.Error
import UpnpAv.LastChange.Reporter
import UpnpAv.Player.Error
import UpnpAv.Settings.Renderer

/-!
# Failures of a renderer
-/

namespace UpnpAv
namespace Renderer

/-- Why something that a renderer was asked for fails. -/
inductive Error where
  | player (cause : Player.Error)
  | reporter (cause : Reporter.Error)
  | table (cause : StateTable.Error)
  | invalidTime (text : String)
  | volumeOutOfRange (percent : Nat)
  | refused (reason : String)
  | blankOutput
  | json (cause : JsonText.Error)

/-- The text of a failure. -/
def Error.message : Error -> String
  | player cause => "Output error: " ++ cause.message
  | reporter cause => "LastChange error: " ++ cause.message
  | table cause => "Variable error: " ++ cause.message
  | invalidTime text => s!"Invalid time value: '{text}'"
  | volumeOutOfRange percent =>
      s!"Invalid argument: volume must be within 0..=100: {percent}"
  | refused reason => "Invalid argument: " ++ reason
  | blankOutput => "Configuration error: output name must not be empty"
  | json cause => "Configuration parse error: " ++ cause.message

/-- The failure that a flaw of the settings amounts to. -/
def Error.ofFlaw : RendererSettings.Flaw -> Error
  | .blankOutput => .blankOutput
  | .output flaw => .player (.settings flaw)

end Renderer
end UpnpAv
