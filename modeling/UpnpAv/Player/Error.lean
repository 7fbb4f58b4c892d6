import UpnpAv.Decimal.Shortest
import UpnpAv.Pipeline.Basic
import UpnpAv.Player.State
import UpnpAv.Settings.Output
import UpnpAv.Url.Check

/-!
# Failures of a player
-/

namespace UpnpAv
namespace Player

/-- The commands that some states do not allow. -/
inductive Guarded where
  | play
  | pause
deriving Repr, DecidableEq

/-- The name of such a command. -/
def Guarded.name : Guarded -> String
  | play => "play"
  | pause => "pause"

/-- Why a command fails, or why no output can be chosen. -/
inductive Error where
  | malformedUri (uri : String) (cause : Url.Error)
  | negativeSeek (position : Int)
  | volumeOutOfRange (volume : Float32)
  | notAllowed (command : Guarded) (state : PlayerState)
  | pipeline (failure : Failure)
  | unknownOutput (name : String)
  | noOutput
  | settings (flaw : OutputSettings.Flaw)

/-- The text of a failure. -/
def Error.message : Error -> String
  | malformedUri uri cause => s!"Invalid argument: malformed uri '{uri}': {cause.message}"
  | negativeSeek position =>
      s!"Invalid argument: seek position must not be negative: {position}"
  | volumeOutOfRange volume =>
      "Invalid argument: volume must be within 0.0..=1.0: " ++
        Decimal.plain (.ofFloat32 volume)
  | notAllowed command state => s!"{command.name} is not valid while {state.message}"
  | pipeline failure => "Backend error: " ++ failure.text
  | unknownOutput name => s!"No such output: '{name}'"
  | noOutput => "No outputs available"
  | settings flaw => "Configuration error: " ++ flaw.message

end Player
end UpnpAv
