import UpnpAv.JsonText.Record
import UpnpAv.JsonText.Written
import UpnpAv.Player.State

/-!
# States of a player as JSON
-/

namespace UpnpAv

open JsonText (Variant Reader Written)

namespace PlayerState

/-- The reasons of a pause. -/
def reasons : List (String × Variant PauseReason) :=
  [("User", .plain .user), ("Buffering", .plain .buffering)]

/-- The states; a pause holds its reason. -/
def variants : List (String × Variant PlayerState) :=
  [ ("Stopped", .plain .stopped), ("Ready", .plain .ready), ("Playing", .plain .playing),
    ("Paused", .holding (.paused <$> Reader.variant reasons)) ]

/-- The state that a JSON text spells out. -/
def ofJson (text : String) : Except JsonText.Error PlayerState :=
  (Reader.variant variants).run text

/-- A state, written. -/
def written : PlayerState -> Written
  | stopped => .text "Stopped"
  | ready => .text "Ready"
  | playing => .text "Playing"
  | paused reason => .object [("Paused", .text reason.name)]

/-- A state as a JSON text. -/
def toJson (state : PlayerState) : String :=
  String.ofList state.written

end PlayerState
end UpnpAv
