import UpnpAv.Proofs.Renderer.Settled

/-!
# What a write leaves alone

A request writes into few of the transport variables, and so does a notice.  All
the others go on showing what they showed before, except for the last document.
A notice leaves the player and the other services alone.
-/

namespace UpnpAv

namespace TransportVariable

theorem id_injective : Function.Injective id := by
  intro first second hsame
  cases first <;> cases second <;> first | rfl | cases hsame

theorem id_lt {shown : TransportVariable} (hlast : shown ≠ .lastChange) :
    shown.id < lastChange.id := by
  cases shown with
  | lastChange =>
      exact absurd rfl hlast
  | _ =>
      decide

end TransportVariable

namespace Renderer

variable {P X : Type}

/-!
# Variables that are written
-/

/-- The transport variables into which a request is written. -/
def Request.touched : Request -> List TransportVariable
  | .setUri _ =>
      [.avTransportUri, .currentTrackUri, .currentTrackDuration, .currentTrackMetaData,
        .relativeTimePosition, .absoluteTimePosition]
  | .setNextUri _ => [.nextAvTransportUri]
  | .play => [.transportState, .currentTransportActions, .currentTrackUri]
  | .pause => [.transportState, .currentTransportActions]
  | .stop =>
      [.transportState, .currentTransportActions, .relativeTimePosition, .absoluteTimePosition]
  | .positionInfo => [.currentTrackDuration, .relativeTimePosition, .absoluteTimePosition]
  | _ => []

/-- The transport variables into which a notice is written. -/
def noticeTouched : Notice -> List TransportVariable
  | .transition .playbackStopped =>
      [.transportState, .currentTransportActions, .relativeTimePosition, .absoluteTimePosition]
  | .transition .startedNextStream =>
      [.avTransportUri, .currentTrackUri, .nextAvTransportUri, .currentTrackDuration,
        .currentTrackMetaData, .transportState, .currentTransportActions,
        .relativeTimePosition, .absoluteTimePosition]
  | .metadata _ => [.currentTrackMetaData]

/-- All but some of the transport variables show what they showed before. -/
def KeepsOthers (touched : List TransportVariable) (before after : Renderer P X) : Prop :=
  forall shown, shown ≠ .lastChange -> shown ∉ touched ->
    after.avTransport.get? shown.id = before.avTransport.get? shown.id

/-- No value is written for a variable that is not touched. -/
theorem lookup_untouched {values : List (VariableId × String)}
    {touched : List TransportVariable}
    (hids : values.map Prod.fst = touched.map TransportVariable.id)
    {shown : TransportVariable} (huntouched : shown ∉ touched) :
    values.lookup shown.id = none := by
  rw [List.lookup_eq_none_iff]
  intro pair hpair
  have hid : pair.1 ∈ touched.map TransportVariable.id := hids ▸ List.mem_map_of_mem hpair
  rcases List.mem_map.mp hid with ⟨other, hother, hsame⟩
  rw [← hsame, bne_iff_ne]
  intro hshown
  rw [TransportVariable.id_injective hshown] at huntouched
  exact huntouched hother

theorem noticeValues_untouched (player : Player P) {notice : Notice}
    {shown : TransportVariable} (huntouched : shown ∉ noticeTouched notice) :
    (noticeValues player notice).lookup shown.id = none := by
  cases notice with
  | transition transition =>
      cases transition <;> exact lookup_untouched rfl huntouched
  | metadata tags =>
      exact lookup_untouched rfl huntouched

theorem Writes.untouched {player next : Player P} {request : Request} {name : ServiceName}
    {values : List (VariableId × String)}
    (hwrites : Writes player (.request request) next name values)
    {shown : TransportVariable} (huntouched : shown ∉ request.touched) :
    transportValue? values shown.id name = none := by
  cases hwrites with
  | setVolume percent q =>
      rfl
  | setMute mute q =>
      rfl
  | _ =>
      exact lookup_untouched rfl huntouched

/-!
# Writes
-/

variable {deliver : Receiver P X} {renderer : Renderer P X}

theorem perform_keeps [Pipeline P] (hapart : forall delivery, IsApart (deliver delivery))
    (request : Request) (hsettled : Settled renderer) :
    KeepsOthers request.touched renderer (perform deliver request renderer).state := by
  intro shown hlast huntouched
  rcases perform_cases request renderer with ⟨q, hnothing⟩ | hsome
  · rw [hnothing]
  · rcases hsome.shows hapart hsettled with ⟨player, name, values, hwrites, _, _, hshows⟩
    rw [hshows _ (TransportVariable.id_lt hlast), hwrites.untouched huntouched, Option.none_or]

theorem publish_keeps (hapart : forall delivery, IsApart (deliver delivery)) (notice : Notice)
    (hsettled : Settled renderer) :
    let written := ((publish deliver notice : Act _ Empty Unit) renderer).state
    KeepsOthers (noticeTouched notice) renderer written ∧
      written =
        { renderer with avTransport := written.avTransport, ambient := written.ambient } := by
  rcases publish_state (ε := Empty) deliver notice renderer with ⟨body, hbody, hstate⟩
  rw [hstate]
  constructor
  · intro shown hlast huntouched
    rcases update_shows hapart hsettled (fits_noticeValues renderer.player notice) hbody with
      ⟨_, _, hshows⟩
    rw [hshows _ (TransportVariable.id_lt hlast), transportValue?,
      noticeValues_untouched renderer.player huntouched, Option.none_or]
  · rcases exists_update_state .avTransport hapart body renderer with ⟨service, ambient, hupdate⟩
    rw [hupdate]
    rfl

end Renderer
end UpnpAv
