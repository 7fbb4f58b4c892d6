import UpnpAv.Player.Run
import UpnpAv.Proofs.Renderer.Settled

/-!
# What a renderer asks of its player

As long as nobody intervenes, the player of a renderer goes through a run of its
own: each step of the renderer is one step of the player, or none when the
renderer refuses what it is asked for.
-/

namespace UpnpAv
namespace Renderer

variable {P X : Type}

/-!
# Hooks that stay apart
-/

/-- Neither the receiver nor the listeners do anything to a renderer. -/
structure Hooks.Apart (hooks : Hooks P X) : Prop where
  deliver : forall delivery, IsApart (hooks.deliver delivery)
  earlier : forall ambient listener, listener ∈ hooks.earlier ambient ->
    forall notice, IsApart (listener notice)
  later : forall ambient listener, listener ∈ hooks.later ambient ->
    forall notice, IsApart (listener notice)

theorem keeping_apart : (keeping : Hooks P (List Delivery)).Apart := by
  refine ⟨fun delivery renderer => ⟨_, rfl⟩, ?_, ?_⟩
  · intro ambient listener hlistener
    cases hlistener
  · intro ambient listener hlistener
    cases hlistener

theorem told_apart {listeners : List (Listener P X)} (notice : Notice)
    (hlisteners : forall listener, listener ∈ listeners ->
      forall notice, IsApart (listener notice))
    (renderer : Renderer P X) :
    exists ambient, told listeners notice renderer = { renderer with ambient := ambient } :=
  each_apart listeners (fun listener hlistener => hlisteners listener hlistener notice) renderer

/-!
# Steps of the player
-/

/-- The step of the player that a step of the renderer comes to. -/
def playerStep? : Step -> Option Player.Step
  | .request (.setUri uri) => some (.request (.setUri uri))
  | .request (.setNextUri uri) => some (.request (.setNextUri uri))
  | .request .play => some (.request .play)
  | .request .pause => some (.request .pause)
  | .request .stop => some (.request .stop)
  | .request (.seek target) =>
      match Clock.parse? target with
      | none => none
      | some position => some (.request (.seek position))
  | .request (.setVolume percent) =>
      if 100 < percent then none
      else some (.request (.setVolume (Float32.ofNat percent / 100.0)))
  | .request (.setMute mute) => some (.request (.setMute mute))
  | .request .positionInfo => some (.request .readTiming)
  | .request .readVolume => some (.request .readVolume)
  | .request .readMute => some (.request .readMute)
  | .event event => some (.event event)

section

variable {deliver : Receiver P X} {α β : Type}

theorem update_player (hapart : forall delivery, IsApart (deliver delivery)) (name : ServiceName)
    (body : Act Service Error α) (renderer : Renderer P X) :
    (update deliver name body renderer).state.player = renderer.player := by
  rcases exists_update_state name hapart body renderer with ⟨service, ambient, hstate⟩
  rw [hstate]
  exact player_withService name service renderer

theorem onPlayer_player {m : Act (Player P) Player.Error α}
    {next : α -> Act (Renderer P X) Error β}
    (hnext : forall a reached, (next a reached).state.player = reached.player)
    (renderer : Renderer P X) :
    ((onPlayer (m.mapError .player) >>= next) renderer).state.player =
      (m renderer.player).state := by
  cases hresult : (m renderer.player).result with
  | ok a =>
      rw [onPlayer_ok hresult, hnext]
  | error e =>
      rw [onPlayer_error hresult]

theorem publish_player (hapart : forall delivery, IsApart (deliver delivery)) (notice : Notice)
    (renderer : Renderer P X) :
    ((publish deliver notice : Act _ Empty Unit) renderer).state.player = renderer.player := by
  rcases publish_state (ε := Empty) deliver notice renderer with ⟨body, _, hstate⟩
  rw [hstate, update_player hapart]

end

section

variable [Pipeline P] {deliver : Receiver P X} {hooks : Hooks P X}

/-- The player after one step of the renderer. -/
def played (player : Player P) (step : Step) : Player P :=
  match playerStep? step with
  | none => player
  | some step => player.after step

theorem perform_player (hapart : forall delivery, IsApart (deliver delivery))
    (request : Request) (renderer : Renderer P X) :
    (perform deliver request renderer).state.player =
      played renderer.player (.request request) := by
  have hupdate : forall (name : ServiceName) (body : Act Service Error Unit)
      (reached : Renderer P X), (update deliver name body reached).state.player =
        reached.player :=
    update_player hapart
  cases request with
  | setUri uri =>
      rw [perform, Act.then_pure_state, setUri, onPlayer_player fun _ => hupdate _ _]
      exact (Act.then_pure_state _ _ _).symm
  | setNextUri uri =>
      rw [perform, Act.then_pure_state, setNextUri, onPlayer_player fun _ => hupdate _ _]
      exact (Act.then_pure_state _ _ _).symm
  | play =>
      rw [perform, Act.then_pure_state, play, onPlayer_player ?_]
      · exact (Act.then_pure_state _ _ _).symm
      · intro done reached
        rw [Act.bind_state]
        exact hupdate _ _ _
  | pause =>
      rw [perform, Act.then_pure_state, pause, onPlayer_player fun _ => hupdate _ _]
      exact (Act.then_pure_state _ _ _).symm
  | stop =>
      rw [perform, Act.then_pure_state, stop_state, hupdate]
      exact (Act.then_pure_state _ _ _).symm
  | seek target =>
      rw [perform, Act.then_pure_state, seek, soughtPosition, played, playerStep?]
      cases Clock.parse? target with
      | none =>
          rfl
      | some position =>
          exact (Act.then_pure_state (Player.seek position) Player.Reply.done _).symm
  | setVolume percent =>
      rw [perform, Act.then_pure_state, setVolume, played, playerStep?]
      by_cases hloud : 100 < percent
      · rw [if_pos hloud, if_pos hloud]
        rfl
      · rw [if_neg hloud, if_neg hloud, onPlayer_player fun _ => hupdate _ _]
        exact (Act.then_pure_state _ _ _).symm
  | setMute mute =>
      rw [perform, Act.then_pure_state, setMute, onPlayer_player fun _ => hupdate _ _]
      exact (Act.then_pure_state _ _ _).symm
  | positionInfo =>
      rcases Player.readTiming_answers (ε := Error) renderer.player with
        ⟨_, _, answer, hresult, _⟩
      rw [perform, Act.map_state, positionInfo_state hresult, hupdate]
      show (Player.readTiming (ε := Error) renderer.player).state = _
      rw [Player.readTiming_state Player.Error]
      exact (Act.map_state _ _ _).symm
  | readVolume =>
      rfl
  | readMute =>
      rfl

theorem handle_player (hhooks : hooks.Apart) (event : Pipeline.Event) (renderer : Renderer P X) :
    (handle hooks event renderer).state.player =
      (Player.handle (ε := Empty) event renderer.player).state := by
  rcases Player.handle_cases (ε := Empty) event renderer.player with
    ⟨hresult, _⟩ | ⟨notice, hresult, _⟩
  · rw [handle_unannounced hresult]
  · rw [handle_announced hresult]
    rcases told_apart notice (hhooks.later renderer.ambient)
      ((publish hooks.deliver notice : Act _ Empty Unit)
        (told (hooks.earlier renderer.ambient) notice
          { renderer with
            player := (Player.handle (ε := Empty) event renderer.player).state })).state with
      ⟨later, hlater⟩
    rcases told_apart notice (hhooks.earlier renderer.ambient)
      { renderer with player := (Player.handle (ε := Empty) event renderer.player).state } with
      ⟨earlier, hearlier⟩
    rw [hlater]
    show ((publish hooks.deliver notice : Act _ Empty Unit) _).state.player = _
    rw [publish_player hhooks.deliver, hearlier]

/-- After an announcement every transport variable shows it, or else what it showed before. -/
theorem handle_shows (hhooks : hooks.Apart) {event : Pipeline.Event} {renderer : Renderer P X}
    (hsettled : Settled renderer) {notice : Notice}
    (hresult : (Player.handle (ε := Empty) event renderer.player).result = .ok (some notice)) :
    Settled (handle hooks event renderer).state ∧
      forall id, id < TransportVariable.lastChange.id ->
        (handle hooks event renderer).state.avTransport.get? id =
          (transportValue?
            (noticeValues (Player.handle (ε := Empty) event renderer.player).state notice) id
            .avTransport).or (renderer.avTransport.get? id) := by
  rw [handle_announced hresult]
  rcases told_apart notice (hhooks.earlier renderer.ambient)
    { renderer with player := (Player.handle (ε := Empty) event renderer.player).state } with
    ⟨earlier, hearlier⟩
  rw [hearlier]
  rcases publish_state (ε := Empty) hooks.deliver notice
    { renderer with
      player := (Player.handle (ε := Empty) event renderer.player).state
      ambient := earlier } with ⟨body, hbody, hpublish⟩
  rw [hpublish]
  have hmoved : Settled { renderer with
      player := (Player.handle (ε := Empty) event renderer.player).state
      ambient := earlier } := settled_with hsettled
  rcases update_shows hhooks.deliver hmoved (fits_noticeValues _ notice) hbody with
    ⟨hsettledAfter, _, hshows⟩
  rcases told_apart notice (hhooks.later renderer.ambient)
    (update hooks.deliver .avTransport body
      { renderer with
        player := (Player.handle (ε := Empty) event renderer.player).state
        ambient := earlier }).state with ⟨later, hlater⟩
  rw [hlater]
  exact ⟨settled_with hsettledAfter, hshows⟩

/-- A step of a renderer is a step of its player, or none. -/
theorem after_player (hhooks : hooks.Apart) (step : Step) (renderer : Renderer P X) :
    (after hooks renderer step).player = played renderer.player step := by
  cases step with
  | request request =>
      exact perform_player hhooks.deliver request renderer
  | event event =>
      exact handle_player hhooks event renderer

/-- The player of a renderer goes through a run of its own. -/
theorem run_player (hhooks : hooks.Apart) (steps : List Step) :
    forall renderer : Renderer P X,
      (run hooks renderer steps).player = renderer.player.run (steps.filterMap playerStep?) := by
  induction steps with
  | nil =>
      intro renderer
      rfl
  | cons step rest ih =>
      intro renderer
      rw [run_cons, ih, after_player hhooks, played, List.filterMap_cons]
      cases playerStep? step <;> rfl

end

end Renderer
end UpnpAv
