import UpnpAv.Proofs.Player.Guards
import UpnpAv.Proofs.Renderer.Played
import UpnpAv.Proofs.Renderer.TransportState
import UpnpAv.Text.Split

/-!
# The actions that the variables list

Whoever controls a renderer reads in one of its variables which actions make
sense next.  While playback pauses for the buffer, that variable goes on listing
the actions of a player that plays, and a pause is listed though it would fail.
That is the only time: every other listed pause is allowed, and so is playing.
-/

namespace UpnpAv

/-- The names in a list of actions. -/
def actionNames (text : String) : List String :=
  (Text.splitOn ',' text.toList).map String.ofList

namespace PlayerState

theorem pause_listed (state : PlayerState) :
    "Pause" ∈ actionNames state.transportActions <-> state = .playing := by
  cases state with
  | paused reason =>
      cases reason <;> decide
  | _ =>
      decide

end PlayerState

namespace Renderer

open Service (Assigns assigns_putAll)

variable {P X α : Type}

/-!
# Listed and allowed
-/

/-- The actions that the variables of a renderer list. -/
def listedActions (renderer : Renderer P X) : List String :=
  actionNames (renderer.avTransport.value TransportVariable.currentTransportActions.id)

/-- A command failed because the state of the player does not allow it. -/
def NotAllowed (result : Except Error α) : Prop :=
  exists command state, result = .error (.player (.notAllowed command state))

theorem Mirrors.listedActions_eq {renderer : Renderer P X} (hmirrors : Mirrors renderer) :
    renderer.listedActions =
      actionNames (unbuffered renderer.player.state).transportActions := by
  rw [listedActions, Service.value, hmirrors.shows.2]
  rfl

/-- A command is allowed when the player allows it, as long as it can be written. -/
theorem onPlayer_notAllowed {m : Act (Player P) Player.Error Unit}
    {next : Act (Renderer P X) Error Unit} {renderer : Renderer P X}
    (hnext : forall player, (next { renderer with player := player }).result = .ok ()) :
    NotAllowed ((onPlayer (m.mapError .player) >>= fun _ => next) renderer).result <->
      Player.NotAllowed (m renderer.player).result := by
  rw [Act.bind_result, onPlayer_result]
  cases hresult : (m renderer.player).result with
  | ok done =>
      show NotAllowed (next { renderer with player := (m renderer.player).state }).result <-> _
      rw [hnext]
      constructor
      · rintro ⟨command, state, hok⟩
        cases hok
      · rintro ⟨command, state, hok⟩
        cases hok
  | error e =>
      constructor
      · rintro ⟨command, state, herror⟩
        cases herror
        exact ⟨command, state, rfl⟩
      · rintro ⟨command, state, herror⟩
        cases herror
        exact ⟨command, state, rfl⟩

section

variable {deliver : Receiver P X} {renderer : Renderer P X}

theorem transport_update_answers {values : List (VariableId × String)}
    {body : Act Service Error Unit} (hsettled : Settled renderer)
    (hfits : Fits values .avTransport) (hbody : Assigns body values) :
    (update deliver .avTransport body renderer).result = .ok () := by
  rcases transport_updated hsettled hfits hbody with ⟨_, _, _, hresult, _⟩
  exact update_result .avTransport hresult

variable [Pipeline P]

theorem pause_refused (hstate : renderer.player.state ≠ .playing) :
    (pause deliver renderer).result =
      .error (.player (.notAllowed .pause renderer.player.state)) := by
  rw [pause, Act.bind_result, onPlayer_result, Player.pause_refused hstate]
  rfl

theorem pause_notAllowed (hsettled : Settled renderer) :
    NotAllowed (pause deliver renderer).result <-> renderer.player.state ≠ .playing := by
  rw [pause, onPlayer_notAllowed, Player.pause_notAllowed]
  have hfits : Fits (stateValues (.paused .user)) .avTransport :=
    (by decide : AreBelow 11 [0, 9])
  exact fun player =>
    transport_update_answers (settled_with hsettled) hfits (assigns_putAll _)

theorem play_notAllowed (hsettled : Settled renderer) :
    NotAllowed (play deliver renderer).result <->
      (forall reason, renderer.player.state ≠ .paused reason) ∧
        renderer.player.target.uri = "" := by
  rw [play, onPlayer_notAllowed, Player.play_notAllowed]
  have hfits : forall uri, Fits
      (stateValues .playing ++ [(TransportVariable.currentTrackUri.id, uri)]) .avTransport :=
    fun _ => (by decide : AreBelow 11 [0, 9, 5])
  exact fun player =>
    transport_update_answers (settled_with hsettled) (hfits _) (assigns_putAll _)

end

/-!
# The player behind listeners that make requests
-/

section

variable [Pipeline P] {hooks : Hooks P X}

/-- Listeners that do nothing to a renderer make no requests either. -/
theorem Hooks.Apart.commanding (hhooks : hooks.Apart) : hooks.Commanding := by
  have happart : forall (listener : Listener P X), (forall notice, IsApart (listener notice)) ->
      forall notice renderer,
        Commanded hooks.deliver renderer (listener notice renderer).state := by
    intro listener happart notice renderer
    rcases happart notice renderer with ⟨ambient, hstate⟩
    rw [hstate]
    exact Commanded.ambient ambient (Commanded.here renderer)
  exact ⟨hhooks.deliver,
    fun ambient listener hlistener => happart listener (hhooks.earlier ambient listener hlistener),
    fun ambient listener hlistener => happart listener (hhooks.later ambient listener hlistener)⟩

/-- What every step of a player keeps is kept by whatever happens to its renderer. -/
theorem run_keeps_player {I : Player P -> Prop}
    (hafter : forall step (player : Player P), I player -> I (player.after step))
    (hhooks : hooks.Commanding) (steps : List Step) :
    forall {renderer : Renderer P X}, I renderer.player ->
      I (run hooks renderer steps).player := by
  have hrequest : forall request (reached : Renderer P X), I reached.player ->
      I (perform hooks.deliver request reached).state.player := by
    intro request reached hplayer
    rw [perform_player hhooks.apart, played]
    cases playerStep? (.request request) with
    | none =>
        exact hplayer
    | some step =>
        exact hafter step _ hplayer
  have hevent : forall event (reached : Renderer P X), I reached.player ->
      I (handle hooks event reached).state.player := by
    intro event reached hplayer
    have hnext := hafter (.event event) _ hplayer
    rcases Player.handle_cases (ε := Empty) event reached.player with
      ⟨hresult, _⟩ | ⟨notice, hresult, _⟩
    · rw [handle_unannounced hresult]
      exact hnext
    · rw [handle_announced hresult]
      -- Before and after the variables are written, listeners may make requests.
      apply told_keeps (I := fun reached => I reached.player) notice hrequest
        (fun _ _ => id) (hhooks.later reached.ambient)
      rw [publish_player hhooks.apart]
      exact told_keeps (I := fun reached => I reached.player) notice hrequest
        (fun _ _ => id) (hhooks.earlier reached.ambient) hnext
  induction steps with
  | nil =>
      intro renderer hplayer
      exact hplayer
  | cons step rest ih =>
      intro renderer hplayer
      rw [run_cons]
      apply ih
      cases step with
      | request request =>
          exact hrequest request renderer hplayer
      | event event =>
          exact hevent event renderer hplayer

/-!
# Runs
-/

/--
After any run, a listed pause is allowed unless the player pauses for the buffer,
and listed playing is allowed as soon as there is a locator.  In a pause for the
buffer the pause is listed and refused; only a renderer that buffers gets there.
-/
theorem listed_actions_allowed_unless_buffering (hhooks : hooks.Commanding)
    {renderer : Renderer P X} (hnew : IsNew renderer) (steps : List Step) :
    let now := run hooks renderer steps
    ("Pause" ∈ now.listedActions ->
      (NotAllowed (pause hooks.deliver now).result <->
        now.player.state = .paused .buffering)) ∧
    ("Play" ∈ now.listedActions -> now.player.target.uri ≠ "" ->
      ¬ NotAllowed (play hooks.deliver now).result) ∧
    (now.player.state = .paused .buffering ->
      "Pause" ∈ now.listedActions ∧ renderer.player.buffering = true) := by
  intro now
  have hmirrors : Mirrors now := mirrors_run hhooks steps (mirrors_of_isNew hnew)
  rw [hmirrors.listedActions_eq, PlayerState.pause_listed, pause_notAllowed hmirrors.settled,
    play_notAllowed hmirrors.settled]
  refine ⟨?_, fun _ huri hguard => huri hguard.2, ?_⟩
  · intro hshown
    constructor
    · intro hstate
      by_contra hother
      rw [unbuffered_eq_self hother] at hshown
      exact hstate hshown
    · intro hbuffering hplaying
      rw [hbuffering] at hplaying
      cases hplaying
  · intro hbuffering
    rw [hbuffering]
    refine ⟨rfl, ?_⟩
    by_contra hoff
    have hready : renderer.player.state ≠ .paused .buffering := by
      rcases hnew with ⟨_, _, _, _, _, hassemble⟩
      rcases assemble_ok hassemble with ⟨_, _, _, rfl⟩
      simp [Player.around]
    have hbufferless : now.player.Bufferless :=
      run_keeps_player (fun step _ => Player.bufferless_after step) hhooks steps
        ⟨Bool.eq_false_of_not_eq_true hoff, hready⟩
    exact hbufferless.state hbuffering

end

/-- A track that runs out of buffered media. -/
def stalledTrack : List Step :=
  [ .request (.setUri "cd:1"),
    .request .play,
    .event (.buffering 40) ]

/-- Settings that ask for two seconds of buffered media. -/
def bufferedOutput : OutputSettings :=
  { OutputSettings.default with buffer := 2000000000 }

theorem exists_stalled :
    exists renderer : Renderer Pipeline.Scripted (List Delivery),
      IsNew renderer ∧
      (run keeping renderer stalledTrack).player.state = .paused .buffering := by
  rcases exists_isNew Pipeline.Scripted.willing .empty bufferedOutput rfl rfl
    ([] : List Delivery) with ⟨renderer, hnew, hplayer⟩
  refine ⟨renderer, hnew, ?_⟩
  rw [run_player keeping_apart, hplayer]
  decide

/-- While the buffer is filled, a pause is listed and refused. -/
theorem listed_pause_refused :
    exists renderer : Renderer Pipeline.Scripted (List Delivery),
      IsNew renderer ∧
      let now := run keeping renderer stalledTrack
      "Pause" ∈ now.listedActions ∧
      (pause keeping.deliver now).result =
        .error (.player (.notAllowed .pause (.paused .buffering))) := by
  rcases exists_stalled with ⟨renderer, hnew, hstate⟩
  have hmirrors : Mirrors (run keeping renderer stalledTrack) :=
    mirrors_run keeping_apart.commanding stalledTrack (mirrors_of_isNew hnew)
  refine ⟨renderer, hnew, ?_, ?_⟩
  · rw [hmirrors.listedActions_eq, hstate]
    decide
  · rw [pause_refused (by rw [hstate]; simp), hstate]

/-- The pause is not allowed because it is the buffer that playback waits for. -/
theorem listed_actions_allowed_unless_buffering_stalled :
    exists renderer : Renderer Pipeline.Scripted (List Delivery),
      IsNew renderer ∧
      let now := run keeping renderer stalledTrack
      now.player.state = .paused .buffering ∧ "Pause" ∈ now.listedActions ∧
      NotAllowed (pause keeping.deliver now).result := by
  rcases exists_stalled with ⟨renderer, hnew, hstate⟩
  rcases listed_actions_allowed_unless_buffering keeping_apart.commanding hnew stalledTrack with
    ⟨hpause, _, hbuffering⟩
  have hlisted := (hbuffering hstate).1
  exact ⟨renderer, hnew, hstate, hlisted, (hpause hlisted).mpr hstate⟩

end Renderer
end UpnpAv
