import UpnpAv.Pipeline.Scripted
import UpnpAv.Proofs.Renderer.Played
import UpnpAv.Proofs.Renderer.Untouched

/-!
# The transport state that the variables show

While playback pauses for buffering, the variables go on showing that it plays;
at all other times they show the state of the player.  This holds whatever
requests the listeners make when the player announces something.
-/

namespace UpnpAv
namespace Renderer

variable {P X : Type}

/-!
# Shown states
-/

/-- The variables show a state of the player. -/
def Shows (renderer : Renderer P X) (state : PlayerState) : Prop :=
  renderer.avTransport.get? TransportVariable.transportState.id = some state.transportState ∧
    renderer.avTransport.get? TransportVariable.currentTransportActions.id =
      some state.transportActions

/-- The variables show the locators of a player. -/
def ShowsTarget (renderer : Renderer P X) (target : Target) : Prop :=
  renderer.avTransport.get? TransportVariable.avTransportUri.id = some target.uri ∧
    renderer.avTransport.get? TransportVariable.currentTrackUri.id = some target.uri ∧
    renderer.avTransport.get? TransportVariable.nextAvTransportUri.id = some target.nextUri

/-- The state that stands behind a pause for buffering. -/
def unbuffered : PlayerState -> PlayerState
  | .paused .buffering => .playing
  | state => state

theorem unbuffered_eq_self {state : PlayerState} (hstate : state ≠ .paused .buffering) :
    unbuffered state = state := by
  cases state with
  | paused reason =>
      cases reason with
      | user =>
          rfl
      | buffering =>
          exact absurd rfl hstate
  | stopped =>
      rfl
  | ready =>
      rfl
  | playing =>
      rfl

/-- The variables show the state of the player, or the one behind a pause for buffering. -/
structure Mirrors (renderer : Renderer P X) : Prop where
  settled : Settled renderer
  shows : Shows renderer (unbuffered renderer.player.state)

/-- Whatever a step writes, it writes the new state, or the state did not change. -/
theorem Writes.state {player next : Player P} {step : Step} {name : ServiceName}
    {values : List (VariableId × String)} (hwrites : Writes player step next name values) :
    (transportValue? values TransportVariable.transportState.id name = none ∧
      transportValue? values TransportVariable.currentTransportActions.id name = none ∧
      next.state = player.state) ∨
    (transportValue? values TransportVariable.transportState.id name =
        some next.state.transportState ∧
      transportValue? values TransportVariable.currentTransportActions.id name =
        some next.state.transportActions ∧
      next.state ≠ .paused .buffering) := by
  cases hwrites with
  | setUri uri =>
      exact Or.inl ⟨rfl, rfl, rfl⟩
  | setNextUri uri =>
      exact Or.inl ⟨rfl, rfl, rfl⟩
  | play q timing =>
      exact Or.inr ⟨rfl, rfl, by simp⟩
  | pause q hstate =>
      exact Or.inr ⟨rfl, rfl, by simp⟩
  | stop q =>
      exact Or.inr ⟨rfl, rfl, by simp⟩
  | setVolume percent q =>
      exact Or.inl ⟨rfl, rfl, rfl⟩
  | setMute mute q =>
      exact Or.inl ⟨rfl, rfl, rfl⟩
  | positionInfo q known duration position =>
      exact Or.inl ⟨rfl, rfl, rfl⟩
  | notice hnext =>
      cases hnext with
      | stopped q =>
          exact Or.inr ⟨rfl, rfl, by simp⟩
      | started q =>
          exact Or.inr ⟨rfl, rfl, by simp⟩
      | described tags =>
          exact Or.inl ⟨rfl, rfl, rfl⟩

/-!
# Requests
-/

section

variable {deliver : Receiver P X} {renderer : Renderer P X}

theorem mirrors_writes (hapart : forall delivery, IsApart (deliver delivery)) {step : Step}
    {after : Renderer P X} (hsome : WritesSome deliver step renderer after)
    (hmirrors : Mirrors renderer) : Mirrors after := by
  rcases hsome.shows hapart hmirrors.settled with
    ⟨player, name, values, hwrites, hsettled, hplayer, hshows⟩
  refine ⟨hsettled, ?_⟩
  rw [Shows, hplayer, hshows _ (by decide), hshows _ (by decide)]
  rcases hwrites.state with ⟨hstate, hactions, hsame⟩ | ⟨hstate, hactions, hother⟩
  · rw [hstate, hactions, hsame]
    exact hmirrors.shows
  · rw [hstate, hactions, unbuffered_eq_self hother]
    exact ⟨rfl, rfl⟩

theorem mirrors_withAmbient (ambient : X) (hmirrors : Mirrors renderer) :
    Mirrors { renderer with ambient := ambient } :=
  ⟨settled_with hmirrors.settled, hmirrors.shows⟩

theorem mirrors_perform [Pipeline P] (hapart : forall delivery, IsApart (deliver delivery))
    (request : Request) (hmirrors : Mirrors renderer) :
    Mirrors (perform deliver request renderer).state := by
  rcases perform_cases request renderer with ⟨q, hnothing⟩ | hsome
  · rw [hnothing]
    exact ⟨settled_with hmirrors.settled, hmirrors.shows⟩
  · exact mirrors_writes hapart hsome hmirrors

end

/-!
# Announcements
-/

section

variable {deliver : Receiver P X} {renderer : Renderer P X}

/-- A transition is written as the state in which the player is by now. -/
theorem publish_transition (hapart : forall delivery, IsApart (deliver delivery))
    (transition : Transition) (hsettled : Settled renderer) :
    Settled ((publish deliver (.transition transition) : Act _ Empty Unit) renderer).state ∧
      ((publish deliver (.transition transition) : Act _ Empty Unit) renderer).state.player =
        renderer.player ∧
      Shows ((publish deliver (.transition transition) : Act _ Empty Unit) renderer).state
        renderer.player.state ∧
      (transition = .startedNextStream ->
        ShowsTarget ((publish deliver (.transition transition) : Act _ Empty Unit) renderer).state
          renderer.player.target) := by
  rcases publish_state (ε := Empty) deliver (.transition transition) renderer with
    ⟨body, hbody, hstate⟩
  rw [hstate]
  rcases update_shows hapart hsettled (fits_noticeValues renderer.player _) hbody with
    ⟨hsettledAfter, hplayer, hshows⟩
  refine ⟨hsettledAfter, hplayer, ?_, ?_⟩
  · rw [Shows, hshows _ (by decide), hshows _ (by decide)]
    cases transition <;> exact ⟨rfl, rfl⟩
  · rintro rfl
    rw [ShowsTarget, hshows _ (by decide), hshows _ (by decide), hshows _ (by decide)]
    exact ⟨rfl, rfl, rfl⟩

/-- New tags leave the shown state alone. -/
theorem publish_metadata (hapart : forall delivery, IsApart (deliver delivery))
    (tags : Metadata) (hmirrors : Mirrors renderer) :
    Mirrors ((publish deliver (.metadata tags) : Act _ Empty Unit) renderer).state := by
  rcases publish_state (ε := Empty) deliver (.metadata tags) renderer with ⟨body, hbody, hstate⟩
  rw [hstate]
  rcases update_shows hapart hmirrors.settled (fits_noticeValues renderer.player _) hbody with
    ⟨hsettledAfter, hplayer, hshows⟩
  refine ⟨hsettledAfter, ?_⟩
  rw [Shows, hplayer, hshows _ (by decide), hshows _ (by decide)]
  exact hmirrors.shows

/-- Buffering changes the state of the player, but not the one that is shown. -/
theorem unbuffered_unannounced {player next : Player P} (hnext : player.Unannounced next) :
    unbuffered next.state = unbuffered player.state := by
  cases hnext with
  | kept q =>
      rfl
  | queued q timing =>
      rfl
  | paused q hstate =>
      rw [hstate]
      rfl
  | resumed q hstate =>
      rw [hstate]
      rfl

theorem state_of_announced_transition {player next : Player P} {transition : Transition}
    (hnext : player.Announced (.transition transition) next) :
    next.state ≠ .paused .buffering := by
  cases hnext <;> simp

theorem state_of_announced_metadata {player next : Player P} {tags : Metadata}
    (hnext : player.Announced (.metadata tags) next) : next.state = player.state := by
  cases hnext
  rfl

end

/-!
# Listeners that make requests
-/

section

variable [Pipeline P]

/--
The renderers to which requests lead.  In between, whoever makes them does what
it likes with its own state.
-/
inductive Commanded (deliver : Receiver P X) : Renderer P X -> Renderer P X -> Prop where
  | here (renderer : Renderer P X) : Commanded deliver renderer renderer
  | request {renderer next : Renderer P X} (request : Request) :
      Commanded deliver renderer next ->
      Commanded deliver renderer (perform deliver request next).state
  | ambient {renderer next : Renderer P X} (ambient : X) :
      Commanded deliver renderer next ->
      Commanded deliver renderer { next with ambient := ambient }

/-- Listeners that do nothing to a renderer but make requests, and a receiver that stays apart. -/
structure Hooks.Commanding (hooks : Hooks P X) : Prop where
  apart : forall delivery, IsApart (hooks.deliver delivery)
  earlier : forall ambient listener, listener ∈ hooks.earlier ambient ->
    forall notice renderer, Commanded hooks.deliver renderer (listener notice renderer).state
  later : forall ambient listener, listener ∈ hooks.later ambient ->
    forall notice renderer, Commanded hooks.deliver renderer (listener notice renderer).state

variable {deliver : Receiver P X} {hooks : Hooks P X} {renderer next : Renderer P X}

/-- What every single request keeps is kept by any number of them. -/
theorem Commanded.keeps {I : Renderer P X -> Prop}
    (hrequest : forall request renderer, I renderer -> I (perform deliver request renderer).state)
    (hambient : forall ambient renderer, I renderer -> I { renderer with ambient := ambient })
    (hcommanded : Commanded deliver renderer next) : I renderer -> I next := by
  induction hcommanded with
  | here =>
      exact id
  | request request _ ih =>
      intro hrenderer
      exact hrequest request _ (ih hrenderer)
  | ambient ambient _ ih =>
      intro hrenderer
      exact hambient ambient _ (ih hrenderer)

theorem told_keeps {I : Renderer P X -> Prop} {listeners : List (Listener P X)}
    (notice : Notice)
    (hrequest : forall request renderer, I renderer -> I (perform deliver request renderer).state)
    (hambient : forall ambient renderer, I renderer -> I { renderer with ambient := ambient })
    (hlisteners : forall listener, listener ∈ listeners ->
      forall notice renderer, Commanded deliver renderer (listener notice renderer).state)
    (hrenderer : I renderer) : I (told listeners notice renderer) := by
  apply Act.each_keeps _ renderer hrenderer
  intro listener hlistener reached hreached
  exact (hlisteners listener hlistener notice reached).keeps hrequest hambient hreached

/-- A renderer whose player does not pause for buffering, whatever its variables show. -/
structure Unbuffered (renderer : Renderer P X) : Prop where
  settled : Settled renderer
  state : renderer.player.state ≠ .paused .buffering

theorem unbuffered_perform (hapart : forall delivery, IsApart (deliver delivery))
    (request : Request) (hunbuffered : Unbuffered renderer) :
    Unbuffered (perform deliver request renderer).state := by
  refine ⟨settled_perform hapart request hunbuffered.settled, ?_⟩
  rcases perform_cases request renderer with ⟨q, hnothing⟩ | hsome
  · rw [hnothing]
    exact hunbuffered.state
  · rcases hsome.shows hapart hunbuffered.settled with ⟨_, _, _, hwrites, _, hplayer, _⟩
    rw [hplayer]
    rcases hwrites.state with ⟨_, _, hsame⟩ | ⟨_, _, hother⟩
    · rw [hsame]
      exact hunbuffered.state
    · exact hother

/-!
# Runs
-/

theorem mirrors_handle (hhooks : hooks.Commanding) (event : Pipeline.Event)
    (hmirrors : Mirrors renderer) : Mirrors (handle hooks event renderer).state := by
  have hrequest : forall request (reached : Renderer P X), Mirrors reached ->
      Mirrors (perform hooks.deliver request reached).state :=
    fun request _ => mirrors_perform hhooks.apart request
  have hambient : forall ambient (reached : Renderer P X), Mirrors reached ->
      Mirrors { reached with ambient := ambient } :=
    fun ambient _ => mirrors_withAmbient ambient
  rcases Player.handle_cases (ε := Empty) event renderer.player with
    ⟨hresult, hnext⟩ | ⟨notice, hresult, hnext⟩
  · rw [handle_unannounced hresult]
    refine ⟨settled_with hmirrors.settled, ?_⟩
    rw [unbuffered_unannounced hnext]
    exact hmirrors.shows
  · rw [handle_announced hresult]
    apply told_keeps notice hrequest hambient (hhooks.later renderer.ambient)
    cases notice with
    | transition transition =>
        have hfresh : Unbuffered { renderer with
            player := (Player.handle (ε := Empty) event renderer.player).state } :=
          ⟨settled_with hmirrors.settled, state_of_announced_transition hnext⟩
        have hleft := told_keeps (.transition transition)
          (fun request _ => unbuffered_perform hhooks.apart request)
          (fun ambient _ hunbuffered =>
            ⟨settled_with hunbuffered.settled, hunbuffered.state⟩)
          (hhooks.earlier renderer.ambient) hfresh
        rcases publish_transition hhooks.apart transition hleft.settled with
          ⟨hsettled, hplayer, hshows, _⟩
        refine ⟨hsettled, ?_⟩
        rw [hplayer, unbuffered_eq_self hleft.state]
        exact hshows
    | metadata tags =>
        apply publish_metadata hhooks.apart
        apply told_keeps _ hrequest hambient (hhooks.earlier renderer.ambient)
        refine ⟨settled_with hmirrors.settled, ?_⟩
        rw [state_of_announced_metadata hnext]
        exact hmirrors.shows

theorem mirrors_run (hhooks : hooks.Commanding) (steps : List Step) :
    forall {renderer : Renderer P X}, Mirrors renderer -> Mirrors (run hooks renderer steps) := by
  induction steps with
  | nil =>
      intro renderer hmirrors
      exact hmirrors
  | cons step rest ih =>
      intro renderer hmirrors
      rw [run_cons]
      apply ih
      cases step with
      | request request =>
          exact mirrors_perform hhooks.apart request hmirrors
      | event event =>
          exact mirrors_handle hhooks event hmirrors

theorem mirrors_of_isNew (hnew : IsNew renderer) : Mirrors renderer := by
  have hsettled := settled_of_isNew hnew
  rcases hnew with ⟨settings, pipeline, types, output, ambient, hassemble⟩
  rcases assemble_ok hassemble with ⟨rendering, connection, _, rfl⟩
  exact ⟨hsettled, rfl, rfl⟩

/-- The renderer when its own listener is told a transition, after the earlier ones. -/
def onTransition (hooks : Hooks P X) (event : Pipeline.Event) (transition : Transition)
    (renderer : Renderer P X) : Renderer P X :=
  told (hooks.earlier renderer.ambient) (.transition transition)
    { renderer with player := (Player.handle (ε := Empty) event renderer.player).state }

theorem settled_onTransition (hhooks : hooks.Commanding) (event : Pipeline.Event)
    (transition : Transition) (hsettled : Settled renderer) :
    Settled (onTransition hooks event transition renderer) := by
  exact told_keeps _ (fun request _ => settled_perform hhooks.apart request)
    (fun _ _ => settled_with) (hhooks.earlier renderer.ambient)
    (settled_with hsettled)

/--
After any run the variables show the state of the player, unless it pauses for
buffering.  A transition is written as the state and the locators that the
earlier listeners left, whatever they asked for, and nothing else is changed with
it: where playback stops, the locators stay.  No request changes a variable that it
is not written into.
-/
theorem transport_state_mirrored (hhooks : hooks.Commanding) (hnew : IsNew renderer)
    (steps : List Step) :
    let now := run hooks renderer steps
    (now.player.state ≠ .paused .buffering -> Shows now now.player.state) ∧
    (forall request,
      KeepsOthers request.touched now (perform hooks.deliver request now).state) ∧
    forall event transition,
      (Player.handle (ε := Empty) event now.player).result =
        .ok (some (.transition transition)) ->
      let left := onTransition hooks event transition now
      let written :=
        ((publish hooks.deliver (.transition transition) : Act _ Empty Unit) left).state
      written.player = left.player ∧
      Shows written left.player.state ∧
      (transition = .startedNextStream -> ShowsTarget written left.player.target) ∧
      KeepsOthers (noticeTouched (.transition transition)) left written ∧
      written = { left with avTransport := written.avTransport, ambient := written.ambient } ∧
      (handle hooks event now).state =
        told (hooks.later now.ambient) (.transition transition) written := by
  intro now
  have hmirrors : Mirrors now := mirrors_run hhooks steps (mirrors_of_isNew hnew)
  refine ⟨?_, fun request => perform_keeps hhooks.apart request hmirrors.settled, ?_⟩
  · intro hstate
    have hshows := hmirrors.shows
    rw [unbuffered_eq_self hstate] at hshows
    exact hshows
  · intro event transition hresult left written
    have hleft := settled_onTransition hhooks event transition hmirrors.settled
    rcases publish_transition hhooks.apart transition hleft with ⟨_, hplayer, hshows, htarget⟩
    rcases publish_keeps hhooks.apart (.transition transition) hleft with ⟨hkept, hrest⟩
    exact ⟨hplayer, hshows, htarget, hkept, hrest, handle_announced hresult⟩

end

/-- Somebody who stops whatever starts by itself, before the variables are written. -/
def stopping [Pipeline P] : Hooks P Unit where
  deliver _ := pure ()
  earlier _ :=
    [fun
      | .transition .startedNextStream => do
          let _ ← Act.attempt (perform (fun _ => pure ()) .stop)
      | _ => pure ()]
  later _ := []

theorem stopping_commanding [Pipeline P] : (stopping : Hooks P Unit).Commanding := by
  refine ⟨fun _ renderer => ⟨renderer.ambient, rfl⟩, ?_, ?_⟩
  · intro ambient listener hlistener notice renderer
    rw [List.mem_singleton.mp hlistener]
    cases notice with
    | transition transition =>
        cases transition with
        | playbackStopped =>
            exact Commanded.here renderer
        | startedNextStream =>
            exact Commanded.request .stop (Commanded.here renderer)
    | metadata tags =>
        exact Commanded.here renderer
  · intro ambient listener hlistener
    cases hlistener

/-- A track plays, and another one is queued. -/
def queuedTrack : List Step :=
  [ .request (.setUri "cd:1"),
    .request .play,
    .request (.setNextUri "cd:2") ]

theorem queuedTrack_player {renderer : Renderer Pipeline.Scripted Unit} :
    (run stopping renderer queuedTrack).player =
      renderer.player.run (queuedTrack.filterMap playerStep?) := by
  have hapart := (stopping_commanding (P := Pipeline.Scripted)).apart
  show (perform stopping.deliver _ (perform stopping.deliver _
    (perform stopping.deliver _ renderer).state).state).state.player = _
  rw [perform_player hapart, perform_player hapart, perform_player hapart]
  rfl

/--
The queued stream takes over and is stopped at once, before its start is written.
When a stream ends once more, the locators are shown on.
-/
theorem transport_state_mirrored_stopping :
    exists renderer : Renderer Pipeline.Scripted Unit,
      IsNew renderer ∧
      let now := run stopping renderer (queuedTrack ++ [.event .endOfStream])
      let ended := after stopping now (.event .endOfStream)
      (now.player.state ≠ .paused .buffering -> Shows now now.player.state) ∧
      now.player.state = .stopped ∧ Shows now .stopped ∧
      ShowsTarget now ⟨"cd:2", ""⟩ ∧ ShowsTarget ended ⟨"cd:2", ""⟩ := by
  rcases exists_isNew Pipeline.Scripted.willing .empty .default rfl rfl () with
    ⟨renderer, hnew, haround⟩
  have hcommanding := stopping_commanding (P := Pipeline.Scripted)
  let before := run stopping renderer queuedTrack
  let now := run stopping renderer (queuedTrack ++ [.event .endOfStream])
  let left := onTransition stopping .endOfStream .startedNextStream before
  have hbefore : before.player =
      (Player.around Pipeline.Scripted.willing .empty .default).run
        (queuedTrack.filterMap playerStep?) := by
    rw [show before.player = _ from queuedTrack_player, haround]
  have hleft : left.player =
      (((Player.around Pipeline.Scripted.willing .empty .default).run
        (queuedTrack.filterMap playerStep?)).after (.event .endOfStream)).after
          (.request .stop) := by
    show (perform stopping.deliver .stop { before with
      player := (Player.handle (ε := Empty) .endOfStream before.player).state }).state.player = _
    rw [perform_player hcommanding.apart, hbefore]
    rfl
  have hstate : left.player.state = .stopped := by
    rw [hleft]
    rfl
  have htarget : left.player.target = ⟨"cd:2", ""⟩ := by
    rw [hleft]
    rfl
  rcases (transport_state_mirrored hcommanding hnew queuedTrack).2.2 .endOfStream
    .startedNextStream (by rw [hbefore]; rfl) with
    ⟨hsame, hwritten, hlocators, _, _, hhandled⟩
  -- Nobody is called any more when the variables are written.
  have hnow : now = ((publish stopping.deliver (.transition .startedNextStream) :
      Act _ Empty Unit) left).state := hhandled
  have hplayer : now.player = left.player := by
    rw [hnow]
    exact hsame
  have hshows : Shows now .stopped := by
    rw [hnow, ← hstate]
    exact hwritten
  have hshown : ShowsTarget now ⟨"cd:2", ""⟩ := by
    rw [hnow, ← htarget]
    exact hlocators rfl
  rcases transport_state_mirrored hcommanding hnew (queuedTrack ++ [.event .endOfStream]) with
    ⟨hmirrored, _, hends⟩
  rcases hends .endOfStream .playbackStopped (by
    rw [show (run stopping renderer (queuedTrack ++ [.event .endOfStream])).player = _
      from hplayer, hleft]
    rfl) with ⟨_, _, _, hothers, _, hended⟩
  have hkept : KeepsOthers (noticeTouched (.transition .playbackStopped)) now
      (after stopping now (.event .endOfStream)) := by
    rw [show after stopping now (.event .endOfStream) = _ from hended]
    exact hothers
  rcases hshown with ⟨huri, htrack, hnext⟩
  refine ⟨renderer, hnew, hmirrored, hplayer ▸ hstate, hshows, ⟨huri, htrack, hnext⟩, ?_, ?_, ?_⟩
  · exact (hkept .avTransportUri (by decide) (by decide)).trans huri
  · exact (hkept .currentTrackUri (by decide) (by decide)).trans htrack
  · exact (hkept .nextAvTransportUri (by decide) (by decide)).trans hnext

end Renderer
end UpnpAv
