import UpnpAv.Proofs.Player.Locators
import UpnpAv.Proofs.Renderer.Played
import UpnpAv.Proofs.Renderer.TransportState

/-!
# The locators that the variables show

The variables show the locators of the player as they were last written: when a
command sets them, when playback starts, and when a queued stream takes over.
Where the player moves a locator up without a word, they stay behind.
-/

namespace UpnpAv
namespace Renderer

variable {P X : Type}

/-- The variables show what was written down about the locators. -/
structure ShowsCopies (renderer : Renderer P X) (copies : Copies) : Prop where
  settled : Settled renderer
  uri : renderer.avTransport.get? TransportVariable.avTransportUri.id = some copies.uri.value
  track : renderer.avTransport.get? TransportVariable.currentTrackUri.id =
    some copies.track.value
  next : renderer.avTransport.get? TransportVariable.nextAvTransportUri.id =
    some copies.next.value

theorem ShowsCopies.outdate {renderer : Renderer P X} {copies : Copies}
    (hshows : ShowsCopies renderer copies) : ShowsCopies renderer copies.outdate :=
  ⟨hshows.settled, hshows.uri, hshows.track, hshows.next⟩

theorem ShowsCopies.unheard {renderer : Renderer P X} {copies : Copies} {target before : Target}
    (hshows : ShowsCopies renderer copies) :
    ShowsCopies renderer (if target = before then copies else copies.outdate) := by
  by_cases hsame : target = before
  · rw [if_pos hsame]
    exact hshows
  · rw [if_neg hsame]
    exact hshows.outdate

/-- Values that are written where some copies are shown, so that others are shown afterwards. -/
structure Rewrites (values : List (VariableId × String)) (name : ServiceName)
    (copies next : Copies) : Prop where
  uri : (transportValue? values TransportVariable.avTransportUri.id name).or
    (some copies.uri.value) = some next.uri.value
  track : (transportValue? values TransportVariable.currentTrackUri.id name).or
    (some copies.track.value) = some next.track.value
  next : (transportValue? values TransportVariable.nextAvTransportUri.id name).or
    (some copies.next.value) = some next.next.value

theorem showsCopies_rewritten {renderer after : Renderer P X} {copies next : Copies}
    {values : List (VariableId × String)} {name : ServiceName} (hsettled : Settled after)
    (hvalues : forall id, id < TransportVariable.lastChange.id ->
      after.avTransport.get? id =
        (transportValue? values id name).or (renderer.avTransport.get? id))
    (hshows : ShowsCopies renderer copies) (hrewrites : Rewrites values name copies next) :
    ShowsCopies after next := by
  refine ⟨hsettled, ?_, ?_, ?_⟩
  · rw [hvalues _ (by decide), hshows.uri, hrewrites.uri]
  · rw [hvalues _ (by decide), hshows.track, hrewrites.track]
  · rw [hvalues _ (by decide), hshows.next, hrewrites.next]

/-!
# Requests
-/

/-- What is written down when a request is carried out. -/
def located (player : Player P) (copies : Copies) : Request -> Copies
  | .setUri uri => { copies with uri := .of uri, track := .of uri }
  | .setNextUri uri => { copies with next := .of uri }
  | .play => { copies with track := .of player.target.uri }
  | _ => copies

theorem Writes.rewrites {player next : Player P} {request : Request} {name : ServiceName}
    {values : List (VariableId × String)}
    (hwrites : Writes player (.request request) next name values) (copies : Copies) :
    Rewrites values name copies (located player copies request) := by
  cases hwrites with
  | setUri uri =>
      exact ⟨rfl, rfl, rfl⟩
  | setNextUri uri =>
      exact ⟨rfl, rfl, rfl⟩
  | play q timing =>
      exact ⟨rfl, rfl, rfl⟩
  | pause q hstate =>
      exact ⟨rfl, rfl, rfl⟩
  | stop q =>
      exact ⟨rfl, rfl, rfl⟩
  | setVolume percent q =>
      exact ⟨rfl, rfl, rfl⟩
  | setMute mute q =>
      exact ⟨rfl, rfl, rfl⟩
  | positionInfo q known duration position =>
      exact ⟨rfl, rfl, rfl⟩

section

variable {deliver : Receiver P X} {renderer after : Renderer P X} {copies : Copies}

theorem showsCopies_nothing (hnothing : WritesNothing renderer after)
    (hshows : ShowsCopies renderer copies) : ShowsCopies after copies := by
  rcases hnothing with ⟨q, rfl⟩
  exact ⟨settled_with hshows.settled, hshows.uri, hshows.track, hshows.next⟩

theorem showsCopies_some (hapart : forall delivery, IsApart (deliver delivery))
    {request : Request} (hsome : WritesSome deliver (.request request) renderer after)
    (hshows : ShowsCopies renderer copies) :
    ShowsCopies after (located renderer.player copies request) := by
  rcases hsome.shows hapart hshows.settled with ⟨_, _, _, hwrites, hsettled, _, hvalues⟩
  exact showsCopies_rewritten hsettled hvalues hshows (hwrites.rewrites copies)

end

section

variable [Pipeline P] {hooks : Hooks P X} {renderer : Renderer P X} {copies : Copies}

/-- What a step of the renderer makes of the copies is decided by its player. -/
def recopied (player : Player P) (copies : Copies) (step : Step) : Copies :=
  match playerStep? step with
  | none => copies
  | some step => player.recopied copies step

theorem showsCopies_perform (hhooks : hooks.Apart) (request : Request)
    (hshows : ShowsCopies renderer copies) :
    ShowsCopies (perform hooks.deliver request renderer).state
      (recopied renderer.player copies (.request request)) := by
  have hother : located renderer.player copies request = copies ->
      ShowsCopies (perform hooks.deliver request renderer).state copies := by
    intro hlocated
    rcases perform_cases request renderer with hnothing | hsome
    · exact showsCopies_nothing hnothing hshows
    · rw [← hlocated]
      exact showsCopies_some hhooks.deliver hsome hshows
  cases request with
  | setUri uri =>
      rw [perform, Act.then_pure_state]
      change ShowsCopies _ (renderer.player.recopied copies (.request (.setUri uri)))
      rcases setUri_cases uri renderer with ⟨hrefused, hnothing⟩ | ⟨haccepted, hsome⟩
      · rw [Player.recopied_setUri, Copies.answered_refused _ _ hrefused]
        exact showsCopies_nothing hnothing hshows
      · rw [Player.recopied_setUri, haccepted, Copies.answered_ok]
        exact showsCopies_some hhooks.deliver hsome hshows
  | setNextUri uri =>
      rw [perform, Act.then_pure_state]
      change ShowsCopies _ (renderer.player.recopied copies (.request (.setNextUri uri)))
      rcases setNextUri_cases uri renderer with ⟨hrefused, hnothing⟩ | ⟨haccepted, hsome⟩
      · rw [Player.recopied_setNextUri, Copies.answered_refused _ _ hrefused]
        exact showsCopies_nothing hnothing hshows
      · rw [Player.recopied_setNextUri, haccepted, Copies.answered_ok]
        exact showsCopies_some hhooks.deliver hsome hshows
  | play =>
      rw [perform, Act.then_pure_state]
      change ShowsCopies _ (renderer.player.recopied copies (.request .play))
      rcases play_cases renderer with ⟨hrefused, hnothing⟩ | ⟨haccepted, hsome⟩
      · rw [Player.recopied_play, Copies.answered_refused _ _ hrefused]
        exact showsCopies_nothing hnothing hshows
      · rw [Player.recopied_play, haccepted, Copies.answered_ok]
        exact showsCopies_some hhooks.deliver hsome hshows
  | seek target =>
      rw [recopied, playerStep?]
      cases Clock.parse? target <;> exact hother rfl
  | setVolume percent =>
      rw [recopied, playerStep?]
      by_cases hloud : 100 < percent
      · rw [if_pos hloud]
        exact hother rfl
      · rw [if_neg hloud]
        exact hother rfl
  | pause =>
      exact hother rfl
  | stop =>
      exact hother rfl
  | setMute mute =>
      exact hother rfl
  | positionInfo =>
      exact hother rfl
  | readVolume =>
      exact hother rfl
  | readMute =>
      exact hother rfl

/-!
# Events
-/

/-- What is written down when something is announced. -/
def announced (player : Player P) (copies : Copies) : Notice -> Copies
  | .transition .startedNextStream => .of player.target
  | _ => copies

theorem showsCopies_announced (hhooks : hooks.Apart) {event : Pipeline.Event} {notice : Notice}
    (hshows : ShowsCopies renderer copies)
    (hresult : (Player.handle (ε := Empty) event renderer.player).result = .ok (some notice)) :
    ShowsCopies (handle hooks event renderer).state
      (announced (renderer.player.after (.event event)) copies notice) := by
  rcases handle_shows hhooks hshows.settled hresult with ⟨hsettled, hvalues⟩
  apply showsCopies_rewritten hsettled hvalues hshows
  cases notice with
  | transition transition =>
      cases transition with
      | playbackStopped =>
          exact ⟨rfl, rfl, rfl⟩
      | startedNextStream =>
          exact ⟨rfl, rfl, rfl⟩
  | metadata tags =>
      exact ⟨rfl, rfl, rfl⟩

theorem showsCopies_handle (hhooks : hooks.Apart) (event : Pipeline.Event)
    (hshows : ShowsCopies renderer copies) :
    ShowsCopies (handle hooks event renderer).state
      (renderer.player.recopied copies (.event event)) := by
  rcases Player.handle_cases (ε := Empty) event renderer.player with
    ⟨hresult, hnext⟩ | ⟨notice, hresult, hnext⟩
  · rw [handle_unannounced hresult, Player.recopied_unheard copies (by simp [hresult])]
    apply ShowsCopies.unheard
    exact ⟨settled_with hshows.settled, hshows.uri, hshows.track, hshows.next⟩
  · have hannounced := showsCopies_announced hhooks hshows hresult
    cases notice with
    | transition transition =>
        cases transition with
        | startedNextStream =>
            rw [Player.recopied_started copies hresult]
            exact hannounced
        | playbackStopped =>
            rw [Player.recopied_unheard copies (by simp [hresult])]
            exact hannounced.unheard
    | metadata tags =>
        rw [Player.recopied_unheard copies (by simp [hresult])]
        exact hannounced.unheard

/-!
# Runs
-/

theorem showsCopies_after (hhooks : hooks.Apart) (step : Step)
    (hshows : ShowsCopies renderer copies) :
    ShowsCopies (after hooks renderer step) (recopied renderer.player copies step) := by
  cases step with
  | request request =>
      exact showsCopies_perform hhooks request hshows
  | event event =>
      exact showsCopies_handle hhooks event hshows

theorem showsCopies_run (hhooks : hooks.Apart) (steps : List Step) :
    forall {renderer : Renderer P X} {copies : Copies}, ShowsCopies renderer copies ->
      ShowsCopies (run hooks renderer steps)
        (renderer.player.copied copies (steps.filterMap playerStep?)) := by
  induction steps with
  | nil =>
      intro renderer copies hshows
      exact hshows
  | cons step rest ih =>
      intro renderer copies hshows
      have hnext := ih (showsCopies_after hhooks step hshows)
      rw [after_player hhooks, played, recopied] at hnext
      rw [run_cons, List.filterMap_cons]
      cases hstep : playerStep? step with
      | none =>
          rw [hstep] at hnext
          exact hnext
      | some step =>
          rw [hstep] at hnext
          exact hnext

theorem showsCopies_of_isNew (hnew : IsNew renderer) :
    ShowsCopies renderer (.of .none) ∧ renderer.player.target = .none := by
  have hsettled := settled_of_isNew hnew
  rcases hnew with ⟨settings, pipeline, types, output, ambient, hassemble⟩
  rcases assemble_ok hassemble with ⟨rendering, connection, _, rfl⟩
  exact ⟨⟨hsettled, rfl, rfl, rfl⟩, rfl⟩

/--
After any run the three variables show the locators as they were last written,
and these are the locators of the player unless it has moved one up without a
word since.  A stream that takes over at the end of another shows all of them.
-/
theorem locators_shown_unless_outdated (hhooks : hooks.Apart) (hnew : IsNew renderer)
    (steps : List Step) :
    let now := run hooks renderer steps
    let copies := renderer.player.copied (.of .none) (steps.filterMap playerStep?)
    (now.avTransport.get? TransportVariable.avTransportUri.id = some copies.uri.value ∧
      (copies.uri.outdated = false -> copies.uri.value = now.player.target.uri)) ∧
    (now.avTransport.get? TransportVariable.currentTrackUri.id = some copies.track.value ∧
      (copies.track.outdated = false -> copies.track.value = now.player.target.uri)) ∧
    (now.avTransport.get? TransportVariable.nextAvTransportUri.id = some copies.next.value ∧
      (copies.next.outdated = false <-> copies.next.value = now.player.target.nextUri)) ∧
    ((Player.handle (ε := Empty) .endOfStream now.player).result =
        .ok (some (.transition .startedNextStream)) ->
      let ended := after hooks now (.event .endOfStream)
      ShowsTarget ended ended.player.target) := by
  intro now copies
  rcases showsCopies_of_isNew hnew with ⟨hblank, htarget⟩
  have hshows : ShowsCopies now copies := showsCopies_run hhooks steps hblank
  have hfollow : copies.Follow now.player.target := by
    show copies.Follow (run hooks renderer steps).player.target
    rw [run_player hhooks]
    apply Player.follow_copied
    rw [htarget]
    exact Copies.follow_of .none
  refine ⟨⟨hshows.uri, hfollow.uri⟩, ⟨hshows.track, hfollow.track⟩, ⟨hshows.next, ?_⟩, ?_⟩
  · constructor
    · exact hfollow.next
    · intro hvalue
      cases houtdated : copies.next.outdated with
      | false =>
          rfl
      | true =>
          rcases hfollow.emptied houtdated with ⟨hempty, hnamed⟩
          rw [hvalue, hempty] at hnamed
          exact absurd rfl hnamed
  · intro hresult ended
    have hplayer : ended.player = now.player.after (.event .endOfStream) :=
      handle_player hhooks _ _
    have hended := showsCopies_announced hhooks hshows hresult
    rw [ShowsTarget, hplayer]
    exact ⟨hended.uri, hended.track, hended.next⟩

end

/-- A track, another one queued behind it, and the end of the first. -/
def queuedBehind : List Step :=
  [ .request (.setUri "cd:1"),
    .request .play,
    .request (.setNextUri "cd:2") ]

/-- The queued track takes over at the end, and all of its locators are shown. -/
theorem locators_shown_unless_outdated_takeover :
    exists renderer : Renderer Pipeline.Scripted (List Delivery),
      IsNew renderer ∧
      let ended := after keeping (run keeping renderer queuedBehind) (.event .endOfStream)
      ended.player.target = ⟨"cd:2", ""⟩ ∧ ShowsTarget ended ended.player.target := by
  rcases exists_isNew Pipeline.Scripted.willing .empty .default rfl rfl ([] : List Delivery) with
    ⟨renderer, hnew, hplayer⟩
  refine ⟨renderer, hnew, ?_, ?_⟩
  · rw [after_player keeping_apart, run_player keeping_apart, hplayer]
    decide
  · apply (locators_shown_unless_outdated keeping_apart hnew queuedBehind).2.2.2
    rw [run_player keeping_apart, hplayer]
    decide

/--
The queued track is handed over early and the stream ends: the player knows the
locator that it moved up, and the variables show the track before it.
-/
theorem locators_behind_after_end_of_stream :
    exists renderer : Renderer Pipeline.Scripted (List Delivery),
      IsNew renderer ∧
      let ended := after keeping
        (run keeping renderer (queuedBehind ++ [.event .aboutToFinish])) (.event .endOfStream)
      ended.player.target = ⟨"cd:2", ""⟩ ∧
      ended.avTransport.get? TransportVariable.avTransportUri.id = some "cd:1" ∧
      ended.avTransport.get? TransportVariable.currentTrackUri.id = some "cd:1" ∧
      ended.avTransport.get? TransportVariable.nextAvTransportUri.id = some "cd:2" ∧
      ¬ ShowsTarget ended ended.player.target := by
  rcases exists_isNew Pipeline.Scripted.willing .empty .default rfl rfl ([] : List Delivery) with
    ⟨renderer, hnew, hplayer⟩
  let steps := queuedBehind ++ [.event .aboutToFinish] ++ [.event .endOfStream]
  have hrun : after keeping (run keeping renderer (queuedBehind ++ [.event .aboutToFinish]))
      (.event .endOfStream) = run keeping renderer steps :=
    (run_append keeping renderer _ [.event .endOfStream]).symm
  have htarget : (run keeping renderer steps).player.target = ⟨"cd:2", ""⟩ := by
    rw [run_player keeping_apart, hplayer]
    decide
  have hshows := showsCopies_run keeping_apart steps (showsCopies_of_isNew hnew).1
  have hcopies : renderer.player.copied (.of .none) (steps.filterMap playerStep?) =
      ⟨⟨"cd:1", true⟩, ⟨"cd:1", true⟩, ⟨"cd:2", true⟩⟩ := by
    rw [hplayer]
    decide
  rw [hcopies] at hshows
  refine ⟨renderer, hnew, ?_⟩
  rw [hrun]
  refine ⟨htarget, hshows.uri, hshows.track, hshows.next, ?_⟩
  rintro ⟨huri, _, _⟩
  rw [hshows.uri, htarget] at huri
  exact absurd huri (by decide)

end Renderer
end UpnpAv
