import UpnpAv.Pipeline.Scripted
import UpnpAv.Proofs.Player.Tags
import UpnpAv.Proofs.Renderer.Played
import UpnpAv.Proofs.Track.Description

/-!
# The track description that the variables show

The variables show the tags that the player knows, except after a queued stream
has taken over by itself: then the description is blank, while the player still
knows the tags of the stream before.
-/

namespace UpnpAv

namespace Renderer

variable {P X : Type}

/-- The description that the variables show. -/
def description? (renderer : Renderer P X) : Option String :=
  renderer.avTransport.get? TransportVariable.currentTrackMetaData.id

/-- What is to be shown about the tags that a player knows. -/
def descriptionOf (outdated : Bool) (tags : Metadata) : String :=
  if outdated then "" else Description.encode tags

/-- The variables show the known tags, or nothing when those are outdated. -/
structure Describes (renderer : Renderer P X) (outdated : Bool) : Prop where
  settled : Settled renderer
  shows : renderer.description? = some (descriptionOf outdated renderer.player.metadata)

/-!
# Requests
-/

/-- Only a new locator makes a request write a description. -/
theorem Writes.keepsTags {player next : Player P} {request : Request} {name : ServiceName}
    {values : List (VariableId × String)}
    (hwrites : Writes player (.request request) next name values)
    (hother : forall uri, request ≠ .setUri uri) :
    transportValue? values TransportVariable.currentTrackMetaData.id name = none ∧
      next.metadata = player.metadata := by
  cases hwrites with
  | setUri uri =>
      exact absurd rfl (hother uri)
  | setNextUri uri =>
      exact ⟨rfl, rfl⟩
  | play q timing =>
      exact ⟨rfl, rfl⟩
  | pause q hstate =>
      exact ⟨rfl, rfl⟩
  | stop q =>
      exact ⟨rfl, rfl⟩
  | setVolume percent q =>
      exact ⟨rfl, rfl⟩
  | setMute mute q =>
      exact ⟨rfl, rfl⟩
  | positionInfo q known duration position =>
      exact ⟨rfl, rfl⟩

section

variable {deliver : Receiver P X} {renderer after : Renderer P X} {outdated : Bool}

theorem describes_nothing (hnothing : WritesNothing renderer after)
    (hdescribes : Describes renderer outdated) : Describes after outdated := by
  rcases hnothing with ⟨q, rfl⟩
  exact ⟨settled_with hdescribes.settled, hdescribes.shows⟩

theorem describes_writes (hapart : forall delivery, IsApart (deliver delivery))
    {request : Request} (hother : forall uri, request ≠ .setUri uri)
    (hsome : WritesSome deliver (.request request) renderer after)
    (hdescribes : Describes renderer outdated) : Describes after outdated := by
  rcases hsome.shows hapart hdescribes.settled with
    ⟨player, name, values, hwrites, hsettled, hplayer, hshows⟩
  rcases hwrites.keepsTags hother with ⟨hvalue, htags⟩
  refine ⟨hsettled, ?_⟩
  rw [hplayer, htags, description?, hshows _ (by decide), hvalue]
  exact hdescribes.shows

/-- A new locator clears the tags and their description. -/
theorem cleared_setUri (hapart : forall delivery, IsApart (deliver delivery)) {uri : String}
    (hsome : WritesSome deliver (.request (.setUri uri)) renderer after)
    (hsettled : Settled renderer) :
    Settled after ∧ after.player.metadata = .empty ∧ after.description? = some "" := by
  rcases hsome.shows hapart hsettled with
    ⟨player, name, values, hwrites, hsettledAfter, hplayer, hshows⟩
  refine ⟨hsettledAfter, ?_, ?_⟩
  · rw [hplayer]
    cases hwrites
    rfl
  · rw [description?, hshows _ (by decide)]
    cases hwrites
    rfl

end

/-!
# Events
-/

section

variable [Pipeline P] {hooks : Hooks P X} {renderer : Renderer P X} {event : Pipeline.Event}

/-- What is announced is shown, if it says anything about the description. -/
theorem handle_describes (hhooks : hooks.Apart) (hsettled : Settled renderer) {notice : Notice}
    (hresult : (Player.handle (ε := Empty) event renderer.player).result = .ok (some notice)) :
    Settled (handle hooks event renderer).state ∧
      (handle hooks event renderer).state.description? =
        (transportValue?
          (noticeValues (Player.handle (ε := Empty) event renderer.player).state notice)
          TransportVariable.currentTrackMetaData.id .avTransport).or renderer.description? := by
  rcases handle_shows hhooks hsettled hresult with ⟨hsettledAfter, hshows⟩
  exact ⟨hsettledAfter, hshows _ (by decide)⟩

theorem describes_handle (hhooks : hooks.Apart) {outdated : Bool}
    (hdescribes : Describes renderer outdated) :
    Describes (handle hooks event renderer).state
      ((renderer.player.outdates? (.event event)).getD outdated) := by
  have hplayer := handle_player hhooks event renderer
  rcases Player.handle_cases (ε := Empty) event renderer.player with
    ⟨hresult, hnext⟩ | ⟨notice, hresult, hnext⟩
  · rw [handle_unannounced hresult, Player.outdates?_unannounced hresult]
    refine ⟨settled_with hdescribes.settled, ?_⟩
    show renderer.description? = some (descriptionOf outdated
      (Player.handle (ε := Empty) event renderer.player).state.metadata)
    rw [Player.metadata_of_unannounced hnext]
    exact hdescribes.shows
  · rcases handle_describes hhooks hdescribes.settled hresult with ⟨hsettled, hshows⟩
    refine ⟨hsettled, ?_⟩
    rw [hplayer, hshows, Player.outdates?, hresult]
    generalize (Player.handle (ε := Empty) event renderer.player).state = next at hnext
    cases hnext with
    | stopped q =>
        exact hdescribes.shows
    | started q =>
        rfl
    | described tags =>
        rfl

/-!
# Runs
-/

theorem describes_setUri (hhooks : hooks.Apart) (uri : String) {outdated : Bool}
    (hdescribes : Describes renderer outdated) :
    Describes (setUri hooks.deliver uri renderer).state
      ((renderer.player.outdates? (.request (.setUri uri))).getD outdated) := by
  rcases setUri_cases uri renderer with ⟨hrefused, hnothing⟩ | ⟨haccepted, hsome⟩
  · have hundecided : renderer.player.outdates? (.request (.setUri uri)) = none := by
      rw [Player.outdates?]
      cases hresult : (Player.setUri uri renderer.player).result with
      | ok done =>
          exact absurd hresult hrefused
      | error e =>
          rfl
    rw [hundecided]
    exact describes_nothing hnothing hdescribes
  · rcases cleared_setUri hhooks.deliver hsome hdescribes.settled with
      ⟨hsettled, htags, hshows⟩
    refine ⟨hsettled, ?_⟩
    rw [Player.outdates?, haccepted, hshows, htags]
    exact congrArg some (Description.encode_eq_empty.mpr rfl).symm

/-- Nothing but a new locator makes a request decide about the tags. -/
theorem undecided {request : Request} (hother : forall uri, request ≠ .setUri uri)
    (player : Player P) : (playerStep? (.request request)).bind player.outdates? = none := by
  cases request with
  | setUri uri =>
      exact absurd rfl (hother uri)
  | setNextUri uri =>
      rfl
  | play =>
      rfl
  | pause =>
      rfl
  | stop =>
      rfl
  | seek target =>
      rw [playerStep?]
      cases Clock.parse? target <;> rfl
  | setVolume percent =>
      rw [playerStep?]
      by_cases hloud : 100 < percent
      · rw [if_pos hloud]
        rfl
      · rw [if_neg hloud]
        rfl
  | setMute mute =>
      rfl
  | positionInfo =>
      rfl
  | readVolume =>
      rfl
  | readMute =>
      rfl

theorem describes_perform (hhooks : hooks.Apart) (request : Request) {outdated : Bool}
    (hdescribes : Describes renderer outdated) :
    Describes (perform hooks.deliver request renderer).state
      (((playerStep? (.request request)).bind renderer.player.outdates?).getD outdated) := by
  by_cases hsetUri : exists uri, request = .setUri uri
  · rcases hsetUri with ⟨uri, rfl⟩
    rw [perform, Act.then_pure_state]
    exact describes_setUri hhooks uri hdescribes
  · have hother : forall uri, request ≠ .setUri uri :=
      fun uri hrequest => hsetUri ⟨uri, hrequest⟩
    rw [undecided hother]
    rcases perform_cases request renderer with hnothing | hsome
    · exact describes_nothing hnothing hdescribes
    · exact describes_writes hhooks.deliver hother hsome hdescribes

/-- What a step decides about the tags it also decides about their description. -/
theorem describes_after (hhooks : hooks.Apart) (step : Step) {outdated : Bool}
    (hdescribes : Describes renderer outdated) :
    Describes (after hooks renderer step)
      (((playerStep? step).bind renderer.player.outdates?).getD outdated) := by
  cases step with
  | request request =>
      exact describes_perform hhooks request hdescribes
  | event event =>
      exact describes_handle hhooks hdescribes

theorem describes_run (hhooks : hooks.Apart) (steps : List Step) :
    forall {renderer : Renderer P X} {outdated : Bool}, Describes renderer outdated ->
      Describes (run hooks renderer steps)
        (renderer.player.outdated outdated (steps.filterMap playerStep?)) := by
  induction steps with
  | nil =>
      intro renderer outdated hdescribes
      exact hdescribes
  | cons step rest ih =>
      intro renderer outdated hdescribes
      have hnext := ih (describes_after hhooks step hdescribes)
      rw [after_player hhooks, played] at hnext
      rw [run_cons, List.filterMap_cons]
      cases hstep : playerStep? step with
      | none =>
          rw [hstep] at hnext
          exact hnext
      | some step =>
          rw [hstep] at hnext
          exact hnext

theorem describes_of_isNew (hnew : IsNew renderer) : Describes renderer false := by
  have hsettled := settled_of_isNew hnew
  rcases hnew with ⟨settings, pipeline, types, output, ambient, hassemble⟩
  rcases assemble_ok hassemble with ⟨rendering, connection, _, rfl⟩
  refine ⟨hsettled, ?_⟩
  exact congrArg some (Description.encode_eq_empty.mpr rfl).symm

/-- A batch that says nothing new changes neither the player nor the variables. -/
theorem after_covered {batch : List (String × String)}
    (hcovers : renderer.player.metadata.Covers batch) :
    after hooks renderer (.event (.tags batch)) = renderer := by
  have hkept := Metadata.merge_unreplaced.mpr hcovers
  have hresult : (Player.handle (ε := Empty) (.tags batch) renderer.player).result = .ok none := by
    rw [Player.handle_tags_result, hkept]
    rfl
  show (handle hooks (.tags batch) renderer).state = renderer
  rw [handle_unannounced hresult, Player.handle_tags_state, Metadata.merge_eq_self hkept]

/-- A batch that says something new is shown together with what was known. -/
theorem after_uncovered (hhooks : hooks.Apart) {batch : List (String × String)}
    (hsettled : Settled renderer) (hcovers : ¬ renderer.player.metadata.Covers batch) :
    (after hooks renderer (.event (.tags batch))).description? =
      some (Description.encode (renderer.player.metadata.merge batch).1) := by
  have hreplaced : (renderer.player.metadata.merge batch).2 = true := by
    cases hmerged : (renderer.player.metadata.merge batch).2 with
    | true =>
        rfl
    | false =>
        exact absurd (Metadata.merge_unreplaced.mp hmerged) hcovers
  have hresult : (Player.handle (ε := Empty) (.tags batch) renderer.player).result =
      .ok (some (.metadata (renderer.player.metadata.merge batch).1)) := by
    rw [Player.handle_tags_result, hreplaced]
    rfl
  exact (handle_describes hhooks hsettled hresult).2

/-- A queued stream that takes over blanks the description, and the tags stay known. -/
theorem after_started (hhooks : hooks.Apart) (hsettled : Settled renderer)
    (hresult : (Player.handle (ε := Empty) event renderer.player).result =
      .ok (some (.transition .startedNextStream))) :
    (after hooks renderer (.event event)).player.metadata = renderer.player.metadata ∧
      (after hooks renderer (.event event)).description? = some "" := by
  constructor
  · show (handle hooks event renderer).state.player.metadata = _
    rw [handle_player hhooks]
    rcases Player.handle_cases (ε := Empty) event renderer.player with
      ⟨hnone, _⟩ | ⟨notice, hsome, hnext⟩
    · rw [hresult] at hnone
      cases hnone
    · rw [hresult] at hsome
      cases hsome
      generalize (Player.handle (ε := Empty) event renderer.player).state = next at hnext
      cases hnext
      rfl
  · exact (handle_describes hhooks hsettled hresult).2

theorem after_setUri (hhooks : hooks.Apart) (hsettled : Settled renderer) {uri : String}
    (hresult : (Player.setUri uri renderer.player).result = .ok ()) :
    (after hooks renderer (.request (.setUri uri))).player.metadata = .empty ∧
      (after hooks renderer (.request (.setUri uri))).description? = some "" := by
  rw [show after hooks renderer (.request (.setUri uri)) =
    (setUri hooks.deliver uri renderer).state from Act.then_pure_state _ _ _]
  rcases setUri_cases uri renderer with ⟨hrefused, _⟩ | ⟨_, hsome⟩
  · exact absurd hresult hrefused
  · exact (cleared_setUri hhooks.deliver hsome hsettled).2

/--
After any run the variables describe the tags that the player knows, unless
these are outdated; then the description is blank.  A new locator clears both.
A queued stream that takes over clears only the description, and a batch of it
that repeats the known tags goes unnoticed.
-/
theorem tags_described_unless_outdated (hhooks : hooks.Apart) (hnew : IsNew renderer)
    (steps : List Step) :
    let now := run hooks renderer steps
    let outdated := renderer.player.outdated false (steps.filterMap playerStep?)
    now.description? = some (if outdated then "" else Description.encode now.player.metadata) ∧
    (now.description? = some (Description.encode now.player.metadata) <->
      (outdated = true -> now.player.metadata = .empty)) ∧
    (forall uri, (Player.setUri uri now.player).result = .ok () ->
      let opened := after hooks now (.request (.setUri uri))
      opened.player.metadata = .empty ∧ opened.description? = some "") ∧
    (forall event,
      (Player.handle (ε := Empty) event now.player).result =
        .ok (some (.transition .startedNextStream)) ->
      let started := after hooks now (.event event)
      started.player.metadata = now.player.metadata ∧ started.description? = some "") ∧
    (forall batch,
      let next := after hooks now (.event (.tags batch))
      (now.player.metadata.Covers batch -> next = now) ∧
      (¬ now.player.metadata.Covers batch ->
        next.player.metadata = (now.player.metadata.merge batch).1 ∧
          next.description? = some (Description.encode next.player.metadata))) := by
  intro now outdated
  have hdescribes : Describes now outdated := describes_run hhooks steps (describes_of_isNew hnew)
  refine ⟨hdescribes.shows, ?_, fun uri => after_setUri hhooks hdescribes.settled,
    fun event => after_started hhooks hdescribes.settled, ?_⟩
  · rw [hdescribes.shows, descriptionOf]
    cases outdated with
    | false =>
        simp
    | true =>
        rw [if_pos rfl, Option.some.injEq, eq_comm, Description.encode_eq_empty]
        exact ⟨fun hempty _ => hempty, fun hempty => hempty rfl⟩
  · intro batch next
    have htags : next.player.metadata = (now.player.metadata.merge batch).1 := by
      rw [show next.player = _ from handle_player hhooks _ _]
      rfl
    refine ⟨after_covered, fun hcovers => ⟨htags, ?_⟩⟩
    rw [htags]
    exact after_uncovered hhooks hdescribes.settled hcovers

end

/-- A track with a title, after which the queued one takes over. -/
def takeover : List Step :=
  [ .request (.setUri "cd:1"),
    .request .play,
    .event (.tags [("title", "T")]),
    .request (.setNextUri "cd:2"),
    .event .endOfStream ]

/-- The description is blank, the title is still known, and the same title again goes unnoticed. -/
theorem description_blank_after_takeover :
    exists renderer : Renderer Pipeline.Scripted (List Delivery),
      IsNew renderer ∧
      let now := run keeping renderer takeover
      now.player.metadata = ⟨"T", "", "", "", ""⟩ ∧
      now.description? = some "" ∧
      now.description? ≠ some (Description.encode now.player.metadata) ∧
      after keeping now (.event (.tags [("title", "T")])) = now := by
  rcases exists_isNew Pipeline.Scripted.willing .empty .default rfl rfl ([] : List Delivery) with
    ⟨renderer, hnew, hplayer⟩
  have htags : (run keeping renderer takeover).player.metadata = ⟨"T", "", "", "", ""⟩ := by
    rw [run_player keeping_apart, hplayer]
    decide
  have hshows := (describes_run keeping_apart takeover (describes_of_isNew hnew)).shows
  have houtdated : renderer.player.outdated false (takeover.filterMap playerStep?) = true := by
    rw [hplayer]
    decide
  rw [houtdated] at hshows
  refine ⟨renderer, hnew, htags, hshows, ?_, ?_⟩
  · rw [hshows, htags]
    intro hdescribed
    exact absurd (Description.encode_eq_empty.mp (Option.some.inj hdescribed).symm) (by decide)
  · apply after_covered
    rw [htags]
    exact Metadata.merge_unreplaced.mp (by decide)

/-- The same run, up to the moment at which the queued track takes over. -/
theorem tags_described_unless_outdated_takeover :
    exists renderer : Renderer Pipeline.Scripted (List Delivery),
      IsNew renderer ∧
      let now := run keeping renderer takeover
      now.description? = some (Description.encode now.player.metadata) <->
        (renderer.player.outdated false (takeover.filterMap playerStep?) = true ->
          now.player.metadata = .empty) := by
  rcases exists_isNew Pipeline.Scripted.willing .empty .default rfl rfl ([] : List Delivery) with
    ⟨renderer, hnew, _⟩
  exact ⟨renderer, hnew, (tags_described_unless_outdated keeping_apart hnew takeover).2.1⟩

end Renderer
end UpnpAv
