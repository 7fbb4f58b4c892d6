import UpnpAv.Proofs.Player.Loaded
import UpnpAv.Proofs.Renderer.Documents
import UpnpAv.Proofs.Renderer.Played

/-!
# The track that is shown when playback starts

When a renderer starts to play it shows the locator of its player as the current
track.  That is what the pipeline has loaded, unless a pause was resumed: then
nothing is loaded, and a locator that was named meanwhile is shown while the
track before it goes on.
-/

namespace UpnpAv
namespace Renderer

open Pipeline (Traced loaded?)

variable {P X : Type}

/-- An accepted request to play is shown with the locator of the player. -/
theorem play_shows_track [Pipeline P] {hooks : Hooks P X} (hhooks : hooks.Apart)
    {renderer : Renderer P X} (hsettled : Settled renderer)
    (haccepted : (Player.play renderer.player).result = .ok ()) :
    (after hooks renderer (.request .play)).avTransport.get?
        TransportVariable.currentTrackUri.id =
      some renderer.player.target.uri := by
  have hcases : _ ∨ _ ∧
      WritesSome hooks.deliver (.request .play) renderer (play hooks.deliver renderer).state :=
    play_cases renderer
  rw [after, perform, Act.then_pure_state]
  rcases hcases with ⟨hrefused, _⟩ | ⟨_, hsome⟩
  · exact absurd haccepted hrefused
  · rcases hsome.shows hhooks.deliver hsettled with ⟨_, _, _, hwrites, _, _, hvalues⟩
    rw [hvalues TransportVariable.currentTrackUri.id (by decide)]
    cases hwrites
    rfl

/--
After every accepted request to play without a pause before, the locator of the
player is the one that the pipeline has loaded.  A pause is resumed by a single
command, and then that holds unless another locator was named since the last
load.  Either way it is the locator of the player that a renderer shows.
-/
theorem played_track_loaded_unless_resumed [Pipeline P] (pipeline : Traced P)
    (types : StringSet) (settings : OutputSettings) (steps : List Player.Step)
    (haccepted : (Player.play ((Player.around pipeline types settings).run steps)).result =
      .ok ()) :
    let player := Player.around pipeline types settings
    let before := player.run steps
    let played := before.after (.request .play)
    ((forall reason, before.state ≠ .paused reason) ->
      loaded? played.pipeline.trace = some played.target.uri) ∧
    (forall reason, before.state = .paused reason ->
      played.target = before.target ∧
      played.pipeline.trace = before.pipeline.trace ++ [.command .play true] ∧
      some played.target.uri =
        (player.unloaded? (some "") steps).or (loaded? played.pipeline.trace)) ∧
    (forall (hooks : Hooks (Traced P) X) (renderer : Renderer (Traced P) X),
      hooks.Apart -> Settled renderer -> renderer.player = before ->
        (after hooks renderer (.request .play)).player = played ∧
        (after hooks renderer (.request .play)).avTransport.get?
            TransportVariable.currentTrackUri.id =
          some played.target.uri) := by
  intro player before played
  refine ⟨Player.play_loads haccepted, ?_, ?_⟩
  · intro reason hstate
    rcases Player.play_resumes haccepted hstate with ⟨htarget, htrace⟩
    refine ⟨htarget, htrace, ?_⟩
    -- The single command of a resumed pause loads nothing.
    rw [htrace, Pipeline.loaded?_append, htarget]
    exact Player.uri_eq_run_around pipeline types settings steps
  · intro hooks renderer hhooks hsettled hplayer
    have hplayed : (Player.play renderer.player).result = .ok () := by
      rw [hplayer]
      exact haccepted
    have htarget : played.target = before.target := (Player.play_calls haccepted).1
    constructor
    · rw [after_player hhooks, hplayer]
      rfl
    · rw [play_shows_track hhooks hsettled hplayed, hplayer, htarget]

/-- A player around a pipeline that does whatever it is told. -/
def willingPlayer : Player (Traced Pipeline.Scripted) :=
  .around (.ofPipeline .willing) .empty .default

/-- A new track is loaded, and shown. -/
theorem played_track_loaded_unless_resumed_new :
    exists renderer : Renderer (Traced Pipeline.Scripted) (List Delivery),
      Settled renderer ∧ renderer.player = willingPlayer.run [.request (.setUri "cd:1")] ∧
      let played := after keeping renderer (.request .play)
      loaded? played.player.pipeline.trace = some "cd:1" ∧
      played.avTransport.get? TransportVariable.currentTrackUri.id = some "cd:1" := by
  rcases exists_isNew (Traced.ofPipeline Pipeline.Scripted.willing) .empty .default rfl rfl
    ([] : List Delivery) with ⟨renderer, hnew, haround⟩
  have hsettled : Settled (run keeping renderer [.request (.setUri "cd:1")]) :=
    settled_run keeping_recording _ (settled_of_isNew hnew)
  have hplayer : (run keeping renderer [.request (.setUri "cd:1")]).player =
      willingPlayer.run [.request (.setUri "cd:1")] := by
    rw [run_player keeping_apart, haround]
    rfl
  rcases played_track_loaded_unless_resumed (X := List Delivery)
    (.ofPipeline Pipeline.Scripted.willing) .empty .default
    [.request (.setUri "cd:1")] rfl with ⟨hloaded, _, hshown⟩
  rcases hshown keeping _ keeping_apart hsettled hplayer with ⟨hplayed, htrack⟩
  refine ⟨_, hsettled, hplayer, ?_, htrack⟩
  rw [hplayed]
  exact hloaded (fun reason hpaused => nomatch hpaused)

/-- A track that was paused, and a locator that was set in its place. -/
def replacedInPause : List Player.Step :=
  [ .request (.setUri "cd:1"),
    .request .play,
    .request .pause,
    .request (.setUri "cd:2") ]

/-- The pause is resumed, and the track before it goes on. -/
theorem resumes_replaced_track :
    (Player.play (willingPlayer.run replacedInPause)).result = .ok () ∧
      let played := (willingPlayer.run replacedInPause).after (.request .play)
      played.target.uri = "cd:2" ∧ loaded? played.pipeline.trace = some "cd:1" := by
  exact ⟨rfl, by decide, by decide⟩

end Renderer
end UpnpAv
