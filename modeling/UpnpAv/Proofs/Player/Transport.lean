import Mathlib.Data.List.Induction
import UpnpAv.Proofs.Player.Exchanges

/-!
# What a player says and what its pipeline does

A player that plays or pauses is in step with its pipeline, whatever the
pipeline refuses, with one exception.  A request to play that comes while playing
stops the pipeline first.  When the pipeline then refuses the rest, the player
keeps the state it had.
-/

namespace UpnpAv
namespace Player

open Pipeline (Exchange Traced motion? motion?_append)

variable {P : Type}

/-!
# Motions
-/

/-- What a step does to the stream, and the state of the player that goes with it. -/
inductive Moved (player : Player P) : List Exchange -> PlayerState -> Prop where
  | kept {calls : List Exchange} :
      motion? calls = none -> Moved player calls player.state
  | started {calls : List Exchange} :
      motion? calls = some .play -> Moved player calls .playing
  | held {calls : List Exchange} (reason : PauseReason) :
      motion? calls = some .pause -> Moved player calls (.paused reason)
  | ended {calls : List Exchange} : Moved player calls .stopped

theorem Moved.playing {player : Player P} {calls : List Exchange} {state : PlayerState}
    (hmoved : player.Moved calls state) (hplaying : state = .playing) :
    motion? calls = some .play ∨ motion? calls = none ∧ player.state = .playing := by
  cases hmoved with
  | kept hnone =>
      exact Or.inr ⟨hnone, hplaying⟩
  | started hplay =>
      exact Or.inl hplay
  | held reason hpause =>
      cases hplaying
  | ended =>
      cases hplaying

theorem Moved.paused {player : Player P} {calls : List Exchange} {state : PlayerState}
    (hmoved : player.Moved calls state) {reason : PauseReason}
    (hpaused : state = .paused reason) :
    motion? calls = some .pause ∨ motion? calls = none ∧ player.state = .paused reason := by
  cases hmoved with
  | kept hnone =>
      exact Or.inr ⟨hnone, hpaused⟩
  | started hplay =>
      cases hpaused
  | held other hpause =>
      exact Or.inl hpause
  | ended =>
      cases hpaused

theorem motion?_played {uri : String} {calls : List Exchange}
    (hloading : Loading uri true calls) : motion? calls = some .play := by
  cases hloading
  rfl

theorem motion?_unplayed {uri : String} {calls : List Exchange}
    (hloading : Loading uri false calls) :
    motion? calls = none ∨ motion? calls = some .stop := by
  cases hloading with
  | unstopped =>
      exact Or.inl rfl
  | unloaded =>
      exact Or.inr rfl
  | unplayed =>
      exact Or.inr rfl

theorem motion?_adjustment {request : Request} {command : Pipeline.Command}
    (hadjustment : request.adjustment? = some command) (accepted : Bool) :
    motion? [.command command accepted] = none := by
  cases request <;> cases hadjustment <;> rfl

/--
Only a refused request to play can stop the stream and leave the state as it was,
and that state is no pause.
-/
theorem Answered.moved {player next : Player P} {request : Request} {accepted : Bool}
    {calls : List Exchange} (hanswered : player.Answered request accepted calls next) :
    player.Moved calls next.state ∨
      request = .play ∧ accepted = false ∧ motion? calls = some .stop ∧
        next.state = player.state ∧ forall reason, player.state ≠ .paused reason := by
  cases hanswered with
  | refused hstop htimed =>
      exact Or.inl (Moved.kept rfl)
  | setUri uri =>
      exact Or.inl (Moved.kept rfl)
  | setNextUri uri =>
      exact Or.inl (Moved.kept rfl)
  | resumed q accepted hstate =>
      cases accepted with
      | false =>
          exact Or.inl (Moved.kept rfl)
      | true =>
          exact Or.inl (Moved.started rfl)
  | restarted q hstate hloading =>
      cases accepted with
      | false =>
          rcases motion?_unplayed hloading with hnone | hstop
          · exact Or.inl (Moved.kept hnone)
          · exact Or.inr ⟨rfl, rfl, hstop, rfl, hstate⟩
      | true =>
          exact Or.inl (Moved.started (motion?_played hloading))
  | paused q accepted hstate =>
      cases accepted with
      | false =>
          exact Or.inl (Moved.kept rfl)
      | true =>
          exact Or.inl (Moved.held .user rfl)
  | stopped q accepted =>
      exact Or.inl Moved.ended
  | adjusted q accepted hadjustment =>
      exact Or.inl (Moved.kept (motion?_adjustment hadjustment accepted))
  | timed q duration position hstate =>
      exact Or.inl (Moved.kept rfl)
  | recalled hstate =>
      exact Or.inl (Moved.kept rfl)
  | volumeRead =>
      exact Or.inl (Moved.kept rfl)
  | muteRead =>
      exact Or.inl (Moved.kept rfl)

theorem Reacted.moved {player next : Player P} {event : Pipeline.Event}
    {calls : List Exchange} (hreacted : player.Reacted event calls next) :
    player.Moved calls next.state := by
  cases hreacted with
  | unqueued hqueued =>
      exact Moved.kept rfl
  | queued q accepted hqueued =>
      cases accepted <;> exact Moved.kept rfl
  | ended hqueued =>
      exact Moved.ended
  | succeeded q hqueued hloading =>
      rename_i accepted
      cases accepted with
      | false =>
          exact Moved.ended
      | true =>
          exact Moved.started (motion?_played hloading)
  | held q accepted percent hstate =>
      cases accepted with
      | false =>
          exact Moved.kept rfl
      | true =>
          exact Moved.held .buffering rfl
  | released q accepted percent hstate =>
      cases accepted with
      | false =>
          exact Moved.kept rfl
      | true =>
          exact Moved.started rfl
  | described batch =>
      exact Moved.kept rfl
  | unmoved hearly hended =>
      exact Moved.kept rfl

variable [Pipeline P]

theorem moved_after (step : Step) (player : Player (Traced P)) :
    player.Moved (player.calls step) (player.after step).state ∨
      step = .request .play ∧ (play player).result ≠ .ok () ∧
        motion? (player.calls step) = some .stop ∧
        (player.after step).state = player.state ∧
        forall reason, player.state ≠ .paused reason := by
  cases step with
  | request request =>
      rcases (answered_after request player).moved with
        hmoved | ⟨rfl, hrefused, hstop, hstate, hunpaused⟩
      · exact Or.inl hmoved
      · refine Or.inr ⟨rfl, ?_, hstop, hstate, hunpaused⟩
        intro haccepted
        rw [perform, Act.then_pure_isOk, haccepted] at hrefused
        cases hrefused
  | event event =>
      exact Or.inl (reacted_after event player).moved

/-!
# Stalls
-/

/-- A request to play, while playing, that gets the pipeline to stop and no further. -/
def Stalls (player : Player (Traced P)) : Prop :=
  player.state = .playing ∧ (play player).result ≠ .ok () ∧
    motion? (player.calls (.request .play)) = some .stop

/-- A request to play stalled during the run, and nothing moved the pipeline since. -/
def Stalled (player : Player (Traced P)) (steps : List Step) : Prop :=
  exists earlier later calls, steps = earlier ++ .request .play :: later ∧
    (player.run earlier).Stalls ∧
    (player.run steps).pipeline.trace =
      ((player.run earlier).after (.request .play)).pipeline.trace ++ calls ∧
    motion? calls = none

theorem run_trace_snoc (player : Player (Traced P)) (steps : List Step) (step : Step) :
    (player.run (steps ++ [step])).pipeline.trace =
      (player.run steps).pipeline.trace ++ (player.run steps).calls step := by
  rw [run_snoc, after_trace]

theorem Stalls.stalled {player : Player (Traced P)} {steps : List Step}
    (hstalls : (player.run steps).Stalls) : player.Stalled (steps ++ [.request .play]) := by
  refine ⟨steps, [], [], rfl, hstalls, ?_, rfl⟩
  rw [run_snoc, List.append_nil]

theorem Stalled.snoc {player : Player (Traced P)} {steps : List Step}
    (hstalled : player.Stalled steps) {step : Step}
    (hcalls : motion? ((player.run steps).calls step) = none) :
    player.Stalled (steps ++ [step]) := by
  rcases hstalled with ⟨earlier, later, calls, rfl, hstalls, htrace, hnone⟩
  refine ⟨earlier, later ++ [step],
    calls ++ (player.run (earlier ++ .request .play :: later)).calls step,
    by simp, hstalls, ?_, ?_⟩
  · rw [run_trace_snoc, htrace, List.append_assoc]
  · rw [motion?_append, hcalls, hnone]
    rfl

theorem Stalled.motion {player : Player (Traced P)} {steps : List Step}
    (hstalled : player.Stalled steps) :
    motion? (player.run steps).pipeline.trace = some .stop := by
  rcases hstalled with ⟨earlier, later, calls, _, ⟨_, _, hstop⟩, htrace, hnone⟩
  rw [htrace, after_trace, motion?_append, motion?_append, hnone, hstop]
  rfl

/-!
# Runs
-/

/-- After a run, what the pipeline does is what the player says, stalls apart. -/
structure InStep (player : Player (Traced P)) (steps : List Step) : Prop where
  playing : (player.run steps).state = .playing ->
    motion? (player.run steps).pipeline.trace = some .play ∨ player.Stalled steps
  paused : forall reason, (player.run steps).state = .paused reason ->
    motion? (player.run steps).pipeline.trace = some .pause

-- Runs grow at their ends here: the last motion is what the statement is about.
theorem InStep.snoc {player : Player (Traced P)} {steps : List Step}
    (hinStep : player.InStep steps) (step : Step) : player.InStep (steps ++ [step]) := by
  rcases moved_after step (player.run steps) with
    hmoved | ⟨rfl, hrefused, hstop, hstate, hunpaused⟩
  · rw [← run_snoc] at hmoved
    constructor
    · intro hplaying
      rw [run_trace_snoc, motion?_append]
      rcases hmoved.playing hplaying with hplay | ⟨hnone, hbefore⟩
      · exact Or.inl (by rw [hplay]; rfl)
      · -- Nothing moved, so a stall that came before still lasts.
        rw [hnone]
        exact (hinStep.playing hbefore).imp id fun hstalled => hstalled.snoc hnone
    · intro reason hpaused
      rw [run_trace_snoc, motion?_append]
      rcases hmoved.paused hpaused with hpause | ⟨hnone, hbefore⟩
      · rw [hpause]
        rfl
      · rw [hnone]
        exact hinStep.paused reason hbefore
  · rw [← run_snoc] at hstate
    constructor
    · intro hplaying
      have hstalls : (player.run steps).Stalls :=
        ⟨hstate.symm.trans hplaying, hrefused, hstop⟩
      exact Or.inr hstalls.stalled
    · intro reason hpaused
      exact absurd (hstate.symm.trans hpaused) (hunpaused reason)

theorem inStep_run {player : Player (Traced P)} (hinStep : player.InStep [])
    (steps : List Step) : player.InStep steps := by
  induction steps using List.reverseRecOn with
  | nil =>
      exact hinStep
  | append_singleton steps step ih =>
      exact ih.snoc step

theorem inStep_around (pipeline : Traced P) (types : StringSet) (settings : OutputSettings) :
    (Player.around pipeline types settings).InStep [] where
  playing hplaying := by cases hplaying
  paused reason hpaused := by cases hpaused

/--
While a player plays, the last that its pipeline was brought to do is to play,
except after a stall: then it is to stop.  While a player pauses, for whatever
reason, it is to pause.
-/
theorem motion_in_step_unless_stalled (pipeline : Traced P) (types : StringSet)
    (settings : OutputSettings) (steps : List Step) :
    let player := Player.around pipeline types settings
    let now := player.run steps
    (now.state = .playing ->
      (motion? now.pipeline.trace = some .play <-> ¬ player.Stalled steps) ∧
      (motion? now.pipeline.trace = some .stop <-> player.Stalled steps)) ∧
    (forall reason, now.state = .paused reason ->
      motion? now.pipeline.trace = some .pause) := by
  intro player now
  have hinStep : player.InStep steps :=
    inStep_run (inStep_around pipeline types settings) steps
  refine ⟨?_, hinStep.paused⟩
  intro hplaying
  by_cases hstalled : player.Stalled steps
  · have hstop : motion? now.pipeline.trace = some .stop := hstalled.motion
    simp [hstalled, hstop]
  · have hplay : motion? now.pipeline.trace = some .play :=
      (hinStep.playing hplaying).resolve_right hstalled
    simp [hstalled, hplay]

/-- A pipeline that accepts or refuses its next commands as listed, and all later ones. -/
structure Wavering where
  verdicts : List Bool

instance : Pipeline Wavering where
  perform _ := do
    let pipeline ← Act.read
    Act.modify fun pipeline => ⟨pipeline.verdicts.tail⟩
    if pipeline.verdicts.headD true then pure () else Act.fail ⟨"refused"⟩
  ask _ := Act.fail ⟨"unknown"⟩
  mediaTypes := pure .empty
  volume _ := .ok 1.0
  mute _ := .ok false

/-- A pipeline that refuses its fifth command. -/
def Wavering.atFifth : Traced Wavering :=
  .ofPipeline ⟨[true, true, true, true, false]⟩

/-- A player around that pipeline. -/
def waveringPlayer : Player (Traced Wavering) :=
  .around Wavering.atFifth .empty .default

/-- A track that is played again, and not loaded that time. -/
def playedTwice : List Step :=
  [.request (.setUri "cd:1"), .request .play, .request .play]

/-- The player still says that it plays, though the pipeline was stopped. -/
theorem plays_while_stopped :
    (waveringPlayer.run playedTwice).state = .playing ∧
      motion? (waveringPlayer.run playedTwice).pipeline.trace = some .stop := by
  decide

/-- Stopping and playing once more brings the two in step again. -/
theorem motion_in_step_unless_stalled_again :
    (waveringPlayer.run playedTwice).state = .playing ∧
      waveringPlayer.Stalled playedTwice ∧
    (waveringPlayer.run (playedTwice ++ [.request .play])).state = .playing ∧
      ¬ waveringPlayer.Stalled (playedTwice ++ [.request .play]) := by
  have hrefused : (waveringPlayer.run playedTwice).state = .playing := by decide
  have haccepted : (waveringPlayer.run (playedTwice ++ [.request .play])).state = .playing := by
    decide
  rcases motion_in_step_unless_stalled Wavering.atFifth .empty .default playedTwice with
    ⟨hplaying, _⟩
  rcases motion_in_step_unless_stalled Wavering.atFifth .empty .default
    (playedTwice ++ [.request .play]) with ⟨hagain, _⟩
  exact ⟨hrefused, (hplaying hrefused).2.mp rfl, haccepted, (hagain haccepted).1.mp rfl⟩

end Player
end UpnpAv
