import UpnpAv.Pipeline.Scripted
import UpnpAv.Proofs.Player.Events
import UpnpAv.Proofs.Player.Requests

/-!
# Pauses that were asked for

A player that was asked to pause stays silent until it is asked to play, or
until a stream ends while another one is queued: the queued one takes over
whatever the reason of the pause.  A stop or the end of the last stream leave
the player silent as well.
-/

namespace UpnpAv
namespace Player

variable {P : Type}

/-!
# Silence
-/

/-- Neither playing nor about to play as soon as the buffer is full. -/
def IsSilent (state : PlayerState) : Prop :=
  state = .paused .user ∨ state = .stopped

/-- Whether a step stops the player unless a queued stream takes over. -/
def Step.stops : Step -> Bool
  | .request .stop => true
  | .event .endOfStream => true
  | _ => false

theorem stops_event {event : Pipeline.Event} (hevent : event ≠ .endOfStream) :
    (Step.event event).stops = false := by
  cases event with
  | endOfStream =>
      exact absurd rfl hevent
  | aboutToFinish =>
      rfl
  | error message details =>
      rfl
  | phaseChanged old new =>
      rfl
  | tags batch =>
      rfl
  | buffering percent =>
      rfl

theorem stops_request {request : Request} (hrequest : request ≠ .stop) :
    (Step.request request).stops = false := by
  cases request <;> first | rfl | exact absurd rfl hrequest

/-- The state after steps that let no queued stream take over. -/
def silenced (state : PlayerState) (steps : List Step) : PlayerState :=
  if steps.any Step.stops then .stopped else state

theorem silenced_cons (state : PlayerState) (step : Step) (rest : List Step) :
    silenced state (step :: rest) = silenced (silenced state [step]) rest := by
  unfold silenced
  cases hstep : step.stops with
  | true =>
      simp [hstep]
  | false =>
      simp [hstep]

theorem isSilent_silenced {state : PlayerState} (steps : List Step) (hsilent : IsSilent state) :
    IsSilent (silenced state steps) := by
  unfold silenced
  cases steps.any Step.stops with
  | true =>
      exact Or.inr rfl
  | false =>
      exact hsilent

theorem not_playing_of_isSilent {state : PlayerState} (hsilent : IsSilent state) :
    state ≠ .playing := by
  rcases hsilent with rfl | rfl
  · simp
  · simp

theorem unannounced_silent {player next : Player P} (hsilent : IsSilent player.state)
    (hnext : player.Unannounced next) : next.state = player.state := by
  cases hnext with
  | kept q =>
      rfl
  | queued q timing =>
      rfl
  | paused q hplaying =>
      exact absurd hplaying (not_playing_of_isSilent hsilent)
  | resumed q hbuffering =>
      rw [hbuffering] at hsilent
      rcases hsilent with hstate | hstate <;> cases hstate

/-!
# Steps
-/

variable [Pipeline P]

/-- The stream ends while another one is queued, which the pipeline loads and plays. -/
def TakesOver (player : Player P) (event : Pipeline.Event) : Prop :=
  event = .endOfStream ∧ player.target.nextUri ≠ "" ∧
    (loadAndPlay player.target.nextUri player.pipeline).result = .ok ()

theorem perform_silent {request : Request} {player : Player P} (hsilent : IsSilent player.state)
    (hplay : request ≠ .play) :
    (perform request player).state.state = silenced player.state [.request request] := by
  have hperformed := perform_performed request player
  generalize (perform request player).state = next at hperformed
  cases hperformed with
  | kept q hstop =>
      rw [silenced, List.any_cons, stops_request hstop]
      rfl
  | setUri uri =>
      rfl
  | setNextUri uri =>
      rfl
  | played q timing =>
      exact absurd rfl hplay
  | paused q hplaying =>
      exact absurd hplaying (not_playing_of_isSilent hsilent)
  | stopped q =>
      rfl
  | timed q known =>
      rfl

theorem handle_silent {event : Pipeline.Event} {player : Player P}
    (hsilent : IsSilent player.state) (htakeover : ¬ player.TakesOver event) :
    (handle (ε := Empty) event player).state.state =
      silenced player.state [.event event] := by
  by_cases hevent : event = .endOfStream
  · subst hevent
    rw [handle_endOfStream_state]
    by_cases hqueued : player.target.nextUri = ""
    · rw [(endOfStream_unqueued hqueued).2]
      rfl
    · rw [(endOfStream_queued hqueued).2]
      cases hload : (loadAndPlay player.target.nextUri player.pipeline).result with
      | error failure =>
          rfl
      | ok done =>
          exact absurd ⟨rfl, hqueued, hload⟩ htakeover
  · rw [show silenced player.state [.event event] = player.state by
      simp [silenced, stops_event hevent]]
    rcases handle_unended (ε := Empty) hevent player with ⟨_, hnext⟩ | ⟨tags, _, hstate⟩
    · exact unannounced_silent hsilent hnext
    · rw [hstate]

theorem after_takesOver {event : Pipeline.Event} {player : Player P}
    (htakeover : player.TakesOver event) :
    (player.after (.event event)).state = .playing ∧
      (player.after (.event event)).target = ⟨player.target.nextUri, ""⟩ := by
  rcases htakeover with ⟨rfl, hqueued, hload⟩
  rw [after, handle_endOfStream_state, (endOfStream_queued hqueued).2, hload]
  exact ⟨rfl, rfl⟩

/-!
# Runs
-/

/-- At some point of the run a queued stream takes over. -/
def TookOver (player : Player P) (steps : List Step) : Prop :=
  exists earlier event later, steps = earlier ++ .event event :: later ∧
    (player.run earlier).TakesOver event

theorem TookOver.append {player : Player P} {steps : List Step} (more : List Step)
    (htookOver : player.TookOver steps) : player.TookOver (steps ++ more) := by
  rcases htookOver with ⟨earlier, event, later, rfl, htakeover⟩
  exact ⟨earlier, event, later ++ more, by simp, htakeover⟩

theorem TookOver.cons {player : Player P} (step : Step) {steps : List Step}
    (htookOver : (player.after step).TookOver steps) : player.TookOver (step :: steps) := by
  rcases htookOver with ⟨earlier, event, later, rfl, htakeover⟩
  exact ⟨step :: earlier, event, later, rfl, htakeover⟩

theorem after_silent {step : Step} {player : Player P} {rest : List Step}
    (hsilent : IsSilent player.state) (hplay : step ≠ .request .play)
    (htakeover : ¬ player.TookOver (step :: rest)) :
    (player.after step).state = silenced player.state [step] := by
  cases step with
  | request request =>
      apply perform_silent hsilent
      rintro rfl
      exact hplay rfl
  | event event =>
      apply handle_silent hsilent
      intro htakes
      exact htakeover ⟨[], event, rest, rfl, htakes⟩

theorem run_silent (steps : List Step) :
    forall {player : Player P}, IsSilent player.state ->
      (forall step, step ∈ steps -> step ≠ .request .play) -> ¬ player.TookOver steps ->
        (player.run steps).state = silenced player.state steps := by
  induction steps with
  | nil =>
      intro player _ _ _
      rfl
  | cons step rest ih =>
      intro player hsilent hplay htakeover
      have hnext := after_silent hsilent (hplay step List.mem_cons_self) htakeover
      have hstill : IsSilent (player.after step).state := by
        rw [hnext]
        exact isSilent_silenced [step] hsilent
      rw [run_cons, silenced_cons, ← hnext]
      apply ih hstill
      · intro other hother
        exact hplay other (List.mem_cons_of_mem step hother)
      · intro htookOver
        exact htakeover (htookOver.cons step)

/--
After a pause that was asked for, and as long as nobody asks to play, the player
comes to play exactly when a queued stream takes over.  Until then the pause
lasts, or the player is stopped.
-/
theorem user_pause_lasts_until_takeover {player : Player P} (hpaused : player.state = .paused .user)
    {steps : List Step} (hplay : forall step, step ∈ steps -> step ≠ .request .play) :
    ((exists earlier later, steps = earlier ++ later ∧ (player.run earlier).state = .playing) <->
      player.TookOver steps) ∧
    (¬ player.TookOver steps ->
      (player.run steps).state =
        if steps.any Step.stops then .stopped else .paused .user) := by
  have hsilent : IsSilent player.state := Or.inl hpaused
  refine ⟨⟨?_, ?_⟩, ?_⟩
  · rintro ⟨earlier, later, rfl, hplaying⟩
    -- The statement would allow a takeover after the moment of playing, too, but
    -- there is one before it: without it that moment would be a silent one.
    apply Classical.byContradiction
    intro htakeover
    have hstate := run_silent earlier hsilent
      (fun step hstep => hplay step (List.mem_append_left later hstep))
      (fun htookOver => htakeover (htookOver.append later))
    apply not_playing_of_isSilent (isSilent_silenced earlier hsilent)
    rw [← hstate, hplaying]
  · rintro ⟨earlier, event, later, rfl, htakeover⟩
    refine ⟨earlier ++ [.event event], later, by simp, ?_⟩
    rw [run_append]
    exact (after_takesOver htakeover).1
  · intro htakeover
    rw [run_silent steps hsilent hplay htakeover, hpaused]
    rfl

/-- A track that was paused, and another one queued behind it. -/
def pausedTrack : Player Pipeline.Scripted :=
  (Player.around .willing .empty .default).run
    [ .request (.setUri "cd:1"), .request .play, .request .pause,
      .request (.setNextUri "cd:2") ]

/-- The end of the paused track starts the queued one, though nobody asked to play. -/
theorem plays_after_user_pause :
    pausedTrack.state = .paused .user ∧
      (pausedTrack.run [.event .endOfStream]).state = .playing := by
  decide

theorem user_pause_lasts_until_takeover_queued :
    pausedTrack.state = .paused .user ∧ pausedTrack.TookOver [.event .endOfStream] := by
  have hpaused : pausedTrack.state = .paused .user := by decide
  have hplay : forall step, step ∈ [Step.event .endOfStream] -> step ≠ .request .play := by
    intro step hstep
    rw [List.mem_singleton.mp hstep]
    simp
  refine ⟨hpaused, (user_pause_lasts_until_takeover hpaused hplay).1.mp ?_⟩
  exact ⟨[.event .endOfStream], [], rfl, by decide⟩

end Player
end UpnpAv
