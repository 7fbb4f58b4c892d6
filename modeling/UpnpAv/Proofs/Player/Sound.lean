import UpnpAv.Player.Run
import UpnpAv.Proofs.Pipeline.Sound

/-!
# Motion and sound of a player

A player moves its stream without a look at volume and mute, and hands both on
without a look at anything that it keeps itself.
-/

namespace UpnpAv
namespace Player

open Pipeline (MovesAlike SoundsAlike)

variable {P ε α : Type}

/-- Whether a request is about volume and mute. -/
def Request.sounds : Request -> Bool
  | .setVolume _ => true
  | .setMute _ => true
  | .readVolume => true
  | .readMute => true
  | _ => false

/-- Whether a step is about volume and mute. -/
def Step.sounds : Step -> Bool
  | .request asked => asked.sounds
  | .event _ => false

/-- A player apart from its pipeline, for which a related one stands in. -/
inductive Alike (same : P -> P -> Prop) (player : Player P) : Player P -> Prop where
  | on (q : P) : same player.pipeline q -> Alike same player { player with pipeline := q }

theorem Alike.pipeline {same : P -> P -> Prop} {player other : Player P}
    (halike : Alike same player other) : same player.pipeline other.pipeline := by
  rcases halike with ⟨q, hsame⟩
  exact hsame

theorem Alike.target {same : P -> P -> Prop} {player other : Player P}
    (halike : Alike same player other) : other.target = player.target := by
  rcases halike with ⟨q, hsame⟩
  rfl

section

variable {same : P -> P -> Prop} {player other : Player P}

theorem Alike.state (halike : Alike same player other) : other.state = player.state := by
  rcases halike with ⟨q, hsame⟩
  rfl

theorem Alike.metadata (halike : Alike same player other) :
    other.metadata = player.metadata := by
  rcases halike with ⟨q, hsame⟩
  rfl

theorem Alike.timing (halike : Alike same player other) : other.timing = player.timing := by
  rcases halike with ⟨q, hsame⟩
  rfl

theorem Alike.describe (halike : Alike same player other) :
    other.describe = player.describe := by
  rcases halike with ⟨q, hsame⟩
  rfl

/-- The pipelines may change in any way that keeps them related. -/
theorem Alike.changed {change : P -> P} (halike : Alike same player other)
    (hchange : forall {p q : P}, same p q -> same (change p) (change q)) :
    Alike same { player with pipeline := change player.pipeline }
      { other with pipeline := change other.pipeline } := by
  rcases halike with ⟨q, hsame⟩
  exact Alike.on (change q) (hchange hsame)

end

/-!
# Motion
-/

section

variable {same : P -> P -> Prop}

theorem onPipeline_agree {m n : Act P ε α} (hagree : Act.Agree same m n) :
    Act.Agree (Alike same) (onPipeline m) (onPipeline n) := by
  rintro player _ ⟨q, hsame⟩
  rcases hagree player.pipeline q hsame with ⟨hresult, hstate⟩
  exact ⟨hresult, Alike.on _ hstate⟩

/-- A change that leaves the pipeline alone does not depend on it. -/
theorem modify_agree {change : Player P -> Player P}
    (hpipeline : forall player, (change player).pipeline = player.pipeline)
    (hchange : forall player q,
      change { player with pipeline := q } = { change player with pipeline := q }) :
    Act.Agree (Alike same) (Act.modify change : Act (Player P) ε Unit) (Act.modify change) := by
  apply Act.Agree.modify
  rintro player _ ⟨q, hsame⟩
  rw [hchange player q]
  exact Alike.on q ((hpipeline player).symm ▸ hsame)

theorem enter_agree (state : PlayerState) :
    Act.Agree (Alike same) (enter state : Act (Player P) ε Unit) (enter state) :=
  modify_agree (fun _ => rfl) fun _ _ => rfl

theorem forgetTiming_agree :
    Act.Agree (Alike same) (forgetTiming : Act (Player P) ε Unit) forgetTiming :=
  modify_agree (fun _ => rfl) fun _ _ => rfl

theorem setUri_agree (uri : String) :
    Act.Agree (Alike same) (setUri uri : Act (Player P) Error Unit) (setUri uri) := by
  refine (Act.Agree.ofExcept (checkUri uri)).bind ?_
  intro checked
  refine (Act.Agree.log _).bind ?_
  intro logged
  exact modify_agree (fun _ => rfl) fun _ _ => rfl

theorem setNextUri_agree (uri : String) :
    Act.Agree (Alike same) (setNextUri uri : Act (Player P) Error Unit) (setNextUri uri) := by
  refine (Act.Agree.ofExcept (checkUri uri)).bind ?_
  intro checked
  refine (Act.Agree.log _).bind ?_
  intro logged
  exact modify_agree (fun _ => rfl) fun _ _ => rfl

variable [Pipeline P] (hmoves : MovesAlike same)

include hmoves

theorem tell_agree {command : Pipeline.Command} (hcommand : command.moves = true) :
    Act.Agree (Alike same) (tell command) (tell command) :=
  onPipeline_agree ((hmoves.perform hcommand).mapError Error.pipeline)

theorem loadAndPlay_agree (uri : String) :
    Act.Agree same (loadAndPlay uri) (loadAndPlay uri) := by
  refine (hmoves.perform rfl).bind ?_
  intro stopped
  refine (hmoves.perform rfl).bind ?_
  intro loaded
  exact hmoves.perform rfl

theorem restart_agree : Act.Agree (Alike same) restart restart := by
  apply Act.Agree.read
  rintro player _ ⟨q, hsame⟩
  by_cases huri : player.target.uri = ""
  · rw [if_pos huri]
    exact Act.Agree.fail _
  · rw [if_neg huri]
    refine (onPipeline_agree ((loadAndPlay_agree hmoves _).mapError Error.pipeline)).bind ?_
    intro played
    refine (enter_agree .playing).bind ?_
    intro entered
    refine forgetTiming_agree.bind ?_
    intro forgotten
    exact Act.Agree.log _

theorem play_agree : Act.Agree (Alike same) play play := by
  apply Act.Agree.read
  rintro ⟨pipeline, state, target, tags, timing, types, buffering⟩ _ ⟨q, hsame⟩
  cases state with
  | paused reason =>
      refine (Act.Agree.log _).bind ?_
      intro logged
      refine (tell_agree hmoves rfl).bind ?_
      intro told
      exact enter_agree .playing
  | _ =>
      exact restart_agree hmoves

theorem pause_agree : Act.Agree (Alike same) pause pause := by
  apply Act.Agree.read
  rintro ⟨pipeline, state, target, tags, timing, types, buffering⟩ _ ⟨q, hsame⟩
  cases state with
  | playing =>
      refine (tell_agree hmoves rfl).bind ?_
      intro told
      exact enter_agree (.paused .user)
  | _ =>
      exact Act.Agree.fail _

theorem stop_agree : Act.Agree (Alike same) stop stop := by
  refine (onPipeline_agree (hmoves.perform rfl)).attempt.bind ?_
  intro result
  refine (enter_agree .stopped).bind ?_
  intro entered
  refine forgetTiming_agree.bind ?_
  intro forgotten
  cases result with
  | ok done =>
      exact Act.Agree.ofExcept (.ok ())
  | error failure =>
      refine (Act.Agree.log _).bind ?_
      intro logged
      exact Act.Agree.fail _

theorem seek_agree (position : Int) : Act.Agree (Alike same) (seek position) (seek position) := by
  rw [seek]
  by_cases hposition : position < 0
  · rw [if_pos hposition]
    exact Act.Agree.fail _
  · rw [if_neg hposition]
    refine (tell_agree hmoves rfl).bind ?_
    intro told
    exact Act.Agree.log _

theorem readTiming_agree :
    Act.Agree (Alike same) (readTiming : Act (Player P) ε Timing) readTiming := by
  apply Act.Agree.read
  rintro ⟨pipeline, state, target, tags, timing, types, buffering⟩ _ ⟨q, hsame⟩
  cases state with
  | playing =>
      refine (onPipeline_agree (hmoves.ask .duration)).attempt.bind ?_
      intro duration
      refine (onPipeline_agree (hmoves.ask .position)).attempt.bind ?_
      intro position
      refine (Act.Agree.logAll _).bind ?_
      intro logged
      refine Act.Agree.bind (modify_agree (fun _ => rfl) fun _ _ => rfl) ?_
      intro modified
      exact Act.Agree.ofExcept (.ok _)
  | _ =>
      exact Act.Agree.ofExcept (.ok _)

/-- A request that is not about volume and mute does not depend on them. -/
theorem perform_agree {request : Request} (hsilent : request.sounds = false) :
    Act.Agree (Alike same) (perform request) (perform request) := by
  cases request with
  | setUri uri =>
      exact (setUri_agree uri).then_pure fun _ => Reply.done
  | setNextUri uri =>
      exact (setNextUri_agree uri).then_pure fun _ => Reply.done
  | play =>
      exact (play_agree hmoves).then_pure fun _ => Reply.done
  | pause =>
      exact (pause_agree hmoves).then_pure fun _ => Reply.done
  | stop =>
      exact (stop_agree hmoves).then_pure fun _ => Reply.done
  | seek position =>
      exact (seek_agree hmoves position).then_pure fun _ => Reply.done
  | readTiming =>
      exact (readTiming_agree hmoves).then_pure Reply.timing
  | _ =>
      cases hsilent

omit hmoves [Pipeline P] in
theorem advance_agree :
    Act.Agree (Alike same) (advance : Act (Player P) ε (Option String)) advance := by
  apply Act.Agree.read
  rintro player _ ⟨q, hsame⟩
  refine Act.Agree.bind (modify_agree (fun _ => rfl) fun _ _ => rfl) ?_
  intro modified
  exact Act.Agree.ofExcept (.ok _)

theorem aboutToFinish_agree :
    Act.Agree (Alike same) (aboutToFinish : Act (Player P) ε Unit) aboutToFinish := by
  refine advance_agree.bind ?_
  intro queued
  cases queued with
  | none =>
      exact Act.Agree.log _
  | some uri =>
      refine (Act.Agree.log _).bind ?_
      intro logged
      refine forgetTiming_agree.bind ?_
      intro forgotten
      refine (onPipeline_agree (hmoves.perform rfl)).attempt.bind ?_
      intro result
      cases result with
      | ok done =>
          exact Act.Agree.ofExcept (.ok ())
      | error failure =>
          exact Act.Agree.log _

theorem endOfStream_agree :
    Act.Agree (Alike same) (endOfStream : Act (Player P) ε Transition) endOfStream := by
  refine forgetTiming_agree.bind ?_
  intro forgotten
  refine advance_agree.bind ?_
  intro queued
  cases queued with
  | none =>
      refine (Act.Agree.log _).bind ?_
      intro logged
      refine (enter_agree .stopped).bind ?_
      intro entered
      exact Act.Agree.ofExcept (.ok _)
  | some uri =>
      refine (Act.Agree.log _).bind ?_
      intro logged
      refine (onPipeline_agree (loadAndPlay_agree hmoves uri)).attempt.bind ?_
      intro result
      cases result with
      | ok done =>
          refine (enter_agree .playing).bind ?_
          intro entered
          exact Act.Agree.ofExcept (.ok _)
      | error failure =>
          refine (Act.Agree.log _).bind ?_
          intro logged
          refine (enter_agree .stopped).bind ?_
          intro entered
          exact Act.Agree.ofExcept (.ok _)

theorem pauseForBuffering_agree (percent : Nat) :
    Act.Agree (Alike same) (pauseForBuffering percent : Act (Player P) ε Unit)
      (pauseForBuffering percent) := by
  refine (Act.Agree.log _).bind ?_
  intro logged
  refine (onPipeline_agree (hmoves.perform rfl)).attempt.bind ?_
  intro result
  cases result with
  | ok done =>
      exact enter_agree _
  | error failure =>
      exact Act.Agree.log _

theorem resumeAfterBuffering_agree :
    Act.Agree (Alike same) (resumeAfterBuffering : Act (Player P) ε Unit)
      resumeAfterBuffering := by
  refine (Act.Agree.log _).bind ?_
  intro logged
  refine (onPipeline_agree (hmoves.perform rfl)).attempt.bind ?_
  intro result
  cases result with
  | ok done =>
      exact enter_agree _
  | error failure =>
      exact Act.Agree.log _

theorem bufferAt_agree (percent : Nat) :
    Act.Agree (Alike same) (bufferAt percent : Act (Player P) ε Unit) (bufferAt percent) := by
  have hnothing : Act.Agree (Alike same) (pure () : Act (Player P) ε Unit) (pure ()) :=
    Act.Agree.ofExcept (.ok ())
  apply Act.Agree.read
  rintro ⟨pipeline, state, target, tags, timing, types, buffering⟩ _ ⟨q, hsame⟩
  cases buffering with
  | false =>
      exact hnothing
  | true =>
      cases state with
      | playing =>
          by_cases hlow : percent < 100
          · simp only [if_pos hlow]
            exact pauseForBuffering_agree hmoves percent
          · simp only [if_neg hlow]
            exact hnothing
      | paused reason =>
          cases reason with
          | buffering =>
              by_cases hfull : 100 ≤ percent
              · simp only [if_pos hfull]
                exact resumeAfterBuffering_agree hmoves
              · simp only [if_neg hfull]
                exact hnothing
          | user =>
              exact hnothing
      | _ =>
          exact hnothing

omit hmoves [Pipeline P] in
theorem mergeTags_agree (batch : List (String × String)) :
    Act.Agree (Alike same) (mergeTags batch : Act (Player P) ε (Option Notice))
      (mergeTags batch) := by
  apply Act.Agree.read
  rintro player _ ⟨q, hsame⟩
  refine (Act.Agree.logAll _).bind ?_
  intro logged
  refine Act.Agree.bind (modify_agree (fun _ => rfl) fun _ _ => rfl) ?_
  intro modified
  exact Act.Agree.ofExcept (.ok _)

theorem handle_agree (event : Pipeline.Event) :
    Act.Agree (Alike same) (handle event : Act (Player P) ε (Option Notice)) (handle event) := by
  cases event with
  | aboutToFinish =>
      exact (aboutToFinish_agree hmoves).then_pure fun _ => none
  | endOfStream =>
      exact (endOfStream_agree hmoves).then_pure fun transition =>
        some (Notice.transition transition)
  | error message details =>
      exact (Act.Agree.log _).then_pure fun _ => none
  | phaseChanged old new =>
      exact (Act.Agree.log _).then_pure fun _ => none
  | buffering percent =>
      exact (bufferAt_agree hmoves percent).then_pure fun _ => none
  | tags batch =>
      exact mergeTags_agree batch

end

/-!
# What motion keeps
-/

section

variable [Pipeline P] {I : P -> Prop}
  (hperform : forall {command : Pipeline.Command}, command.moves = true ->
    (Pipeline.perform command).Keeps I)
  (hask : forall query, (Pipeline.ask query).Keeps I)

include hperform hask

theorem perform_keeps {request : Request} (hsilent : request.sounds = false) :
    (perform request).Keeps fun player : Player P => I player.pipeline := by
  intro player hkept
  rcases perform_agree (Pipeline.movesAlike_of_kept hperform hask) hsilent player player
    (Alike.on player.pipeline ⟨rfl, hkept⟩) with ⟨_, hnext⟩
  exact hnext.pipeline.2

theorem handle_keeps (event : Pipeline.Event) :
    (handle event : Act (Player P) ε (Option Notice)).Keeps fun player => I player.pipeline := by
  intro player hkept
  rcases handle_agree (ε := ε) (Pipeline.movesAlike_of_kept hperform hask) event player player
    (Alike.on player.pipeline ⟨rfl, hkept⟩) with ⟨_, hnext⟩
  exact hnext.pipeline.2

theorem after_keeps {step : Step} (hsilent : step.sounds = false) {player : Player P}
    (hkept : I player.pipeline) : I (player.after step).pipeline := by
  cases step with
  | request request =>
      exact perform_keeps hperform hask hsilent player hkept
  | event event =>
      exact handle_keeps hperform hask event player hkept

end

/-!
# Sound
-/

section

variable [Pipeline P] {same : P -> P -> Prop}

section

variable (hsounds : SoundsAlike same)

include hsounds

theorem tell_sounds {command : Pipeline.Command} (hcommand : command.sounds = true) :
    Act.Agree (fun player other : Player P => same player.pipeline other.pipeline)
      (tell command) (tell command) := by
  intro player other hsame
  exact (hsounds.perform hcommand).mapError Error.pipeline _ _ hsame

theorem setVolume_agree (volume : Float32) :
    Act.Agree (fun player other : Player P => same player.pipeline other.pipeline)
      (setVolume volume) (setVolume volume) := by
  rw [setVolume]
  by_cases hfraction : isFraction volume = true
  · rw [if_pos hfraction]
    refine (tell_sounds hsounds rfl).bind ?_
    intro told
    exact Act.Agree.log _
  · rw [if_neg hfraction]
    exact Act.Agree.fail _

theorem setMute_agree (mute : Bool) :
    Act.Agree (fun player other : Player P => same player.pipeline other.pipeline)
      (setMute mute) (setMute mute) := by
  refine (tell_sounds hsounds rfl).bind ?_
  intro told
  exact Act.Agree.log _

end

/-- Requests about volume and mute change nothing that motion depends on. -/
theorem after_stays {step : Step} (hstep : step.sounds = true)
    (hkept : forall {command : Pipeline.Command}, command.sounds = true ->
      forall {p q : P}, same p q -> same (Pipeline.perform command p).state q)
    {player other : Player P} (halike : Alike same player other) :
    Alike same (player.after step) other := by
  have htell : forall {command : Pipeline.Command}, command.sounds = true ->
      (tell command).Keeps fun player => Alike same player other := by
    rintro command hcommand player ⟨q, hsame⟩
    exact Alike.on q (hkept hcommand hsame)
  cases step with
  | event event =>
      cases hstep
  | request request =>
      show Alike same (perform request player).state other
      cases request with
      | setVolume volume =>
          rw [perform, Act.then_pure_state, setVolume]
          by_cases hfraction : isFraction volume = true
          · rw [if_pos hfraction]
            exact (htell rfl).bind (fun _ _ => id) player halike
          · rw [if_neg hfraction]
            exact halike
      | setMute mute =>
          rw [perform, Act.then_pure_state]
          exact (htell rfl).bind (fun _ _ => id) player halike
      | readVolume =>
          exact halike
      | readMute =>
          exact halike
      | _ =>
          cases hstep

end

end Player
end UpnpAv
