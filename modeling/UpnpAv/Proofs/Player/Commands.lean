import UpnpAv.Player.Basic
import UpnpAv.Proofs.Act

/-!
# What the commands make of a player

A command that fails leaves the player as it was, apart from the pipeline; only
a stop ends in the stopped state whatever the pipeline says.  Whether a command
succeeds is up to the pipeline, so each command has one lemma with the two
outcomes.
-/

namespace UpnpAv
namespace Player

variable {P ε α : Type}

/-!
# Pipeline
-/

theorem onPipeline_result (m : Act P ε α) (player : Player P) :
    (onPipeline m player).result = (m player.pipeline).result :=
  rfl

/-!
# Locators
-/

theorem setUri_cases (uri : String) (player : Player P) :
    ((setUri uri player).result = .ok () ∧
      (setUri uri player).state =
        { player with
          target := { player.target with uri := uri }
          metadata := .empty
          timing := .unknown }) ∨
    (exists e, (setUri uri player).result = .error e) ∧
      (setUri uri player).state = player := by
  rw [setUri, Act.bind_result, Act.bind_state]
  simp only [Act.ofExcept_apply]
  cases checkUri uri with
  | ok done =>
      exact Or.inl ⟨rfl, rfl⟩
  | error e =>
      exact Or.inr ⟨⟨e, rfl⟩, rfl⟩

theorem setNextUri_cases (uri : String) (player : Player P) :
    ((setNextUri uri player).result = .ok () ∧
      (setNextUri uri player).state =
        { player with target := { player.target with nextUri := uri } }) ∨
    (exists e, (setNextUri uri player).result = .error e) ∧
      (setNextUri uri player).state = player := by
  rw [setNextUri, Act.bind_result, Act.bind_state]
  simp only [Act.ofExcept_apply]
  cases checkUri uri with
  | ok done =>
      exact Or.inl ⟨rfl, rfl⟩
  | error e =>
      exact Or.inr ⟨⟨e, rfl⟩, rfl⟩

/-!
# Transport
-/

variable [Pipeline P]

theorem restart_cases (player : Player P) :
    (exists q, (restart player).result = .ok () ∧
      (restart player).state =
        { player with pipeline := q, state := .playing, timing := .unknown }) ∨
    (exists e q, (restart player).result = .error e ∧
      (restart player).state = { player with pipeline := q }) := by
  rw [restart, Act.bind_result, Act.bind_state]
  simp only [Act.read_apply]
  by_cases huri : player.target.uri = ""
  · rw [if_pos huri]
    exact Or.inr ⟨_, player.pipeline, rfl, rfl⟩
  · rw [if_neg huri, Act.bind_result, Act.bind_state]
    cases hload : (onPipeline
        ((loadAndPlay player.target.uri).mapError Error.pipeline) player).result with
    | ok done =>
        exact Or.inl ⟨_, rfl, rfl⟩
    | error e =>
        exact Or.inr ⟨e, _, rfl, rfl⟩

theorem play_eq_resume {reason : PauseReason} {player : Player P}
    (hstate : player.state = .paused reason) :
    play player =
      (Act.log (.debug s!"Resuming playback paused by {reason.name}") >>= fun _ =>
        tell .play >>= fun _ => enter .playing) player := by
  rcases player with ⟨pipeline, state, target, tags, timing, types, buffering⟩
  cases hstate
  rfl

theorem play_eq_restart {player : Player P}
    (hstate : forall reason, player.state ≠ .paused reason) : play player = restart player := by
  rcases player with ⟨pipeline, state, target, tags, timing, types, buffering⟩
  cases state with
  | paused reason =>
      exact absurd rfl (hstate reason)
  | stopped =>
      rfl
  | ready =>
      rfl
  | playing =>
      rfl

theorem play_cases (player : Player P) :
    (exists q timing, (play player).result = .ok () ∧
      (play player).state = { player with pipeline := q, state := .playing, timing := timing }) ∨
    (exists e q, (play player).result = .error e ∧
      (play player).state = { player with pipeline := q }) := by
  by_cases hpaused : exists reason, player.state = .paused reason
  · rcases hpaused with ⟨reason, hstate⟩
    rw [play_eq_resume hstate, Act.bind_result, Act.bind_state]
    simp only [Act.log_apply, Act.bind_result, Act.bind_state]
    cases htell : (tell .play player).result with
    | ok done =>
        exact Or.inl ⟨_, player.timing, rfl, rfl⟩
    | error e =>
        exact Or.inr ⟨e, _, rfl, rfl⟩
  · rw [play_eq_restart fun reason hstate => hpaused ⟨reason, hstate⟩]
    rcases restart_cases player with ⟨q, hok, hplaying⟩ | hfailed
    · exact Or.inl ⟨q, .unknown, hok, hplaying⟩
    · exact Or.inr hfailed

theorem pause_eq_tell {player : Player P} (hstate : player.state = .playing) :
    pause player = (tell .pause >>= fun _ => enter (.paused .user)) player := by
  rcases player with ⟨pipeline, state, target, tags, timing, types, buffering⟩
  cases hstate
  rfl

theorem pause_refused {player : Player P} (hstate : player.state ≠ .playing) :
    pause player = ⟨.error (.notAllowed .pause player.state), player, []⟩ := by
  rcases player with ⟨pipeline, state, target, tags, timing, types, buffering⟩
  cases state with
  | playing =>
      exact absurd rfl hstate
  | stopped =>
      rfl
  | ready =>
      rfl
  | paused reason =>
      rfl

theorem pause_cases (player : Player P) :
    (exists q, player.state = .playing ∧ (pause player).result = .ok () ∧
      (pause player).state = { player with pipeline := q, state := .paused .user }) ∨
    (exists e q, (pause player).result = .error e ∧
      (pause player).state = { player with pipeline := q }) := by
  by_cases hstate : player.state = .playing
  · rw [pause_eq_tell hstate, Act.bind_result, Act.bind_state]
    cases htell : (tell .pause player).result with
    | ok done =>
        exact Or.inl ⟨_, hstate, rfl, rfl⟩
    | error e =>
        exact Or.inr ⟨e, _, rfl, rfl⟩
  · rw [pause_refused hstate]
    exact Or.inr ⟨_, player.pipeline, rfl, rfl⟩

/-- A stop ends in the stopped state, whether it fails or not. -/
theorem stop_state (player : Player P) :
    (stop player).state =
      { player with
        pipeline := (Pipeline.perform .stop player.pipeline).state
        state := .stopped
        timing := .unknown } := by
  rw [stop, Act.bind_state]
  simp only [Act.attempt_apply, onPipeline_result]
  cases (Pipeline.perform .stop player.pipeline).result <;> rfl

theorem seek_state (position : Int) (player : Player P) :
    exists q, (seek position player).state = { player with pipeline := q } := by
  rw [seek]
  by_cases hposition : position < 0
  · rw [if_pos hposition]
    exact ⟨player.pipeline, rfl⟩
  · rw [if_neg hposition, Act.bind_state]
    cases (tell (.seek position) player).result <;> exact ⟨_, rfl⟩

/-!
# Volume and mute
-/

theorem setVolume_state (volume : Float32) (player : Player P) :
    exists q, (setVolume volume player).state = { player with pipeline := q } := by
  rw [setVolume]
  by_cases hfraction : isFraction volume = true
  · rw [if_pos hfraction, Act.bind_state]
    cases (tell (.setVolume volume) player).result <;> exact ⟨_, rfl⟩
  · rw [if_neg hfraction]
    exact ⟨player.pipeline, rfl⟩

theorem setMute_state (mute : Bool) (player : Player P) :
    exists q, (setMute mute player).state = { player with pipeline := q } := by
  rw [setMute, Act.bind_state]
  cases (tell (.setMute mute) player).result <;> exact ⟨_, rfl⟩

/-!
# Questions
-/

/-- Asking for the times never fails, and changes nothing but the pipeline and the known times. -/
theorem readTiming_answers (player : Player P) :
    exists q known answer,
      ((readTiming : Act (Player P) ε Timing) player).result = .ok answer ∧
      ((readTiming : Act (Player P) ε Timing) player).state =
        { player with pipeline := q, timing := known } := by
  rw [readTiming, Act.bind_result, Act.bind_state]
  simp only [Act.read_apply]
  cases player.state.isPlaying with
  | true =>
      exact ⟨_, _, _, rfl, rfl⟩
  | false =>
      exact ⟨player.pipeline, player.timing, _, rfl, rfl⟩

/-- Whoever asks for the times, the player is the same afterwards. -/
theorem readTiming_state (δ : Type) (player : Player P) :
    ((readTiming : Act (Player P) ε Timing) player).state =
      ((readTiming : Act (Player P) δ Timing) player).state := by
  rw [readTiming, readTiming, Act.bind_state, Act.bind_state]
  simp only [Act.read_apply]
  cases player.state.isPlaying <;> rfl

end Player
end UpnpAv
