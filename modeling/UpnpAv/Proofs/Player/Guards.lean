import UpnpAv.Player.Run
import UpnpAv.Proofs.Player.Events
import UpnpAv.Proofs.Player.Requests

/-!
# Commands that a state does not allow

Only two commands depend on the state: a pause needs something that plays, and
playing needs a locator unless a pause is resumed.  A pipeline that refuses them
is another matter.

The pause for the buffer is the one state into which no command leads, and
without buffering no event leads there either.
-/

namespace UpnpAv
namespace Player

variable {P ε α : Type}

/-!
# Guards
-/

/-- A command failed because the state of the player does not allow it. -/
def NotAllowed (result : Except Error α) : Prop :=
  exists command state, result = .error (.notAllowed command state)

theorem not_notAllowed_mapError (result : Except Failure α) :
    ¬ NotAllowed (result.mapError Error.pipeline) := by
  rintro ⟨command, state, hresult⟩
  cases result <;> cases hresult

/-- An act on the pipeline alone is always allowed. -/
theorem not_notAllowed_onPipeline (m : Act P Failure Unit) {next : Act (Player P) Error Unit}
    (hnext : forall reached, (next reached).result = .ok ()) (player : Player P) :
    ¬ NotAllowed ((onPipeline (m.mapError .pipeline) >>= fun _ => next) player).result := by
  rw [Act.bind_result, onPipeline_result]
  cases hresult : ((m.mapError Error.pipeline) player.pipeline).result with
  | ok done =>
      show ¬ NotAllowed (next _).result
      rw [hnext]
      rintro ⟨command, state, hok⟩
      cases hok
  | error e =>
      show ¬ NotAllowed (Except.error e)
      rw [← hresult]
      exact not_notAllowed_mapError (m player.pipeline).result

variable [Pipeline P]

theorem pause_notAllowed {player : Player P} :
    NotAllowed (pause player).result <-> player.state ≠ .playing := by
  constructor
  · intro hrefused hplaying
    rw [pause_eq_tell hplaying] at hrefused
    exact not_notAllowed_onPipeline (Pipeline.perform .pause) (fun _ => rfl) player hrefused
  · intro hstate
    rw [pause_refused hstate]
    exact ⟨_, _, rfl⟩

theorem restart_notAllowed {player : Player P} :
    NotAllowed (restart player).result <-> player.target.uri = "" := by
  rw [restart, Act.bind_result]
  simp only [Act.read_apply]
  by_cases huri : player.target.uri = ""
  · rw [if_pos huri]
    exact iff_of_true ⟨_, _, rfl⟩ huri
  · rw [if_neg huri]
    exact iff_of_false
      (not_notAllowed_onPipeline (loadAndPlay player.target.uri) (fun _ => rfl) player) huri

theorem play_notAllowed {player : Player P} :
    NotAllowed (play player).result <->
      (forall reason, player.state ≠ .paused reason) ∧ player.target.uri = "" := by
  by_cases hpaused : exists reason, player.state = .paused reason
  · rcases hpaused with ⟨reason, hstate⟩
    rw [play_eq_resume hstate]
    exact iff_of_false
      (not_notAllowed_onPipeline (Pipeline.perform .play) (fun _ => rfl) player)
      fun hguard => hguard.1 reason hstate
  · have hunpaused : forall reason, player.state ≠ .paused reason :=
      fun reason hstate => hpaused ⟨reason, hstate⟩
    rw [play_eq_restart hunpaused, restart_notAllowed]
    exact ⟨fun huri => ⟨hunpaused, huri⟩, And.right⟩

/-!
# Players without buffering
-/

/-- A player that takes no notice of the buffer. -/
structure Bufferless (player : Player P) : Prop where
  off : player.buffering = false
  state : player.state ≠ .paused .buffering

theorem bufferless_perform (request : Request) {player : Player P}
    (hbufferless : player.Bufferless) : (perform request player).state.Bufferless := by
  have hperformed := perform_performed request player
  generalize (perform request player).state = next at hperformed
  cases hperformed with
  | kept q hstop =>
      exact ⟨hbufferless.off, hbufferless.state⟩
  | setUri uri =>
      exact ⟨hbufferless.off, hbufferless.state⟩
  | setNextUri uri =>
      exact ⟨hbufferless.off, hbufferless.state⟩
  | played q timing =>
      exact ⟨hbufferless.off, by simp⟩
  | paused q hplaying =>
      exact ⟨hbufferless.off, by simp⟩
  | stopped q =>
      exact ⟨hbufferless.off, by simp⟩
  | timed q known =>
      exact ⟨hbufferless.off, hbufferless.state⟩

theorem bufferless_handle (event : Pipeline.Event) {player : Player P}
    (hbufferless : player.Bufferless) :
    ((handle event : Act (Player P) ε (Option Notice)) player).state.Bufferless := by
  cases event with
  | aboutToFinish =>
      rcases aboutToFinish_state (ε := ε) player with ⟨q, timing, _, hstate⟩
      rw [handle_aboutToFinish_state, hstate]
      exact ⟨hbufferless.off, hbufferless.state⟩
  | endOfStream =>
      rw [handle_endOfStream_state]
      rcases endOfStream_cases (ε := ε) player with ⟨q, _, hstate⟩ | ⟨q, _, hstate⟩
      · rw [hstate]
        exact ⟨hbufferless.off, by simp⟩
      · rw [hstate]
        exact ⟨hbufferless.off, by simp⟩
  | error message details =>
      exact hbufferless
  | phaseChanged old new =>
      exact hbufferless
  | tags batch =>
      exact ⟨hbufferless.off, hbufferless.state⟩
  | buffering percent =>
      rw [handle, Act.then_pure_state, bufferAt_off percent hbufferless.off]
      exact hbufferless

/-- Without buffering no step leads into the pause for the buffer. -/
theorem bufferless_after (step : Step) {player : Player P} (hbufferless : player.Bufferless) :
    (player.after step).Bufferless := by
  cases step with
  | request request =>
      exact bufferless_perform request hbufferless
  | event event =>
      exact bufferless_handle event hbufferless

end Player
end UpnpAv
