import UpnpAv.Proofs.Player.Commands

/-!
# Commands of a player that fail

A command that fails has changed nothing but the pipeline.  It has not even
reached the pipeline, unless the failure is the pipeline's own.
-/

namespace UpnpAv
namespace Player

variable {P α β : Type}

/-!
# Atomic acts
-/

/-- When the act fails, only the pipeline may have changed, and only by a failure of its own. -/
def IsAtomic (m : Act (Player P) Error α) : Prop :=
  forall player e, (m player).result = .error e ->
    exists q, (m player).state = { player with pipeline := q } ∧
      (q = player.pipeline ∨ exists failure, e = .pipeline failure)

theorem isAtomic_fail (e : Error) : IsAtomic (Act.fail e : Act (Player P) Error α) := by
  intro player failure _
  exact ⟨player.pipeline, rfl, Or.inl rfl⟩

theorem isAtomic_ofExcept (result : Except Error α) :
    IsAtomic (Act.ofExcept result : Act (Player P) Error α) := by
  intro player e _
  exact ⟨player.pipeline, rfl, Or.inl rfl⟩

/-- The failures of the pipeline are the only ones that follow a call of it. -/
theorem isAtomic_onPipeline (m : Act P Failure α) :
    IsAtomic (onPipeline (m.mapError Error.pipeline)) := by
  intro player e hresult
  refine ⟨(m player.pipeline).state, rfl, Or.inr ?_⟩
  have hmapped : (m player.pipeline).result.mapError Error.pipeline = .error e := hresult
  cases hfailure : (m player.pipeline).result with
  | error failure =>
      rw [hfailure] at hmapped
      cases hmapped
      exact ⟨failure, rfl⟩
  | ok a =>
      rw [hfailure] at hmapped
      cases hmapped

theorem IsAtomic.read {next : Player P -> Act (Player P) Error α}
    (hnext : forall seen, IsAtomic (next seen)) : IsAtomic (Act.read >>= next) := by
  intro player e hresult
  rw [Act.bind_result] at hresult
  rw [Act.bind_state]
  exact hnext player player e hresult

theorem IsAtomic.log (line : Line) {next : Act (Player P) Error α} (hnext : IsAtomic next) :
    IsAtomic (Act.log line >>= fun _ => next) := by
  intro player e hresult
  rw [Act.bind_result] at hresult
  rw [Act.bind_state]
  exact hnext player e hresult

/-- Whatever always answers may follow an atomic act. -/
theorem IsAtomic.bind {m : Act (Player P) Error α} {next : α -> Act (Player P) Error β}
    (hm : IsAtomic m) (hnext : forall a player, exists b, (next a player).result = .ok b) :
    IsAtomic (m >>= next) := by
  intro player e hresult
  rw [Act.bind_result] at hresult
  rw [Act.bind_state]
  cases hfirst : (m player).result with
  | error first =>
      rw [hfirst] at hresult
      cases hresult
      exact hm player e hfirst
  | ok a =>
      rw [hfirst] at hresult
      rcases hnext a (m player).state with ⟨b, hb⟩
      rw [show (next a (m player).state).result = .error e from hresult] at hb
      cases hb

/-!
# Commands
-/

theorem setUri_isAtomic (uri : String) : IsAtomic (setUri uri : Act (Player P) Error Unit) := by
  unfold setUri
  apply (isAtomic_ofExcept _).bind
  intro checked player
  exact ⟨(), rfl⟩

theorem setNextUri_isAtomic (uri : String) :
    IsAtomic (setNextUri uri : Act (Player P) Error Unit) := by
  unfold setNextUri
  apply (isAtomic_ofExcept _).bind
  intro checked player
  exact ⟨(), rfl⟩

variable [Pipeline P]

theorem restart_isAtomic : IsAtomic (restart : Act (Player P) Error Unit) := by
  unfold restart
  apply IsAtomic.read
  intro seen
  by_cases huri : seen.target.uri = ""
  · rw [if_pos huri]
    exact isAtomic_fail _
  · rw [if_neg huri]
    apply (isAtomic_onPipeline _).bind
    intro loaded player
    exact ⟨(), rfl⟩

theorem play_isAtomic : IsAtomic (play : Act (Player P) Error Unit) := by
  unfold play
  apply IsAtomic.read
  intro seen
  cases seen.state with
  | stopped =>
      exact restart_isAtomic
  | ready =>
      exact restart_isAtomic
  | playing =>
      exact restart_isAtomic
  | paused reason =>
      apply IsAtomic.log
      apply (isAtomic_onPipeline _).bind
      intro resumed player
      exact ⟨(), rfl⟩

theorem pause_isAtomic : IsAtomic (pause : Act (Player P) Error Unit) := by
  unfold pause
  apply IsAtomic.read
  intro seen
  cases seen.state.isPlaying with
  | false =>
      exact isAtomic_fail _
  | true =>
      apply (isAtomic_onPipeline _).bind
      intro paused player
      exact ⟨(), rfl⟩

theorem seek_isAtomic (position : Int) :
    IsAtomic (seek position : Act (Player P) Error Unit) := by
  unfold seek
  by_cases hposition : position < 0
  · rw [if_pos hposition]
    exact isAtomic_fail _
  · rw [if_neg hposition]
    apply (isAtomic_onPipeline _).bind
    intro moved player
    exact ⟨(), rfl⟩

theorem setVolume_isAtomic (volume : Float32) :
    IsAtomic (setVolume volume : Act (Player P) Error Unit) := by
  unfold setVolume
  cases isFraction volume with
  | false =>
      exact isAtomic_fail _
  | true =>
      apply (isAtomic_onPipeline _).bind
      intro set player
      exact ⟨(), rfl⟩

theorem setMute_isAtomic (mute : Bool) :
    IsAtomic (setMute mute : Act (Player P) Error Unit) := by
  unfold setMute
  apply (isAtomic_onPipeline _).bind
  intro set player
  exact ⟨(), rfl⟩

/-- A stop fails exactly when the pipeline does. -/
theorem stop_result (player : Player P) :
    (stop player).result =
      (Pipeline.perform .stop player.pipeline).result.mapError Error.pipeline := by
  rw [stop, Act.bind_result]
  simp only [Act.attempt_apply, onPipeline_result]
  cases (Pipeline.perform .stop player.pipeline).result <;> rfl

end Player
end UpnpAv
