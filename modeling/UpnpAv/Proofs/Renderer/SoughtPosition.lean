import UpnpAv.Proofs.Clock
import UpnpAv.Proofs.Player.Exchanges
import UpnpAv.Renderer.Basic

/-!
# Positions that are asked for

A renderer goes to a position that is given as a clock time.  A text that is none
is refused before the player hears of it, so the player is never asked for a
position that it would refuse itself.
-/

namespace UpnpAv

namespace Player

open Pipeline (Traced)

variable {P : Type} [Pipeline P]

theorem seek_told (n : Nat) (player : Player (Traced P)) :
    exists accepted,
      (seek n player).state.pipeline.trace =
        player.pipeline.trace ++ [.command (.seek n) accepted] ∧
      (seek n player).result.isOk = accepted ∧
      forall position, (seek n player).result ≠ .error (.negativeSeek position) := by
  have hposition : ¬ (n : Int) < 0 := by omega
  rw [seek, if_neg hposition]
  rcases tell_log (.seek n) (.debug s!"Seeked to {(n : Int)} ns") player with ⟨hresult, hstate⟩
  refine ⟨_, ?_, hresult, ?_⟩
  · rw [hstate]
    exact perform_trace (.seek n) player.pipeline
  · intro position hrefused
    rw [Act.bind_result] at hrefused
    have htell : (tell (.seek n) player).result =
        (Pipeline.perform (.seek n) player.pipeline).result.mapError .pipeline := rfl
    rw [htell] at hrefused
    cases hanswer : (Pipeline.perform (.seek n) player.pipeline).result with
    | error failure =>
        rw [hanswer] at hrefused
        cases hrefused
    | ok done =>
        rw [hanswer] at hrefused
        cases hrefused

end Player

namespace Renderer

open Pipeline (Traced)

variable {P X : Type}

/-!
# Texts
-/

theorem soughtPosition_eq_ok {text : String} {n : Nat} :
    soughtPosition text = .ok n <-> Clock.Names text n ∧ n ≤ Clock.limit := by
  rw [← Clock.parse?_eq_some, soughtPosition]
  cases Clock.parse? text with
  | none =>
      simp
  | some position =>
      simp

theorem soughtPosition_error {text : String} {e : Error}
    (hrefused : soughtPosition text = .error e) : e = .invalidTime text := by
  rw [soughtPosition] at hrefused
  cases hread : Clock.parse? text with
  | none =>
      rw [hread] at hrefused
      exact (Except.error.inj hrefused).symm
  | some position =>
      rw [hread] at hrefused
      cases hrefused

theorem soughtPosition_eq_error {text : String} :
    soughtPosition text = .error (.invalidTime text) <->
      ¬ exists n, Clock.Names text n ∧ n ≤ Clock.limit := by
  constructor
  · intro hrefused hnamed
    rcases hnamed with ⟨n, hn⟩
    rw [soughtPosition_eq_ok.mpr hn] at hrefused
    cases hrefused
  · intro hunnamed
    cases hread : soughtPosition text with
    | error e =>
        rw [soughtPosition_error hread]
    | ok n =>
        exact absurd ⟨n, soughtPosition_eq_ok.mp hread⟩ hunnamed

/-!
# Seeking
-/

variable [Pipeline P]

theorem seek_refused {text : String} {e : Error} (hrefused : soughtPosition text = .error e)
    (renderer : Renderer P X) : seek text renderer = ⟨.error e, renderer, []⟩ := by
  rw [seek, hrefused]
  rfl

theorem seek_read {text : String} {n : Nat} (hread : soughtPosition text = .ok n)
    (renderer : Renderer P X) :
    seek text renderer =
      ⟨(Player.seek n renderer.player).result.mapError .player,
        { renderer with player := (Player.seek n renderer.player).state },
        (Player.seek n renderer.player).lines⟩ := by
  rw [seek, hread]
  rfl

/--
A text is read as a number of nanoseconds exactly if it names that number and the
number can be held.  Any other text is refused, as it was given, before anything
happens.  A number that was read is handed to the pipeline once, and the player
never refuses it for being negative.
-/
theorem times_sought_exactly (text : String) (renderer : Renderer (Traced P) X) :
    (forall n, soughtPosition text = .ok n <-> Clock.Names text n ∧ n ≤ Clock.limit) ∧
    (soughtPosition text = .error (.invalidTime text) <->
      ¬ exists n, Clock.Names text n ∧ n ≤ Clock.limit) ∧
    (forall e, soughtPosition text = .error e ->
      seek text renderer = ⟨.error e, renderer, []⟩) ∧
    (forall n, soughtPosition text = .ok n ->
      exists accepted,
        (seek text renderer).state.player.pipeline.trace =
          renderer.player.pipeline.trace ++ [.command (.seek n) accepted] ∧
        (seek text renderer).result.isOk = accepted) ∧
    (forall position,
      (seek text renderer).result ≠ .error (.player (.negativeSeek position))) := by
  constructor
  · intro n
    exact soughtPosition_eq_ok
  constructor
  · exact soughtPosition_eq_error
  constructor
  · intro e hrefused
    exact seek_refused hrefused renderer
  constructor
  · intro n hread
    rcases Player.seek_told n renderer.player with ⟨accepted, htrace, hresult, _⟩
    rw [seek_read hread]
    refine ⟨accepted, htrace, ?_⟩
    rw [← hresult]
    cases (Player.seek n renderer.player).result <;> rfl
  · intro position hnegative
    cases hread : soughtPosition text with
    | error e =>
        rw [seek_refused hread, soughtPosition_error hread] at hnegative
        cases hnegative
    | ok n =>
        rcases Player.seek_told n renderer.player with ⟨_, _, _, hposition⟩
        rw [seek_read hread] at hnegative
        cases hresult : (Player.seek n renderer.player).result with
        | ok done =>
            rw [hresult] at hnegative
            cases hnegative
        | error e =>
            rw [hresult] at hnegative
            cases hnegative
            exact hposition position hresult

end Renderer
end UpnpAv
