import UpnpAv.Player.Run
import UpnpAv.Proofs.Player.Commands

/-!
# What the requests make of a player

Everything that a request can do to a player, in one relation, so that a fact
about all requests has one case for each kind of change.
-/

namespace UpnpAv
namespace Player

variable {P : Type}

/-- What a request does to a player.  Only a stop changes more than the pipeline when it fails. -/
inductive Performed (player : Player P) : Request -> Player P -> Prop where
  | kept {request : Request} (q : P) :
      request ≠ .stop -> Performed player request { player with pipeline := q }
  | setUri (uri : String) :
      Performed player (.setUri uri)
        { player with
          target := { player.target with uri := uri }
          metadata := .empty
          timing := .unknown }
  | setNextUri (uri : String) :
      Performed player (.setNextUri uri)
        { player with target := { player.target with nextUri := uri } }
  | played (q : P) (timing : Timing) :
      Performed player .play { player with pipeline := q, state := .playing, timing := timing }
  | paused (q : P) :
      player.state = .playing ->
      Performed player .pause { player with pipeline := q, state := .paused .user }
  | stopped (q : P) :
      Performed player .stop
        { player with pipeline := q, state := .stopped, timing := .unknown }
  | timed (q : P) (known : Timing) :
      Performed player .readTiming { player with pipeline := q, timing := known }

variable [Pipeline P]

theorem perform_performed (request : Request) (player : Player P) :
    player.Performed request (perform request player).state := by
  cases request with
  | setUri uri =>
      rw [perform, Act.then_pure_state]
      rcases setUri_cases uri player with ⟨_, hstate⟩ | ⟨_, hstate⟩
      · rw [hstate]
        exact Performed.setUri uri
      · rw [hstate]
        exact Performed.kept player.pipeline (by simp)
  | setNextUri uri =>
      rw [perform, Act.then_pure_state]
      rcases setNextUri_cases uri player with ⟨_, hstate⟩ | ⟨_, hstate⟩
      · rw [hstate]
        exact Performed.setNextUri uri
      · rw [hstate]
        exact Performed.kept player.pipeline (by simp)
  | play =>
      rw [perform, Act.then_pure_state]
      rcases play_cases player with ⟨q, timing, _, hstate⟩ | ⟨e, q, _, hstate⟩
      · rw [hstate]
        exact Performed.played q timing
      · rw [hstate]
        exact Performed.kept q (by simp)
  | pause =>
      rw [perform, Act.then_pure_state]
      rcases pause_cases player with ⟨q, hplaying, _, hstate⟩ | ⟨e, q, _, hstate⟩
      · rw [hstate]
        exact Performed.paused q hplaying
      · rw [hstate]
        exact Performed.kept q (by simp)
  | stop =>
      rw [perform, Act.then_pure_state, stop_state]
      exact Performed.stopped _
  | seek position =>
      rw [perform, Act.then_pure_state]
      rcases seek_state position player with ⟨q, hstate⟩
      rw [hstate]
      exact Performed.kept q (by simp)
  | setVolume volume =>
      rw [perform, Act.then_pure_state]
      rcases setVolume_state volume player with ⟨q, hstate⟩
      rw [hstate]
      exact Performed.kept q (by simp)
  | setMute mute =>
      rw [perform, Act.then_pure_state]
      rcases setMute_state mute player with ⟨q, hstate⟩
      rw [hstate]
      exact Performed.kept q (by simp)
  | readTiming =>
      rw [perform, Act.map_state]
      rcases readTiming_answers (ε := Error) player with ⟨q, known, answer, _, hstate⟩
      rw [hstate]
      exact Performed.timed q known
  | readVolume =>
      exact Performed.kept player.pipeline (by simp)
  | readMute =>
      exact Performed.kept player.pipeline (by simp)

end Player
end UpnpAv
