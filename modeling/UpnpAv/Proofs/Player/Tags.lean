import UpnpAv.Player.Run
import UpnpAv.Proofs.Player.Events

/-!
# The tags that a player knows

A new locator clears the tags.  A queued stream that takes over does not: until
the next batch with something new the player goes on knowing the tags of the
stream before it.
-/

namespace UpnpAv

namespace Metadata

/-!
# Batches
-/

/-- A batch says nothing about the kept tags that is not known. -/
def Covers (tags : Metadata) (batch : List (String × String)) : Prop :=
  forall pair, pair ∈ batch -> forall tag, Tag.ofName? pair.1 = some tag ->
    tags.get tag = pair.2

theorem mergePair_unreplaced {tags : Metadata} {pair : String × String} :
    (tags.mergePair pair.1 pair.2).2 = false <->
      forall tag, Tag.ofName? pair.1 = some tag -> tags.get tag = pair.2 := by
  rw [mergePair]
  cases htag : Tag.ofName? pair.1 with
  | none =>
      simp
  | some tag =>
      by_cases hsame : tags.get tag = pair.2
      · simp [hsame]
      · simp [hsame]

/-- A batch replaces a value exactly when it says something new. -/
theorem merge_unreplaced {tags : Metadata} {batch : List (String × String)} :
    (tags.merge batch).2 = false <-> tags.Covers batch := by
  induction batch with
  | nil =>
      constructor
      · intro _ pair hpair
        cases hpair
      · intro _
        rfl
  | cons pair rest ih =>
      rw [merge, Bool.or_eq_false_iff]
      constructor
      · rintro ⟨hfirst, hrest⟩
        rw [mergePair_eq_self hfirst] at hrest
        exact List.forall_mem_cons.mpr ⟨mergePair_unreplaced.mp hfirst, ih.mp hrest⟩
      · intro hcovers
        rcases List.forall_mem_cons.mp hcovers with ⟨hpair, hrest⟩
        have hfirst := mergePair_unreplaced.mpr hpair
        rw [mergePair_eq_self hfirst]
        exact ⟨hfirst, ih.mpr hrest⟩

end Metadata

namespace Player

/-!
# Outdated tags
-/

variable {P : Type}

theorem metadata_of_unannounced {player next : Player P} (hnext : player.Unannounced next) :
    next.metadata = player.metadata := by
  cases hnext <;> rfl

variable [Pipeline P]

/--
What a step decides about the known tags: whether they belong to a stream that
is over.  Most steps decide nothing.
-/
def outdates? (player : Player P) : Step -> Option Bool
  | .request (.setUri uri) =>
      match (setUri uri player).result with
      | .ok _ => some false
      | .error _ => none
  | .request _ => none
  | .event event =>
      match (handle (ε := Empty) event player).result with
      | .ok (some (.transition .startedNextStream)) => some true
      | .ok (some (.metadata _)) => some false
      | _ => none

/-- Whether the known tags belong to a stream that is over, given what held before the steps. -/
def outdated (player : Player P) (before : Bool) : List Step -> Bool
  | [] => before
  | step :: rest => (player.after step).outdated ((player.outdates? step).getD before) rest

theorem outdates?_unannounced {event : Pipeline.Event} {player : Player P}
    (hresult : (handle (ε := Empty) event player).result = .ok none) :
    player.outdates? (.event event) = none := by
  rw [outdates?, hresult]

/-- Tags are announced exactly when a batch says something new. -/
theorem handle_tags_result (batch : List (String × String)) (player : Player P) :
    (handle (ε := Empty) (.tags batch) player).result =
      .ok (if (player.metadata.merge batch).2 then
        some (.metadata (player.metadata.merge batch).1) else none) := by
  rw [handle, mergeTags, Act.bind_result]
  rfl

theorem handle_tags_state (batch : List (String × String)) (player : Player P) :
    (handle (ε := Empty) (.tags batch) player).state =
      { player with metadata := (player.metadata.merge batch).1 } := by
  rfl

end Player
end UpnpAv
