import UpnpAv.Proofs.Player.Events
import UpnpAv.Proofs.Player.Requests

/-!
# Copies of the locators of a player

Whoever writes down the locators of a player learns of them by its own commands
and when a queued stream takes over.  Two things happen without a word: a locator
that is queued early, when the stream is close to its end, and one that moves up
at the end and then cannot be played.  The copies are outdated until they are
written again.
-/

namespace UpnpAv

/-- A locator as it was written down, and whether the player has moved on since. -/
structure Copy where
  value : String
  outdated : Bool
deriving Repr, DecidableEq

/-- A fresh copy. -/
def Copy.of (value : String) : Copy :=
  ⟨value, false⟩

/-- The same copy after the player has moved on. -/
def Copy.outdate (copy : Copy) : Copy :=
  { copy with outdated := true }

/-- What was written down about the locators of a player. -/
structure Copies where
  /-- What was set to play. -/
  uri : Copy
  /-- What is played, or was played last. -/
  track : Copy
  /-- What is queued. -/
  next : Copy
deriving Repr, DecidableEq

namespace Copies

/-- Fresh copies. -/
def of (target : Target) : Copies :=
  ⟨.of target.uri, .of target.uri, .of target.nextUri⟩

/-- The same copies after the player has moved on. -/
def outdate (copies : Copies) : Copies :=
  ⟨copies.uri.outdate, copies.track.outdate, copies.next.outdate⟩

/--
Copies that agree with the locators unless they are outdated.  An outdated copy
of the queue names a locator although nothing is queued any more.
-/
structure Follow (copies : Copies) (target : Target) : Prop where
  uri : copies.uri.outdated = false -> copies.uri.value = target.uri
  track : copies.track.outdated = false -> copies.track.value = target.uri
  next : copies.next.outdated = false -> copies.next.value = target.nextUri
  emptied : copies.next.outdated = true -> target.nextUri = "" ∧ copies.next.value ≠ ""

theorem follow_of (target : Target) : (of target).Follow target := by
  refine ⟨fun _ => rfl, fun _ => rfl, fun _ => rfl, ?_⟩
  intro houtdated
  cases houtdated

theorem Follow.outdate {copies : Copies} {target : Target} (hfollow : copies.Follow target)
    (hqueued : target.nextUri ≠ "") : copies.outdate.Follow ⟨target.nextUri, ""⟩ := by
  constructor
  · intro hfresh
    cases hfresh
  · intro hfresh
    cases hfresh
  · intro hfresh
    cases hfresh
  · intro _
    refine ⟨rfl, ?_⟩
    -- Something is queued, so the copy of the queue was still a fresh one.
    cases houtdated : copies.next.outdated with
    | true =>
        exact absurd (hfollow.emptied houtdated).1 hqueued
    | false =>
        show copies.next.value ≠ ""
        rw [hfollow.next houtdated]
        exact hqueued

theorem Follow.unheard {copies : Copies} {before target : Target} (hfollow : copies.Follow before)
    (htarget : target = before ∨ target = before.advance.2) :
    (if target = before then copies else copies.outdate).Follow target := by
  by_cases hsame : target = before
  · rw [if_pos hsame, hsame]
    exact hfollow
  · rw [if_neg hsame]
    have hadvance := htarget.resolve_left hsame
    have hqueued : before.nextUri ≠ "" := by
      intro hempty
      rw [Target.advance_of_empty hempty] at hadvance
      exact hsame hadvance
    rw [hadvance, Target.advance_of_queued hqueued]
    exact hfollow.outdate hqueued

/-- The copies after a command that rewrites some of them if it is accepted. -/
def answered (copies rewritten : Copies) (result : Except Player.Error Unit) : Copies :=
  match result with
  | .ok _ => rewritten
  | .error _ => copies

theorem answered_ok (copies rewritten : Copies) :
    copies.answered rewritten (.ok ()) = rewritten :=
  rfl

theorem answered_refused (copies rewritten : Copies) {result : Except Player.Error Unit}
    (hrefused : result ≠ .ok ()) : copies.answered rewritten result = copies := by
  cases result with
  | ok done =>
      exact absurd rfl hrefused
  | error e =>
      rfl

end Copies

namespace Player

variable {P : Type}

/-!
# Steps
-/

theorem target_of_unannounced {player next : Player P} (hnext : player.Unannounced next) :
    next.target = player.target ∨ next.target = player.target.advance.2 := by
  cases hnext with
  | kept q =>
      exact Or.inl rfl
  | queued q timing =>
      exact Or.inr rfl
  | paused q hstate =>
      exact Or.inl rfl
  | resumed q hstate =>
      exact Or.inl rfl

variable [Pipeline P]

/--
What is written down at a step.  An event that changes the locators and lets no
queued stream take over is not heard of.
-/
def recopied (player : Player P) (copies : Copies) : Step -> Copies
  | .request (.setUri uri) =>
      match (setUri uri player).result with
      | .ok _ => { copies with uri := .of uri, track := .of uri }
      | .error _ => copies
  | .request (.setNextUri uri) =>
      match (setNextUri uri player).result with
      | .ok _ => { copies with next := .of uri }
      | .error _ => copies
  | .request .play =>
      match (play player).result with
      | .ok _ => { copies with track := .of player.target.uri }
      | .error _ => copies
  | .request _ => copies
  | .event event =>
      match (handle (ε := Empty) event player).result with
      | .ok (some (.transition .startedNextStream)) =>
          .of (player.after (.event event)).target
      | _ =>
          if (player.after (.event event)).target = player.target then copies
          else copies.outdate

/-- What has been written down after some steps. -/
def copied (player : Player P) (copies : Copies) : List Step -> Copies
  | [] => copies
  | step :: rest => (player.after step).copied (player.recopied copies step) rest

section

variable {player : Player P} (copies : Copies) {uri : String} {event : Pipeline.Event}

theorem recopied_setUri :
    player.recopied copies (.request (.setUri uri)) =
      copies.answered { copies with uri := .of uri, track := .of uri }
        (setUri uri player).result :=
  rfl

theorem recopied_setNextUri :
    player.recopied copies (.request (.setNextUri uri)) =
      copies.answered { copies with next := .of uri } (setNextUri uri player).result :=
  rfl

theorem recopied_play :
    player.recopied copies (.request .play) =
      copies.answered { copies with track := .of player.target.uri } (play player).result :=
  rfl

theorem recopied_started
    (hresult : (handle (ε := Empty) event player).result =
      .ok (some (.transition .startedNextStream))) :
    player.recopied copies (.event event) = .of (player.after (.event event)).target := by
  rw [recopied, hresult]

theorem recopied_unheard
    (hresult : (handle (ε := Empty) event player).result ≠
      .ok (some (.transition .startedNextStream))) :
    player.recopied copies (.event event) =
      if (player.after (.event event)).target = player.target then copies
      else copies.outdate := by
  rw [recopied]
  split
  · next hstarted =>
      exact absurd hstarted hresult
  · rfl

end

theorem follow_setUri (uri : String) {player : Player P} {copies : Copies}
    (hfollow : copies.Follow player.target) :
    (player.recopied copies (.request (.setUri uri))).Follow
      (player.after (.request (.setUri uri))).target := by
  rw [after, perform, Act.then_pure_state]
  rcases setUri_cases uri player with ⟨hresult, hstate⟩ | ⟨⟨e, hresult⟩, hstate⟩
  · rw [recopied_setUri, hresult, Copies.answered_ok, hstate]
    exact ⟨fun _ => rfl, fun _ => rfl, hfollow.next, hfollow.emptied⟩
  · rw [recopied_setUri, Copies.answered_refused _ _ (by simp [hresult]), hstate]
    exact hfollow

theorem follow_setNextUri (uri : String) {player : Player P} {copies : Copies}
    (hfollow : copies.Follow player.target) :
    (player.recopied copies (.request (.setNextUri uri))).Follow
      (player.after (.request (.setNextUri uri))).target := by
  rw [after, perform, Act.then_pure_state]
  rcases setNextUri_cases uri player with ⟨hresult, hstate⟩ | ⟨⟨e, hresult⟩, hstate⟩
  · rw [recopied_setNextUri, hresult, Copies.answered_ok, hstate]
    refine ⟨hfollow.uri, hfollow.track, fun _ => rfl, ?_⟩
    intro houtdated
    cases houtdated
  · rw [recopied_setNextUri, Copies.answered_refused _ _ (by simp [hresult]), hstate]
    exact hfollow

theorem follow_play {player : Player P} {copies : Copies} (hfollow : copies.Follow player.target) :
    (player.recopied copies (.request .play)).Follow (player.after (.request .play)).target := by
  rw [after, perform, Act.then_pure_state]
  rcases play_cases player with ⟨q, timing, hresult, hstate⟩ | ⟨e, q, hresult, hstate⟩
  · rw [recopied_play, hresult, Copies.answered_ok, hstate]
    exact ⟨hfollow.uri, fun _ => rfl, hfollow.next, hfollow.emptied⟩
  · rw [recopied_play, Copies.answered_refused _ _ (by simp [hresult]), hstate]
    exact hfollow

/-- The requests that say something about the locators. -/
def Request.locates : Request -> Bool
  | .setUri _ => true
  | .setNextUri _ => true
  | .play => true
  | _ => false

theorem recopied_request {request : Request} (hlocates : request.locates = false)
    (player : Player P) (copies : Copies) :
    player.recopied copies (.request request) = copies ∧
      (player.after (.request request)).target = player.target := by
  have hperformed := perform_performed request player
  constructor
  · cases request <;> first | rfl | cases hlocates
  · change (perform request player).state.target = player.target
    generalize (perform request player).state = next at hperformed
    cases hperformed with
    | setUri uri =>
        cases hlocates
    | setNextUri uri =>
        cases hlocates
    | kept q hstop =>
        rfl
    | played q timing =>
        rfl
    | paused q hplaying =>
        rfl
    | stopped q =>
        rfl
    | timed q known =>
        rfl

theorem follow_request (request : Request) {player : Player P} {copies : Copies}
    (hfollow : copies.Follow player.target) :
    (player.recopied copies (.request request)).Follow
      (player.after (.request request)).target := by
  cases hlocates : request.locates with
  | false =>
      rcases recopied_request hlocates player copies with ⟨hcopies, htarget⟩
      rw [hcopies, htarget]
      exact hfollow
  | true =>
      cases request with
      | setUri uri =>
          exact follow_setUri uri hfollow
      | setNextUri uri =>
          exact follow_setNextUri uri hfollow
      | play =>
          exact follow_play hfollow
      | _ =>
          cases hlocates

theorem follow_event (event : Pipeline.Event) {player : Player P} {copies : Copies}
    (hfollow : copies.Follow player.target) :
    (player.recopied copies (.event event)).Follow (player.after (.event event)).target := by
  rcases handle_cases (ε := Empty) event player with
    ⟨hresult, hnext⟩ | ⟨notice, hresult, hnext⟩
  · rw [recopied_unheard copies (by simp [hresult])]
    exact hfollow.unheard (target_of_unannounced hnext)
  · change Announced player notice (player.after (.event event)) at hnext
    cases notice with
    | transition transition =>
        cases transition with
        | startedNextStream =>
            rw [recopied_started copies hresult]
            exact Copies.follow_of _
        | playbackStopped =>
            rw [recopied_unheard copies (by simp [hresult])]
            generalize player.after (.event event) = next at hnext
            cases hnext
            exact hfollow.unheard (Or.inr rfl)
    | metadata tags =>
        rw [recopied_unheard copies (by simp [hresult])]
        generalize player.after (.event event) = next at hnext
        cases hnext
        exact hfollow.unheard (Or.inl rfl)

/-!
# Runs
-/

theorem follow_copied (steps : List Step) :
    forall {player : Player P} {copies : Copies}, copies.Follow player.target ->
      (player.copied copies steps).Follow (player.run steps).target := by
  induction steps with
  | nil =>
      intro player copies hfollow
      exact hfollow
  | cons step rest ih =>
      intro player copies hfollow
      apply ih
      cases step with
      | request request =>
          exact follow_request request hfollow
      | event event =>
          exact follow_event event hfollow

end Player
end UpnpAv
