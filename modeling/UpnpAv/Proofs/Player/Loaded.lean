import UpnpAv.Proofs.Player.Exchanges

/-!
# What is named and what is loaded

The locator of a player and the one that its pipeline has loaded are two things:
a new locator is named while the old one goes on, and a queued one moves up even
when the pipeline refuses it.  At any time the locator of the player is the one
that was named since the last load, or else the one that is loaded.
-/

namespace UpnpAv
namespace Player

open Pipeline (Exchange Traced loaded? loaded?_append)

variable {P : Type}

/-!
# Loads
-/

theorem loaded?_loading {uri : String} {accepted : Bool} {calls : List Exchange}
    (hloading : Loading uri accepted calls) :
    loaded? calls = none ∨ loaded? calls = some uri := by
  cases hloading with
  | unstopped =>
      exact Or.inl rfl
  | unloaded =>
      exact Or.inl rfl
  | unplayed =>
      exact Or.inr rfl
  | played =>
      exact Or.inr rfl

theorem loaded?_played {uri : String} {calls : List Exchange}
    (hloading : Loading uri true calls) : loaded? calls = some uri := by
  cases hloading
  rfl

theorem loaded?_adjustment {request : Request} {command : Pipeline.Command}
    (hadjustment : request.adjustment? = some command) (accepted : Bool) :
    loaded? [.command command accepted] = none := by
  cases request <;> cases hadjustment <;> rfl

/-- A request loads nothing but the locator that the player has afterwards. -/
theorem Answered.loaded? {player next : Player P} {request : Request} {accepted : Bool}
    {calls : List Exchange} (hanswered : player.Answered request accepted calls next) :
    loaded? calls = none ∨ loaded? calls = some next.target.uri := by
  cases hanswered with
  | refused hstop htimed =>
      exact Or.inl rfl
  | setUri uri =>
      exact Or.inl rfl
  | setNextUri uri =>
      exact Or.inl rfl
  | resumed q accepted hstate =>
      exact Or.inl (by cases accepted <;> rfl)
  | restarted q hstate hloading =>
      exact loaded?_loading hloading
  | paused q accepted hstate =>
      exact Or.inl (by cases accepted <;> rfl)
  | stopped q accepted =>
      exact Or.inl (by cases accepted <;> rfl)
  | adjusted q accepted hadjustment =>
      exact Or.inl (loaded?_adjustment hadjustment accepted)
  | timed q duration position hstate =>
      exact Or.inl rfl
  | recalled hstate =>
      exact Or.inl rfl
  | volumeRead =>
      exact Or.inl rfl
  | muteRead =>
      exact Or.inl rfl

theorem Reacted.loaded? {player next : Player P} {event : Pipeline.Event}
    {calls : List Exchange} (hreacted : player.Reacted event calls next) :
    loaded? calls = none ∨ loaded? calls = some next.target.uri := by
  cases hreacted with
  | unqueued hqueued =>
      exact Or.inl rfl
  | queued q accepted hqueued =>
      cases accepted with
      | false =>
          exact Or.inl rfl
      | true =>
          exact Or.inr rfl
  | ended hqueued =>
      exact Or.inl rfl
  | succeeded q hqueued hloading =>
      exact loaded?_loading hloading
  | held q accepted percent hstate =>
      exact Or.inl (by cases accepted <;> rfl)
  | released q accepted percent hstate =>
      exact Or.inl (by cases accepted <;> rfl)
  | described batch =>
      exact Or.inl rfl
  | unmoved hearly hended =>
      exact Or.inl rfl

/-!
# Names
-/

/-- The locator that a step names as the one to play, whether it is loaded or not. -/
def named? (player : Player P) : Step -> Option String
  | .request (.setUri uri) => if (setUri uri player).result.isOk then some uri else none
  | .event .aboutToFinish => player.target.advance.1
  | .event .endOfStream => player.target.advance.1
  | _ => none

theorem named?_request {request : Request} (hrequest : forall uri, request ≠ .setUri uri)
    (player : Player P) : player.named? (.request request) = none := by
  cases request with
  | setUri uri =>
      exact absurd rfl (hrequest uri)
  | _ =>
      rfl

theorem named?_event {event : Pipeline.Event} (hearly : event ≠ .aboutToFinish)
    (hended : event ≠ .endOfStream) (player : Player P) :
    player.named? (.event event) = none := by
  cases event with
  | aboutToFinish =>
      exact absurd rfl hearly
  | endOfStream =>
      exact absurd rfl hended
  | _ =>
      rfl

theorem Answered.uri {player next : Player P} {request : Request} {accepted : Bool}
    {calls : List Exchange} (hanswered : player.Answered request accepted calls next)
    (hrequest : forall uri, request ≠ .setUri uri) : next.target.uri = player.target.uri := by
  cases hanswered with
  | setUri uri =>
      exact absurd rfl (hrequest uri)
  | _ =>
      rfl

variable [Pipeline P]

/-!
# Steps
-/

theorem loaded?_calls (step : Step) (player : Player (Traced P)) :
    loaded? (player.calls step) = none ∨
      loaded? (player.calls step) = some (player.after step).target.uri := by
  cases step with
  | request request =>
      exact (answered_after request player).loaded?
  | event event =>
      exact (reacted_after event player).loaded?

theorem uri_after_request (request : Request) (player : Player (Traced P)) :
    (player.after (.request request)).target.uri =
      (player.named? (.request request)).getD player.target.uri := by
  by_cases hrequest : exists uri, request = .setUri uri
  · rcases hrequest with ⟨uri, rfl⟩
    rw [after, perform, Act.then_pure_state, named?]
    rcases setUri_cases uri player with ⟨hresult, hstate⟩ | ⟨⟨e, hresult⟩, hstate⟩
    · rw [hresult, hstate]
      rfl
    · rw [hresult, hstate]
      rfl
  · have hother : forall uri, request ≠ .setUri uri :=
      fun uri hsame => hrequest ⟨uri, hsame⟩
    rw [named?_request hother]
    exact (answered_after request player).uri hother

theorem uri_after_event (event : Pipeline.Event) (player : Player (Traced P)) :
    (player.after (.event event)).target.uri =
      (player.named? (.event event)).getD player.target.uri := by
  have hreacted := reacted_after event player
  generalize player.calls (.event event) = exchanges at hreacted
  generalize player.after (.event event) = next at hreacted
  cases hreacted with
  | unqueued hqueued =>
      rw [named?, Target.advance_of_empty hqueued]
      rfl
  | queued q accepted hqueued =>
      rw [named?, Target.advance_of_queued hqueued]
      rfl
  | ended hqueued =>
      rw [named?, Target.advance_of_empty hqueued]
      rfl
  | succeeded q hqueued hloading =>
      rw [named?, Target.advance_of_queued hqueued]
      rfl
  | held q accepted percent hstate =>
      rfl
  | released q accepted percent hstate =>
      rfl
  | described batch =>
      rfl
  | unmoved hearly hended =>
      rw [named?_event hearly hended]
      rfl

theorem uri_after (step : Step) (player : Player (Traced P)) :
    (player.after step).target.uri = (player.named? step).getD player.target.uri := by
  cases step with
  | request request =>
      exact uri_after_request request player
  | event event =>
      exact uri_after_event event player

/-!
# Runs
-/

/-- What stays named without being loaded at a step, when `before` was so before. -/
def leftUnloaded (player : Player (Traced P)) (before : Option String) (step : Step) :
    Option String :=
  match loaded? (player.calls step) with
  | some _ => none
  | none => (player.named? step).or before

/--
The locator that was named last during a run, unless something was loaded since;
`before` is the one that was named before the run and not loaded.
-/
def unloaded? (player : Player (Traced P)) (before : Option String) :
    List Step -> Option String
  | [] => before
  | step :: rest => (player.after step).unloaded? (player.leftUnloaded before step) rest

theorem uri_eq_after {player : Player (Traced P)} {before : Option String}
    (huri : some player.target.uri = before.or (loaded? player.pipeline.trace))
    (step : Step) :
    some (player.after step).target.uri =
      (player.leftUnloaded before step).or
        (loaded? (player.after step).pipeline.trace) := by
  rw [leftUnloaded, after_trace, loaded?_append]
  rcases loaded?_calls step player with hnothing | hloaded
  · rw [hnothing, uri_after]
    cases player.named? step with
    | none =>
        exact huri
    | some uri =>
        rfl
  · rw [hloaded]
    rfl

/-- The locator of a player is the one that was named since the last load, or the loaded one. -/
theorem uri_eq_run (steps : List Step) :
    forall {player : Player (Traced P)} {before : Option String},
      some player.target.uri = before.or (loaded? player.pipeline.trace) ->
        some (player.run steps).target.uri =
          (player.unloaded? before steps).or
            (loaded? (player.run steps).pipeline.trace) := by
  induction steps with
  | nil =>
      intro player before huri
      exact huri
  | cons step rest ih =>
      intro player before huri
      exact ih (uri_eq_after huri step)

/-- A new player has the empty locator, which was not loaded. -/
theorem uri_eq_run_around (pipeline : Traced P) (types : StringSet) (settings : OutputSettings)
    (steps : List Step) :
    let player := Player.around pipeline types settings
    some (player.run steps).target.uri =
      (player.unloaded? (some "") steps).or (loaded? (player.run steps).pipeline.trace) :=
  uri_eq_run steps rfl

/-- A locator was named since the last load, and another one is loaded, if any. -/
def Renamed (player : Player (Traced P)) (steps : List Step) : Prop :=
  exists uri, player.unloaded? (some "") steps = some uri ∧
    loaded? (player.run steps).pipeline.trace ≠ some uri

/-- The locator of a player is loaded exactly when no other was named since the load. -/
theorem loaded_iff_around (pipeline : Traced P) (types : StringSet)
    (settings : OutputSettings) (steps : List Step) :
    let player := Player.around pipeline types settings
    loaded? (player.run steps).pipeline.trace = some (player.run steps).target.uri <->
      ¬ player.Renamed steps := by
  intro player
  have huri : some (player.run steps).target.uri =
      (player.unloaded? (some "") steps).or (loaded? (player.run steps).pipeline.trace) :=
    uri_eq_run_around pipeline types settings steps
  cases hunloaded : player.unloaded? (some "") steps with
  | none =>
      rw [hunloaded] at huri
      exact iff_of_true huri.symm (by simp [Renamed, hunloaded])
  | some uri =>
      rw [hunloaded] at huri
      simp [Renamed, hunloaded, Option.some.inj huri]

/-!
# Playing
-/

/-- An accepted request to play either resumes a pause or loads the locator of the player. -/
theorem play_calls {player : Player (Traced P)} (haccepted : (play player).result = .ok ()) :
    (player.after (.request .play)).target = player.target ∧
    ((exists reason, player.state = .paused reason) ∧
        player.calls (.request .play) = [.command .play true] ∨
      (forall reason, player.state ≠ .paused reason) ∧
        Loading player.target.uri true (player.calls (.request .play))) := by
  have hanswered := answered_after .play player
  rw [perform, Act.then_pure_isOk, haccepted] at hanswered
  generalize player.calls (.request .play) = exchanges at hanswered ⊢
  generalize player.after (.request .play) = next at hanswered ⊢
  cases hanswered with
  | resumed q accepted hpaused =>
      exact ⟨rfl, Or.inl ⟨⟨_, hpaused⟩, rfl⟩⟩
  | restarted q hother hloading =>
      exact ⟨rfl, Or.inr ⟨hother, hloading⟩⟩
  | adjusted q accepted hadjustment =>
      cases hadjustment

theorem play_loads {player : Player (Traced P)} (haccepted : (play player).result = .ok ())
    (hstate : forall reason, player.state ≠ .paused reason) :
    loaded? (player.after (.request .play)).pipeline.trace =
      some (player.after (.request .play)).target.uri := by
  rcases play_calls haccepted with ⟨htarget, ⟨⟨reason, hpaused⟩, _⟩ | ⟨_, hloading⟩⟩
  · exact absurd hpaused (hstate reason)
  · rw [after_trace, loaded?_append, loaded?_played hloading, htarget]
    rfl

/-- A pause is resumed by a single command, which loads nothing. -/
theorem play_resumes {player : Player (Traced P)} (haccepted : (play player).result = .ok ())
    {reason : PauseReason} (hstate : player.state = .paused reason) :
    (player.after (.request .play)).target = player.target ∧
      (player.after (.request .play)).pipeline.trace =
        player.pipeline.trace ++ [.command .play true] := by
  rcases play_calls haccepted with ⟨htarget, ⟨_, hcalls⟩ | ⟨hother, _⟩⟩
  · rw [after_trace, hcalls]
    exact ⟨htarget, rfl⟩
  · exact absurd hstate (hother reason)

end Player
end UpnpAv
