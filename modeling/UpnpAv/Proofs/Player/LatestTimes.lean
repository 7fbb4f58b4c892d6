import UpnpAv.Proofs.Player.Exchanges

/-!
# The known times are the latest answers

A player forgets both times when another track may begin.  From then on it knows
the latest answer to either query, and whatever else it is told or its pipeline
refuses leaves that alone.
-/

namespace UpnpAv

namespace Timing

/-- The time that a query asks for. -/
def time? (timing : Timing) : Pipeline.Query -> Option Int
  | .duration => timing.duration
  | .position => timing.position

theorem time?_unknown (query : Pipeline.Query) : unknown.time? query = none := by
  cases query <;> rfl

end Timing

namespace Player

open Pipeline (Exchange Query Traced answered? answered?_append)

variable {P : Type}

/-!
# Forgetting
-/

/--
Whether a request makes a player in some state forget the times: a new locator,
a start from the beginning, and a stop even when it fails.
-/
def Request.forgets (state : PlayerState) (accepted : Bool) : Request -> Bool
  | .setUri _ => accepted
  | .play =>
      match state with
      | .paused _ => false
      | _ => accepted
  | .stop => true
  | _ => false

/-- Whether a step makes a player forget the times. -/
def forgets [Pipeline P] (player : Player P) : Step -> Bool
  | .request request => request.forgets player.state (perform request player).result.isOk
  | .event .aboutToFinish => player.target.nextUri ≠ ""
  | .event .endOfStream => true
  | _ => false

theorem forgets_play {state : PlayerState} (hstate : forall reason, state ≠ .paused reason)
    (accepted : Bool) : Request.play.forgets state accepted = accepted := by
  cases state with
  | paused reason =>
      exact absurd rfl (hstate reason)
  | stopped =>
      rfl
  | ready =>
      rfl
  | playing =>
      rfl

theorem forgets_refused {request : Request} (hrequest : request ≠ .stop) (state : PlayerState) :
    request.forgets state false = false := by
  cases request with
  | stop =>
      exact absurd rfl hrequest
  | play =>
      cases state <;> rfl
  | _ =>
      rfl

theorem forgets_adjustment {request : Request} {command : Pipeline.Command}
    (hadjustment : request.adjustment? = some command) (state : PlayerState) (accepted : Bool) :
    request.forgets state accepted = false := by
  cases request <;> cases hadjustment <;> rfl

/-!
# Answers
-/

/-- A time is refreshed by an answer that is not negative, and by no other. -/
theorem refreshed_eq (answer : Except Failure Int) (known : Option Int) :
    refreshed answer known = (answer.toOption.filter (0 ≤ ·)).or known := by
  cases answer with
  | error failure =>
      rfl
  | ok time =>
      show (Timing.known? time).or known = ((some time).filter (0 ≤ ·)).or known
      by_cases hpositive : 0 ≤ time
      · simp [Timing.known?, Option.filter, hpositive]
      · simp [Timing.known?, Option.filter, hpositive]

theorem retimed_time? (duration position : Except Failure Int) (timing : Timing)
    (query : Query) :
    (retimed duration position timing).time? query =
      (answered? query
        [.query .duration duration.toOption, .query .position position.toOption]).or
        (timing.time? query) := by
  cases query with
  | duration =>
      show refreshed duration timing.duration = _
      rw [refreshed_eq, answered?, Pipeline.last?]
      cases hanswer : duration.toOption.filter (0 ≤ ·) <;>
        simp [Exchange.answers?, hanswer, Timing.time?]
  | position =>
      show refreshed position timing.position = _
      rw [refreshed_eq, answered?, Pipeline.last?]
      cases hanswer : position.toOption.filter (0 ≤ ·) <;>
        simp [Exchange.answers?, hanswer, Timing.time?]

theorem answered?_loading {uri : String} {accepted : Bool} {calls : List Exchange}
    (hloading : Loading uri accepted calls) (query : Query) : answered? query calls = none := by
  cases hloading <;> rfl

/-!
# Steps
-/

/-- Both times after a request: forgotten, or else the ones before unless they were answered. -/
theorem Answered.time? {player next : Player P} {request : Request} {accepted : Bool}
    {calls : List Exchange} (hanswered : player.Answered request accepted calls next)
    (query : Query) :
    next.timing.time? query =
      if request.forgets player.state accepted then none
      else (answered? query calls).or (player.timing.time? query) := by
  cases hanswered with
  | refused hstop htimed =>
      rw [forgets_refused hstop]
      rfl
  | setUri uri =>
      cases query <;> rfl
  | setNextUri uri =>
      rfl
  | resumed q accepted hstate =>
      rw [hstate]
      rfl
  | restarted q hstate hloading =>
      rw [forgets_play hstate, answered?_loading hloading]
      cases accepted with
      | false =>
          rfl
      | true =>
          cases query <;> rfl
  | paused q accepted hstate =>
      rfl
  | stopped q accepted =>
      cases query <;> rfl
  | adjusted q accepted hadjustment =>
      rw [forgets_adjustment hadjustment]
      rfl
  | timed q duration position hstate =>
      exact retimed_time? duration position player.timing query
  | recalled hstate =>
      rfl
  | volumeRead =>
      rfl
  | muteRead =>
      rfl

variable [Pipeline P]

theorem Reacted.time? {player next : Player P} {event : Pipeline.Event}
    {calls : List Exchange} (hreacted : player.Reacted event calls next) (query : Query) :
    next.timing.time? query =
      if player.forgets (.event event) then none
      else (answered? query calls).or (player.timing.time? query) := by
  cases hreacted with
  | unqueued hqueued =>
      simp [forgets, hqueued, answered?, Pipeline.last?]
  | queued q accepted hqueued =>
      rw [forgets, decide_eq_true hqueued]
      cases query <;> rfl
  | ended hqueued =>
      cases query <;> rfl
  | succeeded q hqueued hloading =>
      cases query <;> rfl
  | held q accepted percent hstate =>
      rfl
  | released q accepted percent hstate =>
      rfl
  | described batch =>
      rfl
  | unmoved hearly hended =>
      cases event with
      | aboutToFinish =>
          exact absurd rfl hearly
      | endOfStream =>
          exact absurd rfl hended
      | _ =>
          rfl

theorem time?_after (step : Step) (player : Player (Traced P)) (query : Query) :
    (player.after step).timing.time? query =
      if player.forgets step then none
      else (answered? query (player.calls step)).or (player.timing.time? query) := by
  cases step with
  | request request =>
      exact (answered_after request player).time? query
  | event event =>
      exact (reacted_after event player).time? query

/-!
# Runs
-/

/--
The exchanges of a run since the times were last forgotten; `before` are those
that came before the run.
-/
def sinceForgotten (player : Player (Traced P)) (before : List Exchange) :
    List Step -> List Exchange
  | [] => before
  | step :: rest =>
      (player.after step).sinceForgotten
        (if player.forgets step then [] else before ++ player.calls step) rest

theorem time?_run (steps : List Step) {query : Query} :
    forall {player : Player (Traced P)} {before : List Exchange},
      player.timing.time? query = answered? query before ->
        (player.run steps).timing.time? query =
          answered? query (player.sinceForgotten before steps) := by
  induction steps with
  | nil =>
      intro player before hknown
      exact hknown
  | cons step rest ih =>
      intro player before hknown
      apply ih
      rw [time?_after, hknown]
      by_cases hforgets : player.forgets step = true
      · rw [if_pos hforgets, if_pos hforgets]
        rfl
      · rw [if_neg hforgets, if_neg hforgets, answered?_append]

/--
A player knows the latest answer to each query that was not negative and came
since it last forgot the times, and nothing else.  Every further step makes it
forget both times, or else leaves a time alone that it does not get answered.
While nothing is played, the times are recalled and the pipeline is not asked.
-/
theorem known_times_latest (pipeline : Traced P) (types : StringSet)
    (settings : OutputSettings) (steps : List Step) :
    let player := Player.around pipeline types settings
    let now := player.run steps
    (forall query,
      now.timing.time? query = answered? query (player.sinceForgotten [] steps)) ∧
    (forall query time, now.timing.time? query = some time -> 0 ≤ time) ∧
    (forall step query,
      (now.after step).timing.time? query =
        if now.forgets step then none
        else (answered? query (now.calls step)).or (now.timing.time? query)) ∧
    (now.state ≠ .playing ->
      (readTiming now : Outcome _ Error Timing) = ⟨.ok now.timing.asStale, now, []⟩) := by
  intro player now
  have hlatest : forall query,
      now.timing.time? query = answered? query (player.sinceForgotten [] steps) := by
    intro query
    apply time?_run
    cases query <;> rfl
  refine ⟨hlatest, ?_, ?_, readTiming_recalled⟩
  · intro query time hknown
    rw [hlatest] at hknown
    exact (Pipeline.mem_of_answered? hknown).2
  · intro step query
    exact time?_after step now query

/-- A pipeline that answers queries as listed and fails to when the list is at its end. -/
structure Answering where
  answers : List (Except Failure Int)

instance : Pipeline Answering where
  perform _ := pure ()
  ask _ := do
    let pipeline ← Act.read
    Act.modify fun pipeline => ⟨pipeline.answers.tail⟩
    Act.ofExcept (pipeline.answers.headD (.error ⟨"unknown"⟩))
  mediaTypes := pure .empty
  volume _ := .ok 1.0
  mute _ := .ok false

/-- A pipeline that gives two times, then a negative one, and then none. -/
def Answering.twice : Traced Answering :=
  .ofPipeline ⟨[.ok 10, .ok 4, .ok (-1)]⟩

/-- A track whose times are asked for twice before it is paused. -/
def readTwice : List Step :=
  [ .request (.setUri "cd:1"),
    .request .play,
    .request .readTiming,
    .request .readTiming,
    .request .pause ]

/-- The second answers, a negative time and a failure, replace nothing. -/
theorem known_times_latest_twice :
    let player := Player.around Answering.twice .empty .default
    let now := player.run readTwice
    now.state ≠ .playing ∧
      now.timing.time? .duration = answered? .duration (player.sinceForgotten [] readTwice) ∧
      answered? .duration (player.sinceForgotten [] readTwice) = some 10 ∧
      (readTiming now : Outcome _ Error Timing) = ⟨.ok ⟨some 10, some 4, true⟩, now, []⟩ := by
  intro player now
  rcases known_times_latest Answering.twice .empty .default readTwice with
    ⟨hlatest, _, _, hrecalled⟩
  have hpaused : now.state ≠ .playing := by decide
  exact ⟨hpaused, hlatest .duration, by decide, hrecalled hpaused⟩

end Player
end UpnpAv
