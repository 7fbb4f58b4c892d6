import Mathlib.Data.List.Induction
import UpnpAv.Pipeline.Scripted
import UpnpAv.Proofs.Player.LatestTimes
import UpnpAv.Proofs.Player.Loaded

/-!
# Where the known times come from

A player forgets the times of a track with its locator.  So a time that it knows
was answered under the present locator.  The pipeline may have played another
track then: this is so exactly when another locator was named since the load.
-/

namespace UpnpAv
namespace Player

open Pipeline (Exchange Query Traced answered? loaded?)

variable {P : Type}

/-!
# Steps
-/

theorem Loading.asks_nothing {uri : String} {accepted : Bool} {calls : List Exchange}
    (hloading : Loading uri accepted calls) (query : Query) (answer : Option Int) :
    Exchange.query query answer ∉ calls := by
  cases hloading <;> simp

/-- The pipeline is asked for times only when somebody wants to know them. -/
theorem Answered.asks {player next : Player P} {request : Request} {accepted : Bool}
    {calls : List Exchange} (hanswered : player.Answered request accepted calls next)
    {query : Query} {answer : Option Int} (hasked : Exchange.query query answer ∈ calls) :
    request = .readTiming := by
  cases hanswered with
  | timed q duration position hstate =>
      rfl
  | restarted q hstate hloading =>
      exact absurd hasked (hloading.asks_nothing query answer)
  | _ =>
      simp at hasked

theorem Reacted.asks_nothing {player next : Player P} {event : Pipeline.Event}
    {calls : List Exchange} (hreacted : player.Reacted event calls next) (query : Query)
    (answer : Option Int) : Exchange.query query answer ∉ calls := by
  cases hreacted with
  | succeeded q hqueued hloading =>
      exact hloading.asks_nothing query answer
  | _ =>
      simp

/-- A player that does not forget the times keeps its locator. -/
theorem Answered.keeps_uri {player next : Player P} {request : Request} {accepted : Bool}
    {calls : List Exchange} (hanswered : player.Answered request accepted calls next)
    (hkept : request.forgets player.state accepted = false) :
    next.target.uri = player.target.uri := by
  cases hanswered with
  | setUri uri =>
      cases hkept
  | _ =>
      rfl

variable [Pipeline P]

theorem Reacted.keeps_uri {player next : Player P} {event : Pipeline.Event}
    {calls : List Exchange} (hreacted : player.Reacted event calls next)
    (hkept : player.forgets (.event event) = false) : next.target.uri = player.target.uri := by
  cases hreacted with
  | queued q accepted hqueued =>
      exact absurd hqueued (of_decide_eq_false hkept)
  | succeeded q hqueued hloading =>
      cases hkept
  | _ =>
      rfl

theorem asks_after {step : Step} {player : Player (Traced P)} {query : Query}
    {answer : Option Int} (hasked : Exchange.query query answer ∈ player.calls step) :
    step = .request .readTiming := by
  cases step with
  | request request =>
      rw [(answered_after request player).asks hasked]
  | event event =>
      exact absurd hasked ((reacted_after event player).asks_nothing query answer)

theorem keeps_uri_after {step : Step} {player : Player (Traced P)}
    (hkept : player.forgets step = false) :
    (player.after step).target.uri = player.target.uri := by
  cases step with
  | request request =>
      exact (answered_after request player).keeps_uri hkept
  | event event =>
      exact (reacted_after event player).keeps_uri hkept

/--
What a player knows after a step it knew before and was not answered anew, or it
was just answered.  Either way its locator is still the same.
-/
theorem knows_after {step : Step} {player : Player (Traced P)} {query : Query} {time : Int}
    (hknown : (player.after step).timing.time? query = some time) :
    (player.after step).target.uri = player.target.uri ∧
      (player.timing.time? query = some time ∧ answered? query (player.calls step) = none ∨
        step = .request .readTiming ∧ answered? query (player.calls step) = some time) := by
  rw [time?_after] at hknown
  cases hforgets : player.forgets step with
  | true =>
      rw [if_pos hforgets] at hknown
      cases hknown
  | false =>
      rw [if_neg (Bool.eq_false_iff.mp hforgets)] at hknown
      refine ⟨keeps_uri_after hforgets, ?_⟩
      rcases Option.or_eq_some_iff.mp hknown with hanswer | ⟨hunanswered, hbefore⟩
      · exact Or.inr ⟨asks_after (Pipeline.mem_of_answered? hanswer).1, hanswer⟩
      · exact Or.inl ⟨hbefore, hunanswered⟩

/-!
# Runs
-/

/--
A time was the last answer to its query in a run, given between the steps
`earlier` and `later`.  The locator is still the one of that moment.  It was the
one that the pipeline had loaded exactly when no other was named since.
-/
structure AnsweredBetween (player : Player (Traced P)) (query : Query) (time : Int)
    (earlier later : List Step) : Prop where
  asked : answered? query ((player.run earlier).calls (.request .readTiming)) = some time
  last : exists more,
    (player.run (earlier ++ .request .readTiming :: later)).pipeline.trace =
        (player.run (earlier ++ [.request .readTiming])).pipeline.trace ++ more ∧
      answered? query more = none
  uri_eq : (player.run (earlier ++ .request .readTiming :: later)).target.uri =
    (player.run earlier).target.uri
  named_or_loaded : some (player.run earlier).target.uri =
    (player.unloaded? (some "") earlier).or (loaded? (player.run earlier).pipeline.trace)
  loaded_iff : loaded? (player.run earlier).pipeline.trace =
      some (player.run earlier).target.uri <-> ¬ player.Renamed earlier

/-- A time was answered at some moment of a run, and never again since. -/
def AnsweredIn (player : Player (Traced P)) (query : Query) (time : Int)
    (steps : List Step) : Prop :=
  exists earlier later, steps = earlier ++ .request .readTiming :: later ∧
    player.AnsweredBetween query time earlier later

theorem AnsweredBetween.snoc {player : Player (Traced P)} {query : Query} {time : Int}
    {earlier later : List Step} (hanswered : player.AnsweredBetween query time earlier later)
    {step : Step}
    (huri : ((player.run (earlier ++ .request .readTiming :: later)).after step).target.uri =
      (player.run (earlier ++ .request .readTiming :: later)).target.uri)
    (hunanswered : answered? query
      ((player.run (earlier ++ .request .readTiming :: later)).calls step) = none) :
    player.AnsweredBetween query time earlier (later ++ [step]) := by
  have hrun : player.run (earlier ++ .request .readTiming :: (later ++ [step])) =
      (player.run (earlier ++ .request .readTiming :: later)).after step := by
    rw [← run_snoc, List.append_assoc, List.cons_append]
  rcases hanswered.last with ⟨more, htrace, hmore⟩
  exact
    { asked := hanswered.asked
      last := by
        refine ⟨more ++ (player.run (earlier ++ .request .readTiming :: later)).calls step,
          ?_, ?_⟩
        · rw [hrun, after_trace, htrace, List.append_assoc]
        · rw [Pipeline.answered?_append, hunanswered, hmore]
          rfl
      uri_eq := by rw [hrun, huri, hanswered.uri_eq]
      named_or_loaded := hanswered.named_or_loaded
      loaded_iff := hanswered.loaded_iff }

theorem AnsweredIn.snoc {player : Player (Traced P)} {query : Query} {time : Int}
    {steps : List Step} (hanswered : player.AnsweredIn query time steps) {step : Step}
    (huri : ((player.run steps).after step).target.uri = (player.run steps).target.uri)
    (hunanswered : answered? query ((player.run steps).calls step) = none) :
    player.AnsweredIn query time (steps ++ [step]) := by
  rcases hanswered with ⟨earlier, later, rfl, hbetween⟩
  refine ⟨earlier, later ++ [step], ?_, hbetween.snoc huri hunanswered⟩
  rw [List.append_assoc, List.cons_append]

theorem answeredIn_of_known (pipeline : Traced P) (types : StringSet)
    (settings : OutputSettings) {query : Query} {time : Int} (steps : List Step) :
    let player := Player.around pipeline types settings
    (player.run steps).timing.time? query = some time -> player.AnsweredIn query time steps := by
  intro player
  induction steps using List.reverseRecOn with
  | nil =>
      intro hknown
      rw [show (player.run []).timing.time? query = none from Timing.time?_unknown query] at hknown
      cases hknown
  | append_singleton steps step ih =>
      intro hknown
      rw [run_snoc] at hknown
      rcases knows_after hknown with ⟨huri, ⟨hbefore, hunanswered⟩ | ⟨rfl, hasked⟩⟩
      · exact (ih hbefore).snoc huri hunanswered
      · -- The pipeline answers for what it has loaded, whatever is named.
        exact ⟨steps, [], rfl,
          { asked := hasked
            last := ⟨[], (List.append_nil _).symm, rfl⟩
            uri_eq := by rw [run_snoc, huri]
            named_or_loaded := uri_eq_run_around pipeline types settings steps
            loaded_iff := loaded_iff_around pipeline types settings steps }⟩

theorem readTiming_time? {player : Player (Traced P)} {timing : Timing}
    (hread : (readTiming player : Outcome _ Error Timing).result = .ok timing) (query : Query) :
    timing.time? query = (player.after (.request .readTiming)).timing.time? query := by
  rcases player with ⟨pipeline, state, target, tags, known, types, buffering⟩
  cases state <;> cases hread <;> cases query <;> rfl

/--
Every time that a player knows after a run, and every one that it answers then,
is the last answer of its pipeline, given while the locator was the present one.
At that moment this locator was loaded, too, unless another one was named since.
-/
theorem known_times_answered (pipeline : Traced P) (types : StringSet)
    (settings : OutputSettings) (steps : List Step) (query : Query) (time : Int) :
    let player := Player.around pipeline types settings
    ((player.run steps).timing.time? query = some time ->
      player.AnsweredIn query time steps) ∧
    (forall timing,
      (readTiming (player.run steps) : Outcome _ Error Timing).result = .ok timing ->
        timing.time? query = some time ->
          player.AnsweredIn query time (steps ++ [.request .readTiming])) := by
  intro player
  constructor
  · exact answeredIn_of_known pipeline types settings steps
  · intro timing hread hknown
    apply answeredIn_of_known pipeline types settings
    rw [run_snoc, ← readTiming_time? hread]
    exact hknown

/-- A player around a pipeline that knows its times. -/
def timedPlayer : Player (Traced Pipeline.Scripted) :=
  .around
    (.ofPipeline { Pipeline.Scripted.willing with duration := some 10, position := some 4 })
    .empty .default

/-- A locator that is set while another track plays on, whose times are then read. -/
def readAfterNaming : List Step :=
  [ .request (.setUri "cd:1"),
    .request .play,
    .request (.setUri "cd:2"),
    .request .readTiming,
    .request .pause ]

/-- The times of the track before are answered for a locator that was never loaded. -/
theorem stale_times_of_other_track :
    let now := timedPlayer.run readAfterNaming
    (readTiming now : Outcome _ Error Timing).result = .ok ⟨some 10, some 4, true⟩ ∧
      now.target.uri = "cd:2" ∧
      now.pipeline.trace.filterMap Exchange.loads? = ["cd:1"] := by
  exact ⟨rfl, by decide, by decide⟩

theorem known_times_answered_paused :
    (timedPlayer.run readAfterNaming).timing.time? .position = some 4 ∧
      timedPlayer.AnsweredIn .position 4 readAfterNaming ∧
      timedPlayer.AnsweredIn .position 4 (readAfterNaming ++ [.request .readTiming]) := by
  rcases known_times_answered
      (.ofPipeline { Pipeline.Scripted.willing with duration := some 10, position := some 4 })
      .empty .default readAfterNaming .position 4 with ⟨hknown, hread⟩
  have hfour : (timedPlayer.run readAfterNaming).timing.time? .position = some 4 := by decide
  exact ⟨hfour, hknown hfour, hread ⟨some 10, some 4, true⟩ rfl rfl⟩

end Player
end UpnpAv
