import UpnpAv.Proofs.Player.LatestTimes
import UpnpAv.Proofs.Renderer.Documents
import UpnpAv.Proofs.Renderer.Played

/-!
# Times that are shown as fresh

A time that the pipeline does not answer just now is recalled from an earlier
answer, and the answer to whoever asks is marked as stale.  There is one gap.  A
negative answer is an answer, so it leaves the mark away; but it is no time, so
an earlier one is recalled in its place.
-/

namespace UpnpAv

namespace Player

open Pipeline (Exchange Query Traced answered?)

variable {P : Type}

section

variable [Pipeline P]

/-!
# Answers of one call
-/

/-- What the pipeline says to a query when the times are read; it is asked for the duration first. -/
def said (player : Player P) : Query -> Except Failure Int
  | .duration => (Pipeline.ask .duration player.pipeline).result
  | .position =>
      (Pipeline.ask .position (Pipeline.ask .duration player.pipeline).state).result

/-- The answer to a query when the times are read, if the pipeline is asked and has one. -/
def answer? (player : Player P) (query : Query) : Option Int :=
  if player.state = .playing then (player.said query).toOption else none

/-- The times that are answered when they are read. -/
def shownTiming (player : Player P) : Timing :=
  if player.state = .playing then
    { retimed (player.said .duration) (player.said .position) player.timing with
      stale := !((player.said .duration).isOk && (player.said .position).isOk) }
  else player.timing.asStale

/-- A time is shown that is not the answer of this very call. -/
def Recalls (player : Player P) (query : Query) : Prop :=
  exists time, player.shownTiming.time? query = some time ∧ player.answer? query ≠ some time

/-- Both queries are answered, one of them with a negative number although a time is known. -/
def Overlooks (player : Player P) : Prop :=
  (forall query, (player.answer? query).isSome) ∧
    exists query time known,
      player.answer? query = some time ∧ time < 0 ∧ player.timing.time? query = some known

theorem readTiming_result {ε : Type} (player : Player P) :
    (readTiming player : Outcome (Player P) ε Timing).result = .ok player.shownTiming := by
  unfold shownTiming
  by_cases hstate : player.state = .playing
  · rw [if_pos hstate]
    exact readTiming_playing_result hstate
  · rw [if_neg hstate, readTiming_recalled hstate]

/-- A time is shown as it was answered, if that is a time, and else as it was known before. -/
theorem shownTiming_time? (player : Player P) (query : Query) :
    player.shownTiming.time? query =
      ((player.answer? query).filter (0 ≤ ·)).or (player.timing.time? query) := by
  unfold shownTiming answer?
  by_cases hstate : player.state = .playing
  · rw [if_pos hstate, if_pos hstate]
    cases query with
    | duration =>
        exact refreshed_eq (player.said .duration) player.timing.duration
    | position =>
        exact refreshed_eq (player.said .position) player.timing.position
  · rw [if_neg hstate, if_neg hstate]
    cases query <;> rfl

theorem isSome_toOption {α : Type} (answer : Except Failure α) :
    answer.toOption.isSome = answer.isOk := by
  cases answer <;> rfl

theorem shownTiming_fresh (player : Player P) :
    player.shownTiming.stale = false <-> forall query, (player.answer? query).isSome := by
  unfold shownTiming answer?
  by_cases hstate : player.state = .playing
  · simp only [if_pos hstate, isSome_toOption, Bool.not_eq_false', Bool.and_eq_true]
    constructor
    · rintro ⟨hduration, hposition⟩ query
      cases query with
      | duration =>
          exact hduration
      | position =>
          exact hposition
    · intro hanswered
      exact ⟨hanswered .duration, hanswered .position⟩
  · simp only [if_neg hstate]
    constructor
    · intro hstale
      cases hstale
    · intro hanswered
      cases hanswered .duration

/-- A recalled time is left unmarked exactly when a negative answer is overlooked. -/
theorem recalls_fresh {player : Player P}
    (hknown : forall query time, player.timing.time? query = some time -> 0 ≤ time) :
    ((exists query, player.Recalls query) ∧ player.shownTiming.stale = false) <->
      player.Overlooks := by
  rw [shownTiming_fresh]
  constructor
  · rintro ⟨⟨query, time, hshown, hother⟩, hanswered⟩
    rcases Option.isSome_iff_exists.mp (hanswered query) with ⟨answer, hanswer⟩
    rw [shownTiming_time?, hanswer] at hshown
    rw [hanswer] at hother
    by_cases hnegative : answer < 0
    · rw [Option.filter_some, if_neg (by simpa using hnegative)] at hshown
      exact ⟨hanswered, query, answer, time, hanswer, hnegative, hshown⟩
    · rw [Option.filter_some, if_pos (by simpa using hnegative)] at hshown
      exact absurd hshown hother
  · rintro ⟨hanswered, query, answer, known, hanswer, hnegative, hbefore⟩
    refine ⟨⟨query, known, ?_, ?_⟩, hanswered⟩
    · rw [shownTiming_time?, hanswer, Option.filter_some, if_neg (by simpa using hnegative)]
      exact hbefore
    · rw [hanswer]
      rintro ⟨rfl⟩
      exact absurd (hknown query answer hbefore) (Int.not_le.mpr hnegative)

end

theorem known_nonneg [Pipeline P] (pipeline : Traced P) (types : StringSet)
    (settings : OutputSettings) (steps : List Step) {query : Query} {time : Int}
    (hknown : ((Player.around pipeline types settings).run steps).timing.time? query =
      some time) : 0 ≤ time := by
  have hbefore : (Player.around pipeline types settings).timing.time? query =
      answered? query [] := Timing.time?_unknown query
  rw [time?_run steps hbefore] at hknown
  exact (Pipeline.mem_of_answered? hknown).2

end Player

namespace Renderer

open Pipeline (Query Traced)

variable {P X : Type} [Pipeline P]

/-!
# Position answers of a renderer
-/

theorem positionInfo_result {renderer : Renderer P X} (hsettled : Settled renderer)
    (deliver : Receiver P X) :
    exists info,
      (positionInfo deliver renderer).result = .ok info ∧
      info.trackDuration = Clock.format renderer.player.shownTiming.duration ∧
      info.relativeTime = Clock.format renderer.player.shownTiming.position ∧
      info.absoluteTime = Clock.format renderer.player.shownTiming.position ∧
      info.stale = renderer.player.shownTiming.stale := by
  have hread : (onPlayer (Player.readTiming (ε := Error)) renderer).result =
      .ok renderer.player.shownTiming := Player.readTiming_result renderer.player
  have hread_settled : Settled (onPlayer (Player.readTiming (ε := Error)) renderer).state :=
    settled_with hsettled
  rcases transport_updated hread_settled
    (by exact (by decide : AreBelow 11 [6, 7, 8]))
    (Service.assigns_putAll (timingValues
      (Clock.format renderer.player.shownTiming.duration)
      (Clock.format renderer.player.shownTiming.position))) with
    ⟨_, deliveries, rfl, hupdate, _, _⟩
  have hwritten : (update deliver .avTransport (Service.putAll (timingValues
      (Clock.format renderer.player.shownTiming.duration)
      (Clock.format renderer.player.shownTiming.position)))
      (onPlayer (Player.readTiming (ε := Error)) renderer).state).result = .ok () :=
    update_result .avTransport hupdate
  rw [positionInfo, Act.bind_result, hread]
  simp only [Act.bind_result]
  rw [hwritten]
  exact ⟨_, rfl, rfl, rfl, rfl, rfl⟩

/--
After any run of a player, a time that is shown and is not the answer of this
very call is marked as stale, unless the pipeline answered both queries and one
of them with a negative number although a time was known.  A renderer shows the
times of its player with the mark of its player.
-/
theorem recalled_times_stale_unless_overlooked (pipeline : Traced P) (types : StringSet)
    (settings : OutputSettings) (steps : List Player.Step) :
    let now := (Player.around pipeline types settings).run steps
    exists timing,
      (Player.readTiming now : Outcome _ Player.Error Timing).result = .ok timing ∧
      (((exists query time, timing.time? query = some time ∧ now.answer? query ≠ some time) ∧
          timing.stale = false) <->
        now.Overlooks) ∧
      (forall (renderer : Renderer (Traced P) X) (deliver : Receiver (Traced P) X),
        Settled renderer -> renderer.player = now ->
          exists info,
            (positionInfo deliver renderer).result = .ok info ∧
            info.trackDuration = Clock.format timing.duration ∧
            info.relativeTime = Clock.format timing.position ∧
            info.absoluteTime = Clock.format timing.position ∧
            info.stale = timing.stale) := by
  intro now
  refine ⟨now.shownTiming, Player.readTiming_result now, ?_, ?_⟩
  · apply Player.recalls_fresh
    intro query time
    exact Player.known_nonneg pipeline types settings steps
  · intro renderer deliver hsettled hplayer
    rw [← hplayer]
    exact positionInfo_result hsettled deliver

/-- A pipeline that gives both times, and then a negative duration. -/
def withdrawing : Traced Player.Answering :=
  .ofPipeline ⟨[.ok 125000000000, .ok 4000000000, .ok (-1), .ok 5000000000]⟩

/-- A track that is played and asked for its times. -/
def readOnce : List Player.Step :=
  [ .request (.setUri "cd:1"),
    .request .play,
    .request .readTiming ]

/-- The duration that is withdrawn goes on being shown, and nothing marks it as stale. -/
theorem recalled_times_stale_unless_overlooked_withdrawn :
    exists renderer : Renderer (Traced Player.Answering) (List Delivery),
      Settled renderer ∧
      renderer.player = (Player.around withdrawing .empty .default).run readOnce ∧
      renderer.player.Overlooks ∧
      exists info,
        (positionInfo keeping.deliver renderer).result = .ok info ∧
        info.trackDuration = "0:02:05" ∧ info.relativeTime = "0:00:05" ∧
        info.stale = false := by
  rcases exists_isNew withdrawing .empty .default rfl rfl ([] : List Delivery) with
    ⟨renderer, hnew, haround⟩
  have hsettled : Settled (run keeping renderer
      [.request (.setUri "cd:1"), .request .play, .request .positionInfo]) :=
    settled_run keeping_recording _ (settled_of_isNew hnew)
  have hplayer : (run keeping renderer
      [.request (.setUri "cd:1"), .request .play, .request .positionInfo]).player =
        (Player.around withdrawing .empty .default).run readOnce := by
    rw [run_player keeping_apart, haround]
    rfl
  rcases recalled_times_stale_unless_overlooked (X := List Delivery)
    withdrawing .empty .default readOnce with ⟨timing, hread, hoverlooked, hshown⟩
  cases hread
  rcases hshown _ keeping.deliver hsettled hplayer with
    ⟨info, hresult, hduration, hposition, _, hstale⟩
  refine ⟨_, hsettled, hplayer, ?_, info, hresult, ?_, ?_, ?_⟩
  · rw [hplayer]
    exact hoverlooked.mp ⟨⟨.duration, 125000000000, rfl, by decide⟩, rfl⟩
  · rw [hduration]
    decide
  · rw [hposition]
    decide
  · rw [hstale]
    rfl

/-- A duration that was answered before is shown, unmarked, in place of a negative answer. -/
theorem negative_answer_recalled_unmarked :
    let now := (Player.around withdrawing .empty .default).run readOnce
    (Player.readTiming now : Outcome _ Player.Error Timing).result =
        .ok ⟨some 125000000000, some 5000000000, false⟩ ∧
      now.answer? .duration = some (-1) := by
  exact ⟨rfl, by decide⟩

end Renderer
end UpnpAv
