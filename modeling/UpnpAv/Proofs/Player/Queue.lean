import UpnpAv.Pipeline.Scripted
import UpnpAv.Proofs.Player.Exchanges
import UpnpAv.Proofs.Player.Requests

/-!
# The queue of a player

At most one locator is queued at a time.  It waits until the stream is close to
its end or ends; then it moves up, whatever the player does at that time and
whatever the pipeline says.  So every queued locator is taken once, unless it is
replaced before.
-/

namespace UpnpAv
namespace Player

variable {P : Type}

/-!
# Histories
-/

/-- What decides about the queue: accepted locators, and ends that are near or reached. -/
inductive Mark where
  | queued (uri : String)
  | ended

/-- The queued locators that were followed by an end before another one was queued. -/
def taken : List Mark -> List String
  | [] => []
  | .queued uri :: .ended :: rest => (if uri = "" then [] else [uri]) ++ taken rest
  | _ :: rest => taken rest

/-- The locator that was queued last, unless an end came after it. -/
def waiting (marks : List Mark) : String :=
  match marks.getLast? with
  | some (.queued uri) => uri
  | _ => ""

@[simp] theorem taken_ended (rest : List Mark) : taken (.ended :: rest) = taken rest := by
  rw [taken]
  simp

theorem taken_replaced (uri later : String) (rest : List Mark) :
    taken (.queued uri :: .queued later :: rest) = taken (.queued later :: rest) := by
  rw [taken]
  simp

theorem taken_queued_ended (uri : String) (rest : List Mark) :
    taken (.queued uri :: .ended :: rest) = (if uri = "" then [] else [uri]) ++ taken rest := by
  rw [taken]

/-- An empty text stands for nothing. -/
theorem taken_blank (marks : List Mark) : taken (.queued "" :: marks) = taken marks := by
  cases marks with
  | nil =>
      rfl
  | cons mark rest =>
      cases mark with
      | queued uri =>
          exact taken_replaced "" uri rest
      | ended =>
          rw [taken_queued_ended, taken_ended]
          rfl

theorem waiting_cons_cons (mark next : Mark) (rest : List Mark) :
    waiting (mark :: next :: rest) = waiting (next :: rest) := by
  rw [waiting, waiting, List.getLast?_cons_cons]

theorem waiting_ended (marks : List Mark) : waiting (.ended :: marks) = waiting marks := by
  cases marks with
  | nil =>
      rfl
  | cons mark rest =>
      exact waiting_cons_cons .ended mark rest

theorem waiting_blank (marks : List Mark) : waiting (.queued "" :: marks) = waiting marks := by
  cases marks with
  | nil =>
      rfl
  | cons mark rest =>
      exact waiting_cons_cons (.queued "") mark rest

variable [Pipeline P]

/-- What a step decides about the queue. -/
def mark? (player : Player P) : Step -> Option Mark
  | .request (.setNextUri uri) =>
      match (setNextUri uri player).result with
      | .ok _ => some (.queued uri)
      | .error _ => none
  | .event .aboutToFinish => some .ended
  | .event .endOfStream => some .ended
  | _ => none

/-- What a run decides about the queue. -/
def history (player : Player P) : List Step -> List Mark
  | [] => []
  | step :: rest => (player.mark? step).toList ++ (player.after step).history rest

/-- The locator that an event moves from the queue to the track. -/
def moved? (player : Player P) : Step -> Option String
  | .request _ => none
  | .event event =>
      if player.target.nextUri ≠ "" ∧
          (player.after (.event event)).target = ⟨player.target.nextUri, ""⟩ then
        some player.target.nextUri
      else
        none

/-- The locators that events move from the queue to the track during a run. -/
def moves (player : Player P) : List Step -> List String
  | [] => []
  | step :: rest => (player.moved? step).toList ++ (player.after step).moves rest

/-!
# Steps
-/

theorem handle_endOfStream_target (player : Player P) :
    (handle (ε := Empty) .endOfStream player).state.target = player.target.advance.2 := by
  rw [handle_endOfStream_state]
  rcases endOfStream_cases (ε := Empty) player with ⟨q, _, hstate⟩ | ⟨q, _, hstate⟩
  · rw [hstate]
  · rw [hstate]

theorem handle_aboutToFinish_target (player : Player P) :
    (handle (ε := Empty) .aboutToFinish player).state.target = player.target.advance.2 := by
  rw [handle_aboutToFinish_state]
  rcases aboutToFinish_state (ε := Empty) player with ⟨q, timing, _, hstate⟩
  rw [hstate]

theorem nextUri_advance (target : Target) : target.advance.2.nextUri = "" := by
  unfold Target.advance
  by_cases hqueued : target.nextUri = ""
  · rw [if_pos hqueued]
    exact hqueued
  · rw [if_neg hqueued]

/-- What a step does to the queue, as its mark says. -/
inductive Marked (player : Player P) (step : Step) : Option Mark -> Prop where
  | none :
      player.moved? step = Option.none ->
      (player.after step).target.nextUri = player.target.nextUri ->
      Marked player step Option.none
  | queued (uri : String) :
      step = .request (.setNextUri uri) ->
      (setNextUri uri player).result = .ok () ->
      player.moved? step = Option.none ->
      (player.after step).target.nextUri = uri ->
      Marked player step (some (.queued uri))
  | ended :
      step = .event .aboutToFinish ∨ step = .event .endOfStream ->
      player.moved? step =
        (if player.target.nextUri = "" then Option.none else some player.target.nextUri) ->
      (player.after step).target.nextUri = "" ->
      Marked player step (some .ended)

theorem marked_request {request : Request} (player : Player P)
    (hnext : forall uri, request ≠ .setNextUri uri) :
    player.Marked (.request request) none := by
  have hperformed := perform_performed request player
  have hqueue : (perform request player).state.target.nextUri = player.target.nextUri := by
    generalize (perform request player).state = next at hperformed
    cases hperformed with
    | setNextUri uri =>
        exact absurd rfl (hnext uri)
    | kept q hstop =>
        rfl
    | setUri uri =>
        rfl
    | played q timing =>
        rfl
    | paused q hplaying =>
        rfl
    | stopped q =>
        rfl
    | timed q known =>
        rfl
  exact Marked.none rfl hqueue

theorem moved?_eq_none {event : Pipeline.Event} {player : Player P}
    (hqueue : (player.after (.event event)).target.nextUri = player.target.nextUri) :
    player.moved? (.event event) = none := by
  rw [moved?, if_neg]
  rintro ⟨hqueued, htarget⟩
  rw [htarget] at hqueue
  exact hqueued hqueue.symm

theorem marked_ended {event : Pipeline.Event} {player : Player P}
    (hevent : event = .aboutToFinish ∨ event = .endOfStream) :
    player.Marked (.event event) (some .ended) := by
  have htarget : (player.after (.event event)).target = player.target.advance.2 := by
    rcases hevent with rfl | rfl
    · exact handle_aboutToFinish_target player
    · exact handle_endOfStream_target player
  have hqueue : (player.after (.event event)).target.nextUri = "" := by
    rw [htarget, nextUri_advance]
  refine Marked.ended ?_ ?_ hqueue
  · rcases hevent with rfl | rfl
    · exact Or.inl rfl
    · exact Or.inr rfl
  · by_cases hqueued : player.target.nextUri = ""
    · rw [if_pos hqueued]
      apply moved?_eq_none
      rw [hqueue, hqueued]
    · rw [Target.advance_of_queued hqueued] at htarget
      rw [if_neg hqueued, moved?, if_pos ⟨hqueued, htarget⟩]

theorem marked (player : Player P) (step : Step) : player.Marked step (player.mark? step) := by
  cases step with
  | request request =>
      by_cases hnext : exists uri, request = .setNextUri uri
      · rcases hnext with ⟨uri, rfl⟩
        have hstate : player.after (.request (.setNextUri uri)) =
            (setNextUri uri player).state := Act.then_pure_state _ _ _
        rw [mark?]
        rcases setNextUri_cases uri player with ⟨hresult, hqueued⟩ | ⟨⟨e, hresult⟩, hkept⟩
        · rw [hresult]
          exact Marked.queued uri rfl hresult rfl (by rw [hstate, hqueued])
        · rw [hresult]
          exact Marked.none rfl (by rw [hstate, hkept])
      · have hmark : player.mark? (.request request) = none := by
          cases request with
          | setNextUri uri =>
              exact absurd ⟨uri, rfl⟩ hnext
          | _ =>
              rfl
        rw [hmark]
        exact marked_request player fun uri hrequest => hnext ⟨uri, hrequest⟩
  | event event =>
      cases event with
      | aboutToFinish =>
          exact marked_ended (Or.inl rfl)
      | endOfStream =>
          exact marked_ended (Or.inr rfl)
      | error message details =>
          exact Marked.none (moved?_eq_none rfl) rfl
      | phaseChanged old new =>
          exact Marked.none (moved?_eq_none rfl) rfl
      | tags batch =>
          exact Marked.none (moved?_eq_none rfl) rfl
      | buffering percent =>
          have hqueue : (player.after (.event (.buffering percent))).target = player.target := by
            rw [after, handle, Act.then_pure_state]
            exact (bufferAt_cases percent player).2.target
          exact Marked.none (moved?_eq_none (by rw [hqueue])) (by rw [hqueue])

/-!
# Runs
-/

theorem moves_eq_taken (steps : List Step) :
    forall player : Player P,
      player.moves steps = taken (.queued player.target.nextUri :: player.history steps) ∧
        (player.run steps).target.nextUri =
          waiting (.queued player.target.nextUri :: player.history steps) := by
  -- What is queued when the run starts counts as its first mark.  Without that
  -- the statement would not survive the first step.
  induction steps with
  | nil =>
      intro player
      exact ⟨rfl, rfl⟩
  | cons step rest ih =>
      intro player
      rcases ih (player.after step) with ⟨hmoves, hwaiting⟩
      have hmarked := player.marked step
      rw [moves, history, run_cons, hmoves, hwaiting]
      cases hmark : player.mark? step with
      | none =>
          rw [hmark] at hmarked
          cases hmarked with
          | none hmoved hqueue =>
              rw [hmoved, hqueue]
              exact ⟨rfl, rfl⟩
      | some mark =>
          rw [hmark] at hmarked
          cases hmarked with
          | queued uri hstep haccepted hmoved hqueue =>
              rw [hmoved, hqueue]
              constructor
              · exact (taken_replaced player.target.nextUri uri _).symm
              · rfl
          | ended hstep hmoved hqueue =>
              rw [hmoved, hqueue, taken_blank, waiting_blank]
              constructor
              · show _ = taken (.queued player.target.nextUri :: .ended :: _)
                rw [taken_queued_ended]
                by_cases hqueued : player.target.nextUri = ""
                · rw [if_pos hqueued, if_pos hqueued]
                  rfl
                · rw [if_neg hqueued, if_neg hqueued]
                  rfl
              · show _ = waiting (.queued player.target.nextUri :: .ended :: _)
                rw [waiting_cons_cons, waiting_ended]
                rfl

/-!
# Calls
-/

/-- The locators that a pipeline was told to load. -/
def loads (calls : List Pipeline.Exchange) : List String :=
  calls.filterMap fun
    | .command (.load uri) _ => some uri
    | _ => none

theorem loads_loading {uri : String} {accepted : Bool} {calls : List Pipeline.Exchange}
    (hloading : Loading uri accepted calls) :
    exists stopped more, calls = .command .stop stopped :: more ∧
      loads more = if stopped then [uri] else [] := by
  cases hloading with
  | unstopped =>
      exact ⟨false, _, rfl, rfl⟩
  | unloaded =>
      exact ⟨true, _, rfl, rfl⟩
  | unplayed =>
      exact ⟨true, _, rfl, rfl⟩
  | played =>
      exact ⟨true, _, rfl, rfl⟩

theorem aboutToFinish_moves {player : Player (Pipeline.Traced P)}
    (hqueued : player.target.nextUri ≠ "") :
    (player.after (.event .aboutToFinish)).target = ⟨player.target.nextUri, ""⟩ ∧
      exists accepted,
        (player.after (.event .aboutToFinish)).pipeline.trace =
          player.pipeline.trace ++ [.command (.load player.target.nextUri) accepted] := by
  rw [after, handle_aboutToFinish_state, (aboutToFinish_queued hqueued).2]
  exact ⟨rfl, _, rfl⟩

theorem endOfStream_moves {player : Player (Pipeline.Traced P)}
    (hqueued : player.target.nextUri ≠ "") :
    (player.after (.event .endOfStream)).target = ⟨player.target.nextUri, ""⟩ ∧
      exists stopped calls,
        (player.after (.event .endOfStream)).pipeline.trace =
          player.pipeline.trace ++ .command .stop stopped :: calls ∧
        loads calls = if stopped then [player.target.nextUri] else [] := by
  rw [after, handle_endOfStream_state, (endOfStream_queued hqueued).2]
  rcases loadAndPlay_loading player.target.nextUri player.pipeline with
    ⟨calls, htrace, hloading⟩
  rcases loads_loading hloading with ⟨stopped, more, rfl, hloads⟩
  exact ⟨rfl, stopped, more, htrace, hloads⟩

/-- With nothing queued neither event reaches the pipeline. -/
theorem after_unqueued {player : Player P} (hqueued : player.target.nextUri = "") :
    player.after (.event .aboutToFinish) = player ∧
      player.after (.event .endOfStream) = { player with state := .stopped, timing := .unknown } := by
  constructor
  · exact (handle_aboutToFinish_state player).trans (aboutToFinish_unqueued hqueued).2
  · exact (handle_endOfStream_state player).trans (endOfStream_unqueued hqueued).2

theorem queue_changed {player : Player P} {step : Step}
    (hchanged : (player.after step).target.nextUri ≠ player.target.nextUri) :
    (exists uri, step = .request (.setNextUri uri) ∧ (setNextUri uri player).result = .ok () ∧
      (player.after step).target.nextUri = uri) ∨
    ((step = .event .aboutToFinish ∨ step = .event .endOfStream) ∧
      (player.after step).target.nextUri = "") := by
  have hmarked := player.marked step
  generalize player.mark? step = mark at hmarked
  cases hmarked with
  | none hmoved hqueue =>
      exact absurd hqueue hchanged
  | queued uri hstep haccepted hmoved hqueue =>
      exact Or.inl ⟨uri, hstep, haccepted, hqueue⟩
  | ended hstep hmoved hqueue =>
      exact Or.inr ⟨hstep, hqueue⟩

/-!
# The queue of a new player
-/

/--
Whatever happens to a new player, the locators that move up are those that were
queued and not replaced before an end, each of them once and in order, and the
one that was queued last waits unless an end came after it.  Nothing else
changes the queue.  Each locator that moves up is loaded once, unless the
pipeline does not even stop, and without one the pipeline is left alone.
-/
theorem queued_locators_taken_once (pipeline : Pipeline.Traced P) (types : StringSet)
    (settings : OutputSettings) (steps : List Step) :
    let player := Player.around pipeline types settings
    let now := player.run steps
    player.moves steps = taken (player.history steps) ∧
    now.target.nextUri = waiting (player.history steps) ∧
    (forall step, (now.after step).target.nextUri ≠ now.target.nextUri ->
      (exists uri, step = .request (.setNextUri uri) ∧ (setNextUri uri now).result = .ok () ∧
        (now.after step).target.nextUri = uri) ∨
      ((step = .event .aboutToFinish ∨ step = .event .endOfStream) ∧
        (now.after step).target.nextUri = "")) ∧
    (now.target.nextUri ≠ "" ->
      ((now.after (.event .aboutToFinish)).target = ⟨now.target.nextUri, ""⟩ ∧
        exists accepted,
          (now.after (.event .aboutToFinish)).pipeline.trace =
            now.pipeline.trace ++ [.command (.load now.target.nextUri) accepted]) ∧
      ((now.after (.event .endOfStream)).target = ⟨now.target.nextUri, ""⟩ ∧
        exists stopped calls,
          (now.after (.event .endOfStream)).pipeline.trace =
            now.pipeline.trace ++ .command .stop stopped :: calls ∧
          loads calls = if stopped then [now.target.nextUri] else [])) ∧
    (now.target.nextUri = "" ->
      now.after (.event .aboutToFinish) = now ∧
      now.after (.event .endOfStream) = { now with state := .stopped, timing := .unknown }) := by
  intro player now
  rcases moves_eq_taken steps player with ⟨hmoves, hwaiting⟩
  refine ⟨?_, ?_, ?_, ?_, after_unqueued⟩
  · rw [hmoves]
    exact taken_blank _
  · rw [hwaiting]
    exact waiting_blank _
  · intro step hchanged
    exact queue_changed hchanged
  · intro hqueued
    exact ⟨aboutToFinish_moves hqueued, endOfStream_moves hqueued⟩

/-- A locator that is replaced is not taken, and one that cannot be loaded is. -/
example :
    (Player.around (.ofPipeline { Pipeline.Scripted.willing with failing := [.load] })
      .empty .default : Player (Pipeline.Traced Pipeline.Scripted)).moves
        [ .request (.setNextUri "cd:1"), .request (.setNextUri "cd:2"),
          .event .aboutToFinish, .request (.setNextUri "cd:3"), .request .stop,
          .event .endOfStream ] = ["cd:2", "cd:3"] := by
  decide

end Player
end UpnpAv
