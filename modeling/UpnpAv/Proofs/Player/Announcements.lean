import Mathlib.Data.List.Basic
import UpnpAv.Pipeline.Scripted
import UpnpAv.Proofs.Player.Events
import UpnpAv.Proofs.Player.Reactions

/-!
# What listeners are told

When a stream ends, every listener for transitions is told so once, and at no
other time.  It is told that the next stream was started exactly when one was
queued and the pipeline took every command that this needs.
-/

namespace UpnpAv

/-- The transition that a notice is about. -/
def Notice.transition? : Notice -> Option Transition
  | .transition announced => some announced
  | .metadata _ => none

namespace Player

variable {P L X : Type} [Pipeline P]

/-!
# Ends of streams
-/

/-- Whether a pipeline takes the commands to stop, to load a locator and to play, in this order. -/
def accepts (uri : String) (pipeline : P) : Bool :=
  let stopped := Pipeline.perform .stop pipeline
  let loaded := Pipeline.perform (.load uri) stopped.state
  let played := Pipeline.perform .play loaded.state
  stopped.result.isOk && loaded.result.isOk && played.result.isOk

/-- What the end of the stream has to announce. -/
def ending (player : Player P) : Transition :=
  if player.target.nextUri ≠ "" ∧ accepts player.target.nextUri player.pipeline = true then
    .startedNextStream
  else
    .playbackStopped

theorem loadAndPlay_isOk (uri : String) (pipeline : P) :
    (loadAndPlay uri pipeline).result.isOk = accepts uri pipeline := by
  rw [loadAndPlay, accepts, Act.bind_result]
  cases (Pipeline.perform .stop pipeline).result with
  | error e =>
      rfl
  | ok stopped =>
      rw [Act.bind_result]
      cases (Pipeline.perform (.load uri) (Pipeline.perform .stop pipeline).state).result with
      | error e =>
          rfl
      | ok loaded =>
          rfl

theorem ending_unqueued {player : Player P} (hqueued : player.target.nextUri = "") :
    player.ending = .playbackStopped :=
  if_neg fun hboth => hboth.1 hqueued

theorem ending_queued {player : Player P} (hqueued : player.target.nextUri ≠ "") :
    player.ending =
      if accepts player.target.nextUri player.pipeline then .startedNextStream
      else .playbackStopped := by
  rw [ending]
  cases accepts player.target.nextUri player.pipeline with
  | true =>
      exact if_pos ⟨hqueued, rfl⟩
  | false =>
      exact if_neg fun hboth => Bool.false_ne_true hboth.2

theorem handle_endOfStream_ending {ε : Type} (player : Player P) :
    let handled := (handle .endOfStream : Act (Player P) ε (Option Notice)) player
    handled.result = .ok (some (.transition player.ending)) ∧
    (player.ending = .startedNextStream ->
      handled.state.state = .playing ∧ handled.state.target = ⟨player.target.nextUri, ""⟩) ∧
    (player.ending = .playbackStopped -> handled.state.state = .stopped) := by
  intro handled
  rw [show handled.result = _ from handle_endOfStream_result player,
    show handled.state = _ from handle_endOfStream_state player]
  by_cases hqueued : player.target.nextUri = ""
  · rcases endOfStream_unqueued (ε := ε) hqueued with ⟨hresult, hstate⟩
    rw [hresult, hstate, ending_unqueued hqueued]
    refine ⟨rfl, ?_, fun _ => rfl⟩
    intro hstarted
    cases hstarted
  · rcases endOfStream_queued (ε := ε) hqueued with ⟨hresult, hstate⟩
    rw [hresult, hstate, ending_queued hqueued, loadAndPlay_isOk]
    cases accepts player.target.nextUri player.pipeline with
    | true =>
        refine ⟨rfl, fun _ => ⟨rfl, rfl⟩, ?_⟩
        intro hstopped
        cases hstopped
    | false =>
        refine ⟨rfl, ?_, fun _ => rfl⟩
        intro hstarted
        cases hstarted

namespace Attended

/-!
# Calls
-/

/--
What there is to announce is told to the listeners at some places, in order, who
use the player meanwhile.
-/
structure Tells (announced : Option Notice) (places : List Nat) (calls : List (Call P))
    (attended next : Attended P L X) : Prop where
  told : next.told = attended.told ++ calls
  placed : calls.map Call.place = places
  about : forall call, call ∈ calls -> announced = some call.notice
  found : forall call, call ∈ calls -> Commanded attended.player call.found
  first : forall call, calls.head? = some call -> call.found = attended.player

variable {react : Reaction P L X}

theorem tells_nobody (announced : Option Notice) (attended : Attended P L X) :
    Tells announced [] [] attended attended := by
  refine ⟨(List.append_nil _).symm, rfl, ?_, ?_, ?_⟩
  all_goals
    intro call hcall
    cases hcall

theorem exists_tells (hreact : react.Commanding) (notice : Notice) (listeners : List (L × Nat)) :
    forall attended : Attended P L X, exists calls,
      Tells (some notice) (listeners.map Prod.snd) calls attended
        (Act.each (call react notice) listeners attended).state := by
  induction listeners with
  | nil =>
      intro attended
      exact ⟨[], tells_nobody _ attended⟩
  | cons listener rest ih =>
      intro attended
      have hcalled := call_commands hreact notice listener attended
      -- The other listeners find what this one made of the player.
      rcases ih (call react notice listener attended).state with ⟨calls, htells⟩
      rw [Act.each_cons, Act.then_state]
      refine ⟨⟨listener.2, notice, attended.player⟩ :: calls, ?_, ?_, ?_, ?_, ?_⟩
      · rw [htells.told, hcalled.told, recorded, List.append_assoc]
        rfl
      · rw [List.map_cons, List.map_cons, htells.placed]
      · intro call hcall
        rcases List.mem_cons.mp hcall with rfl | hlater
        · rfl
        · exact htells.about call hlater
      · intro call hcall
        rcases List.mem_cons.mp hcall with rfl | hlater
        · exact Commanded.here
        · exact hcalled.player.trans (htells.found call hlater)
      · intro call hcall
        cases hcall
        rfl

/-- How many listeners hear of what an event has to announce. -/
def hearers (attended : Attended P L X) : Option Notice -> Nat
  | none => 0
  | some notice => (attended.listeners notice).length

theorem handleEvent_tells (hreact : react.Commanding) (event : Pipeline.Event)
    (attended : Attended P L X) :
    exists announced calls,
      (handle event attended.player : Outcome _ Empty _).result = .ok announced ∧
      Tells announced (List.range (attended.hearers announced)) calls (attended.handled event)
        (handleEvent react event attended).state := by
  rcases Act.exists_ok (handle event) attended.player with ⟨announced, hannounced⟩
  rw [handleEvent_state react hannounced]
  cases announced with
  | none =>
      exact ⟨none, [], hannounced, tells_nobody none _⟩
  | some notice =>
      rcases exists_tells hreact notice (attended.listeners notice).zipIdx
        (attended.handled event) with ⟨calls, htells⟩
      rw [List.zipIdx_map_snd, ← List.range_eq_range'] at htells
      exact ⟨some notice, calls, hannounced, htells⟩

/-!
# Histories
-/

/-- What the listener at a place hears of transitions from a call. -/
def heard (place : Nat) (call : Call P) : Option Transition :=
  if call.place = place then call.notice.transition? else none

/-- The transitions that the listener at a place was told, the earliest first. -/
def transitionsTo (place : Nat) (attended : Attended P L X) : List Transition :=
  attended.told.filterMap (heard place)

theorem filterMap_range {α : Type} (place : Nat) (answer : Option α) (length : Nat) :
    (List.range length).filterMap (fun other => if other = place then answer else none) =
      if place < length then answer.toList else [] := by
  induction length with
  | zero =>
      rfl
  | succ length ih =>
      rw [List.range_succ, List.filterMap_append, ih]
      rcases Nat.lt_trichotomy place length with hlt | rfl | hgt
      · rw [if_pos hlt, if_pos (Nat.lt_succ_of_lt hlt)]
        simp [Nat.ne_of_gt hlt]
      · rw [if_neg (Nat.lt_irrefl place), if_pos (Nat.lt_succ_self place)]
        cases answer <;> simp
      · rw [if_neg (Nat.lt_asymm hgt), if_neg (Nat.not_lt.mpr hgt)]
        simp [Nat.ne_of_lt hgt]

theorem Tells.transitionsTo {announced : Option Notice} {length : Nat} {calls : List (Call P)}
    {attended next : Attended P L X}
    (htells : Tells announced (List.range length) calls attended next) (place : Nat) :
    next.transitionsTo place =
      attended.transitionsTo place ++
        if place < length then (announced.bind Notice.transition?).toList else [] := by
  have hcalls : calls.filterMap (heard place) =
      (calls.map Call.place).filterMap
        fun other => if other = place then announced.bind Notice.transition? else none := by
    rw [List.filterMap_map]
    apply List.filterMap_congr
    intro call hcall
    rw [heard, htells.about call hcall]
    rfl
  rw [Attended.transitionsTo, htells.told, List.filterMap_append, hcalls, htells.placed,
    filterMap_range]
  rfl

/-- What a step has to announce about the stream. -/
def ended (attended : Attended P L X) : Step P L -> Option Transition
  | .event .endOfStream => some attended.player.ending
  | _ => none

/-- What there is to announce about ends of streams during a list of steps. -/
def endings (react : Reaction P L X) (attended : Attended P L X) :
    List (Step P L) -> List Transition
  | [] => []
  | step :: rest => (attended.ended step).toList ++ (attended.after react step).endings react rest

theorem ended_unended {event : Pipeline.Event} {attended : Attended P L X}
    (hevent : event ≠ .endOfStream) : attended.ended (.event event) = none := by
  cases event with
  | endOfStream =>
      exact absurd rfl hevent
  | _ =>
      rfl

theorem announced_transition {event : Pipeline.Event} {attended : Attended P L X}
    {announced : Option Notice}
    (hannounced : (handle event attended.player : Outcome _ Empty _).result = .ok announced) :
    announced.bind Notice.transition? = attended.ended (.event event) := by
  by_cases hevent : event = .endOfStream
  · cases hevent
    rw [(handle_endOfStream_ending attended.player).1] at hannounced
    cases hannounced
    rfl
  · rw [ended_unended hevent]
    rcases handle_unended (ε := Empty) hevent attended.player with
      ⟨hresult, _⟩ | ⟨tags, hresult, _⟩
    · rw [hresult] at hannounced
      cases hannounced
      rfl
    · rw [hresult] at hannounced
      cases hannounced
      rfl

/-- A step tells everybody who listens to transitions what it ended, and nothing else. -/
theorem transitionsTo_after (hreact : react.Commanding) (step : Step P L)
    (attended : Attended P L X) (place : Nat) :
    (attended.after react step).transitionsTo place =
      attended.transitionsTo place ++
        if place < attended.onTransition.length then (attended.ended step).toList else [] := by
  have hnothing : attended.transitionsTo place ++ [] = attended.transitionsTo place :=
    List.append_nil _
  cases step with
  | event event =>
      rcases handleEvent_tells hreact event attended with
        ⟨announced, calls, hannounced, htells⟩
      have htold := htells.transitionsTo place
      rw [← announced_transition hannounced]
      -- Those who listen to transitions are counted only where one is announced.
      cases announced with
      | none =>
          simp only [Option.bind_none, Option.toList_none, ite_self] at htold ⊢
          exact htold
      | some notice =>
          cases notice with
          | transition transition =>
              exact htold
          | metadata tags =>
              simp only [Notice.transition?, Option.bind_some, Option.toList_none, ite_self]
                at htold ⊢
              exact htold
  | _ =>
      simp only [ended, Option.toList_none, ite_self]
      exact hnothing.symm

theorem transitionsTo_run (hreact : react.Commanding) (steps : List (Step P L)) {place : Nat} :
    forall {attended : Attended P L X}, place < attended.onTransition.length ->
      (attended.run react steps).transitionsTo place =
        attended.transitionsTo place ++ attended.endings react steps := by
  induction steps with
  | nil =>
      intro attended _
      exact (List.append_nil _).symm
  | cons step rest ih =>
      intro attended hplace
      have hnext := Nat.lt_of_lt_of_le hplace
        (listens_after hreact step attended).onTransition.length_le
      rw [run_cons, ih hnext, transitionsTo_after hreact, if_pos hplace, List.append_assoc,
        endings]

/-- Nothing is told to a place before somebody is registered for it. -/
theorem transitionsTo_unregistered (hreact : react.Commanding) (steps : List (Step P L))
    {place : Nat} :
    forall {attended : Attended P L X}, attended.transitionsTo place = [] ->
      (attended.run react steps).onTransition.length ≤ place ->
        (attended.run react steps).transitionsTo place = [] := by
  induction steps with
  | nil =>
      intro attended hnothing _
      exact hnothing
  | cons step rest ih =>
      intro attended hnothing hplace
      have hunregistered : attended.onTransition.length ≤ place :=
        Nat.le_trans (listens_run hreact (step :: rest) attended).onTransition.length_le hplace
      apply ih _ hplace
      rw [transitionsTo_after hreact, hnothing, if_neg (Nat.not_lt.mpr hunregistered)]
      rfl

/-!
# Announcements
-/

/--
From the step on by which somebody listens to transitions, exactly one is heard
for each end of a stream, in order: that the next stream was started, if one was
queued and the pipeline took all commands, and otherwise that playback stopped.
Nobody is called for anything but an event.  What an event has to announce is told
once to each who listens, in order; the first of them finds the player as the event
left it, and the others find what commands made of it since.  Only ends of
streams have a transition to announce, and the player is then playing what was
queued, or stopped.  Listeners that note their calls themselves note exactly those
that are on record, in the same order.
-/
theorem transitions_announced_once (hreact : react.Commanding) (player : Player P) (ambient : X)
    (earlier : List (Step P L)) (step : Step P L) (later : List (Step P L)) :
    let before := (around player ambient).run react earlier
    let registered := before.after react step
    let now := registered.run react later
    (forall place,
      before.onTransition.length ≤ place -> place < registered.onTransition.length ->
        now.transitionsTo place = registered.endings react later) ∧
    (forall next, (forall event, next ≠ .event event) ->
      (now.after react next).told = now.told) ∧
    (forall event,
      let updated := (now.handled event).player
      exists announced calls,
        (handle event now.player : Outcome _ Empty _).result = .ok announced ∧
        (now.after react (.event event)).told = now.told ++ calls ∧
        calls.map Call.place = List.range (now.hearers announced) ∧
        (forall call, call ∈ calls ->
          announced = some call.notice ∧ Commanded updated call.found) ∧
        (forall call, calls.head? = some call -> call.found = updated) ∧
        (event ≠ .endOfStream -> announced.bind Notice.transition? = none) ∧
        (event = .endOfStream ->
          announced = some (.transition now.player.ending) ∧
          (now.player.ending = .startedNextStream ->
            updated.state = .playing ∧ updated.target = ⟨now.player.target.nextUri, ""⟩) ∧
          (now.player.ending = .playbackStopped -> updated.state = .stopped))) ∧
    (forall log, react.Notes log ->
      exists notes,
        log now.ambient = log ambient ++ notes ∧
        List.Forall₂ now.Matches now.told notes) := by
  intro before registered now
  refine ⟨?_, ?_, ?_, ?_⟩
  · intro place hunregistered hplace
    have hbefore : before.transitionsTo place = [] :=
      transitionsTo_unregistered hreact earlier rfl hunregistered
    have hregistered : registered.transitionsTo place = [] := by
      rw [transitionsTo_after hreact step before, hbefore, if_neg (Nat.not_lt.mpr hunregistered)]
      rfl
    rw [transitionsTo_run hreact later hplace, hregistered, List.nil_append]
  · intro next hnext
    cases next with
    | event event =>
        exact absurd rfl (hnext event)
    | _ =>
        rfl
  · intro event updated
    rcases handleEvent_tells hreact event now with ⟨announced, calls, hannounced, htells⟩
    have hended := announced_transition hannounced
    refine ⟨announced, calls, hannounced, htells.told, htells.placed, ?_, htells.first, ?_, ?_⟩
    · intro call hcall
      exact ⟨htells.about call hcall, htells.found call hcall⟩
    · intro hevent
      rw [hended, ended_unended hevent]
    · rintro rfl
      rcases handle_endOfStream_ending (ε := Empty) now.player with ⟨hresult, hstate⟩
      rw [hresult] at hannounced
      cases hannounced
      exact ⟨rfl, hstate⟩
  · intro log hnotes
    have hbefore := noted_run hreact hnotes earlier (around player ambient)
    have hregistered := hbefore.trans (noted_after hreact hnotes step before)
      (listens_after hreact step before)
    rcases hregistered.trans (noted_run hreact hnotes later registered)
      (listens_run hreact later registered) with ⟨calls, notes, htold, hnoted, hmatch⟩
    have hcalls : now.told = calls := htold
    exact ⟨notes, hnoted, hcalls ▸ hmatch⟩

/-- Listeners that make their requests to the player whatever they are told. -/
def requesting : Reaction Pipeline.Scripted (List Request) X := fun requests _ =>
  Act.each
    (fun request => do
      let _ ← Act.attempt (onPlayer (perform request))
      pure ())
    requests

theorem requesting_commanding :
    (requesting : Reaction Pipeline.Scripted (List Request) X).Commanding := by
  intro requests _ attended
  apply Act.each_keeps (P := Commands attended) _ attended Commands.here
  intro request _ next hnext
  exact hnext.request request

theorem requesting_ambient (requests : List Request) (notice : Notice)
    (attended : Attended Pipeline.Scripted (List Request) X) :
    (requesting requests notice attended).state.ambient = attended.ambient := by
  apply Act.each_keeps
    (P := fun next : Attended Pipeline.Scripted (List Request) X =>
      next.ambient = attended.ambient) _ attended rfl
  intro request _ next hnext
  exact hnext

/-- A player around a pipeline that takes every command. -/
def willingPlayer : Player Pipeline.Scripted :=
  .around .willing .empty .default

/-- Two streams end, the second one when the pipeline does not load anything any more. -/
def twoEnds : List (Step Pipeline.Scripted (List Request)) :=
  [.request (.setNextUri "cd:2"), .event .endOfStream, .listenToTransitions [],
    .request (.setNextUri "cd:3"), .event (.buffering 7),
    .pipeline { Pipeline.Scripted.willing with failing := [.load] }, .event .endOfStream]

/-- What is heard of them by a listener that stops the player each time. -/
theorem transitions_announced_once_stopping :
    let registered := (around willingPlayer []).after requesting.noting
      (.listenToTransitions [.stop])
    let now := registered.run requesting.noting twoEnds
    now.transitionsTo 0 = [.startedNextStream, .playbackStopped] ∧
    (exists calls,
      (now.after requesting.noting (.event .endOfStream)).told = now.told ++ calls ∧
      calls.map Call.place = [0, 1] ∧
      forall call, call ∈ calls -> call.notice = .transition .playbackStopped) ∧
    now.told.map Call.place = [0, 0, 1] ∧
    List.Forall₂ now.Matches now.told now.ambient := by
  intro registered now
  rcases transitions_announced_once (noting_commanding requesting_commanding) willingPlayer []
    [] (.listenToTransitions [.stop]) twoEnds with ⟨hhistory, _, hevents, hnotes⟩
  rcases hevents .endOfStream with ⟨announced, calls, _, htold, hplaces, hcalls, _, _, hended⟩
  have hannounced : announced = some (.transition .playbackStopped) := (hended rfl).1
  rw [hannounced] at hplaces hcalls
  rcases hnotes id (noting_notes requesting_ambient) with ⟨notes, hnoted, hmatch⟩
  rw [show now.ambient = notes from hnoted]
  refine ⟨(hhistory 0 (Nat.le_refl 0) Nat.zero_lt_one).trans (by decide),
    ⟨calls, htold, hplaces, ?_⟩, by decide, hmatch⟩
  intro call hcall
  exact (Option.some.inj (hcalls call hcall).1).symm

end Attended
end Player
end UpnpAv
