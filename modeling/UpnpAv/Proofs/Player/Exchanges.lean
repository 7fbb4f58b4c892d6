import UpnpAv.Player.Run
import UpnpAv.Proofs.Pipeline.Trace
import UpnpAv.Proofs.Player.Events

/-!
# What a player exchanges with its pipeline

Every step of a player is told to the pipeline by a few exchanges, or by none.
One relation for the requests and one for the events list them together with
what the player makes of the answers, so that a fact about the exchanges of a
run has one case for each way of dealing with the pipeline.
-/

namespace UpnpAv
namespace Player

open Pipeline (Exchange Traced)

variable {P : Type}

/-!
# Exchanges
-/

/-- A pipeline is told to stop, to load a locator and to play, until it refuses. -/
inductive Loading (uri : String) : Bool -> List Exchange -> Prop where
  | unstopped : Loading uri false [.command .stop false]
  | unloaded : Loading uri false [.command .stop true, .command (.load uri) false]
  | unplayed :
      Loading uri false
        [.command .stop true, .command (.load uri) true, .command .play false]
  | played :
      Loading uri true
        [.command .stop true, .command (.load uri) true, .command .play true]

/-- The command that a request hands on when it has nothing to do with the transport. -/
def Request.adjustment? : Request -> Option Pipeline.Command
  | .seek position => some (.seek position)
  | .setVolume volume => some (.setVolume volume)
  | .setMute mute => some (.setMute mute)
  | _ => none

/--
What a request comes to: whether it is accepted, what is exchanged with the
pipeline, and what the player is afterwards.
-/
inductive Answered (player : Player P) :
    Request -> Bool -> List Exchange -> Player P -> Prop where
  | refused {request : Request} :
      request ≠ .stop -> request ≠ .readTiming -> Answered player request false [] player
  | setUri (uri : String) :
      Answered player (.setUri uri) true []
        { player with
          target := { player.target with uri := uri }
          metadata := .empty
          timing := .unknown }
  | setNextUri (uri : String) :
      Answered player (.setNextUri uri) true []
        { player with target := { player.target with nextUri := uri } }
  | resumed (q : P) (accepted : Bool) {reason : PauseReason} :
      player.state = .paused reason ->
      Answered player .play accepted [.command .play accepted]
        { player with
          pipeline := q
          state := if accepted then .playing else player.state }
  | restarted (q : P) {accepted : Bool} {calls : List Exchange} :
      (forall reason, player.state ≠ .paused reason) ->
      Loading player.target.uri accepted calls ->
      Answered player .play accepted calls
        { player with
          pipeline := q
          state := if accepted then .playing else player.state
          timing := if accepted then .unknown else player.timing }
  | paused (q : P) (accepted : Bool) :
      player.state = .playing ->
      Answered player .pause accepted [.command .pause accepted]
        { player with
          pipeline := q
          state := if accepted then .paused .user else player.state }
  | stopped (q : P) (accepted : Bool) :
      Answered player .stop accepted [.command .stop accepted]
        { player with pipeline := q, state := .stopped, timing := .unknown }
  | adjusted (q : P) (accepted : Bool) {request : Request} {command : Pipeline.Command} :
      request.adjustment? = some command ->
      Answered player request accepted [.command command accepted]
        { player with pipeline := q }
  | timed (q : P) (duration position : Except Failure Int) :
      player.state = .playing ->
      Answered player .readTiming true
        [.query .duration duration.toOption, .query .position position.toOption]
        { player with
          pipeline := q
          timing := retimed duration position player.timing }
  | recalled : player.state ≠ .playing -> Answered player .readTiming true [] player
  | volumeRead : Answered player .readVolume true [] player
  | muteRead : Answered player .readMute true [] player

/-- What an event comes to: what is exchanged with the pipeline, and the player afterwards. -/
inductive Reacted (player : Player P) :
    Pipeline.Event -> List Exchange -> Player P -> Prop where
  | unqueued :
      player.target.nextUri = "" -> Reacted player .aboutToFinish [] player
  | queued (q : P) (accepted : Bool) :
      player.target.nextUri ≠ "" ->
      Reacted player .aboutToFinish [.command (.load player.target.nextUri) accepted]
        { player with
          pipeline := q
          target := ⟨player.target.nextUri, ""⟩
          timing := .unknown }
  | ended :
      player.target.nextUri = "" ->
      Reacted player .endOfStream [] { player with state := .stopped, timing := .unknown }
  | succeeded (q : P) {accepted : Bool} {calls : List Exchange} :
      player.target.nextUri ≠ "" ->
      Loading player.target.nextUri accepted calls ->
      Reacted player .endOfStream calls
        { player with
          pipeline := q
          state := if accepted then .playing else .stopped
          target := ⟨player.target.nextUri, ""⟩
          timing := .unknown }
  | held (q : P) (accepted : Bool) (percent : Nat) :
      player.state = .playing ->
      Reacted player (.buffering percent) [.command .pause accepted]
        { player with
          pipeline := q
          state := if accepted then .paused .buffering else player.state }
  | released (q : P) (accepted : Bool) (percent : Nat) :
      player.state = .paused .buffering ->
      Reacted player (.buffering percent) [.command .play accepted]
        { player with
          pipeline := q
          state := if accepted then .playing else player.state }
  | described (batch : List (String × String)) :
      Reacted player (.tags batch) []
        { player with metadata := (player.metadata.merge batch).1 }
  | unmoved {event : Pipeline.Event} :
      event ≠ .aboutToFinish -> event ≠ .endOfStream -> Reacted player event [] player

/-!
# Commands
-/

section

variable {ε : Type} [Pipeline P]

/-- Telling the pipeline something and then going to a state if it accepts. -/
theorem tell_enter (command : Pipeline.Command) (state : PlayerState) (player : Player P) :
    ((tell command >>= fun _ => enter state) player).result.isOk =
        (Pipeline.perform command player.pipeline).result.isOk ∧
      ((tell command >>= fun _ => enter state) player).state =
        { player with
          pipeline := (Pipeline.perform command player.pipeline).state
          state := if (Pipeline.perform command player.pipeline).result.isOk then state
            else player.state } := by
  have htell : (tell command player).result =
      (Pipeline.perform command player.pipeline).result.mapError .pipeline := rfl
  rw [Act.bind_result, Act.bind_state, htell]
  cases (Pipeline.perform command player.pipeline).result <;> exact ⟨rfl, rfl⟩

theorem tell_log (command : Pipeline.Command) (line : Line) (player : Player P) :
    ((tell command >>= fun _ => Act.log line) player).result.isOk =
        (Pipeline.perform command player.pipeline).result.isOk ∧
      ((tell command >>= fun _ => Act.log line) player).state =
        { player with pipeline := (Pipeline.perform command player.pipeline).state } := by
  have htell : (tell command player).result =
      (Pipeline.perform command player.pipeline).result.mapError .pipeline := rfl
  rw [Act.bind_result, Act.bind_state, htell]
  cases (Pipeline.perform command player.pipeline).result <;> exact ⟨rfl, rfl⟩

theorem restart_unnamed {player : Player P} (huri : player.target.uri = "") :
    (restart player).result.isOk = false ∧ (restart player).state = player := by
  rw [restart, Act.bind_result, Act.bind_state]
  simp only [Act.read_apply, if_pos huri]
  exact ⟨rfl, rfl⟩

theorem restart_named {player : Player P} (huri : player.target.uri ≠ "") :
    (restart player).result.isOk =
        (loadAndPlay player.target.uri player.pipeline).result.isOk ∧
      (restart player).state =
        { player with
          pipeline := (loadAndPlay player.target.uri player.pipeline).state
          state := if (loadAndPlay player.target.uri player.pipeline).result.isOk then .playing
            else player.state
          timing := if (loadAndPlay player.target.uri player.pipeline).result.isOk then .unknown
            else player.timing } := by
  have hload : (onPipeline ((loadAndPlay player.target.uri).mapError Error.pipeline)
      player).result =
      (loadAndPlay player.target.uri player.pipeline).result.mapError .pipeline := rfl
  rw [restart, Act.bind_result, Act.bind_state]
  simp only [Act.read_apply, if_neg huri]
  rw [Act.bind_result, Act.bind_state, hload]
  cases (loadAndPlay player.target.uri player.pipeline).result <;> exact ⟨rfl, rfl⟩

theorem readTiming_playing {player : Player P} (hstate : player.state = .playing) :
    ((readTiming : Act (Player P) ε Timing) player).state =
      { player with
        pipeline :=
          (Pipeline.ask .position (Pipeline.ask .duration player.pipeline).state).state
        timing := retimed (Pipeline.ask .duration player.pipeline).result
          (Pipeline.ask .position (Pipeline.ask .duration player.pipeline).state).result
          player.timing } := by
  rcases player with ⟨pipeline, state, target, tags, timing, types, buffering⟩
  cases hstate
  rfl

theorem readTiming_playing_result {player : Player P} (hstate : player.state = .playing) :
    let duration := Pipeline.ask .duration player.pipeline
    let position := Pipeline.ask .position duration.state
    ((readTiming : Act (Player P) ε Timing) player).result =
      .ok { retimed duration.result position.result player.timing with
        stale := !(duration.result.isOk && position.result.isOk) } := by
  rcases player with ⟨pipeline, state, target, tags, timing, types, buffering⟩
  cases hstate
  rfl

/-- While nothing is played the pipeline is not asked, and the known times are recalled. -/
theorem readTiming_recalled {player : Player P} (hstate : player.state ≠ .playing) :
    (readTiming : Act (Player P) ε Timing) player = ⟨.ok player.timing.asStale, player, []⟩ := by
  rcases player with ⟨pipeline, state, target, tags, timing, types, buffering⟩
  cases state with
  | playing =>
      exact absurd rfl hstate
  | stopped =>
      rfl
  | ready =>
      rfl
  | paused reason =>
      rfl

end

/-!
# Traces
-/

/-- A request with its exchanges at the end of the trace. -/
def Answers (player : Player (Traced P)) (request : Request) (accepted : Bool)
    (next : Player (Traced P)) : Prop :=
  exists calls, next.pipeline.trace = player.pipeline.trace ++ calls ∧
    player.Answered request accepted calls next

/-- An event with its exchanges at the end of the trace. -/
def Reacts (player : Player (Traced P)) (event : Pipeline.Event)
    (next : Player (Traced P)) : Prop :=
  exists calls, next.pipeline.trace = player.pipeline.trace ++ calls ∧
    player.Reacted event calls next

theorem answers_kept {player : Player (Traced P)} {request : Request} {accepted : Bool}
    (hanswered : player.Answered request accepted [] player) :
    player.Answers request accepted player :=
  ⟨[], (List.append_nil _).symm, hanswered⟩

theorem setUri_answers (uri : String) (player : Player (Traced P)) :
    player.Answers (.setUri uri) (setUri uri player).result.isOk (setUri uri player).state := by
  rcases setUri_cases uri player with ⟨hresult, hstate⟩ | ⟨⟨e, hresult⟩, hstate⟩
  · rw [hresult, hstate]
    exact ⟨[], (List.append_nil _).symm, Answered.setUri uri⟩
  · rw [hresult, hstate]
    exact answers_kept (Answered.refused (by simp) (by simp))

theorem setNextUri_answers (uri : String) (player : Player (Traced P)) :
    player.Answers (.setNextUri uri) (setNextUri uri player).result.isOk
      (setNextUri uri player).state := by
  rcases setNextUri_cases uri player with ⟨hresult, hstate⟩ | ⟨⟨e, hresult⟩, hstate⟩
  · rw [hresult, hstate]
    exact ⟨[], (List.append_nil _).symm, Answered.setNextUri uri⟩
  · rw [hresult, hstate]
    exact answers_kept (Answered.refused (by simp) (by simp))

section

variable [Pipeline P]

theorem perform_trace (command : Pipeline.Command) (pipeline : Traced P) :
    (Pipeline.perform command pipeline).state.trace =
      pipeline.trace ++ [.command command (Pipeline.perform command pipeline).result.isOk] :=
  rfl

theorem loadAndPlay_loading (uri : String) (pipeline : Traced P) :
    exists calls,
      (loadAndPlay uri pipeline).state.trace = pipeline.trace ++ calls ∧
      Loading uri (loadAndPlay uri pipeline).result.isOk calls := by
  rw [loadAndPlay, Act.bind_state, Act.bind_result]
  cases hstop : (Pipeline.perform .stop pipeline).result with
  | error failure =>
      refine ⟨_, ?_, Loading.unstopped⟩
      rw [perform_trace, hstop]
      rfl
  | ok done =>
      simp only [Act.bind_state, Act.bind_result]
      cases hload : (Pipeline.perform (.load uri)
        (Pipeline.perform .stop pipeline).state).result with
      | error failure =>
          refine ⟨_, ?_, Loading.unloaded⟩
          rw [perform_trace, hload, perform_trace, hstop, List.append_assoc]
          rfl
      | ok done =>
          cases hplay : (Pipeline.perform .play (Pipeline.perform (.load uri)
            (Pipeline.perform .stop pipeline).state).state).result with
          | error failure =>
              refine ⟨_, ?_, Loading.unplayed⟩
              rw [perform_trace, hplay, perform_trace, hload, perform_trace, hstop,
                List.append_assoc, List.append_assoc]
              rfl
          | ok done =>
              refine ⟨_, ?_, Loading.played⟩
              rw [perform_trace, hplay, perform_trace, hload, perform_trace, hstop,
                List.append_assoc, List.append_assoc]
              rfl

theorem play_answers (player : Player (Traced P)) :
    player.Answers .play (play player).result.isOk (play player).state := by
  by_cases hpaused : exists reason, player.state = .paused reason
  · rcases hpaused with ⟨reason, hstate⟩
    rw [play_eq_resume hstate, Act.bind_result, Act.bind_state]
    simp only [Act.log_apply]
    rcases tell_enter .play .playing player with ⟨hresult, hnext⟩
    rw [hresult, hnext]
    exact ⟨_, perform_trace .play player.pipeline, Answered.resumed _ _ hstate⟩
  · have hplaying : forall reason, player.state ≠ .paused reason :=
      fun reason hstate => hpaused ⟨reason, hstate⟩
    rw [play_eq_restart hplaying]
    by_cases huri : player.target.uri = ""
    · rcases restart_unnamed huri with ⟨hresult, hstate⟩
      rw [hresult, hstate]
      exact answers_kept (Answered.refused (by simp) (by simp))
    · rcases restart_named huri with ⟨hresult, hstate⟩
      rcases loadAndPlay_loading player.target.uri player.pipeline with
        ⟨calls, htrace, hloading⟩
      rw [hresult, hstate]
      exact ⟨calls, htrace, Answered.restarted _ hplaying hloading⟩

theorem pause_answers (player : Player (Traced P)) :
    player.Answers .pause (pause player).result.isOk (pause player).state := by
  by_cases hstate : player.state = .playing
  · rcases tell_enter .pause (.paused .user) player with ⟨hresult, hnext⟩
    rw [pause_eq_tell hstate, hresult, hnext]
    exact ⟨_, perform_trace .pause player.pipeline, Answered.paused _ _ hstate⟩
  · rw [pause_refused hstate]
    exact answers_kept (Answered.refused (by simp) (by simp))

theorem stop_answers (player : Player (Traced P)) :
    player.Answers .stop (stop player).result.isOk (stop player).state := by
  have hresult : (stop player).result.isOk =
      (Pipeline.perform .stop player.pipeline).result.isOk := by
    rw [stop, Act.bind_result]
    simp only [Act.attempt_apply, onPipeline_result]
    cases (Pipeline.perform .stop player.pipeline).result <;> rfl
  rw [hresult, stop_state]
  exact ⟨_, perform_trace .stop player.pipeline, Answered.stopped _ _⟩

theorem tell_log_answers {request : Request} {command : Pipeline.Command}
    (hadjustment : request.adjustment? = some command) (line : Line)
    (player : Player (Traced P)) :
    player.Answers request ((tell command >>= fun _ => Act.log line) player).result.isOk
      ((tell command >>= fun _ => Act.log line) player).state := by
  rcases tell_log command line player with ⟨hresult, hstate⟩
  rw [hresult, hstate]
  exact ⟨_, perform_trace command player.pipeline, Answered.adjusted _ _ hadjustment⟩

theorem seek_answers (position : Int) (player : Player (Traced P)) :
    player.Answers (.seek position) (seek position player).result.isOk
      (seek position player).state := by
  rw [seek]
  by_cases hposition : position < 0
  · rw [if_pos hposition]
    exact answers_kept (Answered.refused (by simp) (by simp))
  · rw [if_neg hposition]
    exact tell_log_answers rfl _ player

theorem setVolume_answers (volume : Float32) (player : Player (Traced P)) :
    player.Answers (.setVolume volume) (setVolume volume player).result.isOk
      (setVolume volume player).state := by
  rw [setVolume]
  by_cases hfraction : isFraction volume = true
  · rw [if_pos hfraction]
    exact tell_log_answers rfl _ player
  · rw [if_neg hfraction]
    exact answers_kept (Answered.refused (by simp) (by simp))

theorem setMute_answers (mute : Bool) (player : Player (Traced P)) :
    player.Answers (.setMute mute) (setMute mute player).result.isOk
      (setMute mute player).state := by
  rw [setMute]
  exact tell_log_answers rfl _ player

theorem readTiming_answers_true (player : Player (Traced P)) :
    player.Answers .readTiming true
      ((readTiming : Act (Player (Traced P)) Error Timing) player).state := by
  by_cases hstate : player.state = .playing
  · rw [readTiming_playing hstate]
    refine ⟨_, ?_, Answered.timed _ _ _ hstate⟩
    exact List.append_assoc _ _ _
  · rw [readTiming_recalled hstate]
    exact answers_kept (Answered.recalled hstate)

/-- Everything that a request can do, with its exchanges. -/
theorem perform_answers (request : Request) (player : Player (Traced P)) :
    player.Answers request (perform request player).result.isOk
      (perform request player).state := by
  cases request with
  | setUri uri =>
      rw [perform, Act.then_pure_isOk, Act.then_pure_state]
      exact setUri_answers uri player
  | setNextUri uri =>
      rw [perform, Act.then_pure_isOk, Act.then_pure_state]
      exact setNextUri_answers uri player
  | play =>
      rw [perform, Act.then_pure_isOk, Act.then_pure_state]
      exact play_answers player
  | pause =>
      rw [perform, Act.then_pure_isOk, Act.then_pure_state]
      exact pause_answers player
  | stop =>
      rw [perform, Act.then_pure_isOk, Act.then_pure_state]
      exact stop_answers player
  | seek position =>
      rw [perform, Act.then_pure_isOk, Act.then_pure_state]
      exact seek_answers position player
  | setVolume volume =>
      rw [perform, Act.then_pure_isOk, Act.then_pure_state]
      exact setVolume_answers volume player
  | setMute mute =>
      rw [perform, Act.then_pure_isOk, Act.then_pure_state]
      exact setMute_answers mute player
  | readTiming =>
      rcases readTiming_answers (ε := Error) player with ⟨_, _, answer, hresult, _⟩
      rw [perform, Act.map_isOk, Act.map_state, hresult]
      exact readTiming_answers_true player
  | readVolume =>
      show player.Answers .readVolume ((player.volume.map Reply.volume).isOk) player
      cases player.volume with
      | error e =>
          exact answers_kept (Answered.refused (by simp) (by simp))
      | ok volume =>
          exact answers_kept Answered.volumeRead
  | readMute =>
      show player.Answers .readMute ((player.mute.map Reply.mute).isOk) player
      cases player.mute with
      | error e =>
          exact answers_kept (Answered.refused (by simp) (by simp))
      | ok mute =>
          exact answers_kept Answered.muteRead

theorem aboutToFinish_reacts (player : Player (Traced P)) :
    player.Reacts .aboutToFinish (player.after (.event .aboutToFinish)) := by
  rw [after, handle_aboutToFinish_state]
  by_cases hqueued : player.target.nextUri = ""
  · rw [(aboutToFinish_unqueued hqueued).2]
    exact ⟨[], (List.append_nil _).symm, Reacted.unqueued hqueued⟩
  · rw [(aboutToFinish_queued hqueued).2]
    exact ⟨_, perform_trace _ _, Reacted.queued _ _ hqueued⟩

theorem endOfStream_reacts (player : Player (Traced P)) :
    player.Reacts .endOfStream (player.after (.event .endOfStream)) := by
  rw [after, handle_endOfStream_state]
  by_cases hqueued : player.target.nextUri = ""
  · rw [(endOfStream_unqueued hqueued).2]
    exact ⟨[], (List.append_nil _).symm, Reacted.ended hqueued⟩
  · rcases loadAndPlay_loading player.target.nextUri player.pipeline with
      ⟨calls, htrace, hloading⟩
    rw [(endOfStream_queued hqueued).2]
    exact ⟨calls, htrace, Reacted.succeeded _ hqueued hloading⟩

theorem buffering_reacts (percent : Nat) (player : Player (Traced P)) :
    player.Reacts (.buffering percent) (player.after (.event (.buffering percent))) := by
  rw [after, handle, Act.then_pure_state]
  rcases (bufferAt_outcome (ε := Empty) percent player).2 with
    hkept | ⟨hstate, hheld⟩ | ⟨hstate, hreleased⟩
  · rw [hkept]
    exact ⟨[], (List.append_nil _).symm, Reacted.unmoved (by simp) (by simp)⟩
  · rw [hheld]
    exact ⟨_, perform_trace .pause player.pipeline, Reacted.held _ _ percent hstate⟩
  · rw [hreleased]
    exact ⟨_, perform_trace .play player.pipeline, Reacted.released _ _ percent hstate⟩

/-- Everything that an event can do, with its exchanges. -/
theorem after_reacts (event : Pipeline.Event) (player : Player (Traced P)) :
    player.Reacts event (player.after (.event event)) := by
  cases event with
  | aboutToFinish =>
      exact aboutToFinish_reacts player
  | endOfStream =>
      exact endOfStream_reacts player
  | buffering percent =>
      exact buffering_reacts percent player
  | tags batch =>
      exact ⟨[], (List.append_nil _).symm, Reacted.described batch⟩
  | error message details =>
      exact ⟨[], (List.append_nil _).symm, Reacted.unmoved (by simp) (by simp)⟩
  | phaseChanged old new =>
      exact ⟨[], (List.append_nil _).symm, Reacted.unmoved (by simp) (by simp)⟩

/-!
# Steps
-/

/-- The exchanges of a step. -/
def calls (player : Player (Traced P)) (step : Step) : List Exchange :=
  (player.after step).pipeline.trace.drop player.pipeline.trace.length

theorem calls_eq {player : Player (Traced P)} (step : Step) {exchanges : List Exchange}
    (htrace : (player.after step).pipeline.trace = player.pipeline.trace ++ exchanges) :
    player.calls step = exchanges := by
  rw [calls, htrace, List.drop_left]

theorem answered_after (request : Request) (player : Player (Traced P)) :
    player.Answered request (perform request player).result.isOk
      (player.calls (.request request)) (player.after (.request request)) := by
  rcases perform_answers request player with ⟨exchanges, htrace, hanswered⟩
  rw [calls_eq (.request request) htrace]
  exact hanswered

theorem reacted_after (event : Pipeline.Event) (player : Player (Traced P)) :
    player.Reacted event (player.calls (.event event)) (player.after (.event event)) := by
  rcases after_reacts event player with ⟨exchanges, htrace, hreacted⟩
  rw [calls_eq (.event event) htrace]
  exact hreacted

theorem after_trace (step : Step) (player : Player (Traced P)) :
    (player.after step).pipeline.trace = player.pipeline.trace ++ player.calls step := by
  cases step with
  | request request =>
      rcases perform_answers request player with ⟨exchanges, htrace, _⟩
      rw [calls_eq (.request request) htrace]
      exact htrace
  | event event =>
      rcases after_reacts event player with ⟨exchanges, htrace, _⟩
      rw [calls_eq (.event event) htrace]
      exact htrace

end

end Player
end UpnpAv
