import UpnpAv.Player.Events
import UpnpAv.Proofs.Player.Commands

/-!
# What the events of a pipeline make of a player

Only the end of a stream and new tags are announced.  Buffering moves a player
between playing and the pause for it, and nothing else leads into that pause.
-/

namespace UpnpAv

namespace Metadata

theorem mergePair_eq_self {tags : Metadata} {name value : String}
    (hkept : (tags.mergePair name value).2 = false) : (tags.mergePair name value).1 = tags := by
  rw [mergePair] at hkept ⊢
  cases htag : Tag.ofName? name with
  | none =>
      rfl
  | some tag =>
      simp only [htag] at hkept ⊢
      by_cases hsame : tags.get tag = value
      · rw [if_pos hsame]
      · rw [if_neg hsame] at hkept
        cases hkept

/-- A batch that replaces no value leaves the tags as they are. -/
theorem merge_eq_self {batch : List (String × String)} :
    forall {tags : Metadata}, (tags.merge batch).2 = false -> (tags.merge batch).1 = tags := by
  induction batch with
  | nil =>
      intro tags _
      rfl
  | cons pair rest ih =>
      intro tags hkept
      rw [merge, Bool.or_eq_false_iff] at hkept
      have hfirst := mergePair_eq_self hkept.1
      rw [merge, ih hkept.2]
      exact hfirst

end Metadata

namespace Player

variable {P ε : Type}

/-!
# Outcomes
-/

/-- What the buffer does to a player. -/
inductive Buffered (player : Player P) : Player P -> Prop where
  | kept (q : P) : Buffered player { player with pipeline := q }
  | paused (q : P) (hstate : player.state = .playing) :
      Buffered player { player with pipeline := q, state := .paused .buffering }
  | resumed (q : P) (hstate : player.state = .paused .buffering) :
      Buffered player { player with pipeline := q, state := .playing }

/-- What an event that is not announced does to a player. -/
inductive Unannounced (player : Player P) : Player P -> Prop where
  | kept (q : P) : Unannounced player { player with pipeline := q }
  | queued (q : P) (timing : Timing) :
      Unannounced player
        { player with pipeline := q, target := player.target.advance.2, timing := timing }
  | paused (q : P) (hstate : player.state = .playing) :
      Unannounced player { player with pipeline := q, state := .paused .buffering }
  | resumed (q : P) (hstate : player.state = .paused .buffering) :
      Unannounced player { player with pipeline := q, state := .playing }

/-- What an event that is announced does to a player. -/
inductive Announced (player : Player P) : Notice -> Player P -> Prop where
  | stopped (q : P) :
      Announced player (.transition .playbackStopped)
        { player with
          pipeline := q
          state := .stopped
          target := player.target.advance.2
          timing := .unknown }
  | started (q : P) :
      Announced player (.transition .startedNextStream)
        { player with
          pipeline := q
          state := .playing
          target := player.target.advance.2
          timing := .unknown }
  | described (tags : Metadata) :
      Announced player (.metadata tags) { player with metadata := tags }

theorem Buffered.unannounced {player next : Player P} (hnext : player.Buffered next) :
    player.Unannounced next := by
  cases hnext with
  | kept q =>
      exact Unannounced.kept q
  | paused q hstate =>
      exact Unannounced.paused q hstate
  | resumed q hstate =>
      exact Unannounced.resumed q hstate

theorem Buffered.target {player next : Player P} (hnext : player.Buffered next) :
    next.target = player.target := by
  cases hnext <;> rfl

/-!
# Ends of streams
-/

theorem advance_apply (player : Player P) :
    (advance : Act (Player P) ε (Option String)) player =
      ⟨.ok player.target.advance.1, { player with target := player.target.advance.2 }, []⟩ :=
  rfl

variable [Pipeline P]

theorem aboutToFinish_unqueued {player : Player P} (hqueued : player.target.nextUri = "") :
    ((aboutToFinish : Act (Player P) ε Unit) player).result = .ok () ∧
      ((aboutToFinish : Act (Player P) ε Unit) player).state = player := by
  rw [aboutToFinish, Act.bind_result, Act.bind_state, advance_apply,
    Target.advance_of_empty hqueued]
  exact ⟨rfl, rfl⟩

/-- The queued locator moves up and is loaded once, whether the pipeline takes it or not. -/
theorem aboutToFinish_queued {player : Player P} (hqueued : player.target.nextUri ≠ "") :
    ((aboutToFinish : Act (Player P) ε Unit) player).result = .ok () ∧
      ((aboutToFinish : Act (Player P) ε Unit) player).state =
        { player with
          pipeline := (Pipeline.perform (.load player.target.nextUri) player.pipeline).state
          target := ⟨player.target.nextUri, ""⟩
          timing := .unknown } := by
  rw [aboutToFinish, Act.bind_result, Act.bind_state, advance_apply,
    Target.advance_of_queued hqueued]
  simp only [forgetTiming, Act.modify_apply, Act.bind_result, Act.bind_state, Act.log_apply,
    Act.attempt_apply, onPipeline_result]
  cases (Pipeline.perform (.load player.target.nextUri) player.pipeline).result <;>
    exact ⟨rfl, rfl⟩

theorem aboutToFinish_state (player : Player P) :
    exists q timing,
      ((aboutToFinish : Act (Player P) ε Unit) player).result = .ok () ∧
      ((aboutToFinish : Act (Player P) ε Unit) player).state =
        { player with pipeline := q, target := player.target.advance.2, timing := timing } := by
  by_cases hqueued : player.target.nextUri = ""
  · rcases aboutToFinish_unqueued (ε := ε) hqueued with ⟨hresult, hstate⟩
    rw [hstate, Target.advance_of_empty hqueued]
    exact ⟨player.pipeline, player.timing, hresult, rfl⟩
  · rcases aboutToFinish_queued (ε := ε) hqueued with ⟨hresult, hstate⟩
    rw [hstate, Target.advance_of_queued hqueued]
    exact ⟨_, .unknown, hresult, rfl⟩

theorem endOfStream_unqueued {player : Player P} (hqueued : player.target.nextUri = "") :
    ((endOfStream : Act (Player P) ε Transition) player).result = .ok .playbackStopped ∧
      ((endOfStream : Act (Player P) ε Transition) player).state =
        { player with state := .stopped, timing := .unknown } := by
  rw [endOfStream, Act.bind_result, Act.bind_state]
  simp only [forgetTiming, Act.modify_apply, Act.bind_result, Act.bind_state, advance_apply,
    Target.advance_of_empty hqueued]
  exact ⟨rfl, rfl⟩

/-- The queued locator moves up, and the pipeline decides whether it is played. -/
theorem endOfStream_queued {player : Player P} (hqueued : player.target.nextUri ≠ "") :
    ((endOfStream : Act (Player P) ε Transition) player).result =
        .ok (if (loadAndPlay player.target.nextUri player.pipeline).result.isOk then
          .startedNextStream else .playbackStopped) ∧
      ((endOfStream : Act (Player P) ε Transition) player).state =
        { player with
          pipeline := (loadAndPlay player.target.nextUri player.pipeline).state
          state := if (loadAndPlay player.target.nextUri player.pipeline).result.isOk then
            .playing else .stopped
          target := ⟨player.target.nextUri, ""⟩
          timing := .unknown } := by
  rw [endOfStream, Act.bind_result, Act.bind_state]
  simp only [forgetTiming, Act.modify_apply, Act.bind_result, Act.bind_state, advance_apply,
    Target.advance_of_queued hqueued, Act.log_apply, Act.attempt_apply, onPipeline_result]
  cases (loadAndPlay player.target.nextUri player.pipeline).result <;> exact ⟨rfl, rfl⟩

theorem endOfStream_cases (player : Player P) :
    (exists q,
      ((endOfStream : Act (Player P) ε Transition) player).result = .ok .playbackStopped ∧
      ((endOfStream : Act (Player P) ε Transition) player).state =
        { player with
          pipeline := q
          state := .stopped
          target := player.target.advance.2
          timing := .unknown }) ∨
    (exists q,
      ((endOfStream : Act (Player P) ε Transition) player).result = .ok .startedNextStream ∧
      ((endOfStream : Act (Player P) ε Transition) player).state =
        { player with
          pipeline := q
          state := .playing
          target := player.target.advance.2
          timing := .unknown }) := by
  by_cases hqueued : player.target.nextUri = ""
  · rcases endOfStream_unqueued (ε := ε) hqueued with ⟨hresult, hstate⟩
    rw [hstate, Target.advance_of_empty hqueued]
    exact Or.inl ⟨player.pipeline, hresult, rfl⟩
  · rcases endOfStream_queued (ε := ε) hqueued with ⟨hresult, hstate⟩
    rw [hresult, hstate, Target.advance_of_queued hqueued]
    cases (loadAndPlay player.target.nextUri player.pipeline).result.isOk with
    | true =>
        exact Or.inr ⟨_, rfl, rfl⟩
    | false =>
        exact Or.inl ⟨_, rfl, rfl⟩

/-!
# Buffering
-/

theorem pauseForBuffering_outcome (percent : Nat) (player : Player P) :
    ((pauseForBuffering percent : Act (Player P) ε Unit) player).result = .ok () ∧
      ((pauseForBuffering percent : Act (Player P) ε Unit) player).state =
        { player with
          pipeline := (Pipeline.perform .pause player.pipeline).state
          state := if (Pipeline.perform .pause player.pipeline).result.isOk then
            .paused .buffering else player.state } := by
  rw [pauseForBuffering, Act.bind_result, Act.bind_state]
  simp only [Act.log_apply, Act.bind_result, Act.bind_state, Act.attempt_apply,
    onPipeline_result]
  cases (Pipeline.perform .pause player.pipeline).result <;> exact ⟨rfl, rfl⟩

theorem resumeAfterBuffering_outcome (player : Player P) :
    ((resumeAfterBuffering : Act (Player P) ε Unit) player).result = .ok () ∧
      ((resumeAfterBuffering : Act (Player P) ε Unit) player).state =
        { player with
          pipeline := (Pipeline.perform .play player.pipeline).state
          state := if (Pipeline.perform .play player.pipeline).result.isOk then .playing
            else player.state } := by
  rw [resumeAfterBuffering, Act.bind_result, Act.bind_state]
  simp only [Act.log_apply, Act.bind_result, Act.bind_state, Act.attempt_apply,
    onPipeline_result]
  cases (Pipeline.perform .play player.pipeline).result <;> exact ⟨rfl, rfl⟩

theorem bufferAt_playing (percent : Nat) {player : Player P} (hon : player.buffering = true)
    (hstate : player.state = .playing) :
    (bufferAt percent : Act (Player P) ε Unit) player =
      (if percent < 100 then pauseForBuffering percent else pure ()) player := by
  rcases player with ⟨pipeline, state, target, tags, timing, types, buffering⟩
  cases hon
  cases hstate
  rfl

theorem bufferAt_paused (percent : Nat) {player : Player P} (hon : player.buffering = true)
    (hstate : player.state = .paused .buffering) :
    (bufferAt percent : Act (Player P) ε Unit) player =
      (if 100 ≤ percent then resumeAfterBuffering else pure ()) player := by
  rcases player with ⟨pipeline, state, target, tags, timing, types, buffering⟩
  cases hon
  cases hstate
  rfl

theorem bufferAt_elsewhere (percent : Nat) {player : Player P} (hplaying : player.state ≠ .playing)
    (hpaused : player.state ≠ .paused .buffering) :
    (bufferAt percent : Act (Player P) ε Unit) player = ⟨.ok (), player, []⟩ := by
  rcases player with ⟨pipeline, state, target, tags, timing, types, buffering⟩
  cases buffering with
  | false =>
      rfl
  | true =>
      cases state with
      | stopped =>
          rfl
      | ready =>
          rfl
      | playing =>
          exact absurd rfl hplaying
      | paused reason =>
          cases reason with
          | user =>
              rfl
          | buffering =>
              exact absurd rfl hpaused

theorem bufferAt_off (percent : Nat) {player : Player P} (hoff : player.buffering = false) :
    (bufferAt percent : Act (Player P) ε Unit) player = ⟨.ok (), player, []⟩ := by
  rcases player with ⟨pipeline, state, target, tags, timing, types, buffering⟩
  cases hoff
  rfl

/-- The buffer does nothing, pauses what plays, or resumes what it paused. -/
theorem bufferAt_outcome (percent : Nat) (player : Player P) :
    ((bufferAt percent : Act (Player P) ε Unit) player).result = .ok () ∧
    (((bufferAt percent : Act (Player P) ε Unit) player).state = player ∨
    (player.state = .playing ∧
      ((bufferAt percent : Act (Player P) ε Unit) player).state =
        { player with
          pipeline := (Pipeline.perform .pause player.pipeline).state
          state := if (Pipeline.perform .pause player.pipeline).result.isOk then
            .paused .buffering else player.state }) ∨
    (player.state = .paused .buffering ∧
      ((bufferAt percent : Act (Player P) ε Unit) player).state =
        { player with
          pipeline := (Pipeline.perform .play player.pipeline).state
          state := if (Pipeline.perform .play player.pipeline).result.isOk then .playing
            else player.state })) := by
  rcases Bool.eq_false_or_eq_true player.buffering with hon | hoff
  · by_cases hplaying : player.state = .playing
    · rw [bufferAt_playing percent hon hplaying]
      by_cases hlow : percent < 100
      · rw [if_pos hlow]
        rcases pauseForBuffering_outcome (ε := ε) percent player with ⟨hresult, hstate⟩
        exact ⟨hresult, Or.inr (Or.inl ⟨hplaying, hstate⟩)⟩
      · rw [if_neg hlow]
        exact ⟨rfl, Or.inl rfl⟩
    · by_cases hpaused : player.state = .paused .buffering
      · rw [bufferAt_paused percent hon hpaused]
        by_cases hfull : 100 ≤ percent
        · rw [if_pos hfull]
          rcases resumeAfterBuffering_outcome (ε := ε) player with ⟨hresult, hstate⟩
          exact ⟨hresult, Or.inr (Or.inr ⟨hpaused, hstate⟩)⟩
        · rw [if_neg hfull]
          exact ⟨rfl, Or.inl rfl⟩
      · rw [bufferAt_elsewhere percent hplaying hpaused]
        exact ⟨rfl, Or.inl rfl⟩
  · rw [bufferAt_off percent hoff]
    exact ⟨rfl, Or.inl rfl⟩

theorem bufferAt_cases (percent : Nat) (player : Player P) :
    ((bufferAt percent : Act (Player P) ε Unit) player).result = .ok () ∧
      Buffered player ((bufferAt percent : Act (Player P) ε Unit) player).state := by
  rcases bufferAt_outcome (ε := ε) percent player with ⟨hresult, hstate⟩
  refine ⟨hresult, ?_⟩
  rcases hstate with hkept | ⟨hplaying, hpaused⟩ | ⟨hpaused, hresumed⟩
  · rw [hkept]
    exact Buffered.kept player.pipeline
  · rw [hpaused]
    cases (Pipeline.perform .pause player.pipeline).result.isOk with
    | true =>
        exact Buffered.paused _ hplaying
    | false =>
        exact Buffered.kept _
  · rw [hresumed]
    cases (Pipeline.perform .play player.pipeline).result.isOk with
    | true =>
        exact Buffered.resumed _ hpaused
    | false =>
        exact Buffered.kept _

/-!
# Events
-/

theorem handle_endOfStream_result (player : Player P) :
    ((handle .endOfStream : Act (Player P) ε (Option Notice)) player).result =
      ((endOfStream : Act (Player P) ε Transition) player).result.map
        fun transition => some (.transition transition) := by
  rw [handle, Act.bind_result]
  cases ((endOfStream : Act (Player P) ε Transition) player).result <;> rfl

theorem handle_endOfStream_state (player : Player P) :
    ((handle .endOfStream : Act (Player P) ε (Option Notice)) player).state =
      ((endOfStream : Act (Player P) ε Transition) player).state := by
  rw [handle, Act.bind_state]
  cases ((endOfStream : Act (Player P) ε Transition) player).result <;> rfl

theorem handle_aboutToFinish_state (player : Player P) :
    ((handle .aboutToFinish : Act (Player P) ε (Option Notice)) player).state =
      ((aboutToFinish : Act (Player P) ε Unit) player).state := by
  rw [handle, Act.then_pure_state]

/-- While the stream goes on, nothing but new tags is announced. -/
theorem handle_unended {event : Pipeline.Event} (hevent : event ≠ .endOfStream)
    (player : Player P) :
    (((handle event : Act (Player P) ε (Option Notice)) player).result = .ok none ∧
      Unannounced player ((handle event : Act (Player P) ε (Option Notice)) player).state) ∨
    (exists tags,
      ((handle event : Act (Player P) ε (Option Notice)) player).result =
        .ok (some (.metadata tags)) ∧
      ((handle event : Act (Player P) ε (Option Notice)) player).state =
        { player with metadata := tags }) := by
  cases event with
  | endOfStream =>
      exact absurd rfl hevent
  | aboutToFinish =>
      rw [handle, Act.bind_result, Act.bind_state]
      rcases aboutToFinish_state (ε := ε) player with ⟨q, timing, hresult, hstate⟩
      rw [hresult, hstate]
      exact Or.inl ⟨rfl, Unannounced.queued q timing⟩
  | error message details =>
      exact Or.inl ⟨rfl, Unannounced.kept player.pipeline⟩
  | phaseChanged old new =>
      exact Or.inl ⟨rfl, Unannounced.kept player.pipeline⟩
  | tags batch =>
      rw [handle, mergeTags, Act.bind_result, Act.bind_state]
      simp only [Act.read_apply, Act.bind_result, Act.bind_state, Act.logAll_apply,
        Act.modify_apply, Act.pure_apply]
      cases hreplaced : (player.metadata.merge batch).2 with
      | true =>
          exact Or.inr ⟨_, rfl, rfl⟩
      | false =>
          rw [Metadata.merge_eq_self hreplaced]
          exact Or.inl ⟨rfl, Unannounced.kept player.pipeline⟩
  | buffering percent =>
      rw [handle, Act.bind_result, Act.bind_state]
      rcases bufferAt_cases (ε := ε) percent player with ⟨hresult, hstate⟩
      rw [hresult]
      exact Or.inl ⟨rfl, hstate.unannounced⟩

/-- Everything that an event can do to a player. -/
theorem handle_cases (event : Pipeline.Event) (player : Player P) :
    (((handle event : Act (Player P) ε (Option Notice)) player).result = .ok none ∧
      Unannounced player ((handle event : Act (Player P) ε (Option Notice)) player).state) ∨
    (exists notice,
      ((handle event : Act (Player P) ε (Option Notice)) player).result = .ok (some notice) ∧
      Announced player notice
        ((handle event : Act (Player P) ε (Option Notice)) player).state) := by
  by_cases hevent : event = .endOfStream
  · rw [hevent, handle_endOfStream_result, handle_endOfStream_state]
    rcases endOfStream_cases (ε := ε) player with ⟨q, hresult, hstate⟩ | ⟨q, hresult, hstate⟩
    · rw [hresult, hstate]
      exact Or.inr ⟨_, rfl, Announced.stopped q⟩
    · rw [hresult, hstate]
      exact Or.inr ⟨_, rfl, Announced.started q⟩
  · rcases handle_unended (ε := ε) hevent player with hnothing | ⟨tags, hresult, hstate⟩
    · exact Or.inl hnothing
    · rw [hresult, hstate]
      exact Or.inr ⟨_, rfl, Announced.described tags⟩

end Player
end UpnpAv
