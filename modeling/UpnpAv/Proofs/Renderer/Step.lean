import UpnpAv.Proofs.Player.Events
import UpnpAv.Proofs.Renderer.Update
import UpnpAv.Renderer.Run

/-!
# What a step of a renderer comes to

A step first changes the player.  Then it either writes values into the
variables of one service, all of them in one update, or writes nothing.
-/

namespace UpnpAv
namespace Renderer

open Service (Assigns assigns_put assigns_putAll assigns_log)

variable {P X : Type}

/-!
# Written values
-/

/-- The values that are written about what a player announces. -/
def noticeValues (player : Player P) : Notice -> List (VariableId × String)
  | .transition .playbackStopped => stateValues player.state ++ noPosition
  | .transition .startedNextStream => nextStreamValues player.target player.state
  | .metadata tags => [(TransportVariable.currentTrackMetaData.id, Description.encode tags)]

/--
The steps that write: how each changes the player, and what it then writes into
the variables of which service.
-/
inductive Writes (player : Player P) :
    Step -> Player P -> ServiceName -> List (VariableId × String) -> Prop where
  | setUri (uri : String) :
      Writes player (.request (.setUri uri))
        { player with
          target := { player.target with uri := uri }
          metadata := .empty
          timing := .unknown }
        .avTransport (newUriValues uri)
  | setNextUri (uri : String) :
      Writes player (.request (.setNextUri uri))
        { player with target := { player.target with nextUri := uri } }
        .avTransport [(TransportVariable.nextAvTransportUri.id, uri)]
  | play (q : P) (timing : Timing) :
      Writes player (.request .play)
        { player with pipeline := q, state := .playing, timing := timing }
        .avTransport
        (stateValues .playing ++ [(TransportVariable.currentTrackUri.id, player.target.uri)])
  | pause (q : P) (hstate : player.state = .playing) :
      Writes player (.request .pause)
        { player with pipeline := q, state := .paused .user }
        .avTransport (stateValues (.paused .user))
  | stop (q : P) :
      Writes player (.request .stop)
        { player with pipeline := q, state := .stopped, timing := .unknown }
        .avTransport (stateValues .stopped ++ noPosition)
  | setVolume (percent : Nat) (q : P) :
      Writes player (.request (.setVolume percent))
        { player with pipeline := q }
        .renderingControl [(RenderingVariable.volume.id, toString percent)]
  | setMute (mute : Bool) (q : P) :
      Writes player (.request (.setMute mute))
        { player with pipeline := q }
        .renderingControl [(RenderingVariable.mute.id, muteValue mute)]
  | positionInfo (q : P) (known : Timing) (duration position : String) :
      Writes player (.request .positionInfo)
        { player with pipeline := q, timing := known }
        .avTransport (timingValues duration position)
  | notice {event : Pipeline.Event} {notice : Notice} {next : Player P}
      (hnext : player.Announced notice next) :
      Writes player (.event event) next .avTransport (noticeValues next notice)

/-- A request that wrote nothing, and changed nothing but the pipeline. -/
def WritesNothing (renderer after : Renderer P X) : Prop :=
  exists q, after = { renderer with player := { renderer.player with pipeline := q } }

/-- A step that wrote values, seen as the update that it carried out. -/
def WritesSome (deliver : Receiver P X) (step : Step) (renderer after : Renderer P X) : Prop :=
  exists player name values body,
    Writes renderer.player step player name values ∧ Assigns body values ∧
    after = (update deliver name body { renderer with player := player }).state

/-!
# Requests
-/

section

variable {ε α β : Type} {renderer : Renderer P X}

theorem onPlayer_result (m : Act (Player P) Player.Error α) (renderer : Renderer P X) :
    ((onPlayer (m.mapError .player) : Act _ Error α) renderer).result =
      (m renderer.player).result.mapError .player :=
  rfl

theorem onPlayer_ok {m : Act (Player P) Player.Error α} {next : α -> Act (Renderer P X) Error β}
    {a : α} (hresult : (m renderer.player).result = .ok a) :
    ((onPlayer (m.mapError .player) >>= next) renderer).state =
      (next a { renderer with player := (m renderer.player).state }).state := by
  rw [Act.bind_state, onPlayer_result, hresult]
  rfl

theorem onPlayer_error {m : Act (Player P) Player.Error α}
    {next : α -> Act (Renderer P X) Error β} {e : Player.Error}
    (hresult : (m renderer.player).result = .error e) :
    ((onPlayer (m.mapError .player) >>= next) renderer).state =
      { renderer with player := (m renderer.player).state } := by
  rw [Act.bind_state, onPlayer_result, hresult]
  rfl

end

section

variable {deliver : Receiver P X}

theorem setUri_cases (uri : String) (renderer : Renderer P X) :
    ((Player.setUri uri renderer.player).result ≠ .ok () ∧
      WritesNothing renderer (setUri deliver uri renderer).state) ∨
    ((Player.setUri uri renderer.player).result = .ok () ∧
      WritesSome deliver (.request (.setUri uri)) renderer
        (setUri deliver uri renderer).state) := by
  rw [setUri]
  rcases Player.setUri_cases uri renderer.player with ⟨hresult, hstate⟩ | ⟨⟨e, hresult⟩, hstate⟩
  · rw [onPlayer_ok hresult, hstate]
    exact Or.inr ⟨hresult, _, _, _, _, Writes.setUri uri, assigns_putAll _, rfl⟩
  · rw [onPlayer_error hresult, hstate, hresult]
    exact Or.inl ⟨by simp, renderer.player.pipeline, rfl⟩

theorem setNextUri_cases (uri : String) (renderer : Renderer P X) :
    ((Player.setNextUri uri renderer.player).result ≠ .ok () ∧
      WritesNothing renderer (setNextUri deliver uri renderer).state) ∨
    ((Player.setNextUri uri renderer.player).result = .ok () ∧
      WritesSome deliver (.request (.setNextUri uri)) renderer
        (setNextUri deliver uri renderer).state) := by
  rw [setNextUri]
  rcases Player.setNextUri_cases uri renderer.player with
    ⟨hresult, hstate⟩ | ⟨⟨e, hresult⟩, hstate⟩
  · rw [onPlayer_ok hresult, hstate]
    exact Or.inr ⟨hresult, _, _, _, _, Writes.setNextUri uri, assigns_put _ _, rfl⟩
  · rw [onPlayer_error hresult, hstate, hresult]
    exact Or.inl ⟨by simp, renderer.player.pipeline, rfl⟩

variable [Pipeline P]

theorem play_cases (renderer : Renderer P X) :
    ((Player.play renderer.player).result ≠ .ok () ∧
      WritesNothing renderer (play deliver renderer).state) ∨
    ((Player.play renderer.player).result = .ok () ∧
      WritesSome deliver (.request .play) renderer (play deliver renderer).state) := by
  rw [play]
  rcases Player.play_cases renderer.player with
    ⟨q, timing, hresult, hstate⟩ | ⟨e, q, hresult, hstate⟩
  · rw [onPlayer_ok hresult, hstate, Act.bind_state]
    exact Or.inr ⟨hresult, _, _, _, _, Writes.play q timing, assigns_putAll _, rfl⟩
  · rw [onPlayer_error hresult, hstate, hresult]
    exact Or.inl ⟨by simp, q, rfl⟩

theorem pause_cases (renderer : Renderer P X) :
    WritesNothing renderer (pause deliver renderer).state ∨
      WritesSome deliver (.request .pause) renderer (pause deliver renderer).state := by
  rw [pause]
  rcases Player.pause_cases renderer.player with
    ⟨q, hplaying, hresult, hstate⟩ | ⟨e, q, hresult, hstate⟩
  · rw [onPlayer_ok hresult, hstate]
    exact Or.inr ⟨_, _, _, _, Writes.pause q hplaying, assigns_putAll _, rfl⟩
  · rw [onPlayer_error hresult, hstate]
    exact Or.inl ⟨q, rfl⟩

theorem stop_state (renderer : Renderer P X) :
    (stop deliver renderer).state =
      (update deliver .avTransport (Service.putAll (stateValues .stopped ++ noPosition))
        { renderer with player := (Player.stop renderer.player).state }).state := by
  rw [stop, Act.bind_state]
  simp only [Act.attempt_apply, Act.bind_state]
  cases (update deliver .avTransport (Service.putAll (stateValues .stopped ++ noPosition))
    (onPlayer Player.stop renderer).state).result <;> rfl

/-- What a stop reports does not depend on the player. -/
theorem stop_recorded {record : X -> List Delivery} (hrecords : Records deliver record)
    (renderer : Renderer P X) {deliveries : List Delivery}
    (hresult : ((Service.update (Service.putAll (stateValues .stopped ++ noPosition)) :
      Act Service Error _) renderer.avTransport).result = .ok (.ok (), deliveries)) :
    exists ambient,
      record ambient = record renderer.ambient ++ deliveries ∧
      (stop deliver renderer).state =
        { renderer with
          player := (Player.stop renderer.player).state
          avTransport :=
            ((Service.update (Service.putAll (stateValues .stopped ++ noPosition)) :
              Act Service Error _) renderer.avTransport).state
          ambient := ambient } := by
  have hservice : ((Service.update (Service.putAll (stateValues .stopped ++ noPosition)) :
      Act Service Error _)
        (({ renderer with player := (Player.stop renderer.player).state } : Renderer P X).service
          .avTransport)).result = .ok (.ok (), deliveries) := hresult
  rcases update_recorded .avTransport hrecords hservice with ⟨ambient, hrecord, hstate⟩
  refine ⟨ambient, hrecord, ?_⟩
  rw [stop_state, hstate]
  rfl

/-- A stop writes, whether the pipeline stops or not. -/
theorem stop_writes (renderer : Renderer P X) :
    WritesSome deliver (.request .stop) renderer (stop deliver renderer).state := by
  rw [stop_state, Player.stop_state]
  exact ⟨_, _, _, _, Writes.stop _, assigns_putAll _, rfl⟩

theorem seek_writesNothing (target : String) (renderer : Renderer P X) :
    WritesNothing renderer ((seek target : Act (Renderer P X) Error Unit) renderer).state := by
  rw [seek]
  cases soughtPosition target with
  | error e =>
      exact ⟨renderer.player.pipeline, rfl⟩
  | ok position =>
      rcases Player.seek_state position renderer.player with ⟨q, hstate⟩
      refine ⟨q, ?_⟩
      rw [← hstate]
      rfl

theorem setVolume_cases (percent : Nat) (renderer : Renderer P X) :
    WritesNothing renderer (setVolume deliver percent renderer).state ∨
      WritesSome deliver (.request (.setVolume percent)) renderer
        (setVolume deliver percent renderer).state := by
  rw [setVolume]
  by_cases hloud : 100 < percent
  · rw [if_pos hloud]
    exact Or.inl ⟨renderer.player.pipeline, rfl⟩
  · rw [if_neg hloud]
    rcases Player.setVolume_state (Float32.ofNat percent / 100.0) renderer.player with
      ⟨q, hstate⟩
    cases hresult : (Player.setVolume (Float32.ofNat percent / 100.0) renderer.player).result with
    | ok done =>
        rw [onPlayer_ok hresult, hstate]
        exact Or.inr ⟨_, _, _, _, Writes.setVolume percent q, assigns_put _ _, rfl⟩
    | error e =>
        rw [onPlayer_error hresult, hstate]
        exact Or.inl ⟨q, rfl⟩

theorem setMute_cases (mute : Bool) (renderer : Renderer P X) :
    WritesNothing renderer (setMute deliver mute renderer).state ∨
      WritesSome deliver (.request (.setMute mute)) renderer
        (setMute deliver mute renderer).state := by
  rw [setMute]
  rcases Player.setMute_state mute renderer.player with ⟨q, hstate⟩
  cases hresult : (Player.setMute mute renderer.player).result with
  | ok done =>
      rw [onPlayer_ok hresult, hstate]
      exact Or.inr ⟨_, _, _, _, Writes.setMute mute q, assigns_put _ _, rfl⟩
  | error e =>
      rw [onPlayer_error hresult, hstate]
      exact Or.inl ⟨q, rfl⟩

theorem positionInfo_state {answer : Timing} {renderer : Renderer P X}
    (hresult : (Player.readTiming (ε := Error) renderer.player).result = .ok answer) :
    (positionInfo deliver renderer).state =
      (update deliver .avTransport
        (Service.putAll
          (timingValues (Clock.format answer.duration) (Clock.format answer.position)))
        { renderer with player := (Player.readTiming (ε := Error) renderer.player).state }).state := by
  have hread : (onPlayer (Player.readTiming (ε := Error)) renderer).result = .ok answer := hresult
  rw [positionInfo, Act.bind_state, hread]
  simp only [Act.bind_state]
  cases (update deliver .avTransport
    (Service.putAll
      (timingValues (Clock.format answer.duration) (Clock.format answer.position)))
    (onPlayer (Player.readTiming (ε := Error)) renderer).state).result <;> rfl

/-- A question about the position writes what it answers. -/
theorem positionInfo_writes (renderer : Renderer P X) :
    WritesSome deliver (.request .positionInfo) renderer
      (positionInfo deliver renderer).state := by
  rcases Player.readTiming_answers (ε := Error) renderer.player with
    ⟨q, known, answer, hresult, hstate⟩
  rw [positionInfo_state hresult, hstate]
  exact ⟨_, _, _, _, Writes.positionInfo q known _ _, assigns_putAll _, rfl⟩

/-- Everything that a request can do to a renderer. -/
theorem perform_cases (request : Request) (renderer : Renderer P X) :
    WritesNothing renderer (perform deliver request renderer).state ∨
      WritesSome deliver (.request request) renderer (perform deliver request renderer).state := by
  cases request with
  | setUri uri =>
      rw [perform, Act.then_pure_state]
      exact (setUri_cases uri renderer).imp And.right And.right
  | setNextUri uri =>
      rw [perform, Act.then_pure_state]
      exact (setNextUri_cases uri renderer).imp And.right And.right
  | play =>
      rw [perform, Act.then_pure_state]
      exact (play_cases renderer).imp And.right And.right
  | pause =>
      rw [perform, Act.then_pure_state]
      exact pause_cases renderer
  | stop =>
      rw [perform, Act.then_pure_state]
      exact Or.inr (stop_writes renderer)
  | seek target =>
      rw [perform, Act.then_pure_state]
      exact Or.inl (seek_writesNothing target renderer)
  | setVolume percent =>
      rw [perform, Act.then_pure_state]
      exact setVolume_cases percent renderer
  | setMute mute =>
      rw [perform, Act.then_pure_state]
      exact setMute_cases mute renderer
  | positionInfo =>
      rw [perform, Act.map_state]
      exact Or.inr (positionInfo_writes renderer)
  | readVolume =>
      exact Or.inl ⟨renderer.player.pipeline, rfl⟩
  | readMute =>
      exact Or.inl ⟨renderer.player.pipeline, rfl⟩

end

/-!
# Announcements
-/

section

variable {ε : Type} {hooks : Hooks P X} {event : Pipeline.Event} {renderer : Renderer P X}

theorem logFailure_state (what : String) (result : Except Error Unit) (renderer : Renderer P X) :
    ((logFailure what result : Act (Renderer P X) ε Unit) renderer).state = renderer := by
  cases result <;> rfl

/-- What is announced is written in one update. -/
theorem publish_state (deliver : Receiver P X) (notice : Notice) (renderer : Renderer P X) :
    exists body,
      Assigns body (noticeValues renderer.player notice) ∧
      ((publish deliver notice : Act (Renderer P X) ε Unit) renderer).state =
        (update deliver .avTransport body renderer).state := by
  cases notice with
  | transition transition =>
      refine ⟨transitionBody renderer.player transition, ?_, ?_⟩
      · cases transition with
        | playbackStopped =>
            exact assigns_putAll _
        | startedNextStream =>
            exact assigns_log _ (assigns_putAll _)
      · rw [publish, Act.bind_state]
        simp only [Act.read_apply, Act.bind_state, Act.attempt_apply, logFailure_state]
  | metadata tags =>
      refine ⟨_, assigns_put TransportVariable.currentTrackMetaData.id (Description.encode tags),
        ?_⟩
      rw [publish, Act.bind_state]
      simp only [Act.log_apply, Act.bind_state, Act.attempt_apply, logFailure_state]

/-- The renderer after some listeners were told something. -/
def told (listeners : List (Listener P X)) (notice : Notice) (renderer : Renderer P X) :
    Renderer P X :=
  (Act.each (fun listener => listener notice) listeners renderer).state

variable [Pipeline P]

theorem handle_unannounced
    (hresult : (Player.handle (ε := Empty) event renderer.player).result = .ok none) :
    (handle hooks event renderer).state =
      { renderer with player := (Player.handle (ε := Empty) event renderer.player).state } := by
  have hplayer : (onPlayer (X := X) (Player.handle (ε := Empty) event) renderer).result =
      .ok none := hresult
  rw [handle, Act.bind_state, hplayer]
  rfl

/-- The listeners are told before and after the variables are written. -/
theorem handle_announced {notice : Notice}
    (hresult : (Player.handle (ε := Empty) event renderer.player).result = .ok (some notice)) :
    (handle hooks event renderer).state =
      told (hooks.later renderer.ambient) notice
        ((publish hooks.deliver notice : Act _ Empty Unit)
          (told (hooks.earlier renderer.ambient) notice
            { renderer with
              player := (Player.handle (ε := Empty) event renderer.player).state })).state := by
  have hplayer : (onPlayer (X := X) (Player.handle (ε := Empty) event) renderer).result =
      .ok (some notice) := hresult
  have htold : forall reached : Renderer P X,
      ((Act.read >>= fun now =>
        Act.each (fun listener => listener notice) (hooks.earlier now.ambient) >>= fun _ =>
          publish hooks.deliver notice >>= fun _ =>
            Act.each (fun listener => listener notice) (hooks.later now.ambient) :
        Act (Renderer P X) Empty Unit) reached).state =
      told (hooks.later reached.ambient) notice
        ((publish hooks.deliver notice : Act _ Empty Unit)
          (told (hooks.earlier reached.ambient) notice reached)).state := by
    intro reached
    rw [Act.bind_state]
    simp only [Act.read_apply, Act.then_state]
    rfl
  rw [handle, Act.bind_state, hplayer]
  exact htold _

end

end Renderer
end UpnpAv
