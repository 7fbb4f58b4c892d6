import UpnpAv.Pipeline.Scripted
import UpnpAv.Proofs.Player.Atomic
import UpnpAv.Proofs.Renderer.Reached

/-!
# Requests that fail

A request first runs on the player and is then written into a service.  Writing
cannot fail as long as nobody else holds the transaction, so a request fails
when the player does, and before anything was written.  Only a stop is written
even when it fails.
-/

namespace UpnpAv
namespace Renderer

open Service (Assigns)

variable {P X α β : Type}

/-!
# Updates
-/

/-- Nobody holds the transaction of a service. -/
def Idle (renderer : Renderer P X) : Prop :=
  forall name, (renderer.service name).isOpen = false

section

variable {renderer : Renderer P X} {name : ServiceName} {values : List (VariableId × String)}
  {body : Act Service Error Unit}

theorem service_update_answers (hequipped : Equipped renderer) (hidle : Idle renderer)
    (hfits : Fits values name) (hbody : Assigns body values) :
    exists deliveries,
      ((Service.update body : Act Service Error _) (renderer.service name)).result =
        .ok (.ok (), deliveries) := by
  have hassigns : forall (declared : List Variable) (last : VariableId),
      (forall id, id ∈ values.map Prod.fst -> id < declared.length) ->
        Act.Answers (Service.Stands declared last true) body
          fun _ => Service.Stands declared last true := by
    intro declared last hids service hstands
    rw [hbody.result, hbody.state]
    exact Service.putAll_answers hids service hstands
  cases name with
  | avTransport =>
      rcases Service.update_answers (ε := Error) (by decide)
        ⟨hequipped.transport, hidle .avTransport⟩
        (hassigns _ _ fun id hid => Nat.lt_succ_of_lt (hfits.2 id hid)) with
        ⟨done, deliveries, hresult⟩
      exact ⟨deliveries, hresult⟩
  | renderingControl =>
      rcases Service.update_answers (ε := Error) (by decide)
        ⟨hequipped.rendering, hidle .renderingControl⟩
        (hassigns _ _ fun id hid => Nat.lt_succ_of_lt (hfits.2 id hid)) with
        ⟨done, deliveries, hresult⟩
      exact ⟨deliveries, hresult⟩
  | connectionManager =>
      exact hfits.elim

theorem update_answers (deliver : Receiver P X) (hequipped : Equipped renderer)
    (hidle : Idle renderer) (hfits : Fits values name) (hbody : Assigns body values) :
    (update deliver name body renderer).result = .ok () := by
  rcases service_update_answers hequipped hidle hfits hbody with ⟨deliveries, hresult⟩
  exact update_result name hresult

end

/-!
# Atomic requests
-/

/-- A renderer whose pipeline is in another state. -/
def withPipeline (renderer : Renderer P X) (pipeline : P) : Renderer P X :=
  { renderer with player := { renderer.player with pipeline := pipeline } }

/--
When the act fails, only the pipeline may have changed, and only by a failure
of its own.
-/
def IsAtomic (m : Act (Renderer P X) Error α) : Prop :=
  forall renderer, Equipped renderer -> Idle renderer ->
    forall e, (m renderer).result = .error e ->
      exists pipeline, (m renderer).state = renderer.withPipeline pipeline ∧
        (pipeline = renderer.player.pipeline ∨
          exists failure, e = .player (.pipeline failure))

/-- An act that answers whenever nobody holds a transaction. -/
def AlwaysAnswers (m : Act (Renderer P X) Error α) : Prop :=
  forall renderer, Equipped renderer -> Idle renderer -> exists a, (m renderer).result = .ok a

theorem AlwaysAnswers.isAtomic {m : Act (Renderer P X) Error α} (hm : AlwaysAnswers m) :
    IsAtomic m := by
  intro renderer hequipped hidle e herror
  rcases hm renderer hequipped hidle with ⟨a, hanswer⟩
  rw [hanswer] at herror
  cases herror

theorem isAtomic_fail (e : Error) : IsAtomic (Act.fail e : Act (Renderer P X) Error α) := by
  intro renderer _ _ failure _
  exact ⟨renderer.player.pipeline, rfl, Or.inl rfl⟩

theorem isAtomic_read (answer : Renderer P X -> Except Error α) :
    IsAtomic (Act.read >>= fun renderer => Act.ofExcept (answer renderer)) := by
  intro renderer _ _ e _
  exact ⟨renderer.player.pipeline, rfl, Or.inl rfl⟩

theorem isAtomic_command {m : Act (Player P) Player.Error α} (hm : Player.IsAtomic m) :
    IsAtomic (onPlayer (m.mapError .player) : Act (Renderer P X) Error α) := by
  intro renderer _ _ e herror
  rw [onPlayer_result] at herror
  cases hresult : (m renderer.player).result with
  | error cause =>
      rw [hresult] at herror
      cases herror
      rcases hm renderer.player cause hresult with ⟨pipeline, hstate, hpipeline⟩
      refine ⟨pipeline, ?_, hpipeline.imp_right ?_⟩
      · show { renderer with player := (m renderer.player).state } = _
        rw [hstate]
        rfl
      · rintro ⟨failure, rfl⟩
        exact ⟨failure, rfl⟩
  | ok a =>
      rw [hresult] at herror
      cases herror

/-- Whatever always answers may follow a command of the player. -/
theorem isAtomic_onPlayer {m : Act (Player P) Player.Error α}
    {next : α -> Act (Renderer P X) Error β} (hm : Player.IsAtomic m)
    (hnext : forall a, AlwaysAnswers (next a)) :
    IsAtomic (onPlayer (m.mapError .player) >>= next) := by
  intro renderer hequipped hidle e herror
  have hcommand := isAtomic_command (X := X) hm renderer hequipped hidle e
  rw [Act.bind_result] at herror
  rw [Act.bind_state]
  cases hresult : (onPlayer (m.mapError Error.player) renderer).result with
  | error failure =>
      rw [hresult] at herror
      cases herror
      exact hcommand hresult
  | ok a =>
      rw [hresult] at herror
      have hmoved : Equipped (onPlayer (m.mapError Error.player) renderer).state :=
        ⟨hequipped.transport, hequipped.rendering⟩
      rcases hnext a _ hmoved hidle with ⟨b, hanswer⟩
      rw [show (next a _).result = .error e from herror] at hanswer
      cases hanswer

theorem IsAtomic.then_pure {m : Act (Renderer P X) Error α} (hm : IsAtomic m) (f : α -> β) :
    IsAtomic (m >>= fun a => pure (f a)) := by
  intro renderer hequipped hidle e herror
  rw [Act.bind_result] at herror
  have hstate : ((m >>= fun a => pure (f a)) renderer).state = (m renderer).state :=
    Act.map_state f m renderer
  rw [hstate]
  cases hresult : (m renderer).result with
  | error failure =>
      rw [hresult] at herror
      cases herror
      exact hm renderer hequipped hidle e hresult
  | ok a =>
      rw [hresult] at herror
      cases herror

section

variable (deliver : Receiver P X)

/-- A command of the player whose outcome is written into a service that it fits. -/
theorem isAtomic_written {m : Act (Player P) Player.Error Unit} {name : ServiceName}
    {values : List (VariableId × String)} {body : Act Service Error Unit}
    (hm : Player.IsAtomic m) (hfits : Player P -> Fits values name)
    (hbody : Assigns body values) :
    IsAtomic (onPlayer (m.mapError .player) >>= fun _ => update deliver name body) := by
  apply isAtomic_onPlayer hm
  intro done renderer hequipped hidle
  exact ⟨(), update_answers deliver hequipped hidle (hfits renderer.player) hbody⟩

theorem isAtomic_setUri (uri : String) : IsAtomic (setUri deliver uri) := by
  apply isAtomic_written deliver (Player.setUri_isAtomic uri) _ (Service.assigns_putAll _)
  intro player
  exact (Writes.setUri uri : Writes player _ _ _ _).fits

theorem isAtomic_setNextUri (uri : String) : IsAtomic (setNextUri deliver uri) := by
  apply isAtomic_written deliver (Player.setNextUri_isAtomic uri) _ (Service.assigns_put _ _)
  intro player
  exact (Writes.setNextUri uri : Writes player _ _ _ _).fits

variable [Pipeline P]

theorem isAtomic_pause : IsAtomic (pause deliver) := by
  apply isAtomic_written deliver Player.pause_isAtomic _ (Service.assigns_putAll _)
  intro player
  exact (Writes.pause player.pipeline rfl :
    Writes { player with state := .playing } _ _ _ _).fits

theorem isAtomic_setVolume (percent : Nat) : IsAtomic (setVolume deliver percent) := by
  unfold setVolume
  by_cases hloud : 100 < percent
  · rw [if_pos hloud]
    exact isAtomic_fail _
  · rw [if_neg hloud]
    apply isAtomic_written deliver (Player.setVolume_isAtomic _) _ (Service.assigns_put _ _)
    intro player
    exact (Writes.setVolume percent player.pipeline : Writes player _ _ _ _).fits

theorem isAtomic_setMute (mute : Bool) : IsAtomic (setMute deliver mute) := by
  apply isAtomic_written deliver (Player.setMute_isAtomic mute) _ (Service.assigns_put _ _)
  intro player
  exact (Writes.setMute mute player.pipeline : Writes player _ _ _ _).fits

/-- What a start writes depends on the player that it leaves. -/
theorem isAtomic_play : IsAtomic (play deliver) := by
  unfold play
  apply isAtomic_onPlayer Player.play_isAtomic
  intro started renderer hequipped hidle
  rw [Act.bind_result]
  exact ⟨(), update_answers deliver hequipped hidle
    (Writes.play renderer.player.pipeline .unknown : Writes renderer.player _ _ _ _).fits
    (Service.assigns_putAll _)⟩

theorem isAtomic_seek (target : String) :
    IsAtomic (seek target : Act (Renderer P X) Error Unit) := by
  unfold seek
  cases soughtPosition target with
  | error e =>
      exact isAtomic_fail e
  | ok position =>
      exact isAtomic_command (Player.seek_isAtomic position)

theorem alwaysAnswers_positionInfo : AlwaysAnswers (positionInfo deliver) := by
  intro renderer hequipped hidle
  rcases Player.readTiming_answers (ε := Error) renderer.player with
    ⟨pipeline, known, timing, hresult, hstate⟩
  have hread : (onPlayer (X := X) (Player.readTiming (ε := Error)) renderer).result =
      .ok timing := hresult
  have hmoved : Equipped (onPlayer (X := X) (Player.readTiming (ε := Error)) renderer).state :=
    ⟨hequipped.transport, hequipped.rendering⟩
  have hstill : Idle (onPlayer (X := X) (Player.readTiming (ε := Error)) renderer).state :=
    hidle
  have hwritten := update_answers deliver hmoved hstill
    (Writes.positionInfo pipeline known (Clock.format timing.duration)
      (Clock.format timing.position) : Writes renderer.player _ _ _ _).fits
    (Service.assigns_putAll _)
  rw [positionInfo, Act.bind_result, hread]
  simp only [Act.bind_result, hwritten]
  exact ⟨_, rfl⟩

theorem isAtomic_perform {request : Request} (hrequest : request ≠ .stop) :
    IsAtomic (perform deliver request) := by
  cases request with
  | stop =>
      exact absurd rfl hrequest
  | setUri uri =>
      exact (isAtomic_setUri deliver uri).then_pure _
  | setNextUri uri =>
      exact (isAtomic_setNextUri deliver uri).then_pure _
  | play =>
      exact (isAtomic_play deliver).then_pure _
  | pause =>
      exact (isAtomic_pause deliver).then_pure _
  | seek target =>
      exact (isAtomic_seek target).then_pure _
  | setVolume percent =>
      exact (isAtomic_setVolume deliver percent).then_pure _
  | setMute mute =>
      exact (isAtomic_setMute deliver mute).then_pure _
  | positionInfo =>
      exact (alwaysAnswers_positionInfo deliver).isAtomic.then_pure _
  | readVolume =>
      exact isAtomic_read _
  | readMute =>
      exact isAtomic_read _

/-!
# Stops
-/

variable {deliver} {renderer : Renderer P X}

theorem stop_result (hequipped : Equipped renderer) (hidle : Idle renderer) :
    (stop deliver renderer).result =
      (Pipeline.perform .stop renderer.player.pipeline).result.mapError
        fun failure => .player (.pipeline failure) := by
  have hmoved : Equipped (onPlayer (X := X) Player.stop renderer).state :=
    ⟨hequipped.transport, hequipped.rendering⟩
  have hwritten := update_answers deliver hmoved hidle
    (Writes.stop renderer.player.pipeline : Writes renderer.player _ _ _ _).fits
    (Service.assigns_putAll _)
  rw [stop, Act.bind_result]
  simp only [Act.attempt_apply, Act.bind_result]
  rw [hwritten]
  show (Player.stop renderer.player).result.mapError Error.player = _
  rw [Player.stop_result]
  cases (Pipeline.perform .stop renderer.player.pipeline).result <;> rfl

/-- Whatever the pipeline does about a stop, the services and the documents are the same. -/
theorem stop_independent (hequipped : Equipped renderer) (hidle : Idle renderer)
    {record : X -> List Delivery} (hrecords : Records deliver record) :
    exists transport deliveries, forall pipeline,
      exists ambient,
        record ambient = record renderer.ambient ++ deliveries ∧
        (stop deliver (renderer.withPipeline pipeline)).state =
          { renderer with
            player :=
              { renderer.player with
                pipeline := (Pipeline.perform .stop pipeline).state
                state := .stopped
                timing := .unknown }
            avTransport := transport
            ambient := ambient } := by
  rcases service_update_answers hequipped hidle
    (Writes.stop renderer.player.pipeline : Writes renderer.player _ _ _ _).fits
    (Service.assigns_putAll _) with ⟨deliveries, hresult⟩
  refine ⟨((Service.update (Service.putAll (stateValues .stopped ++ noPosition)) :
    Act Service Error _) renderer.avTransport).state, deliveries, ?_⟩
  intro pipeline
  rcases stop_recorded hrecords (renderer.withPipeline pipeline) hresult with
    ⟨ambient, hrecord, hstate⟩
  rw [Player.stop_state] at hstate
  exact ⟨ambient, hrecord, hstate⟩

/-!
# Failures
-/

/--
A request that fails changes nothing but the pipeline, and does not reach it
unless the failure is its own: a traced pipeline has not recorded a call then.
Only a stop is carried out even when it fails.  What it leaves, and what it
reports, does not depend on the pipeline.
-/
theorem failed_request_changes_only_pipeline (hreached : Reached renderer)
    (hidle : Idle renderer) :
    (forall (deliver : Receiver P X) request e, request ≠ .stop ->
      (perform deliver request renderer).result = .error e ->
      exists pipeline,
        (perform deliver request renderer).state = renderer.withPipeline pipeline ∧
        (pipeline = renderer.player.pipeline ∨
          exists failure, e = .player (.pipeline failure))) ∧
    (forall (deliver : Receiver P X) record, Records deliver record ->
      exists transport deliveries, forall pipeline,
        let told : Outcome P Failure Unit := Pipeline.perform .stop pipeline
        let stopped := perform deliver .stop (renderer.withPipeline pipeline)
        stopped.result =
          (told.result.mapError fun failure => .player (.pipeline failure)).map
            (fun _ => .done) ∧
        stopped.state =
          { renderer with
            player :=
              { renderer.player with
                pipeline := told.state
                state := .stopped
                timing := .unknown }
            avTransport := transport
            ambient := stopped.state.ambient } ∧
        record stopped.state.ambient = record renderer.ambient ++ deliveries) := by
  have hequipped := hreached.equipped
  constructor
  · intro deliver request e hrequest
    exact isAtomic_perform deliver hrequest renderer hequipped hidle e
  · intro deliver record hrecords
    rcases stop_independent hequipped hidle hrecords with ⟨transport, deliveries, hstop⟩
    refine ⟨transport, deliveries, fun pipeline => ?_⟩
    rcases hstop pipeline with ⟨ambient, hrecord, hstate⟩
    have hmoved : Equipped (renderer.withPipeline pipeline) :=
      ⟨hequipped.transport, hequipped.rendering⟩
    intro told stopped
    have hresult : (stop deliver (renderer.withPipeline pipeline)).result =
        told.result.mapError fun failure => .player (.pipeline failure) :=
      stop_result hmoved hidle
    have hstopped : stopped.state = (stop deliver (renderer.withPipeline pipeline)).state :=
      Act.then_pure_state _ _ _
    rw [hstopped, hstate]
    refine ⟨?_, rfl, hrecord⟩
    show ((stop deliver >>= fun _ => pure Reply.done) (renderer.withPipeline pipeline)).result = _
    rw [Act.bind_result, hresult]
    cases told.result <;> rfl

end

/-- A track that the pipeline loads but refuses to play. -/
theorem failed_request_changes_only_pipeline_refused :
    exists renderer : Renderer (Pipeline.Traced Pipeline.Scripted) (List Delivery),
      Reached renderer ∧ Idle renderer ∧
      (perform keeping.deliver .play renderer).result =
        .error (.player (.pipeline ⟨"scripted play failure"⟩)) ∧
      exists pipeline,
        (perform keeping.deliver .play renderer).state = renderer.withPipeline pipeline ∧
        pipeline.trace =
          [.command .stop true, .command (.load "cd:1") true, .command .play false] := by
  let player : Player (Pipeline.Traced Pipeline.Scripted) :=
    { Player.around (.ofPipeline { Pipeline.Scripted.willing with failing := [.play] })
        .empty .default with
      target := ⟨"cd:1", ""⟩ }
  rcases exists_assemble player rfl rfl .default ([] : List Delivery) with
    ⟨renderer, hassemble⟩
  have hreached : Reached renderer := Reached.assembled hassemble
  rcases assemble_ok hassemble with ⟨rendering, connection, _, hrenderer⟩
  have hidle : Idle renderer := by
    rw [hrenderer]
    rintro (_ | _ | _) <;> rfl
  have hresult : (perform keeping.deliver .play renderer).result =
      .error (.player (.pipeline ⟨"scripted play failure"⟩)) := by
    rw [hrenderer]
    rfl
  have htrace : (perform keeping.deliver .play renderer).state.player.pipeline.trace =
      [.command .stop true, .command (.load "cd:1") true, .command .play false] := by
    rw [hrenderer]
    rfl
  rcases (failed_request_changes_only_pipeline hreached hidle).1 keeping.deliver .play _ (by decide)
    hresult with ⟨pipeline, hstate, _⟩
  rw [hstate] at htrace
  exact ⟨renderer, hreached, hidle, hresult, pipeline, hstate, htrace⟩

end Renderer
end UpnpAv
