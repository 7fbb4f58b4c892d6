import UpnpAv.Proofs.Player.Sound
import UpnpAv.Proofs.Renderer.Documents
import UpnpAv.Proofs.Renderer.Played

/-!
# Motion and sound of a renderer

The transport service shows how the stream moves, and the rendering service how
it sounds.  A step writes into one of them, and leaves the other one and its
documents alone.
-/

namespace UpnpAv

/-- The namespace of the documents of a service, if it has documents. -/
def ServiceName.space : ServiceName -> String
  | .avTransport => LastChange.transportNamespace
  | .renderingControl => LastChange.renderingNamespace
  | .connectionManager => ""

namespace Renderer

open Pipeline (MovesAlike SoundsAlike)

variable {P X ε α : Type}

/-- Whether a request is about volume and mute. -/
def Request.sounds : Request -> Bool
  | .setVolume _ => true
  | .setMute _ => true
  | .readVolume => true
  | .readMute => true
  | _ => false

/-- Whether a step is about volume and mute. -/
def Step.sounds : Step -> Bool
  | .request asked => asked.sounds
  | .event _ => false

/-!
# Renderers that are alike
-/

/-- The documents in a namespace. -/
def within (space : String) (documents : List Delivery) : List Delivery :=
  documents.filter fun delivery => delivery.space = space

/-- Two renderers are alike as far as one service, its documents and the players show. -/
structure Alike (name : ServiceName) (players : Player P -> Player P -> Prop)
    (record : X -> List Delivery) (renderer other : Renderer P X) : Prop where
  player : players renderer.player other.player
  service : renderer.service name = other.service name
  documents : within name.space (record renderer.ambient) =
    within name.space (record other.ambient)

/-- Listeners who do nothing to a renderer leave it as it is. -/
theorem Alike.told {name : ServiceName} {players : Player P -> Player P -> Prop}
    {record : X -> List Delivery} {renderer other : Renderer P X}
    (halike : Alike name players record renderer other) (notice : Notice)
    {listeners others : List (Listener P X)}
    (hlisteners : forall listener, listener ∈ listeners ->
      forall notice renderer, exists ambient,
        (listener notice renderer).state = { renderer with ambient := ambient } ∧
          record ambient = record renderer.ambient)
    (hothers : forall listener, listener ∈ others ->
      forall notice renderer, exists ambient,
        (listener notice renderer).state = { renderer with ambient := ambient } ∧
          record ambient = record renderer.ambient) :
    Alike name players record (told listeners notice renderer) (told others notice other) := by
  rcases told_recorded notice hlisteners renderer with ⟨ambient, hstate, hrecord⟩
  rcases told_recorded notice hothers other with ⟨ambient', hstate', hrecord'⟩
  rw [hstate, hstate']
  refine ⟨halike.player, ?_, ?_⟩
  · cases name <;> exact halike.service
  · show within name.space (record ambient) = within name.space (record ambient')
    rw [hrecord, hrecord']
    exact halike.documents

section

variable {name : ServiceName} {players : Player P -> Player P -> Prop}
  {record : X -> List Delivery} {deliver : Receiver P X}

theorem onPlayer_agree {m n : Act (Player P) ε α} (hagree : Act.Agree players m n) :
    Act.Agree (Alike name players record) (onPlayer m) (onPlayer n) := by
  intro renderer other halike
  rcases hagree _ _ halike.player with ⟨hresult, hplayer⟩
  refine ⟨hresult, hplayer, ?_, halike.documents⟩
  cases name <;> exact halike.service

/-- An update depends on its service alone. -/
theorem update_agree (hrecords : Records deliver record) (body : Act Service Error Unit) :
    Act.Agree (Alike name players record) (update deliver name body)
      (update deliver name body) := by
  intro renderer other halike
  rcases exists_updated body (renderer.service name) with ⟨result, deliveries, hupdated⟩
  have hother : ((Service.update body : Act Service Error _) (other.service name)).result =
      .ok (result, deliveries) := halike.service ▸ hupdated
  rcases update_recorded name hrecords hupdated with ⟨ambient, hrecord, hstate⟩
  rcases update_recorded name hrecords hother with ⟨ambient', hrecord', hstate'⟩
  refine ⟨?_, ?_⟩
  · rw [update_result name hupdated, update_result name hother]
  · rw [hstate, hstate', halike.service]
    refine ⟨?_, ?_, ?_⟩
    · show players (renderer.withService name _).player (other.withService name _).player
      rw [player_withService, player_withService]
      exact halike.player
    · exact (service_withService name _ renderer).trans (service_withService name _ other).symm
    · show within name.space (record ambient) = within name.space (record ambient')
      rw [hrecord, hrecord', within, within, List.filter_append, List.filter_append]
      exact congrArg (fun documents => documents ++ _) halike.documents

end

/-!
# Motion
-/

section

variable {same : P -> P -> Prop} {record : X -> List Delivery} {deliver : Receiver P X}

theorem setUri_agree (hrecords : Records deliver record) (uri : String) :
    Act.Agree (Alike .avTransport (Player.Alike same) record) (setUri deliver uri)
      (setUri deliver uri) := by
  refine (onPlayer_agree ((Player.setUri_agree uri).mapError Error.player)).bind ?_
  intro done
  exact update_agree hrecords _

theorem setNextUri_agree (hrecords : Records deliver record) (uri : String) :
    Act.Agree (Alike .avTransport (Player.Alike same) record) (setNextUri deliver uri)
      (setNextUri deliver uri) := by
  refine (onPlayer_agree ((Player.setNextUri_agree uri).mapError Error.player)).bind ?_
  intro done
  exact update_agree hrecords _

theorem logFailure_agree (what : String) (result : Except Error Unit) :
    Act.Agree (Alike .avTransport (Player.Alike same) record)
      (logFailure what result : Act (Renderer P X) ε Unit) (logFailure what result) := by
  cases result with
  | ok done =>
      exact Act.Agree.ofExcept (.ok ())
  | error e =>
      exact Act.Agree.log _

theorem transitionBody_alike {player other : Player P} (halike : Player.Alike same player other)
    (transition : Transition) :
    transitionBody other transition = transitionBody player transition := by
  rcases halike with ⟨q, hsame⟩
  cases transition <;> rfl

theorem publish_agree (hrecords : Records deliver record) (notice : Notice) :
    Act.Agree (Alike .avTransport (Player.Alike same) record)
      (publish deliver notice : Act (Renderer P X) ε Unit) (publish deliver notice) := by
  cases notice with
  | transition transition =>
      apply Act.Agree.read
      intro renderer other halike
      rw [transitionBody_alike halike.player]
      refine (update_agree hrecords _).attempt.bind ?_
      intro result
      exact logFailure_agree _ result
  | metadata tags =>
      refine (Act.Agree.log _).bind ?_
      intro logged
      refine (update_agree hrecords _).attempt.bind ?_
      intro result
      exact logFailure_agree _ result

variable [Pipeline P] (hmoves : MovesAlike same)

include hmoves

theorem play_agree (hrecords : Records deliver record) :
    Act.Agree (Alike .avTransport (Player.Alike same) record) (play deliver) (play deliver) := by
  refine (onPlayer_agree ((Player.play_agree hmoves).mapError Error.player)).bind ?_
  intro played
  apply Act.Agree.read
  intro renderer other halike
  rw [halike.player.target]
  exact update_agree hrecords _

theorem pause_agree (hrecords : Records deliver record) :
    Act.Agree (Alike .avTransport (Player.Alike same) record) (pause deliver)
      (pause deliver) := by
  refine (onPlayer_agree ((Player.pause_agree hmoves).mapError Error.player)).bind ?_
  intro paused
  exact update_agree hrecords _

theorem stop_agree (hrecords : Records deliver record) :
    Act.Agree (Alike .avTransport (Player.Alike same) record) (stop deliver) (stop deliver) := by
  refine (onPlayer_agree (Player.stop_agree hmoves)).attempt.bind ?_
  intro stopped
  refine (update_agree hrecords _).bind ?_
  intro written
  exact Act.Agree.ofExcept _

theorem seek_agree (target : String) :
    Act.Agree (Alike .avTransport (Player.Alike same) record)
      (seek target : Act (Renderer P X) Error Unit) (seek target) := by
  refine (Act.Agree.ofExcept _).bind ?_
  intro position
  exact onPlayer_agree ((Player.seek_agree hmoves position).mapError Error.player)

theorem positionInfo_agree (hrecords : Records deliver record) :
    Act.Agree (Alike .avTransport (Player.Alike same) record) (positionInfo deliver)
      (positionInfo deliver) := by
  refine (onPlayer_agree (Player.readTiming_agree hmoves)).bind ?_
  intro timing
  refine (update_agree hrecords _).bind ?_
  intro written
  apply Act.Agree.read
  intro renderer other halike
  have hservice : other.avTransport = renderer.avTransport := halike.service.symm
  rw [hservice]
  exact Act.Agree.ofExcept (.ok _)

/-- A request that is not about volume and mute does not depend on them. -/
theorem perform_agree (hrecords : Records deliver record) {request : Request}
    (hsilent : request.sounds = false) :
    Act.Agree (Alike .avTransport (Player.Alike same) record) (perform deliver request)
      (perform deliver request) := by
  cases request with
  | setUri uri =>
      exact (setUri_agree hrecords uri).then_pure fun _ => Reply.done
  | setNextUri uri =>
      exact (setNextUri_agree hrecords uri).then_pure fun _ => Reply.done
  | play =>
      exact (play_agree hmoves hrecords).then_pure fun _ => Reply.done
  | pause =>
      exact (pause_agree hmoves hrecords).then_pure fun _ => Reply.done
  | stop =>
      exact (stop_agree hmoves hrecords).then_pure fun _ => Reply.done
  | seek target =>
      exact (seek_agree hmoves target).then_pure fun _ => Reply.done
  | positionInfo =>
      exact (positionInfo_agree hmoves hrecords).then_pure Reply.position
  | _ =>
      cases hsilent

theorem handle_alike {hooks : Hooks P X} (hhooks : hooks.Recording record)
    (event : Pipeline.Event) {renderer other : Renderer P X}
    (halike : Alike .avTransport (Player.Alike same) record renderer other) :
    Alike .avTransport (Player.Alike same) record (handle hooks event renderer).state
      (handle hooks event other).state := by
  rcases Player.handle_agree (ε := Empty) hmoves event _ _ halike.player with
    ⟨hanswer, hplayer⟩
  have hmoved : Alike .avTransport (Player.Alike same) record
      { renderer with player := (Player.handle (ε := Empty) event renderer.player).state }
      { other with player := (Player.handle (ε := Empty) event other.player).state } :=
    ⟨hplayer, halike.service, halike.documents⟩
  rcases Player.handle_cases (ε := Empty) event renderer.player with
    ⟨hresult, _⟩ | ⟨notice, hresult, _⟩
  · rw [handle_unannounced hresult, handle_unannounced (hanswer.symm.trans hresult)]
    exact hmoved
  · rw [handle_announced hresult, handle_announced (hanswer.symm.trans hresult)]
    have hearlier := hmoved.told notice (hhooks.earlier renderer.ambient)
      (hhooks.earlier other.ambient)
    have hpublished := (publish_agree (ε := Empty) hhooks.deliver notice _ _ hearlier).2
    exact hpublished.told notice (hhooks.later renderer.ambient) (hhooks.later other.ambient)

end

/-!
# Sound
-/

/-- Requests about volume and mute depend on nothing that motion changes. -/
theorem perform_sounds [Pipeline P] {same : P -> P -> Prop} {record : X -> List Delivery}
    {deliver : Receiver P X} (hsounds : SoundsAlike same) (hrecords : Records deliver record)
    {request : Request} (hrequest : request.sounds = true) :
    Act.Agree
      (Alike .renderingControl (fun player other => same player.pipeline other.pipeline) record)
      (perform deliver request) (perform deliver request) := by
  cases request with
  | setVolume percent =>
      apply Act.Agree.then_pure _ fun _ => Reply.done
      rw [setVolume]
      by_cases hloud : 100 < percent
      · rw [if_pos hloud]
        exact Act.Agree.fail _
      · rw [if_neg hloud]
        refine (onPlayer_agree
          ((Player.setVolume_agree hsounds _).mapError Error.player)).bind ?_
        intro done
        exact update_agree hrecords _
  | setMute mute =>
      apply Act.Agree.then_pure _ fun _ => Reply.done
      refine (onPlayer_agree ((Player.setMute_agree hsounds mute).mapError Error.player)).bind ?_
      intro done
      exact update_agree hrecords _
  | readVolume =>
      apply Act.Agree.read
      intro renderer other halike
      rw [volume, volume, Player.volume, Player.volume, hsounds.volume halike.player]
      exact Act.Agree.ofExcept _
  | readMute =>
      apply Act.Agree.read
      intro renderer other halike
      rw [mute, mute, Player.mute, Player.mute, hsounds.mute halike.player]
      exact Act.Agree.ofExcept _
  | _ =>
      cases hrequest

/-!
# Where a step writes
-/

/-- The service into which a step writes, if it writes. -/
def Step.service (step : Step) : ServiceName :=
  if step.sounds then .renderingControl else .avTransport

theorem Writes.name_eq {player next : Player P} {step : Step} {name : ServiceName}
    {values : List (VariableId × String)} (hwrites : Writes player step next name values) :
    name = step.service := by
  cases hwrites <;> rfl

section

variable {deliver : Receiver P X} {hooks : Hooks P X} {name : ServiceName}

theorem service_with (player : Player P) (ambient : X) (renderer : Renderer P X) :
    ({ renderer with player := player, ambient := ambient } : Renderer P X).service name =
      renderer.service name := by
  cases name <;> rfl

theorem told_service {listeners : List (Listener P X)} (notice : Notice)
    (hlisteners : forall listener, listener ∈ listeners ->
      forall notice, IsApart (listener notice)) (renderer : Renderer P X) :
    (told listeners notice renderer).service name = renderer.service name := by
  rcases told_apart notice hlisteners renderer with ⟨ambient, hstate⟩
  rw [hstate]
  exact service_with renderer.player ambient renderer

variable [Pipeline P]

/-- A step leaves every service alone but the one into which it writes. -/
theorem after_service (hhooks : hooks.Apart) {step : Step} (hname : name ≠ step.service)
    (renderer : Renderer P X) :
    (after hooks renderer step).service name = renderer.service name := by
  cases step with
  | request request =>
      show (perform hooks.deliver request renderer).state.service name = renderer.service name
      rcases perform_cases request renderer with ⟨q, hnothing⟩ |
        ⟨player, written, values, body, hwrites, hbody, hsome⟩
      · rw [hnothing]
        exact service_with _ renderer.ambient renderer
      · rw [hsome, update_service _ hhooks.deliver (hwrites.name_eq ▸ hname)]
        exact service_with player renderer.ambient renderer
  | event event =>
      show (handle hooks event renderer).state.service name = renderer.service name
      rcases Player.handle_cases (ε := Empty) event renderer.player with
        ⟨hresult, _⟩ | ⟨notice, hresult, _⟩
      · rw [handle_unannounced hresult]
        exact service_with _ renderer.ambient renderer
      · rw [handle_announced hresult, told_service notice (hhooks.later renderer.ambient)]
        rcases publish_state (ε := Empty) hooks.deliver notice
          (told (hooks.earlier renderer.ambient) notice
            { renderer with
              player := (Player.handle (ε := Empty) event renderer.player).state }) with
          ⟨body, _, hpublish⟩
        have htransport : name ≠ .avTransport := hname
        rw [hpublish, update_service _ hhooks.deliver htransport,
          told_service notice (hhooks.earlier renderer.ambient)]
        exact service_with _ renderer.ambient renderer

end

/-!
# Steps aside
-/

theorem within_other {space other : String} (hother : other ≠ space) (documents : List String) :
    within other (documents.map (Delivery.mk space)) = [] := by
  apply List.filter_eq_nil_iff.mpr
  intro delivery hdelivery
  rcases List.mem_map.mp hdelivery with ⟨document, _, rfl⟩
  exact fun hspace => hother (of_decide_eq_true hspace).symm

theorem within_updated {space other : String} {last : VariableId}
    {values : List (VariableId × String)} {old new : Service} {deliveries : List Delivery}
    (hupdated : Service.Updated space last values old new deliveries)
    (hkept : other = space -> new = old) : within other deliveries = [] := by
  by_cases hspace : other = space
  · have hchanged : StateTable.changedPairs old.table new.table = [] := by
      rw [hkept hspace]
      exact StateTable.changedPairs_self _
    rw [deliveries_eq hupdated hchanged]
    rfl
  · rw [hupdated.deliveries]
    exact within_other hspace _

/-- Documents of a service are delivered only when it has changed. -/
theorem Delivers.within_eq {record : X -> List Delivery} {before next : Renderer P X}
    (hdelivers : Delivers record before next) {name : ServiceName}
    (hservice : next.service name = before.service name) :
    within name.space (record next.ambient) = within name.space (record before.ambient) := by
  have hadds : forall {ambient : X} {deliveries : List Delivery},
      record ambient = record before.ambient ++ deliveries ->
        within name.space deliveries = [] ->
          within name.space (record ambient) = within name.space (record before.ambient) := by
    intro ambient deliveries hrecord hnone
    rw [hrecord, within, List.filter_append]
    exact (congrArg _ hnone).trans (List.append_nil _)
  cases hdelivers with
  | nothing player ambient hrecord =>
      exact congrArg (within name.space) hrecord
  | transport player ambient hupdated hrecord =>
      apply hadds hrecord (within_updated hupdated _)
      intro hspace
      cases name with
      | avTransport =>
          exact hservice
      | renderingControl =>
          exact absurd hspace (by decide)
      | connectionManager =>
          exact absurd hspace (by decide)
  | rendering player ambient hupdated hrecord =>
      apply hadds hrecord (within_updated hupdated _)
      intro hspace
      cases name with
      | avTransport =>
          exact absurd hspace (by decide)
      | renderingControl =>
          exact hservice
      | connectionManager =>
          exact absurd hspace (by decide)

theorem Hooks.Recording.apart {hooks : Hooks P X} {record : X -> List Delivery}
    (hhooks : hooks.Recording record) : hooks.Apart := by
  refine ⟨hhooks.deliver.apart, ?_, ?_⟩
  · intro ambient listener hlistener notice renderer
    rcases hhooks.earlier ambient listener hlistener notice renderer with ⟨other, hstate, _⟩
    exact ⟨other, hstate⟩
  · intro ambient listener hlistener notice renderer
    rcases hhooks.later ambient listener hlistener notice renderer with ⟨other, hstate, _⟩
    exact ⟨other, hstate⟩

theorem playerStep?_sounds {step : Step} {step' : Player.Step}
    (hstep : playerStep? step = some step') : step'.sounds = step.sounds := by
  cases step with
  | event event =>
      cases hstep
      rfl
  | request request =>
      cases request with
      | seek target =>
          rw [playerStep?] at hstep
          cases hposition : Clock.parse? target with
          | none =>
              rw [hposition] at hstep
              cases hstep
          | some position =>
              rw [hposition] at hstep
              cases hstep
              rfl
      | setVolume percent =>
          rw [playerStep?] at hstep
          by_cases hloud : 100 < percent
          · rw [if_pos hloud] at hstep
            cases hstep
          · rw [if_neg hloud] at hstep
            cases hstep
            rfl
      | _ =>
          cases hstep
          rfl

section

variable [Pipeline P] {same : P -> P -> Prop} {record : X -> List Delivery} {hooks : Hooks P X}
  {renderer other : Renderer P X} {step : Step}

/-- What a step does to other services than the one at hand cannot be told from it. -/
theorem Alike.aside {name : ServiceName} {players : Player P -> Player P -> Prop}
    (halike : Alike name players record renderer other) (hhooks : hooks.Recording record)
    (hsettled : Settled renderer) (hname : name ≠ step.service)
    (hplayer : players (after hooks renderer step).player other.player) :
    Alike name players record (after hooks renderer step) other := by
  have hservice := after_service hhooks.apart hname renderer
  exact ⟨hplayer, hservice.trans halike.service,
    ((delivers_after hhooks hsettled step).within_eq hservice).trans halike.documents⟩

/-- A step about volume and mute cannot be told from the motion. -/
theorem alike_sounded (hstep : step.sounds = true)
    (hstays : forall {command : Pipeline.Command}, command.sounds = true ->
      forall {p q : P}, same p q -> same (Pipeline.perform command p).state q)
    (hhooks : hooks.Recording record) (hsettled : Settled renderer)
    (halike : Alike .avTransport (Player.Alike same) record renderer other) :
    Alike .avTransport (Player.Alike same) record (after hooks renderer step) other := by
  apply halike.aside hhooks hsettled
  · rw [Step.service, if_pos hstep]
    decide
  · rw [after_player hhooks.apart, played]
    cases hplayer : playerStep? step with
    | none =>
        exact halike.player
    | some step' =>
        exact Player.after_stays ((playerStep?_sounds hplayer).trans hstep) hstays halike.player

/-- Any other step cannot be told from volume and mute. -/
theorem alike_moved (hstep : step.sounds = false)
    (hperform : forall {command : Pipeline.Command}, command.moves = true ->
      forall {p q : P}, same p q -> same (Pipeline.perform command p).state q)
    (hask : forall query {p q : P}, same p q -> same (Pipeline.ask query p).state q)
    (hhooks : hooks.Recording record) (hsettled : Settled renderer)
    (halike : Alike .renderingControl (fun player other => same player.pipeline other.pipeline)
      record renderer other) :
    Alike .renderingControl (fun player other => same player.pipeline other.pipeline) record
      (after hooks renderer step) other := by
  apply halike.aside hhooks hsettled
  · rw [Step.service, hstep]
    decide
  · rw [after_player hhooks.apart, played]
    cases hplayer : playerStep? step with
    | none =>
        exact halike.player
    | some step' =>
        exact Player.after_keeps (I := fun p => same p other.player.pipeline)
          (fun hmoves _ hsame => hperform hmoves hsame) (fun query _ hsame => hask query hsame)
          ((playerStep?_sounds hplayer).trans hstep) halike.player

end

end Renderer
end UpnpAv
