import UpnpAv.Pipeline.Scripted
import UpnpAv.Proofs.LastChange.Document
import UpnpAv.Proofs.Renderer.Settled

/-!
# The documents that a step delivers

A step that changes evented variables delivers one document, and it says what
has changed; any other step delivers none.
-/

namespace UpnpAv
namespace Renderer

open LastChange (Document.decode Document.encode)
open Service (Assigns Updated announced)
open StateTable (changedPairs)

variable {P X : Type}

/-!
# Recorded documents
-/

/-- A receiver that records the documents, and listeners that do nothing to a renderer. -/
structure Hooks.Recording (hooks : Hooks P X) (record : X -> List Delivery) : Prop where
  deliver : Records hooks.deliver record
  earlier : forall ambient listener, listener ∈ hooks.earlier ambient ->
    forall notice renderer, exists other,
      (listener notice renderer).state = { renderer with ambient := other } ∧
        record other = record renderer.ambient
  later : forall ambient listener, listener ∈ hooks.later ambient ->
    forall notice renderer, exists other,
      (listener notice renderer).state = { renderer with ambient := other } ∧
        record other = record renderer.ambient

theorem keeping_recording : (keeping : Hooks P (List Delivery)).Recording id := by
  refine ⟨⟨fun delivery renderer => ⟨_, rfl⟩, fun _ _ => rfl⟩, ?_, ?_⟩
  · intro ambient listener hlistener
    cases hlistener
  · intro ambient listener hlistener
    cases hlistener

theorem told_recorded {record : X -> List Delivery} {listeners : List (Listener P X)}
    (notice : Notice)
    (hlisteners : forall listener, listener ∈ listeners ->
      forall notice renderer, exists other,
        (listener notice renderer).state = { renderer with ambient := other } ∧
          record other = record renderer.ambient)
    (renderer : Renderer P X) :
    exists other,
      told listeners notice renderer = { renderer with ambient := other } ∧
        record other = record renderer.ambient := by
  refine Act.each_keeps
    (P := fun reached => exists other, reached = { renderer with ambient := other } ∧
      record other = record renderer.ambient)
    ?_ renderer ⟨renderer.ambient, rfl, rfl⟩
  rintro listener hlistener reached ⟨other, rfl, hother⟩
  rcases hlisteners listener hlistener notice { renderer with ambient := other } with
    ⟨next, hnext, hrecord⟩
  exact ⟨next, hnext, hrecord.trans hother⟩

/-!
# Steps
-/

/-- What a step did to the services and to the record: at most one update of one service. -/
inductive Delivers (record : X -> List Delivery) (before : Renderer P X) : Renderer P X -> Prop where
  | nothing (player : Player P) (ambient : X) (hrecord : record ambient = record before.ambient) :
      Delivers record before { before with player := player, ambient := ambient }
  | transport (player : Player P) (ambient : X) {after : Service} {deliveries : List Delivery}
      {values : List (VariableId × String)}
      (hupdated : Updated LastChange.transportNamespace TransportVariable.lastChange.id values
        before.avTransport after deliveries)
      (hrecord : record ambient = record before.ambient ++ deliveries) :
      Delivers record before
        { before with player := player, avTransport := after, ambient := ambient }
  | rendering (player : Player P) (ambient : X) {after : Service} {deliveries : List Delivery}
      {values : List (VariableId × String)}
      (hupdated : Updated LastChange.renderingNamespace RenderingVariable.lastChange.id values
        before.renderingControl after deliveries)
      (hrecord : record ambient = record before.ambient ++ deliveries) :
      Delivers record before
        { before with player := player, renderingControl := after, ambient := ambient }

section

variable {record : X -> List Delivery} {hooks : Hooks P X} {before next : Renderer P X}

theorem Delivers.settled (hdelivers : Delivers record before next) (hsettled : Settled before) :
    Settled next := by
  cases hdelivers with
  | nothing player ambient hrecord =>
      exact settled_with hsettled
  | transport player ambient hupdated hrecord =>
      exact ⟨hupdated.settled, hupdated.declared.trans hsettled.transportDeclared,
        hsettled.rendering, hsettled.renderingDeclared⟩
  | rendering player ambient hupdated hrecord =>
      exact ⟨hsettled.transport, hsettled.transportDeclared, hupdated.settled,
        hupdated.declared.trans hsettled.renderingDeclared⟩

/-- An update of fitting values delivers at most one document. -/
theorem delivers_update {deliver : Receiver P X} (hrecords : Records deliver record)
    {name : ServiceName} {values : List (VariableId × String)} {body : Act Service Error Unit}
    {player : Player P} {ambient : X} (hsettled : Settled before) (hfits : Fits values name)
    (hbody : Assigns body values) (hambient : record ambient = record before.ambient) :
    Delivers record before
      (update deliver name body { before with player := player, ambient := ambient }).state := by
  have hsettled' : Settled { before with player := player, ambient := ambient } :=
    settled_with hsettled
  cases name with
  | avTransport =>
      rcases transport_updated hsettled' hfits hbody with
        ⟨after, deliveries, rfl, hresult, hupdated, _⟩
      rcases update_recorded .avTransport hrecords hresult with
        ⟨other, hrecord, hstate⟩
      rw [hstate]
      exact Delivers.transport player other hupdated (hambient ▸ hrecord)
  | renderingControl =>
      rcases rendering_updated hsettled' hfits hbody with
        ⟨after, deliveries, rfl, hresult, hupdated, _⟩
      rcases update_recorded .renderingControl hrecords hresult with
        ⟨other, hrecord, hstate⟩
      rw [hstate]
      exact Delivers.rendering player other hupdated (hambient ▸ hrecord)
  | connectionManager =>
      exact hfits.elim

/-- What happens to the ambient state afterwards does not matter. -/
theorem Delivers.withAmbient {ambient : X} (hdelivers : Delivers record before next)
    (hambient : record ambient = record next.ambient) :
    Delivers record before { next with ambient := ambient } := by
  cases hdelivers with
  | nothing player other hrecord =>
      exact Delivers.nothing player ambient (hambient.trans hrecord)
  | transport player other hupdated hrecord =>
      exact Delivers.transport player ambient hupdated (hambient.trans hrecord)
  | rendering player other hupdated hrecord =>
      exact Delivers.rendering player ambient hupdated (hambient.trans hrecord)

variable [Pipeline P]

theorem delivers_after (hhooks : hooks.Recording record) (hsettled : Settled before)
    (step : Step) : Delivers record before (after hooks before step) := by
  cases step with
  | request request =>
      show Delivers record before (perform hooks.deliver request before).state
      rcases perform_cases request before with ⟨q, hnothing⟩ |
        ⟨player, name, values, body, hwrites, hbody, hsome⟩
      · rw [hnothing]
        exact Delivers.nothing _ before.ambient rfl
      · rw [hsome]
        exact delivers_update hhooks.deliver hsettled hwrites.fits hbody rfl
  | event event =>
      show Delivers record before (handle hooks event before).state
      rcases Player.handle_cases (ε := Empty) event before.player with
        ⟨hresult, _⟩ | ⟨notice, hresult, _⟩
      · rw [handle_unannounced hresult]
        exact Delivers.nothing _ before.ambient rfl
      · rw [handle_announced hresult]
        rcases told_recorded notice (hhooks.earlier before.ambient)
          { before with
            player := (Player.handle (ε := Empty) event before.player).state } with
          ⟨ambient, hearlier, hambient⟩
        rw [hearlier]
        rcases publish_state (ε := Empty) hooks.deliver notice
          { before with
            player := (Player.handle (ε := Empty) event before.player).state
            ambient := ambient } with ⟨body, hbody, hpublish⟩
        rw [hpublish]
        rcases told_recorded notice (hhooks.later before.ambient)
          (update hooks.deliver .avTransport body
            { before with
              player := (Player.handle (ε := Empty) event before.player).state
              ambient := ambient }).state with ⟨other, hlater, hother⟩
        rw [hlater]
        apply Delivers.withAmbient _ hother
        exact delivers_update hhooks.deliver hsettled (fits_noticeValues _ _) hbody hambient

end

/-!
# Exact documents
-/

/-- One more document was recorded, and it lists certain pairs. -/
def Reports (record : X -> List Delivery) (before next : Renderer P X) (space : String)
    (pairs : List (String × String)) : Prop :=
  exists document,
    record next.ambient = record before.ambient ++ [⟨space, document⟩] ∧
      Document.decode document = .ok pairs

/-- The variables that no document lists. -/
def unlisted : List String :=
  ["RelativeTimePosition", "AbsoluteTimePosition", "LastChange"]

theorem name_of_evented {declared : Variable}
    (hdeclared : declared ∈ TransportVariable.declared ++ RenderingVariable.declared)
    (hevented : declared.evented = true) :
    LastChange.isName declared.name = true ∧ declared.name ∉ unlisted := by
  have hall : forall declared,
      declared ∈ TransportVariable.declared ++ RenderingVariable.declared ->
        declared.evented = true ->
          LastChange.isName declared.name = true ∧ declared.name ∉ unlisted := by
    decide
  exact hall declared hdeclared hevented

theorem deliveries_eq {space : String} {last : VariableId} {values : List (VariableId × String)}
    {old new : Service} {deliveries : List Delivery}
    (hupdated : Updated space last values old new deliveries)
    (hchanged : changedPairs old.table new.table = []) : deliveries = [] := by
  rw [hupdated.deliveries, hchanged]
  rfl

section

variable {record : X -> List Delivery} {hooks : Hooks P X} {before next : Renderer P X}

theorem reports_of_updated {space : String} {last : VariableId}
    {values : List (VariableId × String)} {old new : Service} {deliveries : List Delivery}
    (hupdated : Updated space last values old new deliveries)
    (hrecord : record next.ambient = record before.ambient ++ deliveries)
    (hnames : forall declared, declared ∈ new.table.declared -> declared.evented = true ->
      LastChange.isName declared.name = true)
    (hchanged : changedPairs old.table new.table ≠ []) :
    Reports record before next space (changedPairs old.table new.table) := by
  refine ⟨Document.encode space (changedPairs old.table new.table), ?_, ?_⟩
  · rw [hrecord, hupdated.deliveries, announced, if_neg hchanged]
    rfl
  · apply LastChange.Document.decode_encode
    intro pair hpair
    rcases StateTable.declared_of_mem_changedPairs hpair with
      ⟨declared, hdeclared, hevented, hname⟩
    rw [← hname]
    exact hnames declared hdeclared hevented

/-- What a step records is exactly what it changed. -/
theorem Delivers.exact (hdelivers : Delivers record before next) (hsettled : Settled before) :
    (changedPairs before.avTransport.table next.avTransport.table = [] ->
      changedPairs before.renderingControl.table next.renderingControl.table = [] ->
        record next.ambient = record before.ambient) ∧
    (changedPairs before.avTransport.table next.avTransport.table ≠ [] ->
      changedPairs before.renderingControl.table next.renderingControl.table = [] ∧
        Reports record before next LastChange.transportNamespace
          (changedPairs before.avTransport.table next.avTransport.table)) ∧
    (changedPairs before.renderingControl.table next.renderingControl.table ≠ [] ->
      changedPairs before.avTransport.table next.avTransport.table = [] ∧
        Reports record before next LastChange.renderingNamespace
          (changedPairs before.renderingControl.table next.renderingControl.table)) := by
  have hsettledNext := hdelivers.settled hsettled
  cases hdelivers with
  | nothing player ambient hrecord =>
      refine ⟨fun _ _ => hrecord, ?_, ?_⟩
      · intro hchanged
        exact absurd (StateTable.changedPairs_self _) hchanged
      · intro hchanged
        exact absurd (StateTable.changedPairs_self _) hchanged
  | transport player ambient hupdated hrecord =>
      refine ⟨?_, ?_, ?_⟩
      · intro hsame _
        rw [deliveries_eq hupdated hsame, List.append_nil] at hrecord
        exact hrecord
      · intro hchanged
        refine ⟨StateTable.changedPairs_self _, reports_of_updated hupdated hrecord ?_ hchanged⟩
        intro declared hdeclared hevented
        rw [hupdated.declared, hsettled.transportDeclared] at hdeclared
        exact (name_of_evented (List.mem_append_left _ hdeclared) hevented).1
      · intro hchanged
        exact absurd (StateTable.changedPairs_self _) hchanged
  | rendering player ambient hupdated hrecord =>
      refine ⟨?_, ?_, ?_⟩
      · intro _ hsame
        rw [deliveries_eq hupdated hsame, List.append_nil] at hrecord
        exact hrecord
      · intro hchanged
        exact absurd (StateTable.changedPairs_self _) hchanged
      · intro hchanged
        refine ⟨StateTable.changedPairs_self _, reports_of_updated hupdated hrecord ?_ hchanged⟩
        intro declared hdeclared hevented
        rw [hupdated.declared, hsettled.renderingDeclared] at hdeclared
        exact (name_of_evented (List.mem_append_right _ hdeclared) hevented).1

theorem unlisted_of_settled (before : Renderer P X) (hsettled : Settled next) :
    forall pair,
      pair ∈ changedPairs before.avTransport.table next.avTransport.table ++
        changedPairs before.renderingControl.table next.renderingControl.table ->
        pair.1 ∉ unlisted := by
  intro pair hpair
  rcases List.mem_append.mp hpair with htransport | hrendering
  · rcases StateTable.declared_of_mem_changedPairs htransport with
      ⟨declared, hdeclared, hevented, hname⟩
    rw [hsettled.transportDeclared] at hdeclared
    rw [← hname]
    exact (name_of_evented (List.mem_append_left _ hdeclared) hevented).2
  · rcases StateTable.declared_of_mem_changedPairs hrendering with
      ⟨declared, hdeclared, hevented, hname⟩
    rw [hsettled.renderingDeclared] at hdeclared
    rw [← hname]
    exact (name_of_evented (List.mem_append_right _ hdeclared) hevented).2

variable [Pipeline P]

theorem settled_run (hhooks : hooks.Recording record) (steps : List Step) :
    forall {before : Renderer P X}, Settled before -> Settled (run hooks before steps) := by
  induction steps with
  | nil =>
      intro before hsettled
      exact hsettled
  | cons step rest ih =>
      intro before hsettled
      rw [run_cons]
      exact ih ((delivers_after hhooks hsettled step).settled hsettled)

/-- Every document of a run lists none of the variables that stay silent. -/
theorem recorded_run (hhooks : hooks.Recording record) (steps : List Step) :
    forall {before : Renderer P X}, Settled before ->
      exists deliveries,
        record (run hooks before steps).ambient = record before.ambient ++ deliveries ∧
        forall delivery, delivery ∈ deliveries ->
          exists pairs, Document.decode delivery.document = .ok pairs ∧
            forall pair, pair ∈ pairs -> pair.1 ∉ unlisted := by
  induction steps with
  | nil =>
      intro before _
      refine ⟨[], (List.append_nil _).symm, ?_⟩
      intro delivery hdelivery
      cases hdelivery
  | cons step rest ih =>
      intro before hsettled
      have hdelivers := delivers_after hhooks hsettled step
      have hafter := hdelivers.settled hsettled
      have hunlisted := unlisted_of_settled before hafter
      rcases hdelivers.exact hsettled with ⟨hnone, htransport, hrendering⟩
      rcases ih hafter with ⟨deliveries, hrecord, hdeliveries⟩
      rw [run_cons, hrecord]
      by_cases hfirst : changedPairs before.avTransport.table
          (after hooks before step).avTransport.table = []
      · by_cases hsecond : changedPairs before.renderingControl.table
            (after hooks before step).renderingControl.table = []
        · rw [hnone hfirst hsecond]
          exact ⟨deliveries, rfl, hdeliveries⟩
        · rcases hrendering hsecond with ⟨_, document, hdocument, hdecode⟩
          rw [hdocument, List.append_assoc]
          refine ⟨_, rfl, List.forall_mem_cons.mpr ⟨⟨_, hdecode, ?_⟩, hdeliveries⟩⟩
          intro pair hpair
          exact hunlisted pair (List.mem_append_right _ hpair)
      · rcases htransport hfirst with ⟨_, document, hdocument, hdecode⟩
        rw [hdocument, List.append_assoc]
        refine ⟨_, rfl, List.forall_mem_cons.mpr ⟨⟨_, hdecode, ?_⟩, hdeliveries⟩⟩
        intro pair hpair
        exact hunlisted pair (List.mem_append_left _ hpair)

/-- A stop is reported in the same way whether the pipeline stops or not. -/
theorem stop_reported (hhooks : hooks.Recording record) (hsettled : Settled before)
    (player : Player P) :
    (after hooks { before with player := player } (.request .stop)).avTransport =
        (after hooks before (.request .stop)).avTransport ∧
      (after hooks { before with player := player } (.request .stop)).renderingControl =
        (after hooks before (.request .stop)).renderingControl ∧
      record (after hooks { before with player := player } (.request .stop)).ambient =
        record (after hooks before (.request .stop)).ambient := by
  have hfits : Fits (stateValues .stopped ++ noPosition) .avTransport :=
    (Writes.stop player.pipeline : Writes player _ _ _ _).fits
  rcases transport_updated hsettled hfits (Service.assigns_putAll _) with
    ⟨_, deliveries, rfl, hresult, _, _⟩
  have hstop : forall player : Player P, exists ambient,
      record ambient = record before.ambient ++ deliveries ∧
      after hooks { before with player := player } (.request .stop) =
        { before with
          player := (Player.stop player).state
          avTransport :=
            ((Service.update (Service.putAll (stateValues .stopped ++ noPosition)) :
              Act Service Error _) before.avTransport).state
          ambient := ambient } := by
    intro player
    rcases stop_recorded hhooks.deliver { before with player := player } hresult
      with ⟨ambient, hrecord, hstate⟩
    refine ⟨ambient, hrecord, ?_⟩
    show (perform hooks.deliver .stop { before with player := player }).state = _
    rw [perform, Act.then_pure_state, hstate]
  rcases hstop player with ⟨first, hfirst, hfirstState⟩
  rcases hstop before.player with ⟨second, hsecond, hsecondState⟩
  rw [hfirstState, show after hooks before (.request .stop) = _ from hsecondState]
  exact ⟨rfl, rfl, hfirst.trans hsecond.symm⟩

/--
Whatever a step changes among the evented variables it reports in one document,
which lists exactly that; a step that changes none of them reports nothing.
-/
theorem step_reports_exact_changes {settings : RendererSettings} {pipeline : P}
    {types : StringSet} {output : OutputSettings} {ambient : X} {renderer : Renderer P X}
    (hhooks : hooks.Recording record)
    (hassemble : assemble settings (.around pipeline types output) ambient = .ok renderer)
    (steps : List Step) (step : Step) :
    let before := run hooks renderer steps
    let next := after hooks before step
    let transport := changedPairs before.avTransport.table next.avTransport.table
    let rendering := changedPairs before.renderingControl.table next.renderingControl.table
    record renderer.ambient = record ambient ∧
    (transport = [] -> rendering = [] -> record next.ambient = record before.ambient) ∧
    (transport ≠ [] ->
      rendering = [] ∧ Reports record before next LastChange.transportNamespace transport) ∧
    (rendering ≠ [] ->
      transport = [] ∧ Reports record before next LastChange.renderingNamespace rendering) ∧
    (exists deliveries,
      record next.ambient = record renderer.ambient ++ deliveries ∧
      forall delivery, delivery ∈ deliveries ->
        exists pairs, Document.decode delivery.document = .ok pairs ∧
          forall pair, pair ∈ pairs -> pair.1 ∉ unlisted) ∧
    (forall player,
      let stopped := after hooks before (.request .stop)
      let other := after hooks { before with player := player } (.request .stop)
      other.avTransport = stopped.avTransport ∧
      other.renderingControl = stopped.renderingControl ∧
      record other.ambient = record stopped.ambient) := by
  intro before next transport rendering
  have hnew : IsNew renderer := ⟨_, _, _, _, _, hassemble⟩
  have hsettled : Settled before := settled_run hhooks steps (settled_of_isNew hnew)
  have hdelivers : Delivers record before next := delivers_after hhooks hsettled step
  rcases hdelivers.exact hsettled with ⟨hnone, htransport, hrendering⟩
  have hrun := recorded_run hhooks (steps ++ [step]) (settled_of_isNew hnew)
  rw [run_append] at hrun
  refine ⟨?_, hnone, htransport, hrendering, hrun, stop_reported hhooks hsettled⟩
  rcases assemble_ok hassemble with ⟨_, _, _, rfl⟩
  rfl

end

/-- Setting what to play, with a record of all documents and nobody else who listens. -/
theorem step_reports_exact_changes_setUri :
    exists renderer : Renderer Pipeline.Scripted (List Delivery),
      assemble .default (.around .willing .empty .default) [] = .ok renderer ∧
      let before := run keeping renderer [.request .play, .request .stop]
      let next := after keeping before (.request (.setUri "http://a/"))
      let transport := changedPairs before.avTransport.table next.avTransport.table
      let rendering := changedPairs before.renderingControl.table next.renderingControl.table
      (transport = [] -> rendering = [] -> next.ambient = before.ambient) ∧
      (transport ≠ [] ->
        rendering = [] ∧ Reports id before next LastChange.transportNamespace transport) := by
  rcases exists_assemble (.around Pipeline.Scripted.willing .empty .default) rfl rfl .default
    ([] : List Delivery) with ⟨renderer, hassemble⟩
  -- The steps stay abstract here, so that nothing is evaluated.
  have hreports : forall steps step,
      let before := run keeping renderer steps
      let next := after keeping before step
      let transport := changedPairs before.avTransport.table next.avTransport.table
      let rendering := changedPairs before.renderingControl.table next.renderingControl.table
      (transport = [] -> rendering = [] -> next.ambient = before.ambient) ∧
      (transport ≠ [] ->
        rendering = [] ∧ Reports id before next LastChange.transportNamespace transport) := by
    intro steps step before next transport rendering
    rcases step_reports_exact_changes keeping_recording hassemble steps step with
      ⟨_, hnone, htransport, _⟩
    exact ⟨hnone, htransport⟩
  exact ⟨renderer, hassemble, hreports _ _⟩

end Renderer
end UpnpAv
