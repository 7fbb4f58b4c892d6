import UpnpAv.Proofs.Renderer.Step
import UpnpAv.Renderer.Start

/-!
# Renderers between their steps

A renderer starts with settled services.  What a step writes fits the service
that it is written into, so the services are settled again after the step, and
every variable shows what was written, or else what it showed before.
-/

namespace UpnpAv
namespace Renderer

open Service (Assigns Updated)

variable {P X : Type}

/-!
# Fitting values
-/

/-- Distinct identifiers below a limit. -/
def AreBelow (limit : VariableId) (ids : List VariableId) : Prop :=
  ids.Nodup ∧ forall id, id ∈ ids -> id < limit

instance (limit : VariableId) (ids : List VariableId) : Decidable (AreBelow limit ids) :=
  inferInstanceAs (Decidable (_ ∧ _))

/-- Values for distinct variables of a service, none of them the last document. -/
def Fits (values : List (VariableId × String)) : ServiceName -> Prop
  | .avTransport => AreBelow TransportVariable.lastChange.id (values.map Prod.fst)
  | .renderingControl => AreBelow RenderingVariable.lastChange.id (values.map Prod.fst)
  | .connectionManager => False

theorem fits_noticeValues (player : Player P) (notice : Notice) :
    Fits (noticeValues player notice) .avTransport := by
  cases notice with
  | transition transition =>
      cases transition with
      | playbackStopped =>
          exact (by decide : AreBelow 11 [0, 9, 7, 8])
      | startedNextStream =>
          exact (by decide : AreBelow 11 [3, 5, 4, 6, 10, 0, 9, 7, 8])
  | metadata tags =>
      exact (by decide : AreBelow 11 [10])

/-- What a step writes fits the service into which it is written. -/
theorem Writes.fits {player next : Player P} {step : Step} {name : ServiceName}
    {values : List (VariableId × String)} (hwrites : Writes player step next name values) :
    Fits values name := by
  cases hwrites with
  | setUri uri =>
      exact (by decide : AreBelow 11 [3, 5, 6, 10, 7, 8])
  | setNextUri uri =>
      exact (by decide : AreBelow 11 [4])
  | play q timing =>
      exact (by decide : AreBelow 11 [0, 9, 5])
  | pause q hstate =>
      exact (by decide : AreBelow 11 [0, 9])
  | stop q =>
      exact (by decide : AreBelow 11 [0, 9, 7, 8])
  | setVolume percent q =>
      exact (by decide : AreBelow 2 [0])
  | setMute mute q =>
      exact (by decide : AreBelow 2 [1])
  | positionInfo q known duration position =>
      exact (by decide : AreBelow 11 [6, 7, 8])
  | notice hnext =>
      exact fits_noticeValues _ _

/-- The value that is written for a transport variable, if there is one. -/
def transportValue? (values : List (VariableId × String)) (id : VariableId) :
    ServiceName -> Option String
  | .avTransport => values.lookup id
  | _ => none

/-!
# Settled services
-/

/-- The two evented services are settled, and their variables are the declared ones. -/
structure Settled (renderer : Renderer P X) : Prop where
  transport : renderer.avTransport.Settled LastChange.transportNamespace
    TransportVariable.lastChange.id
  transportDeclared : renderer.avTransport.table.declared = TransportVariable.declared
  rendering : renderer.renderingControl.Settled LastChange.renderingNamespace
    RenderingVariable.lastChange.id
  renderingDeclared : renderer.renderingControl.table.declared = RenderingVariable.declared

section

variable {renderer : Renderer P X}

/-- Settled services stay settled whatever becomes of the player and of the listeners. -/
theorem settled_with {player : Player P} {ambient : X} (hsettled : Settled renderer) :
    Settled { renderer with player := player, ambient := ambient } :=
  ⟨hsettled.transport, hsettled.transportDeclared, hsettled.rendering,
    hsettled.renderingDeclared⟩

end

theorem exists_seed {values : List (VariableId × String)} :
    forall {table : StateTable},
      (forall id, id ∈ values.map Prod.fst -> id < table.slots.length) ->
        exists next, table.seed values = .ok next := by
  induction values with
  | nil =>
      intro table _
      exact ⟨table, rfl⟩
  | cons pair rest ih =>
      intro table hids
      have hrest := fun id hid => hids id (List.mem_cons_of_mem pair.1 hid)
      rcases table.assign_cases pair.1 pair.2 with
        ⟨hunknown, _⟩ | ⟨_, hassign⟩ | ⟨slot, _, _, hassign⟩
      · exact absurd (hids pair.1 List.mem_cons_self)
          (Nat.not_lt.mpr (List.getElem?_eq_none_iff.mp hunknown))
      · rw [StateTable.seed, hassign]
        exact ih hrest
      · rw [StateTable.seed, hassign]
        apply ih
        rw [StateTable.length_slots_written]
        exact hrest

theorem exists_seeded (declared : List Variable) (values : List (VariableId × String))
    (hids : forall id, id ∈ values.map Prod.fst -> id < declared.length) :
    exists table, seeded declared values = .ok table := by
  have hlength : (StateTable.ofVariables declared).slots.length = declared.length :=
    List.length_map _
  rcases exists_seed (hlength ▸ hids) with ⟨table, hseed⟩
  refine ⟨table, ?_⟩
  rw [seeded, hseed]
  rfl

theorem seeded_eq_writtenAll {declared : List Variable} {values : List (VariableId × String)}
    {table : StateTable} (hseeded : seeded declared values = .ok table) :
    table = (StateTable.ofVariables declared).writtenAll values := by
  rw [seeded] at hseeded
  cases hseed : (StateTable.ofVariables declared).seed values with
  | error e =>
      rw [hseed] at hseeded
      cases hseeded
  | ok next =>
      rw [hseed] at hseeded
      cases hseeded
      exact StateTable.seed_eq_writtenAll hseed

theorem declared_seeded {declared : List Variable} {values : List (VariableId × String)}
    {table : StateTable} (hseeded : seeded declared values = .ok table) :
    table.declared = declared := by
  rw [seeded_eq_writtenAll hseeded, StateTable.declared_writtenAll]
  exact (List.map_map ..).trans (List.map_id declared)

section

variable [Pipeline P]

/-- The parts of a renderer that was assembled, with the values that they were made from. -/
theorem assemble_eq_ok {settings : RendererSettings} {player : Player P} {ambient : X}
    {renderer : Renderer P X} (hassemble : assemble settings player ambient = .ok renderer) :
    exists volume mute rendering connection,
      seeded RenderingVariable.declared (renderingValues volume mute) = .ok rendering ∧
      seeded ConnectionVariable.declared
          (connectionValues
            (MediaType.advertised player.mediaTypes
              (MediaType.Filter.parse (settings.mediaTypes.getD "")))) =
        .ok connection ∧
      renderer =
        { outputName := none
          player := player
          avTransport :=
            .evented "AVTransport" (.ofVariables TransportVariable.declared)
              LastChange.transportNamespace
          renderingControl :=
            .evented "RenderingControl" rendering LastChange.renderingNamespace
          connectionManager := .unevented "ConnectionManager" connection
          ambient := ambient } := by
  rw [assemble] at hassemble
  cases hvolume : player.volume.mapError Error.player with
  | error e =>
      rw [hvolume] at hassemble
      cases hassemble
  | ok volume =>
      cases hmute : player.mute.mapError Error.player with
      | error e =>
          rw [hvolume, hmute] at hassemble
          cases hassemble
      | ok mute =>
          cases hrendering : seeded RenderingVariable.declared (renderingValues volume mute) with
          | error e =>
              rw [hvolume, hmute] at hassemble
              simp only [bind, Except.bind, hrendering] at hassemble
              cases hassemble
          | ok rendering =>
              rw [hvolume, hmute] at hassemble
              simp only [bind, Except.bind, hrendering] at hassemble
              split at hassemble
              · cases hassemble
              · next connection hconnection =>
                  cases hassemble
                  exact ⟨volume, mute, rendering, connection, hrendering, hconnection, rfl⟩

/-- The parts of a renderer that was assembled. -/
theorem assemble_ok {settings : RendererSettings} {player : Player P} {ambient : X}
    {renderer : Renderer P X} (hassemble : assemble settings player ambient = .ok renderer) :
    exists rendering connection,
      rendering.declared = RenderingVariable.declared ∧
      renderer =
        { outputName := none
          player := player
          avTransport :=
            .evented "AVTransport" (.ofVariables TransportVariable.declared)
              LastChange.transportNamespace
          renderingControl :=
            .evented "RenderingControl" rendering LastChange.renderingNamespace
          connectionManager := .unevented "ConnectionManager" connection
          ambient := ambient } := by
  rcases assemble_eq_ok hassemble with
    ⟨_, _, rendering, connection, hrendering, _, hrenderer⟩
  exact ⟨rendering, connection, declared_seeded hrendering, hrenderer⟩

/-- Nothing but the questions about volume and mute can make the assembly fail. -/
theorem exists_assemble (player : Player P) {volume : Float32} {mute : Bool}
    (hvolume : player.volume = .ok volume) (hmute : player.mute = .ok mute)
    (settings : RendererSettings) (ambient : X) :
    exists renderer, assemble settings player ambient = .ok renderer := by
  have hrenderingIds : forall id, id ∈ (renderingValues volume mute).map Prod.fst -> id < 3 :=
    (by decide : forall id, id ∈ ([0, 1] : List Nat) -> id < 3)
  have hconnectionIds : forall types id, id ∈ (connectionValues types).map Prod.fst -> id < 3 := by
    intro types id hid
    rw [connectionValues] at hid
    split at hid
    · cases hid
    · rw [List.mem_singleton.mp hid]
      exact Nat.lt_succ_of_lt Nat.one_lt_two
  rcases exists_seeded RenderingVariable.declared _ hrenderingIds with ⟨rendering, hrendering⟩
  rcases exists_seeded ConnectionVariable.declared _ (hconnectionIds (MediaType.advertised
    player.mediaTypes (MediaType.Filter.parse (settings.mediaTypes.getD "")))) with
    ⟨connection, hconnection⟩
  rw [assemble, hvolume, hmute]
  show exists renderer, (seeded RenderingVariable.declared (renderingValues volume mute) >>= _) =
    .ok renderer
  rw [hrendering]
  show exists renderer, (seeded ConnectionVariable.declared _ >>= _) = .ok renderer
  rw [hconnection]
  exact ⟨_, rfl⟩

/-- A renderer that was just built around a new player. -/
def IsNew (renderer : Renderer P X) : Prop :=
  exists (settings : RendererSettings) (pipeline : P) (types : StringSet)
    (output : OutputSettings) (ambient : X),
    assemble settings (.around pipeline types output) ambient = .ok renderer

theorem exists_isNew (pipeline : P) (types : StringSet) (output : OutputSettings)
    {volume : Float32} {mute : Bool}
    (hvolume : (Player.around pipeline types output).volume = .ok volume)
    (hmute : (Player.around pipeline types output).mute = .ok mute) (ambient : X) :
    exists renderer : Renderer P X,
      IsNew renderer ∧ renderer.player = .around pipeline types output := by
  rcases exists_assemble _ hvolume hmute .default ambient with ⟨renderer, hassemble⟩
  refine ⟨renderer, ⟨_, _, _, _, _, hassemble⟩, ?_⟩
  rcases assemble_ok hassemble with ⟨_, _, _, rfl⟩
  rfl

theorem settled_assemble {settings : RendererSettings} {player : Player P} {ambient : X}
    {renderer : Renderer P X} (hassemble : assemble settings player ambient = .ok renderer) :
    Settled renderer := by
  rcases assemble_ok hassemble with ⟨rendering, connection, hdeclared, rfl⟩
  refine ⟨?_, ?_, ?_, hdeclared⟩
  · exact Service.settled_evented (by decide) (by decide)
  · exact (List.map_map ..).trans (List.map_id _)
  · apply Service.settled_evented
    · rw [StateTable.idOf?_eq, hdeclared]
      decide
    · rw [StateTable.evented?_eq, hdeclared]
      decide

theorem settled_of_isNew {renderer : Renderer P X} (hnew : IsNew renderer) :
    Settled renderer := by
  rcases hnew with ⟨settings, pipeline, types, output, ambient, hassemble⟩
  exact settled_assemble hassemble

end

/-!
# Updates of settled services
-/

section

variable {deliver : Receiver P X} {name : ServiceName} {renderer : Renderer P X}
  {body : Act Service Error Unit} {values : List (VariableId × String)}

/-- An update of the transport variables. -/
theorem transport_updated (hsettled : Settled renderer) (hfits : Fits values .avTransport)
    (hbody : Assigns body values) :
    exists after deliveries,
      after = ((Service.update body : Act Service Error _) renderer.avTransport).state ∧
      ((Service.update body : Act Service Error _) renderer.avTransport).result =
        .ok (.ok (), deliveries) ∧
      Updated LastChange.transportNamespace TransportVariable.lastChange.id values
        renderer.avTransport after deliveries ∧
      Settled { renderer with avTransport := after } := by
  have hlength : renderer.avTransport.table.slots.length = 12 := by
    rw [StateTable.length_slots_eq, hsettled.transportDeclared]
    rfl
  have hids : forall id, id ∈ values.map Prod.fst ->
      id < renderer.avTransport.table.slots.length ∧ id ≠ TransportVariable.lastChange.id := by
    intro id hid
    rw [hlength]
    exact ⟨Nat.lt_succ_of_lt (hfits.2 id hid), Nat.ne_of_lt (hfits.2 id hid)⟩
  rcases Service.update_settled (ε := Error) hsettled.transport hbody hfits.1 hids with
    ⟨deliveries, hresult, hupdated⟩
  refine ⟨_, deliveries, rfl, hresult, hupdated, ?_⟩
  exact ⟨hupdated.settled, hupdated.declared.trans hsettled.transportDeclared,
    hsettled.rendering, hsettled.renderingDeclared⟩

/-- An update of the rendering variables. -/
theorem rendering_updated (hsettled : Settled renderer) (hfits : Fits values .renderingControl)
    (hbody : Assigns body values) :
    exists after deliveries,
      after = ((Service.update body : Act Service Error _) renderer.renderingControl).state ∧
      ((Service.update body : Act Service Error _) renderer.renderingControl).result =
        .ok (.ok (), deliveries) ∧
      Updated LastChange.renderingNamespace RenderingVariable.lastChange.id values
        renderer.renderingControl after deliveries ∧
      Settled { renderer with renderingControl := after } := by
  have hlength : renderer.renderingControl.table.slots.length = 3 := by
    rw [StateTable.length_slots_eq, hsettled.renderingDeclared]
    rfl
  have hids : forall id, id ∈ values.map Prod.fst ->
      id < renderer.renderingControl.table.slots.length ∧
        id ≠ RenderingVariable.lastChange.id := by
    intro id hid
    rw [hlength]
    exact ⟨Nat.lt_succ_of_lt (hfits.2 id hid), Nat.ne_of_lt (hfits.2 id hid)⟩
  rcases Service.update_settled (ε := Error) hsettled.rendering hbody hfits.1 hids with
    ⟨deliveries, hresult, hupdated⟩
  refine ⟨_, deliveries, rfl, hresult, hupdated, ?_⟩
  exact ⟨hsettled.transport, hsettled.transportDeclared, hupdated.settled,
    hupdated.declared.trans hsettled.renderingDeclared⟩

/-- Every transport variable shows what an update wrote, or else what it showed before. -/
theorem update_shows (hapart : forall delivery, IsApart (deliver delivery))
    (hsettled : Settled renderer) (hfits : Fits values name) (hbody : Assigns body values) :
    Settled (update deliver name body renderer).state ∧
      (update deliver name body renderer).state.player = renderer.player ∧
      forall id, id < TransportVariable.lastChange.id ->
        (update deliver name body renderer).state.avTransport.get? id =
          (transportValue? values id name).or (renderer.avTransport.get? id) := by
  cases name with
  | avTransport =>
      rcases transport_updated hsettled hfits hbody with
        ⟨after, deliveries, rfl, hresult, hupdated, hafter⟩
      rw [update_state .avTransport hresult]
      rcases each_apart deliveries (fun delivery _ => hapart delivery)
        (renderer.withService .avTransport _) with ⟨ambient, hambient⟩
      rw [hambient]
      refine ⟨⟨hafter.transport, hafter.transportDeclared, hafter.rendering,
        hafter.renderingDeclared⟩, rfl, ?_⟩
      intro id hid
      have hlt : id < renderer.avTransport.table.slots.length := by
        rw [StateTable.length_slots_eq, hsettled.transportDeclared]
        exact Nat.lt_succ_of_lt hid
      have hvalue := hupdated.values id (Nat.ne_of_lt hid)
      rw [StateTable.get?_writtenAll hfits.1 hlt] at hvalue
      exact hvalue
  | renderingControl =>
      rcases rendering_updated hsettled hfits hbody with
        ⟨after, deliveries, rfl, hresult, hupdated, hafter⟩
      rw [update_state .renderingControl hresult]
      rcases each_apart deliveries (fun delivery _ => hapart delivery)
        (renderer.withService .renderingControl _) with ⟨ambient, hambient⟩
      rw [hambient]
      refine ⟨⟨hafter.transport, hafter.transportDeclared, hafter.rendering,
        hafter.renderingDeclared⟩, rfl, ?_⟩
      intro id hid
      rfl
  | connectionManager =>
      exact hfits.elim

/-- A step that writes sets the player, and every transport variable shows what was written. -/
theorem WritesSome.shows (hapart : forall delivery, IsApart (deliver delivery))
    (hsettled : Settled renderer) {step : Step} {after : Renderer P X}
    (hsome : WritesSome deliver step renderer after) :
    exists player name values,
      Writes renderer.player step player name values ∧
      Settled after ∧
      after.player = player ∧
      forall id, id < TransportVariable.lastChange.id ->
        after.avTransport.get? id =
          (transportValue? values id name).or (renderer.avTransport.get? id) := by
  rcases hsome with ⟨player, name, values, body, hwrites, hbody, rfl⟩
  have hplayed : Settled { renderer with player := player } := settled_with hsettled
  rcases update_shows hapart hplayed hwrites.fits hbody with ⟨hafter, hplayer, hshows⟩
  exact ⟨player, name, values, hwrites, hafter, hplayer, hshows⟩

theorem settled_perform [Pipeline P] (hapart : forall delivery, IsApart (deliver delivery))
    (request : Request) (hsettled : Settled renderer) :
    Settled (perform deliver request renderer).state := by
  rcases perform_cases request renderer with ⟨q, hnothing⟩ | hsome
  · rw [hnothing]
    exact settled_with hsettled
  · rcases hsome.shows hapart hsettled with ⟨_, _, _, _, hafter, _, _⟩
    exact hafter

end

end Renderer
end UpnpAv
