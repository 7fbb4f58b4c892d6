import UpnpAv.Proofs.Renderer.Settled
import UpnpAv.Proofs.Service.Closed
import UpnpAv.Renderer.Session

/-!
# Renderers that can be reached

Whoever has a renderer can give it requests and events, and can also reach past
it, to the player and to the services.  Receivers and listeners can do the same
from inside a step, so that a step is seen as the single changes that it is made
of.
-/

namespace UpnpAv
namespace Renderer

open Service (Assigns)

variable {P X : Type}

/-!
# Single changes
-/

/--
The renderers to which changes lead.  Nothing is said about the player, since
its own commands and events can reach it at any time.
-/
inductive Reached [Pipeline P] : Renderer P X -> Prop where
  | assembled {settings : RendererSettings} {player : Player P} {ambient : X}
      {renderer : Renderer P X} :
      assemble settings player ambient = .ok renderer -> Reached renderer
  | moved {renderer : Renderer P X} (name : Option String) (player : Player P) (ambient : X) :
      Reached renderer ->
      Reached { renderer with outputName := name, player := player, ambient := ambient }
  | written {renderer : Renderer P X} (name : ServiceName) {body : Act Service Error Unit}
      {values : List (VariableId × String)} :
      Assigns body values -> Reached renderer ->
      Reached (onService (ε := Error) name (Service.update body) renderer).state
  | given {renderer : Renderer P X} (name : ServiceName) (input : Service.Input) :
      Reached renderer ->
      Reached (onService (ε := Empty) name (Service.respond input) renderer).state

/-- Both evented services have their variables, one of which holds the last document. -/
structure Equipped (renderer : Renderer P X) : Prop where
  transport : renderer.avTransport.Evented TransportVariable.declared
    TransportVariable.lastChange.id
  rendering : renderer.renderingControl.Evented RenderingVariable.declared
    RenderingVariable.lastChange.id

theorem equipped_onService {ε α : Type} {m : Act Service ε α}
    (hm : forall declared last, last < List.length declared ->
      m.Keeps (Service.Evented declared last)) (name : ServiceName) :
    (onService (P := P) (X := X) name m).Keeps Equipped := by
  rintro renderer ⟨htransport, hrendering⟩
  cases name with
  | avTransport =>
      exact ⟨hm _ _ (by decide) _ htransport, hrendering⟩
  | renderingControl =>
      exact ⟨htransport, hm _ _ (by decide) _ hrendering⟩
  | connectionManager =>
      exact ⟨htransport, hrendering⟩

section

variable [Pipeline P]

theorem equipped_assemble {settings : RendererSettings} {player : Player P} {ambient : X}
    {renderer : Renderer P X} (hassemble : assemble settings player ambient = .ok renderer) :
    Equipped renderer := by
  rcases assemble_ok hassemble with ⟨rendering, connection, hdeclared, rfl⟩
  constructor
  · have hdeclared : (StateTable.ofVariables TransportVariable.declared).declared =
        TransportVariable.declared := (List.map_map ..).trans (List.map_id _)
    have hevented : (Service.evented "AVTransport" (.ofVariables TransportVariable.declared)
        LastChange.transportNamespace).Evented
          (StateTable.ofVariables TransportVariable.declared).declared
          TransportVariable.lastChange.id :=
      Service.evented_of_idOf? (by decide)
    rw [hdeclared] at hevented
    exact hevented
  · rw [← hdeclared]
    apply Service.evented_of_idOf?
    rw [StateTable.idOf?_eq, hdeclared]
    decide

/-- A renderer that can be reached has its evented services, open or not. -/
theorem Reached.equipped {renderer : Renderer P X} (hreached : Reached renderer) :
    Equipped renderer := by
  induction hreached with
  | assembled hassemble =>
      exact equipped_assemble hassemble
  | moved name player ambient _ ih =>
      exact ⟨ih.transport, ih.rendering⟩
  | written name hbody _ ih =>
      apply equipped_onService _ name _ ih
      intro declared last hlast
      apply Service.update_keeps hlast
      intro service hevented
      rw [hbody.state]
      exact (Service.putAll_keeps _ service ⟨hevented, rfl⟩).evented
  | given name input _ ih =>
      apply equipped_onService _ name _ ih
      intro declared last hlast
      exact Service.respond_keeps hlast input

/-!
# Steps
-/

variable {deliver : Receiver P X}

theorem reached_update (hdeliver : forall delivery, (deliver delivery).Keeps Reached)
    (name : ServiceName) {body : Act Service Error Unit} {values : List (VariableId × String)}
    (hbody : Assigns body values) : (update deliver name body).Keeps Reached := by
  refine Act.Keeps.bind (fun renderer => Reached.written name hbody) fun answer => ?_
  refine Act.Keeps.bind ?_ fun done renderer hreached => hreached
  intro renderer hreached
  exact Act.each_keeps (fun delivery _ => hdeliver delivery) renderer hreached

theorem reached_perform (hdeliver : forall delivery, (deliver delivery).Keeps Reached)
    (request : Request) : (perform deliver request).Keeps Reached := by
  intro renderer hreached
  rcases perform_cases request renderer with ⟨q, hnothing⟩ | hsome
  · rw [hnothing]
    exact hreached.moved renderer.outputName _ renderer.ambient
  · rcases hsome with ⟨player, name, values, body, _, hbody, hstate⟩
    rw [hstate]
    apply reached_update hdeliver name hbody
    exact hreached.moved renderer.outputName player renderer.ambient

/-- Receivers and listeners that lead nowhere else. -/
structure Hooks.Reaching (hooks : Hooks P X) : Prop where
  deliver : forall delivery, (hooks.deliver delivery).Keeps Reached
  earlier : forall ambient listener, listener ∈ hooks.earlier ambient ->
    forall notice, (listener notice).Keeps Reached
  later : forall ambient listener, listener ∈ hooks.later ambient ->
    forall notice, (listener notice).Keeps Reached

theorem reached_handle {hooks : Hooks P X} (hhooks : hooks.Reaching) (event : Pipeline.Event) :
    (handle hooks event).Keeps Reached := by
  intro renderer hreached
  have hplayed := hreached.moved renderer.outputName
    (Player.handle (ε := Empty) event renderer.player).state renderer.ambient
  rcases Player.handle_cases (ε := Empty) event renderer.player with
    ⟨hresult, _⟩ | ⟨notice, hresult, _⟩
  · rw [handle_unannounced hresult]
    exact hplayed
  · rw [handle_announced hresult]
    have htold := Act.each_keeps
      (fun listener hlistener => hhooks.earlier renderer.ambient listener hlistener notice)
      _ hplayed
    apply Act.each_keeps
      (fun listener hlistener => hhooks.later renderer.ambient listener hlistener notice)
    rcases publish_state (ε := Empty) hooks.deliver notice
      (told (hooks.earlier renderer.ambient) notice
        { renderer with player := (Player.handle (ε := Empty) event renderer.player).state }) with
      ⟨body, hbody, hstate⟩
    rw [hstate]
    exact reached_update hhooks.deliver .avTransport hbody _ htold

end

/-!
# Sessions
-/

namespace Session

variable {react : List Input -> Act Session Empty Unit}

theorem reached_onAudience (change : Audience -> Audience) :
    (onAudience change).Keeps Reached := by
  intro session hreached
  exact hreached.moved session.outputName session.player (change session.ambient)

theorem reached_receive (hreact : forall inputs, (react inputs).Keeps Reached)
    (delivery : Delivery) : (receive react delivery).Keeps Reached := by
  unfold receive
  refine (reached_onAudience _).bind fun _ => ?_
  refine Act.Keeps.read fun session => ?_
  exact (reached_onAudience _).bind fun _ => hreact _

theorem hooks_reaching (hreact : forall inputs, (react inputs).Keeps Reached) :
    (hooks react).Reaching := by
  refine ⟨reached_receive hreact, ?_, ?_⟩
  · intro audience listener hlistener notice
    change listener ∈ (if audience.hasEarly then [hearEarly react] else []) at hlistener
    cases hearly : audience.hasEarly with
    | false =>
        rw [hearly] at hlistener
        cases hlistener
    | true =>
        rw [hearly] at hlistener
        rw [List.mem_singleton.mp hlistener]
        cases notice with
        | metadata tags =>
            intro session hreached
            exact hreached
        | transition transition =>
            refine (reached_onAudience _).bind fun _ => ?_
            refine Act.Keeps.read fun session => ?_
            exact (reached_onAudience _).bind fun _ => hreact _
  · intro audience listener hlistener notice
    rcases List.mem_map.mp hlistener with ⟨tag, _, rfl⟩
    exact reached_onAudience _

theorem reached_respondPlayer (hreact : forall inputs, (react inputs).Keeps Reached)
    (input : Player.Input) : (respondPlayer react input).Keeps Reached := by
  have hhandle : forall event (answer : Player.Answer),
      (handle (hooks react) event >>= fun _ => pure answer :
        Act Session Empty _).Keeps Reached :=
    fun event answer => (reached_handle (hooks_reaching hreact) event).bind fun _ _ => id
  intro session hreached
  cases input with
  | request request =>
      exact hreached.moved session.outputName _ session.ambient
  | view view =>
      exact hreached
  | edit change =>
      exact hreached.moved session.outputName _ session.ambient
  | listen tag =>
      exact (reached_onAudience _).bind (fun _ _ => id) session hreached
  | event event =>
      exact hhandle event .nothing session hreached
  | report event =>
      rw [respondPlayer, Act.bind_state]
      simp only [Act.read_apply]
      cases session.player.pipeline.pipeline.reports with
      | false =>
          exact hreached
      | true =>
          exact hhandle event (.reported true) session hreached

theorem reached_respond (hreact : forall inputs, (react inputs).Keeps Reached)
    (input : Input) : (respond react input).Keeps Reached := by
  intro session hreached
  cases input with
  | request request =>
      rw [respond, Act.map_state]
      exact reached_perform (reached_receive hreact) request session hreached
  | view view =>
      exact hreached
  | player input =>
      rw [respond, Act.map_state]
      exact reached_respondPlayer hreact input session hreached
  | service name input =>
      refine Act.Keeps.bind (I := Reached) ?_ (fun answer => ?_) session hreached
      · intro session hreached
        exact hreached.given name input
      · refine Act.Keeps.bind ?_ fun _ _ => id
        intro session hreached
        exact Act.each_keeps (fun delivery _ => reached_receive hreact delivery) session hreached

/-- However deep reactions are nested, each of their steps starts at a reached renderer. -/
theorem reached_inputTo (depth : Nat) :
    forall given : Input, (inputTo depth given).Keeps Reached := by
  -- A reaction only ever calls the session of the next lower depth.
  induction depth with
  | zero =>
      intro given
      exact reached_respond (fun _ _ => id) given
  | succ depth ih =>
      intro given
      apply reached_respond
      intro inputs session hreached
      apply Act.each_keeps _ session hreached
      intro input _
      exact (ih input).bind fun answer => reached_onAudience _

/-- Whatever a session is given, it stays among the reached renderers. -/
theorem reached_input (given : Input) : (input given).Keeps Reached := by
  intro session hreached
  exact reached_inputTo _ given session hreached

end Session
end Renderer
end UpnpAv
