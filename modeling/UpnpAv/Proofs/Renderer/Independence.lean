import UpnpAv.Proofs.Renderer.Sound
import UpnpAv.Renderer.Session

/-!
# Transport and rendering are independent

What is asked about volume and mute can be left out of a run, and the rest goes
on as before.  The same holds the other way round.
-/

namespace UpnpAv
namespace Renderer

open Pipeline (Output)
open Pipeline.Output (SameMotion SameSound)

variable {X : Type}

/-!
# Turns
-/

/-- One thing that happens to a renderer or to its pipeline. -/
inductive Turn where
  | step (step : Step)
  | view (view : View)
  | edit (change : Pipeline.Scripted.Edit)
  | wait (nanoseconds : Nat)

/-- Whether a turn is about volume and mute. -/
def Turn.sounds : Turn -> Bool
  | .step given => given.sounds
  | _ => false

/-- Whether a turn is given to the renderer and is not about volume and mute. -/
def Turn.moves : Turn -> Bool
  | .step given => !given.sounds
  | .view _ => true
  | _ => false

/-- A renderer whose pipeline was changed from outside. -/
def onOutput (change : Output -> Output) (renderer : Renderer Output X) : Renderer Output X :=
  { renderer with
    player := { renderer.player with pipeline := change renderer.player.pipeline } }

/-- The renderer after one turn. -/
def afterTurn (hooks : Hooks Output X) (renderer : Renderer Output X) :
    Turn -> Renderer Output X
  | .step step => after hooks renderer step
  | .view _ => renderer
  | .edit change => onOutput (Output.edit change) renderer
  | .wait nanoseconds => onOutput (Output.wait nanoseconds) renderer

/-- The renderer after a list of turns. -/
def runTurns (hooks : Hooks Output X) (renderer : Renderer Output X) (turns : List Turn) :
    Renderer Output X :=
  turns.foldl (afterTurn hooks) renderer

/-- The answer to a turn, if there is one. -/
def answer? (hooks : Hooks Output X) (renderer : Renderer Output X) : Turn -> Option Answer
  | .step (.request request) => some (.result (perform hooks.deliver request renderer).result)
  | .view view => some (.sight (renderer.sight view))
  | _ => none

/-- The turns of a run with their answers. -/
def answered (hooks : Hooks Output X) :
    Renderer Output X -> List Turn -> List (Turn × Option Answer)
  | _, [] => []
  | renderer, turn :: rest =>
      (turn, answer? hooks renderer turn) :: answered hooks (afterTurn hooks renderer turn) rest

/-- A list of turns without those of a kind. -/
def without (gone : Turn -> Bool) (turns : List Turn) : List Turn :=
  turns.filter fun turn => !gone turn

/-!
# What no turn changes
-/

/-- Settled services, and the parts of the first renderer that nothing changes. -/
structure Stands {P : Type} (first renderer : Renderer P X) : Prop where
  settled : Settled renderer
  outputName : renderer.outputName = first.outputName
  connectionManager : renderer.connectionManager = first.connectionManager

section

variable {P : Type} {record : X -> List Delivery} {first before next : Renderer P X}

theorem Stands.withPlayer (hstands : Stands first before) (player : Player P) :
    Stands first { before with player := player } :=
  ⟨settled_with hstands.settled, hstands.outputName, hstands.connectionManager⟩

theorem Delivers.stands (hdelivers : Delivers record before next)
    (hstands : Stands first before) : Stands first next := by
  refine ⟨hdelivers.settled hstands.settled, ?_, ?_⟩
  · cases hdelivers <;> exact hstands.outputName
  · cases hdelivers <;> exact hstands.connectionManager

end

section

variable {record : X -> List Delivery} {hooks : Hooks Output X}
  {first renderer other : Renderer Output X}

theorem stands_afterTurn (hhooks : hooks.Recording record) (turn : Turn)
    (hstands : Stands first renderer) : Stands first (afterTurn hooks renderer turn) := by
  cases turn with
  | step step =>
      exact (delivers_after hhooks hstands.settled step).stands hstands
  | view view =>
      exact hstands
  | edit change =>
      exact hstands.withPlayer _
  | wait nanoseconds =>
      exact hstands.withPlayer _

theorem stands_runTurns (hhooks : hooks.Recording record) (turns : List Turn) :
    forall {renderer : Renderer Output X}, Stands first renderer ->
      Stands first (runTurns hooks renderer turns) := by
  induction turns with
  | nil =>
      intro renderer hstands
      exact hstands
  | cons turn rest ih =>
      intro renderer hstands
      exact ih (stands_afterTurn hhooks turn hstands)

/-!
# Leaving out turns
-/

variable {name : ServiceName} {players : Player Output -> Player Output -> Prop}

/--
Turns that change nothing as far as one service, its documents and the players
show may be left out, when all other turns are answered alike.
-/
theorem run_without (hhooks : hooks.Recording record) {gone : Turn -> Bool}
    (hgone : forall {turn renderer other}, gone turn = true -> Settled renderer ->
      Alike name players record renderer other ->
        Alike name players record (afterTurn hooks renderer turn) other)
    (hkept : forall {turn renderer other}, gone turn = false ->
      Stands first renderer -> Stands first other ->
        Alike name players record renderer other ->
          answer? hooks renderer turn = answer? hooks other turn ∧
            Alike name players record (afterTurn hooks renderer turn)
              (afterTurn hooks other turn))
    (turns : List Turn) :
    forall {renderer other}, Stands first renderer -> Stands first other ->
      Alike name players record renderer other ->
        Alike name players record (runTurns hooks renderer turns)
            (runTurns hooks other (without gone turns)) ∧
          (answered hooks renderer turns).filter (fun entry => !gone entry.1) =
            answered hooks other (without gone turns) := by
  induction turns with
  | nil =>
      intro renderer other hstands hother halike
      exact ⟨halike, rfl⟩
  | cons turn rest ih =>
      intro renderer other hstands hother halike
      have hafter := stands_afterTurn hhooks turn hstands
      cases hturn : gone turn with
      | true =>
          rcases ih hafter hother (hgone hturn hstands.settled halike) with ⟨hrun, hanswered⟩
          have hwithout : without gone (turn :: rest) = without gone rest :=
            List.filter_cons_of_neg (by rw [hturn]; decide)
          rw [hwithout, answered, List.filter_cons_of_neg (by rw [hturn]; decide)]
          exact ⟨hrun, hanswered⟩
      | false =>
          rcases hkept hturn hstands hother halike with ⟨hanswer, hnext⟩
          rcases ih hafter (stands_afterTurn hhooks turn hother) hnext with ⟨hrun, hanswered⟩
          have hwithout : without gone (turn :: rest) = turn :: without gone rest :=
            List.filter_cons_of_pos (by rw [hturn]; decide)
          rw [hwithout, answered, answered, List.filter_cons_of_pos (by rw [hturn]; decide),
            hanswer, hanswered]
          exact ⟨hrun, rfl⟩

theorem alike_onOutput {change : Output -> Output}
    (halike : Alike name players record renderer other)
    (hplayers : players (onOutput change renderer).player (onOutput change other).player) :
    Alike name players record (onOutput change renderer) (onOutput change other) := by
  refine ⟨hplayers, ?_, halike.documents⟩
  cases name <;> exact halike.service

/-!
# Without volume and mute
-/

theorem sight_alike (halike : Alike .avTransport (Player.Alike SameMotion) record renderer other)
    (hstands : Stands first renderer) (hother : Stands first other) (view : View) :
    renderer.sight view = other.sight view := by
  have hname : renderer.outputName = other.outputName :=
    hstands.outputName.trans hother.outputName.symm
  have hconnection : renderer.connectionManager = other.connectionManager :=
    hstands.connectionManager.trans hother.connectionManager.symm
  have htransport : renderer.avTransport = other.avTransport := halike.service
  cases view with
  | transportInfo =>
      rw [sight, sight, transportInfo, transportInfo, htransport]
  | protocolInfo =>
      rw [sight, sight, protocolInfo, protocolInfo, hconnection]
  | connectionIds =>
      rw [sight, sight, connectionIds, connectionIds, hconnection]
  | metadata =>
      rw [sight, sight, halike.player.metadata]
  | outputName =>
      rw [sight, sight, hname]
  | description =>
      have htext : renderer.describe = other.describe := by
        unfold describe
        rw [hname, halike.player.describe]
      exact congrArg (fun text => Sight.text (some text)) htext

theorem alike_sounding (hhooks : hooks.Recording record) {turn : Turn}
    (hturn : turn.sounds = true) (hsettled : Settled renderer)
    (halike : Alike .avTransport (Player.Alike SameMotion) record renderer other) :
    Alike .avTransport (Player.Alike SameMotion) record (afterTurn hooks renderer turn) other := by
  cases turn with
  | step step =>
      exact alike_sounded hturn Output.sameMotion_sounded hhooks hsettled halike
  | _ =>
      cases hturn

theorem alike_unsounded (hhooks : hooks.Recording record) {turn : Turn}
    (hturn : turn.sounds = false) (hstands : Stands first renderer)
    (hother : Stands first other)
    (halike : Alike .avTransport (Player.Alike SameMotion) record renderer other) :
    answer? hooks renderer turn = answer? hooks other turn ∧
      Alike .avTransport (Player.Alike SameMotion) record (afterTurn hooks renderer turn)
        (afterTurn hooks other turn) := by
  cases turn with
  | step step =>
      cases step with
      | request request =>
          rcases perform_agree Output.sameMotion_moves hhooks.deliver hturn _ _ halike with
            ⟨hresult, hafter⟩
          exact ⟨congrArg (fun result => some (Answer.result result)) hresult, hafter⟩
      | event event =>
          exact ⟨rfl, handle_alike Output.sameMotion_moves hhooks event halike⟩
  | view view =>
      exact ⟨congrArg (fun sight => some (Answer.sight sight))
        (sight_alike halike hstands hother view), halike⟩
  | edit change =>
      exact ⟨rfl, alike_onOutput halike
        (halike.player.changed (Output.sameMotion_edit change))⟩
  | wait nanoseconds =>
      exact ⟨rfl, alike_onOutput halike
        (halike.player.changed (Output.sameMotion_wait nanoseconds))⟩

/-!
# Without motion
-/

theorem alike_moving (hhooks : hooks.Recording record) {turn : Turn}
    (hturn : turn.moves = true) (hsettled : Settled renderer)
    (halike : Alike .renderingControl
      (fun player other => SameSound player.pipeline other.pipeline) record renderer other) :
    Alike .renderingControl (fun player other => SameSound player.pipeline other.pipeline) record
      (afterTurn hooks renderer turn) other := by
  cases turn with
  | step step =>
      have hstep : step.sounds = false := Bool.not_eq_true' _ ▸ hturn
      exact alike_moved hstep Output.sameSound_moved Output.sameSound_asked hhooks hsettled halike
  | view view =>
      exact halike
  | _ =>
      cases hturn

theorem alike_unmoved (hhooks : hooks.Recording record) {turn : Turn}
    (hturn : turn.moves = false)
    (halike : Alike .renderingControl
      (fun player other => SameSound player.pipeline other.pipeline) record renderer other) :
    answer? hooks renderer turn = answer? hooks other turn ∧
      Alike .renderingControl (fun player other => SameSound player.pipeline other.pipeline)
        record (afterTurn hooks renderer turn) (afterTurn hooks other turn) := by
  cases turn with
  | step step =>
      cases step with
      | request request =>
          have hrequest : request.sounds = true := Bool.not_eq_false' _ ▸ hturn
          rcases perform_sounds Output.sameSound_sounds hhooks.deliver hrequest _ _ halike with
            ⟨hresult, hafter⟩
          exact ⟨congrArg (fun result => some (Answer.result result)) hresult, hafter⟩
      | event event =>
          cases hturn
  | view view =>
      cases hturn
  | edit change =>
      exact ⟨rfl, alike_onOutput halike (Output.sameSound_edit change halike.player)⟩
  | wait nanoseconds =>
      exact ⟨rfl, alike_onOutput halike (Output.sameSound_wait nanoseconds halike.player)⟩

end

/-!
# Runs
-/

/--
Leaving out of a run whatever is about volume and mute changes neither the
other answers nor anything of the transport.  Leaving out everything else that
is given to the renderer changes neither the answers about volume and mute nor
anything of the rendering.  The connection manager stays as it was built.
-/
theorem transport_rendering_independent {record : X -> List Delivery}
    {hooks : Hooks Output X} {settings : RendererSettings} {player : Player Output} {ambient : X}
    {assembled : Renderer Output X} (hhooks : hooks.Recording record)
    (hassemble : assemble settings player ambient = .ok assembled) (name : Option String)
    (turns : List Turn) :
    let renderer := { assembled with outputName := name }
    let whole := runTurns hooks renderer turns
    let silent := runTurns hooks renderer (without Turn.sounds turns)
    let still := runTurns hooks renderer (without Turn.moves turns)
    ((answered hooks renderer turns).filter (fun entry => !entry.1.sounds) =
        answered hooks renderer (without Turn.sounds turns) ∧
      whole.player.state = silent.player.state ∧
      whole.player.target = silent.player.target ∧
      whole.player.metadata = silent.player.metadata ∧
      whole.player.timing = silent.player.timing ∧
      whole.avTransport = silent.avTransport ∧
      within LastChange.transportNamespace (record whole.ambient) =
        within LastChange.transportNamespace (record silent.ambient)) ∧
    ((answered hooks renderer turns).filter (fun entry => !entry.1.moves) =
        answered hooks renderer (without Turn.moves turns) ∧
      whole.renderingControl = still.renderingControl ∧
      within LastChange.renderingNamespace (record whole.ambient) =
        within LastChange.renderingNamespace (record still.ambient)) ∧
    whole.connectionManager = renderer.connectionManager := by
  intro renderer whole silent still
  have hsettled : Settled assembled := settled_assemble hassemble
  have hstands : Stands renderer renderer :=
    ⟨⟨hsettled.transport, hsettled.transportDeclared, hsettled.rendering,
      hsettled.renderingDeclared⟩, rfl, rfl⟩
  have hmotion : Alike .avTransport (Player.Alike SameMotion) record renderer renderer :=
    ⟨Player.Alike.on _ (Output.sameMotion_refl _), rfl, rfl⟩
  have hsound : Alike .renderingControl
      (fun player other => SameSound player.pipeline other.pipeline) record renderer renderer :=
    ⟨Output.sameSound_refl _, rfl, rfl⟩
  refine ⟨?_, ?_, (stands_runTurns hhooks turns hstands).connectionManager⟩
  · rcases run_without hhooks (alike_sounding hhooks) (alike_unsounded hhooks) turns hstands
      hstands hmotion with ⟨halike, hanswered⟩
    exact ⟨hanswered, halike.player.state.symm, halike.player.target.symm,
      halike.player.metadata.symm, halike.player.timing.symm, halike.service, halike.documents⟩
  · rcases run_without hhooks (alike_moving hhooks)
      (fun hturn _ _ halike => alike_unmoved hhooks hturn halike) turns hstands hstands hsound
      with ⟨halike, hanswered⟩
    exact ⟨hanswered, halike.service, halike.documents⟩

/-- Playing while the sound is turned down and off, with a script that lets both fail. -/
theorem transport_rendering_independent_interleaved :
    exists renderer : Renderer Output (List Delivery),
      assemble .default (.around (.scripted .willing) .empty .default) [] = .ok renderer ∧
      let uri : Turn := .step (.request (.setUri "http://a/"))
      let quieter : Turn := .step (.request (.setVolume 30))
      let broken : Turn := .edit (.fail .setMute true)
      let play : Turn := .step (.request .play)
      let mute : Turn := .step (.request (.setMute true))
      let ended : Turn := .step (.event .endOfStream)
      let volume : Turn := .step (.request .readVolume)
      let turns := [uri, quieter, broken, play, mute, ended, volume]
      let silent := [uri, broken, play, ended]
      let still := [quieter, broken, mute, volume]
      (answered keeping renderer turns).filter (fun entry => !entry.1.sounds) =
        answered keeping renderer silent ∧
      (runTurns keeping renderer turns).player.state =
        (runTurns keeping renderer silent).player.state ∧
      (runTurns keeping renderer turns).avTransport =
        (runTurns keeping renderer silent).avTransport ∧
      (answered keeping renderer turns).filter (fun entry => !entry.1.moves) =
        answered keeping renderer still ∧
      (runTurns keeping renderer turns).renderingControl =
        (runTurns keeping renderer still).renderingControl ∧
      (runTurns keeping renderer turns).connectionManager = renderer.connectionManager := by
  rcases exists_assemble (.around (.scripted .willing : Output) .empty .default) rfl rfl .default
    ([] : List Delivery) with ⟨renderer, hassemble⟩
  -- The turns stay abstract here, so that nothing is evaluated.
  have hindependent : forall turns silent still,
      without Turn.sounds turns = silent -> without Turn.moves turns = still ->
      (answered keeping renderer turns).filter (fun entry => !entry.1.sounds) =
        answered keeping renderer silent ∧
      (runTurns keeping renderer turns).player.state =
        (runTurns keeping renderer silent).player.state ∧
      (runTurns keeping renderer turns).avTransport =
        (runTurns keeping renderer silent).avTransport ∧
      (answered keeping renderer turns).filter (fun entry => !entry.1.moves) =
        answered keeping renderer still ∧
      (runTurns keeping renderer turns).renderingControl =
        (runTurns keeping renderer still).renderingControl ∧
      (runTurns keeping renderer turns).connectionManager = renderer.connectionManager := by
    rintro turns _ _ rfl rfl
    rcases transport_rendering_independent keeping_recording hassemble renderer.outputName turns
      with ⟨⟨hanswers, hstate, _, _, _, htransport, _⟩, ⟨hsounds, hrendering, _⟩, hconnection⟩
    exact ⟨hanswers, hstate, htransport, hsounds, hrendering, hconnection⟩
  exact ⟨renderer, hassemble, hindependent _ _ _ rfl rfl⟩

end Renderer
end UpnpAv
