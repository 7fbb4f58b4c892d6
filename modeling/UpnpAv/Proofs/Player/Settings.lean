import UpnpAv.Player.Start
import UpnpAv.Proofs.Player.Announcements
import UpnpAv.Proofs.Player.Guards

/-!
# What the settings decide about a player

Whether a player watches the buffer is settled when it is made.  Nothing that
happens later changes this, so that a player that does not watch the buffer is
never paused for it.
-/

namespace UpnpAv
namespace Player

variable {P L X : Type} {settings : OutputSettings}

/-!
# Watched and unwatched buffers
-/

/-- A player that watches the buffer if its settings say so, and otherwise never waits for it. -/
structure Abides (settings : OutputSettings) (player : Player P) : Prop where
  same : player.buffering = settings.isBuffering
  unpaused : settings.isBuffering = false -> player.state ≠ .paused .buffering

theorem around_abides (pipeline : P) (types : StringSet) :
    Abides settings (.around pipeline types settings) :=
  ⟨rfl, fun _ => by simp [around]⟩

theorem Abides.bufferless {player : Player P} (habides : Abides settings player)
    (hoff : settings.isBuffering = false) : player.Bufferless :=
  ⟨habides.same.trans hoff, habides.unpaused hoff⟩

variable [Pipeline P]

theorem perform_buffering (request : Request) (player : Player P) :
    (perform request player).state.buffering = player.buffering := by
  have hperformed := perform_performed request player
  generalize (perform request player).state = next at hperformed
  cases hperformed <;> rfl

theorem handle_buffering (event : Pipeline.Event) (player : Player P) :
    ((handle event : Act (Player P) Empty (Option Notice)) player).state.buffering =
      player.buffering := by
  have hcases := handle_cases (ε := Empty) event player
  generalize ((handle event : Act (Player P) Empty (Option Notice)) player).state = next at hcases
  rcases hcases with ⟨_, hnext⟩ | ⟨notice, _, hnext⟩
  · cases hnext <;> rfl
  · cases hnext <;> rfl

theorem perform_abides (request : Request) : (perform (P := P) request).Keeps (Abides settings) := by
  intro player habides
  constructor
  · rw [perform_buffering]
    exact habides.same
  · intro hoff
    exact (bufferless_perform request (habides.bufferless hoff)).state

theorem handle_abides (event : Pipeline.Event) :
    (handle event : Act (Player P) Empty (Option Notice)).Keeps (Abides settings) := by
  intro player habides
  constructor
  · rw [handle_buffering]
    exact habides.same
  · intro hoff
    exact (bufferless_handle event (habides.bufferless hoff)).state

/-- What every request keeps is kept when a player is prepared. -/
theorem launch_keeps {I : Player P -> Prop}
    (hrequest : forall request, (perform (P := P) request).Keeps I) (name : String)
    (chosen : OutputSettings) : (launch (P := P) name chosen).Keeps I := by
  have hmute : (setMute (P := P) false).Keeps I := by
    intro player hkept
    rw [← Act.then_pure_state (setMute false) Reply.done]
    exact hrequest (.setMute false) player hkept
  have hvolume : forall volume, (setVolume (P := P) volume).Keeps I := by
    intro volume player hkept
    rw [← Act.then_pure_state (setVolume volume) Reply.done]
    exact hrequest (.setVolume volume) player hkept
  have hlog : forall line, (Act.log line : Act (Player P) Error Unit).Keeps I :=
    fun _ _ hkept => hkept
  apply Act.Keeps.bind
  · unfold prepare
    cases chosen.initialVolume? with
    | none =>
        exact hmute
    | some volume =>
        exact (hlog _).bind fun _ => (hvolume volume).bind fun _ => hmute
  · intro _
    exact hlog _

theorem launch_abides (name : String) (chosen : OutputSettings) :
    (launch (P := P) name chosen).Keeps (Abides settings) :=
  launch_keeps perform_abides name chosen

/-!
# Starting
-/

/-- The players that are made with some settings. -/
inductive Made (settings : OutputSettings) : Player P -> Prop where
  | around (pipeline : P) (types : StringSet) : Made settings (.around pipeline types settings)
  | started {catalog : Catalog P} {name : Option String} {output : String} {player : Player P} :
      (start catalog name settings).result = .ok (output, player) -> Made settings player

theorem start_ok {catalog : Catalog P} {name : Option String} {output : String} {player : Player P}
    (hstarted : (start catalog name settings).result = .ok (output, player)) :
    exists selection : Selection P,
      (catalog.select name settings).result = .ok selection ∧
        player = (launch selection.name settings (ofSelection selection settings)).state := by
  unfold start at hstarted
  generalize catalog.select name settings = choice at hstarted ⊢
  rcases choice with ⟨result, created, lines⟩
  cases result with
  | error e =>
      cases hstarted
  | ok selection =>
      refine ⟨selection, rfl, ?_⟩
      change (launch selection.name settings (ofSelection selection settings)).result.map _ =
        .ok (output, player) at hstarted
      cases hlaunched : (launch selection.name settings
        (ofSelection selection settings)).result with
      | error e =>
          rw [hlaunched] at hstarted
          cases hstarted
      | ok done =>
          rw [hlaunched] at hstarted
          cases hstarted
          rfl

theorem Made.abides {player : Player P} (hmade : Made settings player) :
    Abides settings player := by
  cases hmade with
  | around pipeline types =>
      exact around_abides pipeline types
  | started hstarted =>
      rcases start_ok hstarted with ⟨selection, _, rfl⟩
      exact launch_abides selection.name settings _
        (around_abides selection.pipeline selection.mediaTypes)

/-!
# Runs
-/

/-- The players to which requests and events lead, while the pipeline may go on by itself. -/
inductive Led (player : Player P) : Player P -> Prop where
  | here : Led player player
  | step {next : Player P} (step : Step) : Led player next -> Led player (next.after step)
  | pipeline {next : Player P} (pipeline : P) :
      Led player next -> Led player { next with pipeline := pipeline }

theorem Led.abides {player next : Player P} (habides : Abides settings player)
    (hled : Led player next) : Abides settings next := by
  induction hled with
  | here =>
      exact habides
  | step step _ ih =>
      cases step with
      | request request =>
          exact perform_abides request _ ih
      | event event =>
          exact handle_abides event _ ih
  | pipeline pipeline _ ih =>
      exact ⟨ih.same, ih.unpaused⟩

theorem Commanded.led {player next : Player P} (hcommanded : Commanded player next) :
    Led player next := by
  induction hcommanded with
  | here =>
      exact Led.here
  | request request _ ih =>
      exact ih.step (.request request)
  | pipeline pipeline _ ih =>
      exact ih.pipeline pipeline

namespace Attended

variable {react : Reaction P L X}

/-- Listeners that reach the player by requests and events only. -/
def Reaction.Leading (react : Reaction P L X) : Prop :=
  forall listener notice attended,
    Led attended.player (react listener notice attended).state.player

theorem Reaction.Commanding.leading (hreact : react.Commanding) : react.Leading :=
  fun listener notice attended => (hreact listener notice attended).player.led

theorem abides_after (hreact : react.Leading) (step : Step P L) {attended : Attended P L X}
    (habides : Abides settings attended.player) :
    Abides settings (attended.after react step).player := by
  cases step with
  | request request =>
      exact perform_abides request _ habides
  | event event =>
      have hhandled : Abides settings (attended.handled event).player :=
        handle_abides event _ habides
      rcases Act.exists_ok (handle event) attended.player with ⟨announced, hannounced⟩
      rw [after, handleEvent_state react hannounced]
      cases announced with
      | none =>
          exact hhandled
      | some notice =>
          -- Each listener leads on the player that those before it left.
          apply Act.each_keeps (P := fun reached : Attended P L X =>
            Abides settings reached.player) _ _ hhandled
          intro listener _ reached hreached
          have hcalled : Led reached.player (call react notice listener reached).state.player :=
            hreact listener.1 notice
              { reached with told := reached.told ++ [⟨listener.2, notice, reached.player⟩] }
          exact hcalled.abides hreached
  | listenToTransitions listener =>
      exact habides
  | listenToMetadata listener =>
      exact habides
  | pipeline pipeline =>
      exact ⟨habides.same, habides.unpaused⟩

theorem abides_run (hreact : react.Leading) (steps : List (Step P L)) :
    forall {attended : Attended P L X}, Abides settings attended.player ->
      Abides settings (attended.run react steps).player := by
  induction steps with
  | nil =>
      intro attended habides
      exact habides
  | cons step rest ih =>
      intro attended habides
      exact ih (abides_after hreact step habides)

end Attended
end Player
end UpnpAv
