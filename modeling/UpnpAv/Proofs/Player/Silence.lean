import UpnpAv.Proofs.Pipeline.Silent
import UpnpAv.Proofs.Player.Exchanges
import UpnpAv.Proofs.Player.Settings

/-!
# Players on a silent pipeline

A player checks positions and volumes itself, and has a pipeline play only what
it has loaded before.  So a silent pipeline never refuses a command of its
player, and the two stay in tune: what plays or pauses for the player does so for
the pipeline, with a locator loaded.
-/

namespace UpnpAv
namespace Player

open Pipeline (Command Exchange Output Phase Quiet Silent Traced)

/-!
# Failures
-/

/-- A result that is not the failure of a pipeline. -/
def Untroubled {α : Type} (result : Except Error α) : Prop :=
  forall failure, result ≠ .error (.pipeline failure)

theorem untroubled_of_isOk {α : Type} {result : Except Error α} (hok : result.isOk = true) :
    Untroubled result := by
  rintro failure rfl
  cases hok

theorem checkUri_untroubled (uri : String) : Untroubled (checkUri uri) := by
  intro failure hresult
  unfold checkUri at hresult
  split at hresult
  · cases hresult
  · cases hcheck : Url.check uri with
    | ok done =>
        rw [hcheck] at hresult
        cases hresult
    | error cause =>
        rw [hcheck] at hresult
        cases hresult

/-!
# Player and pipeline
-/

/-- A state of the player fits the phase of a pipeline and what it has loaded. -/
def Fits (phase : Phase) (uri : String) : PlayerState -> Prop
  | .playing => phase = .playing ∧ uri ≠ ""
  | .paused _ => phase = .paused ∧ uri ≠ ""
  | _ => True

/-- The pipeline of a player is silent, fits its state and never told a duration. -/
structure InTune (player : Player (Traced Output)) (silent : Silent) : Prop where
  quiet : Quiet player.pipeline silent
  fits : Fits silent.phase silent.uri player.state
  duration : player.timing.duration = none

/-- Whatever was carried out, the pipeline caused no failure and is in tune afterwards. -/
def Harmless {α : Type} (done : Outcome (Player (Traced Output)) Error α) : Prop :=
  Untroubled done.result ∧ exists silent, InTune done.state silent

variable {player : Player (Traced Output)} {silent : Silent}

theorem InTune.paused {reason : PauseReason} (hintune : InTune player silent)
    (hstate : player.state = .paused reason) : silent.phase = .paused ∧ silent.uri ≠ "" := by
  have hfits := hintune.fits
  rw [hstate] at hfits
  exact hfits

theorem InTune.playing (hintune : InTune player silent) (hstate : player.state = .playing) :
    silent.phase = .playing ∧ silent.uri ≠ "" := by
  have hfits := hintune.fits
  rw [hstate] at hfits
  exact hfits

theorem InTune.harmless {α : Type} {result : Except Error α} {lines : List Line}
    (hintune : InTune player silent) (hresult : Untroubled result) :
    Harmless ⟨result, player, lines⟩ :=
  ⟨hresult, silent, hintune⟩

theorem InTune.refuses {α : Type} {e : Error} {lines : List Line} (hintune : InTune player silent)
    (he : forall failure, e ≠ .pipeline failure) :
    Harmless (⟨.error e, player, lines⟩ : Outcome _ Error α) := by
  apply hintune.harmless
  intro failure hfailed
  exact he failure (Except.error.inj hfailed)

theorem Harmless.bind {α β : Type} {m : Act (Player (Traced Output)) Error α}
    {next : α -> Act (Player (Traced Output)) Error β} (hdone : Harmless (m player))
    (hnext : forall a, (m player).result = .ok a -> Harmless (next a (m player).state)) :
    Harmless ((m >>= next) player) := by
  unfold Harmless
  rw [Act.bind_result, Act.bind_state]
  cases hresult : (m player).result with
  | ok a =>
      exact hnext a hresult
  | error e =>
      refine ⟨?_, hdone.2⟩
      intro failure hfailed
      cases hfailed
      exact hdone.1 failure hresult

theorem Harmless.then_pure {α β : Type} {m : Act (Player (Traced Output)) Error α} {b : β}
    (hdone : Harmless (m player)) : Harmless ((m >>= fun _ => pure b) player) :=
  hdone.bind fun _ _ => ⟨untroubled_of_isOk rfl, hdone.2⟩

theorem InTune.told {command : Command} {state : PlayerState} (hintune : InTune player silent)
    (htakes : silent.Takes command)
    (hfits : Fits (Silent.phaseAfter silent.phase command) (Silent.uriAfter silent.uri command)
      state) :
    InTune
      { player with
        pipeline := (Pipeline.perform command player.pipeline).state
        state := state }
      (silent.obeyed command) := by
  refine ⟨(hintune.quiet.perform htakes).2, ?_, hintune.duration⟩
  rw [Silent.phase_obeyed htakes, Silent.uri_obeyed htakes]
  exact hfits

theorem quiet_loadAndPlay {pipeline : Traced Output} {uri : String}
    (hquiet : Quiet pipeline silent) (huri : uri ≠ "") :
    (loadAndPlay uri pipeline).result = .ok () ∧
      exists later, Quiet (loadAndPlay uri pipeline).state later ∧
        later.phase = .playing ∧ later.uri = uri := by
  have hstop : silent.Takes .stop := trivial
  have hload : (silent.obeyed .stop).Takes (.load uri) := trivial
  have hnamed := Silent.uri_obeyed hload
  have hplay : ((silent.obeyed .stop).obeyed (.load uri)).Takes .play := by
    show _ ≠ ""
    rw [hnamed]
    exact huri
  rcases hquiet.perform hstop with ⟨hstopped, hready⟩
  rcases hready.perform hload with ⟨hloaded, hquietLoaded⟩
  rcases hquietLoaded.perform hplay with ⟨hplayed, hplaying⟩
  rw [loadAndPlay, Act.bind_result, Act.bind_state, hstopped]
  simp only [Act.bind_result, Act.bind_state, hloaded]
  exact ⟨hplayed, _, hplaying, Silent.phase_obeyed hplay, (Silent.uri_obeyed hplay).trans hnamed⟩

/-!
# Requests
-/

theorem checked_harmless {α : Type} {next : Unit -> Act (Player (Traced Output)) Error α}
    (hintune : InTune player silent) (uri : String) (hnext : Harmless (next () player)) :
    Harmless ((Act.ofExcept (checkUri uri) >>= next) player) := by
  apply Harmless.bind (hintune.harmless (checkUri_untroubled uri))
  intro _ _
  exact hnext

theorem setUri_harmless (hintune : InTune player silent) (uri : String) :
    Harmless (setUri uri player) := by
  apply checked_harmless hintune
  exact ⟨untroubled_of_isOk rfl, silent, hintune.quiet, hintune.fits, rfl⟩

theorem setNextUri_harmless (hintune : InTune player silent) (uri : String) :
    Harmless (setNextUri uri player) := by
  apply checked_harmless hintune
  exact ⟨untroubled_of_isOk rfl, silent, hintune.quiet, hintune.fits, hintune.duration⟩

theorem tell_enter_harmless {command : Command} {state : PlayerState}
    (hintune : InTune player silent) (htakes : silent.Takes command)
    (hfits : Fits (Silent.phaseAfter silent.phase command) (Silent.uriAfter silent.uri command)
      state) :
    Harmless ((tell command >>= fun _ => enter state) player) := by
  rcases tell_enter command state player with ⟨hresult, hstate⟩
  rw [(hintune.quiet.perform htakes).1] at hresult hstate
  refine ⟨untroubled_of_isOk hresult, silent.obeyed command, ?_⟩
  rw [hstate]
  exact hintune.told htakes hfits

theorem tell_log_harmless {command : Command} (hintune : InTune player silent)
    (htakes : silent.Takes command)
    (hphase : Silent.phaseAfter silent.phase command = silent.phase)
    (huri : Silent.uriAfter silent.uri command = silent.uri) (line : Line) :
    Harmless ((tell command >>= fun _ => Act.log line) player) := by
  rcases tell_log command line player with ⟨hresult, hstate⟩
  rw [(hintune.quiet.perform htakes).1] at hresult
  have hfits : Fits (Silent.phaseAfter silent.phase command)
      (Silent.uriAfter silent.uri command) player.state := by
    rw [hphase, huri]
    exact hintune.fits
  refine ⟨untroubled_of_isOk hresult, silent.obeyed command, ?_⟩
  rw [hstate]
  exact hintune.told htakes hfits

theorem play_harmless (hintune : InTune player silent) : Harmless (play player) := by
  by_cases hpaused : exists reason, player.state = .paused reason
  · -- What is paused is loaded, so the pipeline takes it up again.
    rcases hpaused with ⟨reason, hstate⟩
    rcases hintune.paused hstate with ⟨_, huri⟩
    have htakes : silent.Takes .play := huri
    rw [play_eq_resume hstate]
    exact tell_enter_harmless hintune htakes ⟨rfl, huri⟩
  · rw [play_eq_restart fun reason hstate => hpaused ⟨reason, hstate⟩]
    by_cases huri : player.target.uri = ""
    · rcases restart_notAllowed.mpr huri with ⟨_, _, hresult⟩
      refine ⟨?_, silent, ?_⟩
      · rw [hresult]
        intro failure hfailed
        cases hfailed
      · rw [(restart_unnamed huri).2]
        exact hintune
    · rcases restart_named huri with ⟨hresult, hstate⟩
      rcases quiet_loadAndPlay hintune.quiet huri with ⟨hloaded, later, hquiet, hphase, hnamed⟩
      rw [hloaded] at hresult hstate
      refine ⟨untroubled_of_isOk hresult, later, ?_⟩
      rw [hstate]
      refine ⟨hquiet, ⟨hphase, ?_⟩, rfl⟩
      rw [hnamed]
      exact huri

theorem pause_harmless (hintune : InTune player silent) : Harmless (pause player) := by
  by_cases hstate : player.state = .playing
  · rcases hintune.playing hstate with ⟨_, huri⟩
    have htakes : silent.Takes .pause := trivial
    rw [pause_eq_tell hstate]
    exact tell_enter_harmless hintune htakes ⟨rfl, huri⟩
  · rw [pause_refused hstate]
    exact hintune.refuses fun failure hfailed => by cases hfailed

theorem stop_harmless (hintune : InTune player silent) : Harmless (stop player) := by
  have htakes : silent.Takes .stop := trivial
  rcases hintune.quiet.perform htakes with ⟨hstopped, hquiet⟩
  refine ⟨?_, silent.obeyed .stop, ?_⟩
  · apply untroubled_of_isOk
    rw [stop, Act.bind_result]
    simp only [Act.attempt_apply, onPipeline_result, hstopped]
    rfl
  · rw [stop_state]
    exact ⟨hquiet, trivial, rfl⟩

theorem seek_harmless (hintune : InTune player silent) (position : Int) :
    Harmless (seek position player) := by
  rw [seek]
  by_cases hposition : position < 0
  · rw [if_pos hposition]
    exact hintune.refuses fun failure hfailed => by cases hfailed
  · have htakes : silent.Takes (.seek position) := Int.not_lt.mp hposition
    rw [if_neg hposition]
    exact tell_log_harmless hintune htakes rfl rfl _

theorem setVolume_harmless (hintune : InTune player silent) (volume : Float32) :
    Harmless (setVolume volume player) := by
  rw [setVolume]
  by_cases hfraction : isFraction volume = true
  · have htakes : silent.Takes (.setVolume volume) := trivial
    rw [if_pos hfraction]
    exact tell_log_harmless hintune htakes rfl rfl _
  · rw [if_neg hfraction]
    exact hintune.refuses fun failure hfailed => by cases hfailed

theorem setMute_harmless (hintune : InTune player silent) (mute : Bool) :
    Harmless (setMute mute player) := by
  have htakes : silent.Takes (.setMute mute) := trivial
  rw [setMute]
  exact tell_log_harmless hintune htakes rfl rfl _

theorem readTiming_stale {ε : Type} (hintune : InTune player silent) :
    exists answer,
      ((readTiming : Act (Player (Traced Output)) ε Timing) player).result = .ok answer ∧
      answer.duration = none ∧ answer.stale = true := by
  by_cases hstate : player.state = .playing
  · rcases hintune.quiet.ask_duration with ⟨failure, hfailed⟩
    rw [readTiming_playing_result hstate, hfailed]
    exact ⟨_, rfl, hintune.duration, rfl⟩
  · rw [readTiming_recalled hstate]
    exact ⟨_, rfl, hintune.duration, rfl⟩

theorem readTiming_inTune {ε : Type} (hintune : InTune player silent) :
    InTune ((readTiming : Act (Player (Traced Output)) ε Timing) player).state silent := by
  by_cases hstate : player.state = .playing
  · rcases hintune.quiet.ask_duration with ⟨failure, hfailed⟩
    rw [readTiming_playing hstate, hfailed]
    exact ⟨(hintune.quiet.ask .duration).ask .position, hintune.fits, hintune.duration⟩
  · rw [readTiming_recalled hstate]
    exact hintune

theorem volume_silent (hintune : InTune player silent) : player.volume = .ok silent.volume := by
  show (Pipeline.volume player.pipeline.pipeline).mapError Error.pipeline = _
  rw [hintune.quiet.kind]
  rfl

theorem mute_silent (hintune : InTune player silent) : player.mute = .ok silent.mute := by
  show (Pipeline.mute player.pipeline.pipeline).mapError Error.pipeline = _
  rw [hintune.quiet.kind]
  rfl

theorem perform_harmless (hintune : InTune player silent) (request : Request) :
    Harmless (perform request player) := by
  cases request with
  | setUri uri =>
      exact (setUri_harmless hintune uri).then_pure
  | setNextUri uri =>
      exact (setNextUri_harmless hintune uri).then_pure
  | play =>
      exact (play_harmless hintune).then_pure
  | pause =>
      exact (pause_harmless hintune).then_pure
  | stop =>
      exact (stop_harmless hintune).then_pure
  | seek position =>
      exact (seek_harmless hintune position).then_pure
  | setVolume volume =>
      exact (setVolume_harmless hintune volume).then_pure
  | setMute mute =>
      exact (setMute_harmless hintune mute).then_pure
  | readTiming =>
      rcases readTiming_stale (ε := Error) hintune with ⟨answer, hresult, _⟩
      have hdone : Harmless ((readTiming : Act _ Error Timing) player) := by
        refine ⟨?_, silent, readTiming_inTune hintune⟩
        rw [hresult]
        exact untroubled_of_isOk rfl
      show Harmless ((readTiming >>= fun timing => pure (Reply.timing timing)) player)
      exact hdone.bind fun _ _ => ⟨untroubled_of_isOk rfl, hdone.2⟩
  | readVolume =>
      refine ⟨?_, silent, hintune⟩
      show Untroubled (player.volume.map Reply.volume)
      rw [volume_silent hintune]
      exact untroubled_of_isOk rfl
  | readMute =>
      refine ⟨?_, silent, hintune⟩
      show Untroubled (player.mute.map Reply.mute)
      rw [mute_silent hintune]
      exact untroubled_of_isOk rfl

/-!
# Events
-/

theorem aboutToFinish_inTune {ε : Type} (hintune : InTune player silent) :
    exists later,
      InTune ((aboutToFinish : Act (Player (Traced Output)) ε Unit) player).state later := by
  by_cases hqueued : player.target.nextUri = ""
  · rw [(aboutToFinish_unqueued hqueued).2]
    exact ⟨silent, hintune⟩
  · have htakes : silent.Takes (.load player.target.nextUri) := trivial
    rw [(aboutToFinish_queued hqueued).2]
    -- The load leaves the phase alone, whatever it is.
    refine ⟨_, (hintune.quiet.perform htakes).2, ?_, rfl⟩
    rw [Silent.phase_obeyed htakes, Silent.uri_obeyed htakes]
    cases hstate : player.state with
    | playing =>
        exact ⟨(hintune.playing hstate).1, hqueued⟩
    | paused reason =>
        exact ⟨(hintune.paused hstate).1, hqueued⟩
    | _ =>
        trivial

theorem endOfStream_plays {ε : Type} (hintune : InTune player silent)
    (hqueued : player.target.nextUri ≠ "") :
    let next := ((endOfStream : Act (Player (Traced Output)) ε Transition) player).state
    next.state = .playing ∧ exists later, InTune next later := by
  intro next
  rcases quiet_loadAndPlay hintune.quiet hqueued with ⟨hloaded, later, hquiet, hphase, hnamed⟩
  rw [show next = _ from (endOfStream_queued hqueued).2, hloaded]
  refine ⟨rfl, later, hquiet, ⟨hphase, ?_⟩, rfl⟩
  rw [hnamed]
  exact hqueued

theorem endOfStream_inTune {ε : Type} (hintune : InTune player silent) :
    exists later,
      InTune ((endOfStream : Act (Player (Traced Output)) ε Transition) player).state later := by
  by_cases hqueued : player.target.nextUri = ""
  · rw [(endOfStream_unqueued hqueued).2]
    exact ⟨silent, hintune.quiet, trivial, rfl⟩
  · exact (endOfStream_plays hintune hqueued).2

theorem bufferAt_inTune {ε : Type} (hintune : InTune player silent) (percent : Nat) :
    exists later,
      InTune ((bufferAt percent : Act (Player (Traced Output)) ε Unit) player).state later := by
  rcases (bufferAt_outcome (ε := ε) percent player).2 with
    hkept | ⟨hstate, hheld⟩ | ⟨hstate, hreleased⟩
  · rw [hkept]
    exact ⟨silent, hintune⟩
  · have htakes : silent.Takes .pause := trivial
    rw [hheld, (hintune.quiet.perform htakes).1]
    exact ⟨_, hintune.told htakes ⟨rfl, (hintune.playing hstate).2⟩⟩
  · have htakes : silent.Takes .play := (hintune.paused hstate).2
    rw [hreleased, (hintune.quiet.perform htakes).1]
    exact ⟨_, hintune.told htakes ⟨rfl, (hintune.paused hstate).2⟩⟩

theorem inTune_event (hintune : InTune player silent) (event : Pipeline.Event) :
    exists later, InTune (player.after (.event event)) later := by
  cases event with
  | aboutToFinish =>
      rw [after, handle_aboutToFinish_state]
      exact aboutToFinish_inTune hintune
  | endOfStream =>
      rw [after, handle_endOfStream_state]
      exact endOfStream_inTune hintune
  | buffering percent =>
      rw [after, handle, Act.then_pure_state]
      exact bufferAt_inTune hintune percent
  | tags batch =>
      exact ⟨silent, hintune.quiet, hintune.fits, hintune.duration⟩
  | error message details =>
      exact ⟨silent, hintune⟩
  | phaseChanged old new =>
      exact ⟨silent, hintune⟩

/-!
# Runs
-/

/-- What happens to a silent pipeline without its player. -/
inductive Interlude where
  /-- Time passes. -/
  | wait (nanoseconds : Nat)
  /-- The events that wait are read. -/
  | receive
  /-- Nobody reads the events any more. -/
  | disconnect

/-- The pipeline after an interlude. -/
def Interlude.change : Interlude -> Silent -> Silent
  | .wait nanoseconds => Silent.wait nanoseconds
  | .receive => fun silent => silent.receive.2
  | .disconnect => Silent.disconnect

/-- One thing that happens to a player or to its silent pipeline. -/
inductive Moment where
  | step (step : Step)
  | interlude (interlude : Interlude)

/-- An output after an interlude, if it is silent. -/
def Interlude.onOutput (interlude : Interlude) : Output -> Output
  | .silent silent => .silent (interlude.change silent)
  | .scripted script => .scripted script

/-- The player after a moment. -/
def passed (player : Player (Traced Output)) : Moment -> Player (Traced Output)
  | .step step => player.after step
  | .interlude interlude =>
      { player with
        pipeline :=
          { player.pipeline with pipeline := interlude.onOutput player.pipeline.pipeline } }

/-- The player after a list of moments. -/
def live (player : Player (Traced Output)) (moments : List Moment) : Player (Traced Output) :=
  moments.foldl passed player

theorem phase_change (interlude : Interlude) (silent : Silent) :
    (interlude.change silent).phase = silent.phase := by
  cases interlude with
  | wait nanoseconds =>
      rfl
  | receive =>
      show silent.receive.2.phase = silent.phase
      unfold Silent.receive
      split <;> rfl
  | disconnect =>
      rfl

theorem uri_change (interlude : Interlude) (silent : Silent) :
    (interlude.change silent).uri = silent.uri := by
  cases interlude with
  | wait nanoseconds =>
      rfl
  | receive =>
      show silent.receive.2.uri = silent.uri
      unfold Silent.receive
      split <;> rfl
  | disconnect =>
      rfl

theorem inTune_passed (hintune : InTune player silent) (moment : Moment) :
    exists later, InTune (player.passed moment) later := by
  cases moment with
  | step step =>
      cases step with
      | request request =>
          exact (perform_harmless hintune request).2
      | event event =>
          exact inTune_event hintune event
  | interlude interlude =>
      refine ⟨interlude.change silent, ⟨?_, hintune.quiet.accepted⟩, ?_, hintune.duration⟩
      · show interlude.onOutput player.pipeline.pipeline = _
        rw [hintune.quiet.kind]
        rfl
      · rw [phase_change, uri_change]
        exact hintune.fits

theorem inTune_live (moments : List Moment) :
    forall {player : Player (Traced Output)} {silent : Silent}, InTune player silent ->
      exists later, InTune (player.live moments) later := by
  induction moments with
  | nil =>
      intro player silent hintune
      exact ⟨silent, hintune⟩
  | cons moment rest ih =>
      intro player silent hintune
      rcases inTune_passed hintune moment with ⟨later, hlater⟩
      exact ih hlater

/-!
# Starting
-/

/-- A player around the silent pipeline of the built-in catalog, which was made ready. -/
def aroundSilence (settings : OutputSettings) : Player (Traced Output) :=
  .around (Catalog.ready (.ofPipeline (.silent .fresh) : Traced Output)).state Silent.types settings

/-- The player that was then launched. -/
def onSilence (settings : OutputSettings) : Player (Traced Output) :=
  (launch "null" settings (aroundSilence settings)).state

theorem prepare_harmless (hintune : InTune player silent) (settings : OutputSettings) :
    Harmless (prepare settings player) := by
  unfold prepare
  cases settings.initialVolume? with
  | none =>
      exact setMute_harmless hintune false
  | some volume =>
      have hvolume := setVolume_harmless hintune volume
      rcases hvolume.2 with ⟨later, hlater⟩
      apply Harmless.bind (hintune.harmless (untroubled_of_isOk rfl))
      intro _ _
      apply hvolume.bind
      intro _ _
      exact setMute_harmless hlater false

theorem launch_harmless (hintune : InTune player silent) (name : String)
    (settings : OutputSettings) : Harmless (launch name settings player) := by
  have hprepared := prepare_harmless hintune settings
  apply hprepared.bind
  intro _ _
  exact ⟨untroubled_of_isOk rfl, hprepared.2⟩

theorem inTune_onSilence (settings : OutputSettings) :
    exists silent, InTune (onSilence settings) silent := by
  have hready : InTune (aroundSilence settings) (Silent.fresh.obeyed .prepare) := by
    refine ⟨⟨rfl, ?_⟩, trivial, rfl⟩
    intro told accepted hexchange
    rcases List.mem_cons.mp hexchange with hprepared | hasked
    · cases hprepared
      rfl
    · cases List.mem_singleton.mp hasked
  exact (launch_harmless hready "null" settings).2

theorem find_builtIn {name : Option String} {place : Nat} {entry : CatalogEntry (Traced Output)}
    (hfound : Catalog.builtIn.traced.find name = .ok (place, entry)) :
    entry = ⟨"null", "Null output, discards media", .ofPipeline (.silent .fresh)⟩ := by
  cases name with
  | none =>
      cases hfound
      rfl
  | some name =>
      rw [Catalog.find] at hfound
      split at hfound
      · cases hfound
      · next named =>
          cases hfound
          cases List.mem_singleton.mp (List.mem_of_find?_eq_some named)
          rfl

/-- Wherever a player starts on the built-in catalog, it is that one. -/
theorem start_builtIn {name : Option String} {settings : OutputSettings} {output : String}
    {player : Player (Traced Output)}
    (hstarted : (start Catalog.builtIn.traced name settings).result = .ok (output, player)) :
    player = onSilence settings := by
  rcases start_ok hstarted with ⟨selection, hselected, rfl⟩
  rw [Catalog.select, Catalog.choose] at hselected
  cases hvalid : settings.validate with
  | error flaw =>
      rw [hvalid] at hselected
      cases hselected
  | ok done =>
      rw [hvalid] at hselected
      cases hfound : Catalog.builtIn.traced.find name with
      | error e =>
          rw [hfound] at hselected
          cases hselected
      | ok found =>
          rcases found with ⟨place, entry⟩
          rw [hfound] at hselected
          cases find_builtIn hfound
          cases hselected
          rfl

/--
A player on the silent pipeline of the built-in catalog plays or pauses exactly
what its pipeline plays or pauses, no request fails because of the pipeline, which
takes every command, a queued stream is always played when the one before ends, and
the times are never all known.
-/
theorem silent_pipeline_never_fails (settings : OutputSettings) (moments : List Moment) :
    (forall name output player,
      (start Catalog.builtIn.traced name settings).result = .ok (output, player) ->
        player = onSilence settings) ∧
    (let now := (onSilence settings).live moments
     (exists silent,
       now.pipeline.pipeline = .silent silent ∧
       (now.state = .playing -> silent.phase = .playing ∧ silent.uri ≠ "") ∧
       (forall reason, now.state = .paused reason ->
         silent.phase = .paused ∧ silent.uri ≠ "")) ∧
     (forall request failure, (perform request now).result ≠ .error (.pipeline failure)) ∧
     (forall told accepted,
       Exchange.command told accepted ∈ now.pipeline.trace -> accepted = true) ∧
     (now.target.nextUri ≠ "" -> (now.after (.event .endOfStream)).state = .playing) ∧
     exists answer,
       (perform .readTiming now).result = .ok (.timing answer) ∧
       answer.duration = none ∧ answer.stale = true) := by
  refine ⟨fun _ _ _ hstarted => start_builtIn hstarted, ?_⟩
  intro now
  rcases inTune_onSilence settings with ⟨begun, hbegun⟩
  rcases inTune_live moments hbegun with ⟨silent, hintune⟩
  refine ⟨⟨silent, hintune.quiet.kind, hintune.playing, fun _ => hintune.paused⟩,
    fun request => (perform_harmless hintune request).1, hintune.quiet.accepted, ?_, ?_⟩
  · intro hqueued
    rw [after, handle_endOfStream_state]
    exact (endOfStream_plays hintune hqueued).1
  · rcases readTiming_stale (ε := Error) hintune with ⟨answer, hresult, htimes⟩
    refine ⟨answer, ?_, htimes⟩
    show ((readTiming >>= fun timing => pure (Reply.timing timing)) now).result = _
    rw [Act.bind_result, hresult]
    rfl

end Player
end UpnpAv
