import UpnpAv.Pipeline.Output
import UpnpAv.Proofs.Pipeline.Silent

/-!
# Motion and sound of a pipeline

A command is about the motion of the stream or about its sound.  The pipelines
there are keep the two apart: motion and times do not depend on volume and mute,
nor the other way round.
-/

namespace UpnpAv
namespace Pipeline

/-- Whether a command is about the motion of the stream. -/
def Command.moves : Command -> Bool
  | .load _ => true
  | .play => true
  | .pause => true
  | .stop => true
  | .seek _ => true
  | _ => false

/-- Whether a command is about the sound. -/
def Command.sounds : Command -> Bool
  | .setVolume _ => true
  | .setMute _ => true
  | _ => false

section

variable {P : Type} [Pipeline P]

/-- Related pipelines move alike, and have the same answers to queries. -/
structure MovesAlike (same : P -> P -> Prop) : Prop where
  perform : forall {command : Command}, command.moves = true ->
    Act.Agree same (Pipeline.perform command) (Pipeline.perform command)
  ask : forall query, Act.Agree same (Pipeline.ask query) (Pipeline.ask query)

/-- Related pipelines sound alike. -/
structure SoundsAlike (same : P -> P -> Prop) : Prop where
  perform : forall {command : Command}, command.sounds = true ->
    Act.Agree same (Pipeline.perform command) (Pipeline.perform command)
  volume : forall {p q : P}, same p q -> Pipeline.volume p = Pipeline.volume q
  mute : forall {p q : P}, same p q -> Pipeline.mute p = Pipeline.mute q

/-- A property that no motion changes; each pipeline with it moves like itself. -/
theorem movesAlike_of_kept {I : P -> Prop}
    (hperform : forall {command : Command}, command.moves = true ->
      (Pipeline.perform command).Keeps I)
    (hask : forall query, (Pipeline.ask query).Keeps I) :
    MovesAlike fun p q => q = p ∧ I p := by
  constructor
  · rintro command hmoves _ p ⟨rfl, hkept⟩
    exact ⟨rfl, rfl, hperform hmoves p hkept⟩
  · rintro query _ p ⟨rfl, hkept⟩
    exact ⟨rfl, rfl, hask query p hkept⟩

end

/-!
# Scripted pipelines
-/

namespace Scripted

/-- A scripted pipeline with another volume and muting. -/
def sounding (volume : Float32) (mute : Bool) (script : Scripted) : Scripted :=
  { script with volume := volume, mute := mute }

theorem perform_eq {command : Command} (hcommand : command ≠ .prepare)
    (script : Scripted) :
    (perform command : Act Scripted Failure Unit) script =
      if Call.ofCommand command ∈ script.failing then
        ⟨.error (failure (.ofCommand command)), script, []⟩
      else ⟨.ok (), script.obey command, []⟩ := by
  have hconnect : connect command script = script := by
    cases command with
    | prepare =>
        exact absurd rfl hcommand
    | _ =>
        rfl
  show (Act.modify (connect command) >>= fun _ =>
    guardCall (.ofCommand command) (Act.modify (obey command))) script = _
  rw [Act.bind_apply_ok (Act.modify_apply _ _), hconnect, guardCall,
    Act.bind_apply_ok (Act.read_apply _)]
  by_cases hfails : Call.ofCommand command ∈ script.failing
  · rw [if_pos hfails, if_pos hfails]
    rfl
  · rw [if_neg hfails, if_neg hfails]
    rfl

theorem ask_eq (query : Query) (script : Scripted) :
    (ask query : Act Scripted Failure Int) script =
      ⟨if Call.ofQuery query ∈ script.failing then
          .error (failure (.ofQuery query))
        else script.time query, script, []⟩ := by
  show guardCall (.ofQuery query)
    (Act.read >>= fun script => Act.ofExcept (script.time query)) script = _
  rw [guardCall, Act.bind_apply_ok (Act.read_apply _)]
  by_cases hfails : Call.ofQuery query ∈ script.failing
  · rw [if_pos hfails, if_pos hfails]
    rfl
  · rw [if_neg hfails, if_neg hfails]
    rfl

/-- A script does not change while the stream is moved. -/
theorem perform_moves {command : Command} (hmoves : command.moves = true) (script : Scripted) :
    (perform command : Act Scripted Failure Unit) script =
      ⟨if Call.ofCommand command ∈ script.failing then
          .error (failure (.ofCommand command))
        else .ok (), script, []⟩ := by
  have hcommand : command ≠ .prepare := by
    rintro rfl
    cases hmoves
  have hobey : script.obey command = script := by
    cases command <;> first | rfl | cases hmoves
  rw [perform_eq hcommand, hobey]
  split <;> rfl

end Scripted

/-!
# Silent pipelines
-/

namespace Silent

/-- A silent pipeline with another volume and muting. -/
def sounding (volume : Float32) (mute : Bool) (silent : Silent) : Silent :=
  { silent with volume := volume, mute := mute }

variable (volume : Float32) (mute : Bool)

theorem report_sounding (event : Event) (silent : Silent) :
    (silent.sounding volume mute).report event = (silent.report event).sounding volume mute := by
  unfold report
  cases hchannel : silent.channel with
  | none =>
      rw [show (silent.sounding volume mute).channel = none from hchannel]
  | some channel =>
      rw [show (silent.sounding volume mute).channel = some channel from hchannel]
      rfl

theorem enter_sounding (phase : Phase) (silent : Silent) :
    (silent.sounding volume mute).enter phase = (silent.enter phase).sounding volume mute := by
  unfold enter
  by_cases hphase : silent.phase = phase
  · rw [if_pos hphase]
    exact if_pos hphase
  · rw [if_neg hphase]
    exact (if_neg hphase).trans (report_sounding volume mute _ { silent with phase := phase })

/-- Moving and sounding do not get in each other's way. -/
theorem obey_sounding {command : Command} (hmoves : command.moves = true) (silent : Silent) :
    (obey command (silent.sounding volume mute)).result = (obey command silent).result ∧
      (obey command (silent.sounding volume mute)).state =
        (obey command silent).state.sounding volume mute := by
  cases command with
  | prepare =>
      cases hmoves
  | load uri =>
      exact ⟨rfl, rfl⟩
  | play =>
      by_cases huri : silent.uri = ""
      · have hother : (silent.sounding volume mute).uri = "" := huri
        rw [obey_play_unnamed hother, obey_play_unnamed huri]
        exact ⟨rfl, rfl⟩
      · have hother : (silent.sounding volume mute).uri ≠ "" := huri
        rw [obey_play hother, obey_play huri]
        exact ⟨rfl, enter_sounding volume mute .playing
          { silent with playingSince := some (silent.playingSince.getD silent.clock) }⟩
  | pause =>
      exact ⟨rfl, enter_sounding volume mute .paused
        { silent with elapsed := silent.now, playingSince := none }⟩
  | stop =>
      exact ⟨rfl, enter_sounding volume mute .ready
        { silent with elapsed := 0, playingSince := none }⟩
  | seek position =>
      by_cases hposition : position < 0
      · rw [obey, if_pos hposition]
        exact ⟨rfl, rfl⟩
      · rw [obey, if_neg hposition]
        exact ⟨rfl, rfl⟩
  | setVolume volume =>
      cases hmoves
  | setMute mute =>
      cases hmoves

/-- Volume and mute are left alone while the stream is moved. -/
theorem sound_obeyed {command : Command} (hmoves : command.moves = true) (silent : Silent) :
    (obey command silent).state.volume = silent.volume ∧
      (obey command silent).state.mute = silent.mute := by
  have hstate : (obey command silent).state =
      (obey command silent).state.sounding silent.volume silent.mute :=
    (obey_sounding silent.volume silent.mute hmoves silent).2
  constructor
  · rw [hstate]
    rfl
  · rw [hstate]
    rfl

end Silent

/-!
# Pipelines of any kind
-/

namespace Output

/-- Let time pass for a pipeline that goes by the clock. -/
def wait (nanoseconds : Nat) : Output -> Output
  | .scripted script => .scripted script
  | .silent quiet => .silent (quiet.wait nanoseconds)

/-- Two pipelines are the same apart from volume and mute. -/
inductive SameMotion : Output -> Output -> Prop where
  | scripted (script : Scripted) (volume : Float32) (mute : Bool) :
      SameMotion (.scripted script) (.scripted (script.sounding volume mute))
  | silent (quiet : Silent) (volume : Float32) (mute : Bool) :
      SameMotion (.silent quiet) (.silent (quiet.sounding volume mute))

/-- Two pipelines are the same as far as volume and mute are concerned. -/
inductive SameSound : Output -> Output -> Prop where
  | scripted (script : Scripted) : SameSound (.scripted script) (.scripted script)
  | silent {quiet other : Silent} (hvolume : quiet.volume = other.volume)
      (hmute : quiet.mute = other.mute) : SameSound (.silent quiet) (.silent other)

theorem sameMotion_refl (pipeline : Output) : SameMotion pipeline pipeline := by
  cases pipeline with
  | scripted script =>
      exact SameMotion.scripted script script.volume script.mute
  | silent quiet =>
      exact SameMotion.silent quiet quiet.volume quiet.mute

theorem sameSound_refl (pipeline : Output) : SameSound pipeline pipeline := by
  cases pipeline with
  | scripted script =>
      exact SameSound.scripted script
  | silent quiet =>
      exact SameSound.silent rfl rfl

theorem perform_scripted (command : Command) (script : Scripted) :
    (perform command : Act Output Failure Unit) (.scripted script) =
      ⟨(perform command script).result, .scripted (perform command script).state,
        (perform command script).lines⟩ :=
  rfl

theorem perform_silent (command : Command) (quiet : Silent) :
    (perform command : Act Output Failure Unit) (.silent quiet) =
      ⟨(Silent.obey command quiet).result, .silent (Silent.obey command quiet).state,
        (Silent.obey command quiet).lines⟩ :=
  rfl

theorem ask_scripted (query : Query) (script : Scripted) :
    (ask query : Act Output Failure Int) (.scripted script) =
      ⟨(ask query script).result, .scripted (ask query script).state,
        (ask query script).lines⟩ :=
  rfl

theorem sameMotion_moves : MovesAlike SameMotion := by
  constructor
  · intro command hmoves p q hsame
    cases hsame with
    | scripted script volume mute =>
        rw [perform_scripted, perform_scripted, Scripted.perform_moves hmoves,
          Scripted.perform_moves hmoves]
        exact ⟨rfl, SameMotion.scripted script volume mute⟩
    | silent quiet volume mute =>
        rcases Silent.obey_sounding volume mute hmoves quiet with ⟨hresult, hstate⟩
        rw [perform_silent, perform_silent, hresult, hstate]
        exact ⟨rfl, SameMotion.silent _ volume mute⟩
  · intro query p q hsame
    cases hsame with
    | scripted script volume mute =>
        rw [ask_scripted, ask_scripted, Scripted.ask_eq, Scripted.ask_eq]
        refine ⟨?_, SameMotion.scripted script volume mute⟩
        cases query <;> rfl
    | silent quiet volume mute =>
        cases query with
        | duration =>
            exact ⟨rfl, SameMotion.silent quiet volume mute⟩
        | position =>
            exact ⟨rfl, SameMotion.silent quiet volume mute⟩

/-- A command about the sound changes nothing that motion depends on. -/
theorem sameMotion_sounded {command : Command} (hsounds : command.sounds = true) {p q : Output}
    (hsame : SameMotion p q) :
    SameMotion ((perform command : Act Output Failure Unit) p).state q := by
  cases hsame with
  | scripted script volume mute =>
      have hcommand : command ≠ .prepare := by
        rintro rfl
        cases hsounds
      rw [perform_scripted, Scripted.perform_eq hcommand]
      by_cases hfails : Call.ofCommand command ∈ script.failing
      · rw [if_pos hfails]
        exact SameMotion.scripted script volume mute
      · rw [if_neg hfails]
        cases command with
        | setVolume other =>
            exact SameMotion.scripted { script with volume := other } volume mute
        | setMute other =>
            exact SameMotion.scripted { script with mute := other } volume mute
        | _ =>
            cases hsounds
  | silent quiet volume mute =>
      cases command with
      | setVolume other =>
          exact SameMotion.silent { quiet with volume := other } volume mute
      | setMute other =>
          exact SameMotion.silent { quiet with mute := other } volume mute
      | _ =>
          cases hsounds

theorem sameMotion_edit (change : Scripted.Edit) {p q : Output} (hsame : SameMotion p q) :
    SameMotion (p.edit change) (q.edit change) := by
  cases hsame with
  | scripted script volume mute =>
      cases change with
      | fail call fails =>
          cases fails with
          | false =>
              exact SameMotion.scripted (script.edit (.fail call false)) volume mute
          | true =>
              exact SameMotion.scripted (script.edit (.fail call true)) volume mute
      | timing duration position =>
          exact SameMotion.scripted (script.edit (.timing duration position)) volume mute
      | showVolume shown =>
          exact SameMotion.scripted (script.edit (.showVolume shown)) volume mute
  | silent quiet volume mute =>
      exact SameMotion.silent quiet volume mute

theorem sameMotion_wait (nanoseconds : Nat) {p q : Output} (hsame : SameMotion p q) :
    SameMotion (p.wait nanoseconds) (q.wait nanoseconds) := by
  cases hsame with
  | scripted script volume mute =>
      exact SameMotion.scripted script volume mute
  | silent quiet volume mute =>
      exact SameMotion.silent (quiet.wait nanoseconds) volume mute

theorem sameSound_sounds : SoundsAlike SameSound := by
  refine ⟨?_, ?_, ?_⟩
  · intro command hsounds p q hsame
    cases hsame with
    | scripted script =>
        refine ⟨rfl, ?_⟩
        rw [perform_scripted]
        exact SameSound.scripted _
    | silent hvolume hmute =>
        cases command with
        | setVolume volume =>
            exact ⟨rfl, SameSound.silent rfl hmute⟩
        | setMute mute =>
            exact ⟨rfl, SameSound.silent hvolume rfl⟩
        | _ =>
            cases hsounds
  · intro p q hsame
    cases hsame with
    | scripted script =>
        rfl
    | silent hvolume hmute =>
        exact congrArg Except.ok hvolume
  · intro p q hsame
    cases hsame with
    | scripted script =>
        rfl
    | silent hvolume hmute =>
        exact congrArg Except.ok hmute

/-- Motion changes nothing that the sound depends on. -/
theorem sameSound_moved {command : Command} (hmoves : command.moves = true) {p q : Output}
    (hsame : SameSound p q) :
    SameSound ((perform command : Act Output Failure Unit) p).state q := by
  cases hsame with
  | scripted script =>
      rw [perform_scripted, Scripted.perform_moves hmoves]
      exact SameSound.scripted script
  | @silent quiet other hvolume hmute =>
      rcases Silent.sound_obeyed hmoves quiet with ⟨hkeptVolume, hkeptMute⟩
      exact SameSound.silent (hkeptVolume.trans hvolume) (hkeptMute.trans hmute)

theorem sameSound_asked (query : Query) {p q : Output} (hsame : SameSound p q) :
    SameSound ((ask query : Act Output Failure Int) p).state q := by
  cases hsame with
  | scripted script =>
      rw [ask_scripted, Scripted.ask_eq]
      exact SameSound.scripted script
  | silent hvolume hmute =>
      cases query <;> exact SameSound.silent hvolume hmute

theorem sameSound_edit (change : Scripted.Edit) {p q : Output} (hsame : SameSound p q) :
    SameSound (p.edit change) (q.edit change) := by
  cases hsame with
  | scripted script =>
      exact SameSound.scripted _
  | silent hvolume hmute =>
      exact SameSound.silent hvolume hmute

theorem sameSound_wait (nanoseconds : Nat) {p q : Output} (hsame : SameSound p q) :
    SameSound (p.wait nanoseconds) (q.wait nanoseconds) := by
  cases hsame with
  | scripted script =>
      exact SameSound.scripted script
  | silent hvolume hmute =>
      exact SameSound.silent hvolume hmute

end Output
end Pipeline
end UpnpAv
