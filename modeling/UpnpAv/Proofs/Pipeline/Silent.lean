import UpnpAv.Pipeline.Output
import UpnpAv.Proofs.Act

/-!
# What a silent pipeline takes

A silent pipeline refuses to play without a locator and to go to a negative
position, and nothing else.  A command that it takes decides its phase and its
locator.
-/

namespace UpnpAv
namespace Pipeline
namespace Silent

/-!
# Commands
-/

/-- Whether a silent pipeline takes a command. -/
def Takes (silent : Silent) : Command -> Prop
  | .play => silent.uri ≠ ""
  | .seek position => 0 ≤ position
  | _ => True

/-- A silent pipeline after a command. -/
def obeyed (silent : Silent) (command : Command) : Silent :=
  (obey command silent).state

/-- The phase to which a command leads. -/
def phaseAfter (phase : Phase) : Command -> Phase
  | .prepare => .ready
  | .play => .playing
  | .pause => .paused
  | .stop => .ready
  | _ => phase

/-- The locator after a command. -/
def uriAfter (uri : String) : Command -> String
  | .load next => next
  | _ => uri

theorem phase_report (event : Event) (silent : Silent) :
    (report event silent).phase = silent.phase := by
  unfold report
  cases silent.channel <;> rfl

theorem uri_report (event : Event) (silent : Silent) :
    (report event silent).uri = silent.uri := by
  unfold report
  cases silent.channel <;> rfl

theorem phase_enter (phase : Phase) (silent : Silent) : (enter phase silent).phase = phase := by
  unfold enter
  by_cases hphase : silent.phase = phase
  · rw [if_pos hphase]
    exact hphase
  · rw [if_neg hphase, phase_report]

theorem uri_enter (phase : Phase) (silent : Silent) :
    (enter phase silent).uri = silent.uri := by
  unfold enter
  by_cases hphase : silent.phase = phase
  · rw [if_pos hphase]
  · rw [if_neg hphase, uri_report]

variable {silent : Silent}

theorem obey_play (huri : silent.uri ≠ "") :
    obey .play silent = ⟨.ok (), silent.begin, []⟩ := by
  rw [obey, Act.bind_apply_ok (Act.read_apply silent), if_neg huri]
  rfl

theorem obey_play_unnamed (huri : silent.uri = "") :
    obey .play silent = ⟨.error ⟨"no uri set"⟩, silent, []⟩ := by
  rw [obey, Act.bind_apply_ok (Act.read_apply silent), if_pos huri]
  rfl

theorem obey_seek {position : Int} (hposition : 0 ≤ position) :
    obey (.seek position) silent = ⟨.ok (), silent.startFrom position.toNat, []⟩ := by
  rw [obey, if_neg (Int.not_lt.mpr hposition)]
  rfl

theorem obey_ok {command : Command} (htakes : silent.Takes command) :
    (obey command silent).result = .ok () := by
  cases command with
  | play =>
      rw [obey_play htakes]
  | seek position =>
      rw [obey_seek htakes]
  | _ =>
      rfl

theorem phase_obeyed {command : Command} (htakes : silent.Takes command) :
    (silent.obeyed command).phase = phaseAfter silent.phase command := by
  cases command with
  | prepare =>
      exact phase_enter .ready _
  | play =>
      rw [obeyed, obey_play htakes]
      exact phase_enter .playing _
  | pause =>
      exact phase_enter .paused _
  | stop =>
      exact phase_enter .ready _
  | seek position =>
      rw [obeyed, obey_seek htakes]
      rfl
  | _ =>
      rfl

theorem uri_obeyed {command : Command} (htakes : silent.Takes command) :
    (silent.obeyed command).uri = uriAfter silent.uri command := by
  cases command with
  | prepare =>
      exact uri_enter .ready _
  | play =>
      rw [obeyed, obey_play htakes]
      exact uri_enter .playing _
  | pause =>
      exact uri_enter .paused _
  | stop =>
      exact uri_enter .ready _
  | seek position =>
      rw [obeyed, obey_seek htakes]
      rfl
  | _ =>
      rfl

end Silent

/-!
# Traces without refusals
-/

/-- A traced pipeline that is a silent one and has not refused any command. -/
structure Quiet (pipeline : Traced Output) (silent : Silent) : Prop where
  kind : pipeline.pipeline = .silent silent
  accepted : forall told accepted,
    Exchange.command told accepted ∈ pipeline.trace -> accepted = true

variable {pipeline : Traced Output} {silent : Silent}

theorem Quiet.perform {command : Command} (hquiet : Quiet pipeline silent)
    (htakes : silent.Takes command) :
    (Pipeline.perform command pipeline).result = .ok () ∧
      Quiet (Pipeline.perform command pipeline).state (silent.obeyed command) := by
  rcases pipeline with ⟨output, trace⟩
  rcases hquiet with ⟨hkind, haccepted⟩
  cases hkind
  have hresult : (Pipeline.perform command (⟨.silent silent, trace⟩ : Traced Output)).result =
      .ok () :=
    Silent.obey_ok htakes
  refine ⟨hresult, rfl, ?_⟩
  intro told accepted hexchange
  rcases List.mem_append.mp hexchange with hearlier | hlast
  · exact haccepted told accepted hearlier
  · cases List.mem_singleton.mp hlast
    exact congrArg Except.isOk (Silent.obey_ok htakes)

/-- Questions do not change a silent pipeline. -/
theorem Quiet.ask (hquiet : Quiet pipeline silent) (query : Query) :
    Quiet (Pipeline.ask query pipeline).state silent := by
  rcases pipeline with ⟨output, trace⟩
  rcases hquiet with ⟨hkind, haccepted⟩
  cases hkind
  refine ⟨?_, ?_⟩
  · cases query <;> rfl
  · intro told accepted hexchange
    rcases List.mem_append.mp hexchange with hearlier | hlast
    · exact haccepted told accepted hearlier
    · cases List.mem_singleton.mp hlast

/-- A silent pipeline knows no duration. -/
theorem Quiet.ask_duration (hquiet : Quiet pipeline silent) :
    exists failure, (Pipeline.ask .duration pipeline).result = .error failure := by
  rcases pipeline with ⟨output, trace⟩
  cases hquiet.kind
  exact ⟨_, rfl⟩

end Pipeline
end UpnpAv
