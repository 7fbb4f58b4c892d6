import Mathlib.Data.List.Chain
import UpnpAv.Proofs.Pipeline.Silent

/-!
# What a silent pipeline reports

A silent pipeline reports the changes of its phase and nothing else.  A command
or a question changes the phase at most once, so that the reports of a whole run
lead from the first phase to the present one without a gap.
-/

namespace UpnpAv
namespace Pipeline

/-!
# Changes of the phase
-/

/-- The changes on the way from a phase through some others. -/
def Phase.changes (old : Phase) : List Phase -> List Event
  | [] => []
  | new :: rest => (if old = new then [] else [.phaseChanged old new]) ++ new.changes rest

/-- A report goes on from the phase to which the one before it led. -/
def Event.Continues (earlier later : Event) : Prop :=
  exists old new next, earlier = .phaseChanged old new ∧ later = .phaseChanged new next

/-- Reports that lead from one phase to another, each to a new phase. -/
inductive Leads : Phase -> List Event -> Phase -> Prop where
  | here (phase : Phase) : Leads phase [] phase
  | change {old new last : Phase} {rest : List Event} :
      old ≠ new -> Leads new rest last -> Leads old (.phaseChanged old new :: rest) last

theorem Phase.changes_cons (old new : Phase) (rest : List Phase) :
    old.changes (new :: rest) = old.changes [new] ++ new.changes rest := by
  simp [changes]

theorem leads_changes (phases : List Phase) :
    forall old : Phase, Leads old (old.changes phases) (phases.getLastD old) := by
  induction phases with
  | nil =>
      intro old
      exact Leads.here old
  | cons new rest ih =>
      intro old
      rw [List.getLastD_cons, Phase.changes_cons, Phase.changes]
      by_cases hsame : old = new
      · subst hsame
        rw [if_pos rfl]
        exact ih old
      · rw [if_neg hsame]
        exact Leads.change hsame (ih new)

section

variable {old last : Phase} {reports : List Event}

theorem Leads.changed (hleads : Leads old reports last) :
    forall event, event ∈ reports ->
      exists before after, event = .phaseChanged before after ∧ before ≠ after := by
  induction hleads with
  | here phase =>
      intro event hevent
      cases hevent
  | change hnew _ ih =>
      intro event hevent
      rcases List.mem_cons.mp hevent with rfl | hrest
      · exact ⟨_, _, rfl, hnew⟩
      · exact ih event hrest

theorem Leads.isChain (hleads : Leads old reports last) :
    reports.IsChain Event.Continues := by
  induction hleads with
  | here phase =>
      exact List.isChain_nil
  | change _ hrest ih =>
      cases hrest with
      | here phase =>
          exact List.isChain_singleton _
      | change _ _ =>
          exact List.isChain_cons_cons.mpr ⟨⟨_, _, _, rfl, rfl⟩, ih⟩

theorem Leads.getLast? (hleads : Leads old reports last) (hreports : reports ≠ []) :
    exists before, reports.getLast? = some (.phaseChanged before last) := by
  induction hleads with
  | here phase =>
      exact absurd rfl hreports
  | change _ hrest ih =>
      cases hrest with
      | here phase =>
          exact ⟨_, rfl⟩
      | change hnew hmore =>
          exact ih (List.cons_ne_nil _ _)

end

namespace Silent

/-!
# One command

A command is about the channel first, if it is about it at all, and enters a phase
in the end, if only the present one.
-/

/-- The channel to which a command reports. -/
def channelFor (channel : Option Channel) : Command -> Option Channel
  | .prepare => some .new
  | _ => channel

theorem obeyed_enters (command : Command) (silent : Silent) :
    exists phase base,
      silent.obeyed command = enter phase base ∧ base.phase = silent.phase ∧
        base.reported = silent.reported ∧ base.channel = channelFor silent.channel command := by
  have hkept : forall base : Silent, base = enter base.phase base := fun base => (if_pos rfl).symm
  cases command with
  | prepare =>
      exact ⟨.ready, { silent with channel := some .new }, rfl, rfl, rfl, rfl⟩
  | load uri =>
      exact ⟨_, _, hkept (startFrom 0 { silent with uri := uri }), rfl, rfl, rfl⟩
  | play =>
      rw [obeyed]
      by_cases huri : silent.uri = ""
      · rw [obey_play_unnamed huri]
        exact ⟨_, _, hkept silent, rfl, rfl, rfl⟩
      · rw [obey_play huri]
        exact ⟨.playing, _, rfl, rfl, rfl, rfl⟩
  | pause =>
      exact ⟨.paused, { silent with elapsed := silent.now, playingSince := none },
        rfl, rfl, rfl, rfl⟩
  | stop =>
      exact ⟨.ready, { silent with elapsed := 0, playingSince := none }, rfl, rfl, rfl, rfl⟩
  | seek position =>
      rw [obeyed, obey]
      by_cases hposition : position < 0
      · rw [if_pos hposition]
        exact ⟨_, _, hkept silent, rfl, rfl, rfl⟩
      · rw [if_neg hposition]
        exact ⟨_, _, hkept (startFrom position.toNat silent), rfl, rfl, rfl⟩
  | setVolume volume =>
      exact ⟨_, _, hkept { silent with volume := volume }, rfl, rfl, rfl⟩
  | setMute mute =>
      exact ⟨_, _, hkept { silent with mute := mute }, rfl, rfl, rfl⟩

theorem isRead_send (event : Event) (channel : Channel) :
    (channel.send event).2.isRead = channel.isRead := by
  unfold Channel.send
  split <;> rfl

theorem queued_send (event : Event) {channel : Channel} (hread : channel.isRead = true) :
    (channel.send event).2.queued = channel.queued ++ [event] := by
  rw [Channel.send, if_pos hread]

/-- What is reported on entering a phase also reaches a reader. -/
theorem enter_reports (phase : Phase) {silent : Silent} {channel : Channel}
    (hchannel : silent.channel = some channel) :
    (enter phase silent).reported = silent.reported ++ silent.phase.changes [phase] ∧
      exists next, (enter phase silent).channel = some next ∧ next.isRead = channel.isRead ∧
        (channel.isRead = true ->
          next.queued = channel.queued ++ silent.phase.changes [phase]) := by
  unfold enter
  by_cases hphase : silent.phase = phase
  · rw [if_pos hphase, Phase.changes, if_pos hphase]
    exact ⟨(List.append_nil _).symm, channel, hchannel, rfl, fun _ => (List.append_nil _).symm⟩
  · rw [if_neg hphase, Phase.changes, if_neg hphase, report]
    simp only [hchannel]
    exact ⟨rfl, _, rfl, isRead_send _ channel, queued_send _⟩

/-!
# Runs
-/

/-- One thing that happens to a silent pipeline or to the channel of its reports. -/
inductive Step where
  | command (command : Command)
  | query (query : Query)
  /-- The media types are asked for. -/
  | types
  /-- Time passes. -/
  | wait (nanoseconds : Nat)
  /-- The reports that wait are read. -/
  | receive
  /-- Nobody reads the reports any more. -/
  | disconnect

/-- Whether a step fails. -/
def fails (silent : Silent) : Step -> Bool
  | .command command => !(obey command silent).result.isOk
  | .query query => !(ask query silent).result.isOk
  | _ => false

/-- The pipeline after a step. -/
def after (silent : Silent) : Step -> Silent
  | .command command => silent.obeyed command
  | .query query => (ask query silent).state
  | .types => (mediaTypes silent).state
  | .wait nanoseconds => silent.wait nanoseconds
  | .receive => silent.receive.2
  | .disconnect => silent.disconnect

/-- The pipeline after a list of steps. -/
def run (silent : Silent) (steps : List Step) : Silent :=
  steps.foldl after silent

/-- The phases in which the steps of a list leave the pipeline. -/
def phases (silent : Silent) : List Step -> List Phase
  | [] => []
  | step :: rest => (silent.after step).phase :: (silent.after step).phases rest

/-- The reports that wait to be read. -/
def waiting (silent : Silent) : List Event :=
  silent.receive.1

/-- What is read in a step. -/
def read (silent : Silent) : Step -> List Event
  | .receive => silent.waiting
  | _ => []

/-- What is read in a list of steps. -/
def readAll (silent : Silent) : List Step -> List Event
  | [] => []
  | step :: rest => silent.read step ++ (silent.after step).readAll rest

/-- Whether a step leaves the channel between a pipeline and its reader alone. -/
def Step.keepsChannel : Step -> Bool
  | .command .prepare => false
  | .disconnect => false
  | _ => true

/-- A step that reaches a pipeline with a channel, and what goes through the channel. -/
structure Passes (silent : Silent) (step : Step) (channel next : Channel) : Prop where
  leaves : (silent.after step).channel = some next
  reported : (silent.after step).reported =
    silent.reported ++ silent.phase.changes [(silent.after step).phase]
  isRead : step.keepsChannel = true -> next.isRead = channel.isRead
  queued : step.keepsChannel = true -> channel.isRead = true ->
    silent.read step ++ next.queued =
      channel.queued ++ silent.phase.changes [(silent.after step).phase]

theorem changes_self (phase : Phase) : phase.changes [phase] = [] := by
  rw [Phase.changes, if_pos rfl]
  rfl

variable {silent : Silent} {channel : Channel}

/-- A step that leaves phase and reports alone passes if only the channel is accounted for. -/
theorem passes_unreported {step : Step} {next : Channel}
    (hphase : (silent.after step).phase = silent.phase)
    (hreported : (silent.after step).reported = silent.reported)
    (hnext : (silent.after step).channel = some next)
    (hkept : step.keepsChannel = true ->
      next.isRead = channel.isRead ∧ silent.read step ++ next.queued = channel.queued) :
    Passes silent step channel next := by
  constructor
  · exact hnext
  · rw [hphase, hreported, changes_self, List.append_nil]
  · exact fun hkeeps => (hkept hkeeps).1
  · intro hkeeps _
    rw [hphase, changes_self, List.append_nil]
    exact (hkept hkeeps).2

theorem command_passes (command : Command) (hchannel : silent.channel = some channel) :
    exists next, Passes silent (.command command) channel next := by
  rcases obeyed_enters command silent with ⟨phase, base, hobeyed, hphase, hreported, hfor⟩
  have hbase : exists used, base.channel = some used ∧
      ((Step.command command).keepsChannel = true -> used = channel) := by
    rw [hfor]
    cases command with
    | prepare =>
        exact ⟨_, rfl, fun hkeeps => nomatch hkeeps⟩
    | _ =>
        exact ⟨channel, hchannel, fun _ => rfl⟩
  rcases hbase with ⟨used, hused, hsame⟩
  rcases enter_reports phase hused with ⟨hreports, next, hnext, hread, hqueued⟩
  have hafter : silent.after (.command command) = enter phase base := hobeyed
  refine ⟨next, ?_, ?_, ?_, ?_⟩
  · rw [hafter, hnext]
  · rw [hafter, hreports, phase_enter, hphase, hreported]
  · intro hkeeps
    rw [hread, hsame hkeeps]
  · intro hkeeps hopen
    rw [hafter, phase_enter, ← hphase, ← hsame hkeeps]
    exact hqueued (hsame hkeeps ▸ hopen)

theorem exists_passes (step : Step) (hchannel : silent.channel = some channel) :
    exists next, Passes silent step channel next := by
  have hreceive : silent.receive =
      (channel.queued, { silent with channel := some { channel with queued := [] } }) := by
    rw [receive, hchannel]
    rfl
  cases step with
  | command command =>
      exact command_passes command hchannel
  | query query =>
      have hasked : silent.after (.query query) = silent := by cases query <;> rfl
      refine ⟨channel, passes_unreported ?_ ?_ ?_ fun _ => ⟨rfl, rfl⟩⟩
      all_goals
        rw [hasked]
      exact hchannel
  | types =>
      exact ⟨channel, passes_unreported rfl rfl hchannel fun _ => ⟨rfl, rfl⟩⟩
  | wait nanoseconds =>
      exact ⟨channel, passes_unreported rfl rfl hchannel fun _ => ⟨rfl, rfl⟩⟩
  | receive =>
      have hafter : silent.after .receive =
          { silent with channel := some { channel with queued := [] } } :=
        congrArg Prod.snd hreceive
      refine ⟨{ channel with queued := [] }, passes_unreported ?_ ?_ ?_ fun _ => ⟨rfl, ?_⟩⟩
      · rw [hafter]
      · rw [hafter]
      · rw [hafter]
      · rw [read, waiting, hreceive, List.append_nil]
  | disconnect =>
      refine ⟨channel.close, passes_unreported rfl rfl ?_ fun hkeeps => nomatch hkeeps⟩
      rw [after, disconnect, hchannel]
      rfl

/-!
# All reports of a run
-/

/-- The reports of a run are the changes between the phases that it goes through. -/
theorem run_reports (steps : List Step) :
    forall {silent : Silent} {channel : Channel}, silent.channel = some channel ->
      (exists last, (silent.run steps).channel = some last) ∧
        (silent.run steps).reported =
          silent.reported ++ silent.phase.changes (silent.phases steps) := by
  induction steps with
  | nil =>
      intro silent channel hchannel
      exact ⟨⟨channel, hchannel⟩, (List.append_nil _).symm⟩
  | cons step rest ih =>
      intro silent channel hchannel
      rcases exists_passes step hchannel with ⟨next, hpasses⟩
      rcases ih hpasses.leaves with ⟨hlast, hreported⟩
      refine ⟨hlast, ?_⟩
      rw [phases, Phase.changes_cons, ← List.append_assoc, ← hpasses.reported]
      exact hreported

/-- What was read and what waits are all reports, as long as the channel is left alone. -/
theorem run_delivers (steps : List Step) :
    forall {silent : Silent} {channel : Channel} {earlier : List Event},
      (forall step, step ∈ steps -> step.keepsChannel = true) ->
        silent.channel = some channel -> channel.isRead = true ->
          silent.reported = earlier ++ channel.queued ->
            (silent.run steps).reported =
              earlier ++ silent.readAll steps ++ (silent.run steps).waiting := by
  induction steps with
  | nil =>
      intro silent channel earlier _ hchannel _ hreported
      show silent.reported = earlier ++ [] ++ silent.receive.1
      rw [hreported, List.append_nil, receive, hchannel]
      rfl
  | cons step rest ih =>
      intro silent channel earlier hkeep hchannel hread hreported
      rcases exists_passes step hchannel with ⟨next, hpasses⟩
      have hkeeps := hkeep step List.mem_cons_self
      have hqueued : (silent.after step).reported = earlier ++ silent.read step ++ next.queued := by
        rw [hpasses.reported, hreported, List.append_assoc, ← hpasses.queued hkeeps hread,
          List.append_assoc]
      have hrest := ih (fun other hother => hkeep other (List.mem_cons_of_mem step hother))
        hpasses.leaves ((hpasses.isRead hkeeps).trans hread) hqueued
      rw [readAll, ← List.append_assoc]
      exact hrest

theorem phase_run (steps : List Step) :
    forall silent : Silent,
      (silent.run steps).phase = (silent.phases steps).getLastD silent.phase := by
  induction steps with
  | nil =>
      intro silent
      rfl
  | cons step rest ih =>
      intro silent
      rw [phases, List.getLastD_cons]
      exact ih (silent.after step)

/-- A step that fails leaves the pipeline as it was. -/
theorem after_of_fails {step : Step} (hfails : silent.fails step = true) :
    silent.after step = silent := by
  cases step with
  | command command =>
      cases command with
      | play =>
          by_cases huri : silent.uri = ""
          · rw [after, obeyed, obey_play_unnamed huri]
          · rw [fails, obey_play huri] at hfails
            cases hfails
      | seek position =>
          by_cases hposition : position < 0
          · rw [after, obeyed, obey, if_pos hposition]
            rfl
          · rw [fails, obey_seek (Int.not_lt.mp hposition)] at hfails
            cases hfails
      | _ =>
          cases hfails
  | query query =>
      cases query <;> rfl
  | _ =>
      cases hfails

/-- A pipeline that was just initialized. -/
def begun : Silent :=
  fresh.obeyed .prepare

/--
Whatever a silent pipeline is told and asked after its initialization, it reports
exactly the changes of its phase: the first one leads to the ready phase, each goes
on from where the one before it led, and the last one leads to the present phase.
A step that fails or keeps the phase reports nothing.  Every report reaches the
reader, in order, as long as there is one and the pipeline is not initialized again.
-/
theorem phase_reports_chained (steps : List Step) :
    let silent := begun.run steps
    silent.reported = Phase.null.changes (fresh.phases (.command .prepare :: steps)) ∧
    silent.reported.head? = some (.phaseChanged .null .ready) ∧
    (forall event, event ∈ silent.reported ->
      exists old new, event = .phaseChanged old new ∧ old ≠ new) ∧
    silent.reported.IsChain Event.Continues ∧
    (exists old, silent.reported.getLast? = some (.phaseChanged old silent.phase)) ∧
    (forall step, silent.fails step = true ∨ (silent.after step).phase = silent.phase ->
      (silent.after step).reported = silent.reported) ∧
    ((forall step, step ∈ steps -> step.keepsChannel = true) ->
      begun.readAll steps ++ silent.waiting = silent.reported) := by
  intro silent
  have hchannel : begun.channel = some ⟨1, true, [.phaseChanged .null .ready]⟩ := rfl
  rcases run_reports steps hchannel with ⟨⟨last, hlast⟩, hbegun⟩
  have hreported : silent.reported = Phase.null.changes (.ready :: begun.phases steps) := hbegun
  have hphase : silent.phase = (Phase.ready :: begun.phases steps).getLastD .null := by
    rw [List.getLastD_cons]
    exact phase_run steps begun
  have hleads : Leads .null silent.reported silent.phase := by
    rw [hreported, hphase]
    exact leads_changes (.ready :: begun.phases steps) .null
  have hhead : silent.reported.head? = some (.phaseChanged .null .ready) := by
    rw [hreported]
    rfl
  have hsome : silent.reported ≠ [] := by
    intro hnone
    rw [hnone] at hhead
    cases hhead
  refine ⟨hreported, hhead, hleads.changed, hleads.isChain, hleads.getLast? hsome, ?_, ?_⟩
  · rintro step (hfails | hphase)
    · rw [after_of_fails hfails]
    · rcases exists_passes step hlast with ⟨next, hpasses⟩
      rw [hpasses.reported, hphase, changes_self, List.append_nil]
  · intro hkeep
    have hdelivers : silent.reported = [] ++ begun.readAll steps ++ silent.waiting :=
      run_delivers steps hkeep hchannel rfl rfl
    exact hdelivers.symm

/-- Played twice, with failures and questions in between; half of the reports are read at once. -/
def playedTwice : List Step :=
  [.command .play, .command (.load "cd:1"), .command .play, .receive, .command .play,
    .command .pause, .command (.seek (-1)), .query .duration, .command .play,
    .wait 1000, .command .stop]

theorem phase_reports_chained_twice :
    (forall step, step ∈ playedTwice -> step.keepsChannel = true) ∧
      (begun.run playedTwice).reported =
        [.phaseChanged .null .ready, .phaseChanged .ready .playing,
          .phaseChanged .playing .paused, .phaseChanged .paused .playing,
          .phaseChanged .playing .ready] ∧
      begun.readAll playedTwice ++ (begun.run playedTwice).waiting =
        (begun.run playedTwice).reported := by
  have hkeep : forall step, step ∈ playedTwice -> step.keepsChannel = true :=
    List.all_eq_true.mp rfl
  rcases phase_reports_chained playedTwice with ⟨hreported, _, _, _, _, _, hdelivered⟩
  exact ⟨hkeep, hreported, hdelivered hkeep⟩

end Silent
end Pipeline
end UpnpAv
