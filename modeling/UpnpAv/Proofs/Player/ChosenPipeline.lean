import UpnpAv.Proofs.Pipeline.Catalog
import UpnpAv.Proofs.Player.Exchanges
import UpnpAv.Proofs.Player.Settings

/-!
# Players on a chosen pipeline

A pipeline is made ready and asked for its media types when it is chosen.  The
player that it is handed to does neither again, and keeps the types that were
answered then.
-/

namespace UpnpAv

namespace Pipeline

/-- Whether an exchange belongs to the choice of a pipeline. -/
def Exchange.introduces : Exchange -> Bool
  | .command .prepare _ => true
  | .mediaTypes => true
  | _ => false

end Pipeline

namespace Player

open Pipeline (Exchange Traced)

variable {P : Type}

/-!
# What is exchanged later
-/

theorem Loading.introduces {uri : String} {accepted : Bool} {calls : List Exchange}
    (hloading : Loading uri accepted calls) :
    forall exchange, exchange ∈ calls -> exchange.introduces = false := by
  cases hloading <;> exact List.forall_mem_cons.mpr (by simp [Exchange.introduces])

theorem Request.adjustment?_introduces {request : Request} {command : Pipeline.Command}
    (hadjustment : request.adjustment? = some command) (accepted : Bool) :
    (Exchange.command command accepted).introduces = false := by
  cases request <;> cases hadjustment <;> rfl

theorem Answered.introduces {player next : Player P} {request : Request} {accepted : Bool}
    {calls : List Exchange} (hanswered : player.Answered request accepted calls next) :
    forall exchange, exchange ∈ calls -> exchange.introduces = false := by
  cases hanswered with
  | restarted q hstate hloading =>
      exact hloading.introduces
  | adjusted q accepted hadjustment =>
      simpa using request.adjustment?_introduces hadjustment accepted
  | _ =>
      simp [Exchange.introduces]

theorem Reacted.introduces {player next : Player P} {event : Pipeline.Event}
    {calls : List Exchange} (hreacted : player.Reacted event calls next) :
    forall exchange, exchange ∈ calls -> exchange.introduces = false := by
  cases hreacted with
  | succeeded q hqueued hloading =>
      exact hloading.introduces
  | _ =>
      simp [Exchange.introduces]

theorem Answered.mediaTypes {player next : Player P} {request : Request} {accepted : Bool}
    {calls : List Exchange} (hanswered : player.Answered request accepted calls next) :
    next.mediaTypes = player.mediaTypes := by
  cases hanswered <;> rfl

theorem Reacted.mediaTypes {player next : Player P} {event : Pipeline.Event}
    {calls : List Exchange} (hreacted : player.Reacted event calls next) :
    next.mediaTypes = player.mediaTypes := by
  cases hreacted <;> rfl

/-!
# Later players
-/

/-- A player that keeps the media types it was given, and did not choose its pipeline again. -/
structure KeepsChoice (types : StringSet) (first : List Exchange) (player : Player (Traced P)) :
    Prop where
  types : player.mediaTypes = types
  later : exists calls, player.pipeline.trace = first ++ calls ∧
    forall exchange, exchange ∈ calls -> exchange.introduces = false

variable {types : StringSet} {first : List Exchange}

theorem KeepsChoice.extended {player next : Player (Traced P)} {calls : List Exchange}
    (hkeeps : KeepsChoice types first player) (htypes : next.mediaTypes = player.mediaTypes)
    (htrace : next.pipeline.trace = player.pipeline.trace ++ calls)
    (hcalls : forall exchange, exchange ∈ calls -> exchange.introduces = false) :
    KeepsChoice types first next := by
  rcases hkeeps with ⟨hsame, earlier, hearlier, hintroduces⟩
  refine ⟨htypes.trans hsame, earlier ++ calls, ?_, ?_⟩
  · rw [htrace, hearlier, List.append_assoc]
  · intro exchange hexchange
    rcases List.mem_append.mp hexchange with hbefore | hnow
    · exact hintroduces exchange hbefore
    · exact hcalls exchange hnow

variable [Pipeline P]

/--
The players to which requests and events lead.  Meanwhile the pipeline may become
any other, so that it would answer differently; what was exchanged stays on record.
-/
inductive Later (player : Player (Traced P)) : Player (Traced P) -> Prop where
  | here : Later player player
  | step {next : Player (Traced P)} (step : Step) :
      Later player next -> Later player (next.after step)
  | pipeline {next : Player (Traced P)} (pipeline : P) :
      Later player next ->
        Later player { next with pipeline := { next.pipeline with pipeline := pipeline } }

theorem perform_keepsChoice (request : Request) :
    (perform (P := Traced P) request).Keeps (KeepsChoice types first) := by
  intro player hkeeps
  rcases perform_answers request player with ⟨calls, htrace, hanswered⟩
  exact hkeeps.extended hanswered.mediaTypes htrace hanswered.introduces

theorem after_keepsChoice (step : Step) {player : Player (Traced P)}
    (hkeeps : KeepsChoice types first player) : KeepsChoice types first (player.after step) := by
  cases step with
  | request request =>
      exact perform_keepsChoice request player hkeeps
  | event event =>
      rcases after_reacts event player with ⟨calls, htrace, hreacted⟩
      exact hkeeps.extended hreacted.mediaTypes htrace hreacted.introduces

theorem Later.keepsChoice {player later : Player (Traced P)} (hlater : Later player later)
    (hkeeps : KeepsChoice types first player) : KeepsChoice types first later := by
  induction hlater with
  | here =>
      exact hkeeps
  | step step _ ih =>
      exact after_keepsChoice step ih
  | pipeline pipeline _ ih =>
      exact ⟨ih.types, ih.later⟩

/--
A choice only adds to what was created before, and does not depend on it.  Under
invalid settings it fails before anything is created.  Otherwise the first entry is
chosen that fits the name, and there is a failure of its own for a name or a catalog
without such an entry.  The pipeline of the chosen entry is the only one that is
created, and it is made ready once and then asked once for its media types; what the
other entries would create does not matter.  No player on the selection, whatever
happens to it and to its pipeline, does any of this again, and each keeps the media
types that were answered.
-/
theorem chosen_pipeline_asked_once (catalog : Catalog P) (name : Option String)
    (settings : OutputSettings) :
    let choice := catalog.traced.select name settings
    (forall earlier, catalog.traced.choose name settings earlier =
      ⟨choice.result, earlier ++ choice.created, choice.lines⟩) ∧
    (forall flaw, settings.validate = .error flaw ->
      choice.result = .error (.settings flaw) ∧ choice.created = []) ∧
    (settings.validate = .ok () ->
      (choice.result = .error .noOutput <-> name = none ∧ catalog.entries = []) ∧
      (forall wanted, choice.result = .error (.unknownOutput wanted) <->
        name = some wanted ∧ forall entry, entry ∈ catalog.entries -> entry.name ≠ wanted) ∧
      ((forall place entry, ¬ catalog.Chosen name place entry) -> choice.created = []) ∧
      forall place entry, catalog.Chosen name place entry ->
        Catalog.Makes place entry choice ∧
        forall other : Catalog P,
          other.entries.map CatalogEntry.name = catalog.entries.map CatalogEntry.name ->
            other.entries[place]? = some entry -> other.traced.select name settings = choice) ∧
    forall selection, choice.result = .ok selection ->
      forall launched later,
        Later (launch selection.name launched (ofSelection selection launched)).state later ->
          later.mediaTypes = selection.mediaTypes ∧
          exists calls,
            later.pipeline.trace = [.command .prepare true, .mediaTypes] ++ calls ∧
            forall exchange, exchange ∈ calls -> exchange.introduces = false := by
  intro choice
  refine ⟨Catalog.choose_eq catalog.traced name settings, ?_, ?_, ?_⟩
  · intro flaw hinvalid
    rw [show choice = _ from Catalog.choose_invalid hinvalid catalog.traced name []]
    exact ⟨rfl, rfl⟩
  · intro hvalid
    refine ⟨Catalog.select_eq_noOutput hvalid,
      fun wanted => Catalog.select_eq_unknownOutput hvalid,
      Catalog.created_of_unchosen hvalid, ?_⟩
    intro place entry hchosen
    have hcreated : choice = Catalog.create place entry.traced [] :=
      Catalog.select_traced hvalid hchosen
    rw [hcreated]
    refine ⟨Catalog.makes_create place entry, ?_⟩
    intro other hnames hplace
    exact Catalog.select_traced hvalid (hchosen.unaffected hnames hplace)
  · intro selection hselected launched later hlater
    have hmade : KeepsChoice selection.mediaTypes [.command .prepare true, .mediaTypes]
        (ofSelection selection launched) :=
      ⟨rfl, [], (Catalog.selection_trace hselected).trans (List.append_nil _).symm, by simp⟩
    have hlaunched := launch_keeps perform_keepsChoice selection.name launched _ hmade
    have hlast := hlater.keepsChoice hlaunched
    exact ⟨hlast.types, hlast.later⟩

/-- A script that can do nothing any more, and knows no media types. -/
def deaf : Pipeline.Scripted :=
  { Pipeline.Scripted.willing with failing := Pipeline.Call.all, mediaTypes := .ofList [] }

/-- A catalog in which a name occurs twice, the first time for a pipeline that works. -/
def twins : Catalog Pipeline.Scripted :=
  ⟨[⟨"a", "", deaf⟩, ⟨"b", "", .willing⟩, ⟨"b", "", deaf⟩]⟩

theorem chosen_pipeline_asked_once_twins :
    let pipeline : Traced Pipeline.Scripted :=
      ⟨{ Pipeline.Scripted.willing with reports := true },
        [.command .prepare true, .mediaTypes]⟩
    let selection : Selection (Traced Pipeline.Scripted) :=
      ⟨"b", "", pipeline, .ofList ["audio/mpeg", "audio/flac"]⟩
    let choice := twins.traced.select (some "b") .default
    let played := (launch "b" .default (ofSelection selection .default)).state.after
      (.request .play)
    let deafened := { played with pipeline := { played.pipeline with pipeline := deaf } }
    choice.result = .ok selection ∧ choice.created = [(1, pipeline)] ∧
      (Pipeline.mediaTypes deafened.pipeline).result = .ok (.ofList []) ∧
      deafened.mediaTypes = .ofList ["audio/mpeg", "audio/flac"] := by
  intro pipeline selection choice played deafened
  rcases chosen_pipeline_asked_once twins (some "b") .default with ⟨_, _, hvalid, hlater⟩
  have hchosen : twins.Chosen (some "b") 1 ⟨"b", "", .willing⟩ := Catalog.find_eq_ok.mp rfl
  rcases ((hvalid rfl).2.2.2 1 _ hchosen).1.2 rfl with ⟨types, ⟨⟩, hresult, hcreated⟩
  have hreached : Later (launch "b" .default (ofSelection selection .default)).state deafened :=
    .pipeline deaf (.step (.request .play) .here)
  exact ⟨hresult, hcreated, rfl, (hlater _ hresult .default deafened hreached).1⟩

end Player
end UpnpAv
