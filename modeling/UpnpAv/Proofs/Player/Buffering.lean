import UpnpAv.Proofs.Pipeline.Sound
import UpnpAv.Proofs.Player.Exchanges
import UpnpAv.Proofs.Player.Settings

/-!
# Pauses for the buffer

As long as the buffer is watched, a player that plays or was paused for it goes
where the last level of the buffer leads.  The pipeline is told once for each change,
and told again when it refused.  In all other states, and for a player that
takes no notice of the buffer, the levels do nothing.
-/

namespace UpnpAv
namespace Player

open Pipeline (Exchange Traced)

variable {P L X : Type}

/-!
# Levels
-/

/-- The state to which a level of the buffer leads. -/
def wanted (percent : Nat) : PlayerState :=
  if percent < 100 then .paused .buffering else .playing

/-- The command that leads there. -/
def leading (percent : Nat) : Pipeline.Command :=
  if percent < 100 then .pause else .play

theorem wanted_low {percent : Nat} (hlow : percent < 100) :
    wanted percent = .paused .buffering ∧ leading percent = .pause :=
  ⟨if_pos hlow, if_pos hlow⟩

theorem wanted_full {percent : Nat} (hfull : ¬ percent < 100) :
    wanted percent = .playing ∧ leading percent = .play :=
  ⟨if_neg hfull, if_neg hfull⟩

/-- Two levels on the same side of a full buffer. -/
def SameSide (percent other : Nat) : Prop :=
  percent < 100 <-> other < 100

theorem SameSide.wanted {percent other : Nat} (hside : SameSide percent other) :
    wanted other = wanted percent ∧ leading other = leading percent := by
  unfold Player.wanted Player.leading
  simp only [hside.symm, and_self]

/-- A player whose state is up to the buffer. -/
structure Swings (player : Player P) : Prop where
  on : player.buffering = true
  state : player.state = .playing ∨ player.state = .paused .buffering

/-- A player to which the buffer does nothing. -/
def Unswayed (player : Player P) : Prop :=
  player.buffering = false ∨ player.state = .ready ∨ player.state = .stopped ∨
    player.state = .paused .user

theorem Swings.wanted_of_not {player : Player P} (hswings : player.Swings) {percent : Nat}
    (hother : player.state ≠ wanted percent) :
    (player.state = .playing ∧ percent < 100) ∨
      (player.state = .paused .buffering ∧ 100 ≤ percent) := by
  by_cases hlow : percent < 100
  · rw [(wanted_low hlow).1] at hother
    exact Or.inl ⟨hswings.state.resolve_right hother, hlow⟩
  · rw [(wanted_full hlow).1] at hother
    exact Or.inr ⟨hswings.state.resolve_left hother, Nat.not_lt.mp hlow⟩

theorem Swings.wanted_of_other {player : Player P} (hswings : player.Swings) {percent other : Nat}
    (hother : player.state ≠ wanted percent) (hside : ¬ SameSide percent other) :
    player.state = wanted other := by
  rcases hswings.wanted_of_not hother with ⟨hplaying, hlow⟩ | ⟨hpaused, hfull⟩
  · rw [hplaying, (wanted_full fun hlower => hside (iff_of_true hlow hlower)).1]
  · have hlower : other < 100 :=
      Classical.byContradiction fun hnot => hside (iff_of_false (Nat.not_lt.mpr hfull) hnot)
    rw [hpaused, (wanted_low hlower).1]

/-- A pipeline that takes every pause and every resumption, however often it is told. -/
def Obliges [Pipeline P] (pipeline : P) : Prop :=
  exists willing : P -> Prop,
    willing pipeline ∧
    forall q, willing q -> forall command, command = .pause ∨ command = .play ->
      (Pipeline.perform command q).result = .ok () ∧
        willing (Pipeline.perform command q).state

theorem Obliges.perform [Pipeline P] {pipeline : P} (hobliges : Obliges pipeline)
    (percent : Nat) :
    (Pipeline.perform (leading percent) pipeline).result.isOk = true ∧
      Obliges (Pipeline.perform (leading percent) pipeline).state := by
  rcases hobliges with ⟨willing, hpipeline, hwilling⟩
  have hcommand : leading percent = .pause ∨ leading percent = .play := by
    unfold leading
    split
    · exact Or.inl rfl
    · exact Or.inr rfl
  rcases hwilling pipeline hpipeline _ hcommand with ⟨hresult, hstate⟩
  rw [hresult]
  exact ⟨rfl, willing, hstate, hwilling⟩

theorem obliges_scripted {script : Pipeline.Scripted} (hpause : .pause ∉ script.failing)
    (hplay : .play ∉ script.failing) (trace : List Exchange) :
    Obliges (⟨script, trace⟩ : Traced Pipeline.Scripted) := by
  refine ⟨fun q => q.pipeline = script, rfl, ?_⟩
  rintro q rfl command hcommand
  have hmoves : command.moves = true := by
    rcases hcommand with rfl | rfl
    · rfl
    · rfl
  have hcalled : .ofCommand command ∉ q.pipeline.failing := by
    rcases hcommand with rfl | rfl
    · exact hpause
    · exact hplay
  have hperform := Pipeline.Scripted.perform_moves hmoves q.pipeline
  rw [if_neg hcalled] at hperform
  exact ⟨congrArg Outcome.result hperform, congrArg Outcome.state hperform⟩

/-!
# Single levels
-/

variable [Pipeline P]

theorem after_level (percent : Nat) (player : Player P) :
    player.after (.event (.buffering percent)) =
      ((bufferAt percent : Act (Player P) Empty Unit) player).state := by
  rw [after, handle, Act.then_pure_state]

theorem after_level_unswayed {player : Player P} (hunswayed : player.Unswayed) (percent : Nat) :
    player.after (.event (.buffering percent)) = player := by
  rw [after_level]
  rcases hunswayed with hoff | hstate | hstate | hstate
  · rw [bufferAt_off percent hoff]
  all_goals
    rw [bufferAt_elsewhere percent (by rw [hstate]; simp) (by rw [hstate]; simp)]

theorem after_level_reached {player : Player P} (hswings : player.Swings) {percent : Nat}
    (hreached : player.state = wanted percent) :
    player.after (.event (.buffering percent)) = player := by
  rw [after_level]
  by_cases hlow : percent < 100
  · rw [(wanted_low hlow).1] at hreached
    rw [bufferAt_paused percent hswings.on hreached, if_neg (Nat.not_le.mpr hlow)]
    rfl
  · rw [(wanted_full hlow).1] at hreached
    rw [bufferAt_playing percent hswings.on hreached, if_neg hlow]
    rfl

/-- A level that asks for the other state is told to the pipeline, whose answer decides. -/
theorem after_level_sought {player : Player P} (hswings : player.Swings) {percent : Nat}
    (hother : player.state ≠ wanted percent) :
    player.after (.event (.buffering percent)) =
      { player with
        pipeline := (Pipeline.perform (leading percent) player.pipeline).state
        state := if (Pipeline.perform (leading percent) player.pipeline).result.isOk then
          wanted percent else player.state } := by
  rw [after_level]
  rcases hswings.wanted_of_not hother with ⟨hplaying, hlow⟩ | ⟨hpaused, hfull⟩
  · rw [bufferAt_playing percent hswings.on hplaying, if_pos hlow, (wanted_low hlow).1,
      (wanted_low hlow).2]
    exact (pauseForBuffering_outcome percent player).2
  · rw [bufferAt_paused percent hswings.on hpaused, if_pos hfull,
      (wanted_full (Nat.not_lt.mpr hfull)).1, (wanted_full (Nat.not_lt.mpr hfull)).2]
    exact (resumeAfterBuffering_outcome player).2

theorem Swings.after {player : Player P} (hswings : player.Swings) (percent : Nat) :
    (player.after (.event (.buffering percent))).Swings := by
  by_cases hreached : player.state = wanted percent
  · rw [after_level_reached hswings hreached]
    exact hswings
  · rw [after_level_sought hswings hreached]
    constructor
    · exact hswings.on
    · cases (Pipeline.perform (leading percent) player.pipeline).result.isOk with
      | true =>
          show wanted percent = .playing ∨ wanted percent = .paused .buffering
          unfold wanted
          split
          · exact Or.inr rfl
          · exact Or.inl rfl
      | false =>
          exact hswings.state

theorem after_level_frame (percent : Nat) (player : Player P) :
    exists q state,
      player.after (.event (.buffering percent)) =
        { player with pipeline := q, state := state } := by
  rw [after_level]
  have hbuffered := (bufferAt_cases (ε := Empty) percent player).2
  generalize ((bufferAt percent : Act (Player P) Empty Unit) player).state = next at hbuffered
  cases hbuffered with
  | kept q =>
      exact ⟨q, _, rfl⟩
  | paused q hstate =>
      exact ⟨q, _, rfl⟩
  | resumed q hstate =>
      exact ⟨q, _, rfl⟩

/-!
# Lists of levels
-/

/-- The buffer reaches one level after the other. -/
def levels (percents : List Nat) : List Step :=
  percents.map fun percent => .event (.buffering percent)

/-- How many of the levels change the state of a player. -/
def changes (player : Player P) : List Nat -> Nat
  | [] => 0
  | percent :: rest =>
      let next := player.after (.event (.buffering percent))
      (if next.state = player.state then 0 else 1) + next.changes rest

/-- Two commands in turn, each of which is accepted. -/
def turns (first second : Pipeline.Command) : Nat -> List Exchange
  | 0 => []
  | count + 1 => .command first true :: turns second first count

theorem run_levels_cons (percent : Nat) (rest : List Nat) (player : Player P) :
    player.run (levels (percent :: rest)) =
      (player.after (.event (.buffering percent))).run (levels rest) :=
  rfl

theorem run_levels_unswayed {player : Player P} (hunswayed : player.Unswayed)
    (percents : List Nat) : player.run (levels percents) = player := by
  induction percents with
  | nil =>
      rfl
  | cons percent rest ih =>
      rw [run_levels_cons, after_level_unswayed hunswayed, ih]

theorem run_levels_reached {player : Player P} (hswings : player.Swings) {percents : List Nat}
    (hreached : forall percent, percent ∈ percents -> player.state = wanted percent) :
    player.run (levels percents) = player := by
  induction percents with
  | nil =>
      rfl
  | cons percent rest ih =>
      rw [run_levels_cons, after_level_reached hswings (hreached percent List.mem_cons_self)]
      exact ih fun other hother => hreached other (List.mem_cons_of_mem percent hother)

theorem run_levels_frame (percents : List Nat) :
    forall player : Player P, exists q state,
      player.run (levels percents) = { player with pipeline := q, state := state } := by
  induction percents with
  | nil =>
      intro player
      exact ⟨player.pipeline, player.state, rfl⟩
  | cons percent rest ih =>
      intro player
      rcases after_level_frame percent player with ⟨q, state, hnext⟩
      rcases ih (player.after (.event (.buffering percent))) with ⟨later, reached, hlater⟩
      refine ⟨later, reached, ?_⟩
      rw [run_levels_cons, hlater, hnext]

theorem Swings.run (percents : List Nat) :
    forall {player : Player P}, player.Swings -> (player.run (levels percents)).Swings := by
  induction percents with
  | nil =>
      intro player hswings
      exact hswings
  | cons percent rest ih =>
      intro player hswings
      exact ih (hswings.after percent)

theorem after_level_obliged {player : Player P} (hswings : player.Swings)
    (hobliges : Obliges player.pipeline) (percent : Nat) :
    (player.after (.event (.buffering percent))).state = wanted percent ∧
      Obliges (player.after (.event (.buffering percent))).pipeline := by
  by_cases hreached : player.state = wanted percent
  · rw [after_level_reached hswings hreached]
    exact ⟨hreached, hobliges⟩
  · rw [after_level_sought hswings hreached, if_pos (hobliges.perform percent).1]
    exact ⟨rfl, (hobliges.perform percent).2⟩

theorem run_levels_state (percents : List Nat) :
    forall {player : Player P}, player.Swings -> Obliges player.pipeline ->
      forall {last : Nat}, percents.getLast? = some last ->
        (player.run (levels percents)).state = wanted last := by
  induction percents with
  | nil =>
      intro player _ _ last hlast
      cases hlast
  | cons percent rest ih =>
      intro player hswings hobliges last hlast
      rcases after_level_obliged hswings hobliges percent with ⟨hstate, hnext⟩
      cases rest with
      | nil =>
          cases hlast
          exact hstate
      | cons other more =>
          rw [List.getLast?_cons_cons] at hlast
          exact ih (hswings.after percent) hnext hlast

theorem changes_reached {player : Player P} (hswings : player.Swings) {percent : Nat}
    (hreached : player.state = wanted percent) (rest : List Nat) :
    player.changes (percent :: rest) = player.changes rest := by
  rw [changes, after_level_reached hswings hreached, if_pos rfl, Nat.zero_add]

theorem changes_sought {player : Player P} (hswings : player.Swings)
    (hobliges : Obliges player.pipeline) {percent : Nat} (hother : player.state ≠ wanted percent)
    (rest : List Nat) :
    player.changes (percent :: rest) =
      (player.after (.event (.buffering percent))).changes rest + 1 := by
  have hchanged : (player.after (.event (.buffering percent))).state ≠ player.state := by
    rw [(after_level_obliged hswings hobliges percent).1]
    exact hother.symm
  rw [changes, if_neg hchanged, Nat.add_comm]

theorem after_level_told {player : Player (Traced P)} (hswings : player.Swings) {percent : Nat}
    (hother : player.state ≠ wanted percent) :
    let accepted := (Pipeline.perform (leading percent) player.pipeline).result.isOk
    let next := player.after (.event (.buffering percent))
    next.pipeline.trace = player.pipeline.trace ++ [.command (leading percent) accepted] ∧
      next.state = if accepted then wanted percent else player.state := by
  intro accepted next
  rw [show next = _ from after_level_sought hswings hother]
  exact ⟨perform_trace (leading percent) player.pipeline, rfl⟩

/-- What a level could not change stays so until there is another level on the same side. -/
theorem refused_told_again {player : Player (Traced P)} (hswings : player.Swings) {percent : Nat}
    (hother : player.state ≠ wanted percent)
    (hrefused : (Pipeline.perform (leading percent) player.pipeline).result.isOk = false)
    {between : List Nat} (hbetween : forall level, level ∈ between -> ¬ SameSide percent level)
    {again : Nat} (hside : SameSide percent again) :
    let next := player.after (.event (.buffering percent))
    next.run (levels between) = next ∧
    exists answer,
      (next.after (.event (.buffering again))).pipeline.trace =
        next.pipeline.trace ++ [.command (leading percent) answer] := by
  intro next
  have hnext : next.Swings := hswings.after percent
  have hkept : next.state ≠ wanted percent := by
    rw [(after_level_told hswings hother).2, hrefused]
    exact hother
  have hagain : next.state ≠ wanted again := by
    rw [hside.wanted.1]
    exact hkept
  constructor
  · apply run_levels_reached hnext
    intro level hlevel
    exact hnext.wanted_of_other hkept (hbetween level hlevel)
  · rw [← hside.wanted.2]
    exact ⟨_, (after_level_told hnext hagain).1⟩

theorem run_levels_trace (percents : List Nat) :
    forall {player : Player (Traced P)}, player.Swings -> Obliges player.pipeline ->
      (player.state = .playing ->
        (player.run (levels percents)).pipeline.trace =
          player.pipeline.trace ++ turns .pause .play (player.changes percents)) ∧
      (player.state = .paused .buffering ->
        (player.run (levels percents)).pipeline.trace =
          player.pipeline.trace ++ turns .play .pause (player.changes percents)) := by
  -- With every change of the state the two commands change places.
  induction percents with
  | nil =>
      intro player _ _
      exact ⟨fun _ => (List.append_nil _).symm, fun _ => (List.append_nil _).symm⟩
  | cons percent rest ih =>
      intro player hswings hobliges
      rcases after_level_obliged hswings hobliges percent with ⟨hstate, hnext⟩
      have hrest := ih (hswings.after percent) hnext
      rw [run_levels_cons]
      by_cases hreached : player.state = wanted percent
      · rw [changes_reached hswings hreached]
        rw [after_level_reached hswings hreached] at hrest ⊢
        exact hrest
      · have htrace := (after_level_told hswings hreached).1
        rw [(hobliges.perform percent).1] at htrace
        rw [changes_sought hswings hobliges hreached]
        rcases hswings.wanted_of_not hreached with ⟨hplaying, hlow⟩ | ⟨hpaused, hfull⟩
        · rw [(wanted_low hlow).1] at hstate
          rw [(wanted_low hlow).2] at htrace
          constructor
          · intro _
            rw [hrest.2 hstate, htrace, List.append_assoc]
            rfl
          · intro hpaused
            rw [hplaying] at hpaused
            cases hpaused
        · rw [(wanted_full (Nat.not_lt.mpr hfull)).1] at hstate
          rw [(wanted_full (Nat.not_lt.mpr hfull)).2] at htrace
          constructor
          · intro hplaying
            rw [hpaused] at hplaying
            cases hplaying
          · intro _
            rw [hrest.1 hstate, htrace, List.append_assoc]
            rfl

namespace Attended

/-!
# Pauses and resumptions
-/

/-- The buffer reaches one level after the other. -/
def levels (percents : List Nat) : List (Step P L) :=
  percents.map fun percent => .event (.buffering percent)

theorem after_level (react : Reaction P L X) (percent : Nat) (attended : Attended P L X) :
    attended.after react (.event (.buffering percent)) =
      { attended with player := attended.player.after (.event (.buffering percent)) } := by
  have hsilent : (handle (.buffering percent) attended.player : Outcome _ Empty _).result =
      .ok none := by
    rw [handle, Act.bind_result, (bufferAt_outcome percent attended.player).1]
    rfl
  exact handleEvent_state react hsilent

theorem run_levels (react : Reaction P L X) (percents : List Nat) :
    forall attended : Attended P L X,
      attended.run react (levels percents) =
        { attended with player := attended.player.run (Player.levels percents) } := by
  induction percents with
  | nil =>
      intro attended
      rfl
  | cons percent rest ih =>
      intro attended
      show (attended.after react (.event (.buffering percent))).run react (levels rest) = _
      rw [after_level, ih]
      rfl

/--
Levels of the buffer change nothing but the pipeline and the state, so that nobody is
called, and they do not even do that unless the buffer is watched and the player plays
or was paused for it.  From playing on, an obliging pipeline is told to pause and
to play in turn, once for each change of the state, and the last level
decides.  What a pipeline refuses changes no state, and it is told again with the next
level on the same side.  A player watches the buffer if its settings say so, whatever
happens to it, and otherwise is never paused for it.
-/
theorem buffer_pauses_and_resumes :
    (forall (react : Reaction (Traced P) L X) (attended : Attended (Traced P) L X)
        (percents : List Nat),
      let player := attended.player
      let now := attended.run react (levels percents)
      (exists q state,
        now = { attended with player := { player with pipeline := q, state := state } }) ∧
      (player.Unswayed -> now = attended) ∧
      (player.buffering = true -> player.state = .playing -> Obliges player.pipeline ->
        now.player.pipeline.trace =
          player.pipeline.trace ++ turns .pause .play (player.changes percents) ∧
        forall last, percents.getLast? = some last -> now.player.state = wanted last) ∧
      (player.Swings ->
        now.player.Swings ∧
        forall percent,
          let accepted := (Pipeline.perform (leading percent) now.player.pipeline).result.isOk
          let next := now.after react (.event (.buffering percent))
          (now.player.state = wanted percent -> next = now) ∧
          (now.player.state ≠ wanted percent ->
            next.player.pipeline.trace =
              now.player.pipeline.trace ++ [.command (leading percent) accepted] ∧
            next.player.state = (if accepted then wanted percent else now.player.state) ∧
            (accepted = false ->
              forall between, (forall level, level ∈ between -> ¬ SameSide percent level) ->
              forall again, SameSide percent again ->
                let later := next.run react (levels between)
                later = next ∧
                exists answer,
                  (later.after react (.event (.buffering again))).player.pipeline.trace =
                    later.player.pipeline.trace ++ [.command (leading percent) answer])))) ∧
    (forall react : Reaction P L X, react.Leading ->
      forall (settings : OutputSettings) (player : Player P), Made settings player ->
      forall ambient steps,
        let now := (around player ambient).run react steps
        now.player.buffering = settings.isBuffering ∧
        (settings.isBuffering = false -> now.player.state ≠ .paused .buffering)) := by
  constructor
  · intro react attended percents player now
    have hnow : now = { attended with player := player.run (Player.levels percents) } :=
      run_levels react percents attended
    rw [hnow]
    refine ⟨?_, ?_, ?_, ?_⟩
    · rcases run_levels_frame percents player with ⟨q, state, hframe⟩
      exact ⟨q, state, by rw [hframe]⟩
    · intro hunswayed
      rw [run_levels_unswayed hunswayed]
    · intro hon hplaying hobliges
      have hswings : player.Swings := ⟨hon, Or.inl hplaying⟩
      exact ⟨(run_levels_trace percents hswings hobliges).1 hplaying,
        fun last hlast => run_levels_state percents hswings hobliges hlast⟩
    · intro hbefore
      have hswings := hbefore.run percents
      refine ⟨hswings, ?_⟩
      intro percent accepted next
      rw [show next = _ from after_level react percent _]
      constructor
      · intro hreached
        rw [after_level_reached hswings hreached]
      · intro hother
        rcases after_level_told hswings hother with ⟨htrace, hstate⟩
        refine ⟨htrace, hstate, ?_⟩
        intro hrefused between hbetween again hside later
        rcases refused_told_again hswings hother hrefused hbetween hside with
          ⟨hkept, answer, hanswer⟩
        have hlater : later = _ := run_levels react between _
        rw [hkept] at hlater
        rw [hlater, after_level react again]
        exact ⟨rfl, answer, hanswer⟩
  · intro react hreact settings player hmade ambient steps now
    have habides : Abides settings now.player := abides_run hreact steps hmade.abides
    exact ⟨habides.same, habides.unpaused⟩

/-- A player that watches its buffer and plays a track. -/
def watchfulPlayer : Player (Traced Pipeline.Scripted) :=
  (Player.around (.ofPipeline .willing) .empty { OutputSettings.default with buffer := 1 }).run
    [.request (.setUri "cd:1"), .request .play]

/-- Somebody listens to that player. -/
def overheardStream : Attended (Traced Pipeline.Scripted) (List Request) Unit :=
  ((around watchfulPlayer ()).listenToTransitions [.stop]).listenToMetadata [.stop]

/-- Its pipeline comes to refuse every pause. -/
def stubbornStream : Attended (Traced Pipeline.Scripted) (List Request) Unit :=
  overheardStream.withPipeline (.ofPipeline { Pipeline.Scripted.willing with failing := [.pause] })

/-- Of four levels three change the state; a refused pause is tried again. -/
theorem buffer_pauses_and_resumes_thrice :
    let idle : Reaction (Traced Pipeline.Scripted) (List Request) Unit := fun _ _ => pure ()
    let now := overheardStream.run idle (levels [40, 80, 100, 7])
    let refused := stubbornStream.after idle (.event (.buffering 40))
    let later := refused.run idle (levels [100])
    (now.player.state = .paused .buffering ∧
      now.player.pipeline.trace = watchfulPlayer.pipeline.trace ++
        [.command .pause true, .command .play true, .command .pause true] ∧
      now.told = []) ∧
    (refused.player.pipeline.trace = [.command .pause false] ∧
      refused.player.state = .playing ∧
      exists answer,
        (later.after idle (.event (.buffering 7))).player.pipeline.trace =
          [.command .pause false, .command .pause answer]) ∧
    ((around willingPlayer ()).run requesting twoEnds).player.state ≠ .paused .buffering := by
  intro idle now refused later
  rcases buffer_pauses_and_resumes (P := Pipeline.Scripted) with ⟨hlevels, hunwatched⟩
  refine ⟨?_, ?_, ?_⟩
  · rcases hlevels idle overheardStream [40, 80, 100, 7] with ⟨⟨q, state, hnow⟩, _, hobliged, _⟩
    rcases hobliged rfl (by decide) (obliges_scripted (by decide) (by decide) _) with
      ⟨htrace, hlast⟩
    have hchanges : overheardStream.player.changes [40, 80, 100, 7] = 3 := by decide
    rw [hchanges] at htrace
    exact ⟨hlast 7 rfl, htrace, by rw [show now = _ from hnow]; rfl⟩
  · rcases hlevels idle stubbornStream [] with ⟨_, _, _, hswings⟩
    rcases (hswings ⟨rfl, Or.inl (by decide)⟩).2 40 with ⟨_, hsought⟩
    rcases hsought (by decide) with ⟨htrace, hstate, hagain⟩
    have hother : forall level, level ∈ [100] -> ¬ SameSide 40 level := by
      unfold SameSide
      decide
    have hsame : SameSide 40 7 := iff_of_true (by decide) (by decide)
    rcases hagain (by decide) [100] hother 7 hsame with ⟨hlater, answer, hanswer⟩
    have hrefused : later.player.pipeline.trace = [.command .pause false] := by
      rw [show later = _ from hlater]
      exact htrace
    exact ⟨htrace, hstate, answer, hanswer.trans (congrArg (· ++ [_]) hrefused)⟩
  · exact (hunwatched requesting requesting_commanding.leading .default willingPlayer
      (.around _ _) () twoEnds).2 rfl

end Attended
end Player
end UpnpAv
