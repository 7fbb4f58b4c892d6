import Mathlib.Data.List.Induction
import UpnpAv.Pipeline.Scripted
import UpnpAv.Proofs.Player.Exchanges

/-!
# Only checked locators reach the pipeline

A locator is checked when it is given to a player, and never again: a start, a
resumed pause, a full buffer and the end of a track all rely on what was checked
then.  Nothing here depends on what the check accepts.
-/

namespace UpnpAv
namespace Player

open Pipeline (Exchange Traced)

variable {P : Type}

/-!
# Players with any check

The check of locators is the only thing that these players do in their own way.
-/

section

variable (check : String -> Except Url.Error Unit)

/-- A locator is either empty or passes the check. -/
def checkUriBy (uri : String) : Except Error Unit :=
  if uri = "" then .ok () else (check uri).mapError (.malformedUri uri)

/-- Set what to play. -/
def setUriBy (uri : String) : Act (Player P) Error Unit := do
  Act.ofExcept (checkUriBy check uri)
  Act.log (.info s!"Set uri to '{uri}'")
  Act.modify fun player =>
    { player with
      target := { player.target with uri := uri }
      metadata := .empty
      timing := .unknown }

/-- Set what to play after the current track. -/
def setNextUriBy (uri : String) : Act (Player P) Error Unit := do
  Act.ofExcept (checkUriBy check uri)
  Act.log (.info s!"Set next uri to '{uri}'")
  Act.modify fun player => { player with target := { player.target with nextUri := uri } }

variable [Pipeline P]

/-- Carry out a request. -/
def performBy : Request -> Act (Player P) Error Reply
  | .setUri uri => do setUriBy check uri; pure .done
  | .setNextUri uri => do setNextUriBy check uri; pure .done
  | request => perform request

/-- The player after one step. -/
def afterBy (player : Player P) : Step -> Player P
  | .request request => (performBy check request player).state
  | .event event => player.after (.event event)

/-- The player after a list of steps. -/
def runBy (player : Player P) (steps : List Step) : Player P :=
  steps.foldl (afterBy check) player

theorem runBy_snoc (player : Player P) (steps : List Step) (step : Step) :
    player.runBy check (steps ++ [step]) = (player.runBy check steps).afterBy check step := by
  rw [runBy, List.foldl_append]
  rfl

end

theorem performBy_check [Pipeline P] (request : Request) :
    (performBy Url.check request : Act (Player P) Error Reply) = perform request := by
  cases request <;> rfl

theorem afterBy_check [Pipeline P] (player : Player P) (step : Step) :
    player.afterBy Url.check step = player.after step := by
  cases step with
  | request request =>
      rw [afterBy, performBy_check]
      rfl
  | event event =>
      rfl

/-- A player runs as one whose check is the check of locators. -/
theorem runBy_check [Pipeline P] (player : Player P) (steps : List Step) :
    player.runBy Url.check steps = player.run steps := by
  have hafter : afterBy (P := P) Url.check = after := by
    funext player step
    exact afterBy_check player step
  rw [runBy, run, hafter]

/-!
# Given locators
-/

/-- The locator that a request gives. -/
def Request.gives? : Request -> Option String
  | .setUri uri => some uri
  | .setNextUri uri => some uri
  | _ => none

theorem checkUriBy_ok {check : String -> Except Url.Error Unit} {uri : String}
    (hpasses : checkUriBy check uri = .ok ()) : uri = "" ∨ check uri = .ok () := by
  unfold checkUriBy at hpasses
  by_cases hempty : uri = ""
  · exact Or.inl hempty
  · rw [if_neg hempty] at hpasses
    cases hcheck : check uri with
    | ok done =>
        exact Or.inr rfl
    | error e =>
        rw [hcheck] at hpasses
        cases hpasses

theorem setUriBy_cases (check : String -> Except Url.Error Unit) (uri : String)
    (player : Player (Traced P)) :
    (setUriBy check uri player).result.isOk = (checkUriBy check uri).isOk ∧
      player.Answers (.setUri uri) (setUriBy check uri player).result.isOk
        (setUriBy check uri player).state := by
  rw [setUriBy, Act.bind_result, Act.bind_state]
  simp only [Act.ofExcept_apply]
  cases checkUriBy check uri with
  | ok done =>
      exact ⟨rfl, [], (List.append_nil _).symm, Answered.setUri uri⟩
  | error e =>
      exact ⟨rfl, answers_kept (Answered.refused (by simp) (by simp))⟩

theorem setNextUriBy_cases (check : String -> Except Url.Error Unit) (uri : String)
    (player : Player (Traced P)) :
    (setNextUriBy check uri player).result.isOk = (checkUriBy check uri).isOk ∧
      player.Answers (.setNextUri uri) (setNextUriBy check uri player).result.isOk
        (setNextUriBy check uri player).state := by
  rw [setNextUriBy, Act.bind_result, Act.bind_state]
  simp only [Act.ofExcept_apply]
  cases checkUriBy check uri with
  | ok done =>
      exact ⟨rfl, [], (List.append_nil _).symm, Answered.setNextUri uri⟩
  | error e =>
      exact ⟨rfl, answers_kept (Answered.refused (by simp) (by simp))⟩

section

variable [Pipeline P] {check : String -> Except Url.Error Unit}

theorem performBy_answers (check : String -> Except Url.Error Unit) (request : Request)
    (player : Player (Traced P)) :
    player.Answers request (performBy check request player).result.isOk
      (performBy check request player).state := by
  cases request with
  | setUri uri =>
      rw [performBy, Act.then_pure_isOk, Act.then_pure_state]
      exact (setUriBy_cases check uri player).2
  | setNextUri uri =>
      rw [performBy, Act.then_pure_isOk, Act.then_pure_state]
      exact (setNextUriBy_cases check uri player).2
  | _ =>
      exact perform_answers _ player

/-- A locator that a player accepts is empty or passes the check. -/
theorem performBy_checks {request : Request} {uri : String} (hgives : request.gives? = some uri)
    {player : Player (Traced P)}
    (haccepted : (performBy check request player).result.isOk = true) :
    uri = "" ∨ check uri = .ok () := by
  have hpasses : (checkUriBy check uri).isOk = true := by
    cases request with
    | setUri given =>
        cases hgives
        rw [performBy, Act.then_pure_isOk, (setUriBy_cases check uri player).1] at haccepted
        exact haccepted
    | setNextUri given =>
        cases hgives
        rw [performBy, Act.then_pure_isOk, (setNextUriBy_cases check uri player).1] at haccepted
        exact haccepted
    | _ =>
        cases hgives
  cases hcheck : checkUriBy check uri with
  | ok done =>
      exact checkUriBy_ok hcheck
  | error e =>
      rw [hcheck] at hpasses
      cases hpasses

/-- Some request of a run gave a locator and was accepted. -/
def Given (check : String -> Except Url.Error Unit) (player : Player P) (steps : List Step)
    (uri : String) : Prop :=
  exists before request rest,
    steps = before ++ .request request :: rest ∧
    request.gives? = some uri ∧
    (performBy check request (player.runBy check before)).result.isOk = true

/-- A locator was given in a run, and it passes the check. -/
def Admitted (check : String -> Except Url.Error Unit) (player : Player P) (steps : List Step)
    (uri : String) : Prop :=
  check uri = .ok () ∧ player.Given check steps uri

theorem Admitted.snoc {player : Player P} {steps : List Step} {uri : String}
    (hadmitted : player.Admitted check steps uri) (step : Step) :
    player.Admitted check (steps ++ [step]) uri := by
  rcases hadmitted with ⟨hpasses, before, request, rest, rfl, hgives, haccepted⟩
  exact ⟨hpasses, before, request, rest ++ [step], by simp, hgives, haccepted⟩

end

/-!
# Exchanges of a step
-/

/-- Something was loaded. -/
def Loads (calls : List Exchange) : Prop :=
  exists uri, .command (.load uri) true ∈ calls

theorem Loads.append_left {calls : List Exchange} (hloads : Loads calls)
    (earlier : List Exchange) : Loads (earlier ++ calls) := by
  rcases hloads with ⟨uri, hload⟩
  exact ⟨uri, List.mem_append_right earlier hload⟩

theorem Loads.append_right {calls : List Exchange} (hloads : Loads calls)
    (later : List Exchange) : Loads (calls ++ later) := by
  rcases hloads with ⟨uri, hload⟩
  exact ⟨uri, List.mem_append_left later hload⟩

/-- Playback is started only after something was loaded, here or earlier. -/
def StartsLoaded (earlier : Prop) (calls : List Exchange) : Prop :=
  forall before accepted rest,
    calls = before ++ .command .play accepted :: rest -> earlier ∨ Loads before

theorem startsLoaded_of_unstarted {earlier : Prop} {calls : List Exchange}
    (hunstarted : forall accepted, .command .play accepted ∉ calls) :
    StartsLoaded earlier calls := by
  rintro before accepted rest rfl
  exact absurd (by simp) (hunstarted accepted)

theorem StartsLoaded.weaken {earlier : Prop} {calls : List Exchange}
    (hstarts : StartsLoaded False calls) : StartsLoaded earlier calls := by
  intro before accepted rest hsplit
  rcases hstarts before accepted rest hsplit with hfalse | hloads
  · exact hfalse.elim
  · exact Or.inr hloads

theorem startsLoaded_append {first second : List Exchange} {earlier : Prop}
    (hfirst : StartsLoaded False first) (hsecond : StartsLoaded earlier second)
    (hearlier : earlier -> Loads first) : StartsLoaded False (first ++ second) := by
  intro before accepted rest hsplit
  rcases List.append_eq_append_iff.mp hsplit with ⟨middle, rfl, hrest⟩ | ⟨middle, hfront, hback⟩
  · rcases hsecond middle accepted rest hrest with hloaded | ⟨uri, hmem⟩
    · rcases hearlier hloaded with ⟨uri, hmem⟩
      exact Or.inr ⟨uri, List.mem_append_left middle hmem⟩
    · exact Or.inr ⟨uri, List.mem_append_right first hmem⟩
  · cases middle with
    | nil =>
        rw [List.append_nil] at hfront
        subst hfront
        rcases hsecond [] accepted rest hback.symm with hloaded | ⟨uri, hmem⟩
        · exact Or.inr (hearlier hloaded)
        · cases hmem
    | cons exchange middle =>
        cases hback
        exact hfirst before accepted middle hfront

theorem loading_startsLoaded {uri : String} {accepted : Bool} {calls : List Exchange}
    (hloading : Loading uri accepted calls) : StartsLoaded False calls := by
  -- Playback can only be the last of three commands, and the second has loaded then.
  have hplay : forall started, StartsLoaded False
      [.command .stop true, .command (.load uri) true, .command .play started] := by
    intro started before accepted rest hsplit
    match before, hsplit with
    | [], hsplit =>
        cases hsplit
    | [first], hsplit =>
        cases hsplit
    | first :: second :: others, hsplit =>
        injection hsplit with _ hsplit
        injection hsplit with hsecond _
        exact Or.inr ⟨uri, by simp [hsecond]⟩
  cases hloading with
  | unstopped =>
      exact startsLoaded_of_unstarted (by simp)
  | unloaded =>
      exact startsLoaded_of_unstarted (by simp)
  | unplayed =>
      exact hplay false
  | played =>
      exact hplay true

theorem loading_loads {uri : String} {calls : List Exchange} (hloading : Loading uri true calls) :
    Loads calls := by
  cases hloading
  exact ⟨uri, by simp⟩

theorem loading_load {uri other : String} {accepted done : Bool} {calls : List Exchange}
    (hloading : Loading uri done calls) (hload : .command (.load other) accepted ∈ calls) :
    other = uri := by
  cases hloading <;> simp at hload <;> exact hload.1

/-- Whether a track is played or paused. -/
def IsUnderWay (player : Player P) : Prop :=
  player.state = .playing ∨ exists reason, player.state = .paused reason

section

variable {player next : Player P} {request : Request} {event : Pipeline.Event} {accepted : Bool}
  {calls : List Exchange}

/-- A track is under way only after it was loaded. -/
theorem Answered.isUnderWay (hanswered : player.Answered request accepted calls next)
    (hnext : next.IsUnderWay) : player.IsUnderWay ∨ Loads calls := by
  cases hanswered with
  | resumed q accepted hstate =>
      exact Or.inl (Or.inr ⟨_, hstate⟩)
  | restarted q hstate hloading =>
      cases accepted with
      | false =>
          exact Or.inl hnext
      | true =>
          exact Or.inr (loading_loads hloading)
  | paused q accepted hstate =>
      exact Or.inl (Or.inl hstate)
  | stopped q accepted =>
      rcases hnext with hnext | ⟨reason, hnext⟩ <;> cases hnext
  | _ =>
      exact Or.inl hnext

theorem Reacted.isUnderWay (hreacted : player.Reacted event calls next)
    (hnext : next.IsUnderWay) : player.IsUnderWay ∨ Loads calls := by
  cases hreacted with
  | ended hqueued =>
      rcases hnext with hnext | ⟨reason, hnext⟩ <;> cases hnext
  | succeeded q hqueued hloading =>
      rename_i done
      cases done with
      | false =>
          rcases hnext with hnext | ⟨reason, hnext⟩ <;> cases hnext
      | true =>
          exact Or.inr (loading_loads hloading)
  | held q accepted percent hstate =>
      exact Or.inl (Or.inl hstate)
  | released q accepted percent hstate =>
      exact Or.inl (Or.inr ⟨_, hstate⟩)
  | _ =>
      exact Or.inl hnext

theorem Answered.startsLoaded (hanswered : player.Answered request accepted calls next) :
    StartsLoaded player.IsUnderWay calls := by
  cases hanswered with
  | resumed q accepted hstate =>
      exact fun _ _ _ _ => Or.inl (Or.inr ⟨_, hstate⟩)
  | restarted q hstate hloading =>
      exact (loading_startsLoaded hloading).weaken
  | adjusted q accepted hadjustment =>
      cases request <;> cases hadjustment <;> exact startsLoaded_of_unstarted (by simp)
  | _ =>
      exact startsLoaded_of_unstarted (by simp)

theorem Reacted.startsLoaded (hreacted : player.Reacted event calls next) :
    StartsLoaded player.IsUnderWay calls := by
  cases hreacted with
  | succeeded q hqueued hloading =>
      exact (loading_startsLoaded hloading).weaken
  | released q accepted percent hstate =>
      exact fun _ _ _ _ => Or.inl (Or.inr ⟨_, hstate⟩)
  | _ =>
      exact startsLoaded_of_unstarted (by simp)

/-- A request loads nothing but the locator of the player. -/
theorem Answered.load {uri : String} {done : Bool}
    (hanswered : player.Answered request accepted calls next)
    (hload : .command (.load uri) done ∈ calls) :
    request = .play ∧ (forall reason, player.state ≠ .paused reason) ∧
      uri = player.target.uri := by
  cases hanswered with
  | restarted q hstate hloading =>
      exact ⟨rfl, hstate, loading_load hloading hload⟩
  | adjusted q accepted hadjustment =>
      cases request <;> cases hadjustment <;> simp at hload
  | _ =>
      simp at hload

/-- An event loads nothing but the queued locator. -/
theorem Reacted.load {uri : String} {done : Bool} (hreacted : player.Reacted event calls next)
    (hload : .command (.load uri) done ∈ calls) :
    uri = player.target.nextUri ∧ uri ≠ "" := by
  cases hreacted with
  | queued q accepted hqueued =>
      simp at hload
      exact ⟨hload.1, hload.1 ▸ hqueued⟩
  | succeeded q hqueued hloading =>
      rw [loading_load hloading hload]
      exact ⟨rfl, hqueued⟩
  | _ =>
      simp at hload

end

/-!
# Runs
-/

/-- What holds of a player and the exchanges so far when it takes only some locators. -/
structure Takes (admitted : String -> Prop) (player : Player P) (calls : List Exchange) :
    Prop where
  uri : player.target.uri = "" ∨ admitted player.target.uri
  nextUri : player.target.nextUri = "" ∨ admitted player.target.nextUri
  loads : forall uri accepted, .command (.load uri) accepted ∈ calls -> uri ≠ "" ∧ admitted uri
  underWay : player.IsUnderWay -> Loads calls
  starts : StartsLoaded False calls

theorem takes_around (admitted : String -> Prop) (pipeline : P) (types : StringSet)
    (settings : OutputSettings) :
    (Player.around pipeline types settings).Takes admitted [] := by
  refine ⟨Or.inl rfl, Or.inl rfl, ?_, ?_, startsLoaded_of_unstarted (by simp)⟩
  · intro uri accepted hload
    cases hload
  · rintro (hstate | ⟨reason, hstate⟩) <;> cases hstate

section

variable {admitted wider : String -> Prop} {player next : Player P} {earlier calls : List Exchange}

theorem Takes.mono (htakes : player.Takes admitted earlier)
    (hwider : forall uri, admitted uri -> wider uri) : player.Takes wider earlier where
  uri := htakes.uri.imp_right (hwider _)
  nextUri := htakes.nextUri.imp_right (hwider _)
  loads := fun uri accepted hload =>
    ⟨(htakes.loads uri accepted hload).1, hwider _ (htakes.loads uri accepted hload).2⟩
  underWay := htakes.underWay
  starts := htakes.starts

/-- What was exchanged before is kept, whatever is exchanged next. -/
theorem Takes.extended (htakes : player.Takes admitted earlier)
    (htarget : (next.target.uri = "" ∨ admitted next.target.uri) ∧
      (next.target.nextUri = "" ∨ admitted next.target.nextUri))
    (hloads : forall uri accepted, .command (.load uri) accepted ∈ calls ->
      uri ≠ "" ∧ admitted uri)
    (hunderWay : next.IsUnderWay -> player.IsUnderWay ∨ Loads calls)
    (hstarts : StartsLoaded player.IsUnderWay calls) :
    next.Takes admitted (earlier ++ calls) := by
  refine ⟨htarget.1, htarget.2, ?_, ?_, startsLoaded_append htakes.starts hstarts
    htakes.underWay⟩
  · intro uri accepted hload
    rcases List.mem_append.mp hload with hbefore | hnow
    · exact htakes.loads uri accepted hbefore
    · exact hloads uri accepted hnow
  · intro hnext
    rcases hunderWay hnext with hbefore | hnow
    · exact (htakes.underWay hbefore).append_right calls
    · exact hnow.append_left earlier

theorem Takes.answered {request : Request} {accepted : Bool}
    (htakes : player.Takes admitted earlier)
    (hanswered : player.Answered request accepted calls next)
    (hgiven : forall uri, accepted = true -> request.gives? = some uri ->
      uri = "" ∨ admitted uri)
    (hnamed : forall uri accepted, .command (.load uri) accepted ∈ calls -> uri ≠ "") :
    next.Takes admitted (earlier ++ calls) := by
  have htarget : (next.target.uri = "" ∨ admitted next.target.uri) ∧
      (next.target.nextUri = "" ∨ admitted next.target.nextUri) := by
    cases hanswered with
    | setUri uri =>
        exact ⟨hgiven uri rfl rfl, htakes.nextUri⟩
    | setNextUri uri =>
        exact ⟨htakes.uri, hgiven uri rfl rfl⟩
    | _ =>
        exact ⟨htakes.uri, htakes.nextUri⟩
  refine htakes.extended htarget ?_ hanswered.isUnderWay hanswered.startsLoaded
  intro uri accepted hload
  rcases hanswered.load hload with ⟨_, _, rfl⟩
  have hnamed := hnamed _ accepted hload
  exact ⟨hnamed, htakes.uri.resolve_left hnamed⟩

theorem Takes.reacted {event : Pipeline.Event} (htakes : player.Takes admitted earlier)
    (hreacted : player.Reacted event calls next) :
    next.Takes admitted (earlier ++ calls) := by
  have htarget : (next.target.uri = "" ∨ admitted next.target.uri) ∧
      (next.target.nextUri = "" ∨ admitted next.target.nextUri) := by
    cases hreacted with
    | queued q accepted hqueued =>
        exact ⟨htakes.nextUri, Or.inl rfl⟩
    | succeeded q hqueued hloading =>
        exact ⟨htakes.nextUri, Or.inl rfl⟩
    | _ =>
        exact ⟨htakes.uri, htakes.nextUri⟩
  refine htakes.extended htarget ?_ hreacted.isUnderWay hreacted.startsLoaded
  intro uri accepted hload
  rcases hreacted.load hload with ⟨rfl, hnamed⟩
  exact ⟨hnamed, htakes.nextUri.resolve_left hnamed⟩

end

section

variable [Pipeline P] {check : String -> Except Url.Error Unit}

/-- Nothing is loaded for a player without a locator. -/
theorem performBy_loads {request : Request} {player : Player (Traced P)} {calls : List Exchange}
    {uri : String} {accepted : Bool}
    (htrace : (performBy check request player).state.pipeline.trace =
      player.pipeline.trace ++ calls)
    (hanswered : player.Answered request (performBy check request player).result.isOk calls
      (performBy check request player).state)
    (hload : .command (.load uri) accepted ∈ calls) : uri ≠ "" := by
  rcases hanswered.load hload with ⟨rfl, hstate, rfl⟩
  intro hempty
  have hkept : (performBy check .play player).state = player := by
    show (perform .play player).state = player
    rw [perform, Act.then_pure_state, play_eq_restart hstate, (restart_unnamed hempty).2]
  rw [hkept, List.self_eq_append_right] at htrace
  rw [htrace] at hload
  cases hload

theorem takes_afterBy {player now : Player (Traced P)} {steps : List Step}
    {earlier : List Exchange} (hnow : player.runBy check steps = now)
    (htakes : now.Takes (player.Admitted check steps) earlier) (step : Step) :
    exists calls,
      (now.afterBy check step).pipeline.trace = now.pipeline.trace ++ calls ∧
      (now.afterBy check step).Takes (player.Admitted check (steps ++ [step]))
        (earlier ++ calls) := by
  have hwider : now.Takes (player.Admitted check (steps ++ [step])) earlier :=
    htakes.mono fun uri hadmitted => hadmitted.snoc step
  cases step with
  | request request =>
      rcases performBy_answers check request now with ⟨calls, htrace, hanswered⟩
      refine ⟨calls, htrace, hwider.answered hanswered ?_ ?_⟩
      · intro uri haccepted hgives
        rcases performBy_checks hgives haccepted with hempty | hpasses
        · exact Or.inl hempty
        · rw [← hnow] at haccepted
          exact Or.inr ⟨hpasses, steps, request, [], rfl, hgives, haccepted⟩
      · intro uri accepted
        exact performBy_loads htrace hanswered
  | event event =>
      rcases after_reacts event now with ⟨calls, htrace, hreacted⟩
      exact ⟨calls, htrace, hwider.reacted hreacted⟩

theorem takes_runBy {player : Player (Traced P)}
    (htakes : player.Takes (player.Admitted check []) []) (steps : List Step) :
    exists calls,
      (player.runBy check steps).pipeline.trace = player.pipeline.trace ++ calls ∧
      (player.runBy check steps).Takes (player.Admitted check steps) calls := by
  induction steps using List.reverseRecOn with
  | nil =>
      exact ⟨[], (List.append_nil _).symm, htakes⟩
  | append_singleton steps step ih =>
      rcases ih with ⟨earlier, hbefore, htakes⟩
      rcases takes_afterBy rfl htakes step with ⟨calls, hnow, hnext⟩
      refine ⟨earlier ++ calls, ?_, ?_⟩
      · rw [runBy_snoc, hnow, hbefore, List.append_assoc]
      · rw [runBy_snoc]
        exact hnext

/--
Whatever the check accepts, every locator that a player has was given by an
accepted request and passes, unless it is empty.  A pipeline is never told to
load anything else, not even in vain, and never told to play before it has
loaded something.
-/
theorem only_checked_locators_loaded (check : String -> Except Url.Error Unit)
    (pipeline : Traced P) (types : StringSet) (settings : OutputSettings) (steps : List Step) :
    let player := Player.around pipeline types settings
    let now := player.runBy check steps
    player.runBy Url.check steps = player.run steps ∧
    (now.target.uri = "" ∨
      check now.target.uri = .ok () ∧ player.Given check steps now.target.uri) ∧
    (now.target.nextUri = "" ∨
      check now.target.nextUri = .ok () ∧ player.Given check steps now.target.nextUri) ∧
    exists calls,
      now.pipeline.trace = pipeline.trace ++ calls ∧
      (forall uri accepted, .command (.load uri) accepted ∈ calls ->
        uri ≠ "" ∧ check uri = .ok ()) ∧
      (forall before accepted rest, calls = before ++ .command .play accepted :: rest ->
        exists uri, .command (.load uri) true ∈ before) := by
  intro player now
  rcases takes_runBy (takes_around (player.Admitted check []) pipeline types settings) steps
    with ⟨calls, htrace, htakes⟩
  refine ⟨runBy_check player steps, htakes.uri, htakes.nextUri, calls, htrace, ?_, ?_⟩
  · intro uri accepted hload
    rcases htakes.loads uri accepted hload with ⟨hnamed, hpasses, _⟩
    exact ⟨hnamed, hpasses⟩
  · intro before accepted rest hsplit
    exact (htakes.starts before accepted rest hsplit).resolve_left id

end

/-- A check that only two locators pass. -/
def checkDisc (uri : String) : Except Url.Error Unit :=
  if uri = "cd:1" ∨ uri = "cd:2" then .ok () else .error .noScheme

/-- A track that is played after another locator was refused, and one that follows it. -/
def followedDisc : List Step :=
  [ .request (.setUri "http://a/"),
    .request (.setUri "cd:1"),
    .request .play,
    .request (.setNextUri "cd:2"),
    .event .aboutToFinish ]

/-- The locator that was moved up and loaded is the one that was given. -/
theorem only_checked_locators_loaded_followed :
    let player : Player (Traced Pipeline.Scripted) :=
      .around (.ofPipeline .willing) .empty .default
    let now := player.runBy checkDisc followedDisc
    now.target.uri = "cd:2" ∧ player.Given checkDisc followedDisc "cd:2" ∧
      Exchange.command (.load "cd:2") true ∈ now.pipeline.trace ∧ checkDisc "cd:2" = .ok () := by
  intro player now
  rcases only_checked_locators_loaded checkDisc (.ofPipeline Pipeline.Scripted.willing) .empty
    .default followedDisc with ⟨_, hgiven, _, calls, htrace, hloads, _⟩
  have htrace : now.pipeline.trace = calls := htrace
  have huri : now.target.uri = "cd:2" := by decide
  have hload : Exchange.command (.load "cd:2") true ∈ now.pipeline.trace :=
    List.mem_of_getElem? (show now.pipeline.trace[3]? = _ from rfl)
  have hpasses : checkDisc "cd:2" = .ok () := (hloads "cd:2" true (htrace ▸ hload)).2
  rcases hgiven with hempty | ⟨_, hgiven⟩
  · exact absurd (huri.symm.trans hempty) (by decide)
  · exact ⟨huri, huri ▸ hgiven, hload, hpasses⟩

end Player
end UpnpAv
