import Mathlib.Data.List.Forall2
import UpnpAv.Player.Attended
import UpnpAv.Proofs.Act

/-!
# What listeners do

A listener that is called may use the player and register others, but it gives no
events, so that no call begins before another one is over.  Nobody who listens is
ever forgotten.  If the listeners note their calls themselves, they note exactly
the calls on record.
-/

namespace UpnpAv
namespace Player

variable {P L X : Type}

/-- What a listener can note when it is called. -/
structure CallNote (P L : Type) where
  listener : L
  notice : Notice
  found : Player P

namespace Attended

/-!
# Who listens
-/

/-- Whoever listens goes on to listen at the same place. -/
structure Listens (attended next : Attended P L X) : Prop where
  onTransition : attended.onTransition <+: next.onTransition
  onMetadata : attended.onMetadata <+: next.onMetadata

theorem listens_refl (attended : Attended P L X) : Listens attended attended :=
  ⟨List.prefix_rfl, List.prefix_rfl⟩

theorem Listens.trans {attended middle next : Attended P L X} (hfirst : Listens attended middle)
    (hsecond : Listens middle next) : Listens attended next :=
  ⟨hfirst.onTransition.trans hsecond.onTransition, hfirst.onMetadata.trans hsecond.onMetadata⟩

theorem Listens.getElem? {attended next : Attended P L X} (hlistens : Listens attended next)
    {notice : Notice} {place : Nat} {listener : L}
    (hlistener : (attended.listeners notice)[place]? = some listener) :
    (next.listeners notice)[place]? = some listener := by
  have hprefix : attended.listeners notice <+: next.listeners notice := by
    cases notice with
    | transition announced =>
        exact hlistens.onTransition
    | metadata tags =>
        exact hlistens.onMetadata
  rcases hprefix with ⟨more, hmore⟩
  rw [← hmore, List.getElem?_append_left (List.getElem?_eq_some_iff.mp hlistener).1]
  exact hlistener

/-!
# Notes
-/

/-- Every time that a reaction runs, one note is added to the log in the shared state. -/
def Reaction.Notes (react : Reaction P L X) (log : X -> List (CallNote P L)) : Prop :=
  forall listener notice attended,
    log (react listener notice attended).state.ambient =
      log attended.ambient ++ [⟨listener, notice, attended.player⟩]

/-- Listeners that note each call before they react to it. -/
def Reaction.noting (react : Reaction P L (List (CallNote P L))) :
    Reaction P L (List (CallNote P L)) := fun listener notice => do
  Act.modify fun attended =>
    { attended with ambient := attended.ambient ++ [⟨listener, notice, attended.player⟩] }
  react listener notice

theorem noting_notes {react : Reaction P L (List (CallNote P L))}
    (hreact : forall listener notice attended,
      (react listener notice attended).state.ambient = attended.ambient) :
    react.noting.Notes id := by
  intro listener notice attended
  exact hreact listener notice _

/-- A note is that of a call on record: the listener at its place made it. -/
structure Matches (attended : Attended P L X) (call : Call P) (note : CallNote P L) : Prop where
  listener : (attended.listeners call.notice)[call.place]? = some note.listener
  notice : note.notice = call.notice
  found : note.found = call.found

/-- What was put on record meanwhile is what was noted, one note for each call. -/
def Noted (log : X -> List (CallNote P L)) (attended next : Attended P L X) : Prop :=
  exists calls notes,
    next.told = attended.told ++ calls ∧
    log next.ambient = log attended.ambient ++ notes ∧
    List.Forall₂ next.Matches calls notes

variable {log : X -> List (CallNote P L)}

theorem noted_unchanged {attended next : Attended P L X} (htold : next.told = attended.told)
    (hambient : next.ambient = attended.ambient) : Noted log attended next := by
  refine ⟨[], [], ?_, ?_, List.Forall₂.nil⟩
  · rw [htold, List.append_nil]
  · rw [hambient, List.append_nil]

theorem Noted.trans {attended middle next : Attended P L X} (hfirst : Noted log attended middle)
    (hsecond : Noted log middle next) (hlistens : Listens middle next) :
    Noted log attended next := by
  rcases hfirst with ⟨calls, notes, htold, hnoted, hmatch⟩
  rcases hsecond with ⟨more, further, hmore, hfurther, hmatched⟩
  refine ⟨calls ++ more, notes ++ further, ?_, ?_, ?_⟩
  · rw [hmore, htold, List.append_assoc]
  · rw [hfurther, hnoted, List.append_assoc]
  · refine List.rel_append (hmatch.imp ?_) hmatched
    intro call note hone
    exact ⟨hlistens.getElem? hone.listener, hone.notice, hone.found⟩

end Attended

variable [Pipeline P]

/-!
# Commands in between
-/

/-- The players to which commands lead, while the pipeline may go on by itself. -/
inductive Commanded (player : Player P) : Player P -> Prop where
  | here : Commanded player player
  | request {next : Player P} (request : Request) :
      Commanded player next -> Commanded player (perform request next).state
  | pipeline {next : Player P} (pipeline : P) :
      Commanded player next -> Commanded player { next with pipeline := pipeline }

theorem Commanded.trans {player middle next : Player P} (hfirst : Commanded player middle)
    (hsecond : Commanded middle next) : Commanded player next := by
  induction hsecond with
  | here =>
      exact hfirst
  | request request _ ih =>
      exact ih.request request
  | pipeline pipeline _ ih =>
      exact ih.pipeline pipeline

namespace Attended

/--
What a listener may do: give commands, register others and change what is
shared, while the pipeline may go on by itself.  It does not give events.
-/
inductive Commands (attended : Attended P L X) : Attended P L X -> Prop where
  | here : Commands attended attended
  | request {next : Attended P L X} (request : Request) :
      Commands attended next -> Commands attended (onPlayer (perform request) next).state
  | pipeline {next : Attended P L X} (pipeline : P) :
      Commands attended next -> Commands attended (next.withPipeline pipeline)
  | listenToTransitions {next : Attended P L X} (listener : L) :
      Commands attended next -> Commands attended (next.listenToTransitions listener)
  | listenToMetadata {next : Attended P L X} (listener : L) :
      Commands attended next -> Commands attended (next.listenToMetadata listener)
  | ambient {next : Attended P L X} (ambient : X) :
      Commands attended next -> Commands attended { next with ambient := ambient }

def Reaction.Commanding (react : Reaction P L X) : Prop :=
  forall listener notice attended, Commands attended (react listener notice attended).state

theorem Commands.trans {attended middle next : Attended P L X} (hfirst : Commands attended middle)
    (hsecond : Commands middle next) : Commands attended next := by
  induction hsecond with
  | here =>
      exact hfirst
  | request request _ ih =>
      exact ih.request request
  | pipeline pipeline _ ih =>
      exact ih.pipeline pipeline
  | listenToTransitions listener _ ih =>
      exact ih.listenToTransitions listener
  | listenToMetadata listener _ ih =>
      exact ih.listenToMetadata listener
  | ambient ambient _ ih =>
      exact ih.ambient ambient

theorem Commands.player {attended next : Attended P L X} (hnext : Commands attended next) :
    Commanded attended.player next.player := by
  induction hnext with
  | here =>
      exact Commanded.here
  | request request _ ih =>
      exact ih.request request
  | pipeline pipeline _ ih =>
      exact ih.pipeline pipeline
  | _ =>
      assumption

theorem Commands.told {attended next : Attended P L X} (hnext : Commands attended next) :
    next.told = attended.told := by
  induction hnext with
  | here =>
      rfl
  | _ =>
      assumption

theorem Commands.listens {attended next : Attended P L X} (hnext : Commands attended next) :
    Listens attended next := by
  induction hnext with
  | here =>
      exact ⟨List.prefix_rfl, List.prefix_rfl⟩
  | listenToTransitions listener _ ih =>
      exact ⟨ih.onTransition.trans (List.prefix_append _ _), ih.onMetadata⟩
  | listenToMetadata listener _ ih =>
      exact ⟨ih.onTransition, ih.onMetadata.trans (List.prefix_append _ _)⟩
  | request request _ ih =>
      exact ⟨ih.onTransition, ih.onMetadata⟩
  | pipeline pipeline _ ih =>
      exact ⟨ih.onTransition, ih.onMetadata⟩
  | ambient ambient _ ih =>
      exact ⟨ih.onTransition, ih.onMetadata⟩

/-!
# Events
-/

/-- The player and its listeners after an event, before anybody is called. -/
def handled (attended : Attended P L X) (event : Pipeline.Event) : Attended P L X :=
  { attended with player := (handle event attended.player : Outcome _ Empty _).state }

theorem handleEvent_state (react : Reaction P L X) {event : Pipeline.Event}
    {attended : Attended P L X} {announced : Option Notice}
    (hannounced : (handle event attended.player : Outcome _ Empty _).result = .ok announced) :
    (handleEvent react event attended).state =
      match announced with
      | none => attended.handled event
      | some notice =>
          (Act.each (call react notice) (attended.listeners notice).zipIdx
            (attended.handled event)).state := by
  have hresult : (onPlayer (handle event) attended : Outcome _ Empty _).result = .ok announced :=
    hannounced
  rw [handleEvent, Act.bind_state, hresult]
  cases announced with
  | none =>
      rfl
  | some notice =>
      cases notice <;> rfl

variable {react : Reaction P L X}

/-- What the listener at a place finds when it is called: its call is on record by then. -/
def recorded (attended : Attended P L X) (notice : Notice) (place : Nat) : Attended P L X :=
  { attended with told := attended.told ++ [⟨place, notice, attended.player⟩] }

theorem call_commands (hreact : react.Commanding) (notice : Notice) (listener : L × Nat)
    (attended : Attended P L X) :
    Commands (attended.recorded notice listener.2)
      (call react notice listener attended).state :=
  hreact listener.1 notice (attended.recorded notice listener.2)

theorem call_listens (hreact : react.Commanding) (notice : Notice) (listener : L × Nat)
    (attended : Attended P L X) :
    Listens attended (call react notice listener attended).state := by
  have hlistens := (call_commands hreact notice listener attended).listens
  exact ⟨hlistens.onTransition, hlistens.onMetadata⟩

theorem each_listens (hreact : react.Commanding) (notice : Notice) (listeners : List (L × Nat))
    (attended : Attended P L X) :
    Listens attended (Act.each (call react notice) listeners attended).state := by
  apply Act.each_keeps (P := Listens attended) _ attended (listens_refl attended)
  intro listener _ next hnext
  exact hnext.trans (call_listens hreact notice listener next)

theorem listens_after (hreact : react.Commanding) (step : Step P L) (attended : Attended P L X) :
    Listens attended (attended.after react step) := by
  cases step with
  | event event =>
      rcases Act.exists_ok (handle event) attended.player with ⟨announced, hannounced⟩
      rw [after, handleEvent_state react hannounced]
      cases announced with
      | none =>
          exact ⟨List.prefix_rfl, List.prefix_rfl⟩
      | some notice =>
          have hlistens := each_listens hreact notice (attended.listeners notice).zipIdx
            (attended.handled event)
          exact ⟨hlistens.onTransition, hlistens.onMetadata⟩
  | listenToTransitions listener =>
      exact ⟨List.prefix_append _ _, List.prefix_rfl⟩
  | listenToMetadata listener =>
      exact ⟨List.prefix_rfl, List.prefix_append _ _⟩
  | request request =>
      exact ⟨List.prefix_rfl, List.prefix_rfl⟩
  | pipeline pipeline =>
      exact ⟨List.prefix_rfl, List.prefix_rfl⟩

theorem listens_run (hreact : react.Commanding) (steps : List (Step P L)) :
    forall attended : Attended P L X, Listens attended (attended.run react steps) := by
  induction steps with
  | nil =>
      exact listens_refl
  | cons step rest ih =>
      intro attended
      exact (listens_after hreact step attended).trans (ih _)

/-!
# Notes of calls
-/

theorem noting_commanding {react : Reaction P L (List (CallNote P L))}
    (hreact : react.Commanding) : react.noting.Commanding := by
  intro listener notice attended
  let notes := attended.ambient ++ [⟨listener, notice, attended.player⟩]
  exact (Commands.here.ambient notes).trans
    (hreact listener notice { attended with ambient := notes })

theorem call_noted (hreact : react.Commanding) (hnotes : react.Notes log) {notice : Notice}
    {listener : L × Nat} {attended : Attended P L X}
    (hlistener : (attended.listeners notice)[listener.2]? = some listener.1) :
    Noted log attended (call react notice listener attended).state := by
  refine ⟨[⟨listener.2, notice, attended.player⟩], [⟨listener.1, notice, attended.player⟩],
    (call_commands hreact notice listener attended).told,
    hnotes listener.1 notice (attended.recorded notice listener.2),
    List.Forall₂.cons ?_ List.Forall₂.nil⟩
  exact ⟨(call_listens hreact notice listener attended).getElem? hlistener, rfl, rfl⟩

theorem each_noted (hreact : react.Commanding) (hnotes : react.Notes log) (notice : Notice)
    (listeners : List (L × Nat)) :
    forall attended : Attended P L X,
      (forall listener, listener ∈ listeners ->
        (attended.listeners notice)[listener.2]? = some listener.1) ->
      Noted log attended (Act.each (call react notice) listeners attended).state := by
  induction listeners with
  | nil =>
      intro attended _
      exact noted_unchanged rfl rfl
  | cons listener rest ih =>
      intro attended hlisteners
      have hcall := call_noted hreact hnotes (hlisteners listener List.mem_cons_self)
      have hlistens := call_listens hreact notice listener attended
      rw [Act.each_cons, Act.then_state]
      have hrest := ih (call react notice listener attended).state fun other hother =>
        hlistens.getElem? (hlisteners other (List.mem_cons_of_mem listener hother))
      exact hcall.trans hrest (each_listens hreact notice rest _)

theorem noted_after (hreact : react.Commanding) (hnotes : react.Notes log) (step : Step P L)
    (attended : Attended P L X) : Noted log attended (attended.after react step) := by
  cases step with
  | event event =>
      rcases Act.exists_ok (handle event) attended.player with ⟨announced, hannounced⟩
      rw [after, handleEvent_state react hannounced]
      cases announced with
      | none =>
          exact noted_unchanged rfl rfl
      | some notice =>
          apply each_noted hreact hnotes
          intro listener hlistener
          have hplace := List.mem_zipIdx_iff_getElem?.mp hlistener
          cases notice <;> exact hplace
  | _ =>
      exact noted_unchanged rfl rfl

/-- Listeners that note their calls note all that is on record, and nothing else. -/
theorem noted_run (hreact : react.Commanding) (hnotes : react.Notes log)
    (steps : List (Step P L)) :
    forall attended : Attended P L X, Noted log attended (attended.run react steps) := by
  induction steps with
  | nil =>
      intro attended
      exact noted_unchanged rfl rfl
  | cons step rest ih =>
      intro attended
      exact (noted_after hreact hnotes step attended).trans (ih _) (listens_run hreact rest _)

end Attended
end Player
end UpnpAv
