import UpnpAv.Proofs.StateTable.Written
import UpnpAv.StateTable.Watched

/-!
# What watchers hear

A watcher is told of every change that is made after its registration, once and
in order, and of nothing else.  So what it heard about one variable leads from
the value that this had at the registration to the present one.
-/

namespace UpnpAv
namespace WatchedTable

/-!
# Histories
-/

/-- What a watcher was told, the earliest first. -/
def heard (watched : WatchedTable) (watcher : Nat) : List Change :=
  (watched.told.filter fun told => told.watcher == watcher).map Told.change

/-- The change that a step makes: that of a set which is answered with true. -/
def change? (watched : WatchedTable) : Step -> Option Change
  | .watch _ => none
  | .set id value =>
      match (watched.set id value).1, watched.table.slots[id]? with
      | .ok true, some slot =>
          some ⟨id, slot.declared.name, slot.value, value, slot.declared.evented⟩
      | _, _ => none

/-- The changes that a run makes. -/
def changes (watched : WatchedTable) : List Step -> List Change
  | [] => []
  | step :: rest => (watched.change? step).toList ++ (watched.after step).changes rest

/-- The changes that a run makes to one variable. -/
def changesOf (id : VariableId) (changes : List Change) : List Change :=
  changes.filter fun change => change.id == id

/-- Changes that lead from a value to another one, each from where the one before it led. -/
inductive Leads : String -> List Change -> String -> Prop where
  | here (value : String) : Leads value [] value
  | change {change : Change} {rest : List Change} {last : String} :
      change.oldValue ≠ change.newValue -> Leads change.newValue rest last ->
      Leads change.oldValue (change :: rest) last

theorem changesOf_append (id : VariableId) (first second : List Change) :
    changesOf id (first ++ second) = changesOf id first ++ changesOf id second :=
  List.filter_append ..

/-!
# Assigning
-/

/-- The watched table after a new value was assigned and told. -/
def assigned (watched : WatchedTable) (id : VariableId) (slot : Slot) (value : String) :
    WatchedTable :=
  { watched with
    table := watched.table.written id value
    told := watched.told ++ watched.callsFor
      ⟨id, slot.declared.name, slot.value, value, slot.declared.evented⟩ }

/-- Everything that a set can do. -/
theorem set_cases (watched : WatchedTable) (id : VariableId) (value : String) :
    (watched.table.slots[id]? = none ∧
      watched.set id value = (.error (.unknownVariable id), watched)) ∨
    (watched.table.get? id = some value ∧ watched.set id value = (.ok false, watched)) ∨
    (exists slot, watched.table.slots[id]? = some slot ∧ slot.value ≠ value ∧
      watched.set id value = (.ok true, watched.assigned id slot value)) := by
  rw [set]
  rcases watched.table.assign_cases id value with
    ⟨hunknown, hassign⟩ | ⟨hsame, hassign⟩ | ⟨slot, hslot, hnew, hassign⟩
  · rw [hassign]
    exact Or.inl ⟨hunknown, rfl⟩
  · rw [hassign]
    exact Or.inr (Or.inl ⟨hsame, rfl⟩)
  · rw [hassign]
    exact Or.inr (Or.inr ⟨slot, hslot, hnew, rfl⟩)

/-- What a step makes of a watched table, and the change that it makes. -/
inductive Stepped (watched : WatchedTable) : Step -> Option Change -> WatchedTable -> Prop where
  | kept (id : VariableId) (value : String) : Stepped watched (.set id value) none watched
  | assigned {id : VariableId} {slot : Slot} (value : String) :
      watched.table.slots[id]? = some slot -> slot.value ≠ value ->
      Stepped watched (.set id value)
        (some ⟨id, slot.declared.name, slot.value, value, slot.declared.evented⟩)
        (watched.assigned id slot value)
  | watched (tag : String) : Stepped watched (.watch tag) none (watched.watch tag)

theorem stepped (watched : WatchedTable) (step : Step) :
    watched.Stepped step (watched.change? step) (watched.after step) := by
  cases step with
  | watch tag =>
      exact Stepped.watched tag
  | set id value =>
      rw [change?, after]
      rcases watched.set_cases id value with
        ⟨_, hset⟩ | ⟨_, hset⟩ | ⟨slot, hslot, hnew, hset⟩
      · rw [hset]
        exact Stepped.kept id value
      · rw [hset]
        exact Stepped.kept id value
      · rw [hset, hslot]
        exact Stepped.assigned value hslot hnew

theorem declared_after (watched : WatchedTable) (step : Step) :
    (watched.after step).table.declared = watched.table.declared := by
  have hstepped := watched.stepped step
  generalize watched.change? step = change, watched.after step = next at hstepped
  cases hstepped with
  | kept id value =>
      rfl
  | assigned value hslot hnew =>
      exact StateTable.declared_written _ _ _
  | watched tag =>
      rfl

theorem declared_run (steps : List Step) :
    forall watched : WatchedTable,
      (watched.run steps).table.declared = watched.table.declared := by
  induction steps with
  | nil =>
      intro watched
      rfl
  | cons step rest ih =>
      intro watched
      rw [run_cons, ih, declared_after]

/-!
# Calls
-/

/-- Every watcher is called once for a change. -/
theorem filter_callsFor (watched : WatchedTable) (change : Change) (watcher : Nat) :
    (watched.callsFor change).filter (fun told => told.watcher == watcher) =
      if watcher < watched.watchers.length then [⟨watcher, change⟩] else [] := by
  rw [callsFor, List.filter_map]
  show ((List.range watched.watchers.length).filter fun place => place == watcher).map _ = _
  rw [List.filter_beq, List.count_range]
  split <;> rfl

theorem length_watchers_after (watched : WatchedTable) (step : Step) :
    watched.watchers.length ≤ (watched.after step).watchers.length := by
  have hstepped := watched.stepped step
  generalize watched.change? step = change, watched.after step = next at hstepped
  cases hstepped with
  | kept id value =>
      exact Nat.le_refl _
  | assigned value hslot hnew =>
      exact Nat.le_refl _
  | watched tag =>
      rw [watch, List.length_append]
      exact Nat.le_add_right _ _

theorem length_watchers_run (steps : List Step) :
    forall watched : WatchedTable,
      watched.watchers.length ≤ (watched.run steps).watchers.length := by
  induction steps with
  | nil =>
      intro watched
      exact Nat.le_refl _
  | cons step rest ih =>
      intro watched
      exact Nat.le_trans (watched.length_watchers_after step) (ih _)

/-- A watcher hears the change that a step makes, if it was registered before. -/
theorem heard_after (watched : WatchedTable) (step : Step) (watcher : Nat) :
    (watched.after step).heard watcher =
      watched.heard watcher ++
        if watcher < watched.watchers.length then (watched.change? step).toList else [] := by
  have hstepped := watched.stepped step
  generalize watched.change? step = change, watched.after step = next at hstepped ⊢
  cases hstepped with
  | kept id value =>
      simp
  | assigned value hslot hnew =>
      rw [heard, assigned, List.filter_append, List.map_append, filter_callsFor]
      split <;> rfl
  | watched tag =>
      simp [heard, watch]

theorem heard_run (steps : List Step) :
    forall {watched : WatchedTable} {watcher : Nat}, watcher < watched.watchers.length ->
      (watched.run steps).heard watcher = watched.heard watcher ++ watched.changes steps := by
  induction steps with
  | nil =>
      intro watched watcher _
      exact (List.append_nil _).symm
  | cons step rest ih =>
      intro watched watcher hwatcher
      have hkept := Nat.lt_of_lt_of_le hwatcher (watched.length_watchers_after step)
      rw [run_cons, ih hkept, heard_after, if_pos hwatcher, changes, List.append_assoc]

/-- Nobody hears anything before the registration. -/
theorem heard_run_unregistered (steps : List Step) :
    forall (watched : WatchedTable) {watcher : Nat},
      (watched.run steps).watchers.length ≤ watcher ->
        (watched.run steps).heard watcher = watched.heard watcher := by
  induction steps with
  | nil =>
      intro watched watcher _
      rfl
  | cons step rest ih =>
      intro watched watcher hlater
      have hbefore : watched.watchers.length ≤ watcher :=
        Nat.le_trans (watched.length_watchers_run (step :: rest)) hlater
      rw [run_cons] at hlater ⊢
      rw [ih _ hlater, heard_after, if_neg (Nat.not_lt.mpr hbefore), List.append_nil]

/-!
# Values
-/

theorem Leads.single (change : Change) (hnew : change.oldValue ≠ change.newValue) :
    Leads change.oldValue [change] change.newValue :=
  Leads.change hnew (Leads.here change.newValue)

theorem leads_append {first middle last : String} {earlier later : List Change}
    (hearlier : Leads first earlier middle) (hlater : Leads middle later last) :
    Leads first (earlier ++ later) last := by
  induction hearlier with
  | here value =>
      exact hlater
  | change hnew _ ih =>
      exact Leads.change hnew (ih hlater)

/-- A step leads the value of every variable to its next one. -/
theorem leads_after {watched : WatchedTable} {id : VariableId} {first : String}
    (hfirst : watched.table.get? id = some first) (step : Step) :
    exists next, (watched.after step).table.get? id = some next ∧
      Leads first (changesOf id (watched.change? step).toList) next := by
  have hstepped := watched.stepped step
  generalize watched.change? step = change, watched.after step = next at hstepped ⊢
  cases hstepped with
  | kept other value =>
      exact ⟨first, hfirst, Leads.here first⟩
  | watched tag =>
      exact ⟨first, hfirst, Leads.here first⟩
  | @assigned other slot value hslot hnew =>
      by_cases hother : other = id
      · subst hother
        have hvalue : slot.value = first := by
          rw [StateTable.get?, hslot] at hfirst
          exact Option.some.inj hfirst
        refine ⟨value, ?_, ?_⟩
        · exact StateTable.get?_written_same value (List.getElem?_eq_some_iff.mp hslot).1
        · subst hvalue
          simp only [changesOf, Option.toList, List.filter_cons, beq_self_eq_true, if_true]
          exact Leads.single ⟨other, _, slot.value, value, _⟩ hnew
      · refine ⟨first, ?_, ?_⟩
        · exact (StateTable.get?_written_other value hother).trans hfirst
        · simp only [changesOf, Option.toList, List.filter_cons, beq_iff_eq, hother, if_false]
          exact Leads.here first

theorem leads_run (steps : List Step) :
    forall {watched : WatchedTable} {id : VariableId} {first : String},
      watched.table.get? id = some first ->
        exists last, (watched.run steps).table.get? id = some last ∧
          Leads first (changesOf id (watched.changes steps)) last := by
  induction steps with
  | nil =>
      intro watched id first hfirst
      exact ⟨first, hfirst, Leads.here first⟩
  | cons step rest ih =>
      intro watched id first hfirst
      rcases leads_after hfirst step with ⟨middle, hmiddle, hstep⟩
      rcases ih hmiddle with ⟨last, hlast, hrest⟩
      refine ⟨last, hlast, ?_⟩
      rw [changes, changesOf_append]
      exact leads_append hstep hrest

/-!
# Watchers of a table
-/

/-- A table that a run leads to still has the variables that were declared. -/
theorem declared_eq (declared : List Variable) (steps : List Step) :
    ((ofVariables declared).run steps).table.declared = declared := by
  rw [declared_run]
  exact (List.map_map ..).trans (List.map_id declared)

/--
Whoever is registered at some moment is told of the changes that sets make from
then on, once each and in order, and of nothing else.  What it heard about one
variable leads from the value at the registration to the present one.  A set
that is answered with true tells all watchers in the order of registration, any
other set changes nothing, and no set changes another variable.
-/
theorem watcher_hears_every_change (declared : List Variable) (earlier later : List Step)
    (tag : String) :
    let before := (ofVariables declared).run earlier
    let registered := before.watch tag
    let now := registered.run later
    let heard := now.heard before.watchers.length
    heard = registered.changes later ∧
    (forall id v, declared[id]? = some v ->
      exists first last, registered.table.get? id = some first ∧
        now.table.get? id = some last ∧ Leads first (changesOf id heard) last) ∧
    forall id value,
      let answer := (now.set id value).1
      let next := (now.set id value).2
      (answer = .ok true -> exists v old,
        let change : Change := ⟨id, v.name, old, value, v.evented⟩
        declared[id]? = some v ∧ now.table.get? id = some old ∧ old ≠ value ∧
        next.table.get? id = some value ∧
        now.change? (.set id value) = some change ∧
        next.told = now.told ++ (List.range now.watchers.length).map fun place =>
          ⟨place, change⟩) ∧
      (answer = .ok false -> now.table.get? id = some value ∧
        next = now ∧ now.change? (.set id value) = none) ∧
      (forall e, answer = .error e -> declared[id]? = none ∧ e = .unknownVariable id ∧
        next = now ∧ now.change? (.set id value) = none) ∧
      forall other, other ≠ id -> next.table.get? other = now.table.get? other := by
  intro before registered now heard
  have hdeclared : now.table.declared = declared := by
    rw [declared_run]
    exact declared_eq declared earlier
  have hplace : before.watchers.length < registered.watchers.length := by
    show before.watchers.length < (before.watchers ++ [tag]).length
    rw [List.length_append]
    exact Nat.lt_succ_self _
  have hnone : registered.heard before.watchers.length = [] :=
    heard_run_unregistered earlier (ofVariables declared) (Nat.le_refl _)
  have hheard : heard = registered.changes later := by
    show now.heard _ = _
    rw [heard_run later hplace, hnone, List.nil_append]
  refine ⟨hheard, ?_, ?_⟩
  · intro id v hv
    rw [hheard]
    have hslot := StateTable.exists_slot (declared_eq declared earlier ▸ hv)
    rcases hslot with ⟨slot, hslot, _⟩
    have hfirst : registered.table.get? id = some slot.value := by
      show before.table.get? id = some slot.value
      rw [StateTable.get?, hslot]
      rfl
    rcases leads_run later hfirst with ⟨last, hlast, hleads⟩
    exact ⟨slot.value, last, hfirst, hlast, hleads⟩
  · intro id value answer next
    have hv := now.table.getElem?_declared id
    rw [hdeclared] at hv
    rcases now.set_cases id value with
      ⟨hslot, hset⟩ | ⟨hsame, hset⟩ | ⟨slot, hslot, hnew, hset⟩
    · rw [hslot] at hv
      simp [answer, next, hset, change?, hv]
    · simp [answer, next, hset, change?, hsame]
    · rw [hslot] at hv
      have hold : now.table.get? id = some slot.value := by
        rw [StateTable.get?, hslot]
        rfl
      have hstate : next = now.assigned id slot value := congrArg Prod.snd hset
      rw [show answer = .ok true from congrArg Prod.fst hset, hstate]
      refine ⟨fun _ => ⟨slot.declared, slot.value, hv, hold, hnew, ?_, ?_, rfl⟩, ?_, ?_, ?_⟩
      · exact StateTable.get?_written_same value (List.getElem?_eq_some_iff.mp hslot).1
      · rw [change?, hset, hslot]
      · intro hfalse
        cases hfalse
      · intro e herror
        cases herror
      · intro other hother
        exact StateTable.get?_written_other value (Ne.symm hother)

end WatchedTable
end UpnpAv
