import UpnpAv.StateTable.Basic

/-!
# Watched state tables

Watchers are registered on a table and stay for its lifetime.  Each change is
told to every watcher in the order of registration; what was told to whom is
kept as a record.
-/

namespace UpnpAv

/-- A change as it was told to one watcher. -/
structure Told where
  /-- The place of the watcher in the order of registration. -/
  watcher : Nat
  change : Change
deriving Repr, DecidableEq

/-- A state table, the tags of its watchers and everything they were told. -/
structure WatchedTable where
  table : StateTable
  watchers : List String
  told : List Told
deriving Repr, DecidableEq

namespace WatchedTable

/-- A table without watchers. -/
def ofVariables (declared : List Variable) : WatchedTable :=
  ⟨StateTable.ofVariables declared, [], []⟩

/-- Register one more watcher. -/
def watch (watched : WatchedTable) (tag : String) : WatchedTable :=
  { watched with watchers := watched.watchers ++ [tag] }

/-- What the present watchers are told about a change, in the order of the calls. -/
def callsFor (watched : WatchedTable) (change : Change) : List Told :=
  (List.range watched.watchers.length).map fun watcher => ⟨watcher, change⟩

/-- Assign a value and tell the watchers.  Answers whether the value was a new one. -/
def set (watched : WatchedTable) (id : VariableId) (value : String) :
    Except StateTable.Error Bool × WatchedTable :=
  match watched.table.assign id value with
  | .error e => (.error e, watched)
  | .ok (table, none) => (.ok false, { watched with table := table })
  | .ok (table, some change) =>
      (.ok true,
        { watched with
          table := table
          told := watched.told ++ watched.callsFor change })

/-- The text that describes a table by its sizes. -/
def describe (watched : WatchedTable) : String :=
  s!"VariableContainer \x7b variable_count: {watched.table.size}, listener_count: " ++
    s!"{watched.watchers.length} \x7d"

/-! # Runs -/

/-- One step in the life of a watched table. -/
inductive Step where
  | set (id : VariableId) (value : String)
  | watch (tag : String)
deriving Repr, DecidableEq

/-- The table after one step. -/
def after (watched : WatchedTable) : Step -> WatchedTable
  | .set id value => (watched.set id value).2
  | .watch tag => watched.watch tag

/-- The table after a list of steps. -/
def run (watched : WatchedTable) (steps : List Step) : WatchedTable :=
  steps.foldl after watched

@[simp] theorem run_nil (watched : WatchedTable) : watched.run [] = watched :=
  rfl

@[simp] theorem run_cons (watched : WatchedTable) (step : Step) (rest : List Step) :
    watched.run (step :: rest) = (watched.after step).run rest :=
  rfl

theorem run_append (watched : WatchedTable) (first second : List Step) :
    watched.run (first ++ second) = (watched.run first).run second := by
  simp [run, List.foldl_append]

end WatchedTable
end UpnpAv
