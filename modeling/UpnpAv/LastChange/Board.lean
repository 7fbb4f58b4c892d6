import UpnpAv.LastChange.Reporter

/-!
# A state table with several reporters

Reporters are attached to one table at any time and see every later change.
Each has its own transaction; the transactions of different reporters overlap
in any way.
-/

namespace UpnpAv

/-- A state table and the reporters attached to it, in the order of attachment. -/
structure Board where
  table : StateTable
  reporters : List Reporter
deriving Repr, DecidableEq

namespace Board

variable {ε α : Type}

/-- A table without reporters. -/
def ofVariables (declared : List Variable) : Board :=
  ⟨StateTable.ofVariables declared, []⟩

/-- Attach a reporter.  It sees the changes from now on. -/
def attach (board : Board) (space : String) (recipient : Recipient) : Board :=
  { board with reporters := board.reporters ++ [.attached space recipient] }

/-- The reporter at a place; one that nobody attached when the place is empty. -/
def reporter (board : Board) (place : Nat) : Reporter :=
  board.reporters.getD place (.attached "" .function)

/-- Carry out an act on the reporter at a place. -/
def onReporter (place : Nat) (m : Act Reporter ε α) : Act Board ε α :=
  Act.zoom (fun board => board.reporter place)
    (fun reporter board => { board with reporters := board.reporters.set place reporter }) m

/-- Tell a change to every reporter in the order of attachment. -/
def tell (change : Change) : List Reporter -> List Reporter × List Line
  | [] => ([], [])
  | reporter :: rest =>
      let seen := (Reporter.observe change : Act Reporter Empty Unit) reporter
      let (others, lines) := tell change rest
      (seen.state :: others, seen.lines ++ lines)

/-- Assign a value and tell the reporters.  Answers whether the value was a new one. -/
def set (id : VariableId) (value : String) : Act Board StateTable.Error Bool := do
  let board ← Act.read
  match board.table.assign id value with
  | .error e => Act.fail e
  | .ok (_, none) => pure false
  | .ok (table, some change) =>
      let (reporters, lines) := tell change board.reporters
      Act.modify fun _ => ⟨table, reporters⟩
      Act.logAll lines
      pure true

/-- Open a transaction of one reporter. -/
def start (place : Nat) : Act Board Reporter.Error Unit :=
  onReporter place Reporter.start

/-- Close the transaction of one reporter. -/
def commit (place : Nat) : Act Board Reporter.Error Unit :=
  onReporter place Reporter.commit

/--
Carry out a body inside a transaction of one reporter.  The commit happens also
after a failing body, and a failing commit hides the result of the body.
-/
def transaction (place : Nat) (body : Act Board Reporter.Error α) :
    Act Board Reporter.Error α := do
  start place
  let result ← Act.attempt body
  commit place
  Act.ofExcept result

/-- The body of a transaction: assignments, perhaps an early commit, perhaps a failure. -/
structure Body where
  sets : List (VariableId × String)
  commits : Bool
  failure : Option String
deriving Repr, DecidableEq

/-- Carry out a body.  Answers which of the values were new ones. -/
def Body.act (place : Nat) (body : Body) : Act Board Reporter.Error (List Bool) := do
  let answers ← Act.collect (fun (id, value) => (set id value).mapError .table) body.sets
  if body.commits then
    commit place
  match body.failure with
  | some reason => Act.fail (.refused reason)
  | none => pure answers

/-- The documents that reached each recipient since an earlier state of the board. -/
def received (board earlier : Board) : List (List Delivery) :=
  board.reporters.zipIdx.map fun (reporter, place) =>
    reporter.received (earlier.reporter place).sent.length

/-! # Runs -/

/-- One step in the life of a board. -/
inductive Step where
  | set (id : VariableId) (value : String)
  | attach (space : String) (recipient : Recipient)
  | start (place : Nat)
  | commit (place : Nat)
  | transaction (place : Nat) (body : Body)
deriving Repr, DecidableEq

/-- Carry out one step and keep its failure to itself. -/
def after (board : Board) : Step -> Board
  | .set id value => (set id value board).state
  | .attach space recipient => board.attach space recipient
  | .start place => (start place board).state
  | .commit place => (commit place board).state
  | .transaction place body => (transaction place (body.act place) board).state

/-- The board after a list of steps. -/
def run (board : Board) (steps : List Step) : Board :=
  steps.foldl after board

@[simp] theorem run_nil (board : Board) : board.run [] = board :=
  rfl

@[simp] theorem run_cons (board : Board) (step : Step) (rest : List Step) :
    board.run (step :: rest) = (board.after step).run rest :=
  rfl

theorem run_append (board : Board) (first second : List Step) :
    board.run (first ++ second) = (board.run first).run second := by
  simp [run, List.foldl_append]

end Board
end UpnpAv
