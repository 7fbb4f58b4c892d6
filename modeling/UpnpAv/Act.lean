import UpnpAv.Journal

/-!
# Acts

An act works on a state, may fail, and writes log lines.  A failure keeps the
state that was reached before it: a media pipeline that refuses a command has
still received it.  The equations at the end say what the outcome of each
combinator is.
-/

namespace UpnpAv

/-- What an act leaves: its result, the state it reached and the lines it wrote. -/
structure Outcome (σ ε α : Type) where
  result : Except ε α
  state : σ
  lines : List Line

/-- An act on states `σ` that fails with `ε` or answers `α`. -/
def Act (σ ε α : Type) : Type :=
  σ -> Outcome σ ε α

namespace Act

variable {σ τ ε δ α β : Type}

/-! # Sequencing -/

/-- Carry out `m`, then `next` on its answer.  A failure of `m` is the failure of both. -/
def bind (m : Act σ ε α) (next : α -> Act σ ε β) : Act σ ε β := fun s =>
  match m s with
  | ⟨.error e, reached, lines⟩ => ⟨.error e, reached, lines⟩
  | ⟨.ok a, reached, lines⟩ =>
      let rest := next a reached
      ⟨rest.result, rest.state, lines ++ rest.lines⟩

instance : Monad (Act σ ε) where
  pure a := fun s => ⟨.ok a, s, []⟩
  bind := bind

/-! # Single acts -/

/-- The present state. -/
def read : Act σ ε σ := fun s =>
  ⟨.ok s, s, []⟩

/-- Replace the state by its image under `f`. -/
def modify (f : σ -> σ) : Act σ ε Unit := fun s =>
  ⟨.ok (), f s, []⟩

/-- Fail with `e`. -/
def fail (e : ε) : Act σ ε α := fun s =>
  ⟨.error e, s, []⟩

/-- Write one log line. -/
def log (line : Line) : Act σ ε Unit := fun s =>
  ⟨.ok (), s, [line]⟩

/-- Write several log lines. -/
def logAll (lines : List Line) : Act σ ε Unit := fun s =>
  ⟨.ok (), s, lines⟩

/-- Answer or fail as a computed result says. -/
def ofExcept (result : Except ε α) : Act σ ε α := fun s =>
  ⟨result, s, []⟩

/-! # Changing the frame -/

/-- Carry out an act on a part of the state. -/
def zoom (view : τ -> σ) (put : σ -> τ -> τ) (m : Act σ ε α) : Act τ ε α := fun t =>
  let done := m (view t)
  ⟨done.result, put done.state t, done.lines⟩

/-- Rename the failures of an act. -/
def mapError (f : ε -> δ) (m : Act σ ε α) : Act σ δ α := fun s =>
  let done := m s
  ⟨done.result.mapError f, done.state, done.lines⟩

/-- Turn a failure into an answer. -/
def attempt (m : Act σ ε α) : Act σ δ (Except ε α) := fun s =>
  let done := m s
  ⟨.ok done.result, done.state, done.lines⟩

/-- An act that cannot fail, used where others may. -/
def safely (m : Act σ Empty α) : Act σ ε α :=
  m.mapError Empty.elim

/-! # Lists of acts -/

/-- Carry out `f` on the members of a list in order, stopping at the first failure. -/
def each (f : α -> Act σ ε Unit) : List α -> Act σ ε Unit
  | [] => pure ()
  | a :: rest => do
      f a
      each f rest

/-- Carry out `f` on the members of a list in order and collect the answers. -/
def collect (f : α -> Act σ ε β) : List α -> Act σ ε (List β)
  | [] => pure []
  | a :: rest => do
      let b ← f a
      let more ← collect f rest
      pure (b :: more)

/-! # Outcomes -/

@[simp] theorem pure_apply (a : α) (s : σ) :
    (pure a : Act σ ε α) s = ⟨.ok a, s, []⟩ :=
  rfl

@[simp] theorem read_apply (s : σ) : (read : Act σ ε σ) s = ⟨.ok s, s, []⟩ :=
  rfl

@[simp] theorem modify_apply (f : σ -> σ) (s : σ) :
    (modify f : Act σ ε Unit) s = ⟨.ok (), f s, []⟩ :=
  rfl

@[simp] theorem fail_apply (e : ε) (s : σ) :
    (fail e : Act σ ε α) s = ⟨.error e, s, []⟩ :=
  rfl

@[simp] theorem log_apply (line : Line) (s : σ) :
    (log line : Act σ ε Unit) s = ⟨.ok (), s, [line]⟩ :=
  rfl

theorem bind_apply_ok {m : Act σ ε α} {next : α -> Act σ ε β} {s t : σ} {a : α}
    {lines : List Line} (done : m s = ⟨.ok a, t, lines⟩) :
    (m >>= next) s =
      ⟨(next a t).result, (next a t).state, lines ++ (next a t).lines⟩ := by
  show bind m next s = _
  simp [bind, done]

theorem bind_apply_error {m : Act σ ε α} {next : α -> Act σ ε β} {s t : σ} {e : ε}
    {lines : List Line} (done : m s = ⟨.error e, t, lines⟩) :
    (m >>= next) s = ⟨.error e, t, lines⟩ := by
  show bind m next s = _
  simp [bind, done]

@[simp] theorem zoom_apply (view : τ -> σ) (put : σ -> τ -> τ) (m : Act σ ε α) (t : τ) :
    zoom view put m t = ⟨(m (view t)).result, put (m (view t)).state t, (m (view t)).lines⟩ :=
  rfl

@[simp] theorem attempt_apply (m : Act σ ε α) (s : σ) :
    (attempt m : Act σ δ (Except ε α)) s = ⟨.ok (m s).result, (m s).state, (m s).lines⟩ :=
  rfl

end Act
end UpnpAv
