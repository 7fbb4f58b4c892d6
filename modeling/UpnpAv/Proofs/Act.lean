import UpnpAv.Act

/-!
# Results and states of acts

What a composed act answers, and the state it leaves, are read off the results
and states of its parts.  The lines it writes are left aside.
-/

namespace UpnpAv
namespace Act

variable {σ τ ε δ α β : Type}

/-!
# Sequencing
-/

theorem bind_result (m : Act σ ε α) (next : α -> Act σ ε β) (s : σ) :
    ((m >>= next) s).result =
      match (m s).result with
      | .error e => .error e
      | .ok a => (next a (m s).state).result := by
  show (bind m next s).result = _
  unfold bind
  cases hdone : m s with
  | mk result reached lines =>
      cases result <;> rfl

theorem bind_state (m : Act σ ε α) (next : α -> Act σ ε β) (s : σ) :
    ((m >>= next) s).state =
      match (m s).result with
      | .error _ => (m s).state
      | .ok a => (next a (m s).state).state := by
  show (bind m next s).state = _
  unfold bind
  cases hdone : m s with
  | mk result reached lines =>
      cases result <;> rfl

theorem map_state (f : α -> β) (m : Act σ ε α) (s : σ) :
    ((f <$> m) s).state = (m s).state := by
  show ((m >>= fun a => pure (f a)) s).state = _
  rw [bind_state]
  cases (m s).result <;> rfl

/-- Answering something else leaves the state alone. -/
theorem then_pure_state (m : Act σ ε α) (b : β) (s : σ) :
    ((m >>= fun _ => pure b) s).state = (m s).state := by
  rw [bind_state]
  cases (m s).result <;> rfl

/-- Answering something else does not change whether an act answers. -/
theorem then_pure_isOk (m : Act σ ε α) (b : β) (s : σ) :
    ((m >>= fun _ => pure b) s).result.isOk = (m s).result.isOk := by
  rw [bind_result]
  cases (m s).result <;> rfl

theorem map_isOk (f : α -> β) (m : Act σ ε α) (s : σ) :
    ((f <$> m) s).result.isOk = (m s).result.isOk := by
  show ((m >>= fun a => pure (f a)) s).result.isOk = _
  rw [bind_result]
  cases (m s).result <;> rfl

/-!
# Single acts
-/

@[simp] theorem logAll_apply (lines : List Line) (s : σ) :
    (logAll lines : Act σ ε Unit) s = ⟨.ok (), s, lines⟩ :=
  rfl

@[simp] theorem ofExcept_apply (result : Except ε α) (s : σ) :
    (ofExcept result : Act σ ε α) s = ⟨result, s, []⟩ :=
  rfl

/-- An act that cannot fail answers. -/
theorem exists_ok (m : Act σ Empty α) (s : σ) : exists a, (m s).result = .ok a := by
  cases hresult : (m s).result with
  | error e =>
      exact e.elim
  | ok a =>
      exact ⟨a, rfl⟩

/-- After an act that cannot fail the next one is carried out. -/
theorem then_state (m : Act σ Empty Unit) (next : Act σ Empty β) (s : σ) :
    ((m >>= fun _ => next) s).state = (next (m s).state).state := by
  rcases exists_ok m s with ⟨done, hdone⟩
  rw [bind_state, hdone]

theorem safely_ok (m : Act σ Empty α) (s : σ) :
    exists a, ((safely m : Act σ ε α) s).result = .ok a := by
  rcases exists_ok m s with ⟨a, ha⟩
  refine ⟨a, ?_⟩
  show (m s).result.mapError Empty.elim = .ok a
  rw [ha]
  rfl

/-!
# Lists of acts
-/

theorem each_cons (f : α -> Act σ ε Unit) (a : α) (rest : List α) :
    each f (a :: rest) = (f a >>= fun _ => each f rest) :=
  rfl

/-- What every member of a list keeps is kept by the whole list. -/
theorem each_keeps {P : σ -> Prop} {f : α -> Act σ ε Unit} :
    forall {members : List α},
      (forall a, a ∈ members -> forall s, P s -> P (f a s).state) ->
        forall s, P s -> P (each f members s).state := by
  intro members
  induction members with
  | nil =>
      intro _ s hs
      exact hs
  | cons a rest ih =>
      intro hkeeps s hs
      have hfirst := hkeeps a List.mem_cons_self s hs
      rw [each_cons, bind_state]
      cases (f a s).result with
      | error e =>
          exact hfirst
      | ok done =>
          exact ih (fun b hb => hkeeps b (List.mem_cons_of_mem a hb)) _ hfirst

/-- What every member of a list keeps is kept when their answers are collected. -/
theorem collect_keeps {P : σ -> Prop} {f : α -> Act σ ε β} :
    forall {members : List α},
      (forall a, a ∈ members -> forall s, P s -> P (f a s).state) ->
        forall s, P s -> P (collect f members s).state := by
  intro members
  induction members with
  | nil =>
      intro _ s hs
      exact hs
  | cons a rest ih =>
      intro hkeeps s hs
      have hfirst := hkeeps a List.mem_cons_self s hs
      rw [collect, bind_state]
      cases (f a s).result with
      | error e =>
          exact hfirst
      | ok b =>
          have hrest := ih (fun c hc => hkeeps c (List.mem_cons_of_mem a hc)) _ hfirst
          show P ((collect f rest >>= fun more => pure (b :: more)) (f a s).state).state
          rw [bind_state]
          cases (collect f rest (f a s).state).result <;> exact hrest

/-!
# Kept properties and certain answers
-/

/-- An act keeps a property, whether it answers or fails. -/
def Keeps (m : Act σ ε α) (I : σ -> Prop) : Prop :=
  forall s, I s -> I (m s).state

/-- An act answers from every state with a property, and leaves another one. -/
def Answers (pre : σ -> Prop) (m : Act σ ε α) (post : α -> σ -> Prop) : Prop :=
  forall s, pre s -> exists a, (m s).result = .ok a ∧ post a (m s).state

theorem Keeps.bind {I : σ -> Prop} {m : Act σ ε α} {next : α -> Act σ ε β}
    (hm : m.Keeps I) (hnext : forall a, (next a).Keeps I) : (m >>= next).Keeps I := by
  intro s hs
  have hfirst := hm s hs
  rw [bind_state]
  cases (m s).result with
  | error e =>
      exact hfirst
  | ok a =>
      exact hnext a _ hfirst

theorem Keeps.read {I : σ -> Prop} {next : σ -> Act σ ε β}
    (hnext : forall seen, (next seen).Keeps I) : (Act.read >>= next).Keeps I := by
  intro s hs
  rw [bind_state]
  exact hnext s s hs

theorem Answers.bind {pre : σ -> Prop} {mid : α -> σ -> Prop} {post : β -> σ -> Prop}
    {m : Act σ ε α} {next : α -> Act σ ε β} (hm : Answers pre m mid)
    (hnext : forall a, Answers (mid a) (next a) post) : Answers pre (m >>= next) post := by
  intro s hs
  rcases hm s hs with ⟨a, ha, hmid⟩
  rw [bind_result, bind_state, ha]
  exact hnext a _ hmid

/-!
# Acts that agree

Two acts may do the same to different states, as far as a relation between the
states can tell.
-/

/-- From related states two acts have the same result and leave related states. -/
def Agree (R : σ -> τ -> Prop) (m : Act σ ε α) (n : Act τ ε α) : Prop :=
  forall s t, R s t -> (m s).result = (n t).result ∧ R (m s).state (n t).state

section

variable {R : σ -> τ -> Prop}

theorem Agree.bind {m : Act σ ε α} {n : Act τ ε α} {next : α -> Act σ ε β}
    {other : α -> Act τ ε β} (hfirst : Agree R m n)
    (hnext : forall a, Agree R (next a) (other a)) : Agree R (m >>= next) (n >>= other) := by
  intro s t hst
  rcases hfirst s t hst with ⟨hresult, hstate⟩
  rw [bind_result, bind_result, bind_state, bind_state, ← hresult]
  cases (m s).result with
  | error e =>
      exact ⟨rfl, hstate⟩
  | ok a =>
      exact hnext a _ _ hstate

theorem Agree.read {next : σ -> Act σ ε β} {other : τ -> Act τ ε β}
    (hnext : forall s t, R s t -> Agree R (next s) (other t)) :
    Agree R (Act.read >>= next) (Act.read >>= other) := by
  intro s t hst
  rw [bind_result, bind_result, bind_state, bind_state]
  exact hnext s t hst s t hst

theorem Agree.ofExcept (result : Except ε α) :
    Agree R (Act.ofExcept result) (Act.ofExcept result) := by
  intro s t hst
  exact ⟨rfl, hst⟩

theorem Agree.fail (e : ε) : Agree R (Act.fail e : Act σ ε α) (Act.fail e) :=
  Agree.ofExcept (.error e)

theorem Agree.log (line : Line) : Agree R (Act.log line : Act σ ε Unit) (Act.log line) := by
  intro s t hst
  exact ⟨rfl, hst⟩

theorem Agree.logAll (lines : List Line) :
    Agree R (Act.logAll lines : Act σ ε Unit) (Act.logAll lines) := by
  intro s t hst
  exact ⟨rfl, hst⟩

theorem Agree.modify {f : σ -> σ} {g : τ -> τ} (hmodify : forall s t, R s t -> R (f s) (g t)) :
    Agree R (Act.modify f : Act σ ε Unit) (Act.modify g) := by
  intro s t hst
  exact ⟨rfl, hmodify s t hst⟩

theorem Agree.mapError {m : Act σ ε α} {n : Act τ ε α} (f : ε -> δ) (hagree : Agree R m n) :
    Agree R (m.mapError f) (n.mapError f) := by
  intro s t hst
  rcases hagree s t hst with ⟨hresult, hstate⟩
  exact ⟨congrArg (Except.mapError f) hresult, hstate⟩

theorem Agree.attempt {m : Act σ ε α} {n : Act τ ε α} (hagree : Agree R m n) :
    Agree R (m.attempt : Act σ δ (Except ε α)) n.attempt := by
  intro s t hst
  rcases hagree s t hst with ⟨hresult, hstate⟩
  exact ⟨congrArg Except.ok hresult, hstate⟩

/-- Answering something else agrees when the answer is the same. -/
theorem Agree.then_pure {m : Act σ ε α} {n : Act τ ε α} (hagree : Agree R m n)
    (f : α -> β) :
    Agree R (m >>= fun a => Pure.pure (f a)) (n >>= fun a => Pure.pure (f a)) := by
  refine hagree.bind ?_
  intro a
  exact Agree.ofExcept (.ok (f a))

theorem Agree.collect {f : α -> Act σ ε β} {g : α -> Act τ ε β}
    (hagree : forall a, Agree R (f a) (g a)) (members : List α) :
    Agree R (Act.collect f members) (Act.collect g members) := by
  induction members with
  | nil =>
      exact Agree.ofExcept (.ok [])
  | cons a rest ih =>
      refine (hagree a).bind ?_
      intro b
      refine ih.bind ?_
      intro more
      exact Agree.ofExcept (.ok (b :: more))

end

end Act
end UpnpAv
