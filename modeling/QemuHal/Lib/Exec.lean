import Mathlib.Data.List.Basic

/-!
# Post-conditions and runs of fault-stopping programs

A program is an `EStateM ε σ α`: it either returns a value in a new state or
stops on a fault `ε`, in the state it had reached. `Post` is its total
post-condition, one predicate for each way of ending. `run` executes a list of
operations in order, and `Meets` says that every operation of the list meets a
condition in the state it is executed in.
-/

namespace Exec

variable {ε σ α β : Type}

/-- `m`, started in `s`, returns in a state satisfying `Q` or stops on a fault
in a state satisfying `E`. -/
def Post (m : EStateM ε σ α) (s : σ) (Q : α → σ → Prop) (E : ε → σ → Prop) : Prop :=
  match m s with
  | .ok a s' => Q a s'
  | .error e s' => E e s'

/-! ## Rules -/

@[simp] theorem post_pure {a : α} {s : σ} {Q : α → σ → Prop} {E : ε → σ → Prop} :
    Post (pure a) s Q E ↔ Q a s := Iff.rfl

@[simp] theorem post_throw {e : ε} {s : σ} {Q : α → σ → Prop} {E : ε → σ → Prop} :
    Post (throw e) s Q E ↔ E e s := Iff.rfl

@[simp] theorem post_get {s : σ} {Q : σ → σ → Prop} {E : ε → σ → Prop} :
    Post get s Q E ↔ Q s s := Iff.rfl

@[simp] theorem post_set {s t : σ} {Q : PUnit → σ → Prop} {E : ε → σ → Prop} :
    Post (set t) s Q E ↔ Q ⟨⟩ t := Iff.rfl

@[simp] theorem post_modify {f : σ → σ} {s : σ} {Q : PUnit → σ → Prop}
    {E : ε → σ → Prop} : Post (modify f) s Q E ↔ Q ⟨⟩ (f s) := Iff.rfl

@[simp] theorem post_modifyGet {f : σ → α × σ} {s : σ} {Q : α → σ → Prop}
    {E : ε → σ → Prop} :
    Post (modifyGet f) s Q E ↔ Q (f s).1 (f s).2 := Iff.rfl

@[simp] theorem post_bind {m : EStateM ε σ α} {f : α → EStateM ε σ β} {s : σ}
    {Q : β → σ → Prop} {E : ε → σ → Prop} :
    Post (m >>= f) s Q E ↔ Post m s (fun a s' => Post (f a) s' Q E) E := by
  show (match (EStateM.bind m f) s with | .ok a s' => _ | .error e s' => _) ↔ _
  unfold EStateM.bind Post
  cases m s <;> rfl

@[simp] theorem post_map {m : EStateM ε σ α} {f : α → β} {s : σ}
    {Q : β → σ → Prop} {E : ε → σ → Prop} :
    Post (f <$> m) s Q E ↔ Post m s (fun a s' => Q (f a) s') E := by
  show (match (EStateM.map f m) s with | .ok a s' => _ | .error e s' => _) ↔ _
  unfold EStateM.map Post
  cases m s <;> rfl

theorem post_ite {c : Prop} [Decidable c] {m n : EStateM ε σ α} {s : σ} {Q : α → σ → Prop}
    {E : ε → σ → Prop} :
    Post (if c then m else n) s Q E ↔ if c then Post m s Q E else Post n s Q E := by
  split <;> exact Iff.rfl

theorem post_self (m : EStateM ε σ α) (s : σ) :
    Post m s (fun a s' => m s = .ok a s') (fun e s' => m s = .error e s') := by
  unfold Post
  split
  · next h => exact h
  · next h => exact h

/-- Executing a program up to a step that is known to return. -/
theorem bind_of_ok {m : EStateM ε σ α} {s s' : σ} {a : α} (h : m s = .ok a s')
    (f : α → EStateM ε σ β) : (m >>= f) s = f a s' := by
  show EStateM.bind m f s = _
  unfold EStateM.bind
  rw [h]

theorem bind_of_error {m : EStateM ε σ α} {s s' : σ} {e : ε} (h : m s = .error e s')
    (f : α → EStateM ε σ β) : (m >>= f) s = .error e s' := by
  show EStateM.bind m f s = _
  unfold EStateM.bind
  rw [h]

theorem map_of_ok {m : EStateM ε σ α} {s s' : σ} {a : α} (h : m s = .ok a s') (f : α → β) :
    (f <$> m) s = .ok (f a) s' := by
  show EStateM.map f m s = _
  unfold EStateM.map
  rw [h]

theorem get_bind (f : σ → EStateM ε σ β) (s : σ) : (get >>= f) s = f s s := rfl

theorem Post.mono {m : EStateM ε σ α} {s : σ} {Q Q' : α → σ → Prop}
    {E E' : ε → σ → Prop} (h : Post m s Q E)
    (hQ : ∀ a s', Q a s' → Q' a s') (hE : ∀ e s', E e s' → E' e s') :
    Post m s Q' E' := by
  unfold Post at h ⊢
  split at h
  · exact hQ _ _ h
  · exact hE _ _ h

theorem Post.and {m : EStateM ε σ α} {s : σ} {Q Q' : α → σ → Prop}
    {E E' : ε → σ → Prop} (h : Post m s Q E) (h' : Post m s Q' E') :
    Post m s (fun a t => Q a t ∧ Q' a t) (fun e t => E e t ∧ E' e t) := by
  unfold Post at h h' ⊢
  split at h <;> simp_all

/-- The rule for reading off one known ending. -/
theorem Post.of_ok {m : EStateM ε σ α} {s s' : σ} {a : α} {Q : α → σ → Prop}
    {E : ε → σ → Prop} (h : Post m s Q E) (hm : m s = .ok a s') : Q a s' := by
  unfold Post at h
  rwa [hm] at h

theorem Post.of_error {m : EStateM ε σ α} {s s' : σ} {e : ε} {Q : α → σ → Prop}
    {E : ε → σ → Prop} (h : Post m s Q E) (hm : m s = .error e s') : E e s' := by
  unfold Post at h
  rwa [hm] at h

theorem post_of_ok {m : EStateM ε σ α} {s s' : σ} {a : α} {Q : α → σ → Prop}
    {E : ε → σ → Prop} (hm : m s = .ok a s') (h : Q a s') : Post m s Q E := by
  unfold Post
  rw [hm]
  exact h

theorem post_of_error {m : EStateM ε σ α} {s s' : σ} {e : ε} {Q : α → σ → Prop}
    {E : ε → σ → Prop} (hm : m s = .error e s') (h : E e s') : Post m s Q E := by
  unfold Post
  rw [hm]
  exact h

theorem post_iff_of_ok {m : EStateM ε σ α} {s s' : σ} {a : α} {Q : α → σ → Prop}
    {E : ε → σ → Prop} (hm : m s = .ok a s') : Post m s Q E ↔ Q a s' :=
  ⟨fun h => h.of_ok hm, post_of_ok hm⟩

/-- A program that cannot fault returns. -/
theorem Post.exists_ok {m : EStateM ε σ α} {s : σ} {Q : α → σ → Prop}
    (h : Post m s Q fun _ _ => False) : ∃ a s', m s = .ok a s' ∧ Q a s' := by
  unfold Post at h
  split at h
  · next a s' hm => exact ⟨a, s', hm, h⟩
  · exact h.elim

/-- `m` returns from `s`, with a result and a state that pass the test. -/
def returns (m : EStateM ε σ α) (s : σ) (t : α → σ → Bool) : Bool :=
  match m s with
  | .ok a s' => t a s'
  | .error _ _ => false

theorem returns_iff {m : EStateM ε σ α} {s : σ} {t : α → σ → Bool} :
    returns m s t = true ↔ ∃ a s', m s = .ok a s' ∧ t a s' = true := by
  unfold returns
  cases m s <;> simp

/-- `m` stops on a fault that passes the test. -/
def faults (m : EStateM ε σ α) (s : σ) (t : ε → Bool) : Bool :=
  match m s with
  | .ok _ _ => false
  | .error e _ => t e

theorem faults_iff {m : EStateM ε σ α} {s : σ} {t : ε → Bool} :
    faults m s t = true ↔ ∃ e s', m s = .error e s' ∧ t e = true := by
  unfold faults
  cases m s <;> simp

/-- The state a program ends in, whichever way. -/
def after (m : EStateM ε σ α) (s : σ) : σ :=
  match m s with
  | .ok _ s' => s'
  | .error _ s' => s'

/-- What holds in the state a program ends in. -/
theorem Post.after {I : σ → Prop} {m : EStateM ε σ α} {s : σ}
    (h : Post m s (fun _ s' => I s') (fun _ s' => I s')) : I (after m s) := by
  unfold Exec.after
  unfold Post at h
  cases hm : m s with
  | ok x s' =>
      rw [hm] at h
      exact h
  | error e s' =>
      rw [hm] at h
      exact h

/-! ## Invariants of programs -/

/-- `m` keeps `I` when it returns. -/
def Preserves (I : σ → Prop) (m : EStateM ε σ α) : Prop :=
  ∀ s, I s → Post m s (fun _ s' => I s') (fun _ _ => True)

section
variable {I : σ → Prop}

theorem Preserves.pure (a : α) : Preserves I (pure a : EStateM ε σ α) := fun _ h => h

theorem Preserves.bind {m : EStateM ε σ α} {f : α → EStateM ε σ β} (hm : Preserves I m)
    (hf : ∀ a, Preserves I (f a)) : Preserves I (m >>= f) := by
  intro s hs
  rw [post_bind]
  exact (hm s hs).mono (fun a s' h => hf a s' h) (fun _ _ _ => trivial)

theorem preserves_get : Preserves I (get : EStateM ε σ σ) := fun _ h => h

end

/-! ## Runs -/

variable (step : α → EStateM ε σ β)

/-- Execute the operations in order and collect what they return. -/
def run : List α → EStateM ε σ (List β)
  | [] => pure []
  | a :: as => do
      let b ← step a
      let bs ← run as
      return b :: bs

/-- Every operation of the list satisfies `C` in the state it is executed in,
up to the fault that stops the run. -/
def Meets (C : σ → α → Prop) : σ → List α → Prop
  | _, [] => True
  | s, a :: as =>
      C s a ∧
        match step a s with
        | .ok _ s' => Meets C s' as
        | .error _ _ => True

variable {step}

instance decidableMeets {C : σ → α → Prop} [∀ s a, Decidable (C s a)] :
    (s : σ) → (as : List α) → Decidable (Meets step C s as)
  | _, [] => inferInstanceAs (Decidable True)
  | s, a :: as =>
      have : Decidable (match step a s with
          | .ok _ s' => Meets step C s' as
          | .error _ _ => True) :=
        match step a s with
        | .ok _ s' => decidableMeets s' as
        | .error _ _ => inferInstanceAs (Decidable True)
      inferInstanceAs (Decidable (C s a ∧ _))

theorem meets_true (s : σ) (as : List α) : Meets step (fun _ _ => True) s as := by
  induction as generalizing s with
  | nil => trivial
  | cons a as ih =>
      refine ⟨trivial, ?_⟩
      split
      · exact ih _
      · trivial

/-- The invariant rule: what every admissible operation preserves holds
wherever an admissible run ends, and a run can only be stopped by a fault that
one of its operations may raise. -/
theorem run_post {I : σ → Prop} {E : ε → σ → Prop} {C : σ → α → Prop}
    (hstep : ∀ s a, I s → C s a → Post (step a) s (fun _ s' => I s') E)
    {s : σ} (hs : I s) {as : List α} (has : Meets step C s as) :
    Post (run step as) s (fun _ s' => I s') E := by
  induction as generalizing s with
  | nil => exact hs
  | cons a as ih =>
      obtain ⟨hC, hrest⟩ := has
      simp only [run, post_bind, post_pure]
      have h := hstep s a hs hC
      unfold Post at h ⊢
      cases hm : step a s with
      | ok b s' =>
          simp only [hm] at h hrest ⊢
          exact ih h hrest
      | error e s' =>
          simp only [hm] at h ⊢
          exact h

/-- The invariant rule for operations that need no condition. -/
theorem run_invariant {I : σ → Prop} {E : ε → σ → Prop}
    (hstep : ∀ s a, I s → Post (step a) s (fun _ s' => I s') E)
    {s : σ} (hs : I s) (as : List α) :
    Post (run step as) s (fun _ s' => I s') E :=
  run_post (C := fun _ _ => True) (fun s a hI _ => hstep s a hI) hs (meets_true s as)

/-- The condition holds of the operation that follows a run. -/
theorem Meets.of_run {C : σ → α → Prop} {s s' : σ} {as : List α} {bs : List β} {a : α}
    (h : Meets step C s (as ++ [a])) (hrun : run step as s = .ok bs s') : C s' a := by
  induction as generalizing s bs with
  | nil =>
      cases hrun
      exact h.1
  | cons b as ih =>
      obtain ⟨-, hrest⟩ := h
      have hpost : Post (run step (b :: as)) s (fun _ t => t = s') (fun _ _ => False) :=
        post_of_ok hrun rfl
      simp only [run, post_bind, post_pure] at hpost
      obtain ⟨r, s₁, hstep, htail⟩ := hpost.exists_ok
      obtain ⟨rs, t, has, rfl⟩ := htail.exists_ok
      rw [hstep] at hrest
      exact ih hrest has

/-- Under an invariant, a run that meets one condition meets another that it implies. -/
theorem meets_imp {I : σ → Prop} {C D : σ → α → Prop}
    (hstep : ∀ s a, I s → C s a → Post (step a) s (fun _ s' => I s') (fun _ _ => True))
    (himp : ∀ s a, I s → C s a → D s a) {s : σ} (hs : I s) {as : List α}
    (has : Meets step C s as) : Meets step D s as := by
  induction as generalizing s with
  | nil => trivial
  | cons a as ih =>
      obtain ⟨hC, hrest⟩ := has
      refine ⟨himp s a hs hC, ?_⟩
      have h := hstep s a hs hC
      unfold Post at h
      cases hm : step a s with
      | ok b s' =>
          simp only [hm] at h hrest ⊢
          exact ih h hrest
      | error e s' => trivial

theorem Meets.and {C D : σ → α → Prop} {s : σ} {as : List α} (hC : Meets step C s as)
    (hD : Meets step D s as) : Meets step (fun s a => C s a ∧ D s a) s as := by
  induction as generalizing s with
  | nil => trivial
  | cons a as ih =>
      obtain ⟨hC, hrestC⟩ := hC
      obtain ⟨hD, hrestD⟩ := hD
      refine ⟨⟨hC, hD⟩, ?_⟩
      cases hm : step a s with
      | ok b s' =>
          simp only [hm] at hrestC hrestD
          exact ih hrestC hrestD
      | error e s' => trivial

/-- A condition on the operations alone may be added to one on the states. -/
theorem Meets.and_mem {C : σ → α → Prop} {D : α → Prop} {s : σ} {as : List α}
    (h : Meets step C s as) (hd : ∀ a ∈ as, D a) : Meets step (fun s a => C s a ∧ D a) s as := by
  induction as generalizing s with
  | nil => trivial
  | cons a as ih =>
      obtain ⟨hC, hrest⟩ := h
      refine ⟨⟨hC, hd a List.mem_cons_self⟩, ?_⟩
      cases hm : step a s with
      | ok b s' =>
          simp only [hm] at hrest
          exact ih hrest fun x hx => hd x (List.mem_cons_of_mem a hx)
      | error e s' => trivial

/-- A condition that all operations meet changes nothing. -/
theorem meets_and_mem {C : σ → α → Prop} {D : α → Prop} {s : σ} {as : List α} (hd : ∀ a ∈ as, D a) :
    Meets step (fun s a => C s a ∧ D a) s as ↔ Meets step C s as := by
  refine ⟨fun h => ?_, fun h => h.and_mem hd⟩
  have hall : ∀ s a, Post (step a) s (fun _ _ => True) (fun _ _ => True) :=
    fun s a => (post_self (step a) s).mono (fun _ _ _ => trivial) (fun _ _ _ => trivial)
  exact meets_imp (I := fun _ => True) (fun s a _ _ => hall s a) (fun _ _ _ hC => hC.1) trivial h

/-- Two conditions that agree wherever an invariant holds are met by the same runs,
when the operations that meet the first keep it. -/
theorem meets_congr {I : σ → Prop} {P C : σ → α → Prop}
    (hstep : ∀ s a, I s → P s a → Post (step a) s (fun _ s' => I s') (fun _ _ => True))
    (hiff : ∀ s a, I s → (P s a ↔ C s a)) {s : σ} (hs : I s) (as : List α) :
    Meets step P s as ↔ Meets step C s as := by
  induction as generalizing s with
  | nil => exact Iff.rfl
  | cons a as ih =>
      rw [Meets, Meets, ← hiff s a hs]
      refine and_congr_right fun hP => ?_
      have h := hstep s a hs hP
      unfold Post at h
      cases hm : step a s with
      | ok b s' =>
          simp only [hm] at h
          exact ih h
      | error e s' => exact Iff.rfl

/-- `s'` is the state a run of `step` from `s` ends in. -/
def Reached (step : α → EStateM ε σ β) (s s' : σ) : Prop :=
  ∃ as bs, run step as s = .ok bs s'

theorem Reached.invariant {I : σ → Prop} {E : ε → σ → Prop} {s s' : σ}
    (h : Reached step s s')
    (hstep : ∀ s a, I s → Post (step a) s (fun _ s' => I s') E) (hs : I s) : I s' := by
  obtain ⟨as, bs, hrun⟩ := h
  exact (run_invariant hstep hs as).of_ok hrun

/-! ## History variables -/

/-- `step` with a history variable beside the state. `note` is computed from the state
before the step, and `step` does not see it. -/
def noting {γ : Type} (note : σ → γ → α → γ) (step : α → EStateM ε σ β) (a : α) :
    EStateM ε (σ × γ) β := fun s =>
  match step a s.1 with
  | .ok b s' => .ok b (s', note s.1 s.2 a)
  | .error e s' => .error e (s', note s.1 s.2 a)

theorem post_noting {γ : Type} {note : σ → γ → α → γ} {a : α} {s : σ × γ}
    {Q : β → σ × γ → Prop} {E : ε → σ × γ → Prop} :
    Post (noting note step a) s Q E ↔
      Post (step a) s.1 (fun b s' => Q b (s', note s.1 s.2 a))
        (fun e s' => E e (s', note s.1 s.2 a)) := by
  unfold Post noting
  cases step a s.1 <;> rfl

/-- A condition on the states alone does not see the history. -/
theorem meets_noting {γ : Type} {note : σ → γ → α → γ} {C : σ → α → Prop} {s : σ} {g : γ}
    {as : List α} :
    Meets (noting note step) (fun x a => C x.1 a) (s, g) as ↔ Meets step C s as := by
  induction as generalizing s g with
  | nil => exact Iff.rfl
  | cons a as ih =>
      rw [Meets, Meets]
      refine and_congr_right fun _ => ?_
      unfold noting
      dsimp only
      cases step a s with
      | ok b s' => exact ih
      | error e s' => exact Iff.rfl

/-! ## Simulations -/

/-- A run may be cut in two. -/
theorem run_append_ok {as as' : List α} {s t u : σ} {bs bs' : List β}
    (h : run step as s = .ok bs t) (h' : run step as' t = .ok bs' u) :
    run step (as ++ as') s = .ok (bs ++ bs') u := by
  induction as generalizing s bs with
  | nil =>
      cases h
      exact h'
  | cons a as ih =>
      have hpost : Post (run step (a :: as)) s (fun cs t' => cs = bs ∧ t' = t) (fun _ _ => False) :=
        post_of_ok h ⟨rfl, rfl⟩
      simp only [run, post_bind, post_pure] at hpost
      obtain ⟨b, s₁, hstep, htail⟩ := hpost.exists_ok
      obtain ⟨cs, t', hrun, rfl, rfl⟩ := htail.exists_ok
      rw [List.cons_append, run, bind_of_ok hstep, bind_of_ok (ih hrun)]
      rfl

section
variable {α' β' σ' γ : Type} {step' : α' → EStateM ε σ' β'} {view : σ → σ'} {out : β → List γ}
  {out' : β' → List γ}

/-- Seen through `view`, what has led from `s` to `s'` is a run of steps `P` with the same output. -/
def Traced (P : α' → Prop) (step' : α' → EStateM ε σ' β') (view : σ → σ') (out' : β' → List γ)
    (s : σ) (output : List γ) (s' : σ) : Prop :=
  ∃ as bs, (∀ a ∈ as, P a) ∧ run step' as (view s) = .ok bs (view s') ∧ bs.flatMap out' = output

/-- Seen through `view`, the step is a run of steps `P`, or it stops where one of them does. -/
def Simulated (P : α' → Prop) (step : α → EStateM ε σ β) (step' : α' → EStateM ε σ' β')
    (view : σ → σ') (out : β → List γ) (out' : β' → List γ) (a : α) (s : σ) : Prop :=
  Post (step a) s (fun b s' => Traced P step' view out' s (out b) s')
    (fun e s' => ∃ a', P a' ∧ step' a' (view s) = .error e (view s'))

variable {P : α' → Prop}

theorem Traced.refl (s : σ) : Traced P step' view out' s [] s := ⟨[], [], by simp, rfl, rfl⟩

theorem Traced.trans {s t u : σ} {l l' : List γ} (h : Traced P step' view out' s l t)
    (h' : Traced P step' view out' t l' u) : Traced P step' view out' s (l ++ l') u := by
  obtain ⟨as, bs, hP, hrun, rfl⟩ := h
  obtain ⟨as', bs', hP', hrun', rfl⟩ := h'
  refine ⟨as ++ as', bs ++ bs', fun a ha => ?_, run_append_ok hrun hrun', List.flatMap_append ..⟩
  exact (List.mem_append.1 ha).elim (hP a) (hP' a)

/-- Where every step is simulated, so is every run. A run that stops has been simulated up to
the step that stops. -/
theorem run_simulated {I : σ → Prop}
    (hinv : ∀ s a, I s → Post (step a) s (fun _ s' => I s') (fun _ _ => True))
    (h : ∀ s a, I s → Simulated P step step' view out out' a s) (as : List α) (s : σ) (hs : I s) :
    Post (run step as) s
      (fun bs s' => Traced P step' view out' s (bs.flatMap out) s')
      (fun e s' => ∃ done a rest bs t, as = done ++ a :: rest ∧ run step done s = .ok bs t ∧
        step a t = .error e s' ∧ Traced P step' view out' s (bs.flatMap out) t ∧
        ∃ a', P a' ∧ step' a' (view t) = .error e (view s')) := by
  induction as generalizing s with
  | nil => exact .refl s
  | cons a as ih =>
      rw [run, post_bind]
      have hstep := (h s a hs).and (hinv s a hs)
      unfold Post at hstep ⊢
      cases hone : step a s with
      | error e s₁ =>
          rw [hone] at hstep
          exact ⟨[], a, as, [], s, rfl, rfl, hone, .refl s, hstep.1⟩
      | ok b s₁ =>
          rw [hone] at hstep
          obtain ⟨htrace, hs₁⟩ := hstep
          dsimp only
          have hrest := ih s₁ hs₁
          unfold Post at hrest
          show Post (run step as >>= fun bs => pure (b :: bs)) s₁ _ _
          rw [post_bind]
          unfold Post
          cases hmany : run step as s₁ with
          | ok bs s₂ =>
              rw [hmany] at hrest
              exact htrace.trans hrest
          | error e s₂ =>
              rw [hmany] at hrest
              obtain ⟨done, a', rest, bs, t, rfl, hrun, hstop, htrace', hlast⟩ := hrest
              refine ⟨a :: done, a', rest, b :: bs, t, rfl, ?_, hstop, htrace.trans htrace', hlast⟩
              rw [run, bind_of_ok hone, bind_of_ok hrun]
              rfl

end

end Exec
