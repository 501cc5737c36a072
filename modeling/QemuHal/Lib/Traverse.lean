import Mathlib.Data.List.Basic

/-!
# Traversals

A loop that walks a list, threads a state and collects a result at each element.
What holds of the results is decided element by element, in the state the elements
before it leave behind.
-/

namespace Traverse

variable {σ α β : Type} (f : σ → α → β × σ)

/-- The results of the loop, and the state it leaves. -/
def traverse : σ → List α → List β × σ
  | s, [] => ([], s)
  | s, a :: as =>
      let (b, s) := f s a
      let (bs, s) := traverse s as
      (b :: bs, s)

/-- The state after the elements `as`. -/
def after (s : σ) (as : List α) : σ := (traverse f s as).2

variable {f}

@[simp] theorem after_nil (s : σ) : after f s [] = s := rfl

@[simp] theorem after_cons (s : σ) (a : α) (as : List α) :
    after f s (a :: as) = after f (f s a).2 as := rfl

@[simp] theorem traverse_fst_nil (s : σ) : (traverse f s []).1 = [] := rfl

@[simp] theorem traverse_fst_cons (s : σ) (a : α) (as : List α) :
    (traverse f s (a :: as)).1 = (f s a).1 :: (traverse f (f s a).2 as).1 := rfl

theorem mem_traverse {s : σ} {as : List α} {b : β} :
    b ∈ (traverse f s as).1 ↔
      ∃ pre a post, as = pre ++ a :: post ∧ b = (f (after f s pre) a).1 := by
  induction as generalizing s with
  | nil => simp
  | cons a as ih =>
      rw [traverse_fst_cons, List.mem_cons, ih]
      constructor
      · rintro (rfl | ⟨pre, x, post, rfl, rfl⟩)
        · exact ⟨[], a, as, rfl, rfl⟩
        · exact ⟨a :: pre, x, post, rfl, rfl⟩
      · rintro ⟨pre, x, post, heq, rfl⟩
        cases pre with
        | nil =>
            obtain ⟨rfl, rfl⟩ := List.cons.inj heq
            exact Or.inl rfl
        | cons y pre =>
            obtain ⟨rfl, rfl⟩ := List.cons.inj heq
            exact Or.inr ⟨pre, x, post, rfl, rfl⟩

/-- Two results are related pairwise when the loop relates them wherever their
elements stand. -/
theorem pairwise_traverse {R : β → β → Prop} {s : σ} {as : List α} :
    (traverse f s as).1.Pairwise R ↔
      ∀ pre a mid a' post, as = pre ++ a :: (mid ++ a' :: post) →
        R (f (after f s pre) a).1 (f (after f s (pre ++ a :: mid)) a').1 := by
  induction as generalizing s with
  | nil => simp
  | cons x as ih =>
      rw [traverse_fst_cons, List.pairwise_cons, ih]
      constructor
      · rintro ⟨hx, has⟩ pre a mid a' post heq
        cases pre with
        | nil =>
            obtain ⟨rfl, rfl⟩ := List.cons.inj heq
            exact hx _ (mem_traverse.2 ⟨mid, a', post, rfl, rfl⟩)
        | cons y pre =>
            obtain ⟨rfl, rfl⟩ := List.cons.inj heq
            exact has pre a mid a' post rfl
      · intro h
        refine ⟨fun b hb => ?_, fun pre a mid a' post heq => ?_⟩
        · obtain ⟨mid, a', post, rfl, rfl⟩ := mem_traverse.1 hb
          exact h [] x mid a' post rfl
        · exact h (x :: pre) a mid a' post (by rw [heq]; rfl)

/-- A search that goes on after a hit ends with the last one. -/
theorem foldl_getLast {α : Type} {p : α → Bool} (l : List α) :
    l.foldl (fun found x => if p x then some x else found) none = (l.filter p).getLast? := by
  have hgen : ∀ found : Option α,
      l.foldl (fun found x => if p x then some x else found) found =
        (l.filter p).getLast?.or found := by
    induction l with
    | nil => exact fun _ => rfl
    | cons x l ih =>
        intro found
        rw [List.foldl_cons, ih, List.filter_cons]
        cases hp : p x with
        | false => simp
        | true =>
            rw [if_pos rfl, if_pos rfl, List.getLast?_cons]
            cases (l.filter p).getLast? <;> rfl
  rw [hgen, Option.or_none]

end Traverse
