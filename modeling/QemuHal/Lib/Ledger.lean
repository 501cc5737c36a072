import Mathlib.Data.List.Count
import Mathlib.Data.List.Nodup

/-!
# A ledger of acquired items

The entries of a call, newest first. What was acquired and not released since is
outstanding. In a proper ledger only what is outstanding is released, and then the law
that everything not kept is released as often as it was acquired says just that
everything outstanding is kept.
-/

namespace Ledger

variable {ρ : Type}

inductive Entry (ρ : Type) where
  | acquire (r : ρ)
  | release (r : ρ)
deriving DecidableEq, Repr

variable [DecidableEq ρ]

def acquired (r : ρ) (es : List (Entry ρ)) : Nat := es.count (.acquire r)

def released (r : ρ) (es : List (Entry ρ)) : Nat := es.count (.release r)

/-- What was acquired and not released since. -/
def outstanding : List (Entry ρ) → List ρ
  | [] => []
  | .acquire r :: es => r :: outstanding es
  | .release r :: es => (outstanding es).erase r

/-- Nothing is acquired twice without a release between, and nothing is released that is
not outstanding. -/
def Proper : List (Entry ρ) → Prop
  | [] => True
  | .acquire r :: es => r ∉ outstanding es ∧ Proper es
  | .release r :: es => r ∈ outstanding es ∧ Proper es

/-- Every item of `P` that is not kept was released once for each time it was acquired. -/
def Balanced (P : ρ → Prop) (kept : List ρ) (es : List (Entry ρ)) : Prop :=
  ∀ r, P r → r ∉ kept → released r es = acquired r es

section
variable {r : ρ} {es : List (Entry ρ)}

@[simp] theorem outstanding_nil : outstanding ([] : List (Entry ρ)) = [] := rfl

@[simp] theorem proper_nil : Proper ([] : List (Entry ρ)) := trivial

@[simp] theorem mem_outstanding_acquire {x : ρ} :
    x ∈ outstanding (.acquire r :: es) ↔ x = r ∨ x ∈ outstanding es := List.mem_cons

theorem Proper.acquire (h : Proper es) (hr : r ∉ outstanding es) :
    Proper (.acquire r :: es) := ⟨hr, h⟩

theorem Proper.release (h : Proper es) (hr : r ∈ outstanding es) :
    Proper (.release r :: es) := ⟨hr, h⟩

theorem Proper.nodup (h : Proper es) : (outstanding es).Nodup := by
  induction es with
  | nil => exact List.nodup_nil
  | cons e es ih =>
      cases e with
      | acquire r => exact List.nodup_cons.2 ⟨h.1, ih h.2⟩
      | release r => exact (ih h.2).erase r

theorem Proper.mem_outstanding_release (h : Proper es) {x : ρ} :
    x ∈ outstanding (.release r :: es) ↔ x ≠ r ∧ x ∈ outstanding es :=
  h.nodup.mem_erase_iff

/-- What was acquired was released or is outstanding. -/
theorem Proper.acquired_eq (h : Proper es) (r : ρ) :
    acquired r es = released r es + (outstanding es).count r := by
  induction es with
  | nil => rfl
  | cons e es ih =>
      cases e with
      | acquire x =>
          have hes := ih h.2
          simp only [acquired, released, outstanding, List.count_cons] at hes ⊢
          simp only [beq_iff_eq, Entry.acquire.injEq, reduceCtorEq, if_false]
          omega
      | release x =>
          have hes := ih h.2
          have hx := List.count_pos_iff.2 h.1
          simp only [acquired, released, outstanding, List.count_cons, List.count_erase] at hes ⊢
          simp only [beq_iff_eq, Entry.release.injEq, reduceCtorEq, if_false]
          by_cases hxr : x = r
          · subst hxr
            simp only [if_true]
            omega
          · simp only [if_neg hxr]
            omega

/-- In a proper ledger the law says that what is outstanding is kept. -/
theorem Proper.balanced_iff (h : Proper es) {P : ρ → Prop} {kept : List ρ} :
    Balanced P kept es ↔ ∀ r ∈ outstanding es, P r → r ∈ kept := by
  constructor
  · intro hs r hr hP
    by_contra hkept
    have hacq := h.acquired_eq r
    have hpos := List.count_pos_iff.2 hr
    rw [hs r hP hkept] at hacq
    omega
  · intro hout r hP hkept
    have hzero : (outstanding es).count r = 0 :=
      List.count_eq_zero.2 fun hr => hkept (hout r hr hP)
    rw [h.acquired_eq r, hzero, Nat.add_zero]

variable {P : ρ → Prop}

theorem balanced_nil : Balanced P [] ([] : List (Entry ρ)) := fun _ _ _ => rfl

theorem balanced_acquire : Balanced P [] [.acquire r] ↔ ¬ P r := by
  have hproper : Proper [.acquire r] := by simp [Proper]
  rw [hproper.balanced_iff]
  simp [outstanding]

theorem balanced_release : Balanced P [] [.release r, .acquire r] := by
  have hproper : Proper [.release r, .acquire r] := by simp [Proper, outstanding]
  rw [hproper.balanced_iff]
  simp [outstanding]

end

end Ledger
