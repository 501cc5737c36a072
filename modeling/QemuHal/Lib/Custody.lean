import Mathlib.Data.List.Basic

/-!
# Custody

A record says who took an item out, who gave it back and who left, newest entry first.
An item that is out can be taken again and is then shared; one `give` puts it back in, and
the others hold it no less. The law of custody: an item is given back by its only holder
while it is out, and each time it goes out it comes back once or is still held.
-/

namespace Custody

variable {γ η : Type} [DecidableEq γ] [DecidableEq η]

/-- An entry of a record. `done` says whether the item was accepted back; whoever leaves
holds nothing any more. -/
inductive Entry (γ η : Type) where
  | take (who : γ) (item : η)
  | give (who : γ) (item : η) (done : Bool)
  | leave (who : γ)
deriving DecidableEq, Repr

/-- Those who took the item and have not seen it back in. -/
def holders (item : η) : List (Entry γ η) → List γ
  | [] => []
  | .take who x :: es => if x = item then who :: holders item es else holders item es
  | .give who x true :: es =>
      if x = item then (holders item es).filter (· ≠ who) else holders item es
  | .give _ _ false :: es => holders item es
  | .leave who :: es => (holders item es).filter (· ≠ who)

def isOut (item : η) : List (Entry γ η) → Bool
  | [] => false
  | .take _ x :: es => decide (x = item) || isOut item es
  | .give _ x true :: es => !decide (x = item) && isOut item es
  | .give _ _ false :: es => isOut item es
  | .leave _ :: es => isOut item es

/-- How often the item went out. -/
def taken (item : η) : List (Entry γ η) → Nat
  | [] => 0
  | .take _ x :: es =>
      taken item es + if x = item ∧ isOut item es = false then 1 else 0
  | .give .. :: es => taken item es
  | .leave _ :: es => taken item es

/-- How often it was accepted back. -/
def given (item : η) : List (Entry γ η) → Nat
  | [] => 0
  | .take .. :: es => given item es
  | .give _ x done :: es => given item es + if x = item ∧ done = true then 1 else 0
  | .leave _ :: es => given item es

/-- Every item given back was out, and held by nobody else. -/
def Proper : List (Entry γ η) → Prop
  | [] => True
  | .take .. :: es => Proper es
  | .give who item _ :: es =>
      isOut item es = true ∧ (∀ k ∈ holders item es, k = who) ∧ Proper es
  | .leave _ :: es => Proper es

instance decidableProper : (es : List (Entry γ η)) → Decidable (Proper es)
  | [] => .isTrue trivial
  | .take .. :: es => decidableProper es
  | .give who item _ :: es =>
      have := decidableProper es
      inferInstanceAs (Decidable (isOut item es = true ∧ (∀ k ∈ holders item es, k = who) ∧
        Proper es))
  | .leave _ :: es => decidableProper es

/-- **The law.** Each time an item went out it has come back once or is still held. -/
def Kept (es : List (Entry γ η)) : Prop :=
  Proper es ∧
    ∀ item, taken item es = given item es + if holders item es = [] then 0 else 1

/-- The record of a library whose items are never shared. -/
structure Sole (es : List (Entry γ η)) : Prop where
  proper : Proper es
  held : ∀ item, isOut item es = true → holders item es ≠ []
  out : ∀ item, ∀ who ∈ holders item es, isOut item es = true
  sole : ∀ item, ∀ who ∈ holders item es, ∀ k ∈ holders item es, k = who

theorem Sole.nil : Sole ([] : List (Entry γ η)) where
  proper := trivial
  held := by simp [isOut]
  out := by simp [holders]
  sole := by simp [holders]

/-- Under the law of giving back, the entries balance but for what is out. -/
theorem taken_eq {es : List (Entry γ η)} (h : Proper es) (item : η) :
    taken item es = given item es + (isOut item es).toNat := by
  induction es with
  | nil => simp [taken, given, isOut]
  | cons e es ih =>
      cases e with
      | take who x =>
          have hes := ih h
          by_cases hx : x = item
          · cases hout : isOut item es <;> simp [taken, given, isOut, hx, hout] at hes ⊢ <;> omega
          · simpa [taken, given, isOut, hx] using hes
      | give who x done =>
          obtain ⟨hout, -, hproper⟩ := h
          have hes := ih hproper
          cases done with
          | false => simpa [taken, given, isOut] using hes
          | true =>
              by_cases hx : x = item
              · subst hx
                rw [hout] at hes
                simpa [taken, given, isOut] using hes
              · simpa [taken, given, isOut, hx] using hes
      | leave who => simpa [taken, given, isOut] using ih h

theorem Sole.kept {es : List (Entry γ η)} (h : Sole es) : Kept es := by
  refine ⟨h.proper, fun item => ?_⟩
  rw [taken_eq h.proper]
  cases hout : isOut item es with
  | true => simp [h.held item hout]
  | false =>
      have hnone : holders item es = [] := by
        rw [List.eq_nil_iff_forall_not_mem]
        intro who hwho
        exact absurd (h.out item who hwho) (by simp [hout])
      simp [hnone]

/-- Taking an item that is in. -/
theorem Sole.take {es : List (Entry γ η)} (h : Sole es) (who : γ) {item : η}
    (hin : isOut item es = false) : Sole (.take who item :: es) := by
  have hnone : holders item es = [] := by
    rw [List.eq_nil_iff_forall_not_mem]
    intro k hk
    exact absurd (h.out item k hk) (by simp [hin])
  constructor
  · exact h.proper
  · intro x hx
    by_cases he : item = x
    · simp [holders, he]
    · simp only [isOut, he, decide_false, Bool.false_or] at hx
      simpa [holders, he] using h.held x hx
  · intro x k hk
    by_cases he : item = x
    · simp [isOut, he]
    · simp only [holders, if_neg he] at hk
      simpa [isOut, he] using h.out x k hk
  · intro x k hk k' hk'
    by_cases he : item = x
    · subst he
      simp only [holders, if_true, hnone, List.mem_singleton] at hk hk'
      rw [hk, hk']
    · simp only [holders, if_neg he] at hk hk'
      exact h.sole x k hk k' hk'

/-- Giving back what one holds, whether or not it is accepted. -/
theorem Sole.give {es : List (Entry γ η)} (h : Sole es) {who : γ} {item : η}
    (hwho : who ∈ holders item es) (done : Bool) : Sole (.give who item done :: es) := by
  have hout := h.out item who hwho
  have hall := h.sole item who hwho
  have hproper : Proper (.give who item done :: es) := ⟨hout, hall, h.proper⟩
  cases done with
  | false => exact ⟨hproper, h.held, h.out, h.sole⟩
  | true =>
      have hnone : (holders item es).filter (· ≠ who) = [] := by
        rw [List.filter_eq_nil_iff]
        intro k hk
        simp [hall k hk]
      constructor
      · exact hproper
      · intro x hx
        by_cases he : item = x
        · simp [isOut, he] at hx
        · simp only [isOut, he, decide_false, Bool.not_false, Bool.true_and] at hx
          simpa [holders, he] using h.held x hx
      · intro x k hk
        by_cases he : item = x
        · subst he
          simp only [holders, if_true, hnone] at hk
          exact absurd hk (by simp)
        · simp only [holders, if_neg he] at hk
          simpa [isOut, he] using h.out x k hk
      · intro x k hk k' hk'
        by_cases he : item = x
        · subst he
          simp only [holders, if_true, hnone] at hk
          exact absurd hk (by simp)
        · simp only [holders, if_neg he] at hk hk'
          exact h.sole x k hk k' hk'

/-- Leaving with empty hands. -/
theorem Sole.leave {es : List (Entry γ η)} (h : Sole es) {who : γ}
    (hfree : ∀ item, who ∉ holders item es) : Sole (.leave who :: es) := by
  have hsame : ∀ item, holders item (.leave who :: es) = holders item es := by
    intro item
    simp only [holders, List.filter_eq_self, ne_eq, decide_not, Bool.not_eq_true',
      decide_eq_false_iff_not]
    rintro k hk rfl
    exact hfree item hk
  refine ⟨h.proper, fun item hout => ?_, fun item k hk => ?_, fun item k hk k' hk' => ?_⟩
  · rw [hsame]
    exact h.held item hout
  · rw [hsame] at hk
    exact h.out item k hk
  · rw [hsame] at hk hk'
    exact h.sole item k hk k' hk'

end Custody
