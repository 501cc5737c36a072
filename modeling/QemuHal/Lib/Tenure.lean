import Mathlib.Logic.Basic

/-!
# Sole tenure

A table maps numbers to entries, and some of the entries are ours. Each number of ours is
held by exactly one holder, but for the spare ones that nobody holds. A turn is what one
holder does: it gives up what it held, which is ours no longer, and takes numbers that were
not ours.
-/

namespace Tenure

variable {κ ρ ε : Type}

/-- The number has an entry of ours. -/
def Ours (own : ε → Prop) (table : ρ → Option ε) (r : ρ) : Prop := ∃ e, table r = some e ∧ own e

/-- Every number that is held is ours and has one holder, and what is ours is held or spare. -/
structure Sole (own : ε → Prop) (spare : ρ → Prop) (holds : κ → ρ → Prop)
    (table : ρ → Option ε) : Prop where
  owned : ∀ {k r}, holds k r → Ours own table r
  sole : ∀ {k k' r}, holds k r → holds k' r → k = k'
  kept : ∀ {r}, spare r → Ours own table r ∧ ∀ k, ¬ holds k r
  accounted : ∀ {r}, Ours own table r → spare r ∨ ∃ k, holds k r

/-- The holder `who` gives up what it held and takes what was not ours. -/
structure Turn (own : ε → Prop) (who : κ) (holds holds' : κ → ρ → Prop)
    (table table' : ρ → Option ε) : Prop where
  others : ∀ {k}, k ≠ who → ∀ {r}, holds' k r ↔ holds k r
  fresh : ∀ {r}, holds' who r → ¬ Ours own table r
  taken : ∀ {r}, holds' who r → Ours own table' r
  left : ∀ {r}, holds who r → ¬ Ours own table' r
  frame : ∀ {r}, ¬ holds who r → ¬ holds' who r → table' r = table r

section
variable {own : ε → Prop} {spare : ρ → Prop} {holds holds' : κ → ρ → Prop}
  {table table' : ρ → Option ε}

theorem Ours.congr {r : ρ} (h : Ours own table r) (he : table' r = table r) :
    Ours own table' r := by
  unfold Ours
  rw [he]
  exact h

/-- The entries of ours that nobody but `who` is concerned with stay as they are. -/
theorem Turn.frame_ours {who : κ} (ht : Turn own who holds holds' table table') {r : ρ}
    (hr : Ours own table r) (hno : ¬ holds who r) : table' r = table r :=
  ht.frame hno fun hnew => ht.fresh hnew hr

/-- What another holder holds, it still holds, and the entry is the same. -/
theorem Sole.other (h : Sole own spare holds table) {who k : κ}
    (ht : Turn own who holds holds' table table') (hk : k ≠ who) {r : ρ} (hr : holds k r) :
    holds' k r ∧ table' r = table r := by
  refine ⟨(ht.others hk).2 hr, ht.frame_ours (h.owned hr) fun hwho => ?_⟩
  exact hk (h.sole hr hwho)

/-- A turn keeps the tenure sole. -/
theorem Sole.turn (h : Sole own spare holds table) {who : κ}
    (ht : Turn own who holds holds' table table') : Sole own spare holds' table' where
  owned := by
    intro k r hr
    rcases Classical.em (k = who) with rfl | hk
    · exact ht.taken hr
    · have hr' := (ht.others hk).1 hr
      exact (h.owned hr').congr (h.other ht hk hr').2
  sole := by
    intro k k' r hr hr'
    rcases Classical.em (k = who) with rfl | hk <;> rcases Classical.em (k' = k) with rfl | hk'
    · rfl
    · exact absurd (h.owned ((ht.others hk').1 hr')) (ht.fresh hr)
    · rfl
    · rcases Classical.em (k' = who) with rfl | hwho
      · exact absurd (h.owned ((ht.others hk).1 hr)) (ht.fresh hr')
      · exact h.sole ((ht.others hk).1 hr) ((ht.others hwho).1 hr')
  kept := by
    intro r hr
    obtain ⟨hours, hnone⟩ := h.kept hr
    refine ⟨hours.congr (ht.frame_ours hours (hnone who)), fun k hk => ?_⟩
    rcases Classical.em (k = who) with rfl | hne
    · exact ht.fresh hk hours
    · exact hnone k ((ht.others hne).1 hk)
  accounted := by
    intro r hr
    by_cases hnew : holds' who r
    · exact Or.inr ⟨who, hnew⟩
    · by_cases hold : holds who r
      · exact absurd hr (ht.left hold)
      · rcases h.accounted (hr.congr (ht.frame hold hnew).symm) with hspare | ⟨k, hk⟩
        · exact Or.inl hspare
        · refine Or.inr ⟨k, (ht.others ?_).2 hk⟩
          rintro rfl
          exact hold hk

/-- Only who holds what and which entries are ours matters. -/
theorem Sole.congr (h : Sole own spare holds table) (hholds : ∀ k r, holds' k r ↔ holds k r)
    (hours : ∀ r, Ours own table' r ↔ Ours own table r) : Sole own spare holds' table' where
  owned := fun hr => (hours _).2 (h.owned ((hholds _ _).1 hr))
  sole := fun hr hr' => h.sole ((hholds _ _).1 hr) ((hholds _ _).1 hr')
  kept := by
    intro r hr
    obtain ⟨hmine, hnone⟩ := h.kept hr
    exact ⟨(hours r).2 hmine, fun k hk => hnone k ((hholds k r).1 hk)⟩
  accounted := by
    intro r hr
    rcases h.accounted ((hours r).1 hr) with hspare | ⟨k, hk⟩
    · exact Or.inl hspare
    · exact Or.inr ⟨k, (hholds k r).2 hk⟩

/-- Entries that become ours and that nobody takes are spare from then on. -/
theorem Sole.stray (h : Sole own spare holds table) {new : ρ → Prop}
    (hfresh : ∀ r, new r → ¬ Ours own table r) (htaken : ∀ r, new r → Ours own table' r)
    (hframe : ∀ r, ¬ new r → table' r = table r) :
    Sole own (fun r => spare r ∨ new r) holds table' where
  owned := fun hr => (h.owned hr).congr (hframe _ fun hnew => hfresh _ hnew (h.owned hr))
  sole := fun hr hr' => h.sole hr hr'
  kept := by
    rintro r (hr | hnew)
    · obtain ⟨hours, hnone⟩ := h.kept hr
      exact ⟨hours.congr (hframe r fun hnew => hfresh r hnew hours), hnone⟩
    · exact ⟨htaken r hnew, fun k hk => hfresh r hnew (h.owned hk)⟩
  accounted := by
    intro r hr
    rcases Classical.em (new r) with hnew | hold
    · exact Or.inl (Or.inr hnew)
    · rcases h.accounted (hr.congr (hframe r hold).symm) with hspare | hheld
      · exact Or.inl (Or.inl hspare)
      · exact Or.inr hheld

end

end Tenure
