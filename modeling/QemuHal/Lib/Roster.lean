import Mathlib.Data.List.Sort
import Mathlib.Data.List.Nodup
import Mathlib.Logic.Function.Basic

/-!
# Ordered rosters

A roster is a list of members kept in the order of a key that may change and need
not be unique, like a multiset under a comparison of keys, next to a map from ids
to members. `Files` says that the list holds members of the map only, `Agrees` that
it holds them all. Removing a member by equality keeps the agreement; removing all
members equivalent to it does so only when it has no equal in the order.
-/

namespace Roster

variable {α ι κ : Type} [LinearOrder κ]

/-! ## The list -/

def Sorted (key : α → κ) (l : List α) : Prop := l.Pairwise fun a b => key a ≤ key b

/-- Insert after the members that are not above the new one. -/
def insert (key : α → κ) (x : α) (l : List α) : List α :=
  l.orderedInsert (fun a b => key a < key b) x

/-- Two members are equivalent when neither is below the other. -/
def equiv (key : α → κ) (a b : α) : Bool := !decide (key a < key b) && !decide (key b < key a)

/-- Remove one member. -/
def erase [DecidableEq α] (key : α → κ) (x : α) (l : List α) : List α :=
  l.eraseP fun c => equiv key c x && decide (c = x)

/-- Remove every member equivalent to one. -/
def eraseEquiv (key : α → κ) (x : α) (l : List α) : List α :=
  l.filter fun c => !equiv key c x

variable {key : α → κ}

theorem equiv_iff {a b : α} : equiv key a b = true ↔ key a = key b := by
  unfold equiv
  simp only [Bool.and_eq_true, Bool.not_eq_true', decide_eq_false_iff_not, not_lt]
  exact ⟨fun h => le_antisymm h.2 h.1, fun h => ⟨h.ge, h.le⟩⟩

theorem erase_eq [DecidableEq α] (x : α) (l : List α) : erase key x l = l.erase x := by
  have hrefl : ∀ c, (equiv key c x && decide (c = x)) = (c == x) := by
    intro c
    by_cases hc : c = x
    · subst hc
      have hself : equiv key c c = true := equiv_iff.2 rfl
      simp [hself]
    · simp [hc]
  rw [erase, List.erase_eq_eraseP]
  congr 1
  funext c
  rw [hrefl c, Bool.beq_comm]

theorem mem_eraseEquiv {x c : α} {l : List α} :
    c ∈ eraseEquiv key x l ↔ c ∈ l ∧ key c ≠ key x := by
  rw [eraseEquiv, List.mem_filter, Bool.not_eq_true', ← Bool.not_eq_true, equiv_iff]

theorem Sorted.insert {l : List α} (h : Sorted key l) (x : α) :
    Sorted key (insert key x l) := by
  unfold Roster.insert
  induction l with
  | nil => exact List.pairwise_singleton _ _
  | cons b l ih =>
      rw [List.orderedInsert_cons]
      obtain ⟨hb, hl⟩ := List.pairwise_cons.1 h
      by_cases hlt : key x < key b
      · rw [if_pos hlt]
        refine List.pairwise_cons.2 ⟨fun c hc => ?_, h⟩
        rcases List.mem_cons.1 hc with rfl | hc
        · exact hlt.le
        · exact hlt.le.trans (hb c hc)
      · rw [if_neg hlt]
        refine List.pairwise_cons.2 ⟨fun c hc => ?_, ih hl⟩
        rcases (List.mem_orderedInsert _).1 hc with rfl | hc
        · exact not_lt.1 hlt
        · exact hb c hc

theorem Sorted.sublist {l l' : List α} (h : Sorted key l) (hs : l'.Sublist l) : Sorted key l' :=
  List.Pairwise.sublist hs h

/-- The order is read off the keys of the members. -/
theorem Sorted.congr {key' : α → κ} {l : List α} (h : Sorted key l)
    (hkey : ∀ x ∈ l, key' x = key x) : Sorted key' l := by
  refine List.Pairwise.imp_of_mem ?_ h
  intro a b ha hb hab
  rw [hkey a ha, hkey b hb]
  exact hab

/-! ## The list and the map -/

/-- The list is in order and holds members of the map, each at most once; no member has
two ids. -/
structure Files (key : α → κ) (ids : ι → Option α) (l : List α) : Prop where
  sorted : Sorted key l
  nodup : l.Nodup
  filed : ∀ x ∈ l, ∃ i, ids i = some x
  inj : ∀ i j x, ids i = some x → ids j = some x → i = j

/-- And it holds every member. -/
structure Agrees (key : α → κ) (ids : ι → Option α) (l : List α) : Prop
    extends Files key ids l where
  all : ∀ i x, ids i = some x → x ∈ l

variable {ids : ι → Option α} {l : List α}

theorem Files.empty : Files key (fun _ : ι => none) [] :=
  ⟨List.Pairwise.nil, List.nodup_nil, by simp, by simp⟩

theorem Agrees.empty : Agrees key (fun _ : ι => none) [] :=
  ⟨Files.empty, by simp⟩

theorem Files.congr {key' : α → κ} (h : Files key ids l) (hkey : ∀ x ∈ l, key' x = key x) :
    Files key' ids l :=
  ⟨h.sorted.congr hkey, h.nodup, h.filed, h.inj⟩

theorem Agrees.congr {key' : α → κ} (h : Agrees key ids l) (hkey : ∀ x ∈ l, key' x = key x) :
    Agrees key' ids l :=
  ⟨h.toFiles.congr hkey, h.all⟩

section
variable [DecidableEq ι]

theorem Files.add (h : Files key ids l) {i : ι} {x : α} (hi : ids i = none)
    (hx : ∀ j, ids j ≠ some x) :
    Files key (Function.update ids i (some x)) (insert key x l) where
  sorted := h.sorted.insert x
  nodup := by
    have hout : x ∉ l := fun hmem => (h.filed x hmem).elim hx
    exact ((List.perm_orderedInsert _ x l).nodup_iff).2 (List.nodup_cons.2 ⟨hout, h.nodup⟩)
  filed := by
    intro y hy
    rcases (List.mem_orderedInsert _).1 hy with rfl | hy
    · exact ⟨i, Function.update_self ..⟩
    · obtain ⟨j, hj⟩ := h.filed y hy
      refine ⟨j, ?_⟩
      rw [Function.update_of_ne, hj]
      rintro rfl
      exact absurd (hi.symm.trans hj) (by simp)
  inj := by
    intro j k y hj hk
    rw [Function.update_apply] at hj hk
    split at hj <;> split at hk
    · next hj' hk' => rw [hj', hk']
    · exact absurd (hk.trans hj.symm) (hx k)
    · exact absurd (hj.trans hk.symm) (hx j)
    · exact h.inj j k y hj hk

theorem Agrees.add (h : Agrees key ids l) {i : ι} {x : α} (hi : ids i = none)
    (hx : ∀ j, ids j ≠ some x) :
    Agrees key (Function.update ids i (some x)) (insert key x l) where
  toFiles := h.toFiles.add hi hx
  all := by
    intro j y hj
    rw [Roster.insert, List.mem_orderedInsert]
    rw [Function.update_apply] at hj
    split at hj
    · exact Or.inl (Option.some.inj hj).symm
    · exact Or.inr (h.all j y hj)

/-- A member leaves the map, and the list without it is cut down in any way. -/
theorem Files.remove (h : Files key ids l) {i : ι} {x : α} (hi : ids i = some x) {l' : List α}
    (hsub : l'.Sublist l) (hx : x ∉ l') : Files key (Function.update ids i none) l' where
  sorted := h.sorted.sublist hsub
  nodup := h.nodup.sublist hsub
  filed := by
    intro y hy
    obtain ⟨j, hj⟩ := h.filed y (hsub.subset hy)
    refine ⟨j, ?_⟩
    rw [Function.update_of_ne, hj]
    rintro rfl
    exact hx (Option.some.inj (hj.symm.trans hi) ▸ hy)
  inj := by
    intro j k y hj hk
    rw [Function.update_apply] at hj hk
    split at hj
    · exact absurd hj (by simp)
    · split at hk
      · exact absurd hk (by simp)
      · exact h.inj j k y hj hk

theorem Files.eraseEquiv (h : Files key ids l) {i : ι} {x : α} (hi : ids i = some x) :
    Files key (Function.update ids i none) (eraseEquiv key x l) :=
  h.remove hi List.filter_sublist fun hx => (mem_eraseEquiv.1 hx).2 rfl

theorem Agrees.erase [DecidableEq α] (h : Agrees key ids l) {i : ι} {x : α}
    (hi : ids i = some x) : Agrees key (Function.update ids i none) (l.erase x) where
  toFiles := h.toFiles.remove hi List.erase_sublist h.nodup.not_mem_erase
  all := by
    intro j y hj
    rw [Function.update_apply] at hj
    split at hj
    · exact absurd hj (by simp)
    · next hne =>
        refine (h.nodup.mem_erase_iff).2 ⟨?_, h.all j y hj⟩
        rintro rfl
        exact hne (h.inj j i y hj hi)

/-- With an equal in the order, `eraseEquiv` takes more from the list than the map
loses. -/
theorem Agrees.not_eraseEquiv (h : Agrees key ids l) {key' : α → κ} {i : ι}
    {x y : α} (hi : ids i = some x) (hy : y ∈ l) (hne : y ≠ x) (hkey : key y = key x) :
    ¬ Agrees key' (Function.update ids i none) (Roster.eraseEquiv key x l) := by
  intro h'
  obtain ⟨j, hj⟩ := h.filed y hy
  have hlisted : y ∈ Roster.eraseEquiv key x l := by
    refine h'.all j y ?_
    rw [Function.update_of_ne, hj]
    rintro rfl
    exact hne (Option.some.inj (hj.symm.trans hi))
  exact (mem_eraseEquiv.1 hlisted).2 hkey

end

section
variable [DecidableEq α]

/-- A member whose key changes is taken out and put back in, or put in. -/
theorem Files.rekey {key' : α → κ} (h : Files key ids l) {i : ι} {x : α} (hi : ids i = some x)
    (hkey : ∀ y, y ≠ x → key' y = key y) : Files key' ids (insert key' x (l.erase x)) where
  sorted := by
    refine Sorted.insert ((h.sorted.sublist List.erase_sublist).congr fun y hy => hkey y ?_) x
    rintro rfl
    exact h.nodup.not_mem_erase hy
  nodup := by
    refine ((List.perm_orderedInsert _ x _).nodup_iff).2 (List.nodup_cons.2 ⟨?_, h.nodup.erase x⟩)
    exact h.nodup.not_mem_erase
  filed := by
    intro y hy
    rcases (List.mem_orderedInsert _).1 hy with rfl | hy
    · exact ⟨i, hi⟩
    · exact h.filed y (List.mem_of_mem_erase hy)
  inj := h.inj

theorem Agrees.rekey {key' : α → κ} (h : Agrees key ids l) {i : ι} {x : α} (hi : ids i = some x)
    (hkey : ∀ y, y ≠ x → key' y = key y) : Agrees key' ids (insert key' x (l.erase x)) where
  toFiles := h.toFiles.rekey hi hkey
  all := by
    intro j y hj
    rw [Roster.insert, List.mem_orderedInsert, h.nodup.mem_erase_iff]
    by_cases hy : y = x
    · exact Or.inl hy
    · exact Or.inr ⟨hy, h.all j y hj⟩

/-- Without an equal in the order, a member is all that `eraseEquiv` removes. -/
theorem Files.eraseEquiv_eq (h : Files key ids l) {x : α}
    (hx : ∀ y ∈ l, y ≠ x → key y ≠ key x) : Roster.eraseEquiv key x l = l.erase x := by
  rw [h.nodup.erase_eq_filter, Roster.eraseEquiv]
  refine List.filter_congr fun y hy => ?_
  by_cases hyx : y = x
  · subst hyx
    have hself : equiv key y y = true := equiv_iff.2 rfl
    simp [hself]
  · have hne : ¬ equiv key y x = true := fun he => hx y hy hyx (equiv_iff.1 he)
    simp [hne, hyx]

end

end Roster
