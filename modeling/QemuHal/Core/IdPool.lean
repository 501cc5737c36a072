import Mathlib.Data.Finset.Insert
import Mathlib.Data.Finset.Lattice.Basic
import Mathlib.Data.Finset.Range
import Mathlib.Data.Finset.Card
import Mathlib.Tactic.NormNum.Basic

/-!
# Id allocation

`HdiLayer::GetIdleId` and `HdiDisplay::GetIdleId` are one search over a static
counter and a static set of used ids, with the invalid id as the modulus.
-/

namespace QemuHal

/-- A `mIdleId` counter with its `mIdSets`. -/
structure IdPool where
  mIdleId : Nat := 0
  mIdSets : Finset Nat := ∅

def invalidLayerId : Nat := 0xffffffff

def invalidDisplayId : Nat := 0xffffffff

namespace IdPool

/-- The `do … while (oldIdleId != mIdleId)` loop. The result is the id found and
the counter the loop leaves behind; `none` when `fuel` turns do not end it. -/
def searchLoop (invalid oldIdleId : Nat) (mIdSets : Finset Nat) : Nat → Nat → Option (Nat × Nat)
  | 0, _ => none
  | fuel + 1, mIdleId =>
      if mIdleId ∉ mIdSets then some (mIdleId, mIdleId)
      else
        let next := (mIdleId + 1) % invalid
        if oldIdleId ≠ next then searchLoop invalid oldIdleId mIdSets fuel next
        else some (invalid, next)

/-- The search. The counter takes fewer than `2 ^ 32` values and nothing else
changes in the loop, so a search that is not over after `2 ^ 32` turns never
ends: `none`. -/
def getIdleId (invalid : Nat) (pool : IdPool) : Option (Nat × IdPool) :=
  match searchLoop invalid pool.mIdleId pool.mIdSets (2 ^ 32) (pool.mIdleId % invalid) with
  | none => none
  | some (id, mIdleId) =>
      some (id, ⟨(mIdleId + 1) % 2 ^ 32, insert id pool.mIdSets⟩)

/-- What the loop finds is unused, unless it is the invalid id. -/
theorem searchLoop_spec {invalid old : Nat} {used : Finset Nat} :
    ∀ {fuel cur id cur' : Nat},
      searchLoop invalid old used fuel cur = some (id, cur') → id = invalid ∨ id ∉ used
  | 0, _, _, _, h => by simp [searchLoop] at h
  | fuel + 1, cur, id, cur', h => by
      unfold searchLoop at h
      split at h
      · next hcur =>
          simp only [Option.some.injEq, Prod.mk.injEq] at h
          exact Or.inr (h.1 ▸ hcur)
      · dsimp only at h
        split at h
        · exact searchLoop_spec h
        · simp only [Option.some.injEq, Prod.mk.injEq] at h
          exact Or.inl h.1.symm

theorem getIdleId_unused {invalid : Nat} {pool pool' : IdPool} {id : Nat}
    (h : getIdleId invalid pool = some (id, pool')) (hid : id ≠ invalid) :
    id ∉ pool.mIdSets := by
  unfold getIdleId at h
  split at h
  · simp at h
  · next hloop =>
      simp only [Option.some.injEq, Prod.mk.injEq] at h
      rcases searchLoop_spec hloop with hinv | hfree
      · exact absurd (h.1.symm.trans hinv) hid
      · exact h.1 ▸ hfree

theorem getIdleId_mIdSets {invalid : Nat} {pool pool' : IdPool} {id : Nat}
    (h : getIdleId invalid pool = some (id, pool')) :
    pool'.mIdSets = insert id pool.mIdSets := by
  unfold getIdleId at h
  split at h
  · simp at h
  · simp only [Option.some.injEq, Prod.mk.injEq] at h
    rw [← h.2, h.1]

/-! ### A counting pool -/

/-- The pool has handed out the ids below its counter. -/
structure Counting (invalid : Nat) (pool : IdPool) : Prop where
  used : pool.mIdSets = Finset.range pool.mIdleId
  bounded : pool.mIdleId ≤ invalid

theorem counting_new (invalid : Nat) : Counting invalid {} :=
  ⟨Finset.range_zero.symm, Nat.zero_le _⟩

theorem Counting.card {invalid : Nat} {pool : IdPool} (h : Counting invalid pool) :
    pool.mIdSets.card = pool.mIdleId := by
  rw [h.used, Finset.card_range]

theorem searchLoop_hit {invalid old cur fuel : Nat} {used : Finset Nat} (hcur : cur ∉ used)
    (hfuel : fuel ≠ 0) : searchLoop invalid old used fuel cur = some (cur, cur) := by
  obtain ⟨fuel, rfl⟩ := Nat.exists_eq_succ_of_ne_zero hfuel
  unfold searchLoop
  rw [if_pos hcur]

/-- The loop compares its counter, which stays below the invalid id, with the value the
counter had before the search. When that was the invalid id and no id is free, no number
of turns ends it. -/
theorem searchLoop_cycles {invalid old : Nat} {used : Finset Nat} (hold : invalid ≤ old)
    (hfull : ∀ i < invalid, i ∈ used) :
    ∀ (fuel : Nat) {cur : Nat}, cur < invalid → searchLoop invalid old used fuel cur = none := by
  intro fuel
  induction fuel with
  | zero => intros; rfl
  | succ fuel ih =>
      intro cur hcur
      have hnext : (cur + 1) % invalid < invalid := Nat.mod_lt _ (by omega)
      unfold searchLoop
      rw [if_neg (not_not.mpr (hfull cur hcur))]
      dsimp only
      rw [if_pos (by omega)]
      exact ih hnext

theorem Counting.getIdleId {invalid : Nat} {pool : IdPool} (h : Counting invalid pool)
    (hinvalid : invalid < 2 ^ 32) (hlt : pool.mIdleId < invalid) :
    pool.getIdleId invalid =
      some (pool.mIdleId, ⟨pool.mIdleId + 1, Finset.range (pool.mIdleId + 1)⟩) := by
  have hunused : pool.mIdleId ∉ pool.mIdSets := by
    rw [h.used]
    exact Finset.notMem_range_self
  unfold IdPool.getIdleId
  rw [Nat.mod_eq_of_lt hlt, searchLoop_hit hunused (by norm_num)]
  dsimp only
  rw [Nat.mod_eq_of_lt (by omega), h.used, Finset.range_add_one]

theorem Counting.diverges {invalid : Nat} {pool : IdPool} (h : Counting invalid pool)
    (hpos : 0 < invalid) (heq : pool.mIdleId = invalid) : pool.getIdleId invalid = none := by
  have hfull : ∀ i < invalid, i ∈ pool.mIdSets := by
    intro i hi
    rw [h.used, heq]
    exact Finset.mem_range.mpr hi
  unfold IdPool.getIdleId
  rw [searchLoop_cycles heq.ge hfull _ (Nat.mod_lt _ hpos)]

/-- A search that ends leaves a counting pool. -/
theorem Counting.next {invalid : Nat} {pool pool' : IdPool} {id : Nat}
    (h : Counting invalid pool) (hpos : 0 < invalid) (hinvalid : invalid < 2 ^ 32)
    (hid : pool.getIdleId invalid = some (id, pool')) : Counting invalid pool' := by
  rcases Nat.lt_or_ge pool.mIdleId invalid with hlt | hge
  · rw [h.getIdleId hinvalid hlt] at hid
    obtain ⟨-, rfl⟩ := Prod.mk.inj (Option.some.inj hid)
    exact ⟨rfl, hlt⟩
  · rw [h.diverges hpos (Nat.le_antisymm h.bounded hge)] at hid
    exact absurd hid (by simp)

end IdPool

example : (IdPool.getIdleId invalidLayerId {}).map Prod.fst = some 0 := by decide

end QemuHal
