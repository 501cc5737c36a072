import QemuHal.Lib.Rounding

/-!
# Address spaces

The regions of a process, each with the file it shows and with whoever had it made.
`place` puts a region where the kernel chooses, which is never at address `0`, never
inside a page and never over another region; `unmap` takes a range of pages out and may
cut regions that reach beyond it.
-/

namespace AddressSpace

open Rounding

variable {φ ω : Type}

def pageSize : Nat := 4096

/-- `length` is as asked for. The last page of a region is a whole one. -/
structure Region (φ ω : Type) where
  addr : Nat
  length : Nat
  file : φ
  offset : Nat := 0
  owner : ω
deriving DecidableEq, Repr

namespace Region

/-- The first address past the region. -/
def stop (r : Region φ ω) : Nat := r.addr + roundUp r.length pageSize

def Apart (r : Region φ ω) (lo hi : Nat) : Prop := r.stop ≤ lo ∨ hi ≤ r.addr

instance (r : Region φ ω) (lo hi : Nat) : Decidable (r.Apart lo hi) :=
  inferInstanceAs (Decidable (_ ∨ _))

/-- What is left of a region when the addresses from `lo` to `hi` are taken out. -/
def outside (r : Region φ ω) (lo hi : Nat) : List (Region φ ω) :=
  if r.Apart lo hi then [r]
  else
    (if r.addr < lo then [{ r with length := lo - r.addr }] else []) ++
      (if hi < r.stop then
        [{ r with addr := hi, length := r.stop - hi, offset := r.offset + (hi - r.addr) }]
      else [])

theorem owner_of_mem_outside {r q : Region φ ω} {lo hi : Nat} (h : q ∈ r.outside lo hi) :
    q.owner = r.owner := by
  unfold outside at h
  split at h
  · rw [List.mem_singleton.1 h]
  · rcases List.mem_append.1 h with hq | hq
    all_goals
      split at hq
      · rw [List.mem_singleton.1 hq]
      · simp at hq

/-- Nothing is left of a region taken out as a whole. -/
theorem outside_self {r : Region φ ω} (h : 0 < r.length) : r.outside r.addr r.stop = [] := by
  have hlt : r.addr < r.stop := by
    have hle := le_roundUp (n := r.length) (a := pageSize) (by decide)
    unfold stop
    omega
  have hover : ¬ r.Apart r.addr r.stop := by
    unfold Apart
    omega
  simp [outside, hover]

end Region

/-- The kernel may put a region of this length at `addr`. -/
def Usable (space : List (Region φ ω)) (length addr : Nat) : Prop :=
  0 < length ∧ 0 < addr ∧ pageSize ∣ addr ∧ addr + roundUp length pageSize ≤ 2 ^ 64 ∧
    ∀ r ∈ space, r.Apart addr (addr + roundUp length pageSize)

instance (space : List (Region φ ω)) (length addr : Nat) :
    Decidable (Usable space length addr) :=
  inferInstanceAs (Decidable (_ ∧ _ ∧ _ ∧ _ ∧ ∀ r ∈ space, _))

/-- The region made by an `mmap` whose address the kernel answers, if it answers one. -/
def place (space : List (Region φ ω)) (length : Nat) (file : φ) (owner : ω) :
    Option Nat → Option (Region φ ω)
  | none => none
  | some addr =>
      if Usable space length addr then some { addr, length, file, owner } else none

/-- The pages from `lo` to `hi` taken out. -/
def unmap (space : List (Region φ ω)) (lo hi : Nat) : List (Region φ ω) :=
  space.flatMap (·.outside lo hi)

theorem place_eq_some {space : List (Region φ ω)} {length : Nat} {file : φ} {owner : ω}
    {answer : Option Nat} {r : Region φ ω} (h : place space length file owner answer = some r) :
    Usable space length r.addr ∧ r = { addr := r.addr, length, file, owner } := by
  unfold place at h
  split at h
  · simp at h
  · split at h
    · next hu =>
        cases h
        exact ⟨hu, rfl⟩
    · simp at h

theorem exists_of_mem_unmap {space : List (Region φ ω)} {lo hi : Nat} {q : Region φ ω}
    (h : q ∈ unmap space lo hi) : ∃ r ∈ space, q ∈ r.outside lo hi :=
  List.mem_flatMap.1 h

/-- Taking out the only region of an owner leaves none of theirs. -/
theorem owner_of_mem_unmap {space : List (Region φ ω)} {r : Region φ ω} (hlen : 0 < r.length)
    (hsole : ∀ q ∈ space, q.owner = r.owner → q = r) {q : Region φ ω}
    (hq : q ∈ unmap space r.addr r.stop) : q.owner ≠ r.owner := by
  intro howner
  obtain ⟨p, hp, hpq⟩ := exists_of_mem_unmap hq
  have hpr := hsole p hp ((Region.owner_of_mem_outside hpq).symm.trans howner)
  rw [hpr, Region.outside_self hlen] at hpq
  simp at hpq

end AddressSpace
