import Mathlib.Data.Bool.Basic
import Mathlib.Tactic.Ring

/-!
# Checked machine arithmetic

A machine word stands for an integer of a fixed range. `Checked α` is a result together
with the note that every operation it took was exact, that is, that no value had to be
wrapped around to fit its type. `Exactly c Q` says that `c` is exact and its result
satisfies `Q`, and has one rule for each operation.
-/

/-- A type of machine words: the integers of a range, everything else being wrapped. -/
class Word (ω : Type) where
  val : ω → Int
  ofInt : Int → ω
  lo : Int
  hi : Int
  bounds : ∀ w, lo ≤ val w ∧ val w ≤ hi
  val_ofInt : ∀ {x}, lo ≤ x → x ≤ hi → val (ofInt x) = x
  val_inj : ∀ {v w}, val v = val w → v = w

namespace Word

instance : Word UInt32 where
  val w := w.toNat
  ofInt := UInt32.ofInt
  lo := 0
  hi := 2 ^ 32 - 1
  bounds w := by
    have hlt := w.toNat_lt
    omega
  val_ofInt := by
    intro x hlo hhi
    rw [UInt32.ofInt, UInt32.toNat_ofNat', Int.emod_eq_of_lt hlo (by omega),
      Nat.mod_eq_of_lt (by omega)]
    omega
  val_inj h := UInt32.toNat_inj.1 (Int.ofNat_inj.1 h)

instance : Word UInt64 where
  val w := w.toNat
  ofInt := UInt64.ofInt
  lo := 0
  hi := 2 ^ 64 - 1
  bounds w := by
    have hlt := w.toNat_lt
    omega
  val_ofInt := by
    intro x hlo hhi
    rw [UInt64.ofInt, UInt64.toNat_ofNat', Int.emod_eq_of_lt hlo (by omega),
      Nat.mod_eq_of_lt (by omega)]
    omega
  val_inj h := UInt64.toNat_inj.1 (Int.ofNat_inj.1 h)

instance : Word Int32 where
  val := Int32.toInt
  ofInt := Int32.ofInt
  lo := -2 ^ 31
  hi := 2 ^ 31 - 1
  bounds w := by
    have hlo := w.le_toInt
    have hhi := w.toInt_lt
    omega
  val_ofInt := by
    intro x hlo hhi
    exact Int32.toInt_ofInt_of_le hlo (by omega)
  val_inj := Int32.toInt_inj.1

theorem val_uint32 (w : UInt32) : val w = w.toNat := rfl

theorem val_uint64 (w : UInt64) : val w = w.toNat := rfl

theorem val_int32 (w : Int32) : val w = w.toInt := rfl

variable {ω : Type} [Word ω]

/-- An integer of the range is a word. -/
theorem exists_val {x : Int} (hlo : lo ω ≤ x) (hhi : x ≤ hi ω) : ∃ w : ω, val w = x :=
  ⟨ofInt x, val_ofInt hlo hhi⟩

end Word

structure Checked (α : Type) where
  value : α
  exact : Bool
deriving DecidableEq, Repr

namespace Checked

open Word

variable {α β ω ψ : Type} [Word ω] [Word ψ]

instance : Monad Checked where
  pure a := ⟨a, true⟩
  bind c f := ⟨(f c.value).value, c.exact && (f c.value).exact⟩

/-- An integer stored in a word. -/
def fit (x : Int) : Checked ω := ⟨ofInt x, decide (lo ω ≤ x ∧ x ≤ hi ω)⟩

def add (a b : ω) : Checked ω := fit (val a + val b)

def sub (a b : ω) : Checked ω := fit (val a - val b)

def mul (a b : ω) : Checked ω := fit (val a * val b)

/-- Division rounds towards `0`. -/
def div (a b : ω) : Checked ω :=
  ⟨ofInt ((val a).tdiv (val b)),
    decide (val b ≠ 0 ∧ lo ω ≤ (val a).tdiv (val b) ∧ (val a).tdiv (val b) ≤ hi ω)⟩

/-- A word of one type assigned to another. -/
def convert (a : ω) : Checked ψ := fit (val a)

/-- `c` is exact and its result satisfies `Q`. -/
def Exactly (c : Checked α) (Q : α → Prop) : Prop := c.exact = true ∧ Q c.value

/-! ## Rules -/

section
variable {Q Q' : α → Prop} {P : ω → Prop}

@[simp] theorem exactly_pure {a : α} : Exactly (pure a) Q ↔ Q a := by
  simp [Exactly, pure]

@[simp] theorem exactly_bind {c : Checked α} {f : α → Checked β} {R : β → Prop} :
    Exactly (c >>= f) R ↔ Exactly c fun a => Exactly (f a) R := by
  simp [Exactly, bind, and_assoc]

theorem exactly_fit {x : Int} : Exactly (fit x) P ↔ ∃ w : ω, val w = x ∧ P w := by
  unfold Exactly fit
  rw [decide_eq_true_iff]
  constructor
  · rintro ⟨⟨hlo, hhi⟩, hP⟩
    exact ⟨ofInt x, val_ofInt hlo hhi, hP⟩
  · rintro ⟨w, rfl, hP⟩
    have hw : ofInt (val w) = w := val_inj (val_ofInt (bounds w).1 (bounds w).2)
    exact ⟨bounds w, by rwa [hw]⟩

@[simp] theorem exactly_add {a b : ω} :
    Exactly (add a b) P ↔ ∃ w, val w = val a + val b ∧ P w := exactly_fit

@[simp] theorem exactly_sub {a b : ω} :
    Exactly (sub a b) P ↔ ∃ w, val w = val a - val b ∧ P w := exactly_fit

@[simp] theorem exactly_mul {a b : ω} :
    Exactly (mul a b) P ↔ ∃ w, val w = val a * val b ∧ P w := exactly_fit

@[simp] theorem exactly_convert {a : ω} {R : ψ → Prop} :
    Exactly (convert a) R ↔ ∃ w : ψ, val w = val a ∧ R w := exactly_fit

@[simp] theorem exactly_div {a b : ω} :
    Exactly (div a b) P ↔ val b ≠ 0 ∧ ∃ w, val w = (val a).tdiv (val b) ∧ P w := by
  rw [← exactly_fit]
  simp only [Exactly, div, fit, decide_eq_true_eq, and_assoc]

/-! ## Words of 32 bits -/

theorem exists_int32 {n : Nat} (h : n < 2 ^ 31) : ∃ w : Int32, w.toInt = n :=
  exists_val (show -2 ^ 31 ≤ _ by omega) (show _ ≤ 2 ^ 31 - 1 by omega)

theorem exists_uint32 {n : Nat} (h : n < 2 ^ 32) : ∃ w : UInt32, w.toNat = n :=
  ⟨UInt32.ofNat n, UInt32.toNat_ofNat_of_lt' h⟩

theorem exactly_mul_uint32 {a b : UInt32} {R : UInt32 → Prop} :
    Exactly (mul a b) R ↔ ∃ w : UInt32, w.toNat = a.toNat * b.toNat ∧ R w := by
  rw [exactly_mul]
  refine exists_congr fun w => and_congr_left' ?_
  rw [val_uint32, val_uint32, val_uint32, ← Int.natCast_mul, Int.ofNat_inj]

theorem exactly_div_uint32 {a b : UInt32} (hb : 0 < b.toNat) {R : UInt32 → Prop} :
    Exactly (div a b) R ↔ ∃ w : UInt32, w.toNat = a.toNat / b.toNat ∧ R w := by
  have hne : val b ≠ 0 := by
    rw [val_uint32]
    omega
  rw [exactly_div, and_iff_right hne]
  refine exists_congr fun w => and_congr_left' ?_
  rw [val_uint32, val_uint32, val_uint32, ← Int.ofNat_tdiv, Int.ofNat_inj]

/-- Widening is exact. -/
theorem exactly_widen {a : UInt32} {R : UInt64 → Prop} :
    Exactly (convert a) R ↔ R a.toUInt64 := by
  have ha : val a.toUInt64 = val a := by
    rw [val_uint64, val_uint32, UInt32.toNat_toUInt64]
  rw [exactly_convert]
  constructor
  · rintro ⟨w, hw, hR⟩
    exact val_inj (hw.trans ha.symm) ▸ hR
  · exact fun hR => ⟨_, ha, hR⟩

end

end Checked
