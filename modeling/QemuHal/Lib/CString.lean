import Mathlib.Data.List.TakeWhile

/-!
# C strings

A pointer into a buffer is the rest of the buffer from there on. The string it points to ends
before the first NUL; `strlen` and `strcmp` go through the bytes one by one and give `none`
when they come to the end of the buffer instead.
-/

namespace CString

/-- The string a pointer points to. -/
def text (event : List UInt8) : List UInt8 := event.takeWhile (· ≠ 0)

def strlen : List UInt8 → Option Nat
  | [] => none
  | c :: event => if c = 0 then some 0 else (strlen event).map (· + 1)

/-- `strcmp(event, pattern) == 0`; the pattern is written without its NUL. -/
def strcmp : List UInt8 → List UInt8 → Option Bool
  | [], _ => none
  | c :: _, [] => some (decide (c = 0))
  | c :: event, p :: pattern => if c = p then strcmp event pattern else some false

variable {event pattern pad : List UInt8}

@[simp] theorem text_nil : text [] = [] := rfl

theorem text_cons (c : UInt8) (event : List UInt8) :
    text (c :: event) = if c = 0 then [] else c :: text event := by
  unfold text
  rw [List.takeWhile_cons]
  by_cases hc : c = 0
  · simp [hc]
  · simp [hc]

/-- What lies behind the NUL does not matter. -/
theorem text_append (h : (0 : UInt8) ∈ event ∨ pad.head? = some 0) :
    text (event ++ pad) = text event := by
  induction event with
  | nil =>
      cases pad with
      | nil => rfl
      | cons c pad =>
          have hc : c = 0 := by simpa using h
          rw [List.nil_append, text_cons, if_pos hc, text_nil]
  | cons c event ih =>
      rw [List.cons_append, text_cons, text_cons]
      by_cases hc : c = 0
      · rw [if_pos hc, if_pos hc]
      · rw [if_neg hc, if_neg hc, ih]
        rcases h with h | h
        · rcases List.mem_cons.1 h with rfl | h
          · exact absurd rfl hc
          · exact Or.inl h
        · exact Or.inr h

/-! ## Reading a string that ends in the buffer -/

theorem strlen_of_mem (h : (0 : UInt8) ∈ event) : strlen event = some (text event).length := by
  induction event with
  | nil => exact absurd h (by simp)
  | cons c event ih =>
      rw [strlen, text_cons]
      by_cases hc : c = 0
      · rw [if_pos hc, if_pos hc]
        rfl
      · have hmem : (0 : UInt8) ∈ event := by
          rcases List.mem_cons.1 h with h | h
          · exact absurd h.symm hc
          · exact h
        rw [if_neg hc, if_neg hc, ih hmem]
        rfl

theorem strcmp_of_mem (h : (0 : UInt8) ∈ event) (hpattern : (0 : UInt8) ∉ pattern) :
    strcmp event pattern = some (decide (text event = pattern)) := by
  induction event generalizing pattern with
  | nil => exact absurd h (by simp)
  | cons c event ih =>
      rw [text_cons]
      cases pattern with
      | nil => by_cases hc : c = 0 <;> simp [strcmp, hc]
      | cons p pattern =>
          have hp : p ≠ 0 := fun heq => hpattern (heq ▸ List.mem_cons_self)
          have hpattern : (0 : UInt8) ∉ pattern := fun hmem => hpattern (List.mem_cons_of_mem p hmem)
          rw [strcmp]
          by_cases hcp : c = p
          · have hc : c ≠ 0 := hcp ▸ hp
            have hmem : (0 : UInt8) ∈ event := by
              rcases List.mem_cons.1 h with h | h
              · exact absurd h.symm hc
              · exact h
            rw [if_pos hcp, if_neg hc, ih hmem hpattern, hcp]
            simp
          · rw [if_neg hcp]
            split
            · simp
            · simp [hcp]

/-! ## Reading a string that does not -/

theorem strlen_of_not_mem (h : (0 : UInt8) ∉ event) : strlen event = none := by
  induction event with
  | nil => rfl
  | cons c event ih =>
      have hc : c ≠ 0 := fun heq => h (heq ▸ List.mem_cons_self)
      rw [strlen, if_neg hc, ih fun hmem => h (List.mem_cons_of_mem c hmem)]
      rfl

/-- The comparison finds a difference or comes to the end of the buffer. -/
theorem strcmp_of_not_mem (h : (0 : UInt8) ∉ event) : strcmp event pattern ≠ some true := by
  induction event generalizing pattern with
  | nil => simp [strcmp]
  | cons c event ih =>
      have hc : c ≠ 0 := fun heq => h (heq ▸ List.mem_cons_self)
      cases pattern with
      | nil => simp [strcmp, hc]
      | cons p pattern =>
          rw [strcmp]
          split
          · exact ih fun hmem => h (List.mem_cons_of_mem c hmem)
          · simp

end CString
