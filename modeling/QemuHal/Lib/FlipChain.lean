import Mathlib.Logic.Function.Basic
import Mathlib.Algebra.Notation.Defs

/-!
# Flip chains

A producer owns the two buffers it made last, `current` and `last`, and somebody
else keeps a raw pointer, `remembered`, to the buffer to be released next. A
display shows one framebuffer on each of its planes; a request collects the
framebuffers the next flip puts there, newest first. A frame rotates the owners,
puts the new framebuffer into the request, has the request accepted and releases
the remembered buffer.

The law: a framebuffer is removed only while no plane shows it, and `remembered`
points to a buffer that is still owned. `Spare` and `Replaced` are what a frame
has to check for it.
-/

namespace FlipChain

variable {B Q F : Type}

/-- `0` stands for no framebuffer. -/
structure Chain (B Q F : Type) where
  current : Option (B × F)
  last : Option (B × F)
  remembered : Option B
  shown : Q → F
  request : Q → List F

namespace Chain

/-- The chain owns `b`, which holds the framebuffer `f`. -/
def Holds (c : Chain B Q F) (b : B) (f : F) : Prop :=
  c.current = some (b, f) ∨ c.last = some (b, f)

/-! ## The steps of a frame -/

/-- The new buffer `b` pushes the chain along; the last buffer is destroyed. -/
def rotate (c : Chain B Q F) (b : B) (f : F) : Chain B Q F :=
  { c with current := some (b, f), last := c.current }

/-- The framebuffer `f` is put on the plane `q` in the request. -/
def put [DecidableEq Q] (c : Chain B Q F) (q : Q) (f : F) : Chain B Q F :=
  { c with request := Function.update c.request q (f :: c.request q) }

def accept (c : Chain B Q F) : Chain B Q F :=
  { c with shown := fun q => (c.request q).head?.getD (c.shown q), request := fun _ => [] }

def discard (c : Chain B Q F) : Chain B Q F :=
  { c with request := fun _ => [] }

/-- A buffer with its framebuffer replaced by `f` where it is `b`. -/
def relabel [DecidableEq B] (b : B) (f : F) : Option (B × F) → Option (B × F) :=
  Option.map fun e => if e.1 = b then (b, f) else e

/-- The remembered buffer `b` gives its framebuffer back, which leaves it with
`f`. -/
def release [DecidableEq B] (c : Chain B Q F) (b : B) (f : F) : Chain B Q F :=
  { c with current := relabel b f c.current, last := relabel b f c.last }

/-- Remember the current buffer. -/
def remember (c : Chain B Q F) : Chain B Q F :=
  { c with remembered := c.current.map Prod.fst }

/-! ## The invariant -/

variable [Zero F]

structure Inv (c : Chain B Q F) : Prop where
  apart : ∀ b f f', c.current = some (b, f) → c.last ≠ some (b, f')
  fbs : ∀ b b' f, c.Holds b f → c.Holds b' f → f ≠ 0 → b = b'
  remembered : ∀ b, c.remembered = some b → ∃ f, c.Holds b f
  shown : ∀ q, c.shown q ≠ 0 → ∃ b, c.Holds b (c.shown q)
  request : ∀ q, ∀ f ∈ c.request q, f ≠ 0 →
    ∃ b, c.Holds b f ∧ c.remembered ≠ some b

/-- The last buffer can be destroyed. -/
def Spare (c : Chain B Q F) : Prop :=
  ∀ b f, c.last = some (b, f) →
    c.remembered ≠ some b ∧ (f ≠ 0 → ∀ q, c.shown q ≠ f ∧ f ∉ c.request q)

/-- The request replaces the remembered buffer wherever it is shown. -/
def Replaced (c : Chain B Q F) : Prop :=
  ∀ b f, c.remembered = some b → c.Holds b f → f ≠ 0 →
    ∀ q, c.shown q = f → c.request q ≠ []

/-- The remembered buffer is not shown. -/
def Hidden (c : Chain B Q F) : Prop :=
  ∀ b f, c.remembered = some b → c.Holds b f → f ≠ 0 → ∀ q, c.shown q ≠ f

theorem rotate_inv {c : Chain B Q F} (h : c.Inv) (hs : c.Spare) {b : B} {f : F}
    (hb : ∀ f', ¬ c.Holds b f') (hf : f ≠ 0 → ∀ b', ¬ c.Holds b' f) :
    (c.rotate b f).Inv := by
  -- what is held afterwards is the new buffer or the one that was current
  have hcases : ∀ {b' f'}, (c.rotate b f).Holds b' f' →
      (b' = b ∧ f' = f) ∨ c.current = some (b', f') := by
    rintro b' f' (hnew | hold)
    · have : (b, f) = (b', f') := Option.some.inj hnew
      exact Or.inl ⟨(congrArg Prod.fst this).symm, (congrArg Prod.snd this).symm⟩
    · exact Or.inr hold
  have hkept : ∀ {b' f'}, c.Holds b' f' → c.last ≠ some (b', f') →
      (c.rotate b f).Holds b' f' := by
    rintro b' f' (hcur | hlast) hne
    · exact Or.inr hcur
    · exact absurd hlast hne
  refine ⟨?_, ?_, ?_, ?_, ?_⟩
  · intro b' f₁ f₂ hcur hlast
    have hnew : (b, f) = (b', f₁) := Option.some.inj hcur
    have : b = b' := congrArg Prod.fst hnew
    exact hb f₂ (this ▸ Or.inl hlast)
  · intro b₁ b₂ f' h₁ h₂ hne
    rcases hcases h₁ with ⟨hb₁, hf₁⟩ | hcur₁ <;> rcases hcases h₂ with ⟨hb₂, hf₂⟩ | hcur₂
    · rw [hb₁, hb₂]
    · subst hf₁
      exact absurd (Or.inl hcur₂) (hf hne b₂)
    · subst hf₂
      exact absurd (Or.inl hcur₁) (hf hne b₁)
    · exact h.fbs b₁ b₂ f' (Or.inl hcur₁) (Or.inl hcur₂) hne
  · intro b' hr
    obtain ⟨f', hf'⟩ := h.remembered b' hr
    exact ⟨f', hkept hf' fun hl => (hs b' f' hl).1 hr⟩
  · intro q hq
    obtain ⟨b', hb'⟩ := h.shown q hq
    exact ⟨b', hkept hb' fun hl => ((hs b' _ hl).2 hq q).1 rfl⟩
  · intro q f' hreq hne
    obtain ⟨b', hb', hrem⟩ := h.request q f' hreq hne
    exact ⟨b', hkept hb' fun hl => ((hs b' f' hl).2 hne q).2 hreq, hrem⟩

theorem put_inv [DecidableEq Q] {c : Chain B Q F} (h : c.Inv) {b : B} {f : F}
    (hc : c.Holds b f) (hr : c.remembered ≠ some b) (q : Q) : (c.put q f).Inv where
  apart := h.apart
  fbs := h.fbs
  remembered := h.remembered
  shown := h.shown
  request := by
    intro q' f' hreq hne
    simp only [put, Function.update_apply] at hreq
    split at hreq
    · rcases List.mem_cons.1 hreq with rfl | hreq
      · exact ⟨b, hc, hr⟩
      · exact h.request q f' hreq hne
    · exact h.request q' f' hreq hne

/-! ## Several rotations in one frame -/

/-- The current buffer can be destroyed. -/
def SpareCurrent (c : Chain B Q F) : Prop :=
  ∀ b f, c.current = some (b, f) →
    c.remembered ≠ some b ∧ (f ≠ 0 → ∀ q, c.shown q ≠ f)

/-- The chain can be rotated `n` times more before its request is accepted. A third
rotation would destroy a buffer of the same request. -/
structure Ready (c : Chain B Q F) (n : Nat) : Prop where
  bound : n ≤ 2
  first : 1 ≤ n → c.Spare
  second : 2 ≤ n → c.SpareCurrent ∧ ∀ q, c.request q = []

/-- One rotation whose framebuffer goes to the plane `q`. -/
theorem Ready.turn [DecidableEq Q] {c : Chain B Q F} {n : Nat} (hr : c.Ready (n + 1))
    (h : c.Inv) {b : B} {f : F} (hb : ∀ f', ¬ c.Holds b f')
    (hf : f ≠ 0 → ∀ b', ¬ c.Holds b' f) (q : Q) :
    ((c.rotate b f).put q f).Inv ∧ ((c.rotate b f).put q f).Ready n := by
  have hspare := hr.first (by omega)
  have hinv := rotate_inv h hspare hb hf
  have hrem : c.remembered ≠ some b := by
    intro he
    obtain ⟨f', hf'⟩ := h.remembered b he
    exact hb f' hf'
  refine ⟨put_inv hinv (Or.inl rfl) hrem q, ?_⟩
  have hbound := hr.bound
  refine ⟨by omega, fun hn => ?_, fun hn => by omega⟩
  obtain ⟨hcur, hnone⟩ := hr.second (by omega)
  intro b' f' hlast
  obtain ⟨hne, hshown⟩ := hcur b' f' hlast
  refine ⟨hne, fun hf' q' => ⟨hshown hf' q', ?_⟩⟩
  -- only the new framebuffer has been requested, and the old buffer holds another
  have hold : ∀ q, (c.rotate b f).request q = [] := hnone
  simp only [put, Function.update_apply, hold]
  split
  · simp only [List.mem_singleton]
    rintro rfl
    exact hf hf' b' (Or.inl hlast)
  · simp

/-- What a frame keeps of the chain `c₀` it started with. -/
structure Since (c₀ c : Chain B Q F) : Prop where
  remembered : c.remembered = c₀.remembered
  shown : ∀ q, c.shown q = c₀.shown q
  holds : ∀ b f, c₀.remembered = some b → c.Holds b f → c₀.Holds b f

omit [Zero F] in
theorem Since.refl (c : Chain B Q F) : Since c c :=
  ⟨rfl, fun _ => rfl, fun _ _ _ h => h⟩

theorem Since.rotate {c₀ c : Chain B Q F} (hs : Since c₀ c) (h : c.Inv) {b : B} {f : F}
    (hb : ∀ f', ¬ c.Holds b f') : Since c₀ (c.rotate b f) := by
  refine ⟨hs.remembered, hs.shown, fun b' f' hr hh => ?_⟩
  rcases hh with hnew | hold
  · have : (b, f) = (b', f') := Option.some.inj hnew
    have hbb : b = b' := congrArg Prod.fst this
    obtain ⟨f'', hf''⟩ := h.remembered b' (hs.remembered.trans hr)
    exact absurd hf'' (hbb ▸ hb f'')
  · exact hs.holds b' f' hr (Or.inl hold)

omit [Zero F] in
theorem Since.put [DecidableEq Q] {c₀ c : Chain B Q F} (hs : Since c₀ c) (q : Q) (f : F) :
    Since c₀ (c.put q f) :=
  ⟨hs.remembered, hs.shown, hs.holds⟩

/-- The request replaces the remembered buffer if it has a framebuffer for every
plane that showed it when the frame started. -/
theorem Since.replaced {c₀ c : Chain B Q F} (hs : Since c₀ c)
    (h : ∀ b f, c₀.remembered = some b → c₀.Holds b f → f ≠ 0 →
      ∀ q, c₀.shown q = f → c.request q ≠ []) : c.Replaced := by
  intro b f hr hh hf q hq
  have hr' : c₀.remembered = some b := hs.remembered.symm.trans hr
  exact h b f hr' (hs.holds b f hr' hh) hf q ((hs.shown q).symm.trans hq)

theorem discard_inv {c : Chain B Q F} (h : c.Inv) : c.discard.Inv where
  apart := h.apart
  fbs := h.fbs
  remembered := h.remembered
  shown := h.shown
  request := by simp [discard]

theorem accept_inv {c : Chain B Q F} (h : c.Inv) (hr : c.Replaced) :
    c.accept.Inv ∧ c.accept.Hidden := by
  refine ⟨⟨h.apart, h.fbs, h.remembered, ?_, by simp [accept]⟩, ?_⟩
  · intro q hq
    cases hreq : c.request q with
    | nil =>
        simp only [accept, hreq, List.head?_nil, Option.getD_none] at hq ⊢
        exact h.shown q hq
    | cons f fs =>
        simp only [accept, hreq, List.head?_cons, Option.getD_some] at hq ⊢
        obtain ⟨b, hb, -⟩ := h.request q f (by simp [hreq]) hq
        exact ⟨b, hb⟩
  · intro b f hrem hb hf q hq
    cases hreq : c.request q with
    | nil =>
        simp only [accept, hreq, List.head?_nil, Option.getD_none] at hq
        exact hr b f hrem hb hf q hq hreq
    | cons f' fs =>
        simp only [accept, hreq, List.head?_cons, Option.getD_some] at hq
        obtain rfl := hq
        obtain ⟨b', hb', hne⟩ := h.request q f' (by simp [hreq]) hf
        exact hne (h.fbs b b' f' hb hb' hf ▸ hrem)

/-! ## Releasing -/

theorem relabel_eq_some [DecidableEq B] {b b' : B} {f f' : F} {e : Option (B × F)} :
    relabel b f e = some (b', f') ↔
      (b' = b ∧ f' = f ∧ ∃ f₀, e = some (b, f₀)) ∨ (b' ≠ b ∧ e = some (b', f')) := by
  cases e with
  | none => simp [relabel]
  | some e =>
      obtain ⟨b₀, f₀⟩ := e
      by_cases hb : b₀ = b
      · subst hb
        simp only [relabel, Option.map_some, if_true, Option.some.injEq, Prod.mk.injEq]
        constructor
        · rintro ⟨rfl, rfl⟩
          exact Or.inl ⟨rfl, rfl, f₀, trivial, rfl⟩
        · rintro (⟨rfl, rfl, -⟩ | ⟨hne, rfl, -⟩)
          · exact ⟨rfl, rfl⟩
          · exact absurd rfl hne
      · simp only [relabel, Option.map_some, if_neg hb, Option.some.injEq, Prod.mk.injEq]
        constructor
        · rintro ⟨rfl, rfl⟩
          exact Or.inr ⟨hb, rfl, rfl⟩
        · rintro (⟨-, -, f₁, rfl, -⟩ | ⟨-, rfl, rfl⟩)
          · exact absurd rfl hb
          · exact ⟨rfl, rfl⟩

theorem holds_release [DecidableEq B] {c : Chain B Q F} {b b' : B} {f f' : F} :
    (c.release b f).Holds b' f' ↔
      (b' = b ∧ f' = f ∧ ∃ f₀, c.Holds b f₀) ∨ (b' ≠ b ∧ c.Holds b' f') := by
  simp only [Holds, release, relabel_eq_some]
  constructor
  · rintro ((⟨h₁, h₂, f₀, h₃⟩ | ⟨h₁, h₂⟩) | (⟨h₁, h₂, f₀, h₃⟩ | ⟨h₁, h₂⟩))
    · exact Or.inl ⟨h₁, h₂, f₀, Or.inl h₃⟩
    · exact Or.inr ⟨h₁, Or.inl h₂⟩
    · exact Or.inl ⟨h₁, h₂, f₀, Or.inr h₃⟩
    · exact Or.inr ⟨h₁, Or.inr h₂⟩
  · rintro (⟨h₁, h₂, f₀, h₃ | h₃⟩ | ⟨h₁, h₂ | h₂⟩)
    · exact Or.inl (Or.inl ⟨h₁, h₂, f₀, h₃⟩)
    · exact Or.inr (Or.inl ⟨h₁, h₂, f₀, h₃⟩)
    · exact Or.inl (Or.inr ⟨h₁, h₂⟩)
    · exact Or.inr (Or.inr ⟨h₁, h₂⟩)

/-- A hidden buffer can give back its framebuffer, or keep it. -/
theorem release_inv [DecidableEq B] {c : Chain B Q F} (h : c.Inv) (hh : c.Hidden)
    {b : B} {f₀ f : F} (hr : c.remembered = some b) (hb : c.Holds b f₀)
    (hf : f = 0 ∨ f = f₀) : (c.release b f).Inv where
  apart := by
    intro b' f₁ f₂ hcur hlast
    simp only [release, relabel_eq_some] at hcur hlast
    rcases hcur with ⟨rfl, -, g₁, h₁⟩ | ⟨hne, h₁⟩ <;>
      rcases hlast with ⟨hb', -, g₂, h₂⟩ | ⟨hne', h₂⟩
    · exact h.apart _ _ _ h₁ h₂
    · exact hne' rfl
    · exact hne hb'
    · exact h.apart _ _ _ h₁ h₂
  fbs := by
    intro b₁ b₂ f' h₁ h₂ hne
    rw [holds_release] at h₁ h₂
    have hold : ∀ {b'}, f' = f → b' = b → c.Holds b' f' := by
      rintro b' rfl rfl
      rcases hf with rfl | rfl
      · exact absurd rfl hne
      · exact hb
    rcases h₁ with ⟨rfl, h₁, -⟩ | ⟨-, h₁⟩ <;> rcases h₂ with ⟨rfl, h₂, -⟩ | ⟨-, h₂⟩
    · rfl
    · exact h.fbs _ _ _ (hold h₁ rfl) h₂ hne
    · exact h.fbs _ _ _ h₁ (hold h₂ rfl) hne
    · exact h.fbs _ _ _ h₁ h₂ hne
  remembered := by
    intro b' hb'
    obtain rfl : b = b' := Option.some.inj (hr.symm.trans hb')
    exact ⟨f, holds_release.2 (Or.inl ⟨rfl, rfl, f₀, hb⟩)⟩
  shown := by
    intro q hq
    obtain ⟨b', hb'⟩ := h.shown q hq
    have hne : b' ≠ b := fun he => hh b _ hr (he ▸ hb') hq q rfl
    exact ⟨b', holds_release.2 (Or.inr ⟨hne, hb'⟩)⟩
  request := by
    intro q f' hreq hne
    obtain ⟨b', hb', hrem⟩ := h.request q f' hreq hne
    have hne' : b' ≠ b := fun he => hrem (he ▸ hr)
    exact ⟨b', holds_release.2 (Or.inr ⟨hne', hb'⟩), hrem⟩

theorem remember_inv {c : Chain B Q F} (h : c.Inv) (hreq : ∀ q, c.request q = []) :
    c.remember.Inv where
  apart := h.apart
  fbs := h.fbs
  remembered := by
    intro b hb
    obtain ⟨⟨b', f⟩, hcur, rfl⟩ := Option.map_eq_some_iff.1 hb
    exact ⟨f, Or.inl hcur⟩
  shown := h.shown
  request := by
    intro q f hq
    simp [remember, hreq] at hq

end Chain

end FlipChain
