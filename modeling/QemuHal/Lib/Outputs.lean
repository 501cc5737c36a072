import Mathlib.Logic.Function.Basic
import Mathlib.Algebra.Notation.Defs

/-!
# Outputs

Several outputs show framebuffers, each on a plane of its own. An output owns the two buffers
made for it last. A new buffer pushes the older one out, and with it its framebuffer, if the
kernel removes that one. Whether the buffer is shown in the end is decided later.

`Phase` is what an output shows and who owns it: the newest buffer (`shown`), the one before
(`fading`), or nobody any more (`leaked`). Only the framebuffer of a `fading` output can be
removed while it is shown (`Inv.spare_iff`).
-/

namespace Outputs

variable {D B Q F C : Type}

/-- `0` stands for no framebuffer. -/
structure State (D B Q F C : Type) where
  current : D → Option B
  last : D → Option B
  fb : B → F
  content : F → Option C
  shown : Q → F
  drives : D → Q → Prop

inductive Phase (C : Type) where
  | dark
  | shown (c : C)
  | fading (c : C)
  | leaked (c : C)
deriving DecidableEq, Repr

namespace Phase

/-- A buffer is made that is not shown. -/
def age : Phase C → Phase C
  | .dark => .dark
  | .shown c => .fading c
  | .fading c => .leaked c
  | .leaked c => .leaked c

/-- What is on the output. -/
def content : Phase C → Option C
  | .dark => none
  | .shown c => some c
  | .fading c => some c
  | .leaked c => some c

def isFading : Phase C → Bool
  | .fading _ => true
  | _ => false

end Phase

variable [Zero F]

/-- The framebuffer `f`, which holds `c`, is on the output. -/
structure State.Lit (s : State D B Q F C) (d : D) (f : F) (c : C) : Prop where
  ne_zero : f ≠ 0
  content : s.content f = some c
  plane : ∃ q, s.drives d q ∧ s.shown q = f

/-- What a phase says of an output. -/
def Phase.Holds (s : State D B Q F C) (d : D) : Phase C → Prop
  | .dark => ∀ q, s.drives d q → s.shown q = 0
  | .shown c => ∃ b, s.current d = some b ∧ s.Lit d (s.fb b) c
  | .fading c => ∃ b, s.last d = some b ∧ s.Lit d (s.fb b) c
  | .leaked c => ∃ f, s.Lit d f c ∧ ∀ b, s.fb b ≠ f

structure Inv (φ : D → Phase C) (s : State D B Q F C) : Prop where
  plane : ∀ d q q', s.drives d q → s.drives d q' → q = q'
  output : ∀ d d' q, s.drives d q → s.drives d' q → d = d'
  free : ∀ q, (∀ d, ¬ s.drives d q) → s.shown q = 0
  current : ∀ d d' b, s.current d = some b → s.current d' = some b → d = d'
  last : ∀ d d' b, s.last d = some b → s.last d' = some b → d = d'
  apart : ∀ d d' b, s.current d = some b → s.last d' ≠ some b
  fbs : ∀ b b', s.fb b = s.fb b' → s.fb b ≠ 0 → b = b'
  phase : ∀ d, (φ d).Holds s d

section
variable {φ : D → Phase C} {s s' : State D B Q F C} {d : D}

/-- A step that leaves the plane and the buffers of an output alone. -/
theorem Phase.Holds.keep {p : Phase C} {e : D} (h : p.Holds s e)
    (hdark : ∀ q, s'.drives e q → (∀ q, s.drives e q → s.shown q = 0) → s'.shown q = 0)
    (hlit : ∀ f c, s.Lit e f c → s'.Lit e f c)
    (hcurrent : ∀ b, s.current e = some b → s'.current e = some b ∧ s'.fb b = s.fb b)
    (hlast : ∀ b, s.last e = some b → s'.last e = some b ∧ s'.fb b = s.fb b)
    (hleaked : ∀ f c, s.Lit e f c → (∀ b, s.fb b ≠ f) → ∀ b, s'.fb b ≠ f) : p.Holds s' e := by
  cases p with
  | dark => exact fun q hq => hdark q hq h
  | shown c =>
      obtain ⟨b, hb, hl⟩ := h
      exact ⟨b, (hcurrent b hb).1, by rw [(hcurrent b hb).2]; exact hlit _ c hl⟩
  | fading c =>
      obtain ⟨b, hb, hl⟩ := h
      exact ⟨b, (hlast b hb).1, by rw [(hlast b hb).2]; exact hlit _ c hl⟩
  | leaked c =>
      obtain ⟨f, hl, hnone⟩ := h
      exact ⟨f, hlit f c hl, hleaked f c hl hnone⟩

/-! ## What a plane shows -/

namespace Inv

/-- What is lit on an output is what its plane shows. -/
theorem shown_of_lit (h : Inv φ s) {f : F} {c : C} (hlit : s.Lit d f c) {q : Q}
    (hq : s.drives d q) : s.shown q = f := by
  obtain ⟨q', hq', hf⟩ := hlit.plane
  rw [h.plane d q q' hq hq']
  exact hf

/-- The buffer made before the newest is shown only where the output is fading. -/
theorem spare_iff (h : Inv φ s) {b : B} (hlast : s.last d = some b) (hne : s.fb b ≠ 0) :
    (∀ q, s.shown q ≠ s.fb b) ↔ (φ d).isFading = false := by
  constructor
  · intro hspare
    cases hφ : φ d with
    | fading c =>
        have hphase := h.phase d
        rw [hφ] at hphase
        obtain ⟨b', hb', hlit⟩ := hphase
        obtain rfl : b = b' := Option.some.inj (hlast.symm.trans hb')
        obtain ⟨q, -, hq⟩ := hlit.plane
        exact absurd hq (hspare q)
    | dark => rfl
    | shown c => rfl
    | leaked c => rfl
  · intro hφ q he
    by_cases hfree : ∀ e, ¬ s.drives e q
    · exact hne (he.symm.trans (h.free q hfree))
    · obtain ⟨e, hq⟩ := not_forall_not.1 hfree
      have hphase := h.phase e
      cases hφe : φ e with
      | dark =>
          rw [hφe] at hphase
          exact hne (he.symm.trans (hphase q hq))
      | shown c =>
          rw [hφe] at hphase
          obtain ⟨b', hcur, hlit⟩ := hphase
          have hbb := h.fbs b b' (he.symm.trans (h.shown_of_lit hlit hq)) hne
          exact h.apart e d b' hcur (hbb ▸ hlast)
      | fading c =>
          rw [hφe] at hphase
          obtain ⟨b', hb', hlit⟩ := hphase
          have hbb := h.fbs b b' (he.symm.trans (h.shown_of_lit hlit hq)) hne
          obtain rfl : d = e := h.last d e b' (hbb ▸ hlast) hb'
          rw [hφe] at hφ
          exact absurd hφ (by simp [Phase.isFading])
      | leaked c =>
          rw [hφe] at hphase
          obtain ⟨f, hlit, hnone⟩ := hphase
          exact hnone b (he.symm.trans (h.shown_of_lit hlit hq))

/-- No output is fading whose older buffer has no framebuffer. -/
theorem not_fading (h : Inv φ s) (hlast : ∀ b, s.last d = some b → s.fb b = 0) :
    (φ d).isFading = false := by
  have hphase := h.phase d
  cases hφ : φ d with
  | fading c =>
      rw [hφ] at hphase
      obtain ⟨b, hb, hlit⟩ := hphase
      exact absurd (hlast b hb) hlit.ne_zero
  | dark => rfl
  | shown c => rfl
  | leaked c => rfl

/-- An output whose phase has content is lit with it. -/
theorem lit_of_content (h : Inv φ s) {c : C} (hc : (φ d).content = some c) : ∃ f, s.Lit d f c := by
  have hphase := h.phase d
  cases hφ : φ d with
  | dark =>
      rw [hφ] at hc
      exact absurd hc (by simp [Phase.content])
  | shown x =>
      rw [hφ] at hc hphase
      cases hc
      obtain ⟨b, -, hb⟩ := hphase
      exact ⟨_, hb⟩
  | fading x =>
      rw [hφ] at hc hphase
      cases hc
      obtain ⟨b, -, hb⟩ := hphase
      exact ⟨_, hb⟩
  | leaked x =>
      rw [hφ] at hc hphase
      cases hc
      obtain ⟨f, hf, -⟩ := hphase
      exact ⟨f, hf⟩

theorem shown_of_dark (h : Inv φ s) (hc : (φ d).content = none) {q : Q} (hq : s.drives d q) :
    s.shown q = 0 := by
  have hphase := h.phase d
  cases hφ : φ d with
  | dark =>
      rw [hφ] at hphase
      exact hphase q hq
  | shown x | fading x | leaked x =>
      rw [hφ] at hc
      exact absurd hc (by simp [Phase.content])

end Inv

/-! ## A new buffer -/

/-- The buffer `b` with the framebuffer `f`, which holds `c`, is made for the output `d`; the
buffer made before the newest goes, and the framebuffer `gone` is removed. -/
structure Rotates [DecidableEq D] [DecidableEq B] [DecidableEq F] (s s' : State D B Q F C) (d : D)
    (b : B) (f : F) (c : Option C) (gone : F) : Prop where
  current : s'.current = Function.update s.current d (some b)
  last : s'.last = Function.update s.last d (s.current d)
  fb : ∀ x, s'.fb x = if s.last d = some x then 0 else if x = b then f else s.fb x
  content : ∀ g, g ≠ 0 → s'.content g = if g = gone then none else if g = f then c else s.content g
  shown : s'.shown = s.shown
  drives : s'.drives = s.drives

section
variable [DecidableEq D] [DecidableEq B] [DecidableEq F] {b : B} {f gone : F} {c : Option C}

/-- A framebuffer that is shown stays, if it is not the one removed. -/
theorem Rotates.lit (hr : Rotates s s' d b f c gone) (hfresh : f ≠ 0 → s.content f = none)
    (hgone : gone ≠ 0 → ∀ q, s.shown q ≠ gone) {e : D} {g : F} {x : C} (hlit : s.Lit e g x) :
    s'.Lit e g x where
  ne_zero := hlit.ne_zero
  content := by
    have hg : g ≠ gone := by
      rintro rfl
      obtain ⟨q, -, hq⟩ := hlit.plane
      exact hgone hlit.ne_zero q hq
    have hf : g ≠ f := by
      rintro rfl
      exact absurd hlit.content (by simp [hfresh hlit.ne_zero])
    rw [hr.content g hlit.ne_zero, if_neg hg, if_neg hf]
    exact hlit.content
  plane := by
    rw [hr.drives, hr.shown]
    exact hlit.plane

/-- A buffer is made for an output; what the output shows is one buffer older. -/
theorem Inv.rotate (h : Inv φ s) (hr : Rotates s s' d b f c gone)
    (hcur : ∀ e, s.current e ≠ some b) (hlast : ∀ e, s.last e ≠ some b)
    (hfresh : f ≠ 0 → s.content f = none ∧ ∀ x, s.fb x ≠ f)
    (hgone : gone ≠ 0 → ∀ q, s.shown q ≠ gone) :
    Inv (Function.update φ d (φ d).age) s' where
  plane := by
    rw [hr.drives]
    exact h.plane
  output := by
    rw [hr.drives]
    exact h.output
  free := by
    rw [hr.drives, hr.shown]
    exact h.free
  current := by
    intro e e' x he he'
    rw [hr.current, Function.update_apply] at he he'
    split at he <;> split at he'
    · next h₁ h₂ => rw [h₁, h₂]
    · exact absurd (he.symm ▸ he') (hcur e')
    · exact absurd (he'.symm ▸ he) (hcur e)
    · exact h.current e e' x he he'
  last := by
    intro e e' x he he'
    rw [hr.last, Function.update_apply] at he he'
    split at he <;> split at he'
    · next h₁ h₂ => rw [h₁, h₂]
    · exact absurd he' (h.apart d e' x he)
    · exact absurd he (h.apart d e x he')
    · exact h.last e e' x he he'
  apart := by
    intro e e' x he he'
    rw [hr.current, Function.update_apply] at he
    rw [hr.last, Function.update_apply] at he'
    split at he <;> split at he'
    · exact hcur d (he ▸ he')
    · exact hlast e' (he ▸ he')
    · next hne _ => exact hne (h.current e d x he he')
    · exact h.apart e e' x he he'
  fbs := by
    intro x y he hne
    have hstay : ∀ z, s'.fb z ≠ 0 → s.last d ≠ some z := by
      intro z hz hl
      rw [hr.fb, if_pos hl] at hz
      exact hz rfl
    have hne' : s'.fb y ≠ 0 := he ▸ hne
    have hx' := hstay x hne
    have hy' := hstay y hne'
    rw [hr.fb, if_neg hx'] at he hne
    rw [hr.fb, if_neg hy'] at he
    by_cases hx : x = b
    · by_cases hy : y = b
      · rw [hx, hy]
      · rw [if_pos hx] at he hne
        rw [if_neg hy] at he
        exact absurd he.symm ((hfresh hne).2 y)
    · rw [if_neg hx] at he hne
      by_cases hy : y = b
      · rw [if_pos hy] at he
        exact absurd he ((hfresh (he ▸ hne)).2 x)
      · rw [if_neg hy] at he
        exact h.fbs x y he hne
  phase := by
    intro e
    have hlit : ∀ {e g x}, s.Lit e g x → s'.Lit e g x := fun hl =>
      hr.lit (fun hf => (hfresh hf).1) hgone hl
    -- the framebuffer of a buffer that stays
    have hfb : ∀ x, s.last d ≠ some x → x ≠ b → s'.fb x = s.fb x := by
      intro x hx hb
      rw [hr.fb, if_neg hx, if_neg hb]
    have hleaked : ∀ {g x}, s.Lit e g x → (∀ y, s.last d ≠ some y → s.fb y ≠ g) →
        ∀ y, s'.fb y ≠ g := by
      intro g x hl hnone y hy
      rw [hr.fb] at hy
      split at hy
      · exact hl.ne_zero hy.symm
      · next hyl =>
          split at hy
          · have hf : f ≠ 0 := fun hz => hl.ne_zero (hy.symm.trans hz)
            have hcontent := hl.content
            rw [← hy, (hfresh hf).1] at hcontent
            exact absurd hcontent (by simp)
          · exact hnone y hyl hy
    have hphase := h.phase e
    by_cases he : e = d
    · subst he
      rw [Function.update_self]
      cases hφ : φ e with
      | dark =>
          rw [hφ] at hphase
          intro q hq
          rw [hr.drives] at hq
          rw [hr.shown]
          exact hphase q hq
      | shown x =>
          rw [hφ] at hphase
          obtain ⟨y, hy, hl⟩ := hphase
          refine ⟨y, by rw [hr.last, Function.update_self]; exact hy, ?_⟩
          rw [hfb y (h.apart e e y hy) (fun hb => hcur e (hb ▸ hy))]
          exact hlit hl
      | fading x =>
          rw [hφ] at hphase
          obtain ⟨y, hy, hl⟩ := hphase
          refine ⟨s.fb y, hlit hl, hleaked hl fun z hz heq => ?_⟩
          have hyz := h.fbs y z heq.symm hl.ne_zero
          exact hz (hyz ▸ hy)
      | leaked x =>
          rw [hφ] at hphase
          obtain ⟨g, hl, hnone⟩ := hphase
          exact ⟨g, hlit hl, hleaked hl fun y _ => hnone y⟩
    · rw [Function.update_of_ne he]
      refine hphase.keep ?_ (fun _ _ => hlit) ?_ ?_ (fun _ _ hl hnone => hleaked hl fun y _ => hnone y)
      · intro q hq hdark
        rw [hr.drives] at hq
        rw [hr.shown]
        exact hdark q hq
      · intro y hy
        refine ⟨by rw [hr.current, Function.update_of_ne he]; exact hy, ?_⟩
        exact hfb y (h.apart e d y hy) (fun hb => hcur e (hb ▸ hy))
      · intro y hy
        refine ⟨by rw [hr.last, Function.update_of_ne he]; exact hy, ?_⟩
        exact hfb y (fun hd => he (h.last e d y hy hd)) (fun hb => hlast e (hb ▸ hy))

end

/-! ## A plane for an output -/

/-- The plane `q` is given to the output `d`. -/
structure Binds (s s' : State D B Q F C) (d : D) (q : Q) : Prop where
  current : s'.current = s.current
  last : s'.last = s.last
  fb : s'.fb = s.fb
  content : s'.content = s.content
  shown : s'.shown = s.shown
  drives : ∀ e p, s'.drives e p ↔ s.drives e p ∨ (e = d ∧ p = q)

theorem Binds.lit {q : Q} (hb : Binds s s' d q) {e : D} {f : F} {c : C} (hlit : s.Lit e f c) :
    s'.Lit e f c where
  ne_zero := hlit.ne_zero
  content := by
    rw [hb.content]
    exact hlit.content
  plane := by
    obtain ⟨p, hp, hf⟩ := hlit.plane
    exact ⟨p, (hb.drives e p).2 (Or.inl hp), by rw [hb.shown]; exact hf⟩

/-- An output gets a plane of nobody, or the one it has. -/
theorem Inv.bind (h : Inv φ s) {q : Q} (hb : Binds s s' d q) (hown : ∀ e, s.drives e q → e = d)
    (honly : ∀ p, s.drives d p → p = q) : Inv φ s' where
  plane := by
    intro e p p' hp hp'
    rcases (hb.drives e p).1 hp with hp | ⟨rfl, rfl⟩ <;>
      rcases (hb.drives e p').1 hp' with hp' | ⟨he, hq⟩
    · exact h.plane e p p' hp hp'
    · rw [he] at hp
      exact (honly p hp).trans hq.symm
    · exact (honly p' hp').symm
    · exact hq.symm
  output := by
    intro e e' p he he'
    rcases (hb.drives e p).1 he with he | ⟨rfl, rfl⟩ <;>
      rcases (hb.drives e' p).1 he' with he' | ⟨hd, hq⟩
    · exact h.output e e' p he he'
    · rw [hq] at he
      exact (hown e he).trans hd.symm
    · exact (hown e' he').symm
    · exact hd.symm
  free := by
    intro p hp
    rw [hb.shown]
    exact h.free p fun e he => hp e ((hb.drives e p).2 (Or.inl he))
  current := by
    rw [hb.current]
    exact h.current
  last := by
    rw [hb.last]
    exact h.last
  apart := by
    rw [hb.current, hb.last]
    exact h.apart
  fbs := by
    rw [hb.fb]
    exact h.fbs
  phase := by
    intro e
    refine (h.phase e).keep ?_ (fun _ _ => hb.lit) ?_ ?_ ?_
    · intro p hp hdark
      rw [hb.shown]
      rcases (hb.drives e p).1 hp with hp | ⟨rfl, rfl⟩
      · exact hdark p hp
      · by_cases hq : s.drives e p
        · exact hdark p hq
        · exact h.free p fun e' he' => hq (hown e' he' ▸ he')
    · exact fun b hcur => ⟨by rw [hb.current]; exact hcur, by rw [hb.fb]⟩
    · exact fun b hlast => ⟨by rw [hb.last]; exact hlast, by rw [hb.fb]⟩
    · intro f c _ hnone
      rw [hb.fb]
      exact hnone

/-! ## A request takes effect -/

/-- The planes show what the request asks for. -/
structure Shows (s s' : State D B Q F C) (request : Q → Option F) : Prop where
  current : s'.current = s.current
  last : s'.last = s.last
  fb : s'.fb = s.fb
  content : s'.content = s.content
  shown : ∀ q, s'.shown q = (request q).getD (s.shown q)
  drives : s'.drives = s.drives

/-- The request turns off planes of nobody, apart from what it asks of the output `d`. -/
def Modest (s : State D B Q F C) (d : D) (request : Q → Option F) : Prop :=
  ∀ q f, request q = some f → ¬ s.drives d q → f = 0 ∧ ∀ e, ¬ s.drives e q

namespace Shows

variable {request : Q → Option F}

/-- A plane of another output shows what it did. -/
theorem shown_other (hs : Shows s s' request) (hm : Modest s d request) (h : Inv φ s) {e : D}
    (he : e ≠ d) {q : Q} (hq : s.drives e q) : s'.shown q = s.shown q := by
  rw [hs.shown]
  cases hreq : request q with
  | none => rfl
  | some f =>
      have hd : ¬ s.drives d q := fun hd => he (h.output e d q hq hd)
      exact absurd hq ((hm q f hreq hd).2 e)

/-- An output whose plane shows what it did. -/
theorem holds (hs : Shows s s' request) {p : Phase C} {e : D} (h : p.Holds s e)
    (hsame : ∀ q, s.drives e q → s'.shown q = s.shown q) : p.Holds s' e := by
  refine h.keep ?_ ?_ ?_ ?_ ?_
  · intro q hq hdark
    rw [hs.drives] at hq
    rw [hsame q hq]
    exact hdark q hq
  · intro f c hlit
    obtain ⟨q, hq, hf⟩ := hlit.plane
    refine ⟨hlit.ne_zero, by rw [hs.content]; exact hlit.content, q, by rw [hs.drives]; exact hq, ?_⟩
    rw [hsame q hq]
    exact hf
  · exact fun b hcur => ⟨by rw [hs.current]; exact hcur, by rw [hs.fb]⟩
  · exact fun b hlast => ⟨by rw [hs.last]; exact hlast, by rw [hs.fb]⟩
  · intro f c _ hnone
    rw [hs.fb]
    exact hnone

/-- Everything but what the request asks of the output. -/
theorem inv [DecidableEq D] (hs : Shows s s' request) (hm : Modest s d request) (h : Inv φ s) {x : Phase C}
    (hx : x.Holds s' d) : Inv (Function.update φ d x) s' := by
  constructor
  · rw [hs.drives]
    exact h.plane
  · rw [hs.drives]
    exact h.output
  · intro q hq
    rw [hs.drives] at hq
    rw [hs.shown]
    cases hreq : request q with
    | none => exact h.free q hq
    | some f => exact (hm q f hreq (hq d)).1
  · rw [hs.current]
    exact h.current
  · rw [hs.last]
    exact h.last
  · rw [hs.current, hs.last]
    exact h.apart
  · rw [hs.fb]
    exact h.fbs
  · intro e
    by_cases he : e = d
    · rw [he, Function.update_self]
      exact hx
    · rw [Function.update_of_ne he]
      exact hs.holds (h.phase e) fun q hq => hs.shown_other hm h he hq

end Shows

/-- The newest buffer is put on the plane of the output. -/
theorem Inv.flip [DecidableEq D] {request : Q → Option F} (h : Inv φ s) (hs : Shows s s' request)
    (hm : Modest s d request) {q : Q} {b : B} {c : C} (hq : s.drives d q)
    (hcur : s.current d = some b) (hne : s.fb b ≠ 0) (hc : s.content (s.fb b) = some c)
    (hreq : request q = some (s.fb b)) : Inv (Function.update φ d (.shown c)) s' := by
  refine hs.inv hm h ⟨b, by rw [hs.current]; exact hcur, ?_⟩
  rw [hs.fb]
  refine ⟨hne, by rw [hs.content]; exact hc, q, by rw [hs.drives]; exact hq, ?_⟩
  rw [hs.shown, hreq]
  rfl

/-- A request that asks nothing of any output. -/
theorem Inv.blank [DecidableEq D] {request : Q → Option F} (h : Inv φ s) (hs : Shows s s' request)
    (hm : Modest s d request) (hd : ∀ q, s.drives d q → request q = none) : Inv φ s' := by
  have hx := hs.holds (h.phase d) fun q hq => by rw [hs.shown, hd q hq]; rfl
  have hinv := hs.inv hm h hx
  rwa [Function.update_eq_self] at hinv

end

end Outputs
