import QemuHal.Drm.Composition
import QemuHal.Drm.Heap

/-!
# Well-formed displays

The invariant every operation of a display keeps, whatever the kernel answers:
the composition has the client layer as its only composition layer, its planes
are distinct, its current pointers follow the owners in the layers, no
`DrmGemBuffer` has two owners, and the last pointers point to destroyed objects
or to objects of their own slot. That they never point to destroyed ones fails in
some runs and is not part of it.
-/

namespace QemuHal

/-- The layer owns the object `b`. -/
def HdiLayer.Owns (l : HdiLayer) (b : Nat) : Prop :=
  l.mCurrentBuffer = some b ∨ l.lastBuffer_ = some b

/-- The composition of a display and the layers of its two slots. -/
structure Parts where
  comp : HdiDrmComposition
  layer : Slot → HdiLayer

namespace Parts

structure Of (p : Parts) (w : World) : Prop where
  comp : w.disp.mComposer = some p.comp
  layer : ∀ s : Slot, w.layerAt s.layer = some (p.layer s)

theorem Of.unique {p p' : Parts} {w : World} (h : p.Of w) (h' : p'.Of w) : p = p' := by
  obtain ⟨c, l⟩ := p
  obtain ⟨c', l'⟩ := p'
  have hc : c = c' := Option.some.inj (h.comp.symm.trans h'.comp)
  have hl : l = l' := funext fun s => Option.some.inj ((h.layer s).symm.trans (h'.layer s))
  rw [hc, hl]

end Parts

/-- The parts of a display, once it has them. -/
def World.parts (w : World) : Option Parts :=
  match w.disp.mComposer, w.disp.mClientLayer, w.disp.mCursorLayer with
  | some comp, some client, some cursor =>
      some ⟨comp, fun s => match s with
        | .primary => client
        | .cursor => cursor⟩
  | _, _, _ => none

theorem World.parts_of {w : World} {p : Parts} (hp : p.Of w) : w.parts = some p := by
  obtain ⟨c, l⟩ := p
  have hclient : w.disp.mClientLayer = some (l .primary) := hp.layer .primary
  have hcursor : w.disp.mCursorLayer = some (l .cursor) := hp.layer .cursor
  simp only [parts, hp.comp, hclient, hcursor, Option.some.injEq, Parts.mk.injEq, true_and]
  funext s
  cases s <;> rfl

namespace Parts

structure Good (p : Parts) (d : Drm) : Prop where
  compLayers : p.comp.mCompLayers = [.client]
  cursorLayers : p.comp.mCursorLayers = [] ∨ p.comp.mCursorLayers = [.cursor]
  planes : p.comp.mPlanes ≠ []
  distinctPlanes : ((p.comp.mPlanes ++ p.comp.mCursorPlanes).map DrmPlane.mId).Nodup
  clientBuffer : (p.layer .primary).mHdiBuffer ≠ none
  cursorBuffer : p.comp.mCursorLayers ≠ [] → (p.layer .cursor).mHdiBuffer ≠ none
  pointer : ∀ s, p.comp.currentGem s = (p.layer s).mCurrentBuffer
  live : ∀ s b, (p.layer s).Owns b → d.gems b ≠ none
  apart : ∀ s b, (p.layer s).mCurrentBuffer = some b → (p.layer s).lastBuffer_ ≠ some b
  disjoint : ∀ s s' b, (p.layer s).Owns b → (p.layer s').Owns b → s = s'
  remembered : ∀ s b, p.comp.lastGem s = some b →
    b < d.nextGem ∧ (d.gems b ≠ none → (p.layer s).Owns b)

end Parts

structure WellFormed (w : World) : Prop where
  sound : w.drm.Sound
  parts : ∃ p : Parts, p.Of w ∧ p.Good w.drm
  created : ∀ n l, w.disp.layers n = some l → ∀ b, ¬ l.Owns b

theorem WellFormed.good {w : World} {p : Parts} (h : WellFormed w) (hp : p.Of w) :
    p.Good w.drm := by
  obtain ⟨p', hp', hgood⟩ := h.parts
  obtain rfl := hp.unique hp'
  exact hgood

/-! ## Rotating a slot -/

namespace Parts

/-- The parts once the slot's layer has a new current buffer `gem`. -/
def rotate (p : Parts) (s : Slot) (gem : Nat) : Parts where
  comp := p.comp.setCurrentGem s (some gem)
  layer := Function.update p.layer s
    { p.layer s with
      lastBuffer_ := (p.layer s).mCurrentBuffer
      mCurrentBuffer := some gem }

theorem rotate_owns {p : Parts} {s s' : Slot} {gem b : Nat}
    (h : ((p.rotate s gem).layer s').Owns b) :
    (s' = s ∧ b = gem) ∨
      ((p.layer s').Owns b ∧ (s' = s → (p.layer s).mCurrentBuffer = some b)) := by
  unfold rotate at h
  by_cases hs : s' = s
  · subst hs
    simp only [Function.update_self] at h
    rcases h with h | h
    · exact Or.inl ⟨rfl, (Option.some.inj h).symm⟩
    · exact Or.inr ⟨Or.inl h, fun _ => h⟩
  · simp only [Function.update_of_ne hs] at h
    exact Or.inr ⟨h, fun he => absurd he hs⟩

end Parts

/-- `GetGemBuffer` on the layer of a slot, and the pointer set to its result. -/
def World.rotate (w : World) (s : Slot) (p : Parts) (buf : HdiLayerBuffer)
    (a : PlaneAnswers) : World :=
  let r := (p.layer s).getGemBuffer w.drm buf a
  ((w.setDrm r.2.2).setLayer s.layer r.2.1).setComposition
    (p.comp.setCurrentGem s (some r.1))

namespace World

variable {w : World} {s : Slot} {p : Parts} {buf : HdiLayerBuffer} {a : PlaneAnswers}

theorem rotate_drm : (w.rotate s p buf a).drm =
    (w.drm.newGem buf a.prime).2.destroyOwned (p.layer s).lastBuffer_ a.drop := by
  simp [rotate, HdiLayer.getGemBuffer]

theorem rotate_of (hp : p.Of w) :
    (p.rotate s w.drm.nextGem).Of (w.rotate s p buf a) where
  comp := rfl
  layer := by
    intro s'
    simp only [rotate, setComposition_layerAt, layerAt_setLayer, setDrm_layerAt, Parts.rotate,
      Function.update_apply]
    by_cases hs : s' = s
    · subst hs
      simp [HdiLayer.getGemBuffer, Drm.newGem_fst]
    · have hl : s'.layer ≠ s.layer := by
        cases s <;> cases s' <;> simp_all [Slot.layer]
      rw [if_neg hl, if_neg hs]
      exact hp.layer s'

theorem rotate_gems (k : Nat) : (w.rotate s p buf a).drm.gems k =
    if (p.layer s).lastBuffer_ = some k then none
    else if k = w.drm.nextGem then some (w.drm.newGemBuffer buf a.prime)
    else w.drm.gems k := by
  rw [rotate_drm, Drm.destroyOwned_gems, Drm.newGem_gems, Function.update_apply]

theorem rotate_sound (h : w.drm.Sound) : (w.rotate s p buf a).drm.Sound := by
  rw [rotate_drm]
  exact (h.newGem buf a.prime).destroyOwned _ _

theorem rotate_commits : commits (w.rotate s p buf a).drm.log = commits w.drm.log := by
  rw [rotate_drm, ((w.drm.newGem buf a.prime).2.destroyOwned_frame _ _).2.2.2, Drm.newGem_commits]

theorem rotate_fds : (w.rotate s p buf a).drm.fds = w.drm.fds := by
  rw [rotate_drm, ((w.drm.newGem buf a.prime).2.destroyOwned_frame _ _).1,
    (w.drm.newGem_fds buf a.prime).1]

theorem rotate_nextGem : (w.rotate s p buf a).drm.nextGem = w.drm.nextGem + 1 := by
  rw [rotate_drm, ((w.drm.newGem buf a.prime).2.destroyOwned_frame _ _).2.2.1,
    w.drm.newGem_nextGem]

theorem rotate_mCrtc : (w.rotate s p buf a).disp.mCrtc = w.disp.mCrtc := by
  simp [rotate]

theorem rotate_layers : (w.rotate s p buf a).disp.layers = w.disp.layers := by
  cases s <;> rfl

end World

/-- An owned object is not the next one to be allocated. -/
theorem Parts.Good.ne_next {p : Parts} {d : Drm} (h : p.Good d) (hd : d.Sound) {s : Slot}
    {b : Nat} (hb : (p.layer s).Owns b) : b ≠ d.nextGem := by
  rintro rfl
  exact h.live s _ hb (hd.unallocated _ (Nat.le_refl _))

theorem Parts.Good.rotate {w : World} {p : Parts} (h : p.Good w.drm) (hd : w.drm.Sound)
    (s : Slot) (buf : HdiLayerBuffer) (a : PlaneAnswers) :
    (p.rotate s w.drm.nextGem).Good (w.rotate s p buf a).drm where
  compLayers := by cases s <;> exact h.compLayers
  cursorLayers := by cases s <;> exact h.cursorLayers
  planes := by cases s <;> exact h.planes
  distinctPlanes := by cases s <;> exact h.distinctPlanes
  clientBuffer := by cases s <;> exact h.clientBuffer
  cursorBuffer := by cases s <;> exact h.cursorBuffer
  pointer := by
    intro s'
    simp only [Parts.rotate, HdiDrmComposition.setCurrentGem_currentGem, Function.update_apply]
    split
    · rfl
    · exact h.pointer s'
  live := by
    intro s' b hb
    rw [World.rotate_gems]
    rcases Parts.rotate_owns hb with ⟨rfl, rfl⟩ | ⟨hb, hcur⟩
    · have hlast : (p.layer s').lastBuffer_ ≠ some w.drm.nextGem :=
        fun he => h.ne_next hd (Or.inr he) rfl
      simp [hlast]
    · have hlast : (p.layer s).lastBuffer_ ≠ some b := by
        intro he
        have hs := h.disjoint s' s b hb (Or.inr he)
        exact h.apart s b (hcur hs) he
      rw [if_neg hlast, if_neg (h.ne_next hd hb)]
      exact h.live s' b hb
  apart := by
    intro s' b
    simp only [Parts.rotate, Function.update_apply]
    split
    · intro hcur hlast
      obtain rfl := Option.some.inj hcur
      exact h.ne_next hd (Or.inl hlast) rfl
    · exact h.apart s' b
  disjoint := by
    intro s₁ s₂ b h₁ h₂
    rcases Parts.rotate_owns h₁ with ⟨e₁, rfl⟩ | ⟨h₁, -⟩ <;>
      rcases Parts.rotate_owns h₂ with ⟨e₂, hb⟩ | ⟨h₂, -⟩
    · rw [e₁, e₂]
    · exact absurd rfl (h.ne_next hd h₂)
    · exact absurd hb (h.ne_next hd h₁)
    · exact h.disjoint s₁ s₂ b h₁ h₂
  remembered := by
    intro s' b hb
    have hlast : (p.rotate s w.drm.nextGem).comp.lastGem s' = p.comp.lastGem s' := by
      simp [Parts.rotate]
    rw [hlast] at hb
    obtain ⟨hlt, hown⟩ := h.remembered s' b hb
    rw [World.rotate_nextGem]
    refine ⟨by omega, fun hlive => ?_⟩
    rw [World.rotate_gems] at hlive
    split at hlive
    · exact absurd rfl hlive
    · next hne =>
        rw [if_neg (by omega)] at hlive
        have howns := hown hlive
        unfold Parts.rotate
        by_cases hs : s' = s
        · subst hs
          rcases howns with hcur | hl
          · exact Or.inr (by simpa using hcur)
          · exact absurd hl hne
        · simpa [Function.update_of_ne hs] using howns

theorem WellFormed.rotate {w : World} {p : Parts} (h : WellFormed w) (hp : p.Of w)
    (s : Slot) (buf : HdiLayerBuffer) (a : PlaneAnswers) : WellFormed (w.rotate s p buf a) := by
  obtain ⟨p', hp', hgood⟩ := h.parts
  obtain rfl := hp.unique hp'
  refine ⟨World.rotate_sound h.sound, ⟨_, World.rotate_of hp, hgood.rotate h.sound s buf a⟩, ?_⟩
  rw [World.rotate_layers]
  exact h.created

/-! ## One layer on one plane -/

/-- **What `ApplyPlane` and `ApplyCursor` do.** They set the plane's properties,
and if none fails they rotate the slot and put the new framebuffer into the
request. -/
theorem applyLayer_eq {w : World} {p : Parts} {s : Slot} {buf : HdiLayerBuffer}
    (h : WellFormed w) (hp : p.Of w) (hbuf : (p.layer s).mHdiBuffer = some buf)
    (a : PlaneAnswers) (drmPlane : DrmPlane) (pset : AtomicReq) :
    applyLayer s a s.layer drmPlane pset w =
      match setPlaneProperties s a (p.layer s) buf drmPlane pset with
      | (false, pset) => .ok (.failure, pset) w
      | (true, pset) =>
          .ok (setFbProperties a (w.drm.newGemBuffer buf a.prime) w.disp.mCrtc.mId drmPlane pset)
            (w.rotate s p buf a) := by
  unfold applyLayer
  rw [Exec.bind_of_ok (derefLayer_of (hp.layer s)), Exec.bind_of_ok (derefBuffer_of hbuf)]
  rcases setPlaneProperties s a (p.layer s) buf drmPlane pset with ⟨ok, pset'⟩
  cases ok with
  | false => rfl
  | true =>
      dsimp only
      have hget : getGemBuffer a s.layer w = .ok w.drm.nextGem
          ((w.setDrm ((p.layer s).getGemBuffer w.drm buf a).2.2).setLayer s.layer
            ((p.layer s).getGemBuffer w.drm buf a).2.1) := by
        unfold getGemBuffer
        rw [Exec.bind_of_ok (derefLayer_of (hp.layer s)), Exec.bind_of_ok (derefBuffer_of hbuf)]
        rfl
      have hcomp : ((w.setDrm ((p.layer s).getGemBuffer w.drm buf a).2.2).setLayer s.layer
          ((p.layer s).getGemBuffer w.drm buf a).2.1).disp.mComposer = some p.comp := by
        simp [hp.comp]
      rw [Exec.bind_of_ok hget, Exec.bind_of_ok (theComposition_of hcomp)]
      obtain ⟨p', hp', hgood⟩ := h.parts
      obtain rfl := hp.unique hp'
      -- the new object is not the one `GetGemBuffer` destroys
      have hnew : (w.rotate s p buf a).drm.gems w.drm.nextGem =
          some (w.drm.newGemBuffer buf a.prime) := by
        have hlast : (p.layer s).lastBuffer_ ≠ some w.drm.nextGem :=
          fun he => hgood.ne_next h.sound (Or.inr he) rfl
        simp [World.rotate_gems, hlast]
      have hset : setTheComposition (p.comp.setCurrentGem s (some w.drm.nextGem))
          ((w.setDrm ((p.layer s).getGemBuffer w.drm buf a).2.2).setLayer s.layer
            ((p.layer s).getGemBuffer w.drm buf a).2.1) = .ok () (w.rotate s p buf a) := rfl
      have hderef : derefGem w.drm.nextGem (w.rotate s p buf a) =
          .ok (w.drm.newGemBuffer buf a.prime) (w.rotate s p buf a) := by
        unfold derefGem
        rw [Exec.get_bind, hnew]
        rfl
      rw [Exec.bind_of_ok hset, Exec.bind_of_ok hderef, Exec.get_bind, World.rotate_mCrtc]
      rfl

end QemuHal
