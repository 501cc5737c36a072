import QemuHal.Frame.Calm

/-!
# What a frame leaves alone

`Apply` works on the descriptors and objects of the kernel, on layers and on the
composition. It creates and destroys no layer, and leaves the connector, the CRTC and
the two layer containers of the display as they are.
-/

namespace QemuHal

open Exec

/-- What the containers know of a layer. -/
def HdiLayer.filed (l : HdiLayer) : Nat × Nat := (l.mId, l.mZorder)

structure Steady (w w' : World) : Prop where
  world : w' = { w with drm := w'.drm, disp := w'.disp }
  disp : w'.disp = { w.disp with
    layers := w'.disp.layers
    mClientLayer := w'.disp.mClientLayer
    mCursorLayer := w'.disp.mCursorLayer
    mComposer := w'.disp.mComposer }
  filed : ∀ n, (w'.disp.layers n).map HdiLayer.filed = (w.disp.layers n).map HdiLayer.filed
  composed : w.disp.mComposer ≠ none → w'.disp.mComposer ≠ none

namespace Steady

variable {w w' w'' : World}

theorem refl (w : World) : Steady w w := ⟨rfl, rfl, fun _ => rfl, id⟩

theorem trans (h : Steady w w') (h' : Steady w' w'') : Steady w w'' where
  world := by
    rw [h'.world, h.world]
  disp := by
    rw [h'.disp, h.disp]
  filed := fun n => (h'.filed n).trans (h.filed n)
  composed := fun hc => h'.composed (h.composed hc)

theorem setDrm (w : World) (d : Drm) : Steady w (w.setDrm d) :=
  ⟨rfl, rfl, fun _ => rfl, id⟩

theorem setComposition (w : World) (c : HdiDrmComposition) : Steady w (w.setComposition c) :=
  ⟨rfl, rfl, fun _ => rfl, fun _ => by simp⟩

theorem setLayer {p : LayerRef} {l : HdiLayer} (h : w.layerAt p = some l) (l' : HdiLayer)
    (hl : l'.filed = l.filed) : Steady w (w.setLayer p l') := by
  cases p with
  | client => exact ⟨rfl, rfl, fun _ => rfl, id⟩
  | cursor => exact ⟨rfl, rfl, fun _ => rfl, id⟩
  | created n =>
      refine ⟨rfl, rfl, fun m => ?_, id⟩
      simp only [World.setLayer, Function.update_apply]
      split
      · next hm =>
          subst hm
          have hm : w.disp.layers m = some l := h
          rw [hm, Option.map_some, Option.map_some, hl]
      · rfl

theorem setDrm_setLayer {p : LayerRef} {l : HdiLayer} (h : w.layerAt p = some l) (d : Drm)
    (l' : HdiLayer) (hl : l'.filed = l.filed) : Steady w ((w.setDrm d).setLayer p l') :=
  (setDrm w d).trans (setLayer (by simpa using h) l' hl)

end Steady

/-- The operation is steady when it returns. -/
def IsSteady {α : Type} (m : Hal α) : Prop :=
  ∀ w, Post m w (fun _ w' => Steady w w') (fun _ _ => True)

section
variable {α β : Type}

theorem IsSteady.bind {m : Hal α} {f : α → Hal β} (hm : IsSteady m) (hf : ∀ a, IsSteady (f a)) :
    IsSteady (m >>= f) := by
  intro w
  rw [post_bind]
  apply (hm w).mono
  · intro a w' h
    exact (hf a w').mono (fun _ _ h' => h.trans h') (fun _ _ _ => trivial)
  · exact fun _ _ _ => trivial

theorem IsSteady.pure (a : α) : IsSteady (pure a : Hal α) := fun w => Steady.refl w

theorem isSteady_derefLayer (p : LayerRef) : IsSteady (derefLayer p) :=
  fun w => derefLayer_post (fun _ _ => Steady.refl w) (fun _ _ => trivial)

theorem isSteady_theComposition : IsSteady theComposition :=
  fun w => theComposition_post (fun _ _ => Steady.refl w) (fun _ _ => trivial)

theorem isSteady_setTheComposition (c : HdiDrmComposition) : IsSteady (setTheComposition c) :=
  fun w => Steady.setComposition w c

theorem isSteady_derefBuffer (l : HdiLayer) : IsSteady (derefBuffer l) :=
  fun w => derefBuffer_post (fun _ _ => Steady.refl w) (fun _ _ => trivial)

theorem isSteady_derefGem (gem : Nat) : IsSteady (derefGem gem) := by
  intro w
  unfold derefGem
  rw [post_bind, post_get]
  cases w.drm.gems gem with
  | none => trivial
  | some g => exact Steady.refl w

theorem isSteady_getGemBuffer (a : PlaneAnswers) (p : LayerRef) :
    IsSteady (getGemBuffer a p) := by
  intro w
  unfold getGemBuffer
  rw [post_bind]
  apply derefLayer_post
  · intro l hl
    rw [post_bind]
    apply derefBuffer_post
    · intro buf _
      simp only [post_bind, post_get, post_set, post_pure]
      exact Steady.setDrm_setLayer hl _ _ rfl
    · exact fun _ _ => trivial
  · exact fun _ _ => trivial

/-! ## The loops -/

theorem isSteady_applyLayer (s : Slot) (a : PlaneAnswers) (p : LayerRef) (drmPlane : DrmPlane)
    (pset : AtomicReq) : IsSteady (applyLayer s a p drmPlane pset) := by
  apply (isSteady_derefLayer p).bind
  intro l
  apply (isSteady_derefBuffer l).bind
  intro buf
  rcases setPlaneProperties s a l buf drmPlane pset with ⟨ok, pset'⟩
  cases ok with
  | false => exact IsSteady.pure _
  | true =>
      apply (isSteady_getGemBuffer a p).bind
      intro gem
      apply isSteady_theComposition.bind
      intro c
      apply (isSteady_setTheComposition _).bind
      intro _
      apply (isSteady_derefGem gem).bind
      intro gemBuffer w
      exact Steady.refl w

theorem isSteady_applyPlanes (a : Nat → PlaneAnswers) (mPlanes : List DrmPlane) :
    ∀ i mCompLayers pset, IsSteady (applyPlanes a i mCompLayers mPlanes pset) := by
  induction mPlanes with
  | nil =>
      intro i mCompLayers pset
      cases mCompLayers <;> exact IsSteady.pure _
  | cons drmPlane mPlanes ih =>
      intro i mCompLayers pset
      cases mCompLayers with
      | nil => exact IsSteady.pure _
      | cons p mCompLayers =>
          apply (isSteady_applyLayer .primary (a i) p drmPlane pset).bind
          rintro ⟨ret, pset'⟩
          show IsSteady (if ret ≠ .success then _ else _)
          split
          · exact IsSteady.pure _
          · exact ih _ _ _

theorem isSteady_applyCursorPlanes (a : Nat → PlaneAnswers) (p : LayerRef)
    (mCursorPlanes : List DrmPlane) :
    ∀ j pset, IsSteady (applyCursorPlanes a p j mCursorPlanes pset) := by
  induction mCursorPlanes with
  | nil => exact fun _ _ => IsSteady.pure _
  | cons drmPlane mCursorPlanes ih =>
      intro j pset
      apply (isSteady_applyLayer .cursor (a j) p drmPlane pset).bind
      rintro ⟨ret, pset'⟩
      show IsSteady (if ret ≠ .success then _ else _)
      split
      · exact IsSteady.pure _
      · exact ih _ _

theorem isSteady_applyCursors (a : Nat → Nat → PlaneAnswers) (mCursorPlanes : List DrmPlane)
    (mCursorLayers : List LayerRef) :
    ∀ i pset, IsSteady (applyCursors a mCursorPlanes i mCursorLayers pset) := by
  induction mCursorLayers with
  | nil => exact fun _ _ => IsSteady.pure _
  | cons p mCursorLayers ih =>
      intro i pset
      apply (isSteady_applyCursorPlanes (a i) p mCursorPlanes 0 pset).bind
      rintro ⟨ret, pset'⟩
      exact ih _ _

theorem isSteady_applyCursorPart (a : FrameAnswers) (pset : AtomicReq) :
    IsSteady (applyCursorPart a pset) := by
  have hboot : IsSteady (checkbootCompleted a.bootCompleted) := by
    apply isSteady_theComposition.bind
    intro c
    split
    · exact IsSteady.pure _
    · split
      · exact (isSteady_setTheComposition _).bind fun _ => IsSteady.pure _
      · exact IsSteady.pure _
  apply hboot.bind
  intro completed
  split
  · exact isSteady_theComposition.bind fun c => isSteady_applyCursors _ _ _ _ _
  · exact IsSteady.pure _

/-! ## The mode and the commit -/

theorem isSteady_updateMode (a : FrameAnswers) (pset : AtomicReq) :
    IsSteady (updateMode a pset) := by
  intro w
  unfold updateMode
  rw [post_bind, post_get]
  dsimp only
  split
  · rw [post_bind]
    have hblock : Post (getModeBlockFromId w.disp.mCrtc.mActiveModeId a.createPropertyBlob) w
        (fun _ w' => Steady w w') (fun _ _ => True) := by
      unfold getModeBlockFromId
      rw [post_bind, post_get]
      dsimp only
      split
      · split
        · exact Steady.refl w
        · exact Steady.setDrm w _
      · exact Steady.refl w
    apply hblock.mono
    · intro blob w' h
      cases blob with
      | none => exact h
      | some blob => exact h
    · exact fun _ _ _ => trivial
  · exact Steady.refl w

theorem isSteady_setReleaseFences (fd : Int) (ps : List LayerRef) :
    IsSteady (setReleaseFences fd ps) := by
  induction ps with
  | nil => exact IsSteady.pure _
  | cons p ps ih =>
      intro w
      unfold setReleaseFences
      rw [post_bind]
      apply derefLayer_post
      · intro l hl
        rw [post_bind, post_modify]
        exact (ih _).mono (fun _ _ h => (Steady.setLayer hl (l.setReleaseFence fd) rfl).trans h) (fun _ _ _ => trivial)
      · exact fun _ _ => trivial

theorem isSteady_releaseLast (s : Slot) (a : DropAnswers) : IsSteady (releaseLast s a) := by
  apply isSteady_theComposition.bind
  intro c w
  rw [post_bind, post_get]
  split
  · exact Steady.setComposition w _
  · split
    · trivial
    · rw [post_bind, post_set]
      exact (Steady.setDrm w _).trans (Steady.setComposition _ _)

theorem isSteady_commitFrame (a : FrameAnswers) (pset : AtomicReq) :
    IsSteady (commitFrame a pset) := by
  intro w
  unfold commitFrame
  simp only [post_bind, post_get]
  rcases w.drm.atomicCommit pset a.atomicCommit with ⟨fence, d⟩
  rw [post_set]
  cases fence with
  | none => exact Steady.setDrm w d
  | some crtcOutFence =>
      have hrest : IsSteady (do
          let c ← theComposition
          setReleaseFences crtcOutFence c.mCompLayers
          setReleaseFences crtcOutFence c.mCursorLayers
          releaseLast .primary a.release
          releaseLast .cursor a.releaseCursor
          return DispStatus.success) := by
        apply isSteady_theComposition.bind
        intro c
        apply (isSteady_setReleaseFences _ _).bind
        intro _
        apply (isSteady_setReleaseFences _ _).bind
        intro _
        apply (isSteady_releaseLast _ _).bind
        intro _
        exact (isSteady_releaseLast _ _).bind fun _ => IsSteady.pure _
      exact (hrest (w.setDrm d)).mono (fun _ _ h => (Steady.setDrm w d).trans h)
        (fun _ _ _ => trivial)

/-- **A frame is steady**, whatever the kernel answers. -/
theorem isSteady_apply (a : FrameAnswers) : IsSteady (apply a) := by
  apply isSteady_theComposition.bind
  intro c
  split
  · exact IsSteady.pure _
  · split
    · exact IsSteady.pure _
    · intro w
      rw [post_bind, post_get]
      dsimp only
      rcases drmModeAtomicAddProperty (fun _ => a.outFencePtr) []
        ⟨.crtc w.disp.mCrtc.mId, .outFencePtr, 0⟩ with ⟨ok, pset⟩
      cases ok with
      | false => exact Steady.refl w
      | true =>
          have hframe : IsSteady (do
              let planes ← applyPlanes a.plane 0 c.mCompLayers c.mPlanes pset
              let pset ← applyCursorPart a planes.2
              let mode ← updateMode a pset
              let ret ← if mode.1 then commitFrame a mode.2.2 else pure .failure
              destroyModeBlock mode.2.1
              return ret) := by
            apply (isSteady_applyPlanes _ _ _ _ _).bind
            rintro ⟨ret, pset'⟩
            apply (isSteady_applyCursorPart a _).bind
            intro pset''
            apply (isSteady_updateMode a _).bind
            rintro ⟨ok, modeBlock, pset'''⟩
            have hend : ∀ ret : DispStatus, IsSteady (do destroyModeBlock modeBlock; return ret) := by
              intro ret
              have hblock : IsSteady (destroyModeBlock modeBlock) := by
                cases modeBlock with
                | none => exact IsSteady.pure _
                | some blob => exact fun w => Steady.setDrm w _
              exact hblock.bind fun _ => IsSteady.pure ret
            show IsSteady (if ok = true then _ else _)
            split
            · exact (isSteady_commitFrame a _).bind hend
            · exact (IsSteady.pure _).bind hend
          exact hframe w

end

end QemuHal
