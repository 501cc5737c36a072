import QemuHal.Common.Frame

/-!
# The planes of a frame

`Planes` is what the frames of the common HAL do to the planes and the modes of the device.
Every run of a session is a run of `Planes` on the device, and builds the same requests.
-/

namespace QemuHal.Common.Frame

open Exec

/-! ## What a frame leaves of its display -/

/-- The composition of the display, as `Planes` has it. -/
def DrmDisplay.composition (disp : DrmDisplay) : Planes.HdiDrmComposition where
  mCrtc := disp.mCrtc
  mConnectorId := disp.mConnectorId
  mPlanes := disp.mPlanes
  mCompLayers := disp.mCompLayers.map fun _ => disp.mClientLayer.toComp

/-- The display is the same but for the buffers and the release fence of its client layer. -/
structure Alike (disp disp' : DrmDisplay) : Prop where
  mCrtc : disp'.mCrtc = disp.mCrtc
  mConnectorId : disp'.mConnectorId = disp.mConnectorId
  mPlanes : disp'.mPlanes = disp.mPlanes
  mCompLayers : disp'.mCompLayers = disp.mCompLayers
  mLayersMap : disp'.mLayersMap = disp.mLayersMap
  mHdiBuffer : disp'.mClientLayer.mHdiBuffer = disp.mClientLayer.mHdiBuffer
  toComp : disp'.mClientLayer.toComp = disp.mClientLayer.toComp

namespace Alike

variable {disp disp' disp'' : DrmDisplay}

theorem refl (disp : DrmDisplay) : Alike disp disp := ⟨rfl, rfl, rfl, rfl, rfl, rfl, rfl⟩

theorem trans (h : Alike disp disp') (h' : Alike disp' disp'') : Alike disp disp'' where
  mCrtc := h'.mCrtc.trans h.mCrtc
  mConnectorId := h'.mConnectorId.trans h.mConnectorId
  mPlanes := h'.mPlanes.trans h.mPlanes
  mCompLayers := h'.mCompLayers.trans h.mCompLayers
  mLayersMap := h'.mLayersMap.trans h.mLayersMap
  mHdiBuffer := h'.mHdiBuffer.trans h.mHdiBuffer
  toComp := h'.toComp.trans h.toComp

theorem composition (h : Alike disp disp') : disp'.composition = disp.composition := by
  unfold DrmDisplay.composition
  rw [h.mCrtc, h.mConnectorId, h.mPlanes, h.mCompLayers, h.toComp]

end Alike

/-! ## The answers that are left -/

/-- The answers of a frame once its buffers have been made and the kernel has decided. -/
def FrameAnswers.toPlanes (a : FrameAnswers) (gem : Nat → Planes.DrmGemBuffer) (accepted : Bool) :
    Planes.ApplyAnswers where
  modeBlock := a.modeBlock
  modeProperty := fun prop => a.modeAlloc && a.modeProperty prop
  modeCommit := a.modeCommit
  atomicAlloc := a.atomicAlloc
  outFencePtr := a.outFencePtr
  layer := fun i => { addProperty := (a.plane i).addProperty, gem := gem i }
  unuse := a.unuse
  addProperty := a.addProperty
  atomicCommit := accepted

/-- A buffer that could not be made. -/
def noGem : Planes.DrmGemBuffer := ⟨0, 0⟩

/-! ## `ApplyPlane` -/

/-- The world once `GetGemBuffer` has made a buffer for the client layer. -/
def World.rotate (w : World) (buf : HdiLayerBuffer) (a : PlaneAnswers) : World :=
  (w.setDrm (w.disp.mClientLayer.getGemBuffer w.drm buf a).2.2).setClient
    (w.disp.mClientLayer.getGemBuffer w.drm buf a).2.1

/-- What `ApplyPlane` sets once it has the buffer. -/
def fbProperties (a : PlaneAnswers) (gem : Option DrmGemBuffer) (plane crtcId : Nat)
    (pset : Planes.AtomicReq) : Bool × Planes.AtomicReq :=
  match gem with
  | none => (false, pset)
  | some gemBuffer =>
      if isValid gemBuffer then
        Planes.addProperties a.addProperty pset
          [⟨.plane plane, .fbId, gemBuffer.mFdId⟩, ⟨.plane plane, .crtcId, crtcId⟩]
      else (false, pset)

section
variable {w : World} {buf : HdiLayerBuffer} {plane : Nat} {pset pset' : Planes.AtomicReq}

theorem World.rotate_alike (w : World) (buf : HdiLayerBuffer) (a : PlaneAnswers) :
    Alike w.disp (w.rotate buf a).disp := ⟨rfl, rfl, rfl, rfl, rfl, rfl, rfl⟩

theorem toComp_none {l : HdiDrmLayer} (h : l.mHdiBuffer = none) : l.toComp.mHdiBuffer = none := by
  unfold HdiDrmLayer.toComp
  rw [h]
  rfl

theorem toComp_some {l : HdiDrmLayer} (h : l.mHdiBuffer = some buf) :
    l.toComp.mHdiBuffer = some (buf.mWidth, buf.mHeight) := by
  unfold HdiDrmLayer.toComp
  rw [h]
  rfl

theorem applyPlane_none (a : PlaneAnswers) (hbuf : w.disp.mClientLayer.mHdiBuffer = none) :
    applyPlane a plane pset w = .error .nullLayerBuffer w := by
  unfold applyPlane
  rw [get_bind]
  dsimp only
  rw [hbuf]
  rfl

theorem applyPlane_failed {a : PlaneAnswers} (hbuf : w.disp.mClientLayer.mHdiBuffer = some buf)
    (hprops : Planes.addProperties a.addProperty pset (Planes.planeProperties
      w.disp.mClientLayer.toComp plane (w.device.planes plane) buf.mWidth buf.mHeight) =
        (false, pset')) :
    applyPlane a plane pset w = .ok (false, pset') w := by
  unfold applyPlane
  rw [get_bind]
  dsimp only
  rw [hbuf]
  dsimp only
  rw [hprops]
  rfl

theorem applyPlane_made {a : PlaneAnswers} (hbuf : w.disp.mClientLayer.mHdiBuffer = some buf)
    (hprops : Planes.addProperties a.addProperty pset (Planes.planeProperties
      w.disp.mClientLayer.toComp plane (w.device.planes plane) buf.mWidth buf.mHeight) =
        (true, pset')) :
    applyPlane a plane pset w =
      .ok (fbProperties a ((w.rotate buf a).drm.gems w.drm.nextGem) plane w.disp.mCrtc.mId pset')
        (w.rotate buf a) := by
  unfold applyPlane fbProperties
  rw [get_bind]
  dsimp only
  rw [hbuf]
  dsimp only
  rw [hprops]
  dsimp only
  have hgem : (w.rotate buf a).drm.gems w.drm.nextGem =
      (w.disp.mClientLayer.getGemBuffer w.drm buf a).2.2.gems
        (w.disp.mClientLayer.getGemBuffer w.drm buf a).1 := rfl
  rw [hgem]
  cases (w.disp.mClientLayer.getGemBuffer w.drm buf a).2.2.gems
    (w.disp.mClientLayer.getGemBuffer w.drm buf a).1 with
  | none => rfl
  | some g =>
      dsimp only
      split <;> rfl

/-- `ApplyPlane` of `Planes`, for a buffer that is given. -/
theorem planes_applyPlane_failed {a : PlaneAnswers} (hbuf : w.disp.mClientLayer.mHdiBuffer = some buf)
    (hprops : Planes.addProperties a.addProperty pset (Planes.planeProperties
      w.disp.mClientLayer.toComp plane (w.device.planes plane) buf.mWidth buf.mHeight) =
        (false, pset')) (gem : Planes.DrmGemBuffer) :
    Planes.applyPlane { addProperty := a.addProperty, gem } w.disp.mClientLayer.toComp w.disp.mCrtc
      plane pset w.device = .ok (false, pset') w.device := by
  unfold Planes.applyPlane
  rw [get_bind, toComp_some hbuf]
  dsimp only
  rw [hprops]
  rfl

theorem planes_applyPlane_made {a : PlaneAnswers} (hbuf : w.disp.mClientLayer.mHdiBuffer = some buf)
    (hprops : Planes.addProperties a.addProperty pset (Planes.planeProperties
      w.disp.mClientLayer.toComp plane (w.device.planes plane) buf.mWidth buf.mHeight) =
        (true, pset')) (gem : Planes.DrmGemBuffer) :
    Planes.applyPlane { addProperty := a.addProperty, gem } w.disp.mClientLayer.toComp w.disp.mCrtc
      plane pset w.device =
      .ok (fbProperties a (some ⟨gem.mGemHandle, gem.mFdId⟩) plane w.disp.mCrtc.mId pset') w.device := by
  unfold Planes.applyPlane fbProperties Planes.DrmGemBuffer.isValid isValid
  rw [get_bind, toComp_some hbuf]
  dsimp only
  rw [hprops]
  dsimp only
  split <;> rfl

end

/-! ## The layers -/

section
variable {w : World}

theorem onDevice_post {α : Type} {m : Planes.Comp α} {Q : α → World → Prop}
    {E : Planes.Fault → World → Prop} :
    Post (onDevice m) w Q E ↔
      Post m w.device (fun x device => Q x { w with device }) (fun e device => E e { w with device }) := by
  unfold Post onDevice
  cases m w.device <;> rfl

/-- `ApplyPlane` makes the buffer that `Planes` is given. -/
theorem applyPlane_mirrors (a : PlaneAnswers) (plane : Nat) (pset : Planes.AtomicReq) :
    Post (applyPlane a plane pset) w
      (fun r w' => Alike w.disp w'.disp ∧ ∃ gem,
        Planes.applyPlane { addProperty := a.addProperty, gem } w.disp.mClientLayer.toComp
          w.disp.mCrtc plane pset w.device = .ok r w'.device)
      (fun e w' => ∀ gem,
        Planes.applyPlane { addProperty := a.addProperty, gem } w.disp.mClientLayer.toComp
          w.disp.mCrtc plane pset w.device = .error e w'.device) := by
  cases hbuf : w.disp.mClientLayer.mHdiBuffer with
  | none =>
      unfold Post
      rw [applyPlane_none a hbuf]
      intro gem
      unfold Planes.applyPlane
      rw [get_bind, toComp_none hbuf]
      rfl
  | some buf =>
      rcases hprops : Planes.addProperties a.addProperty pset (Planes.planeProperties
        w.disp.mClientLayer.toComp plane (w.device.planes plane) buf.mWidth buf.mHeight) with
        ⟨_ | _, pset'⟩
      · refine post_of_ok (applyPlane_failed hbuf hprops) ⟨Alike.refl _, noGem, ?_⟩
        exact planes_applyPlane_failed hbuf hprops noGem
      · refine post_of_ok (applyPlane_made hbuf hprops) ⟨World.rotate_alike w buf a, ?_⟩
        cases hgem : (w.rotate buf a).drm.gems w.drm.nextGem with
        | none => exact ⟨noGem, planes_applyPlane_made hbuf hprops noGem⟩
        | some g =>
            exact ⟨⟨g.mGemHandle, g.mFdId⟩, planes_applyPlane_made hbuf hprops ⟨_, _⟩⟩

theorem placeLayer_mirrors (a : PlaneAnswers) (mPlanes : List Nat) (pset : Planes.AtomicReq) :
    Post (placeLayer a mPlanes pset) w
      (fun pset' w' => Alike w.disp w'.disp ∧ ∃ gem,
        Planes.placeLayer { addProperty := a.addProperty, gem } w.disp.mClientLayer.toComp
          w.disp.mCrtc mPlanes pset w.device = .ok pset' w'.device)
      (fun e w' => ∀ gem,
        Planes.placeLayer { addProperty := a.addProperty, gem } w.disp.mClientLayer.toComp
          w.disp.mCrtc mPlanes pset w.device = .error e w'.device) := by
  induction mPlanes with
  | nil => exact ⟨Alike.refl _, noGem, rfl⟩
  | cons plane mPlanes ih =>
      unfold placeLayer Planes.placeLayer
      rw [post_bind, post_get]
      simp only [get_bind]
      by_cases hpipe : (w.device.planes plane).mPipe ≠ 0 ∧
          (w.device.planes plane).mPipe ≠ w.disp.mCrtc.bit
      · simp only [if_pos hpipe]
        exact ih
      · simp only [if_neg hpipe]
        by_cases hcovers : ¬ w.disp.mCrtc.covers (w.device.planes plane) = true
        · simp only [if_pos hcovers]
          exact ih
        · simp only [if_neg hcovers]
          by_cases hid : (w.device.planes plane).mCrtcId = w.disp.mCrtc.mId ∨
              (w.device.planes plane).mCrtcId = 0
          · simp only [if_pos hid, post_bind]
            refine (applyPlane_mirrors a plane pset).mono ?_ ?_
            · rintro ⟨ok, pset'⟩ w' ⟨halike, gem, heq⟩
              cases ok with
              | false =>
                  refine ⟨halike, gem, ?_⟩
                  rw [bind_of_ok heq]
                  rfl
              | true =>
                  refine ⟨halike, gem, ?_⟩
                  rw [bind_of_ok heq]
                  rfl
            · intro e w' heq gem
              show EStateM.bind (Planes.applyPlane _ _ _ _ _) _ _ = _
              unfold EStateM.bind
              rw [heq gem]
          · simp only [if_neg hid]
            exact ih

/-- Only the answers for the layers that are left matter. -/
theorem findPlaneAndApply_congr {a a' : Nat → Planes.LayerAnswers} {crtc : Planes.DrmCrtc}
    {mPlanes : List Nat} {layers : List Planes.CompLayer} {i : Nat} (h : ∀ j, i ≤ j → a j = a' j)
    (pset : Planes.AtomicReq) :
    Planes.findPlaneAndApply a crtc mPlanes i layers pset =
      Planes.findPlaneAndApply a' crtc mPlanes i layers pset := by
  induction layers generalizing i pset with
  | nil => rfl
  | cons layer layers ih =>
      unfold Planes.findPlaneAndApply
      rw [h i (Nat.le_refl i)]
      congr 1
      funext pset'
      exact ih (fun j hj => h j (by omega)) pset'

/-- The layers are placed as `Planes` places them. The induction is on the layers; the
buffers made for the later ones are put beside the one made first. -/
theorem findPlaneAndApply_mirrors (a : Nat → PlaneAnswers) (mCompLayers : List LayerRef) :
    ∀ (i : Nat) (pset : Planes.AtomicReq) (w : World),
    Post (findPlaneAndApply a i mCompLayers pset) w
      (fun pset' w' => Alike w.disp w'.disp ∧ ∃ gem : Nat → Planes.DrmGemBuffer,
        Planes.findPlaneAndApply (fun j => { addProperty := (a j).addProperty, gem := gem j })
          w.disp.mCrtc w.disp.mPlanes i (mCompLayers.map fun _ => w.disp.mClientLayer.toComp) pset
          w.device = .ok pset' w'.device)
      (fun e w' => ∃ gem : Nat → Planes.DrmGemBuffer,
        Planes.findPlaneAndApply (fun j => { addProperty := (a j).addProperty, gem := gem j })
          w.disp.mCrtc w.disp.mPlanes i (mCompLayers.map fun _ => w.disp.mClientLayer.toComp) pset
          w.device = .error e w'.device) := by
  induction mCompLayers with
  | nil => exact fun _ _ w => ⟨Alike.refl _, fun _ => noGem, rfl⟩
  | cons p mCompLayers ih =>
      intro i pset w
      cases p
      rw [List.map_cons]
      unfold findPlaneAndApply Planes.findPlaneAndApply
      simp only [post_bind, post_get]
      refine (placeLayer_mirrors (a i) w.disp.mPlanes pset).mono ?_ ?_
      · rintro pset₁ w₁ ⟨halike, gem₁, heq₁⟩
        -- the later answers, with the first one put in
        have hput : ∀ (gem : Nat → Planes.DrmGemBuffer) (j : Nat), i + 1 ≤ j →
            ({ addProperty := (a j).addProperty, gem := gem j } : Planes.LayerAnswers) =
              { addProperty := (a j).addProperty, gem := Function.update gem i gem₁ j } := by
          intro gem j hj
          rw [Function.update_of_ne (by omega)]
        have hfirst : ∀ gem : Nat → Planes.DrmGemBuffer, Planes.placeLayer
            { addProperty := (a i).addProperty, gem := Function.update gem i gem₁ i }
            w.disp.mClientLayer.toComp w.disp.mCrtc w.disp.mPlanes pset w.device =
              .ok pset₁ w₁.device := by
          intro gem
          rw [Function.update_self]
          exact heq₁
        have htail := ih (i + 1) pset₁ w₁
        rw [halike.mCrtc, halike.mPlanes, halike.toComp] at htail
        refine htail.mono ?_ ?_
        · rintro pset₂ w₂ ⟨halike₂, gem, heq⟩
          refine ⟨halike.trans halike₂, Function.update gem i gem₁, ?_⟩
          rw [bind_of_ok (hfirst gem), ← findPlaneAndApply_congr (hput gem)]
          exact heq
        · rintro e w₂ ⟨gem, heq⟩
          refine ⟨Function.update gem i gem₁, ?_⟩
          rw [bind_of_ok (hfirst gem), ← findPlaneAndApply_congr (hput gem)]
          exact heq
      · intro e w₁ heq
        refine ⟨fun _ => noGem, ?_⟩
        show EStateM.bind (Planes.placeLayer _ _ _ _ _) _ _ = _
        unfold EStateM.bind
        rw [heq noGem]

end

/-! ## A frame -/

section
variable {w : World}

/-- What `UpdateMode` puts into its request. -/
def DrmDisplay.modeRequest (disp : DrmDisplay) (a : FrameAnswers) (blob : Nat) :
    Bool × Planes.AtomicReq :=
  Planes.addProperties (fun prop => a.modeAlloc && a.modeProperty prop) []
    [⟨.crtc disp.mCrtc.mId, .active, 1⟩, ⟨.crtc disp.mCrtc.mId, .modeId, blob⟩,
      ⟨.connector disp.mConnectorId, .crtcId, disp.mCrtc.mId⟩]

/-- The device once a mode has been set. -/
def World.modeSet (w : World) : Planes.DrmDevice :=
  w.device.setMode w.disp.mCrtc.mId
    { w.device.modes w.disp.mCrtc.mId with mNeedModeSet := false }

theorem planes_updateMode_settled (a : Planes.ApplyAnswers)
    (h : (w.device.modes w.disp.composition.mCrtc.mId).mNeedModeSet = false) :
    Planes.updateMode w.disp.composition a w.device = .ok (true, []) w.device := by
  unfold Planes.updateMode
  rw [get_bind, if_neg (by simp [h])]
  rfl

theorem planes_updateMode_blockless {a : Planes.ApplyAnswers}
    (h : (w.device.modes w.disp.composition.mCrtc.mId).mNeedModeSet = true)
    (hblock : a.modeBlock = none) :
    Planes.updateMode w.disp.composition a w.device = .ok (true, []) w.device := by
  unfold Planes.updateMode
  rw [get_bind, if_pos h, hblock]
  rfl

theorem planes_updateMode_built {a : FrameAnswers} (gem : Nat → Planes.DrmGemBuffer) (accepted : Bool)
    (h : (w.device.modes w.disp.composition.mCrtc.mId).mNeedModeSet = true) {blob : Nat}
    (hblock : a.modeBlock = some blob) :
    Planes.updateMode w.disp.composition (a.toPlanes gem accepted) w.device =
      .ok ((w.disp.modeRequest a blob).1 && a.modeCommit, [(w.disp.modeRequest a blob).2])
        (if (w.disp.modeRequest a blob).1 && a.modeCommit then w.modeSet else w.device) := by
  have hblock' : (a.toPlanes gem accepted).modeBlock = some blob := hblock
  have hcommit : (a.toPlanes gem accepted).modeCommit = a.modeCommit := rfl
  have hrequest : Planes.addProperties (a.toPlanes gem accepted).modeProperty []
      [⟨.crtc w.disp.composition.mCrtc.mId, .active, 1⟩,
        ⟨.crtc w.disp.composition.mCrtc.mId, .modeId, blob⟩,
        ⟨.connector w.disp.composition.mConnectorId, .crtcId, w.disp.composition.mCrtc.mId⟩] =
      w.disp.modeRequest a blob := rfl
  unfold Planes.updateMode
  rw [get_bind, if_pos h, hblock']
  dsimp only
  rw [hrequest, hcommit]
  rcases w.disp.modeRequest a blob with ⟨_ | _, pset⟩
  · rfl
  · cases a.modeCommit <;> rfl

theorem updateMode_settled (a : FrameAnswers)
    (h : (w.device.modes w.disp.mCrtc.mId).mNeedModeSet = false) :
    updateMode a w = .ok (true, none, []) w := by
  unfold updateMode
  rw [get_bind]
  dsimp only
  rw [if_neg (by simp [h])]
  rfl

theorem updateMode_blockless {a : FrameAnswers}
    (h : (w.device.modes w.disp.mCrtc.mId).mNeedModeSet = true) (hblock : a.modeBlock = none) :
    updateMode a w =
      .ok (true, none, []) { w with requests := w.requests + if a.modeAlloc then 1 else 0 } := by
  unfold updateMode
  rw [get_bind]
  dsimp only
  rw [if_pos h, hblock]
  rfl

/-- The kernel's record once the request of a mode is built, and committed if it is whole. -/
def World.modeDrm (w : World) (a : FrameAnswers) (blob : Nat) : Drm :=
  let d := { w.drm with log := .createPropertyBlob blob :: w.drm.log }
  if (w.disp.modeRequest a blob).1 then commitMode d (w.disp.modeRequest a blob).2 a.modeCommit else d

theorem updateMode_built {a : FrameAnswers}
    (h : (w.device.modes w.disp.mCrtc.mId).mNeedModeSet = true) {blob : Nat}
    (hblock : a.modeBlock = some blob) :
    updateMode a w =
      .ok ((w.disp.modeRequest a blob).1 && a.modeCommit, some blob, [(w.disp.modeRequest a blob).2])
        { w with
          drm := w.modeDrm a blob
          device := if (w.disp.modeRequest a blob).1 && a.modeCommit then w.modeSet else w.device
          requests := w.requests + if a.modeAlloc then 1 else 0 } := by
  unfold updateMode World.modeSet World.modeDrm
  rw [get_bind]
  dsimp only
  rw [if_pos h, hblock]
  dsimp only
  have hrequest : Planes.addProperties (fun prop => a.modeAlloc && a.modeProperty prop) []
      [⟨.crtc w.disp.mCrtc.mId, .active, 1⟩, ⟨.crtc w.disp.mCrtc.mId, .modeId, blob⟩,
        ⟨.connector w.disp.mConnectorId, .crtcId, w.disp.mCrtc.mId⟩] =
      w.disp.modeRequest a blob := rfl
  rw [hrequest]
  rcases w.disp.modeRequest a blob with ⟨_ | _, pset⟩
  · rfl
  · cases a.modeCommit <;> rfl

theorem updateMode_mirrors (a : FrameAnswers) :
    Post (updateMode a) w
      (fun r w' => Alike w.disp w'.disp ∧ ∀ gem accepted,
        Planes.updateMode w.disp.composition (a.toPlanes gem accepted) w.device =
          .ok (r.1, r.2.2) w'.device)
      (fun _ _ => False) := by
  cases hneed : (w.device.modes w.disp.mCrtc.mId).mNeedModeSet with
  | false =>
      exact post_of_ok (updateMode_settled a hneed)
        ⟨Alike.refl _, fun _ _ => planes_updateMode_settled _ hneed⟩
  | true =>
      cases hblock : a.modeBlock with
      | none =>
          exact post_of_ok (updateMode_blockless hneed hblock)
            ⟨Alike.refl _, fun _ _ => planes_updateMode_blockless hneed hblock⟩
      | some blob =>
          exact post_of_ok (updateMode_built hneed hblock)
            ⟨Alike.refl _, fun gem accepted => planes_updateMode_built gem accepted hneed hblock⟩

/-- Giving out the fence changes no more than the release fence of the client layer. -/
theorem setReleaseFences_alike (fence : Int) (mCompLayers : List LayerRef) : ∀ w : World,
    Post (setReleaseFences fence mCompLayers) w
      (fun _ w' => Alike w.disp w'.disp ∧ w'.device = w.device) (fun _ _ => False) := by
  induction mCompLayers with
  | nil => exact fun w => ⟨Alike.refl _, rfl⟩
  | cons p mCompLayers ih =>
      intro w
      cases p
      unfold setReleaseFences
      simp only [post_bind, post_get, post_set]
      refine (ih _).mono ?_ (fun _ _ he => he)
      rintro - w' ⟨halike, hdevice⟩
      have hset : Alike w.disp ((w.setDrm (w.disp.mClientLayer.setReleaseFence w.drm fence).2).setClient
          (w.disp.mClientLayer.setReleaseFence w.drm fence).1).disp := ⟨rfl, rfl, rfl, rfl, rfl, rfl, rfl⟩
      exact ⟨hset.trans halike, hdevice⟩

theorem commitFrame_mirrors (pset : Planes.AtomicReq) (answer : Option Int) :
    Post (commitFrame pset answer) w
      (fun ret w' => Alike w.disp w'.disp ∧ w'.device = w.device ∧
        ∃ accepted : Bool, ret = if accepted then .success else .failure)
      (fun _ _ => False) := by
  unfold commitFrame
  simp only [post_bind, post_get, post_set]
  cases (w.drm.atomicCommit (recorded pset) answer).1 with
  | none => exact ⟨Alike.refl _, rfl, false, rfl⟩
  | some fence =>
      rw [post_bind]
      refine (setReleaseFences_alike fence w.disp.mCompLayers _).mono ?_ (fun _ _ he => he)
      rintro - w' ⟨halike, hdevice⟩
      exact ⟨halike, hdevice, true, rfl⟩

/-- `FindPlaneAndApply` and `RemoveUnusePlane`. -/
theorem applyFrame_mirrors {a : FrameAnswers} (hfence : a.outFencePtr = true) :
    Post (applyFrame a) w
      (fun r w' => Alike w.disp w'.disp ∧ ∃ gem accepted,
        Planes.applyFrame w.disp.composition (a.toPlanes gem accepted) w.device = .ok r w'.device)
      (fun e w' => ∃ gem accepted,
        Planes.applyFrame w.disp.composition (a.toPlanes gem accepted) w.device =
          .error e w'.device) := by
  unfold applyFrame Planes.applyFrame
  simp only [post_bind, post_get, hfence, not_true_eq_false, if_false]
  refine (findPlaneAndApply_mirrors a.plane w.disp.mCompLayers 0 _ w).mono ?_ ?_
  · rintro pset w₁ ⟨halike, gem, hfind⟩
    unfold removeUnusePlane
    simp only [post_bind, post_get, onDevice_post]
    obtain ⟨es, hremove, -⟩ := @Planes.removeUnusePlane_spec w.disp.mCrtc w₁.device pset a.unuse
      w.disp.mPlanes
    rw [halike.mCrtc, halike.mPlanes]
    refine post_of_ok hremove ?_
    rcases hadd : Planes.addProperties a.addProperty (es ++ pset)
      [⟨.connector w.disp.mConnectorId, .crtcId, w.disp.mCrtc.mId⟩,
        ⟨.crtc w.disp.mCrtc.mId, .active, 1⟩] with ⟨_ | _, pset'⟩
    · refine ⟨halike, gem, false, ?_⟩
      dsimp only [DrmDisplay.composition, FrameAnswers.toPlanes]
      rw [bind_of_ok hfind, bind_of_ok hremove, hadd]
      rfl
    · rw [post_bind]
      refine (commitFrame_mirrors pset' a.atomicCommit).mono ?_ (fun _ _ he => he.elim)
      rintro ret w₂ ⟨halike₂, hdevice, accepted, rfl⟩
      refine ⟨halike.trans halike₂, gem, accepted, ?_⟩
      dsimp only [DrmDisplay.composition, FrameAnswers.toPlanes]
      rw [bind_of_ok hfind, bind_of_ok hremove, hadd, hdevice]
      rfl
  · rintro e w₁ ⟨gem, hfind⟩
    refine ⟨gem, false, ?_⟩
    dsimp only [DrmDisplay.composition, FrameAnswers.toPlanes]
    show EStateM.bind (Planes.findPlaneAndApply _ _ _ _ _ _) _ _ = _
    unfold EStateM.bind
    rw [hfind]

/-- A request freed again leaves the display and the device alone. -/
theorem withRequest_post {α : Type} {m : Hal α} {Q : α → World → Prop} {E : Planes.Fault → World → Prop}
    (h : Post m { w with requests := w.requests + 1 }
      (fun x w' => Q x { w' with requests := w'.requests - 1 }) E) :
    Post (withRequest m) w Q E := by
  unfold withRequest
  simp only [post_bind, post_modify, post_pure]
  exact h

theorem destroyModeBlock_post {block : Option Nat} {Q : PUnit → World → Prop}
    {E : Planes.Fault → World → Prop} (h : ∀ log, Q ⟨⟩ (w.setDrm { w.drm with log })) :
    Post (destroyModeBlock block) w Q E := by
  cases block with
  | none => exact h w.drm.log
  | some blob => exact h _

end

/-- `Apply` of `Planes` after `UpdateMode`. -/
def planesLayers (c : Planes.HdiDrmComposition) (a : Planes.ApplyAnswers) :
    Planes.Comp (DispStatus × List Planes.AtomicReq) := do
  if c.mPlanes.length < c.mCompLayers.length then return (.failure, [])
  if ¬ a.atomicAlloc then return (.nullPtr, [])
  if ¬ a.outFencePtr then return (.failure, [[]])
  let (ret, pset) ← Planes.applyFrame c a
  return (ret, [pset])

section
variable {c : Planes.HdiDrmComposition} {a : Planes.ApplyAnswers} {d d' d'' : Planes.DrmDevice}
  {psets : List Planes.AtomicReq}

theorem planes_apply_failed (h : Planes.updateMode c a d = .ok (false, psets) d') :
    Planes.apply c a d = .ok (.failure, psets) d' := by
  unfold Planes.apply
  rw [bind_of_ok h]
  rfl

theorem planes_apply_ok (h : Planes.updateMode c a d = .ok (true, psets) d')
    {r : DispStatus × List Planes.AtomicReq} (hl : planesLayers c a d' = .ok r d'') :
    Planes.apply c a d = .ok (r.1, r.2 ++ psets) d'' := by
  have hpost : Post (planesLayers c a) d' (fun r' d₁ => r' = r ∧ d₁ = d'') (fun _ _ => False) :=
    post_of_ok hl ⟨rfl, rfl⟩
  unfold planesLayers at hpost
  unfold Planes.apply
  rw [bind_of_ok h]
  dsimp only
  rw [if_neg (by simp)]
  by_cases hmany : c.mPlanes.length < c.mCompLayers.length
  · rw [if_pos hmany] at hpost ⊢
    obtain ⟨rfl, rfl⟩ := post_pure.1 hpost
    rfl
  · rw [if_neg hmany] at hpost ⊢
    by_cases halloc : a.atomicAlloc = true
    · rw [if_neg (not_not.2 halloc)] at hpost ⊢
      by_cases hfence : a.outFencePtr = true
      · rw [if_neg (not_not.2 hfence)] at hpost ⊢
        rw [post_bind] at hpost
        obtain ⟨x, d₁, hframe, rfl, rfl⟩ := hpost.exists_ok
        rw [bind_of_ok hframe]
        rfl
      · rw [if_pos hfence] at hpost ⊢
        obtain ⟨rfl, rfl⟩ := post_pure.1 hpost
        rfl
    · rw [if_pos halloc] at hpost ⊢
      obtain ⟨rfl, rfl⟩ := post_pure.1 hpost
      rfl

theorem planes_apply_error (h : Planes.updateMode c a d = .ok (true, psets) d') {e : Planes.Fault}
    (hmany : ¬ c.mPlanes.length < c.mCompLayers.length) (halloc : a.atomicAlloc = true)
    (hfence : a.outFencePtr = true) (hl : Planes.applyFrame c a d' = .error e d'') :
    Planes.apply c a d = .error e d'' := by
  unfold Planes.apply
  rw [bind_of_ok h]
  dsimp only
  rw [if_neg (by simp), if_neg hmany, if_neg (not_not.2 halloc), if_neg (not_not.2 hfence)]
  show EStateM.bind (Planes.applyFrame c a) _ d' = _
  unfold EStateM.bind
  rw [hl]

end

section
variable {w : World}

/-- A frame after `UpdateMode`. -/
theorem applyLayers_mirrors (a : FrameAnswers) :
    Post (applyLayers a) w
      (fun r w' => Alike w.disp w'.disp ∧ ∃ gem accepted,
        planesLayers w.disp.composition (a.toPlanes gem accepted) w.device = .ok r w'.device)
      (fun e w' => ¬ w.disp.composition.mPlanes.length < w.disp.composition.mCompLayers.length ∧
        a.atomicAlloc = true ∧ a.outFencePtr = true ∧ ∃ gem accepted,
        Planes.applyFrame w.disp.composition (a.toPlanes gem accepted) w.device =
          .error e w'.device) := by
  have hlen : w.disp.composition.mCompLayers.length = w.disp.mCompLayers.length := List.length_map _
  have hplanes : w.disp.composition.mPlanes = w.disp.mPlanes := rfl
  unfold applyLayers
  rw [post_bind, post_get]
  by_cases hmany : w.disp.mPlanes.length < w.disp.mCompLayers.length
  · rw [if_pos hmany]
    refine ⟨Alike.refl _, fun _ => noGem, false, ?_⟩
    unfold planesLayers
    rw [hlen, hplanes, if_pos hmany]
    rfl
  · rw [if_neg hmany]
    by_cases halloc : a.atomicAlloc = true
    · rw [if_neg (not_not.2 halloc), post_bind]
      apply withRequest_post
      by_cases hfence : a.outFencePtr = true
      · refine (applyFrame_mirrors hfence).mono ?_ ?_
        · rintro r w₂ ⟨halike, gem, accepted, hframe⟩
          refine ⟨halike, gem, accepted, ?_⟩
          have hframe' : Planes.applyFrame w.disp.composition (a.toPlanes gem accepted) w.device =
              .ok r w₂.device := hframe
          have halloc' : (a.toPlanes gem accepted).atomicAlloc = true := halloc
          have hfence' : (a.toPlanes gem accepted).outFencePtr = true := hfence
          unfold planesLayers
          rw [hlen, hplanes, if_neg hmany, if_neg (not_not.2 halloc'), if_neg (not_not.2 hfence'),
            bind_of_ok hframe']
          rfl
        · rintro e w₂ ⟨gem, accepted, hframe⟩
          rw [hlen, hplanes]
          exact ⟨hmany, halloc, hfence, gem, accepted, hframe⟩
      · have hnone : applyFrame a { w with requests := w.requests + 1 } =
            .ok (.failure, []) { w with requests := w.requests + 1 } := by
          unfold applyFrame
          rw [get_bind]
          dsimp only
          rw [if_pos hfence]
          rfl
        refine post_of_ok hnone ⟨Alike.refl _, fun _ => noGem, false, ?_⟩
        have halloc' : (a.toPlanes (fun _ => noGem) false).atomicAlloc = true := halloc
        have hfence' : ¬ (a.toPlanes (fun _ => noGem) false).outFencePtr = true := hfence
        unfold planesLayers
        rw [hlen, hplanes, if_neg hmany, if_neg (not_not.2 halloc'), if_pos hfence']
        rfl
    · rw [if_pos halloc]
      refine ⟨Alike.refl _, fun _ => noGem, false, ?_⟩
      have halloc' : ¬ (a.toPlanes (fun _ => noGem) false).atomicAlloc = true := halloc
      unfold planesLayers
      rw [hlen, hplanes, if_neg hmany, if_pos halloc']
      rfl

/-- **A frame is one of `Planes`.** -/
theorem apply_mirrors (a : FrameAnswers) :
    Post (apply a) w
      (fun r w' => Alike w.disp w'.disp ∧ ∃ gem accepted,
        Planes.apply w.disp.composition (a.toPlanes gem accepted) w.device = .ok r w'.device)
      (fun e w' => ∃ gem accepted,
        Planes.apply w.disp.composition (a.toPlanes gem accepted) w.device = .error e w'.device) := by
  unfold apply
  rw [post_bind]
  refine (updateMode_mirrors a).mono ?_ (fun _ _ he => he.elim)
  rintro ⟨ok, block, psets⟩ w₁ ⟨halike, hmode⟩
  cases ok with
  | false =>
      dsimp only
      rw [if_neg (by simp), post_bind]
      exact destroyModeBlock_post fun log =>
        ⟨halike, fun _ => noGem, false, planes_apply_failed (hmode _ _)⟩
  | true =>
      dsimp only
      rw [if_pos rfl, post_bind]
      refine (applyLayers_mirrors a).mono ?_ ?_
      · rintro r w₂ ⟨halike₂, gem, accepted, hlayers⟩
        rw [halike.composition] at hlayers
        rw [post_bind]
        exact destroyModeBlock_post fun log =>
          ⟨halike.trans halike₂, gem, accepted, planes_apply_ok (hmode _ _) hlayers⟩
      · rintro e w₂ ⟨hmany, halloc, hfence, gem, accepted, hframe⟩
        rw [halike.composition] at hmany hframe
        exact ⟨gem, accepted, planes_apply_error (hmode _ _) hmany halloc hfence hframe⟩

end

/-! ## A session -/

/-- What no operation changes of a display. -/
structure DrmDisplay.Fixed (disp disp' : DrmDisplay) : Prop where
  mCrtc : disp'.mCrtc = disp.mCrtc
  mConnectorId : disp'.mConnectorId = disp.mConnectorId
  mPlanes : disp'.mPlanes = disp.mPlanes

namespace DrmDisplay.Fixed

variable {disp disp' disp'' : DrmDisplay}

theorem refl (disp : DrmDisplay) : disp.Fixed disp := ⟨rfl, rfl, rfl⟩

theorem of_eq (h : disp' = disp) : disp.Fixed disp' := by
  rw [h]
  exact .refl disp

theorem trans (h : disp.Fixed disp') (h' : disp'.Fixed disp'') : disp.Fixed disp'' :=
  ⟨h'.mCrtc.trans h.mCrtc, h'.mConnectorId.trans h.mConnectorId, h'.mPlanes.trans h.mPlanes⟩

theorem of_alike (h : Alike disp disp') : disp.Fixed disp' := ⟨h.mCrtc, h.mConnectorId, h.mPlanes⟩

end DrmDisplay.Fixed

/-- The step of `Planes` is a frame of the display, with its composition at some time, or a
mode change of its CRTC. -/
def DrmDisplay.Orders (disp : DrmDisplay) : Planes.Op → Prop
  | .apply c _ => ∃ disp', disp.Fixed disp' ∧ c = disp'.composition
  | .setActivieMode crtcId _ => crtcId = disp.mCrtc.mId

/-- The step is one of a display of the session. -/
def Session.Orders (s : Session) (op : Planes.Op) : Prop :=
  ∃ devId disp, s.mHdiDisplays devId = some disp ∧ disp.Orders op

section
variable {w : World}

/-- The operation is a run of `Planes` on the device. -/
def Mirrored (w : World) (m : Hal Ret) : Prop :=
  Post m w
    (fun ret w' => w.disp.Fixed w'.disp ∧ ∃ ops psets, (∀ op ∈ ops, w.disp.Orders op) ∧
      run Planes.step ops w.device = .ok psets w'.device ∧ (psets.flatMap fun x => x) = ret.psets)
    (fun e w' => ∃ op, w.disp.Orders op ∧ Planes.step op w.device = .error e w'.device)

/-- An operation that leaves the device alone. -/
theorem Mirrored.still {m : Hal Ret}
    (h : Post m w (fun ret w' => w.disp.Fixed w'.disp ∧ w'.device = w.device ∧ ret.psets = [])
      (fun _ _ => False)) :
    Mirrored w m := by
  refine h.mono ?_ (fun _ _ he => he.elim)
  rintro ret w' ⟨hdisp, hdevice, hpsets⟩
  refine ⟨hdisp, [], [], by simp, ?_, hpsets.symm⟩
  rw [hdevice]
  rfl

theorem handOut_device (fd : Int) (answer : Option Int) :
    Post (handOut fd answer) w (fun _ w' => w'.disp = w.disp ∧ w'.device = w.device)
      (fun _ _ => False) := ⟨rfl, rfl⟩

theorem releaseFences_device (mLayers : List Nat) (a : List (Option Int)) : ∀ w : World,
    Post (releaseFences mLayers a) w (fun _ w' => w'.disp = w.disp ∧ w'.device = w.device)
      (fun _ _ => False) := by
  induction mLayers generalizing a with
  | nil => exact fun _ => ⟨rfl, rfl⟩
  | cons id mLayers ih =>
      intro w
      cases a with
      | nil => exact ⟨rfl, rfl⟩
      | cons answer a =>
          unfold releaseFences
          rw [post_bind, post_get]
          cases w.disp.mLayersMap id with
          | none => exact ih a w
          | some l =>
              simp only [post_bind, post_pure]
              refine (handOut_device (w := w) l.mReleaseFence answer).mono ?_ (fun _ _ he => he)
              rintro fd w₁ ⟨hdisp₁, hdevice₁⟩
              refine (ih a w₁).mono ?_ (fun _ _ he => he)
              rintro fds w₂ ⟨hdisp₂, hdevice₂⟩
              exact ⟨hdisp₂.trans hdisp₁, hdevice₂.trans hdevice₁⟩

/-- Opening files changes neither the planes nor what a frame reads of its display. -/
theorem World.Opens.fixed {l : List Int} {w' : World} (h : w.Opens l w') :
    w.disp.Fixed w'.disp ∧ w'.device = w.device := by
  obtain ⟨_, _, _, rfl⟩ := h.rest
  exact ⟨⟨rfl, rfl, rfl⟩, rfl⟩

/-- One frame of `Planes`. -/
theorem run_apply {c : Planes.HdiDrmComposition} {a : Planes.ApplyAnswers} {d d' : Planes.DrmDevice}
    {r : DispStatus × List Planes.AtomicReq} (h : Planes.apply c a d = .ok r d') :
    run Planes.step [.apply c a] d = .ok [r.2] d' := by
  unfold run Planes.step
  rw [bind_of_ok (map_of_ok h Prod.snd)]
  rfl

theorem step_apply_error {c : Planes.HdiDrmComposition} {a : Planes.ApplyAnswers}
    {d d' : Planes.DrmDevice} {e : Planes.Fault} (h : Planes.apply c a d = .error e d') :
    Planes.step (.apply c a) d = .error e d' := by
  show EStateM.map Prod.snd (Planes.apply c a) d = _
  unfold EStateM.map
  rw [h]

/-- A frame, and what becomes of the requests it builds. -/
theorem apply_orders (a : FrameAnswers) {disp : DrmDisplay} (hdisp : disp.Fixed w.disp) :
    Post (apply a) w
      (fun r w' => w.disp.Fixed w'.disp ∧ ∃ ops psets, (∀ op ∈ ops, disp.Orders op) ∧
        run Planes.step ops w.device = .ok psets w'.device ∧ (psets.flatMap fun x => x) = r.2)
      (fun e w' => ∃ op, disp.Orders op ∧ Planes.step op w.device = .error e w'.device) := by
  refine (apply_mirrors a).mono ?_ ?_
  · rintro r w' ⟨halike, gem, accepted, heq⟩
    refine ⟨.of_alike halike, _, _, fun op hop => ?_, run_apply heq, by simp⟩
    obtain rfl := List.mem_singleton.1 hop
    exact ⟨w.disp, hdisp, rfl⟩
  · rintro e w' ⟨gem, accepted, heq⟩
    exact ⟨.apply w.disp.composition _, ⟨w.disp, hdisp, rfl⟩, step_apply_error heq⟩

theorem pushFirstFrame_mirrors (a : FirstFrameAnswers) : Mirrored w (pushFirstFrame a) := by
  unfold Mirrored pushFirstFrame
  rw [post_bind]
  refine (firstBuffer_opens a).mono ?_ (fun _ _ he => he.elim)
  intro buffer w₁ hopens
  obtain ⟨hfixed, hdevice⟩ := hopens.fixed
  cases buffer with
  | none => exact ⟨hfixed, [], [], by simp, by rw [hdevice]; rfl, rfl⟩
  | some buffer =>
      unfold setClientBuffer setLayers
      simp only [post_bind, post_modify]
      rw [← hdevice]
      have hgiven : w.disp.Fixed { w₁.disp with
          mClientLayer := (w₁.disp.mClientLayer.setLayerBuffer w₁.drm (some buffer) (-1) a.dup).2.1
          mCompLayers := [.client] } := ⟨hfixed.mCrtc, hfixed.mConnectorId, hfixed.mPlanes⟩
      refine Post.mono (apply_orders a.frame hgiven) ?_ (fun _ _ he => he)
      rintro r w' ⟨hdisp, hrun⟩
      exact ⟨⟨hdisp.mCrtc.trans hfixed.mCrtc, hdisp.mConnectorId.trans hfixed.mConnectorId,
        hdisp.mPlanes.trans hfixed.mPlanes⟩, hrun⟩

theorem commit_mirrors (pre : Bool) (a : FrameAnswers) (fence : Option Int) :
    Mirrored w (commit pre a fence) := by
  unfold Mirrored commit
  rw [post_bind]
  have hcomposed : Post (composerCommit pre a) w
      (fun frame w' => w.disp.Fixed w'.disp ∧ ∃ ops psets, (∀ op ∈ ops, w.disp.Orders op) ∧
        run Planes.step ops w.device = .ok psets w'.device ∧ (psets.flatMap fun x => x) = frame)
      (fun e w' => ∃ op, w.disp.Orders op ∧ Planes.step op w.device = .error e w'.device) := by
    unfold composerCommit
    cases pre with
    | false => exact ⟨.refl _, [], [], by simp, rfl, rfl⟩
    | true =>
        rw [if_pos rfl, post_map]
        exact apply_orders a (.refl _)
  refine hcomposed.mono ?_ (fun _ _ he => he)
  rintro frame w₁ ⟨hfixed, ops, psets, hops, hrun, hframe⟩
  simp only [post_bind, post_get]
  refine (handOut_device (w := w₁) _ fence).mono ?_ (fun _ _ he => he.elim)
  rintro fd w₂ ⟨hdisp, hdevice⟩
  exact ⟨hfixed.trans (.of_eq hdisp), ops, psets, hops, by rw [hdevice, hrun], hframe⟩

theorem step_mirrors (op : Op) : Mirrored w (step op) := by
  cases op with
  | setDisplayClientBuffer buffer fence a => exact .still ⟨⟨rfl, rfl, rfl⟩, rfl, rfl⟩
  | pushFirstFrame a => exact pushFirstFrame_mirrors a
  | setDisplayMode modeId =>
      refine ⟨.refl _, [.setActivieMode w.disp.mCrtc.mId modeId], [[]], fun op hop => ?_, rfl, rfl⟩
      obtain rfl := List.mem_singleton.1 hop
      rfl
  | prepareDisplayLayers => exact .still ⟨⟨rfl, rfl, rfl⟩, rfl, rfl⟩
  | commit pre a fence => exact commit_mirrors pre a fence
  | createLayer layerId =>
      show Mirrored w (createLayer layerId)
      cases layerId with
      | none => exact .still ⟨.refl _, rfl, rfl⟩
      | some id =>
          apply Mirrored.still
          unfold createLayer
          rw [post_bind, post_modify, post_pure]
          split <;> exact ⟨⟨rfl, rfl, rfl⟩, rfl, rfl⟩
  | closeLayer layerId last current =>
      apply Mirrored.still
      show Post (closeLayer layerId last current) w _ _
      unfold closeLayer
      rw [post_bind, post_get]
      cases w.disp.mLayersMap layerId <;> exact ⟨⟨rfl, rfl, rfl⟩, rfl, rfl⟩
  | setLayerBuffer layerId buffer fence a =>
      apply Mirrored.still
      show Post (setLayerBuffer layerId buffer fence a) w _ _
      unfold setLayerBuffer
      rw [post_bind, post_get]
      cases w.disp.mLayersMap layerId <;> exact ⟨⟨rfl, rfl, rfl⟩, rfl, rfl⟩
  | getDisplayReleaseFence mLayers a =>
      apply Mirrored.still
      show Post (getDisplayReleaseFence mLayers a) w _ _
      unfold getDisplayReleaseFence
      rw [post_bind]
      exact (releaseFences_device mLayers a w).mono (fun _ _ h => ⟨.of_eq h.1, h.2, rfl⟩)
        (fun _ _ he => he)
  | setDisplayPowerStatus status openFd blank =>
      apply Mirrored.still
      exact (setDisplayPowerStatus_opens status openFd blank).mono
        (fun _ _ h => ⟨h.1.fixed.1, h.1.fixed.2, h.2.1⟩) (fun _ _ he => he)
  | setDisplayBacklight level openFd memset =>
      apply Mirrored.still
      exact (setDisplayBacklight_opens level openFd memset).mono
        (fun _ _ h => ⟨h.1.fixed.1, h.1.fixed.2, h.2.1⟩) (fun _ _ he => he)

end

/-- The displays are those of `s`, but for their layers. -/
def Session.Remains (s s' : Session) : Prop :=
  ∀ devId disp', s'.mHdiDisplays devId = some disp' →
    ∃ disp, s.mHdiDisplays devId = some disp ∧ disp.Fixed disp'

theorem Session.Remains.store {s s' : Session} (h : s.Remains s') {devId : Nat} {disp : DrmDisplay}
    (hdisp : s'.mHdiDisplays devId = some disp) {w : World} (hw : disp.Fixed w.disp) :
    s.Remains (s'.store devId w) := by
  intro e disp' hdisp'
  have hdisp'' : Function.update s'.mHdiDisplays devId (some w.disp) e = some disp' := hdisp'
  rw [Function.update_apply] at hdisp''
  split at hdisp''
  · next he =>
      cases hdisp''
      obtain ⟨disp₀, hdisp₀, hfixed⟩ := h devId disp hdisp
      exact ⟨disp₀, he ▸ hdisp₀, hfixed.trans hw⟩
  · exact h e disp' hdisp''

theorem Session.Remains.orders {s s' : Session} (h : s.Remains s') {devId : Nat} {disp : DrmDisplay}
    (hdisp : s'.mHdiDisplays devId = some disp) {op : Planes.Op} (hop : disp.Orders op) :
    s.Orders op := by
  obtain ⟨disp₀, hdisp₀, hfixed⟩ := h devId disp hdisp
  refine ⟨devId, disp₀, hdisp₀, ?_⟩
  cases op with
  | apply c a =>
      obtain ⟨disp', hfixed', rfl⟩ := hop
      exact ⟨disp', hfixed.trans hfixed', rfl⟩
  | setActivieMode crtcId id =>
      have hid : crtcId = disp.mCrtc.mId := hop
      rw [hfixed.mCrtc] at hid
      exact hid

theorem sessionStep_remains {s s' : Session} (h : s.Remains s') (call : Call) :
    Post (sessionStep call) s' (fun _ s'' => s.Remains s'') (fun _ _ => True) := by
  cases call with
  | clientFd fd file => exact h
  | display devId op =>
      apply callDisplayFunction_post
      · exact fun _ => h
      · exact fun disp hdisp => (step_mirrors op).mono (fun _ _ hw => h.store hdisp hw.1)
          (fun _ _ _ => trivial)

/-- Seen through the device, a call is a run of `Planes` that builds the same requests. -/
theorem sessionStep_simulated {s s' : Session} (h : s.Remains s') (call : Call) :
    Simulated s.Orders sessionStep Planes.step Session.device Ret.psets (fun psets => psets) call
      s' := by
  unfold Simulated
  cases call with
  | clientFd fd file => exact .refl _
  | display devId op =>
      apply callDisplayFunction_post
      · exact fun _ => .refl _
      · intro disp hdisp
        refine (step_mirrors op).mono ?_ ?_
        · rintro ret w ⟨-, ops, psets, hops, hrun, hout⟩
          exact ⟨ops, psets, fun op hop => h.orders hdisp (hops op hop), hrun, hout⟩
        · rintro e w ⟨op, hop, hstop⟩
          exact ⟨op, h.orders hdisp hop, hstop⟩

/-- **Every run of a session is a run of `Planes`** on the device the displays share: some
list of frames and mode changes of its displays leaves the device in the same state and
builds the same requests in the same order. A run that stops on a fault is one of `Planes` up
to the call that stops, and that call stops in a frame of a display with the same fault. -/
theorem session_mirrors (calls : List Call) (s : Session) :
    Post (run sessionStep calls) s
      (fun rets s' => Traced s.Orders Planes.step Session.device (fun psets => psets) s
        (rets.flatMap Ret.psets) s')
      (fun e s' => ∃ done call rest rets t, calls = done ++ call :: rest ∧
        run sessionStep done s = .ok rets t ∧ sessionStep call t = .error e s' ∧
        Traced s.Orders Planes.step Session.device (fun psets => psets) s
          (rets.flatMap Ret.psets) t ∧
        ∃ op, s.Orders op ∧ Planes.step op t.device = .error e s'.device) :=
  run_simulated (fun _ call h => sessionStep_remains h call)
    (fun _ call h => sessionStep_simulated h call) calls s fun _ disp hdisp => ⟨disp, hdisp, .refl disp⟩

end QemuHal.Common.Frame
