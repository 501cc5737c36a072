import QemuHal.Core.World

/-!
# `HdiDrmComposition`

One frame builds an atomic request from the client layer, the cursor layer and a
pending mode, commits it, hands the fence to the layers and releases the buffers
of the frame before.
-/

namespace QemuHal

/-! ## The kernel's answers in a frame -/

/-- The answers to the calls made for one layer on one plane. -/
structure PlaneAnswers where
  addProperty : PropName → Bool := fun _ => true
  prime : ImportAnswers := {}
  /-- For the buffer `GetGemBuffer` destroys. -/
  drop : DropAnswers := {}

/-- The answers to the calls of one `Apply`. -/
structure FrameAnswers where
  atomicAlloc : Bool := true
  outFencePtr : Bool := true
  /-- By composition layer. -/
  plane : Nat → PlaneAnswers := fun _ => {}
  /-- By cursor layer and cursor plane. -/
  cursor : Nat → Nat → PlaneAnswers := fun _ _ => {}
  /-- The system parameter `bootevent.boot.completed`. -/
  bootCompleted : Bool := false
  createPropertyBlob : Option Nat := none
  modeProperty : PropName → Bool := fun _ => true
  atomicCommit : Option Int := none
  release : DropAnswers := {}
  releaseCursor : DropAnswers := {}

/-! ## The properties of a plane -/

/-- `IN_FENCE_FD`, set when the plane has it and the layer has a fence. -/
def setAcquireFence (a : PlaneAnswers) (l : HdiLayer) (drmPlane : DrmPlane)
    (pset : AtomicReq) : Bool × AtomicReq :=
  if drmPlane.mPropFenceInId ≠ 0 ∧ 0 ≤ l.mAcquireFence then
    drmModeAtomicAddProperty a.addProperty pset
      ⟨.plane drmPlane.mId, .inFenceFd, l.mAcquireFence⟩
  else (true, pset)

/-- `SetCrtcProperty`. -/
def setCrtcProperty (a : PlaneAnswers) (drmPlane : DrmPlane) (pset : AtomicReq)
    (bufferW bufferH x y : Int) : Bool × AtomicReq :=
  addProperties a.addProperty pset
    [⟨.plane drmPlane.mId, .crtcX, x⟩, ⟨.plane drmPlane.mId, .crtcY, y⟩,
      ⟨.plane drmPlane.mId, .crtcW, bufferW⟩, ⟨.plane drmPlane.mId, .crtcH, bufferH⟩]

/-- `SetSrcProperty`: sizes in 16.16 fixed point. -/
def setSrcProperty (a : PlaneAnswers) (drmPlane : DrmPlane) (pset : AtomicReq)
    (bufferW bufferH : Int) : Bool × AtomicReq :=
  addProperties a.addProperty pset
    [⟨.plane drmPlane.mId, .srcX, 0⟩, ⟨.plane drmPlane.mId, .srcY, 0⟩,
      ⟨.plane drmPlane.mId, .srcW, shiftLeft16 bufferW⟩,
      ⟨.plane drmPlane.mId, .srcH, shiftLeft16 bufferH⟩]

/-- Where a slot's layer is put: the client layer at the origin, the cursor at its
display rectangle. -/
def Slot.position (s : Slot) (l : HdiLayer) : Int × Int :=
  match s with
  | .primary => (0, 0)
  | .cursor => (l.mDisplayRect.x, l.mDisplayRect.y)

/-- What `ApplyPlane` and `ApplyCursor` set before they get the buffer. -/
def setPlaneProperties (s : Slot) (a : PlaneAnswers) (l : HdiLayer) (buf : HdiLayerBuffer)
    (drmPlane : DrmPlane) (pset : AtomicReq) : Bool × AtomicReq :=
  match setAcquireFence a l drmPlane pset with
  | (false, pset) => (false, pset)
  | (true, pset) =>
      match setCrtcProperty a drmPlane pset buf.mWidth buf.mHeight
          (s.position l).1 (s.position l).2 with
      | (false, pset) => (false, pset)
      | (true, pset) => setSrcProperty a drmPlane pset buf.mWidth buf.mHeight

/-- What they set once they have it. -/
def setFbProperties (a : PlaneAnswers) (gemBuffer : DrmGemBuffer) (crtcId : Nat)
    (drmPlane : DrmPlane) (pset : AtomicReq) : DispStatus × AtomicReq :=
  if gemBuffer.isValid then
    match drmModeAtomicAddProperty a.addProperty pset
        ⟨.plane drmPlane.mId, .fbId, gemBuffer.mFdId⟩ with
    | (false, pset) => (.failure, pset)
    | (true, pset) =>
        match drmModeAtomicAddProperty a.addProperty pset
            ⟨.plane drmPlane.mId, .crtcId, crtcId⟩ with
        | (false, pset) => (.failure, pset)
        | (true, pset) => (.success, pset)
  else (.failure, pset)

/-! ## One layer on one plane -/

/-- `HdiDrmLayer::GetGemBuffer` on a layer with the buffer object `buf`: the new
object becomes the current one, the current one the last one, and the last one
is destroyed. -/
def HdiLayer.getGemBuffer (d : Drm) (l : HdiLayer) (buf : HdiLayerBuffer) (a : PlaneAnswers) :
    Nat × HdiLayer × Drm :=
  let (gem, d) := d.newGem buf a.prime
  let d := d.destroyOwned l.lastBuffer_ a.drop
  (gem, { l with lastBuffer_ := l.mCurrentBuffer, mCurrentBuffer := some gem }, d)

/-- `GetGemBuffer` of the layer `p` points to. -/
def getGemBuffer (a : PlaneAnswers) (p : LayerRef) : Hal Nat := do
  let l ← derefLayer p
  let buf ← derefBuffer l
  let w ← get
  let (gem, l, d) := l.getGemBuffer w.drm buf a
  set ((w.setDrm d).setLayer p l)
  return gem

def derefGem (gem : Nat) : Hal DrmGemBuffer := do
  match (← get).drm.gems gem with
  | some g => return g
  | none => throw .danglingGem

/-- The common body of `ApplyPlane` and `ApplyCursor`, which differ in the
position and in the pointer they remember the buffer in. -/
def applyLayer (s : Slot) (a : PlaneAnswers) (p : LayerRef) (drmPlane : DrmPlane)
    (pset : AtomicReq) : Hal (DispStatus × AtomicReq) := do
  let l ← derefLayer p
  let buf ← derefBuffer l
  match setPlaneProperties s a l buf drmPlane pset with
  | (false, pset) => return (.failure, pset)
  | (true, pset) =>
      let gem ← getGemBuffer a p
      let c ← theComposition
      setTheComposition (c.setCurrentGem s (some gem))
      let gemBuffer ← derefGem gem
      let w ← get
      return setFbProperties a gemBuffer w.disp.mCrtc.mId drmPlane pset

def applyPlane : PlaneAnswers → LayerRef → DrmPlane → AtomicReq → Hal (DispStatus × AtomicReq) :=
  applyLayer .primary

def applyCursor : PlaneAnswers → LayerRef → DrmPlane → AtomicReq → Hal (DispStatus × AtomicReq) :=
  applyLayer .cursor

/-! ## The loops of `Apply` -/

/-- The loop over the composition layers; a failing layer ends it. -/
def applyPlanes (a : Nat → PlaneAnswers) :
    Nat → List LayerRef → List DrmPlane → AtomicReq → Hal (DispStatus × AtomicReq)
  | i, p :: mCompLayers, drmPlane :: mPlanes, pset => do
      let (ret, pset) ← applyPlane (a i) p drmPlane pset
      if ret ≠ .success then return (ret, pset)
      else applyPlanes a (i + 1) mCompLayers mPlanes pset
  | _, _, _, pset => return (.success, pset)

/-- The inner loop, one cursor layer on every cursor plane. -/
def applyCursorPlanes (a : Nat → PlaneAnswers) (p : LayerRef) :
    Nat → List DrmPlane → AtomicReq → Hal (DispStatus × AtomicReq)
  | j, drmPlane :: mCursorPlanes, pset => do
      let (ret, pset) ← applyCursor (a j) p drmPlane pset
      if ret ≠ .success then return (ret, pset)
      else applyCursorPlanes a p (j + 1) mCursorPlanes pset
  | _, [], pset => return (.success, pset)

/-- The outer loop: a failure ends the inner loop only. -/
def applyCursors (a : Nat → Nat → PlaneAnswers) (mCursorPlanes : List DrmPlane) :
    Nat → List LayerRef → AtomicReq → Hal AtomicReq
  | i, p :: mCursorLayers, pset => do
      let (_, pset) ← applyCursorPlanes (a i) p 0 mCursorPlanes pset
      applyCursors a mCursorPlanes (i + 1) mCursorLayers pset
  | _, [], pset => return pset

/-- `CheckbootCompleted`, reading the system parameter as `completed`. -/
def checkbootCompleted (completed : Bool) : Hal Bool := do
  let c ← theComposition
  if c.isAnimationEnd_ then return true
  if completed then
    setTheComposition { c with isAnimationEnd_ := true }
    return true
  return false

/-! ## The mode -/

/-- `DrmConnector::GetModeBlockFromId`; `none` for an unknown mode and for a blob
the kernel did not create, which the caller treats alike. -/
def getModeBlockFromId (id : Int) (answer : Option Nat) : Hal (Option Nat) := do
  let w ← get
  match w.disp.mConnector.getModeFromId id, answer with
  | some _, some blob =>
      if w.drm.drmFd < 0 then return none
      set (w.setDrm { w.drm with log := .createPropertyBlob blob :: w.drm.log })
      return some blob
  | _, _ => return none

/-- `~DrmModeBlock`. -/
def destroyModeBlock : Option Nat → Hal Unit
  | none => return ()
  | some blob =>
      modify fun w =>
        w.setDrm { w.drm with log := .destroyPropertyBlob blob :: w.drm.log }

/-- `UpdateMode`. -/
def updateMode (a : FrameAnswers) (pset : AtomicReq) :
    Hal (Bool × Option Nat × AtomicReq) := do
  let w ← get
  let crtc := w.disp.mCrtc
  if crtc.mNeedModeSet then
    match ← getModeBlockFromId crtc.mActiveModeId a.createPropertyBlob with
    | none => return (true, none, pset)
    | some blob =>
        let (ok, pset) := addProperties a.modeProperty pset
          [⟨.crtc crtc.mId, .active, 1⟩, ⟨.crtc crtc.mId, .modeId, blob⟩,
            ⟨.connector w.disp.mConnector.mId, .crtcId, crtc.mId⟩]
        return (ok, some blob, pset)
  else return (true, none, pset)

/-! ## The commit and what follows it -/

def setReleaseFences (fd : Int) : List LayerRef → Hal Unit
  | [] => return ()
  | p :: ps => do
      let l ← derefLayer p
      modify (·.setLayer p (l.setReleaseFence fd))
      setReleaseFences fd ps

def Slot.danglingLast : Slot → Fault
  | .primary => .danglingLastGem
  | .cursor => .danglingLastCursorGem

/-- Release the buffer a slot remembers and remember the current one. -/
def releaseLast (s : Slot) (a : DropAnswers) : Hal Unit := do
  let c ← theComposition
  let w ← get
  match c.lastGem s with
  | none => setTheComposition (c.setLastGem s (c.currentGem s))
  | some gem =>
      match w.drm.gems gem with
      | none => throw s.danglingLast
      | some g =>
          set (w.setDrm (w.drm.releaseBuffer gem g a))
          setTheComposition (c.setLastGem s (c.currentGem s))

/-- `Apply` from the atomic commit on. -/
def commitFrame (a : FrameAnswers) (pset : AtomicReq) : Hal DispStatus := do
  let w ← get
  let (fence, d) := w.drm.atomicCommit pset a.atomicCommit
  set (w.setDrm d)
  match fence with
  | none => return .failure
  | some crtcOutFence =>
      let c ← theComposition
      setReleaseFences crtcOutFence c.mCompLayers
      setReleaseFences crtcOutFence c.mCursorLayers
      releaseLast .primary a.release
      releaseLast .cursor a.releaseCursor
      return .success

/-- The cursor part of `Apply`. -/
def applyCursorPart (a : FrameAnswers) (pset : AtomicReq) : Hal AtomicReq := do
  if ← checkbootCompleted a.bootCompleted then
    let c ← theComposition
    applyCursors a.cursor c.mCursorPlanes 0 c.mCursorLayers pset
  else return pset

/-- `Apply`. The status of the two loops is overwritten by that of `UpdateMode`.
The value of `OUT_FENCE_PTR` is the address of a local. -/
def apply (a : FrameAnswers) : Hal DispStatus := do
  let c ← theComposition
  if c.mPlanes.length < c.mCompLayers.length then return .failure
  if !a.atomicAlloc then return .nullPtr
  let w ← get
  match drmModeAtomicAddProperty (fun _ => a.outFencePtr) []
      ⟨.crtc w.disp.mCrtc.mId, .outFencePtr, 0⟩ with
  | (false, _) => return .failure
  | (true, pset) =>
      let (_, pset) ← applyPlanes a.plane 0 c.mCompLayers c.mPlanes pset
      let pset ← applyCursorPart a pset
      let (ok, modeBlock, pset) ← updateMode a pset
      let ret ← if ok then commitFrame a pset else pure .failure
      destroyModeBlock modeBlock
      return ret

/-! ## Preparation -/

/-- The loop of `SetLayers`: only a cursor layer keeps its device selection. -/
def selectDevices : List LayerRef → Hal Unit
  | [] => return ()
  | p :: layers => do
      let l ← derefLayer p
      if l.mCompositionType ≠ .cursor then
        modify (·.setLayer p (l.setDeviceSelect .client))
      selectDevices layers

/-- `SetLayers`. -/
def setLayers (layers : List LayerRef) : Hal DispStatus := do
  selectDevices layers
  let c ← theComposition
  setTheComposition { c with mCompLayers := [.client] }
  return .success

/-- `SetCursorLayer`. -/
def setCursorLayer (p : LayerRef) : Hal DispStatus := do
  let c ← theComposition
  setTheComposition { c with mCursorLayers := [p] }
  return .success

/-- `Init`, on a new composition: take the idle planes of each type the CRTC's
pipe allows. -/
def HdiDrmComposition.init (pipe : UInt32) (planes : List DrmPlane) :
    DispStatus × HdiDrmComposition × List DrmPlane :=
  let (mPrimPlanes, planes) := getDrmPlane pipe .primary planes
  let (mOverlayPlanes, planes) := getDrmPlane pipe .overlay planes
  let (mCursorPlanes, planes) := getDrmPlane pipe .cursor planes
  let c : HdiDrmComposition := { mPrimPlanes, mOverlayPlanes, mCursorPlanes }
  if mPrimPlanes.length = 0 then (.failure, c, planes)
  else (.success, { c with mPlanes := mPrimPlanes ++ mOverlayPlanes }, planes)

end QemuHal
