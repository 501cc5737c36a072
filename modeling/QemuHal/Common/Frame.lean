import QemuHal.Common.Planes
import QemuHal.Core.Descriptors

/-!
# The frames of the common HAL

`Planes` follows the planes of the device and takes the buffers and the kernel's verdict on
a request as they come. Here the displays have their layers, the layers their descriptors
and `DrmGemBuffer` objects, and a request that is committed takes effect in the kernel.
`session_mirrors` is what ties the two together: the device and the requests of a session are
those of `Planes`.
-/

namespace QemuHal.Common.Frame

open Exec

/-! ## The state -/

/-- `HdiDrmLayer`. -/
structure HdiDrmLayer where
  mZorder : Nat := 0xffffffff
  mHdiBuffer : Option HdiLayerBuffer := none
  /-- The numbers of the two `HdiSharedFd` members. -/
  mAcquireFence : Int := -1
  mReleaseFence : Int := -1
  mCurrentBuffer : Option Nat := none
  mLastBuffer : Option Nat := none
deriving DecidableEq, Repr

/-- What `mCompLayers` of a `HdiDrmComposition` may point to. -/
inductive LayerRef where
  | client
deriving DecidableEq, Repr

/-- A display that has its composer, with the fields of its `HdiDrmComposition` and of its
connector. -/
structure DrmDisplay where
  mCrtc : Planes.DrmCrtc
  mConnectorId : Nat
  mPlanes : List Nat
  mCompLayers : List LayerRef := []
  mClientLayer : HdiDrmLayer := {}
  mLayersMap : Nat → Option HdiDrmLayer := fun _ => none
  /-- `mModes` of the connector, as its entries. -/
  mModes : List (Int × DrmMode) := []
  mPropBrightnessId : Nat := drmInvalidId
  mBrightnessLevel : Nat := 0

/-- What the process keeps in variables of its own. -/
structure Statics where
  /-- `fb_fd` of `SetDisplayPowerStatus`. -/
  fbFd : Int := -1
  /-- `brFd` of `SetBrightness`. -/
  brFd : Int := 0
  /-- The descriptor of the gralloc's `gbmDevice`, if there is one. -/
  gbmDevice : Option Int := none
deriving DecidableEq, Repr

/-- A display and what it shares with the others. -/
structure World where
  drm : Drm
  device : Planes.DrmDevice
  /-- The requests that were allocated and not freed. -/
  requests : Nat
  statics : Statics
  disp : DrmDisplay

abbrev Hal := EStateM Planes.Fault World

/-- A program on the planes and the modes of the device. -/
def onDevice {α : Type} (m : Planes.Comp α) : Hal α := fun w =>
  match m w.device with
  | .ok x device => .ok x { w with device }
  | .error e device => .error e { w with device }

def World.setDrm (w : World) (drm : Drm) : World := { w with drm }

def World.setClient (w : World) (l : HdiDrmLayer) : World :=
  { w with disp := { w.disp with mClientLayer := l } }

/-! ## The kernel's answers in a frame -/

/-- The answers to the calls made for one layer. -/
structure PlaneAnswers where
  addProperty : Planes.PropName → Bool := fun _ => true
  prime : ImportAnswers := {}
  /-- For the buffer `GetGemBuffer` destroys. -/
  drop : DropAnswers := {}

/-- The answers to the calls of one `Apply`. -/
structure FrameAnswers where
  /-- Whether the request of `UpdateMode` is allocated; nobody checks. -/
  modeAlloc : Bool := true
  /-- The blob id of the mode block, if there is a valid one. -/
  modeBlock : Option Nat := none
  modeProperty : Planes.PropName → Bool := fun _ => true
  modeCommit : Bool := true
  atomicAlloc : Bool := true
  outFencePtr : Bool := true
  plane : Nat → PlaneAnswers := fun _ => {}
  unuse : Nat → Bool × Bool := fun _ => (true, true)
  addProperty : Planes.PropName → Bool := fun _ => true
  atomicCommit : Option Int := none

/-! ## Requests in the kernel -/

/-- The property as the kernel's record names it. The record is kept without z-orders. -/
def recordedProp : Planes.PropName → Option PropName
  | .fbId => some .fbId
  | .inFenceFd => some .inFenceFd
  | .crtcId => some .crtcId
  | .crtcX => some .crtcX
  | .crtcY => some .crtcY
  | .crtcW => some .crtcW
  | .crtcH => some .crtcH
  | .srcX => some .srcX
  | .srcY => some .srcY
  | .srcW => some .srcW
  | .srcH => some .srcH
  | .zpos => none
  | .modeId => some .modeId
  | .outFencePtr => some .outFencePtr
  | .active => some .active

def recorded (pset : Planes.AtomicReq) : AtomicReq :=
  pset.filterMap fun e => (recordedProp e.prop).map fun prop => ⟨e.obj, prop, e.value⟩

/-- The commit of a mode: the request has no `OUT_FENCE_PTR`, so there is no fence. -/
def commitMode (d : Drm) (pset : Planes.AtomicReq) (ok : Bool) : Drm :=
  let fence := if ok then some (-1) else none
  { d with log := .atomicCommit (recorded pset) (d.fbs.map Prod.fst) fence :: d.log }

/-! ## `HdiDrmLayer` -/

/-- The layer as `ApplyPlane` reads it. -/
def HdiDrmLayer.toComp (l : HdiDrmLayer) : Planes.CompLayer where
  mAcquireFence := l.mAcquireFence
  mZorder := l.mZorder
  mHdiBuffer := l.mHdiBuffer.map fun buf => (buf.mWidth, buf.mHeight)

/-- `convertTable`, with the codes of the `PIXEL_FMT_*` names. -/
def convertTable : List (FbFormat × Int) :=
  [(.xbgr8888, 11), (.abgr8888, 12), (.rgb888, 13), (.rgb565, 14), (.bgrx4444, 15), (.bgra4444, 16),
    (.rgba4444, 6), (.rgbx4444, 5), (.bgrx5551, 17), (.bgra5551, 18), (.bgrx8888, 19),
    (.argb8888, 20), (.nv12, 24), (.nv21, 25), (.yuv420, 28), (.yvu420, 29), (.nv16, 22),
    (.nv61, 23), (.yuv422, 26), (.yvu422, 27)]

/-- `ConvertToDrmFormat`: the last entry of the table that matches. -/
def convertToDrmFormat (fmtIn : Int) : FbFormat :=
  convertTable.foldl (fun fmtOut e => if e.2 = fmtIn then e.1 else fmtOut) .invalid

/-- The `mDrmFormat` of the object made for a buffer. -/
def mDrmFormat (hdl : HdiLayerBuffer) : FbFormat := convertToDrmFormat hdl.mFormat

/-- `IsValid`. Both ids are compared with `INVALID_DRM_ID`, which is `0`. -/
def isValid (gem : DrmGemBuffer) : Bool := decide (gem.mGemHandle ≠ 0) && decide (gem.mFdId ≠ 0)

/-- `GetGemBuffer` on a layer with the buffer object `buf`: the new object becomes the
current one, the current one the last one, and the last one is destroyed. -/
def HdiDrmLayer.getGemBuffer (d : Drm) (l : HdiDrmLayer) (buf : HdiLayerBuffer) (a : PlaneAnswers) :
    Nat × HdiDrmLayer × Drm :=
  let (gem, d) := d.newGem buf a.prime (mDrmFormat buf)
  let d := d.destroyOwned l.mLastBuffer a.drop
  (gem, { l with mLastBuffer := l.mCurrentBuffer, mCurrentBuffer := some gem }, d)

/-- `HdiSharedFd::operator=` of `mReleaseFence`. -/
def HdiDrmLayer.setReleaseFence (d : Drm) (l : HdiDrmLayer) (fd : Int) : HdiDrmLayer × Drm :=
  ({ l with mReleaseFence := fd }, if 0 ≤ l.mReleaseFence then d.close l.mReleaseFence else d)

/-- `SetLayerBuffer`. The fence is duplicated even where it is `-1`. -/
def HdiDrmLayer.setLayerBuffer (d : Drm) (l : HdiDrmLayer) (buffer : Option BufferHandle)
    (fence : Int) (a : DupAnswers) : DispStatus × HdiDrmLayer × Drm :=
  match buffer with
  | none => (.nullPtr, l, d)
  | some hdl =>
      let (buf, d) := HdiLayerBuffer.new d hdl a.buffer
      let d := match l.mHdiBuffer with
        | some old => old.destroy d
        | none => d
      let (fd, d) := d.dup fence a.fence
      let d := if 0 ≤ l.mAcquireFence then d.close l.mAcquireFence else d
      (.success, { l with mHdiBuffer := some buf, mAcquireFence := fd }, d)

/-- `~HdiDrmLayer`, members last to first. -/
def HdiDrmLayer.destroy (l : HdiDrmLayer) (d : Drm) (last current : DropAnswers) : Drm :=
  let d := d.destroyOwned l.mLastBuffer last
  let d := d.destroyOwned l.mCurrentBuffer current
  let d := match l.mHdiBuffer with
    | some buf => buf.destroy d
    | none => d
  let d := if 0 ≤ l.mReleaseFence then d.close l.mReleaseFence else d
  if 0 ≤ l.mAcquireFence then d.close l.mAcquireFence else d

/-! ## `Apply` -/

/-- `ApplyPlane` of the client layer: whether it succeeds, and the request. -/
def applyPlane (a : PlaneAnswers) (plane : Nat) (pset : Planes.AtomicReq) :
    Hal (Bool × Planes.AtomicReq) := do
  let w ← get
  let l := w.disp.mClientLayer
  match l.mHdiBuffer with
  | none => throw .nullLayerBuffer
  | some buf =>
      match Planes.addProperties a.addProperty pset
          (Planes.planeProperties l.toComp plane (w.device.planes plane) buf.mWidth buf.mHeight) with
      | (false, pset) => return (false, pset)
      | (true, pset) =>
          let (gem, l, d) := l.getGemBuffer w.drm buf a
          set ((w.setDrm d).setClient l)
          match d.gems gem with
          | none => return (false, pset)
          | some gemBuffer =>
              if isValid gemBuffer then
                return Planes.addProperties a.addProperty pset
                  [⟨.plane plane, .fbId, gemBuffer.mFdId⟩,
                    ⟨.plane plane, .crtcId, w.disp.mCrtc.mId⟩]
              else return (false, pset)

/-- The inner loop of `FindPlaneAndApply`. -/
def placeLayer (a : PlaneAnswers) : List Nat → Planes.AtomicReq → Hal Planes.AtomicReq
  | [], pset => return pset
  | plane :: mPlanes, pset => do
      let w ← get
      let drmPlane := w.device.planes plane
      let crtc := w.disp.mCrtc
      if drmPlane.mPipe ≠ 0 ∧ drmPlane.mPipe ≠ crtc.bit then placeLayer a mPlanes pset
      else if ¬ crtc.covers drmPlane then placeLayer a mPlanes pset
      else if drmPlane.mCrtcId = crtc.mId ∨ drmPlane.mCrtcId = 0 then
        let (ok, pset) ← applyPlane a plane pset
        if ok then onDevice (modify fun d => d.bindToPipe plane crtc.bit)
        return pset
      else placeLayer a mPlanes pset

/-- `FindPlaneAndApply`, from layer `i` on. -/
def findPlaneAndApply (a : Nat → PlaneAnswers) :
    Nat → List LayerRef → Planes.AtomicReq → Hal Planes.AtomicReq
  | _, [], pset => return pset
  | i, .client :: mCompLayers, pset => do
      let mPlanes := (← get).disp.mPlanes
      let pset ← placeLayer (a i) mPlanes pset
      findPlaneAndApply a (i + 1) mCompLayers pset

/-- `RemoveUnusePlane`. -/
def removeUnusePlane (a : Nat → Bool × Bool) (pset : Planes.AtomicReq) : Hal Planes.AtomicReq := do
  let disp := (← get).disp
  onDevice (Planes.removeUnusePlane a disp.mCrtc disp.mPlanes pset)

/-- `drmModeAtomicAlloc` of a request that is never freed. -/
def allocRequest (ok : Bool) : Hal Unit :=
  modify fun w => { w with requests := w.requests + if ok then 1 else 0 }

/-- `UpdateMode`: its status, the mode block, and the request it builds. -/
def updateMode (a : FrameAnswers) : Hal (Bool × Option Nat × List Planes.AtomicReq) := do
  let w ← get
  let crtc := w.disp.mCrtc
  let mode := w.device.modes crtc.mId
  if mode.mNeedModeSet then
    allocRequest a.modeAlloc
    match a.modeBlock with
    | none => return (true, none, [])
    | some blob =>
        modify fun w => w.setDrm { w.drm with log := .createPropertyBlob blob :: w.drm.log }
        let (ok, pset) := Planes.addProperties (fun prop => a.modeAlloc && a.modeProperty prop) []
          [⟨.crtc crtc.mId, .active, 1⟩, ⟨.crtc crtc.mId, .modeId, blob⟩,
            ⟨.connector w.disp.mConnectorId, .crtcId, crtc.mId⟩]
        if ok then
          modify fun w => w.setDrm (commitMode w.drm pset a.modeCommit)
          if a.modeCommit then
            onDevice (modify fun d => d.setMode crtc.mId { mode with mNeedModeSet := false })
            return (true, some blob, [pset])
        return (false, some blob, [pset])
  else return (true, none, [])

/-- `~DrmModeBlock`. -/
def destroyModeBlock : Option Nat → Hal Unit
  | none => return ()
  | some blob => modify fun w =>
      w.setDrm { w.drm with log := .destroyPropertyBlob blob :: w.drm.log }

/-- The fence of a commit is given to every composition layer. -/
def setReleaseFences (fence : Int) : List LayerRef → Hal Unit
  | [] => return ()
  | .client :: mCompLayers => do
      let w ← get
      let (l, d) := w.disp.mClientLayer.setReleaseFence w.drm fence
      set ((w.setDrm d).setClient l)
      setReleaseFences fence mCompLayers

/-- The commit of the frame. -/
def commitFrame (pset : Planes.AtomicReq) (answer : Option Int) : Hal DispStatus := do
  let w ← get
  let (fence, d) := w.drm.atomicCommit (recorded pset) answer
  set (w.setDrm d)
  match fence with
  | none => return .failure
  | some fence =>
      setReleaseFences fence w.disp.mCompLayers
      return .success

/-- `AtomicReqPtr`: the request is freed on every way out. -/
def withRequest {α : Type} (m : Hal α) : Hal α := do
  modify fun w => { w with requests := w.requests + 1 }
  let x ← m
  modify fun w => { w with requests := w.requests - 1 }
  return x

/-- `Apply` once the request of the frame is allocated. -/
def applyFrame (a : FrameAnswers) : Hal (DispStatus × Planes.AtomicReq) := do
  let disp := (← get).disp
  if ¬ a.outFencePtr then return (.failure, [])
  let pset ← findPlaneAndApply a.plane 0 disp.mCompLayers [⟨.crtc disp.mCrtc.mId, .outFencePtr, 0⟩]
  let pset ← removeUnusePlane a.unuse pset
  match Planes.addProperties a.addProperty pset
      [⟨.connector disp.mConnectorId, .crtcId, disp.mCrtc.mId⟩,
        ⟨.crtc disp.mCrtc.mId, .active, 1⟩] with
  | (false, pset) => return (.failure, pset)
  | (true, pset) =>
      let ret ← commitFrame pset a.atomicCommit
      return (ret, pset)

/-- `Apply` after `UpdateMode`. -/
def applyLayers (a : FrameAnswers) : Hal (DispStatus × List Planes.AtomicReq) := do
  let disp := (← get).disp
  if disp.mPlanes.length < disp.mCompLayers.length then return (.failure, [])
  if ¬ a.atomicAlloc then return (.nullPtr, [])
  let (ret, pset) ← withRequest (applyFrame a)
  return (ret, [pset])

/-- `Apply`: its status and the requests it builds. -/
def apply (a : FrameAnswers) : Hal (DispStatus × List Planes.AtomicReq) := do
  let (ok, block, psets) ← updateMode a
  if ok then
    let (ret, frame) ← applyLayers a
    destroyModeBlock block
    return (ret, frame ++ psets)
  else
    destroyModeBlock block
    return (.failure, psets)

/-! ## Files that stay open -/

/-- The answers to the calls of `GrallocInitialize`. -/
structure GrallocAnswers where
  /-- The two blocks of memory are there. -/
  malloc : Bool := true
  realpath : Bool := true
  openFd : Option Int := none
  createDevice : Bool := true
deriving DecidableEq, Repr

/-- `GrallocInitialize`: whether it succeeds. Only the first success opens the device. -/
def grallocInitialize (a : GrallocAnswers) : Hal Bool := do
  let w ← get
  if ¬ a.malloc then return false
  if w.statics.gbmDevice.isSome then return true
  if ¬ a.realpath then return false
  let (drmFd, d) := w.drm.openNode .render a.openFd
  if drmFd < 0 then return false
  if a.createDevice then
    set { w with drm := d, statics := { w.statics with gbmDevice := some drmFd } }
    return true
  else
    set (w.setDrm (d.close drmFd))
    return false

/-- `DispPowerStatus`, and any other value. -/
inductive DispPowerStatus where
  | on
  | standby
  | suspend
  | off
  | other (code : Nat)
deriving DecidableEq, Repr

def fbBlankUnblank : Nat := 0

def fbBlankPowerdown : Nat := 4

/-! ## The operations of a display -/

/-- What an operation returns, and the requests it has built. -/
structure Ret where
  status : DispStatus := .success
  fences : List Int := []
  psets : List Planes.AtomicReq := []
deriving DecidableEq, Repr

/-- The answers to the calls of `PushFirstFrame`. -/
structure FirstFrameAnswers where
  gralloc : GrallocAnswers := {}
  /-- The descriptor of the buffer, its dma-buf and its stride. -/
  allocMem : Option (Int × Nat × Int) := none
  dup : DupAnswers := {}
  frame : FrameAnswers := {}

inductive Op where
  | setDisplayClientBuffer (buffer : Option BufferHandle) (fence : Int) (a : DupAnswers)
  | pushFirstFrame (a : FirstFrameAnswers)
  | setDisplayMode (modeId : Int)
  | prepareDisplayLayers
  | commit (pre : Bool) (a : FrameAnswers) (fence : Option Int)
  /-- The id is the one the pool gives, if it gives any. -/
  | createLayer (layerId : Option Nat)
  | closeLayer (layerId : Nat) (last current : DropAnswers)
  | setLayerBuffer (layerId : Nat) (buffer : Option BufferHandle) (fence : Int) (a : DupAnswers)
  /-- `mLayers` are the ids of the layers in the multiset of the display. -/
  | getDisplayReleaseFence (mLayers : List Nat) (a : List (Option Int))
  /-- `blank` is what `FBIOBLANK` returns for a level. -/
  | setDisplayPowerStatus (status : DispPowerStatus) (openFd : Option Int) (blank : Nat → Int)
  | setDisplayBacklight (level : UInt32) (openFd : Option Int) (memset : Bool)

/-- `SetLayers` of the composition. -/
def setLayers : Hal Unit :=
  modify fun w => { w with disp := { w.disp with mCompLayers := [.client] } }

/-- `mClientLayer->SetLayerBuffer`. -/
def setClientBuffer (buffer : Option BufferHandle) (fence : Int) (a : DupAnswers) : Hal Unit :=
  modify fun w =>
    let (_, l, d) := w.disp.mClientLayer.setLayerBuffer w.drm buffer fence a
    (w.setDrm d).setClient l

/-- A descriptor is duplicated for the client. -/
def handOut (fd : Int) (answer : Option Int) : Hal Int := do
  let w ← get
  let (copy, d) := w.drm.dup fd answer
  set (w.setDrm (d.handOver copy))
  return copy

/-- The loop of `GetDisplayReleaseFence`. -/
def releaseFences : List Nat → List (Option Int) → Hal (List Int)
  | id :: mLayers, answer :: a => do
      match (← get).disp.mLayersMap id with
      | none => releaseFences mLayers a
      | some l =>
          let fd ← handOut l.mReleaseFence answer
          let fds ← releaseFences mLayers a
          return fd :: fds
  | _, _ => return []

/-- A layer of `mLayersMap` is put in place, or taken out. -/
def World.setLayer (w : World) (id : Nat) (l : Option HdiDrmLayer) : World :=
  { w with disp := { w.disp with mLayersMap := Function.update w.disp.mLayersMap id l } }

/-- `GetModeFromId`. -/
def DrmDisplay.getModeFromId (disp : DrmDisplay) (id : Int) : Option DrmMode :=
  (disp.mModes.find? fun e => decide (e.1 = id)).map Prod.snd

/-- `PushFirstFrame` up to its buffer. Nobody ever frees that buffer. -/
def firstBuffer (a : FirstFrameAnswers) : Hal (Option BufferHandle) := do
  let ret ← grallocInitialize a.gralloc
  if ¬ ret then return none
  let w ← get
  match w.disp.getModeFromId (w.device.modes w.disp.mCrtc.mId).mActiveModeId with
  | none => return none
  | some mode =>
      let (buffer, d) := w.drm.allocMem mode a.allocMem
      set (w.setDrm d)
      return buffer

/-- `PushFirstFrame`. The result of `Apply` is dropped. -/
def pushFirstFrame (a : FirstFrameAnswers) : Hal Ret := do
  match ← firstBuffer a with
  | none => return { status := .failure }
  | some buffer =>
      setClientBuffer (some buffer) (-1) a.dup
      setLayers
      let (_, psets) ← apply a.frame
      return { psets }

def setDisplayMode (modeId : Int) : Hal Ret := do
  let crtcId := (← get).disp.mCrtc.mId
  onDevice (Planes.setActivieMode crtcId modeId)
  return {}

def prepareDisplayLayers : Hal Ret := do
  modify fun w => w.setClient { w.disp.mClientLayer with mZorder := 3 }
  setLayers
  return {}

/-- `HdiComposer::Commit`; `pre` says whether the other composition succeeds. -/
def composerCommit (pre : Bool) (a : FrameAnswers) : Hal (List Planes.AtomicReq) :=
  if pre then Prod.snd <$> apply a else return []

/-- `HdiDisplay::Commit`, which drops the status of the composer. -/
def commit (pre : Bool) (a : FrameAnswers) (fence : Option Int) : Hal Ret := do
  let psets ← composerCommit pre a
  let fd ← handOut (← get).disp.mClientLayer.mReleaseFence fence
  return { fences := [fd], psets }

/-- `CreateLayer`. A layer whose id is taken is not put in the map. -/
def createLayer (layerId : Option Nat) : Hal Ret := do
  match layerId with
  | none => return { status := .failure }
  | some id =>
      modify fun w => if (w.disp.mLayersMap id).isNone then w.setLayer id (some {}) else w
      return {}

def closeLayer (layerId : Nat) (last current : DropAnswers) : Hal Ret := do
  let w ← get
  match w.disp.mLayersMap layerId with
  | none => return { status := .failure }
  | some l =>
      set ((w.setDrm (l.destroy w.drm last current)).setLayer layerId none)
      return {}

def setLayerBuffer (layerId : Nat) (buffer : Option BufferHandle) (fence : Int) (a : DupAnswers) :
    Hal Ret := do
  let w ← get
  match w.disp.mLayersMap layerId with
  | none => return { status := .failure }
  | some l =>
      let (status, l, d) := l.setLayerBuffer w.drm buffer fence a
      set ((w.setDrm d).setLayer layerId (some l))
      return { status }

def getDisplayReleaseFence (mLayers : List Nat) (a : List (Option Int)) : Hal Ret := do
  let fences ← releaseFences mLayers a
  return { fences }

/-- `SetDisplayPowerStatus`. -/
def setDisplayPowerStatus (status : DispPowerStatus) (openFd : Option Int) (blank : Nat → Int) :
    Hal Ret := do
  let w ← get
  let (fbFd, d) := if w.statics.fbFd < 0 then w.drm.openNode .fb0 openFd else (w.statics.fbFd, w.drm)
  set { w with drm := d, statics := { w.statics with fbFd } }
  if fbFd < 0 then return { status := .notSupport }
  let err : Int := match status with
    | .off | .standby | .suspend => blank fbBlankPowerdown
    | .on => blank fbBlankUnblank
    | .other _ => -1
  return { status := if err < 0 then .failure else .success }

/-- `SetBrightness` of the connector. A number of more than eight characters does not fit into
the ten bytes with its newline; the result of `write` is dropped. -/
def setDisplayBacklight (level : UInt32) (openFd : Option Int) (memset : Bool) : Hal Ret := do
  let w ← get
  if w.disp.mPropBrightnessId = drmInvalidId then return { status := .notSupport }
  let (brFd, d) :=
    if w.statics.brFd ≤ 0 then w.drm.openNode .brightness openFd else (w.statics.brFd, w.drm)
  let w := { w with drm := d, statics := { w.statics with brFd } }
  set w
  if brFd < 0 then return { status := .notSupport }
  if ¬ memset then return { status := .failure }
  if 8 < (toString level.toInt32).length then return { status := .failure }
  set { w with disp := { w.disp with mBrightnessLevel := level.toNat } }
  return {}

def step : Op → Hal Ret
  | .setDisplayClientBuffer buffer fence a => do
      setClientBuffer buffer fence a
      return {}
  | .pushFirstFrame a => pushFirstFrame a
  | .setDisplayMode modeId => setDisplayMode modeId
  | .prepareDisplayLayers => prepareDisplayLayers
  | .commit pre a fence => commit pre a fence
  | .createLayer layerId => createLayer layerId
  | .closeLayer layerId last current => closeLayer layerId last current
  | .setLayerBuffer layerId buffer fence a => setLayerBuffer layerId buffer fence a
  | .getDisplayReleaseFence mLayers a => getDisplayReleaseFence mLayers a
  | .setDisplayPowerStatus status openFd blank => setDisplayPowerStatus status openFd blank
  | .setDisplayBacklight level openFd memset => setDisplayBacklight level openFd memset

/-! ## What an operation opens for good -/

/-- The descriptors `l` are opened for the HAL. Besides them only the statics and the
brightness may change. -/
structure World.Opens (w : World) (l : List Int) (w' : World) : Prop where
  rest : ∃ fds statics mBrightnessLevel, w' = { w with
    drm := { w.drm with fds }
    statics
    disp := { w.disp with mBrightnessLevel } }
  opened : ∀ fd ∈ l, 0 ≤ fd ∧ w.drm.fds fd = none ∧ ∃ file, w'.drm.fds fd = some ⟨file, true⟩
  others : ∀ fd, fd ∉ l → w'.drm.fds fd = w.drm.fds fd

namespace World.Opens

variable {w w' w'' : World} {l l' : List Int}

/-- The table stays as it is. -/
theorem still {fds : Int → Option FdEntry} {statics : Statics} {mBrightnessLevel : Nat}
    (hfds : fds = w.drm.fds) : w.Opens [] { w with
      drm := { w.drm with fds }, statics, disp := { w.disp with mBrightnessLevel } } where
  rest := ⟨fds, statics, mBrightnessLevel, rfl⟩
  opened := by simp
  others := fun fd _ => congrFun hfds fd

theorem refl (w : World) : w.Opens [] w := still rfl

theorem trans (h : w.Opens l w') (h' : w'.Opens l' w'') : w.Opens (l ++ l') w'' where
  rest := by
    obtain ⟨_, _, _, heq⟩ := h.rest
    obtain ⟨_, _, _, heq'⟩ := h'.rest
    rw [heq', heq]
    exact ⟨_, _, _, rfl⟩
  opened := by
    intro fd hfd
    by_cases hmem : fd ∈ l
    · obtain ⟨hpos, hfree, file, hopen⟩ := h.opened fd hmem
      have hnot : fd ∉ l' := fun hmem' => absurd (hopen.symm.trans (h'.opened fd hmem').2.1) (by simp)
      exact ⟨hpos, hfree, file, (h'.others fd hnot).trans hopen⟩
    · obtain ⟨hpos, hfree, hopen⟩ := h'.opened fd ((List.mem_append.1 hfd).resolve_left hmem)
      exact ⟨hpos, (h.others fd hmem).symm.trans hfree, hopen⟩
  others := by
    intro fd hfd
    rw [List.mem_append, not_or] at hfd
    exact (h'.others fd hfd.2).trans (h.others fd hfd.1)

end World.Opens

/-- The descriptor, if `open` has given one. -/
def given (fd : Int) : List Int := if 0 ≤ fd then [fd] else []

/-- `GrallocInitialize` opens the device and keeps it. -/
def World.grallocOpened (w : World) (a : GrallocAnswers) : List Int :=
  if a.malloc && w.statics.gbmDevice.isNone && a.realpath && a.createDevice then
    given (w.drm.openNode .render a.openFd).1
  else []

/-- The device of the gralloc and the buffer of the first frame. -/
def World.firstOpened (w : World) (a : FirstFrameAnswers) : List Int :=
  w.grallocOpened a.gralloc ++
    match firstBuffer a w with
    | .ok (some buffer) _ => [buffer.fd]
    | _ => []

/-- The descriptors an operation opens, but for fences, that nobody ever closes. -/
def Op.opened (op : Op) (w : World) : List Int :=
  match op with
  | .pushFirstFrame a => w.firstOpened a
  | .setDisplayPowerStatus _ openFd _ =>
      if w.statics.fbFd < 0 then given (w.drm.openNode .fb0 openFd).1 else []
  | .setDisplayBacklight _ openFd _ =>
      if w.disp.mPropBrightnessId ≠ drmInvalidId ∧ w.statics.brFd ≤ 0 then
        given (w.drm.openNode .brightness openFd).1
      else []
  | _ => []

section
variable {w : World}

theorem openNode_opens (w : World) (node : Node) (answer : Option Int) (statics : Statics)
    (mBrightnessLevel : Nat) :
    w.Opens (given (w.drm.openNode node answer).1)
      { w with
        drm := (w.drm.openNode node answer).2, statics, disp := { w.disp with mBrightnessLevel } } := by
  rcases w.drm.openNode_cases node answer with heq | ⟨fd, hpos, hfree, heq⟩
  · rw [heq]
    exact .still rfl
  · rw [heq]
    have hlist : given fd = [fd] := if_pos hpos
    rw [hlist]
    refine ⟨⟨_, _, _, rfl⟩, fun r hr => ?_, fun r hr => ?_⟩
    · obtain rfl := List.mem_singleton.1 hr
      exact ⟨hpos, hfree, _, Function.update_self ..⟩
    · exact Function.update_of_ne (mt List.mem_singleton.2 hr) ..

theorem grallocInitialize_opens (a : GrallocAnswers) :
    Post (grallocInitialize a) w (fun _ w' => w.Opens (w.grallocOpened a) w') (fun _ _ => False) := by
  unfold grallocInitialize World.grallocOpened
  rw [post_bind, post_get]
  cases a.malloc with
  | false => exact .refl w
  | true =>
      rw [if_neg (by simp)]
      cases hdevice : w.statics.gbmDevice with
      | some drmFd => exact .refl w
      | none =>
          rw [if_neg (by simp)]
          cases a.realpath with
          | false => exact .refl w
          | true =>
              rw [if_neg (by simp)]
              have hopen := fun statics =>
                openNode_opens w .render a.openFd statics w.disp.mBrightnessLevel
              rcases w.drm.openNode_cases .render a.openFd with heq | ⟨fd, hpos, hfree, heq⟩
              · rw [heq]
                dsimp only
                rw [if_pos (by decide), given, if_neg (show ¬ (0 : Int) ≤ -1 by decide), ite_self]
                exact .refl w
              · rw [heq] at hopen ⊢
                dsimp only
                rw [if_neg (by omega)]
                cases a.createDevice with
                | true => exact hopen _
                | false =>
                    have hclosed : ∀ e, Function.update (Function.update w.drm.fds fd e) fd none =
                        w.drm.fds := by
                      intro e
                      rw [Function.update_idem, Function.update_eq_self_iff]
                      exact hfree.symm
                    exact .still (hclosed _)

/-- `AllocMem` opens the buffer, if it succeeds. -/
theorem allocMem_opens (w : World) (mode : DrmMode) (answer : Option (Int × Nat × Int)) :
    w.Opens ((w.drm.allocMem mode answer).1.map BufferHandle.fd).toList
      (w.setDrm (w.drm.allocMem mode answer).2) := by
  unfold Drm.allocMem
  cases answer with
  | none => exact .refl w
  | some x =>
      obtain ⟨fd, dmaBuf, stride⟩ := x
      dsimp only
      split
      · next hfree =>
          refine ⟨⟨_, _, _, rfl⟩, fun r hr => ?_, fun r hr => ?_⟩
          · obtain rfl := List.mem_singleton.1 hr
            exact ⟨hfree.1, hfree.2, _, Function.update_self ..⟩
          · exact Function.update_of_ne (mt List.mem_singleton.2 hr) ..
      · exact .refl w

theorem firstBuffer_opens (a : FirstFrameAnswers) :
    Post (firstBuffer a) w (fun _ w' => w.Opens (w.firstOpened a) w') (fun _ _ => False) := by
  have hlist : Post (firstBuffer a) w (fun buffer w' =>
      w.Opens (w.grallocOpened a.gralloc ++ (buffer.map BufferHandle.fd).toList) w')
      (fun _ _ => False) := by
    unfold firstBuffer
    rw [post_bind]
    refine (grallocInitialize_opens a.gralloc).mono ?_ (fun _ _ he => he)
    intro ret w₁ h₁
    split
    · simpa using h₁
    · rw [post_bind, post_get]
      split
      · simpa using h₁
      · next mode _ => exact h₁.trans (allocMem_opens w₁ mode a.allocMem)
  obtain ⟨buffer, w', hfirst, hopens⟩ := hlist.exists_ok
  refine post_of_ok hfirst ?_
  unfold World.firstOpened
  rw [hfirst]
  cases buffer with
  | none => exact hopens
  | some buffer => exact hopens

theorem setDisplayPowerStatus_opens (status : DispPowerStatus) (openFd : Option Int)
    (blank : Nat → Int) :
    Post (setDisplayPowerStatus status openFd blank) w
      (fun ret w' => w.Opens ((Op.setDisplayPowerStatus status openFd blank).opened w) w' ∧
        ret.psets = [] ∧ ret.fences = []) (fun _ _ => False) := by
  unfold setDisplayPowerStatus Op.opened
  rw [post_bind, post_get]
  by_cases hneg : w.statics.fbFd < 0
  · simp only [if_pos hneg, post_bind, post_set]
    have hopen := openNode_opens w .fb0 openFd
      { w.statics with fbFd := (w.drm.openNode .fb0 openFd).1 } w.disp.mBrightnessLevel
    split <;> exact ⟨hopen, rfl, rfl⟩
  · simp only [if_neg hneg, post_bind, post_set]
    exact ⟨.still rfl, rfl, rfl⟩

theorem setDisplayBacklight_opens (level : UInt32) (openFd : Option Int) (memset : Bool) :
    Post (setDisplayBacklight level openFd memset) w
      (fun ret w' => w.Opens ((Op.setDisplayBacklight level openFd memset).opened w) w' ∧
        ret.psets = [] ∧ ret.fences = []) (fun _ _ => False) := by
  unfold setDisplayBacklight Op.opened
  rw [post_bind, post_get]
  by_cases hprop : w.disp.mPropBrightnessId = drmInvalidId
  · simp only [hprop, ne_eq, not_true_eq_false, false_and, if_true, if_false]
    exact ⟨.refl w, rfl, rfl⟩
  · by_cases hpos : w.statics.brFd ≤ 0
    · simp only [hprop, hpos, ne_eq, not_false_eq_true, and_self, if_true, if_false, post_bind,
        post_set]
      have hopen := openNode_opens w .brightness openFd
        { w.statics with brFd := (w.drm.openNode .brightness openFd).1 }
      split
      · exact ⟨hopen _, rfl, rfl⟩
      · split
        · exact ⟨hopen _, rfl, rfl⟩
        · split <;> exact ⟨hopen _, rfl, rfl⟩
    · simp only [hprop, hpos, and_false, if_false, post_bind, post_set]
      split
      · exact ⟨.still rfl, rfl, rfl⟩
      · split
        · exact ⟨.still rfl, rfl, rfl⟩
        · split <;> exact ⟨.still rfl, rfl, rfl⟩

end

/-! ## The session -/

/-- The displays of a session and what they share. -/
structure Session where
  drm : Drm
  device : Planes.DrmDevice
  requests : Nat
  statics : Statics := {}
  mHdiDisplays : Nat → Option DrmDisplay

namespace Session

/-- The state as an operation of the display `disp` sees it. -/
def world (s : Session) (disp : DrmDisplay) : World := ⟨s.drm, s.device, s.requests, s.statics, disp⟩

/-- The state once an operation of display `devId` has ended in `w`. -/
def store (s : Session) (devId : Nat) (w : World) : Session where
  drm := w.drm
  device := w.device
  requests := w.requests
  statics := w.statics
  mHdiDisplays := Function.update s.mHdiDisplays devId (some w.disp)

end Session

/-- `CallDisplayFunction` and `CallLayerFunction`. -/
def callDisplayFunction (devId : Nat) (member : Hal Ret) : EStateM Planes.Fault Session Ret := fun s =>
  match s.mHdiDisplays devId with
  | none => .ok { status := .failure } s
  | some disp =>
      match member (s.world disp) with
      | .ok ret w => .ok ret (s.store devId w)
      | .error e w => .error e (s.store devId w)

theorem callDisplayFunction_post {devId : Nat} {member : Hal Ret} {s : Session}
    {Q : Ret → Session → Prop} {E : Planes.Fault → Session → Prop}
    (hnone : s.mHdiDisplays devId = none → Q { status := .failure } s)
    (hsome : ∀ disp, s.mHdiDisplays devId = some disp → Post member (s.world disp)
      (fun ret w => Q ret (s.store devId w)) (fun e w => E e (s.store devId w))) :
    Post (callDisplayFunction devId member) s Q E := by
  unfold Post callDisplayFunction
  cases hdisp : s.mHdiDisplays devId with
  | none => exact hnone hdisp
  | some disp =>
      have hpost := hsome disp hdisp
      unfold Post at hpost
      dsimp only
      cases hm : member (s.world disp) with
      | ok ret w =>
          rw [hm] at hpost
          exact hpost
      | error e w =>
          rw [hm] at hpost
          exact hpost

inductive Call where
  | display (devId : Nat) (op : Op)
  /-- The client opens (`some`) or closes (`none`) one of its own descriptors. -/
  | clientFd (fd : Int) (file : Option File)

def sessionStep : Call → EStateM Planes.Fault Session Ret
  | .display devId op => callDisplayFunction devId (step op)
  | .clientFd fd file => do
      modify fun s => { s with drm := s.drm.clientFd fd file }
      return {}

end QemuHal.Common.Frame
