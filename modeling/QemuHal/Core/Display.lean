import Mathlib.Data.List.Sort
import QemuHal.Drm.Composition

/-!
# `HdiDisplay` and `DrmDisplay`

The operations of a display, its initialisation, and `step`, which runs the
operation a client asks for.
-/

namespace QemuHal

/-! ## The layer registry -/

def World.zorderOf (w : World) (n : Nat) : Nat :=
  match w.disp.layers n with
  | some l => l.mZorder
  | none => 0

/-- `mLayers.insert` under `SortLayersByZ`: a new element goes after those that
are equivalent to it. -/
def insertLayer (zorder : Nat → Nat) (n : Nat) (mLayers : List Nat) : List Nat :=
  mLayers.orderedInsert (fun a b => zorder a < zorder b) n

/-- Erase the element equal to `n` in `mLayers.equal_range(n)`. -/
def eraseLayer (zorder : Nat → Nat) (n : Nat) (mLayers : List Nat) : List Nat :=
  mLayers.eraseP fun c =>
    (!decide (zorder c < zorder n) && !decide (zorder n < zorder c)) && decide (c = n)

/-- `CreateLayer`; the arguments say whether its two pointers are null. `emplace`
drops the new layer when its id is already a key. -/
def createLayer (layerInfoNull layerIdNull : Bool) : Hal (DispStatus × Option Nat) := do
  if layerInfoNull then return (.paramErr, none)
  if layerIdNull then return (.paramErr, none)
  let w ← get
  match w.layerIds.getIdleId invalidLayerId with
  | none => throw .diverges
  | some (id, ids) =>
      if id = invalidLayerId then
        set { w with layerIds := ids }
        return (.failure, none)
      let n := w.disp.nextLayer
      let w := { w with
        layerIds := ids
        disp := { w.disp with
          layers := Function.update w.disp.layers n (some { mId := id })
          nextLayer := n + 1 } }
      let w := { w with disp := { w.disp with
        mLayers := insertLayer w.zorderOf n w.disp.mLayers } }
      match w.disp.mLayersMap id with
      | none =>
          set { w with disp := { w.disp with
            mLayersMap := Function.update w.disp.mLayersMap id (some n) } }
      | some _ =>
          set { w with disp := { w.disp with
            layers := Function.update w.disp.layers n none } }
      return (.success, some id)

/-- `SetLayerZorder`. -/
def setLayerZorder (layerId zorder : Nat) : Hal DispStatus := do
  let w ← get
  match w.disp.mLayersMap layerId with
  | none => return .failure
  | some n =>
      let layer ← derefLayer (.created n)
      if layer.mZorder = zorder then return .success
      let mLayers := eraseLayer w.zorderOf n w.disp.mLayers
      let w := w.setLayer (.created n) (layer.setLayerZorder zorder)
      set { w with disp := { w.disp with mLayers := insertLayer w.zorderOf n mLayers } }
      return .success

/-- The answers when a layer is destroyed, for each `DrmGemBuffer` it may own. -/
structure DestroyAnswers where
  last : DropAnswers := {}
  current : DropAnswers := {}

/-- `~HdiDrmLayer`. Queued release fences are plain numbers and are not closed. -/
def HdiLayer.destroy (l : HdiLayer) (d : Drm) (a : DestroyAnswers) : Drm :=
  let d := d.destroyOwned l.lastBuffer_ a.last
  let d := d.destroyOwned l.mCurrentBuffer a.current
  let d := match l.mHdiBuffer with
    | some buf => buf.destroy d
    | none => d
  if 0 ≤ l.mAcquireFence then d.close l.mAcquireFence else d

/-- `DestroyLayer`. -/
def destroyLayer (layerId : Nat) (a : DestroyAnswers) : Hal DispStatus := do
  let w ← get
  match w.disp.mLayersMap layerId with
  | none => return .failure
  | some n =>
      let layer ← derefLayer (.created n)
      set { w with
        drm := layer.destroy w.drm a
        disp := { w.disp with
          mLayers := eraseLayer w.zorderOf n w.disp.mLayers
          mLayersMap := Function.update w.disp.mLayersMap layerId none
          layers := Function.update w.disp.layers n none } }
      return .success

/-! ## Layer functions -/

/-- `HdiSession::CallLayerFunction` on this display. -/
def callLayerFunction (layerId : Nat) (f : Drm → HdiLayer → DispStatus × HdiLayer × Drm) :
    Hal DispStatus := do
  let w ← get
  match w.disp.mLayersMap layerId with
  | none => return .failure
  | some n =>
      let layer ← derefLayer (.created n)
      let (ret, layer, d) := f w.drm layer
      set ((w.setDrm d).setLayer (.created n) layer)
      return ret

def setDisplayClientBuffer (buffer : Option BufferHandle) (fence : Int) (a : DupAnswers) :
    Hal DispStatus := do
  let layer ← derefLayer .client
  let w ← get
  let (_, layer, d) := layer.setLayerBuffer w.drm buffer fence a
  set ((w.setDrm d).setLayer .client layer)
  return .success

def setDisplayMode (modeId : Nat) : Hal DispStatus := do
  let w ← get
  let (ret, mCrtc) := w.disp.mCrtc.setActivieMode (toInt32 modeId)
  set { w with disp := { w.disp with mCrtc } }
  return ret

/-! ## Preparing a frame -/

/-- The visible layers, in the order of `mLayers`. -/
def visibleLayers : List Nat → Hal (List Nat)
  | [] => return []
  | n :: mLayers => do
      let l ← derefLayer (.created n)
      let layers ← visibleLayers mLayers
      return if l.mVisible then n :: layers else layers

/-- What `PrepareDisplayLayers` does for a cursor layer: hand its buffer and its
rectangle to the cursor layer of the display. -/
def takeCursor (l : HdiLayer) (a : DupAnswers) : Hal Unit := do
  let buf ← derefBuffer l
  let cursor ← derefLayer .cursor
  let w ← get
  let (_, cursor, d) := cursor.setLayerBuffer w.drm (some buf.mHandle) (-1) a
  let (_, cursor) := cursor.setLayerRegion (some l.mDisplayRect)
  set ((w.setDrm d).setLayer .cursor cursor)
  let _ ← setCursorLayer .cursor

/-- The loop that collects the layers whose type changes. -/
def collectChanges (a : Nat → DupAnswers) : Nat → List Nat → Hal Unit
  | _, [] => return ()
  | i, n :: layers => do
      let l ← derefLayer (.created n)
      if l.mCompositionType = .cursor then takeCursor l (a i)
      if l.mDeviceSelect ≠ l.mCompositionType then
        modify (·.setLayer (.created n) (l.setLayerCompositionType l.mDeviceSelect))
        modify fun w =>
          { w with disp := { w.disp with mChangeLayers := w.disp.mChangeLayers ++ [n] } }
      collectChanges a (i + 1) layers

/-- `PrepareDisplayLayers`, with the answers to the `dup` of each visible layer.
`HdiComposer::Prepare` calls `SetLayers` of the one post composition. -/
def prepareDisplayLayers (a : Nat → DupAnswers) : Hal DispStatus := do
  modify fun w => { w with disp := { w.disp with mChangeLayers := [] } }
  let w ← get
  let layers ← visibleLayers w.disp.mLayers
  let _ ← theComposition
  let _ ← setLayers (layers.map .created)
  collectChanges a 0 layers
  return .success

/-- The loop of `GetDisplayCompChange`. -/
def readChanges : List Nat → Hal (List (Nat × CompositionType))
  | [] => return []
  | n :: changes => do
      let l ← derefLayer (.created n)
      let rest ← readChanges changes
      return (l.mId, l.mCompositionType) :: rest

/-- `GetDisplayCompChange`: the number of changes, and the changes when the caller
passes an array for ids or for types. -/
def getDisplayCompChange (arrays : Bool) :
    Hal (DispStatus × Nat × List (Nat × CompositionType)) := do
  let w ← get
  let num := w.disp.mChangeLayers.length
  if !arrays then return (.success, num, [])
  let changes ← readChanges w.disp.mChangeLayers
  return (.success, num, changes)

/-! ## Committing a frame -/

/-- `HdiComposer::Commit`. -/
def composerCommit (a : FrameAnswers) : Hal DispStatus := do
  let _ ← theComposition
  let ret ← apply a
  if ret ≠ .success then return .failure
  return .success

/-- Pop a release fence of a layer. -/
def popReleaseFence (p : LayerRef) : Hal Int := do
  let l ← derefLayer p
  let (fd, l) := l.getReleaseFenceFd
  modify (·.setLayer p l)
  return fd

/-- `HdiDisplay::Commit`: the status of the composer is dropped. -/
def commit (a : FrameAnswers) : Hal (DispStatus × Int) := do
  let _ ← composerCommit a
  let fence ← popReleaseFence .client
  return (.success, fence)

/-- The loop of `GetDisplayReleaseFence`. The debug line after the two stores
evaluates `GetReleaseFenceFd` once more. -/
def readReleaseFences (fences : Bool) : List Nat → Hal (List (Nat × Int))
  | [] => return []
  | n :: mLayers => do
      let l ← derefLayer (.created n)
      let fd ← if fences then popReleaseFence (.created n) else pure (-1)
      let _ ← popReleaseFence (.created n)
      let rest ← readReleaseFences fences mLayers
      return (l.mId, fd) :: rest

/-- `GetDisplayReleaseFence`; the arguments say which arrays the caller passes. -/
def getDisplayReleaseFence (layers fences : Bool) :
    Hal (DispStatus × Nat × List (Nat × Int)) := do
  let w ← get
  let num := w.disp.mLayers.length
  if !layers && !fences then return (.success, num, [])
  let out ← readReleaseFences fences w.disp.mLayers
  return (.success, num, out)

/-! ## Initialisation -/

/-- The answers to the calls of `DrmDisplay::Init`. -/
structure InitAnswers where
  /-- `HdiGfxComposition::Init` succeeds. -/
  gfxInit : Bool := true
  /-- `AllocMem` of the first frame: the descriptor, its dma-buf, the stride. -/
  allocMem : Option (Int × Nat × Int) := none
  dup : DupAnswers := {}
  firstFrame : FrameAnswers := {}

/-- `PIXEL_FMT_BGRA_8888`. -/
def pixelFmtBgra8888 : Int := 20

/-- `HdiDisplay::Init`. -/
def hdiDisplayInit : Hal DispStatus := do
  let w ← get
  match w.displayIds.getIdleId invalidDisplayId with
  | none => throw .diverges
  | some (id, ids) =>
      let w := { w with displayIds := ids }
      if id = invalidDisplayId then
        set w
        return .failure
      set { w with disp := { w.disp with
        mId := id, mClientLayer := some {}, mCursorLayer := some {} } }
      return .success

/-- `AllocMem` of the first frame: a new dma-buf under a free descriptor. -/
def Drm.allocMem (d : Drm) (mode : DrmMode) : Option (Int × Nat × Int) → Option BufferHandle × Drm
  | some (fd, dmaBuf, stride) =>
      if 0 ≤ fd ∧ d.fds fd = none then
        let id := freshId (d.handles.map Prod.snd) dmaBuf
        (some { fd, width := mode.hdisplay, height := mode.vdisplay, stride
                format := pixelFmtBgra8888 },
          { d with fds := Function.update d.fds fd (some ⟨.dmaBuf id, true⟩) })
      else (none, d)
  | none => (none, d)

/-- `PushFirstFrame`; the result of `Apply` is dropped. -/
def pushFirstFrame (a : InitAnswers) : Hal DispStatus := do
  let w ← get
  match w.disp.mConnector.getModeFromId w.disp.mCrtc.mActiveModeId with
  | none => return .failure
  | some mode =>
      match w.drm.allocMem mode a.allocMem with
      | (none, _) => return .failure
      | (some buffer, d) =>
          let client ← derefLayer .client
          let (_, client, d) := client.setLayerBuffer d (some buffer) (-1) a.dup
          set ((w.setDrm d).setLayer .client client)
          let _ ← setLayers []
          let _ ← apply a.firstFrame
          return .success

/-- `ChosePreferenceMode`. `GetDisplaySupportedModes` always succeeds, so its
check never fails. -/
def chosePreferenceMode (a : InitAnswers) : Hal DispStatus := do
  let w ← get
  let id := w.disp.mConnector.mPreferenceId
  let modeId := if id = invalidModeId then 0 else id
  let ret ← setDisplayMode (modeId % 2 ^ 32).toNat
  if ret ≠ .success then return .failure
  pushFirstFrame a

/-- `DrmDisplay::Init`. The constructor's three pointers are not null. -/
def drmDisplayInit (a : InitAnswers) : Hal DispStatus := do
  let ret ← hdiDisplayInit
  if ret ≠ .success then return .failure
  if !a.gfxInit then return .failure
  let w ← get
  let (ret, c, planes) := HdiDrmComposition.init w.disp.mCrtc.mPipe w.planes
  set { w with planes }
  if ret ≠ .success then return .failure
  setTheComposition c
  let w ← get
  let (ret, mCrtc) := w.disp.mCrtc.bindToDisplay w.disp.mId
  set { w with disp := { w.disp with mCrtc } }
  if ret ≠ .success then return .failure
  chosePreferenceMode a

/-! ## The operations of a client -/

inductive Op where
  | createLayer (layerInfoNull layerIdNull : Bool)
  | destroyLayer (layerId : Nat) (a : DestroyAnswers)
  | setLayerZorder (layerId zorder : Nat)
  | setLayerBuffer (layerId : Nat) (buffer : Option BufferHandle) (fence : Int) (a : DupAnswers)
  | setLayerCompositionType (layerId : Nat) (type : CompositionType)
  | setLayerVisible (layerId : Nat) (visible : Bool)
  | setLayerRegion (layerId : Nat) (rect : Option IRect)
  | setDisplayClientBuffer (buffer : Option BufferHandle) (fence : Int) (a : DupAnswers)
  | setDisplayMode (modeId : Nat)
  | prepareDisplayLayers (a : Nat → DupAnswers)
  | commit (a : FrameAnswers)
  | getDisplayCompChange (arrays : Bool)
  | getDisplayReleaseFence (layers fences : Bool)
  /-- The client opens (`some`) or closes (`none`) one of its own descriptors. -/
  | clientFd (fd : Int) (file : Option File)

/-- What an operation returns. -/
inductive Ret where
  | status (ret : DispStatus)
  | layerId (ret : DispStatus) (id : Option Nat)
  | fence (ret : DispStatus) (fd : Int)
  | changes (ret : DispStatus) (num : Nat) (out : List (Nat × CompositionType))
  | fences (ret : DispStatus) (num : Nat) (out : List (Nat × Int))
deriving DecidableEq, Repr

/-- A descriptor handed to the client is the client's from then on. -/
def Drm.handOver (d : Drm) (fd : Int) : Drm :=
  { d with fds := Function.update d.fds fd ((d.fds fd).map fun e => { e with hal := false }) }

/-- The client changes its own part of the descriptor table. The kernel gives it no
negative number. -/
def Drm.clientFd (d : Drm) (fd : Int) (file : Option File) : Drm :=
  if fd < 0 then d
  else
    match d.fds fd with
    | some ⟨_, true⟩ => d
    | _ => { d with fds := Function.update d.fds fd (file.map (⟨·, false⟩)) }

def step : Op → Hal Ret
  | .createLayer i l => do
      let (ret, id) ← createLayer i l
      return .layerId ret id
  | .destroyLayer id a => .status <$> destroyLayer id a
  | .setLayerZorder id z => .status <$> setLayerZorder id z
  | .setLayerBuffer id buffer fence a =>
      .status <$> callLayerFunction id fun d l => l.setLayerBuffer d buffer fence a
  | .setLayerCompositionType id type =>
      .status <$> callLayerFunction id fun d l =>
        (.success, l.setLayerCompositionType type, d)
  | .setLayerVisible id visible =>
      .status <$> callLayerFunction id fun d l => (.success, l.setLayerVisible visible, d)
  | .setLayerRegion id rect =>
      .status <$> callLayerFunction id fun d l =>
        ((l.setLayerRegion rect).1, (l.setLayerRegion rect).2, d)
  | .setDisplayClientBuffer buffer fence a =>
      .status <$> setDisplayClientBuffer buffer fence a
  | .setDisplayMode id => .status <$> setDisplayMode id
  | .prepareDisplayLayers a => .status <$> prepareDisplayLayers a
  | .commit a => do
      let (ret, fd) ← commit a
      modify fun w => w.setDrm (w.drm.handOver fd)
      return .fence ret fd
  | .getDisplayCompChange arrays => do
      let (ret, num, out) ← getDisplayCompChange arrays
      return .changes ret num out
  | .getDisplayReleaseFence layers fences => do
      let (ret, num, out) ← getDisplayReleaseFence layers fences
      modify fun w => w.setDrm (out.foldl (fun d e => d.handOver e.2) w.drm)
      return .fences ret num out
  | .clientFd fd file => do
      modify fun w => w.setDrm (w.drm.clientFd fd file)
      return .status .success

end QemuHal
