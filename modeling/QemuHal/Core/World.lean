import QemuHal.Lib.Exec
import QemuHal.Drm.GemBuffer
import QemuHal.Drm.Mode
import QemuHal.Drm.Plane

/-!
# The state of a display, and the programs over it

`World` is what the operations of one display read and write: the state shared by
all displays of the process and the display with its layers, its composition, its
CRTC and its connector. `Hal` is the type of the operations: a program that
returns in a new `World`, or stops on a fault where the C++ code has undefined
behaviour or never returns.
-/

namespace QemuHal

inductive Fault where
  | nullComposer
  | nullLayer
  | nullLayerBuffer
  | danglingLayer
  | danglingGem
  | danglingLastGem
  | danglingLastCursorGem
  | diverges
deriving DecidableEq, Repr

/-- A `HdiLayer *`: the client layer, the cursor layer, or the serial number of a
layer made by `CreateLayer`. -/
inductive LayerRef where
  | client
  | cursor
  | created (n : Nat)
deriving DecidableEq, Repr

/-- The two places of the composition that remember `DrmGemBuffer` pointers. -/
inductive Slot where
  | primary
  | cursor
deriving DecidableEq, Repr

/-- The layer whose buffers a slot remembers. -/
def Slot.layer : Slot → LayerRef
  | .primary => .client
  | .cursor => .cursor

structure HdiDrmComposition where
  mPrimPlanes : List DrmPlane := []
  mOverlayPlanes : List DrmPlane := []
  mPlanes : List DrmPlane := []
  mCursorPlanes : List DrmPlane := []
  mCompLayers : List LayerRef := []
  mCursorLayers : List LayerRef := []
  mLastGemBuffer : Option Nat := none
  mCurrentGemBuffer : Option Nat := none
  mLastCursorGemBuffer : Option Nat := none
  mCurrentCursorGemBuffer : Option Nat := none
  isAnimationEnd_ : Bool := false

namespace HdiDrmComposition

def lastGem (c : HdiDrmComposition) : Slot → Option Nat
  | .primary => c.mLastGemBuffer
  | .cursor => c.mLastCursorGemBuffer

def currentGem (c : HdiDrmComposition) : Slot → Option Nat
  | .primary => c.mCurrentGemBuffer
  | .cursor => c.mCurrentCursorGemBuffer

def setLastGem (c : HdiDrmComposition) (s : Slot) (p : Option Nat) : HdiDrmComposition :=
  match s with
  | .primary => { c with mLastGemBuffer := p }
  | .cursor => { c with mLastCursorGemBuffer := p }

def setCurrentGem (c : HdiDrmComposition) (s : Slot) (p : Option Nat) : HdiDrmComposition :=
  match s with
  | .primary => { c with mCurrentGemBuffer := p }
  | .cursor => { c with mCurrentCursorGemBuffer := p }

@[simp] theorem setLastGem_lastGem (c : HdiDrmComposition) (s s' : Slot) (p : Option Nat) :
    (c.setLastGem s p).lastGem s' = if s' = s then p else c.lastGem s' := by
  cases s <;> cases s' <;> rfl

@[simp] theorem setLastGem_currentGem (c : HdiDrmComposition) (s s' : Slot) (p : Option Nat) :
    (c.setLastGem s p).currentGem s' = c.currentGem s' := by cases s <;> cases s' <;> rfl

@[simp] theorem setCurrentGem_currentGem (c : HdiDrmComposition) (s s' : Slot)
    (p : Option Nat) :
    (c.setCurrentGem s p).currentGem s' = if s' = s then p else c.currentGem s' := by
  cases s <;> cases s' <;> rfl

@[simp] theorem setCurrentGem_lastGem (c : HdiDrmComposition) (s s' : Slot) (p : Option Nat) :
    (c.setCurrentGem s p).lastGem s' = c.lastGem s' := by cases s <;> cases s' <;> rfl

end HdiDrmComposition

/-- A `DrmDisplay`. `layers` holds the layers `CreateLayer` made and `DestroyLayer`
has not destroyed; `mComposer` is its one post composition. -/
structure HdiDisplay where
  mId : Nat := invalidDisplayId
  layers : Nat → Option HdiLayer := fun _ => none
  nextLayer : Nat := 0
  mLayersMap : Nat → Option Nat := fun _ => none
  mLayers : List Nat := []
  mClientLayer : Option HdiLayer := none
  mCursorLayer : Option HdiLayer := none
  mChangeLayers : List Nat := []
  mComposer : Option HdiDrmComposition := none
  mConnector : DrmConnector
  mCrtc : DrmCrtc

structure World where
  drm : Drm
  layerIds : IdPool
  displayIds : IdPool
  /-- `DrmDevice::mPlanes`. -/
  planes : List DrmPlane
  disp : HdiDisplay

abbrev Hal := EStateM Fault World

namespace World

def layerAt (w : World) : LayerRef → Option HdiLayer
  | .client => w.disp.mClientLayer
  | .cursor => w.disp.mCursorLayer
  | .created n => w.disp.layers n

def setDrm (w : World) (d : Drm) : World := { w with drm := d }

def setLayer (w : World) (p : LayerRef) (l : HdiLayer) : World :=
  match p with
  | .client => { w with disp := { w.disp with mClientLayer := some l } }
  | .cursor => { w with disp := { w.disp with mCursorLayer := some l } }
  | .created n =>
      { w with disp := { w.disp with layers := Function.update w.disp.layers n (some l) } }

def setComposition (w : World) (c : HdiDrmComposition) : World :=
  { w with disp := { w.disp with mComposer := some c } }

/-! ## The fields an update changes -/

@[simp] theorem setDrm_drm (w : World) (d : Drm) : (w.setDrm d).drm = d := rfl
@[simp] theorem setDrm_disp (w : World) (d : Drm) : (w.setDrm d).disp = w.disp := rfl
@[simp] theorem setDrm_layerAt (w : World) (d : Drm) (p : LayerRef) :
    (w.setDrm d).layerAt p = w.layerAt p := by cases p <;> rfl

@[simp] theorem setComposition_drm (w : World) (c : HdiDrmComposition) :
    (w.setComposition c).drm = w.drm := rfl
@[simp] theorem setComposition_mComposer (w : World) (c : HdiDrmComposition) :
    (w.setComposition c).disp.mComposer = some c := rfl
@[simp] theorem setComposition_mCrtc (w : World) (c : HdiDrmComposition) :
    (w.setComposition c).disp.mCrtc = w.disp.mCrtc := rfl
@[simp] theorem setComposition_mConnector (w : World) (c : HdiDrmComposition) :
    (w.setComposition c).disp.mConnector = w.disp.mConnector := rfl
@[simp] theorem setComposition_layerAt (w : World) (c : HdiDrmComposition) (p : LayerRef) :
    (w.setComposition c).layerAt p = w.layerAt p := by cases p <;> rfl

@[simp] theorem setLayer_drm (w : World) (p : LayerRef) (l : HdiLayer) :
    (w.setLayer p l).drm = w.drm := by cases p <;> rfl
@[simp] theorem setLayer_mComposer (w : World) (p : LayerRef) (l : HdiLayer) :
    (w.setLayer p l).disp.mComposer = w.disp.mComposer := by cases p <;> rfl
@[simp] theorem setLayer_mCrtc (w : World) (p : LayerRef) (l : HdiLayer) :
    (w.setLayer p l).disp.mCrtc = w.disp.mCrtc := by cases p <;> rfl
@[simp] theorem setLayer_mConnector (w : World) (p : LayerRef) (l : HdiLayer) :
    (w.setLayer p l).disp.mConnector = w.disp.mConnector := by cases p <;> rfl

theorem layerAt_setLayer (w : World) (p q : LayerRef) (l : HdiLayer) :
    (w.setLayer p l).layerAt q = if q = p then some l else w.layerAt q := by
  cases p <;> cases q <;> simp [setLayer, layerAt, Function.update_apply]

@[simp] theorem layerAt_setLayer_self (w : World) (p : LayerRef) (l : HdiLayer) :
    (w.setLayer p l).layerAt p = some l := by simp [layerAt_setLayer]

end World

/-! ## Reading through pointers -/

/-- `this` of the composition's methods, reached through `mComposer`. -/
def theComposition : Hal HdiDrmComposition := do
  match (← get).disp.mComposer with
  | some c => return c
  | none => throw .nullComposer

def setTheComposition (c : HdiDrmComposition) : Hal Unit :=
  modify (·.setComposition c)

/-- Read the layer a pointer points to. -/
def derefLayer (p : LayerRef) : Hal HdiLayer := do
  match (← get).layerAt p, p with
  | some l, _ => return l
  | none, .created _ => throw .danglingLayer
  | none, _ => throw .nullLayer

theorem theComposition_of {w : World} {c : HdiDrmComposition} (h : w.disp.mComposer = some c) :
    theComposition w = .ok c w := by
  unfold theComposition
  rw [Exec.get_bind, h]
  rfl

theorem derefLayer_of {w : World} {p : LayerRef} {l : HdiLayer} (h : w.layerAt p = some l) :
    derefLayer p w = .ok l w := by
  unfold derefLayer
  rw [Exec.get_bind, h]
  rfl

/-- Read the buffer object of a layer. -/
def derefBuffer (l : HdiLayer) : Hal HdiLayerBuffer :=
  match l.mHdiBuffer with
  | some buf => return buf
  | none => throw .nullLayerBuffer

theorem derefBuffer_of {w : World} {l : HdiLayer} {buf : HdiLayerBuffer}
    (h : l.mHdiBuffer = some buf) : derefBuffer l w = .ok buf w := by
  unfold derefBuffer
  rw [h]
  rfl

end QemuHal
