import QemuHal.Core.IdPool
import QemuHal.Drm.Device

/-!
# `HdiLayer` and `HdiLayerBuffer`

The fields are those some modelled operation reads; the geometry, alpha and blend
settings that are only stored are left out. A `HdiDrmLayer` is the only kind of
layer a DRM display creates, so its two `unique_ptr`s are fields here.
-/

namespace QemuHal

structure IRect where
  x : Int := 0
  y : Int := 0
  w : Int := 0
  h : Int := 0
deriving DecidableEq, Repr

structure BufferHandle where
  fd : Int
  width : Int
  height : Int
  stride : Int
  format : Int
  phyAddr : Nat := 0
deriving DecidableEq, Repr

inductive CompositionType where
  | client
  | device
  | cursor
  | video
  | deviceClear
  | clientClear
  | tunnel
deriving DecidableEq, Repr

/-! ## `HdiLayerBuffer` -/

/-- The buffer object of a layer: `mFd` is a duplicate of the handle's descriptor,
`mHandle` a verbatim copy of the handle. -/
structure HdiLayerBuffer where
  mHandle : BufferHandle
  mPhyAddr : Nat
  mHeight : Int
  mWidth : Int
  mStride : Int
  mFormat : Int
  mFd : Int
deriving DecidableEq, Repr

namespace HdiLayerBuffer

/-- The constructor, with the number `dup` answers. -/
def new (d : Drm) (hdl : BufferHandle) (answer : Option Int) : HdiLayerBuffer × Drm :=
  let (mFd, d) := d.dup hdl.fd answer
  (⟨hdl, hdl.phyAddr, hdl.height, hdl.width, hdl.stride, hdl.format, mFd⟩, d)

/-- The destructor. -/
def destroy (buf : HdiLayerBuffer) (d : Drm) : Drm :=
  if 0 ≤ buf.mFd then d.close buf.mFd else d

theorem new_frame (d : Drm) (hdl : BufferHandle) (answer : Option Int) :
    ∃ fds, (new d hdl answer).2 = { d with fds := fds } :=
  d.dup_frame hdl.fd answer

theorem destroy_frame (buf : HdiLayerBuffer) (d : Drm) :
    ∃ fds, buf.destroy d = { d with fds := fds } := by
  unfold destroy
  split
  · exact ⟨_, rfl⟩
  · exact ⟨d.fds, rfl⟩

end HdiLayerBuffer

/-! ## `HdiLayer` -/

structure HdiLayer where
  mId : Nat := 0
  mVisible : Bool := true
  /-- The descriptor of the `HdiFd` member. -/
  mAcquireFence : Int := -1
  releaseFences_ : List Int := []
  mDisplayRect : IRect := {}
  mZorder : Nat := 0xffffffff
  mCompositionType : CompositionType := .client
  mDeviceSelect : CompositionType := .client
  mHdiBuffer : Option HdiLayerBuffer := none
  /-- `HdiDrmLayer::mCurrentBuffer`. -/
  mCurrentBuffer : Option Nat := none
  lastBuffer_ : Option Nat := none
deriving DecidableEq, Repr

/-- The kernel's answers to the two `dup` calls of `SetLayerBuffer`. -/
structure DupAnswers where
  buffer : Option Int := none
  fence : Option Int := none
deriving DecidableEq, Repr

namespace HdiLayer

/-- `GetReleaseFenceFd`: pop the front of the queue, or `-1`. -/
def getReleaseFenceFd (l : HdiLayer) : Int × HdiLayer :=
  match l.releaseFences_ with
  | [] => (-1, l)
  | fd :: fds => (fd, { l with releaseFences_ := fds })

def setReleaseFence (l : HdiLayer) (fd : Int) : HdiLayer :=
  { l with releaseFences_ := l.releaseFences_ ++ [fd] }

def setDeviceSelect (l : HdiLayer) (type : CompositionType) : HdiLayer :=
  { l with mDeviceSelect := type }

def setLayerCompositionType (l : HdiLayer) (type : CompositionType) : HdiLayer :=
  { l with mCompositionType := type }

def setLayerZorder (l : HdiLayer) (zorder : Nat) : HdiLayer :=
  { l with mZorder := zorder }

def setLayerVisible (l : HdiLayer) (visible : Bool) : HdiLayer :=
  { l with mVisible := visible }

def setLayerRegion (l : HdiLayer) (rect : Option IRect) : DispStatus × HdiLayer :=
  match rect with
  | none => (.nullPtr, l)
  | some rect => (.success, { l with mDisplayRect := rect })

/-- `HdiFd::operator=`. -/
def assignAcquireFence (d : Drm) (l : HdiLayer) (fd : Int) : HdiLayer × Drm :=
  let d := if 0 ≤ l.mAcquireFence then d.close l.mAcquireFence else d
  ({ l with mAcquireFence := fd }, d)

/-- `SetLayerBuffer`. The new buffer object duplicates its descriptor before the
old one is destroyed. -/
def setLayerBuffer (d : Drm) (l : HdiLayer) (buffer : Option BufferHandle) (fence : Int)
    (a : DupAnswers) : DispStatus × HdiLayer × Drm :=
  match buffer with
  | none => (.nullPtr, l, d)
  | some hdl =>
      let (buf, d) := HdiLayerBuffer.new d hdl a.buffer
      let d := match l.mHdiBuffer with
        | some old => old.destroy d
        | none => d
      let l := { l with mHdiBuffer := some buf }
      if fence > -1 then
        let (fd, d) := d.dup fence a.fence
        let (l, d) := assignAcquireFence d l fd
        (.success, l, d)
      else (.success, l, d)

/-! ### Frame lemmas -/

theorem assignAcquireFence_frame (d : Drm) (l : HdiLayer) (fd : Int) :
    ∃ fds, (assignAcquireFence d l fd).2 = { d with fds := fds } := by
  unfold assignAcquireFence
  split
  · exact ⟨_, rfl⟩
  · exact ⟨d.fds, rfl⟩

/-- `SetLayerBuffer` changes the descriptor table only, besides the layer. -/
theorem setLayerBuffer_frame (d : Drm) (l : HdiLayer) (buffer : Option BufferHandle)
    (fence : Int) (a : DupAnswers) :
    ∃ fds, (setLayerBuffer d l buffer fence a).2.2 = { d with fds := fds } := by
  cases buffer with
  | none => exact ⟨d.fds, rfl⟩
  | some hdl =>
      obtain ⟨f₁, h₁⟩ := HdiLayerBuffer.new_frame d hdl a.buffer
      have hold : ∃ f₂, (match l.mHdiBuffer with
          | some old => old.destroy (HdiLayerBuffer.new d hdl a.buffer).2
          | none => (HdiLayerBuffer.new d hdl a.buffer).2) = { d with fds := f₂ } := by
        rw [h₁]
        split
        · next old _ =>
            obtain ⟨f₂, h₂⟩ := old.destroy_frame { d with fds := f₁ }
            exact ⟨f₂, h₂⟩
        · exact ⟨f₁, rfl⟩
      obtain ⟨f₂, h₂⟩ := hold
      unfold setLayerBuffer
      dsimp only
      rw [h₂]
      split
      · obtain ⟨f₃, h₃⟩ := Drm.dup_frame { d with fds := f₂ } fence a.fence
        dsimp only
        rw [h₃]
        obtain ⟨f₄, h₄⟩ := assignAcquireFence_frame { d with fds := f₃ }
          { l with mHdiBuffer := some (HdiLayerBuffer.new d hdl a.buffer).1 }
          (Drm.dup { d with fds := f₂ } fence a.fence).1
        exact ⟨f₄, h₄⟩
      · exact ⟨f₂, rfl⟩

/-- `SetLayerBuffer` leaves every other field of the layer as it was. -/
theorem setLayerBuffer_layer (d : Drm) (l : HdiLayer) (buffer : Option BufferHandle)
    (fence : Int) (a : DupAnswers) :
    ∃ buf fd, (setLayerBuffer d l buffer fence a).2.1 =
        { l with mHdiBuffer := buf, mAcquireFence := fd } ∧
      ((buffer.isSome ∨ l.mHdiBuffer.isSome) → buf.isSome) := by
  cases buffer with
  | none => exact ⟨l.mHdiBuffer, l.mAcquireFence, rfl, by simp⟩
  | some hdl =>
      unfold setLayerBuffer
      dsimp only
      split
      · exact ⟨_, _, rfl, fun _ => rfl⟩
      · exact ⟨_, _, rfl, fun _ => rfl⟩

end HdiLayer

end QemuHal
