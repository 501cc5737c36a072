import QemuHal.Core.Layer

/-!
# `DrmGemBuffer`

An object imports a layer buffer, creates a framebuffer on it, and gives both
back in `releaseBuffer` or in its destructor.
-/

namespace QemuHal

/-- The kernel's answers to the two calls of the constructor. -/
structure ImportAnswers where
  handle : Option Nat := none
  fb : Option Nat := none
deriving DecidableEq, Repr

/-- The kernel's answers to the two calls that give a buffer back. -/
structure DropAnswers where
  rmFB : Bool := true
  gemClose : Bool := true
deriving DecidableEq, Repr

namespace DrmGemBuffer

/-- `IsValid`: the framebuffer id is unsigned, so its comparison is always true. -/
def isValid (g : DrmGemBuffer) : Bool := decide (g.mGemHandle ≠ 0) && decide (0 ≤ g.mFdId)

/-- `Init`: an import that fails leaves both ids `0`, a failing `AddFB2` only the
framebuffer id. The arm64 HAL has the framebuffer made in one format whatever that of the
buffer is. -/
def init (d : Drm) (gem : Nat) (hdl : HdiLayerBuffer) (a : ImportAnswers)
    (format : FbFormat := .xrgb8888) : DrmGemBuffer × Drm :=
  if d.drmFd < 0 then ({}, d)
  else
    match d.primeFDToHandle gem hdl.mFd a.handle with
    | (none, d) => ({}, d)
    | (some handle, d) =>
        match d.addFB2 gem handle hdl.mWidth hdl.mHeight format hdl.mStride a.fb with
        | (none, d) => ({ mGemHandle := handle }, d)
        | (some fb, d) => ({ mGemHandle := handle, mFdId := fb }, d)

end DrmGemBuffer

namespace Drm

/-- `std::make_unique<DrmGemBuffer>(GetDrmFd(), hdl)`. -/
def newGem (d : Drm) (hdl : HdiLayerBuffer) (a : ImportAnswers) (format : FbFormat := .xrgb8888) :
    Nat × Drm :=
  let gem := d.nextGem
  let (g, d) := DrmGemBuffer.init { d with nextGem := gem + 1 } gem hdl a format
  (gem, { d with gems := Function.update d.gems gem (some g) })

/-- The first half of `releaseBuffer` and of the destructor: remove the
framebuffer. The id is kept when the call fails. -/
def dropFb (d : Drm) (gem : Nat) (g : DrmGemBuffer) (ok : Bool) : DrmGemBuffer × Drm :=
  if g.mFdId ≠ 0 then
    let (removed, d) := d.rmFB gem g.mFdId ok
    (if removed then { g with mFdId := 0 } else g, d)
  else (g, d)

/-- The second half: close the handle. -/
def dropHandle (d : Drm) (gem : Nat) (g : DrmGemBuffer) (ok : Bool) : DrmGemBuffer × Drm :=
  if g.mGemHandle ≠ 0 then
    let (closed, d) := d.gemClose gem g.mGemHandle ok
    (if closed then { g with mGemHandle := 0 } else g, d)
  else (g, d)

/-- `releaseBuffer` of a live object. -/
def releaseBuffer (d : Drm) (gem : Nat) (g : DrmGemBuffer) (a : DropAnswers) : Drm :=
  let (g, d) := d.dropFb gem g a.rmFB
  let (g, d) := d.dropHandle gem g a.gemClose
  { d with gems := Function.update d.gems gem (some g) }

/-- `~DrmGemBuffer`. Only a `unique_ptr` destroys such an object, so it is live. -/
def destroyGem (d : Drm) (gem : Nat) (a : DropAnswers) : Drm :=
  match d.gems gem with
  | none => d
  | some g =>
      let (g, d) := d.dropFb gem g a.rmFB
      let (_, d) := d.dropHandle gem g a.gemClose
      { d with
        gems := Function.update d.gems gem none
        log := .gemDestroyed gem :: d.log }

/-- Destroy what a `unique_ptr` holds. -/
def destroyOwned (d : Drm) (p : Option Nat) (a : DropAnswers) : Drm :=
  match p with
  | none => d
  | some gem => d.destroyGem gem a

end Drm

end QemuHal
