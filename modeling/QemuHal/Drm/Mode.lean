import QemuHal.Core.IdPool
import QemuHal.Drm.Kernel

/-!
# Modes: `DrmConnector` and `DrmCrtc`
-/

namespace QemuHal

def invalidModeId : Int := -1

/-- `DRM_INVALID_ID`. -/
def drmInvalidId : Nat := 0xffffffff

/-- The fields of `drmModeModeInfo` the HAL reads. -/
structure DrmMode where
  hdisplay : Nat
  vdisplay : Nat
  vrefresh : Nat := 60
  preferred : Bool := false
deriving DecidableEq, Repr

structure DisplayModeInfo where
  width : Int
  height : Int
  freshRate : Nat
  id : Int
deriving DecidableEq, Repr

/-- `ConvertToHdiMode`. `InitModes` files a mode under its `mId`. -/
def DrmMode.convertToHdiMode (m : DrmMode) (mId : Int) : DisplayModeInfo where
  width := m.hdisplay
  height := m.vdisplay
  freshRate := m.vrefresh
  id := mId

structure DrmConnector where
  mId : Nat
  mEncoderId : Nat
  mPossibleEncoders : List Nat
  /-- `mModes`, as its entries. -/
  mModes : List (Int × DrmMode)
  mPreferenceId : Int
deriving DecidableEq, Repr

namespace DrmConnector

/-- `GetModeFromId`; `none` is `DISPLAY_FAILURE`. -/
def getModeFromId (c : DrmConnector) (id : Int) : Option DrmMode :=
  (c.mModes.find? fun e => decide (e.1 = id)).map Prod.snd

/-- `GetDisplaySupportedModes`, when the caller passes an array. -/
def getDisplaySupportedModes (c : DrmConnector) : List DisplayModeInfo :=
  c.mModes.map fun e => e.2.convertToHdiMode e.1

/-- A mode is listed exactly when it is found under its id. -/
theorem getModeFromId_isSome_iff (c : DrmConnector) (id : Int) :
    (c.getModeFromId id).isSome ↔ ∃ info ∈ c.getDisplaySupportedModes, info.id = id := by
  unfold getModeFromId getDisplaySupportedModes
  rw [Option.isSome_map, List.find?_isSome]
  constructor
  · rintro ⟨e, he, hid⟩
    exact ⟨_, List.mem_map_of_mem he, of_decide_eq_true hid⟩
  · rintro ⟨info, hinfo, hid⟩
    obtain ⟨e, he, rfl⟩ := List.mem_map.1 hinfo
    exact ⟨e, he, decide_eq_true hid⟩

end DrmConnector

structure DrmCrtc where
  mId : Nat
  mPipe : UInt32
  mDisplayId : Nat := invalidDisplayId
  mActiveModeId : Int := invalidModeId
  mNeedModeSet : Bool := false
deriving DecidableEq, Repr

namespace DrmCrtc

def canBind (c : DrmCrtc) : Bool := c.mDisplayId = invalidDisplayId

def bindToDisplay (c : DrmCrtc) (id : Nat) : DispStatus × DrmCrtc :=
  if c.mDisplayId ≠ invalidDisplayId then (.failure, c)
  else (.success, { c with mDisplayId := id })

def unBindDisplay (c : DrmCrtc) (id : Nat) : DrmCrtc :=
  if c.mDisplayId = id then { c with mDisplayId := invalidDisplayId } else c

def setActivieMode (c : DrmCrtc) (id : Int) : DispStatus × DrmCrtc :=
  if id < 0 then (.paramErr, c)
  else (.success, { c with
    mNeedModeSet := if c.mActiveModeId ≠ id then true else c.mNeedModeSet
    mActiveModeId := id })

end DrmCrtc

/-- The conversion of a `uint32_t` argument to an `int32_t` parameter. -/
def toInt32 (n : Nat) : Int :=
  let m : Nat := n % 2 ^ 32
  if m < 2 ^ 31 then (m : Int) else (m : Int) - 2 ^ 32

end QemuHal
