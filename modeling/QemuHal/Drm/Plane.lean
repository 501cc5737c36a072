import Mathlib.Data.List.Nodup
import QemuHal.Drm.Kernel

/-!
# `DrmPlane` and `DrmDevice::GetDrmPlane`
-/

namespace QemuHal

/-- The plane types `DrmPlane::Init` accepts. -/
inductive PlaneType where
  | overlay
  | primary
  | cursor
deriving DecidableEq, Repr

structure DrmPlane where
  mId : Nat
  mPossibleCrtcs : UInt32
  mType : PlaneType
  /-- `0` stands for a plane without the property; the other property ids are
  only passed on. -/
  mPropFenceInId : Nat := 1
  mPipe : UInt32 := 0
deriving DecidableEq, Repr

/-- `(1 << pipe) & possibleCrtcs`. -/
def crtcAllowed (pipe possibleCrtcs : UInt32) : Bool := (1 <<< pipe) &&& possibleCrtcs ≠ 0

namespace DrmPlane

def bindToPipe (p : DrmPlane) (pipe : UInt32) : DrmPlane := { p with mPipe := pipe }

/-- Pipe `0` is the mark of an idle plane. -/
def isIdle (p : DrmPlane) : Bool := p.mPipe = 0

end DrmPlane

/-- The condition of the search loop. -/
def planeMatches (pipe : UInt32) (type : PlaneType) (p : DrmPlane) : Bool :=
  p.isIdle && crtcAllowed pipe p.mPossibleCrtcs && (type = p.mType)

/-- `GetDrmPlane`: the planes found, and the device's planes after the loop has
bound the ones it found. -/
def getDrmPlane (pipe : UInt32) (type : PlaneType) :
    List DrmPlane → List DrmPlane × List DrmPlane
  | [] => ([], [])
  | plane :: mPlanes =>
      let (planes, mPlanes) := getDrmPlane pipe type mPlanes
      if planeMatches pipe type plane then
        (plane.bindToPipe pipe :: planes, plane.bindToPipe pipe :: mPlanes)
      else (planes, plane :: mPlanes)

/-- The planes found are the matching ones, in the device's order. -/
theorem getDrmPlane_fst (pipe : UInt32) (type : PlaneType) (mPlanes : List DrmPlane) :
    (getDrmPlane pipe type mPlanes).1 =
      (mPlanes.filter (planeMatches pipe type)).map (·.bindToPipe pipe) := by
  induction mPlanes with
  | nil => rfl
  | cons p ps ih =>
      by_cases h : planeMatches pipe type p <;> simp [getDrmPlane, h, ih]

/-- The device keeps its planes; the matching ones are bound. -/
theorem getDrmPlane_snd (pipe : UInt32) (type : PlaneType) (mPlanes : List DrmPlane) :
    (getDrmPlane pipe type mPlanes).2 =
      mPlanes.map fun p => if planeMatches pipe type p then p.bindToPipe pipe else p := by
  induction mPlanes with
  | nil => rfl
  | cons p ps ih =>
      by_cases h : planeMatches pipe type p <;> simp [getDrmPlane, h, ih]

theorem getDrmPlane_mem {pipe : UInt32} {type : PlaneType} {mPlanes : List DrmPlane}
    {q : DrmPlane} (h : q ∈ (getDrmPlane pipe type mPlanes).1) :
    ∃ p ∈ mPlanes, planeMatches pipe type p = true ∧ q = p.bindToPipe pipe := by
  rw [getDrmPlane_fst] at h
  obtain ⟨p, hp, rfl⟩ := List.mem_map.1 h
  exact ⟨p, (List.mem_filter.1 hp).1, (List.mem_filter.1 hp).2, rfl⟩

/-- A plane that is idle after the search was idle before. -/
theorem getDrmPlane_snd_mem {pipe : UInt32} {type : PlaneType} {mPlanes : List DrmPlane}
    {q : DrmPlane} (h : q ∈ (getDrmPlane pipe type mPlanes).2) :
    ∃ p ∈ mPlanes, q.mId = p.mId ∧ q.mType = p.mType ∧ (q.isIdle = true → p.isIdle = true) := by
  rw [getDrmPlane_snd] at h
  obtain ⟨p, hp, rfl⟩ := List.mem_map.1 h
  refine ⟨p, hp, ?_⟩
  split
  · next hm =>
      unfold planeMatches at hm
      simp only [Bool.and_eq_true] at hm
      exact ⟨rfl, rfl, fun _ => hm.1.1⟩
  · exact ⟨rfl, rfl, id⟩

theorem getDrmPlane_ids (pipe : UInt32) (type : PlaneType) (mPlanes : List DrmPlane) :
    (getDrmPlane pipe type mPlanes).2.map DrmPlane.mId = mPlanes.map DrmPlane.mId := by
  rw [getDrmPlane_snd, List.map_map]
  refine List.map_congr_left fun p _ => ?_
  show (if planeMatches pipe type p then p.bindToPipe pipe else p).mId = p.mId
  split <;> rfl

theorem getDrmPlane_nodup {pipe : UInt32} {type : PlaneType} {mPlanes : List DrmPlane}
    (h : (mPlanes.map DrmPlane.mId).Nodup) :
    ((getDrmPlane pipe type mPlanes).1.map DrmPlane.mId).Nodup := by
  rw [getDrmPlane_fst, List.map_map]
  exact h.sublist (List.filter_sublist.map DrmPlane.mId)

end QemuHal
