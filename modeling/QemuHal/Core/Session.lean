import QemuHal.Core.Display
import QemuHal.Drm.VsyncWorker

/-!
# `HdiSession`

The displays of a process behind their ids. A call is run on the display it is
addressed to, over the state all displays share. `RegDisplayVBlankCallback` and
`SetDisplayVsyncEnabled` of every display end at the one `DrmVsyncWorker`.
-/

namespace QemuHal

structure HdiSession where
  drm : Drm
  layerIds : IdPool
  displayIds : IdPool
  planes : List DrmPlane
  mHdiDisplays : Nat → Option HdiDisplay
  /-- `DrmVsyncWorker::GetInstance()`. -/
  vsync : DrmVsyncWorker := {}

abbrev Session := EStateM Fault HdiSession

namespace HdiSession

/-- The state as an operation of the display `disp` sees it. -/
def world (s : HdiSession) (disp : HdiDisplay) : World where
  drm := s.drm
  layerIds := s.layerIds
  displayIds := s.displayIds
  planes := s.planes
  disp := disp

/-- The state once an operation of display `devId` has ended in `w`. -/
def store (s : HdiSession) (devId : Nat) (w : World) : HdiSession :=
  { s with
    drm := w.drm
    layerIds := w.layerIds
    displayIds := w.displayIds
    planes := w.planes
    mHdiDisplays := Function.update s.mHdiDisplays devId (some w.disp) }

/-- The display `CallDisplayFunction` finds. -/
def find (s : HdiSession) (devId : Nat) : Option HdiDisplay :=
  if devId = invalidDisplayId then none else s.mHdiDisplays devId

end HdiSession

/-- `CallDisplayFunction`, and `CallLayerFunction` up to the search for the layer. -/
def callDisplayFunction (devId : Nat) (member : Hal Ret) : Session Ret := fun s =>
  match s.find devId with
  | none => .ok (.status .failure) s
  | some disp =>
      match member (s.world disp) with
      | .ok ret w => .ok ret (s.store devId w)
      | .error e w => .error e (s.store devId w)

/-- `DrmDisplay::RegDisplayVBlankCallback` and `SetDisplayVsyncEnabled`, which read
nothing of the display. -/
def callVsyncWorker (devId : Nat) (member : DrmVsyncWorker → DrmVsyncWorker) : Session Ret :=
  fun s =>
    match s.find devId with
    | none => .ok (.status .failure) s
    | some _ => .ok (.status .success) { s with vsync := member s.vsync }

/-- A call of a client, addressed to a display. -/
inductive Call where
  | display (devId : Nat) (op : Op)
  | regDisplayVBlankCallback (devId : Nat) (cb : VsyncCallBack)
  | setDisplayVsyncEnabled (devId : Nat) (enabled : Bool)

namespace Call

def devId : Call → Nat
  | display devId _ => devId
  | regDisplayVBlankCallback devId _ => devId
  | setDisplayVsyncEnabled devId _ => devId

end Call

def sessionStep : Call → Session Ret
  | .display devId op => callDisplayFunction devId (step op)
  | .regDisplayVBlankCallback devId cb =>
      callVsyncWorker devId fun v => v.reqesterVBlankCb (some cb)
  | .setDisplayVsyncEnabled devId enabled =>
      callVsyncWorker devId fun v => v.enableVsync enabled

/-! ## Rules -/

section
open Exec
variable {s : HdiSession} {devId : Nat}

/-- The rule for a call of a display: what the operation ensures on the display it finds. -/
theorem callDisplayFunction_post {member : Hal Ret} {Q : Ret → HdiSession → Prop}
    {E : Fault → HdiSession → Prop}
    (hnone : s.find devId = none → Q (.status .failure) s)
    (hsome : ∀ disp, s.find devId = some disp →
      Post member (s.world disp) (fun r w => Q r (s.store devId w))
        (fun e w => E e (s.store devId w))) :
    Post (callDisplayFunction devId member) s Q E := by
  unfold Post callDisplayFunction
  cases hfind : s.find devId with
  | none => exact hnone hfind
  | some disp =>
      have h := hsome disp hfind
      unfold Post at h
      dsimp only
      cases hmember : member (s.world disp) with
      | ok ret w =>
          rw [hmember] at h
          exact h
      | error e w =>
          rw [hmember] at h
          exact h

theorem callDisplayFunction_of_ok {member : Hal Ret} {disp : HdiDisplay} {ret : Ret} {w : World}
    (hfind : s.find devId = some disp) (hmember : member (s.world disp) = .ok ret w) :
    callDisplayFunction devId member s = .ok ret (s.store devId w) := by
  unfold callDisplayFunction
  rw [hfind]
  dsimp only
  rw [hmember]

theorem callVsyncWorker_post {member : DrmVsyncWorker → DrmVsyncWorker}
    {Q : Ret → HdiSession → Prop} {E : Fault → HdiSession → Prop}
    (hnone : s.find devId = none → Q (.status .failure) s)
    (hsome : ∀ disp, s.find devId = some disp →
      Q (.status .success) { s with vsync := member s.vsync }) :
    Post (callVsyncWorker devId member) s Q E := by
  unfold Post callVsyncWorker
  cases hfind : s.find devId with
  | none => exact hnone hfind
  | some disp => exact hsome disp hfind

/-- A call of the worker returns. -/
theorem callVsyncWorker_returns (s : HdiSession) (devId : Nat)
    (member : DrmVsyncWorker → DrmVsyncWorker) :
    ∃ r s', callVsyncWorker devId member s = .ok r s' := by
  unfold callVsyncWorker
  cases s.find devId with
  | none => exact ⟨_, _, rfl⟩
  | some disp => exact ⟨_, _, rfl⟩

theorem find_some {disp : HdiDisplay} (h : s.find devId = some disp) :
    s.mHdiDisplays devId = some disp ∧ devId ≠ invalidDisplayId := by
  unfold HdiSession.find at h
  split at h
  · exact absurd h (by simp)
  · next hne => exact ⟨h, hne⟩

end

end QemuHal
