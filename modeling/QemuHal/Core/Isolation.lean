import QemuHal.Core.Session
import QemuHal.Frame.Run

/-!
# Isolation of displays

A call addressed to one display leaves the others as they are, with one exception:
the callback and the enablement of vsync are kept once for all displays.
`isolation_iff` says which requests the displays can make side by side.
-/

namespace QemuHal

open Exec

/-! ## What the displays asked for -/

/-- What a display last asked of vsync, `none` where it never did. -/
structure VsyncAsked where
  callBack : Option VsyncCallBack := none
  enabled : Option Bool := none
deriving DecidableEq, Repr

namespace VsyncAsked

/-- The display has used vsync. -/
def used (a : VsyncAsked) : Prop := a.callBack ≠ none ∨ a.enabled ≠ none

/-- The display wants vsync. Vsync is off before it is first enabled. -/
def wants (a : VsyncAsked) : Bool := a.enabled.getD false

end VsyncAsked

abbrev VsyncRequests := Nat → VsyncAsked

/-- The requests after a call; a call to an unknown display is none. -/
def noteAsked (s : HdiSession) (asked : VsyncRequests) : Call → VsyncRequests
  | .display _ _ => asked
  | .regDisplayVBlankCallback devId cb =>
      if (s.find devId).isSome then
        Function.update asked devId { asked devId with callBack := some cb }
      else asked
  | .setDisplayVsyncEnabled devId enabled =>
      if (s.find devId).isSome then
        Function.update asked devId { asked devId with enabled := some enabled }
      else asked

/-! ## The law -/

/-- What `WorkThread` calls when it comes to wait for a vblank. -/
def DrmVsyncWorker.vblank (v : DrmVsyncWorker) : Option VsyncCallBack :=
  if v.mEnable then v.mCallBack else none

/-- Every display is served as it last asked. -/
structure Served (v : DrmVsyncWorker) (asked : VsyncRequests) : Prop where
  callBack : ∀ devId cb, (asked devId).callBack = some cb → v.mCallBack = some cb
  enabled : ∀ devId, (asked devId).used → v.mEnable = (asked devId).wants
  delivered : ∀ devId cb, (asked devId).callBack = some cb →
    (v.vblank = some cb ↔ (asked devId).wants = true)

/-- A call leaves the other displays as they are and every display served. -/
def Isolates (s : HdiSession × VsyncRequests) (call : Call) : Prop :=
  Post (noting noteAsked sessionStep call) s
    (fun _ s' => (∀ devId ≠ call.devId, s'.1.mHdiDisplays devId = s.1.mHdiDisplays devId) ∧
      Served s'.1.vsync s'.2)
    (fun _ s' => ∀ devId ≠ call.devId, s'.1.mHdiDisplays devId = s.1.mHdiDisplays devId)

/-- The displays that have used vsync want the same of it. -/
def Unanimous (asked : VsyncRequests) : Prop :=
  ∀ devId devId', (asked devId).used → (asked devId').used →
    (asked devId).wants = (asked devId').wants ∧
      ∀ cb cb', (asked devId).callBack = some cb → (asked devId').callBack = some cb' → cb = cb'

/-! ## The proof -/

/-- The requests are served, and vsync is off until it is used. -/
structure Serving (v : DrmVsyncWorker) (asked : VsyncRequests) : Prop where
  served : Served v asked
  unused : (∀ devId, ¬ (asked devId).used) → v.mEnable = false

theorem Served.unanimous {v : DrmVsyncWorker} {asked : VsyncRequests} (h : Served v asked) :
    Unanimous asked := by
  intro devId devId' hused hused'
  constructor
  · rw [← h.enabled devId hused, h.enabled devId' hused']
  · intro cb cb' hcb hcb'
    exact Option.some.inj ((h.callBack devId cb hcb).symm.trans (h.callBack devId' cb' hcb'))

/-- Enablement and callback are all that is to be served. -/
theorem Served.intro {v : DrmVsyncWorker} {asked : VsyncRequests}
    (hcallBack : ∀ devId cb, (asked devId).callBack = some cb → v.mCallBack = some cb)
    (henabled : ∀ devId, (asked devId).used → v.mEnable = (asked devId).wants) :
    Served v asked where
  callBack := hcallBack
  enabled := henabled
  delivered := by
    intro devId cb hcb
    have hused : (asked devId).used := by
      left
      rw [hcb]
      simp
    rw [← henabled devId hused, DrmVsyncWorker.vblank, hcallBack devId cb hcb]
    cases v.mEnable <;> simp

section
variable {v : DrmVsyncWorker} {before : VsyncRequests} {devId : Nat}

theorem Serving.register (h : Serving v before) {cb : VsyncCallBack} {asked : VsyncRequests}
    (hasked : asked = Function.update before devId { before devId with callBack := some cb })
    (hall : Unanimous asked) :
    Serving (v.reqesterVBlankCb (some cb)) asked := by
  have hself : asked devId = { before devId with callBack := some cb } := by
    rw [hasked, Function.update_self]
  have hused : (asked devId).used := by
    left
    rw [hself]
    simp
  have henable : v.mEnable = (asked devId).wants := by
    by_cases hany : ∃ other, (before other).used
    · -- some display has used vsync, and now wants what this one wants
      obtain ⟨other, hother⟩ := hany
      by_cases heq : other = devId
      · obtain rfl := heq
        rw [h.served.enabled other hother, hself]
        rfl
      · have hsame : asked other = before other := by rw [hasked, Function.update_of_ne heq]
        rw [h.served.enabled other hother, ← hsame]
        exact (hall other devId (by rwa [hsame]) hused).1
    · have hnone : ¬ (before devId).used := fun hother => hany ⟨devId, hother⟩
      rw [h.unused fun other hother => hany ⟨other, hother⟩, hself]
      unfold VsyncAsked.used at hnone
      unfold VsyncAsked.wants
      rw [not_or, not_not, not_not] at hnone
      rw [hnone.2]
      rfl
  constructor
  · apply Served.intro
    · intro other cb' hcb'
      have hother : (asked other).used := by
        left
        rw [hcb']
        simp
      rw [(hall other devId hother hused).2 cb' cb hcb' (by rw [hself])]
      rfl
    · intro other hother
      rw [(hall other devId hother hused).1]
      exact henable
  · intro hnone
    exact absurd hused (hnone devId)

theorem Serving.enable (h : Serving v before) {enabled : Bool} {asked : VsyncRequests}
    (hasked : asked = Function.update before devId { before devId with enabled := some enabled })
    (hall : Unanimous asked) :
    Serving (v.enableVsync enabled) asked := by
  have hself : asked devId = { before devId with enabled := some enabled } := by
    rw [hasked, Function.update_self]
  have hused : (asked devId).used := by
    right
    rw [hself]
    simp
  constructor
  · apply Served.intro
    · intro other cb hcb
      apply h.served.callBack other cb
      by_cases heq : other = devId
      · rw [heq, hself] at hcb
        rw [heq]
        exact hcb
      · rwa [hasked, Function.update_of_ne heq] at hcb
    · intro other hother
      rw [(hall other devId hother hused).1, hself]
      rfl
  · intro hnone
    exact absurd hused (hnone devId)

end

section
variable {s : HdiSession × VsyncRequests}

/-- A call whose requests are unanimous is served, and no call reaches another display. -/
theorem serving_step (h : Serving s.1.vsync s.2) {call : Call} (hall : Unanimous (noteAsked s.1 s.2 call)) :
    Post (noting noteAsked sessionStep call) s
      (fun _ s' => (∀ devId ≠ call.devId, s'.1.mHdiDisplays devId = s.1.mHdiDisplays devId) ∧
        Serving s'.1.vsync s'.2)
      (fun _ s' => ∀ devId ≠ call.devId, s'.1.mHdiDisplays devId = s.1.mHdiDisplays devId) := by
  rw [post_noting]
  cases call with
  | display devId op =>
      apply callDisplayFunction_post
      · intro _
        exact ⟨fun _ _ => rfl, h⟩
      · intro disp _
        have hother : ∀ w : World, ∀ other ≠ devId,
            (s.1.store devId w).mHdiDisplays other = s.1.mHdiDisplays other :=
          fun w other hne => Function.update_of_ne hne _ _
        exact (post_self (step op) _).mono
          (fun _ w _ => ⟨hother w, h⟩) (fun _ w _ => hother w)
  | regDisplayVBlankCallback devId cb =>
      unfold sessionStep
      apply callVsyncWorker_post
      · intro hnone
        simp only [noteAsked, hnone] at hall ⊢
        exact ⟨fun _ _ => trivial, h⟩
      · intro disp hsome
        simp only [noteAsked, hsome, Option.isSome_some, if_true] at hall ⊢
        exact ⟨fun _ _ => trivial, h.register rfl hall⟩
  | setDisplayVsyncEnabled devId enabled =>
      unfold sessionStep
      apply callVsyncWorker_post
      · intro hnone
        simp only [noteAsked, hnone] at hall ⊢
        exact ⟨fun _ _ => trivial, h⟩
      · intro disp hsome
        simp only [noteAsked, hsome, Option.isSome_some, if_true] at hall ⊢
        exact ⟨fun _ _ => trivial, h.enable rfl hall⟩

/-- Where the requests are served, a call isolates its display exactly when the requests
stay unanimous. A call that does not return asks nothing of vsync. -/
theorem isolates_iff (h : Serving s.1.vsync s.2) (call : Call) :
    Isolates s call ↔ Unanimous (noteAsked s.1 s.2 call) := by
  constructor
  · intro hcall
    unfold Isolates at hcall
    rw [post_noting] at hcall
    cases call with
    | display devId op => exact h.served.unanimous
    | regDisplayVBlankCallback devId cb =>
        obtain ⟨r, s', hok⟩ := callVsyncWorker_returns s.1 devId fun v => v.reqesterVBlankCb (some cb)
        exact (hcall.of_ok hok).2.unanimous
    | setDisplayVsyncEnabled devId enabled =>
        obtain ⟨r, s', hok⟩ := callVsyncWorker_returns s.1 devId fun v => v.enableVsync enabled
        exact (hcall.of_ok hok).2.unanimous
  · intro hall
    exact (serving_step h hall).mono (fun _ _ hpost => ⟨hpost.1, hpost.2.served⟩)
      (fun _ _ hpost => hpost)

end

/-- A session with two displays. -/
def twoDisplays : HdiSession where
  drm := (smallDisplay []).drm
  layerIds := {}
  displayIds := {}
  planes := []
  mHdiDisplays := fun devId => if devId < 2 then some (smallDisplay []).disp else none

end QemuHal
