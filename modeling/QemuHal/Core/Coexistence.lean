import QemuHal.Core.Discovery
import QemuHal.Core.Isolation
import QemuHal.Frame.Beside
import QemuHal.Frame.Lifetime

/-!
# Displays side by side

`Isolation` says that a call leaves the records of the other displays alone. Here it is
what the displays share that is looked at: the `DrmGemBuffer` objects, the framebuffers
and the planes. `Coexist` holds of a session whose displays have none of them in common,
and every call keeps it; what is known of a display on its own then holds of every
display of the session, whatever the others do in between.
-/

namespace QemuHal

open Exec

/-- Every display is well-formed in the state all share, and no two of them own an object
or hold a plane in common. -/
structure Coexist (s : HdiSession) : Prop where
  wellFormed : ∀ devId disp, s.mHdiDisplays devId = some disp → WellFormed (s.world disp)
  apart : ∀ devId devId' disp disp' p p', devId ≠ devId' → s.mHdiDisplays devId = some disp →
    s.mHdiDisplays devId' = some disp' → Parts.Of p (s.world disp) →
    Parts.Of p' (s.world disp') → p.Apart p'

/-- The planes of the slot are looked after on every display. -/
def AllScannedOut (slot : Slot) (s : HdiSession) : Prop :=
  ∀ devId disp, s.mHdiDisplays devId = some disp → ScannedOut slot (s.world disp)

/-- The parts of a display do not depend on the state it shares. -/
theorem Parts.Of.shared {p : Parts} {w w' : World} (h : p.Of w) (hdisp : w'.disp = w.disp) :
    p.Of w' := by
  refine ⟨hdisp ▸ h.comp, fun slot => ?_⟩
  have := h.layer slot
  cases slot
  · show w'.disp.mClientLayer = _
    rw [hdisp]
    exact this
  · show w'.disp.mCursorLayer = _
    rw [hdisp]
    exact this

section
variable {s : HdiSession} {devId : Nat}

theorem HdiSession.store_mHdiDisplays (s : HdiSession) (devId : Nat) (w : World) :
    (s.store devId w).mHdiDisplays = Function.update s.mHdiDisplays devId (some w.disp) := rfl

theorem HdiSession.store_self {w : World} {disp : HdiDisplay}
    (h : (s.store devId w).mHdiDisplays devId = some disp) : disp = w.disp := by
  rw [HdiSession.store_mHdiDisplays, Function.update_self] at h
  exact (Option.some.inj h).symm

theorem HdiSession.store_other {w : World} {other : Nat} (hne : other ≠ devId) :
    (s.store devId w).mHdiDisplays other = s.mHdiDisplays other := by
  rw [HdiSession.store_mHdiDisplays, Function.update_of_ne hne]

/-- The other displays have come through what ended in `w`. -/
def HdiSession.Spared (s : HdiSession) (devId : Nat) (w : World) : Prop :=
  ∀ other disp o, other ≠ devId → s.mHdiDisplays other = some disp →
    Parts.Of o (s.world disp) → w.BesideOf o s.drm

/-- The session with the display `devId` as it is in `w`. -/
theorem Coexist.store (h : Coexist s) {w : World} (hwf : WellFormed w)
    (hspared : s.Spared devId w) : Coexist (s.store devId w) := by
  have hbeside : ∀ other disp o p, other ≠ devId → s.mHdiDisplays other = some disp →
      Parts.Of o ((s.store devId w).world disp) → Parts.Of p w → Beside o s.drm w p := by
    intro other disp o p hne h' ho hp
    obtain ⟨p', hp', hb⟩ := hspared other disp o hne h' (ho.shared rfl)
    obtain rfl := hp'.unique hp
    exact hb
  constructor
  · intro other disp h'
    by_cases hne : other = devId
    · subst hne
      obtain rfl := HdiSession.store_self h'
      exact hwf
    · rw [HdiSession.store_other hne] at h'
      have hwf' := h.wellFormed other disp h'
      obtain ⟨o, ho, -⟩ := hwf'.parts
      obtain ⟨p, -, hb⟩ := hspared other disp o hne h' ho
      exact ⟨hwf.sound, ⟨o, ho.shared rfl, hb.good⟩, hwf'.created⟩
  · intro a b da db p p' hab ha hb hp hp'
    by_cases hae : a = devId
    · subst hae
      obtain rfl := HdiSession.store_self ha
      rw [HdiSession.store_other (Ne.symm hab)] at hb
      exact (hbeside b db p' p (Ne.symm hab) hb hp' hp).apart
    · rw [HdiSession.store_other hae] at ha
      by_cases hbe : b = devId
      · subst hbe
        obtain rfl := HdiSession.store_self hb
        exact (hbeside a da p p' hae ha hp hp').apart.symm
      · rw [HdiSession.store_other hbe] at hb
        exact h.apart a b da db p p' hab ha hb (hp.shared rfl) (hp'.shared rfl)

theorem AllScannedOut.store {slot : Slot} (h : AllScannedOut slot s) {w : World}
    (hscan : ScannedOut slot w) (hspared : s.Spared devId w) :
    AllScannedOut slot (s.store devId w) := by
  intro other disp h'
  by_cases hne : other = devId
  · subst hne
    obtain rfl := HdiSession.store_self h'
    exact hscan
  · rw [HdiSession.store_other hne] at h'
    obtain ⟨o, ho, hold⟩ := h other disp h'
    obtain ⟨p, -, hb⟩ := hspared other disp o hne h' ho
    exact ⟨o, ho.shared rfl, hb.scan slot hold⟩

/-- The displays beside the one that is called. -/
theorem Coexist.besideOf (h : Coexist s) {disp : HdiDisplay}
    (hdisp : s.mHdiDisplays devId = some disp) {other : Nat} {disp' : HdiDisplay} {o : Parts}
    (hne : other ≠ devId) (hother : s.mHdiDisplays other = some disp')
    (ho : Parts.Of o (s.world disp')) : (s.world disp).BesideOf o s.drm := by
  obtain ⟨p, hp, -⟩ := (h.wellFormed devId disp hdisp).parts
  exact ⟨p, hp, Beside.refl (w := s.world disp) (h.apart devId other disp disp' p o (Ne.symm hne) hdisp hother hp ho)
    ((h.wellFormed other disp' hother).good ho)⟩

/-- **An operation of one display spares the others.** -/
theorem Coexist.spared (h : Coexist s) {disp : HdiDisplay}
    (hdisp : s.mHdiDisplays devId = some disp) (op : Op) :
    Post (step op) (s.world disp) (fun _ w => WellFormed w ∧ s.Spared devId w)
      (fun _ w => WellFormed w ∧ s.Spared devId w) := by
  have hwf := h.wellFormed devId disp hdisp
  have hall : ∀ other disp' o, other ≠ devId → s.mHdiDisplays other = some disp' →
      Parts.Of o (s.world disp') →
      Post (step op) (s.world disp) (fun _ w => WellFormed w ∧ w.BesideOf o s.drm)
        (fun _ w => w.BesideOf o s.drm) :=
    fun other disp' o hne h' ho => BesideOf.step hwf (h.besideOf hdisp hne h' ho) op
  apply ((hwf.step_ends op).and (post_self (step op) (s.world disp))).mono
  · rintro r w ⟨hw, hrun⟩
    exact ⟨hw, fun other disp' o hne h' ho => ((hall other disp' o hne h' ho).of_ok hrun).2⟩
  · rintro e w ⟨hw, hrun⟩
    exact ⟨hw, fun other disp' o hne h' ho => (hall other disp' o hne h' ho).of_error hrun⟩

/-! ## Calls -/

/-- A frame spares the slot of the display it is committed on. -/
def Call.Spares (slot : Slot) (s : HdiSession) : Call → Prop
  | .display devId op => ∀ disp ∈ s.find devId, op.Spares slot (s.world disp)
  | .regDisplayVBlankCallback _ _ | .setDisplayVsyncEnabled _ _ => True

instance (slot : Slot) (s : HdiSession) : (call : Call) → Decidable (call.Spares slot s)
  | .display devId op =>
      inferInstanceAs (Decidable (∀ disp ∈ s.find devId, op.Spares slot (s.world disp)))
  | .regDisplayVBlankCallback _ _ | .setDisplayVsyncEnabled _ _ =>
      inferInstanceAs (Decidable True)

/-- **A call keeps the displays side by side.** -/
theorem Coexist.step (h : Coexist s) (call : Call) :
    Post (sessionStep call) s (fun _ s' => Coexist s') (fun _ s' => Coexist s') := by
  cases call with
  | display devId op =>
      apply callDisplayFunction_post
      · exact fun _ => h
      · intro disp hfind
        exact (h.spared (find_some hfind).1 op).mono (fun _ w hw => h.store hw.1 hw.2)
          (fun _ w hw => h.store hw.1 hw.2)
  | regDisplayVBlankCallback devId cb =>
      unfold sessionStep
      apply callVsyncWorker_post
      · exact fun _ => h
      · exact fun _ _ => ⟨h.wellFormed, h.apart⟩
  | setDisplayVsyncEnabled devId enabled =>
      unfold sessionStep
      apply callVsyncWorker_post
      · exact fun _ => h
      · exact fun _ _ => ⟨h.wellFormed, h.apart⟩

/-- A frame that spares its own display's slot keeps the scanout of all displays. -/
theorem AllScannedOut.step {slot : Slot} (h : Coexist s) (hs : AllScannedOut slot s) {call : Call}
    (hcall : call.Spares slot s) :
    Post (sessionStep call) s (fun _ s' => Coexist s' ∧ AllScannedOut slot s')
      (fun e s' => e ≠ slot.danglingLast ∧ Coexist s' ∧ AllScannedOut slot s') := by
  cases call with
  | display devId op =>
      apply callDisplayFunction_post
      · exact fun _ => ⟨h, hs⟩
      · intro disp hfind
        have hdisp := (find_some hfind).1
        have hstep := ScannedOut.step (h.wellFormed devId disp hdisp) (hs devId disp hdisp)
          (hcall disp hfind)
        apply (hstep.and (h.spared hdisp op)).mono
        · rintro r w ⟨⟨-, hscan⟩, hwf, hspared⟩
          exact ⟨h.store hwf hspared, hs.store hscan hspared⟩
        · rintro e w ⟨⟨he, -, hscan⟩, hwf, hspared⟩
          exact ⟨he, h.store hwf hspared, hs.store hscan hspared⟩
  | regDisplayVBlankCallback devId cb =>
      unfold sessionStep
      apply callVsyncWorker_post
      · exact fun _ => ⟨h, hs⟩
      · exact fun _ _ => ⟨⟨h.wellFormed, h.apart⟩, hs⟩
  | setDisplayVsyncEnabled devId enabled =>
      unfold sessionStep
      apply callVsyncWorker_post
      · exact fun _ => ⟨h, hs⟩
      · exact fun _ _ => ⟨⟨h.wellFormed, h.apart⟩, hs⟩

end

end QemuHal
