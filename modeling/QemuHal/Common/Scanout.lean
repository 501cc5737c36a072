import QemuHal.Common.Screen

/-!
# What is on the displays of the common HAL

`GetGemBuffer` destroys the older object of the client layer before the request of the frame
is committed. So a display whose newest frame was refused still shows the framebuffer of the
older object, and the next frame removes it. `scanout_iff` says that nothing else ever removes
a framebuffer that is shown, over the runs of a session; `onscreen` says what is on the planes
until then.
-/

namespace QemuHal.Common.Frame

open Exec

section
variable {s : Session} {devId : Nat} {w w' : World} {φ : Nat → Outputs.Phase Framebuffer}

/-! ## The rest of a frame -/

/-- `Apply` from `RemoveUnusePlane` on. -/
def finishFrame (a : FrameAnswers) (disp : DrmDisplay) (pset : Planes.AtomicReq) :
    Hal (DispStatus × Planes.AtomicReq) := do
  let pset ← removeUnusePlane a.unuse pset
  match Planes.addProperties a.addProperty pset
      [⟨.connector disp.mConnectorId, .crtcId, disp.mCrtc.mId⟩,
        ⟨.crtc disp.mCrtc.mId, .active, 1⟩] with
  | (false, pset) => return (.failure, pset)
  | (true, pset) =>
      let ret ← commitFrame pset a.atomicCommit
      return (ret, pset)

/-- `RemoveUnusePlane` asks for nothing but to turn off planes of nobody. -/
theorem removeUnusePlane_post (a : Nat → Bool × Bool) (pset : Planes.AtomicReq) :
    Post (removeUnusePlane a pset) w
      (fun pset' w' => w' = w ∧ ∀ q, asked pset' q = asked pset q ∨
        (asked pset' q = some 0 ∧ (w.device.planes q).mPipe = 0))
      (fun _ _ => False) := by
  obtain ⟨es, heq, hes⟩ := @Planes.removeUnusePlane_spec w.disp.mCrtc w.device pset a w.disp.mPlanes
  unfold removeUnusePlane
  rw [post_bind, post_get, onDevice_post]
  refine post_of_ok heq ⟨rfl, fun q => ?_⟩
  by_cases hq : ∀ e ∈ es, ¬ (e.obj = .plane q ∧ e.prop = .fbId)
  · exact Or.inl (asked_append hq)
  · right
    obtain ⟨e, he, hobj, hprop⟩ : ∃ e ∈ es, e.obj = .plane q ∧ e.prop = .fbId := by
      by_contra hno
      exact hq fun e he hp => hno ⟨e, he, hp⟩
    obtain ⟨p, -, ⟨-, hfree⟩, -, rfl⟩ := (hes e).1 he
    cases hobj
    refine ⟨?_, hfree⟩
    refine asked_zeros (fun e he => ?_) ⟨_, he, rfl, rfl⟩
    obtain ⟨p, -, -, -, rfl⟩ := (hes e).1 he
    rfl

theorem finishFrame_kept (a : FrameAnswers) (disp : DrmDisplay) (pset : Planes.AtomicReq) :
    Post (finishFrame a disp pset) w (fun _ w' => ∀ q, FbKept q w'.drm.log ↔ FbKept q w.drm.log)
      (fun _ _ => False) := by
  unfold finishFrame
  rw [post_bind]
  refine (removeUnusePlane_post a.unuse pset).mono ?_ (fun _ _ he => he)
  rintro pset' w' ⟨rfl, -⟩
  split
  · exact fun _ => Iff.rfl
  · rw [post_bind]
    exact (commitFrame_kept _ _).mono (fun _ _ h => h) (fun _ _ he => he)

/-- The rest of a frame whose request asks for nothing so far. -/
theorem Scan.finish_blank (h : Scan φ (s.store devId w)) (a : FrameAnswers) (disp : DrmDisplay)
    {pset : Planes.AtomicReq} (hpset : ∀ q, asked pset q = none) :
    Post (finishFrame a disp pset) w (fun _ w' => Scan φ (s.store devId w')) (fun _ _ => False) := by
  unfold finishFrame
  rw [post_bind]
  refine (removeUnusePlane_post a.unuse pset).mono ?_ (fun _ _ he => he)
  rintro pset' w' ⟨rfl, hunuse⟩
  split
  · exact h
  · next pset'' hadd =>
      rw [post_bind]
      have hasked : ∀ q f, asked pset'' q = some f → f = 0 ∧ (w'.device.planes q).mPipe = 0 := by
        intro q f hf
        rw [asked_addProperties hadd (by simp)] at hf
        rcases hunuse q with hsame | ⟨hzero, hfree⟩
        · rw [hsame, hpset q] at hf
          exact absurd hf (by simp)
        · rw [hzero] at hf
          exact ⟨(Option.some.inj hf).symm, hfree⟩
      cases hacc : accepts w'.drm a.atomicCommit with
      | false => exact (commitFrame_refused hacc).mono (fun _ _ hq => hq.scan h) (fun _ _ he => he)
      | true =>
          refine (commitFrame_accepted hacc).mono ?_ (fun _ _ he => he)
          rintro - w'' ⟨n, fds, hq⟩
          refine hq.scan (h.committed (h.outputs.blank (d := devId) (shows_committed ..) ?_ ?_))
          · intro q f hf _
            obtain ⟨hzero, hfree⟩ := hasked q f hf
            exact ⟨hzero, Session.free (s := s.store devId w') hfree⟩
          · intro q hdrives
            cases hf : asked pset'' q with
            | none => rfl
            | some f =>
                exact absurd hdrives (Session.free (s := s.store devId w') (hasked q f hf).2 devId)

/-- The rest of a frame whose request puts the current object on the plane of the display. -/
theorem Scan.finish_flip (h : Scan φ (s.store devId w)) (a : FrameAnswers) (disp : DrmDisplay)
    {pset : Planes.AtomicReq} {plane gem : Nat} {c : Framebuffer}
    (hplane : (w.device.planes plane).mPipe = w.disp.mCrtc.bit)
    (hcur : w.disp.mClientLayer.mCurrentBuffer = some gem) (hne : w.drm.fbOf gem ≠ 0)
    (hc : w.drm.content (w.drm.fbOf gem) = some c)
    (hpset : ∀ q, asked pset q = if q = plane then some (w.drm.fbOf gem : Int) else none) :
    Post (finishFrame a disp pset) w
      (fun _ w' => Scan (if a.addProperty .crtcId && a.addProperty .active &&
          accepts w.drm a.atomicCommit then Function.update φ devId (.shown c) else φ)
        (s.store devId w')) (fun _ _ => False) := by
  have hdrives := (s.drives_self devId w plane).2 hplane
  unfold finishFrame
  rw [post_bind]
  refine (removeUnusePlane_post a.unuse pset).mono ?_ (fun _ _ he => he)
  rintro pset' w' ⟨rfl, hunuse⟩
  have hall : (Planes.addProperties a.addProperty pset' [⟨.connector disp.mConnectorId, .crtcId,
      disp.mCrtc.mId⟩, ⟨.crtc disp.mCrtc.mId, .active, 1⟩]).1 =
      (a.addProperty .crtcId && a.addProperty .active) := by
    obtain ⟨es, heq, -⟩ := Planes.addProperties_spec a.addProperty [⟨.connector disp.mConnectorId,
      .crtcId, disp.mCrtc.mId⟩, ⟨.crtc disp.mCrtc.mId, .active, 1⟩] pset'
    rw [heq]
    simp
  split
  · next hadd =>
      rw [hadd] at hall
      rw [← hall]
      exact h
  · next pset'' hadd =>
      rw [hadd] at hall
      rw [← hall, post_bind]
      have hasked : ∀ q f, asked pset'' q = some f →
          q = plane ∨ (f = 0 ∧ (w'.device.planes q).mPipe = 0) := by
        intro q f hf
        rw [asked_addProperties hadd (by simp)] at hf
        rcases hunuse q with hsame | ⟨hzero, hfree⟩
        · rw [hsame, hpset q] at hf
          by_cases hq : q = plane
          · exact Or.inl hq
          · rw [if_neg hq] at hf
            exact absurd hf (by simp)
        · rw [hzero] at hf
          exact Or.inr ⟨(Option.some.inj hf).symm, hfree⟩
      have hflip : asked pset'' plane = some (w'.drm.fbOf gem : Int) := by
        rw [asked_addProperties hadd (by simp)]
        rcases hunuse plane with hsame | ⟨-, hfree⟩
        · rw [hsame, hpset plane, if_pos rfl]
        · exact absurd (hplane.symm.trans hfree) w'.disp.mCrtc.bit_ne_zero
      cases hacc : accepts w'.drm a.atomicCommit with
      | false => exact (commitFrame_refused hacc).mono (fun _ _ hq => hq.scan h) (fun _ _ he => he)
      | true =>
          refine (commitFrame_accepted hacc).mono ?_ (fun _ _ he => he)
          rintro - w'' ⟨n, fds, hq⟩
          refine hq.scan (h.committed (h.outputs.flip (shows_committed ..) ?_ hdrives
            ((s.outputs_self devId w').1.trans hcur) (Int.natCast_ne_zero.2 hne) hc hflip))
          intro q f hf hnot
          rcases hasked q f hf with rfl | ⟨hzero, hfree⟩
          · exact absurd hdrives hnot
          · exact ⟨hzero, Session.free (s := s.store devId w') hfree⟩

/-! ## The plane and the buffer of a frame -/

/-- What `placeLayer` does with the plane it takes. -/
def placeOn (a : PlaneAnswers) (crtc : Planes.DrmCrtc) (plane : Nat) (pset : Planes.AtomicReq) :
    Hal Planes.AtomicReq := do
  let (ok, pset) ← applyPlane a plane pset
  if ok then onDevice (modify fun d => d.bindToPipe plane crtc.bit)
  return pset

/-- The inner loop takes the first plane it may. -/
theorem placeLayer_eq (a : PlaneAnswers) (mPlanes : List Nat) (pset : Planes.AtomicReq) (w : World) :
    placeLayer a mPlanes pset w =
      match mPlanes.find? fun plane => w.disp.mCrtc.takes (w.device.planes plane) with
      | none => .ok pset w
      | some plane => placeOn a w.disp.mCrtc plane pset w := by
  induction mPlanes with
  | nil => rfl
  | cons plane mPlanes ih =>
      unfold placeLayer
      rw [get_bind, List.find?_cons]
      dsimp only
      by_cases hpipe : (w.device.planes plane).mPipe ≠ 0 ∧
          (w.device.planes plane).mPipe ≠ w.disp.mCrtc.bit
      · have htakes : w.disp.mCrtc.takes (w.device.planes plane) = false := by
          unfold Planes.DrmCrtc.takes
          rw [decide_eq_false (by tauto), Bool.false_and, Bool.false_and]
        rw [if_pos hpipe, htakes]
        exact ih
      · have hpipe' : (w.device.planes plane).mPipe = 0 ∨
            (w.device.planes plane).mPipe = w.disp.mCrtc.bit := by tauto
        rw [if_neg hpipe]
        by_cases hcovers : w.disp.mCrtc.covers (w.device.planes plane) = true
        · rw [if_neg (not_not.2 hcovers)]
          by_cases hid : (w.device.planes plane).mCrtcId = w.disp.mCrtc.mId ∨
              (w.device.planes plane).mCrtcId = 0
          · have htakes : w.disp.mCrtc.takes (w.device.planes plane) = true := by
              unfold Planes.DrmCrtc.takes
              rw [decide_eq_true hpipe', hcovers, decide_eq_true hid]
              rfl
            rw [if_pos hid, htakes]
            rfl
          · have htakes : w.disp.mCrtc.takes (w.device.planes plane) = false := by
              unfold Planes.DrmCrtc.takes
              rw [decide_eq_false hid, Bool.and_false]
            rw [if_neg hid, htakes]
            exact ih
        · have htakes : w.disp.mCrtc.takes (w.device.planes plane) = false := by
            unfold Planes.DrmCrtc.takes
            rw [Bool.eq_false_iff.2 hcovers, Bool.and_false, Bool.false_and]
          rw [if_pos hcovers, htakes]
          exact ih

/-- What is asked of the planes once the buffer is made. -/
structure Turned (w w' : World) (a : FrameAnswers) (plane : Nat) (buf : HdiLayerBuffer)
    (pset : Planes.AtomicReq) : Prop where
  placed : w' = if (w.drm.makes buf (a.plane 0).prime (mDrmFormat buf)).isSome &&
      (a.plane 0).addProperty .fbId then
    (w.rotate buf (a.plane 0)).bind plane else w.rotate buf (a.plane 0)
  asked : ∀ q, asked pset q =
    if q = plane ∧ (w.drm.makes buf (a.plane 0).prime (mDrmFormat buf)).isSome = true ∧
      (a.plane 0).addProperty .fbId = true
    then some ((w.drm.newGemBuffer buf (a.plane 0).prime (mDrmFormat buf)).mFdId : Int)
    else none

theorem Scan.newGem_gems (h : Scan φ (s.store devId w)) (buf : HdiLayerBuffer) (a : PlaneAnswers) :
    (w.rotate buf a).drm.gems w.drm.nextGem =
      some (w.drm.newGemBuffer buf a.prime (mDrmFormat buf)) := by
  rw [w.rotate_drm, Drm.destroyOwned_gems, if_neg fun hlast => h.last_ne hlast rfl,
    Drm.newGem_gems, Function.update_self]

/-- The framebuffer of the new object is added if it is made, and the plane is bound with it. -/
theorem Scan.fbProperties_asked (h : Scan φ (s.store devId w)) {a : FrameAnswers} (hwhole : a.Whole)
    (plane : Nat) (buf : HdiLayerBuffer) {pset : Planes.AtomicReq} (hpset : ∀ q, asked pset q = none) :
    ∃ pset', fbProperties (a.plane 0)
        (some (w.drm.newGemBuffer buf (a.plane 0).prime (mDrmFormat buf))) plane
        w.disp.mCrtc.mId pset =
          ((w.drm.makes buf (a.plane 0).prime (mDrmFormat buf)).isSome &&
            (a.plane 0).addProperty .fbId, pset') ∧
      ∀ q, asked pset' q =
        if q = plane ∧ (w.drm.makes buf (a.plane 0).prime (mDrmFormat buf)).isSome = true ∧
          (a.plane 0).addProperty .fbId = true
        then some ((w.drm.newGemBuffer buf (a.plane 0).prime (mDrmFormat buf)).mFdId : Int)
        else none := by
  have hsound : w.drm.Sound := h.sound
  have hkeyed : w.drm.Keyed := h.keyed
  unfold fbProperties
  dsimp only
  cases hmakes : w.drm.makes buf (a.plane 0).prime (mDrmFormat buf) with
  | none =>
      have hvalid :
          isValid (w.drm.newGemBuffer buf (a.plane 0).prime (mDrmFormat buf)) = false := by
        unfold isValid
        rw [(Drm.newGem_none hmakes).1, Bool.and_eq_false_iff]
        exact Or.inr (decide_eq_false fun hz => hz rfl)
      rw [hvalid]
      refine ⟨pset, rfl, fun q => ?_⟩
      rw [hpset q, if_neg fun hno => absurd hno.2.1 (by simp)]
  | some c =>
      obtain ⟨hhandle, hfb, -⟩ := Drm.newGem_some hsound hkeyed hmakes
      have hvalid :
          isValid (w.drm.newGemBuffer buf (a.plane 0).prime (mDrmFormat buf)) = true := by
        unfold isValid
        rw [decide_eq_true hhandle, decide_eq_true hfb]
        rfl
      rw [if_pos hvalid]
      unfold Planes.addProperties Planes.addProperties Planes.addProperties
      dsimp only
      by_cases hadd : (a.plane 0).addProperty .fbId = true
      · rw [if_pos hadd, if_pos (hwhole hadd), hadd]
        refine ⟨_, rfl, fun q => ?_⟩
        rw [asked_cons, asked_cons, hpset q]
        by_cases hq : q = plane
        · rw [hq]
          simp
        · rw [if_neg (by simp), if_neg (by simp [Ne.symm hq]), if_neg (by simp [hq])]
      · rw [if_neg hadd, Bool.eq_false_iff.2 hadd]
        refine ⟨pset, rfl, fun q => ?_⟩
        rw [hpset q, if_neg fun hno => absurd hno.2.2 (by simp)]

/-- `ApplyPlane` makes the buffer once the properties of the plane are added. -/
theorem Scan.placeOn_turned (h : Scan φ (s.store devId w)) {a : FrameAnswers} (hwhole : a.Whole)
    {plane : Nat} {buf : HdiLayerBuffer} (hbuf : w.disp.mClientLayer.mHdiBuffer = some buf)
    {pset : Planes.AtomicReq} (hpset : ∀ q, asked pset q = none)
    (hall : ((Planes.planeProperties w.disp.mClientLayer.toComp plane (w.device.planes plane)
      buf.mWidth buf.mHeight).all fun e => (a.plane 0).addProperty e.prop) = true) :
    Post (placeOn (a.plane 0) w.disp.mCrtc plane pset) w
      (fun pset' w' => Turned w w' a plane buf pset') (fun _ _ => False) := by
  obtain ⟨pset₁, hprops⟩ : ∃ pset₁, Planes.addProperties (a.plane 0).addProperty pset
      (Planes.planeProperties w.disp.mClientLayer.toComp plane (w.device.planes plane) buf.mWidth
        buf.mHeight) = (true, pset₁) := by
    obtain ⟨es, heq, -⟩ := Planes.addProperties_spec (a.plane 0).addProperty (Planes.planeProperties
      w.disp.mClientLayer.toComp plane (w.device.planes plane) buf.mWidth buf.mHeight) pset
    exact ⟨es ++ pset, by rw [heq, hall]⟩
  have hpset₁ : ∀ q, asked pset₁ q = none := fun q => by
    rw [asked_addProperties hprops fun e he => (Planes.planeProperties_mem he).2.1]
    exact hpset q
  obtain ⟨pset₂, hfb, hasked⟩ := h.fbProperties_asked hwhole plane buf hpset₁
  have hmade := applyPlane_made hbuf hprops
  rw [h.newGem_gems buf (a.plane 0), hfb] at hmade
  unfold placeOn
  rw [post_bind]
  refine post_of_ok hmade ?_
  dsimp only
  cases hplaced : (w.drm.makes buf (a.plane 0).prime (mDrmFormat buf)).isSome &&
      (a.plane 0).addProperty .fbId with
  | false => exact ⟨by rw [hplaced]; rfl, hasked⟩
  | true => exact ⟨by rw [hplaced]; rfl, hasked⟩

/-- A layer whose buffer is not made leaves everything as it is. -/
theorem placeOn_failed {a : PlaneAnswers} {plane : Nat} {buf : HdiLayerBuffer}
    (hbuf : w.disp.mClientLayer.mHdiBuffer = some buf) {pset : Planes.AtomicReq}
    (hpset : ∀ q, asked pset q = none)
    (hall : ¬ ((Planes.planeProperties w.disp.mClientLayer.toComp plane (w.device.planes plane)
      buf.mWidth buf.mHeight).all fun e => a.addProperty e.prop) = true) :
    Post (placeOn a w.disp.mCrtc plane pset) w (fun pset' w' => w' = w ∧ ∀ q, asked pset' q = none)
      (fun _ _ => False) := by
  obtain ⟨pset₁, hprops⟩ : ∃ pset₁, Planes.addProperties a.addProperty pset
      (Planes.planeProperties w.disp.mClientLayer.toComp plane (w.device.planes plane) buf.mWidth
        buf.mHeight) = (false, pset₁) := by
    obtain ⟨es, heq, -⟩ := Planes.addProperties_spec a.addProperty (Planes.planeProperties
      w.disp.mClientLayer.toComp plane (w.device.planes plane) buf.mWidth buf.mHeight) pset
    exact ⟨es ++ pset, by rw [heq, Bool.eq_false_iff.2 hall]⟩
  unfold placeOn
  rw [post_bind]
  refine post_of_ok (applyPlane_failed hbuf hprops) ⟨rfl, fun q => ?_⟩
  rw [asked_addProperties hprops fun e he => (Planes.planeProperties_mem he).2.1]
  exact hpset q

/-! ## A frame -/

theorem applyFrame_eq {a : FrameAnswers} (hfence : a.outFencePtr = true) :
    applyFrame a w =
      (findPlaneAndApply a.plane 0 w.disp.mCompLayers [⟨.crtc w.disp.mCrtc.mId, .outFencePtr, 0⟩] >>=
        finishFrame a w.disp) w := by
  unfold applyFrame
  rw [get_bind, if_neg (not_not.2 hfence)]
  rfl

/-- What a frame does to the screen. -/
def Screened (s : Session) (devId : Nat) (φ : Nat → Outputs.Phase Framebuffer) (w : World)
    (a : FrameAnswers) (w' : World) : Prop :=
  (w'.drm.Kept ↔ w.Spares a (φ devId)) ∧
    (w.Spares a (φ devId) →
      Scan (Function.update φ devId (w.next a (φ devId))) (s.store devId w'))

/-- A frame that makes no buffer. -/
theorem Screened.untaken {a : FrameAnswers} (htaken : w.taken a = none)
    (hkept : w'.drm.Kept) (h : Scan φ (s.store devId w')) : Screened s devId φ w a w' := by
  unfold Screened World.Spares World.next
  rw [htaken, Function.update_eq_self]
  exact ⟨iff_of_true hkept (by simp), fun _ => h⟩

/-- The new object after a rotation. -/
theorem Scan.rotate_fb (h : Scan φ (s.store devId w)) {buf : HdiLayerBuffer} {a : PlaneAnswers}
    {c : Framebuffer} (hmakes : w.drm.makes buf a.prime (mDrmFormat buf) = some c) :
    (w.rotate buf a).drm.fbOf w.drm.nextGem =
        (w.drm.newGemBuffer buf a.prime (mDrmFormat buf)).mFdId ∧
      (w.drm.newGemBuffer buf a.prime (mDrmFormat buf)).mFdId ≠ 0 ∧
      (w.rotate buf a).drm.content (w.drm.newGemBuffer buf a.prime (mDrmFormat buf)).mFdId =
        some c := by
  have hsound : w.drm.Sound := h.sound
  have hkeyed : w.drm.Keyed := h.keyed
  obtain ⟨-, hne, -⟩ := Drm.newGem_some hsound hkeyed hmakes
  have hrot : Outputs.Rotates _ (s.store devId (w.rotate buf a)).outputs devId _ _ _ _ := h.rotates
  have hfb : (w.rotate buf a).drm.fbOf w.drm.nextGem =
      (w.drm.newGemBuffer buf a.prime (mDrmFormat buf)).mFdId :=
    Drm.fbOf_eq (h.newGem_gems buf a)
  refine ⟨hfb, hne, ?_⟩
  -- what is removed is the framebuffer of another object
  have hgone : (w.drm.newGemBuffer buf a.prime (mDrmFormat buf)).mFdId ≠ w.gone buf a := by
    intro he
    cases hlast : w.disp.mClientLayer.mLastBuffer with
    | none =>
        have hzero : w.gone buf a = 0 := by
          unfold World.gone
          rw [hlast]
          rfl
        exact hne (he.trans hzero)
    | some gem =>
        rw [h.gone_eq hlast] at he
        split at he
        · exact (hsound.newGem_fresh hne).2 gem he.symm
        · exact hne he
  have hcontent :
      (w.rotate buf a).drm.content (w.drm.newGemBuffer buf a.prime (mDrmFormat buf)).mFdId =
        (s.store devId (w.rotate buf a)).outputs.content
          (w.drm.newGemBuffer buf a.prime (mDrmFormat buf)).mFdId := rfl
  rw [hcontent, hrot.content _ (Int.natCast_ne_zero.2 hne), if_neg fun he => hgone (Int.natCast_inj.1 he),
    if_pos rfl, hmakes]

theorem rotate_accepts (w : World) (buf : HdiLayerBuffer) (a : PlaneAnswers) (answer : Option Int) :
    accepts (w.rotate buf a).drm answer = accepts w.drm answer := by
  unfold accepts
  rw [w.rotate_drm, (Drm.destroyOwned_frame _ _ _).1, (Drm.newGem_fds _ _ _).1]

/-- A frame that makes a buffer and spares what is on the display. -/
theorem Scan.turned (h : Scan φ (s.store devId w)) {a : FrameAnswers} {plane : Nat}
    {buf : HdiLayerBuffer} (htaken : w.taken a = some (plane, buf))
    (hplane : w.disp.chosen w.device = some plane)
    (hspare : (φ devId).isFading = true → (a.plane 0).drop.rmFB = false)
    {pset : Planes.AtomicReq} (ht : Turned w w' a plane buf pset) (disp : DrmDisplay) :
    Post (finishFrame a disp pset) w'
      (fun _ w'' => Scan (Function.update φ devId (w.next a (φ devId))) (s.store devId w''))
      (fun _ _ => False) := by
  have hrotate : Scan _ (s.store devId (w.rotate buf (a.plane 0))) := h.rotate hspare
  have hplaced := ht.placed
  have hasked := ht.asked
  unfold World.next World.landed
  rw [htaken]
  dsimp only
  cases hmakes : w.drm.makes buf (a.plane 0).prime (mDrmFormat buf) with
  | none =>
      rw [hmakes] at hplaced hasked
      rw [ite_self, hplaced]
      refine hrotate.finish_blank a disp fun q => ?_
      rw [hasked q, if_neg fun hno => absurd hno.2.1 (by simp)]
  | some c =>
      rw [hmakes] at hplaced hasked
      by_cases hadd : (a.plane 0).addProperty .fbId = true
      · rw [hadd] at hplaced hasked ⊢
        obtain ⟨hfb, hne, hcontent⟩ := h.rotate_fb hmakes
        rw [← hfb] at hne hcontent hasked
        have hbound : Scan _ (s.store devId ((w.rotate buf (a.plane 0)).bind plane)) :=
          hrotate.bind hplane
        have hflip := hbound.finish_flip a disp (World.bind_self ..) rfl hne hcontent
          (fun q => (hasked q).trans (by simp; rfl))
        rw [World.bind_drm, rotate_accepts, Function.update_idem] at hflip
        rw [hplaced]
        refine hflip.mono (fun _ w'' hs => ?_) (fun _ _ he => he)
        rw [Bool.true_and]
        by_cases hland : (a.addProperty .crtcId && a.addProperty .active &&
            accepts w.drm a.atomicCommit) = true
        · rw [if_pos hland] at hs ⊢
          exact hs
        · rw [if_neg hland] at hs ⊢
          exact hs
      · rw [Bool.eq_false_iff.2 hadd] at hplaced hasked ⊢
        rw [hplaced]
        refine hrotate.finish_blank a disp fun q => ?_
        rw [hasked q, if_neg fun hno => absurd hno.2.2 (by simp)]

/-- A frame that makes a buffer for the plane of the display. -/
theorem Scan.screened (h : Scan φ (s.store devId w)) (hkept : w.drm.Kept) {a : FrameAnswers}
    {plane : Nat} {buf : HdiLayerBuffer} (htaken : w.taken a = some (plane, buf))
    (hplane : w.disp.chosen w.device = some plane) {pset : Planes.AtomicReq}
    (ht : Turned w w' a plane buf pset) (disp : DrmDisplay) :
    Post (finishFrame a disp pset) w' (fun _ w'' => Screened s devId φ w a w'')
      (fun _ _ => False) := by
  have hlog : w'.drm = (w.rotate buf (a.plane 0)).drm := by
    rw [ht.placed]
    split <;> rfl
  have hiff : w'.drm.Kept ↔ w.Spares a (φ devId) := by
    unfold World.Spares Drm.Kept
    have hgone : (w.gone buf (a.plane 0) ≠ 0 → ∀ q, shownFb q w.drm.log ≠ w.gone buf (a.plane 0)) ↔
      _ := h.gone_iff
    rw [htaken, hlog, ← hgone]
    constructor
    · exact fun hk _ hne q => ((w.rotate_kept buf (a.plane 0) q).1 (hk q)).2 hne
    · exact fun hs q => (w.rotate_kept buf (a.plane 0) q).2 ⟨hkept q, fun hne => hs rfl hne q⟩
  have hiff' : ∀ w'' : World, (∀ q, FbKept q w''.drm.log ↔ FbKept q w'.drm.log) →
      (w''.drm.Kept ↔ w.Spares a (φ devId)) := by
    intro w'' hk
    rw [← hiff]
    exact forall_congr' hk
  by_cases hspares : w.Spares a (φ devId)
  · have hscan := h.turned htaken hplane (hspares (by rw [htaken]; rfl)) ht disp
    refine (hscan.and (finishFrame_kept a disp pset)).mono ?_ (fun _ _ he => he.1)
    rintro - w'' ⟨hs, hk⟩
    exact ⟨hiff' w'' hk, fun _ => hs⟩
  · refine (finishFrame_kept a disp pset).mono ?_ (fun _ _ he => he)
    intro _ w'' hk
    exact ⟨hiff' w'' hk, fun hs => absurd hs hspares⟩

/-- `Apply` from the request of the frame on, when it comes to `FindPlaneAndApply`. -/
theorem Scan.applyFrame (h : Scan φ (s.store devId w)) (hkept : w.drm.Kept) {a : FrameAnswers}
    (hwhole : a.Whole) (hreach : w.reaches a = true) (hfence : a.outFencePtr = true) :
    Post (applyFrame a) w (fun _ w' => Screened s devId φ w a w')
      (fun _ w' => Screened s devId φ w a w') := by
  have hnothing : ∀ q, asked [⟨.crtc w.disp.mCrtc.mId, .outFencePtr, 0⟩] q = none := by
    intro q
    rw [asked_cons, if_neg (by simp), asked_nil]
  -- the rest of a frame that makes no buffer
  have hblank : ∀ pset, (∀ q, asked pset q = none) → w.taken a = none →
      Post (finishFrame a w.disp pset) w (fun _ w' => Screened s devId φ w a w') (fun _ _ => False) := by
    intro pset hpset htaken
    refine ((h.finish_blank a w.disp hpset).and (finishFrame_kept a w.disp pset)).mono ?_
      (fun _ _ he => he.1)
    rintro - w' ⟨hscan, hk⟩
    exact .untaken htaken (fun q => (hk q).2 (hkept q)) hscan
  have htakes : w.taken a = w.offered a := if_pos hreach
  have hcongr : Post (Frame.applyFrame a) w = Post (findPlaneAndApply a.plane 0 w.disp.mCompLayers
      [⟨.crtc w.disp.mCrtc.mId, .outFencePtr, 0⟩] >>= finishFrame a w.disp) w := by
    unfold Post
    rw [applyFrame_eq hfence]
  rw [hcongr, post_bind]
  rcases (h.tidy devId w.disp (s.store_self ..)).layers with hlayers | hlayers
  · have htaken : w.taken a = none := by
      rw [htakes]
      exact if_pos hlayers
    rw [hlayers]
    exact (hblank _ hnothing htaken).mono (fun _ _ hs => hs) (fun _ _ he => he.elim)
  · have hoffered : w.offered a = _ := if_neg (by rw [hlayers]; simp)
    rw [hlayers]
    unfold findPlaneAndApply findPlaneAndApply
    simp only [post_bind, post_get, post_pure]
    unfold Post
    rw [placeLayer_eq]
    unfold DrmDisplay.chosen at hoffered
    cases hchosen : w.disp.mPlanes.find? fun plane => w.disp.mCrtc.takes (w.device.planes plane) with
    | none =>
        rw [hchosen] at hoffered
        exact (hblank _ hnothing (htakes.trans hoffered)).mono (fun _ _ hs => hs)
          (fun _ _ he => he.elim)
    | some plane =>
        rw [hchosen] at hoffered
        cases hbuf : w.disp.mClientLayer.mHdiBuffer with
        | none =>
            rw [hbuf] at hoffered
            have hfault : placeOn (a.plane 0) w.disp.mCrtc plane
                [⟨.crtc w.disp.mCrtc.mId, .outFencePtr, 0⟩] w = .error .nullLayerBuffer w := by
              unfold placeOn
              show EStateM.bind _ _ _ = _
              unfold EStateM.bind
              rw [applyPlane_none _ hbuf]
            dsimp only
            rw [hfault]
            exact .untaken (htakes.trans hoffered) hkept h
        | some buf =>
            rw [hbuf] at hoffered
            dsimp only [Option.bind_some] at hoffered ⊢
            by_cases hall : ((Planes.planeProperties w.disp.mClientLayer.toComp plane
                (w.device.planes plane) buf.mWidth buf.mHeight).all
                  fun e => (a.plane 0).addProperty e.prop) = true
            · rw [if_pos hall] at hoffered
              refine (h.placeOn_turned hwhole hbuf hnothing hall).mono ?_ (fun _ _ he => he.elim)
              intro pset w' ht
              exact (h.screened hkept (htakes.trans hoffered) hchosen ht w.disp).mono (fun _ _ hs => hs)
                (fun _ _ he => he.elim)
            · rw [if_neg hall] at hoffered
              refine (placeOn_failed hbuf hnothing hall).mono ?_ (fun _ _ he => he.elim)
              rintro pset w' ⟨rfl, hpset⟩
              exact (hblank pset hpset (htakes.trans hoffered)).mono (fun _ _ hs => hs)
                (fun _ _ he => he.elim)

/-! ## `Apply` -/

/-- Worlds in which a frame does the same. -/
structure World.Same (w w' : World) : Prop where
  unseen : w.drm.Unseen w'.drm
  fds : w'.drm.fds = w.drm.fds
  drmFd : w'.drm.drmFd = w.drm.drmFd
  planes : w'.device.planes = w.device.planes
  disp : w'.disp = w.disp

namespace World.Same

theorem refl (w : World) : Same w w := ⟨.refl _, rfl, rfl, rfl, rfl⟩

theorem quiet (h : Same w w') : w.Quiet w' where
  unseen := h.unseen
  planes := h.planes
  disp := by
    rw [h.disp]
    exact .refl _
  current := by rw [h.disp]
  last := by rw [h.disp]

theorem offered (h : Same w w') (a : FrameAnswers) : w'.offered a = w.offered a := by
  unfold World.offered DrmDisplay.chosen
  rw [h.disp, h.planes]

theorem landed (h : Same w w') (a : FrameAnswers) (buf : HdiLayerBuffer) :
    w'.landed a buf = w.landed a buf := by
  unfold World.landed accepts Drm.makes Drm.dmaBufAt
  rw [h.fds, h.drmFd]

theorem screened (h : Same w w') {a : FrameAnswers} (hreach : w'.reaches a = w.reaches a)
    {w'' : World} (hs : Screened s devId φ w' a w'') : Screened s devId φ w a w'' := by
  have htaken : w'.taken a = w.taken a := by
    unfold World.taken
    rw [hreach, h.offered]
  have hspares : w'.Spares a (φ devId) ↔ w.Spares a (φ devId) := by
    unfold World.Spares
    rw [htaken]
  have hnext : w'.next a (φ devId) = w.next a (φ devId) := by
    unfold World.next
    rw [htaken]
    simp only [h.landed]
  unfold Screened at hs ⊢
  rw [← hspares, ← hnext]
  exact hs

end World.Same

theorem Screened.quiet {a : FrameAnswers} {w₀ : World} (h : Screened s devId φ w₀ a w)
    (hq : w.Quiet w') : Screened s devId φ w₀ a w' := by
  have hkept : w'.drm.Kept ↔ w.drm.Kept := forall_congr' hq.unseen.kept
  exact ⟨hkept.trans h.1, fun hs => hq.scan (h.2 hs)⟩

/-- The request of a mode says nothing of planes. -/
theorem modeDrm_unseen (w : World) (a : FrameAnswers) (blob : Nat) :
    w.drm.Unseen (w.modeDrm a blob) ∧ (w.modeDrm a blob).fds = w.drm.fds ∧
      (w.modeDrm a blob).drmFd = w.drm.drmFd := by
  have hasked : ∀ q, asked (w.disp.modeRequest a blob).2 q = none := by
    intro q
    unfold DrmDisplay.modeRequest
    rw [asked_addProperties (Prod.mk.eta.symm : _ = (_, _)) (by simp)]
    rfl
  unfold World.modeDrm commitMode
  dsimp only
  split
  · refine ⟨⟨rfl, rfl, rfl, rfl, fun q => ?_, fun _ => Iff.rfl⟩, rfl, rfl⟩
    cases a.modeCommit with
    | false => rfl
    | true =>
        show (asked (w.disp.modeRequest a blob).2 q).getD (shownFb q w.drm.log) = shownFb q w.drm.log
        rw [hasked q]
        rfl
  · exact ⟨⟨rfl, rfl, rfl, rfl, fun _ => rfl, fun _ => Iff.rfl⟩, rfl, rfl⟩

theorem updateMode_same (w : World) (a : FrameAnswers) :
    Post (updateMode a) w (fun r w' => w.Same w' ∧ r.1 = w.modeUpdated a ∧
      w'.modeUpdated a = w.modeUpdated a) (fun _ _ => False) := by
  cases hneed : (w.device.modes w.disp.mCrtc.mId).mNeedModeSet with
  | false =>
      refine post_of_ok (updateMode_settled a hneed) ⟨.refl w, ?_, rfl⟩
      unfold World.modeUpdated
      rw [hneed]
      rfl
  | true =>
      cases hblock : a.modeBlock with
      | none =>
          refine post_of_ok (updateMode_blockless hneed hblock) ⟨⟨.refl _, rfl, rfl, rfl, rfl⟩, ?_, rfl⟩
          unfold World.modeUpdated
          rw [hneed, hblock]
          rfl
      | some blob =>
          obtain ⟨hunseen, hfds, hdrmFd⟩ := modeDrm_unseen w a blob
          refine post_of_ok (updateMode_built hneed hblock) ⟨⟨hunseen, hfds, hdrmFd, ?_, rfl⟩, ?_, ?_⟩
          · dsimp only
            split <;> rfl
          · unfold World.modeUpdated
            rw [hneed, hblock]
            rfl
          · unfold World.modeUpdated
            rw [hneed, hblock]
            dsimp only
            cases hok : (w.disp.modeRequest a blob).1 && a.modeCommit with
            | false =>
                rw [if_neg (by simp), hneed]
            | true =>
                rw [if_pos rfl]
                unfold World.modeSet Planes.DrmDevice.setMode
                dsimp only
                rw [Function.update_self]
                rfl

theorem Scan.applyLayers (h : Scan φ (s.store devId w)) (hkept : w.drm.Kept) {a : FrameAnswers}
    (hwhole : a.Whole) (hmode : w.modeUpdated a = true) :
    Post (applyLayers a) w (fun _ w' => Screened s devId φ w a w')
      (fun _ w' => Screened s devId φ w a w') := by
  have hsame : ∀ requests, w.Same { w with requests } := fun _ => ⟨.refl _, rfl, rfl, rfl, rfl⟩
  have hstopped : ∀ requests, w.reaches a = false → Screened s devId φ w a { w with requests } := by
    intro requests hreach
    refine .untaken ?_ hkept ((hsame requests).quiet.scan h)
    unfold World.taken
    rw [hreach, if_neg (by simp)]
  unfold Frame.applyLayers
  rw [post_bind, post_get]
  by_cases henough : w.disp.mPlanes.length < w.disp.mCompLayers.length
  · rw [if_pos henough]
    refine hstopped w.requests ?_
    unfold World.reaches
    rw [decide_eq_false (by omega), Bool.and_false, Bool.false_and, Bool.false_and]
  · rw [if_neg henough]
    by_cases halloc : a.atomicAlloc = true
    · rw [if_neg (not_not.2 halloc), post_bind]
      refine withRequest_post ?_
      by_cases hfence : a.outFencePtr = true
      · have hreach : w.reaches a = true := by
          unfold World.reaches
          rw [hmode, decide_eq_true (by omega), halloc, hfence]
          rfl
        have hone := hsame (w.requests + 1)
        refine ((hone.quiet.scan h).applyFrame hkept hwhole hreach hfence).mono ?_ ?_
        · intro r w' hs
          exact (hone.screened rfl hs).quiet ⟨.refl _, rfl, .refl _, rfl, rfl⟩
        · intro e w' hs
          exact hone.screened rfl hs
      · have hreach : w.reaches a = false := by
          unfold World.reaches
          rw [Bool.eq_false_iff.2 hfence, Bool.and_false]
        unfold Frame.applyFrame
        rw [post_bind, post_get, if_pos hfence]
        exact hstopped _ hreach
    · rw [if_pos halloc]
      refine hstopped w.requests ?_
      unfold World.reaches
      rw [Bool.eq_false_iff.2 halloc, Bool.and_false, Bool.false_and]

theorem destroyModeBlock_quiet (block : Option Nat) (w : World) :
    Post (destroyModeBlock block) w (fun _ w' => w.Quiet w') (fun _ _ => False) := by
  cases block with
  | none => exact .refl w
  | some blob => exact .setDrm ⟨rfl, rfl, rfl, rfl, fun _ => rfl, fun _ => Iff.rfl⟩

theorem Scan.apply (h : Scan φ (s.store devId w)) (hkept : w.drm.Kept) {a : FrameAnswers}
    (hwhole : a.Whole) :
    Post (apply a) w (fun _ w' => Screened s devId φ w a w')
      (fun _ w' => Screened s devId φ w a w') := by
  unfold Frame.apply
  rw [post_bind]
  refine (updateMode_same w a).mono ?_ (fun _ _ he => he.elim)
  rintro ⟨ok, block, psets⟩ w₁ ⟨hsame, hok, hmode⟩
  have hscan := hsame.quiet.scan h
  have hkept₁ : w₁.drm.Kept := fun q => (hsame.unseen.kept q).2 (hkept q)
  dsimp only at hok ⊢
  cases ok with
  | true =>
      rw [if_pos rfl, post_bind]
      have hreach : w₁.reaches a = w.reaches a := by
        unfold World.reaches
        rw [hmode, hsame.disp]
      refine (hscan.applyLayers hkept₁ hwhole (hmode.trans hok.symm)).mono ?_ ?_
      · intro r w₂ hs
        rw [post_bind]
        refine (destroyModeBlock_quiet block w₂).mono ?_ (fun _ _ he => he.elim)
        exact fun _ w₃ hq => (hsame.screened hreach hs).quiet hq
      · exact fun _ w₂ hs => hsame.screened hreach hs
  | false =>
      rw [if_neg (by simp), post_bind]
      refine (destroyModeBlock_quiet block w₁).mono ?_ (fun _ _ he => he.elim)
      intro _ w₂ hq
      refine .untaken ?_ (fun q => (hq.unseen.kept q).2 (hkept₁ q)) (hq.scan hscan)
      unfold World.taken World.reaches
      rw [← hok, if_neg (by simp)]

/-! ## The operations -/

theorem setLayerBuffer_fds (d : Drm) (l : HdiDrmLayer) (buffer : Option BufferHandle) (fence : Int)
    (a : DupAnswers) :
    (∃ fds, (l.setLayerBuffer d buffer fence a).2.2 = { d with fds := fds }) ∧
      (l.setLayerBuffer d buffer fence a).2.1.mCurrentBuffer = l.mCurrentBuffer ∧
      (l.setLayerBuffer d buffer fence a).2.1.mLastBuffer = l.mLastBuffer := by
  cases buffer with
  | none => exact ⟨⟨d.fds, rfl⟩, rfl, rfl⟩
  | some hdl =>
      refine ⟨?_, rfl, rfl⟩
      unfold HdiDrmLayer.setLayerBuffer
      dsimp only
      obtain ⟨fds₁, h₁⟩ := HdiLayerBuffer.new_frame d hdl a.buffer
      rw [h₁]
      have hrest : ∀ fds, ∃ fds', (if 0 ≤ l.mAcquireFence then
          (Drm.dup { d with fds } fence a.fence).2.close l.mAcquireFence
          else (Drm.dup { d with fds } fence a.fence).2) = { d with fds := fds' } := by
        intro fds
        obtain ⟨fds', hdup⟩ := Drm.dup_frame { d with fds } fence a.fence
        rw [hdup]
        split
        · exact ⟨_, rfl⟩
        · exact ⟨fds', rfl⟩
      cases l.mHdiBuffer with
      | none => exact hrest fds₁
      | some old =>
          obtain ⟨fds₂, h₂⟩ := old.destroy_frame { d with fds := fds₁ }
          dsimp only
          rw [h₂]
          exact hrest fds₂

theorem handOut_quiet (fd : Int) (answer : Option Int) (w : World) :
    Post (handOut fd answer) w (fun _ w' => w.Quiet w') (fun _ _ => False) := by
  obtain ⟨fds, hdup⟩ := w.drm.dup_frame fd answer
  unfold handOut
  simp only [post_bind, post_get, post_set, post_pure]
  rw [hdup]
  exact .setDrm (.setFds ⟨_, rfl⟩)

theorem releaseFences_quiet (mLayers : List Nat) (a : List (Option Int)) : ∀ w : World,
    Post (releaseFences mLayers a) w (fun _ w' => w.Quiet w') (fun _ _ => False) := by
  induction mLayers generalizing a with
  | nil =>
      intro w
      cases a <;> exact .refl w
  | cons id mLayers ih =>
      intro w
      cases a with
      | nil => exact .refl w
      | cons answer a =>
          unfold releaseFences
          rw [post_bind, post_get]
          cases w.disp.mLayersMap id with
          | none => exact ih a w
          | some l =>
              dsimp only
              rw [post_bind]
              refine (handOut_quiet l.mReleaseFence answer w).mono ?_ (fun _ _ he => he)
              intro _ w₁ h₁
              rw [post_bind]
              refine (ih a w₁).mono ?_ (fun _ _ he => he)
              exact fun _ w₂ h₂ => h₁.trans h₂

/-- The client layer gets another buffer. -/
theorem setClientBuffer_quiet (buffer : Option BufferHandle) (fence : Int) (a : DupAnswers)
    (w : World) :
    Post (setClientBuffer buffer fence a) w (fun _ w' => w.Quiet w') (fun _ _ => False) := by
  obtain ⟨hfds, hcur, hlast⟩ := setLayerBuffer_fds w.drm w.disp.mClientLayer buffer fence a
  exact ⟨.setFds hfds, rfl, ⟨rfl, rfl, fun ht => ⟨ht.layers, ht.bare⟩⟩, hcur, hlast⟩

theorem setLayers_quiet (w : World) :
    w.Quiet { w with disp := { w.disp with mCompLayers := [.client] } } :=
  ⟨.refl _, rfl, ⟨rfl, rfl, fun ht => ⟨Or.inr rfl, ht.bare⟩⟩, rfl, rfl⟩

/-- A layer without objects is put in place, or one is taken out. -/
theorem setLayer_quiet {id : Nat} {l : Option HdiDrmLayer} (w : World)
    (hl : ∀ x, l = some x → x.mCurrentBuffer = none ∧ x.mLastBuffer = none) :
    w.Quiet (w.setLayer id l) := by
  refine ⟨.refl _, rfl, ⟨rfl, rfl, fun ht => ⟨ht.layers, fun i x hx => ?_⟩⟩, rfl, rfl⟩
  have hx' : Function.update w.disp.mLayersMap id l i = some x := hx
  rw [Function.update_apply] at hx'
  split at hx'
  · exact hl x hx'
  · exact ht.bare i x hx'

/-- A layer without objects gives back descriptors only. -/
theorem destroy_fds {l : HdiDrmLayer} (hl : l.mCurrentBuffer = none ∧ l.mLastBuffer = none) (d : Drm)
    (last current : DropAnswers) : ∃ fds, l.destroy d last current = { d with fds := fds } := by
  unfold HdiDrmLayer.destroy
  rw [hl.1, hl.2]
  dsimp only [Drm.destroyOwned]
  cases l.mHdiBuffer with
  | none =>
      dsimp only
      split <;> split <;> exact ⟨_, rfl⟩
  | some buf =>
      obtain ⟨fds, hfds⟩ := buf.destroy_frame d
      dsimp only
      rw [hfds]
      split <;> split <;> exact ⟨_, rfl⟩

/-- What an operation of a display does to the screen. -/
def OpScreened (s : Session) (devId : Nat) (φ : Nat → Outputs.Phase Framebuffer) (w : World) (op : Op)
    (w' : World) : Prop :=
  match op.frame w with
  | none => w.Quiet w'
  | some (w₁, a) => Screened s devId φ w₁ a w'

/-- Opening files does not reach the screen. -/
theorem World.Opens.quiet {l : List Int} (h : w.Opens l w') : w.Quiet w' := by
  obtain ⟨fds, _, _, rfl⟩ := h.rest
  exact ⟨.setFds ⟨fds, rfl⟩, rfl, ⟨rfl, rfl, fun ht => ⟨ht.layers, ht.bare⟩⟩, rfl, rfl⟩

theorem Scan.pushFirstFrame (h : Scan φ (s.store devId w)) (hkept : w.drm.Kept)
    (a : FirstFrameAnswers) (hwhole : a.frame.Whole) :
    Post (pushFirstFrame a) w (fun _ w' => OpScreened s devId φ w (.pushFirstFrame a) w')
      (fun _ w' => OpScreened s devId φ w (.pushFirstFrame a) w') := by
  obtain ⟨buffer, w₁, hfirst, hopens⟩ := (firstBuffer_opens (w := w) a).exists_ok
  unfold Frame.pushFirstFrame OpScreened Op.frame
  rw [post_bind]
  refine post_of_ok hfirst ?_
  dsimp only
  rw [hfirst]
  cases buffer with
  | none => exact hopens.quiet
  | some buffer =>
      have hbuffer := setClientBuffer_quiet (some buffer) (-1) a.dup w₁
      simp only [post_bind, post_pure]
      -- the layer and the world of the frame are those of `Op.frame`
      have hquiet := hopens.quiet.trans (World.Quiet.trans hbuffer (setLayers_quiet _))
      exact (hquiet.scan h).apply (fun q => (hquiet.unseen.kept q).2 (hkept q)) hwhole

theorem Scan.commit (h : Scan φ (s.store devId w)) (hkept : w.drm.Kept) (pre : Bool)
    {a : FrameAnswers} (hwhole : a.Whole) (fence : Option Int) :
    Post (commit pre a fence) w (fun _ w' => OpScreened s devId φ w (.commit pre a fence) w')
      (fun _ w' => OpScreened s devId φ w (.commit pre a fence) w') := by
  unfold Frame.commit composerCommit
  rw [post_bind]
  cases pre with
  | true =>
      rw [if_pos rfl, post_map]
      refine (h.apply hkept hwhole).mono ?_ (fun _ _ hs => hs)
      intro r w₁ hs
      simp only [post_bind, post_get]
      refine (handOut_quiet _ fence w₁).mono ?_ (fun _ _ he => he.elim)
      exact fun _ w₂ hq => hs.quiet hq
  | false =>
      rw [if_neg (by simp)]
      simp only [post_bind, post_get, post_pure]
      exact (handOut_quiet _ fence w).mono (fun _ _ hq => hq) (fun _ _ he => he.elim)

theorem Scan.step_op (h : Scan φ (s.store devId w)) (hkept : w.drm.Kept) (op : Op)
    (hwhole : (Call.display devId op).Whole) :
    Post (Frame.step op) w (fun _ w' => OpScreened s devId φ w op w')
      (fun _ w' => OpScreened s devId φ w op w') := by
  have htidy := h.tidy devId w.disp (s.store_self ..)
  cases op with
  | setDisplayClientBuffer buffer fence a =>
      exact setClientBuffer_quiet buffer fence a w
  | pushFirstFrame a => exact h.pushFirstFrame hkept a hwhole
  | setDisplayMode modeId => exact ⟨.refl _, rfl, .refl _, rfl, rfl⟩
  | prepareDisplayLayers =>
      exact ⟨.refl _, rfl, ⟨rfl, rfl, fun ht => ⟨Or.inr rfl, ht.bare⟩⟩, rfl, rfl⟩
  | commit pre a fence => exact h.commit hkept pre hwhole fence
  | createLayer layerId =>
      show Post (createLayer layerId) w _ _
      cases layerId with
      | none => exact .refl w
      | some id =>
          unfold createLayer
          rw [post_bind, post_modify, post_pure]
          show w.Quiet _
          split
          · refine setLayer_quiet w fun x hx => ?_
            cases hx
            exact ⟨rfl, rfl⟩
          · exact .refl w
  | closeLayer layerId last current =>
      show Post (closeLayer layerId last current) w _ _
      unfold closeLayer
      rw [post_bind, post_get]
      cases hl : w.disp.mLayersMap layerId with
      | none => exact .refl w
      | some l =>
          have hfds := destroy_fds (htidy.bare layerId l hl) w.drm last current
          exact World.Quiet.trans (.setDrm (.setFds hfds)) (setLayer_quiet _ (fun x hx => by cases hx))
  | setLayerBuffer layerId buffer fence a =>
      show Post (setLayerBuffer layerId buffer fence a) w _ _
      unfold setLayerBuffer
      rw [post_bind, post_get]
      cases hl : w.disp.mLayersMap layerId with
      | none => exact .refl w
      | some l =>
          obtain ⟨hfds, hcur, hlast⟩ := setLayerBuffer_fds w.drm l buffer fence a
          have hbare := htidy.bare layerId l hl
          refine World.Quiet.trans (.setDrm (.setFds hfds)) (setLayer_quiet _ fun x hx => ?_)
          cases hx
          exact ⟨hcur.trans hbare.1, hlast.trans hbare.2⟩
  | getDisplayReleaseFence mLayers a =>
      show Post (getDisplayReleaseFence mLayers a) w _ _
      unfold getDisplayReleaseFence
      rw [post_bind]
      exact (releaseFences_quiet mLayers a w).mono (fun _ _ hq => hq) (fun _ _ he => he.elim)
  | setDisplayPowerStatus status openFd blank =>
      exact (setDisplayPowerStatus_opens status openFd blank).mono (fun _ _ hs => hs.1.quiet)
        (fun _ _ he => he.elim)
  | setDisplayBacklight level openFd memset =>
      exact (setDisplayBacklight_opens level openFd memset).mono (fun _ _ hs => hs.1.quiet)
        (fun _ _ he => he.elim)

end

/-! ## The session -/

theorem clientFd_fds (d : Drm) (fd : Int) (file : Option File) :
    ∃ fds, d.clientFd fd file = { d with fds := fds } := by
  unfold Drm.clientFd
  split
  · exact ⟨d.fds, rfl⟩
  · split
    · exact ⟨d.fds, rfl⟩
    · exact ⟨_, rfl⟩

/-- What a call does to the screen. -/
def CallScreened (x : Session × (Nat → Outputs.Phase Framebuffer)) (call : Call) (s' : Session) :
    Prop :=
  (s'.drm.Kept ↔ CallSpares x call) ∧ (CallSpares x call → Scan (noteFrame x.1 x.2 call) s')

theorem Session.store_world {s : Session} {devId : Nat} {disp : DrmDisplay}
    (h : s.mHdiDisplays devId = some disp) : s.store devId (s.world disp) = s := by
  unfold store world
  rw [Function.update_eq_self_iff.2 h.symm]

/-- A call without a frame. -/
theorem CallScreened.frameless {s s' : Session} {φ : Nat → Outputs.Phase Framebuffer} {call : Call}
    (hframe : s.frame call = none) (hkept : s'.drm.Kept) (h : Scan φ s') :
    CallScreened (s, φ) call s' := by
  unfold CallScreened CallSpares noteFrame
  rw [hframe]
  exact ⟨iff_of_true hkept (fun f hf => absurd hf (by simp)), fun _ => h⟩

theorem Scan.sessionStep {s : Session} {φ : Nat → Outputs.Phase Framebuffer} (h : Scan φ s)
    (hkept : s.drm.Kept) {call : Call} (hwhole : call.Whole) :
    Post (sessionStep call) s (fun _ s' => CallScreened (s, φ) call s')
      (fun _ s' => CallScreened (s, φ) call s') := by
  cases call with
  | clientFd fd file =>
      unfold Frame.sessionStep
      simp only [post_bind, post_modify, post_pure]
      obtain ⟨fds, hfds⟩ := clientFd_fds s.drm fd file
      rw [hfds]
      refine .frameless rfl hkept ?_
      exact ⟨h.outputs, ⟨h.sound.unallocated, h.sound.handles, h.sound.fbExists, h.sound.fbUnique⟩,
        h.keyed, h.alive, h.pipes, h.chosen, h.bound, h.tidy⟩
  | display devId op =>
      apply callDisplayFunction_post
      · intro hnone
        refine .frameless ?_ hkept h
        unfold Session.frame
        dsimp only
        rw [hnone]
        rfl
      · intro disp hdisp
        have hstore : Scan φ (s.store devId (s.world disp)) := by
          rw [Session.store_world hdisp]
          exact h
        have hscreened : ∀ w', OpScreened s devId φ (s.world disp) op w' →
            CallScreened (s, φ) (.display devId op) (s.store devId w') := by
          intro w' hs
          have hframe : s.frame (.display devId op) =
              (op.frame (s.world disp)).map fun f => (devId, f) := by
            unfold Session.frame
            dsimp only
            rw [hdisp]
            rfl
          unfold OpScreened at hs
          cases hop : op.frame (s.world disp) with
          | none =>
              rw [hop] at hs hframe
              exact .frameless hframe (fun q => (hs.unseen.kept q).2 (hkept q)) (hs.scan hstore)
          | some f =>
              rw [hop] at hs hframe
              unfold CallScreened CallSpares noteFrame
              rw [hframe]
              refine ⟨hs.1.trans ⟨fun hsp f' hf' => ?_, fun hsp => hsp _ rfl⟩,
                fun hsp => hs.2 (hsp _ rfl)⟩
              cases hf'
              exact hsp
        exact (hstore.step_op hkept op hwhole).mono (fun _ w' hs => hscreened w' hs)
          (fun _ w' hs => hscreened w' hs)

/-- A session before its first call: the displays have no objects, the planes are free and
dark. -/
structure Fresh (s : Session) : Prop where
  sound : s.drm.Sound
  keyed : s.drm.Keyed
  kept : s.drm.Kept
  idle : ∀ q, (s.device.planes q).mPipe = 0
  blank : ∀ q, shownFb q s.drm.log = 0
  pipes : ∀ devId devId' disp disp', s.mHdiDisplays devId = some disp →
    s.mHdiDisplays devId' = some disp' → disp.mCrtc.bit = disp'.mCrtc.bit → devId = devId'
  layers : ∀ devId disp, s.mHdiDisplays devId = some disp →
    disp.mClientLayer.mCurrentBuffer = none ∧ disp.mClientLayer.mLastBuffer = none ∧ disp.Tidy

theorem Fresh.scan {s : Session} (h : Fresh s) : Scan (fun _ => .dark) s := by
  have hfree : ∀ q e, ¬ s.outputs.drives e q := fun q e => Session.free (h.idle q) e
  have hcur : ∀ e, s.outputs.current e = none := by
    intro e
    unfold Session.outputs
    dsimp only
    cases hdisp : s.mHdiDisplays e with
    | none => rfl
    | some disp => exact (h.layers e disp hdisp).1
  have hlast : ∀ e, s.outputs.last e = none := by
    intro e
    unfold Session.outputs
    dsimp only
    cases hdisp : s.mHdiDisplays e with
    | none => rfl
    | some disp => exact (h.layers e disp hdisp).2.1
  refine ⟨⟨?_, ?_, fun q _ => h.blank q, ?_, ?_, ?_, ?_, fun _ q _ => h.blank q⟩, h.sound, h.keyed, ?_,
    h.pipes, ?_, fun q hq => absurd (h.idle q) hq, fun e disp hdisp => (h.layers e disp hdisp).2.2⟩
  · exact fun d q _ hd _ => absurd hd (hfree q d)
  · exact fun d _ q hd _ => absurd hd (hfree q d)
  · intro d _ b hb
    rw [hcur d] at hb
    exact absurd hb (by simp)
  · intro d _ b hb
    rw [hlast d] at hb
    exact absurd hb (by simp)
  · intro d _ b hb
    rw [hcur d] at hb
    exact absurd hb (by simp)
  · intro b b' he hne
    exact h.sound.fbOf_inj (Int.natCast_ne_zero.1 hne) (Int.natCast_inj.1 he)
  · intro e gem hgem
    rw [hcur e, hlast e] at hgem
    rcases hgem with hgem | hgem <;> exact absurd hgem (by simp)
  · intro e disp q _ hq
    exact absurd (hq.symm.trans (h.idle q)) disp.mCrtc.bit_ne_zero

/-- A call removes no framebuffer that is shown. -/
def CallKeeps (s : Session) (call : Call) : Prop :=
  Post (sessionStep call) s (fun _ s' => s'.drm.Kept) (fun _ s' => s'.drm.Kept)

/-- **No framebuffer is ever removed while a plane shows it exactly if** no display makes a
buffer while it shows the older one, unless the kernel refuses to remove that one. -/
theorem scanout_iff {s : Session} (h : Fresh s) {calls : List Call}
    (hwhole : ∀ call ∈ calls, call.Whole) :
    Meets sessionStep CallKeeps s calls ↔
      Meets (noting noteFrame sessionStep) CallSpares (s, fun _ => .dark) calls := by
  have hnoting : Meets (noting noteFrame Frame.sessionStep) (fun x call => CallKeeps x.1 call)
      (s, fun _ => .dark) calls ↔ Meets Frame.sessionStep CallKeeps s calls := meets_noting
  rw [← hnoting, ← meets_and_mem hwhole, ← meets_and_mem (C := CallSpares) hwhole]
  refine meets_congr (I := fun x => Scan x.2 x.1 ∧ x.1.drm.Kept) ?_ ?_ ⟨h.scan, h.kept⟩ calls
  · rintro x call ⟨hscan, hkept⟩ ⟨hkeeps, hw⟩
    rw [post_noting]
    have hpost := (hscan.sessionStep hkept hw).and hkeeps
    refine hpost.mono (fun _ s' hs => ?_) (fun _ _ _ => trivial)
    exact ⟨hs.1.2 (hs.1.1.1 hs.2), hs.2⟩
  · rintro x call ⟨hscan, hkept⟩
    refine and_congr_left fun hw => ?_
    have hpost := hscan.sessionStep hkept hw
    unfold CallKeeps
    unfold Post at hpost ⊢
    cases hm : Frame.sessionStep call x.1 with
    | ok r s' =>
        rw [hm] at hpost
        exact hpost.1
    | error e s' =>
        rw [hm] at hpost
        exact hpost.1

/-- What the planes of the session show, where `φ` says what is on each display. -/
structure OnScreen (s : Session) (φ : Nat → Outputs.Phase Framebuffer) : Prop where
  /-- A display shows a framebuffer that exists and holds what `φ` says. -/
  lit : ∀ devId disp c, s.mHdiDisplays devId = some disp → (φ devId).content = some c →
    ∃ q, (s.device.planes q).mPipe = disp.mCrtc.bit ∧ shownFb q s.drm.log ≠ 0 ∧
      s.drm.content (shownFb q s.drm.log) = some c
  dark : ∀ devId disp q, s.mHdiDisplays devId = some disp → (φ devId).content = none →
    (s.device.planes q).mPipe = disp.mCrtc.bit → shownFb q s.drm.log = 0
  /-- No display has two planes. -/
  sole : ∀ devId disp q q', s.mHdiDisplays devId = some disp →
    (s.device.planes q).mPipe = disp.mCrtc.bit → (s.device.planes q').mPipe = disp.mCrtc.bit → q = q'
  off : ∀ q, (s.device.planes q).mPipe = 0 → shownFb q s.drm.log = 0

theorem Scan.onScreen {s : Session} {φ : Nat → Outputs.Phase Framebuffer} (h : Scan φ s) :
    OnScreen s φ where
  lit := by
    intro devId disp c hdisp hc
    obtain ⟨f, hne, hcontent, q, ⟨disp', hdisp', hq⟩, hshown⟩ := h.outputs.lit_of_content hc
    rw [hdisp] at hdisp'
    cases hdisp'
    have hshown' : shownFb q s.drm.log = f := hshown
    exact ⟨q, hq, by rw [hshown']; exact hne, by rw [hshown']; exact hcontent⟩
  dark := fun devId disp q hdisp hc hq => h.outputs.shown_of_dark hc ⟨disp, hdisp, hq⟩
  sole := by
    intro devId disp q q' hdisp hq hq'
    exact h.outputs.plane devId q q' ⟨disp, hdisp, hq⟩ ⟨disp, hdisp, hq'⟩
  off := fun q hq => h.outputs.free q (Session.free hq)

/-- The session after a run, whichever way it ends, and what is on the displays then. -/
def Session.screenAfter (s : Session) (calls : List Call) :
    Session × (Nat → Outputs.Phase Framebuffer) :=
  after (run (noting noteFrame sessionStep) calls) (s, fun _ => .dark)

/-- **What is on the screen.** As long as no framebuffer is removed that a plane shows, each
display of which a frame has landed shows, on the one plane it has, an existing framebuffer on
the buffer of the newest frame that landed, whatever the other displays did since; the other
displays show nothing, and the planes no display has show nothing. A frame lands when its
framebuffer is made and named in the request and the kernel accepts that request. -/
theorem onscreen {s : Session} (h : Fresh s) {calls : List Call}
    (hwhole : ∀ call ∈ calls, call.Whole)
    (hspares : Meets (noting noteFrame sessionStep) CallSpares (s, fun _ => .dark) calls) :
    OnScreen (s.screenAfter calls).1 (s.screenAfter calls).2 := by
  have hrun : Post (run (noting noteFrame sessionStep) calls) (s, fun _ => .dark)
      (fun _ x => Scan x.2 x.1 ∧ x.1.drm.Kept) (fun _ x => OnScreen x.1 x.2) := by
    refine run_post (C := fun x call => CallSpares x call ∧ call.Whole) ?_ ⟨h.scan, h.kept⟩
      (hspares.and_mem hwhole)
    rintro x call ⟨hscan, hkept⟩ ⟨hsp, hw⟩
    rw [post_noting]
    refine (hscan.sessionStep hkept hw).mono ?_ ?_
    · exact fun _ s' hs => ⟨hs.2 hsp, hs.1.2 hsp⟩
    · exact fun _ s' hs => (hs.2 hsp).onScreen
  exact (hrun.mono (fun _ _ hs => hs.1.onScreen) (fun _ _ he => he)).after

/-! ## Two displays -/

instance (w : World) (a : FrameAnswers) (φ : Outputs.Phase Framebuffer) :
    Decidable (w.Spares a φ) :=
  inferInstanceAs (Decidable (_ → _ → _))

instance (x : Session × (Nat → Outputs.Phase Framebuffer)) (call : Call) :
    Decidable (CallSpares x call) :=
  match hframe : x.1.frame call with
  | none => .isTrue fun f hf => absurd (hframe.symm.trans hf) (by simp)
  | some f => decidable_of_iff (f.2.1.Spares f.2.2 (x.2 f.1))
      ⟨fun h f' hf' => by cases hframe.symm.trans hf'; exact h, fun h => h f hframe⟩

instance : (call : Call) → Decidable call.Whole
  | .display _ (.pushFirstFrame a) =>
      inferInstanceAs (Decidable ((a.frame.plane 0).addProperty .fbId = true → _ = true))
  | .display _ (.commit _ a _) =>
      inferInstanceAs (Decidable ((a.plane 0).addProperty .fbId = true → _ = true))
  | .display _ (.setDisplayClientBuffer ..) | .display _ (.setDisplayMode ..)
  | .display _ .prepareDisplayLayers | .display _ (.createLayer ..) | .display _ (.closeLayer ..)
  | .display _ (.setLayerBuffer ..) | .display _ (.getDisplayReleaseFence ..)
  | .display _ (.setDisplayPowerStatus ..) | .display _ (.setDisplayBacklight ..) | .clientFd .. =>
      .isTrue trivial

/-- Two displays, each with a plane of its own and one mode. -/
def twoDisplays : Session where
  drm := ⟨3, fun _ => none, [], [], fun _ => none, 0, []⟩
  device :=
    { planes := fun q => { mWinType := if q = 31 then 1 else 2, mCrtcId := 0 }
      modes := fun _ => { mActiveModeId := 0 } }
  requests := 0
  mHdiDisplays := fun devId =>
    if devId = 0 then
      some { mCrtc := ⟨51, 0, 1⟩, mConnectorId := 71, mPlanes := [31, 32]
             mModes := [(0, { hdisplay := 1920, vdisplay := 1080 })], mPropBrightnessId := 9 }
    else if devId = 1 then
      some { mCrtc := ⟨52, 1, 2⟩, mConnectorId := 72, mPlanes := [31, 32]
             mModes := [(0, { hdisplay := 1280, vdisplay := 720 })] }
    else none

theorem fresh_twoDisplays : Fresh twoDisplays where
  sound := ⟨fun _ _ => rfl, by decide, by simp [twoDisplays], by simp [twoDisplays]⟩
  keyed := List.nodup_nil
  kept := fun _ => trivial
  idle := fun _ => rfl
  blank := fun _ => rfl
  pipes := by
    intro devId devId' disp disp' h h' hbit
    simp only [twoDisplays] at h h'
    split at h <;> split at h'
    · next h₀ h₁ => rw [h₀, h₁]
    · split at h'
      · cases h
        cases h'
        exact absurd hbit (by decide)
      · exact absurd h' (by simp)
    · split at h
      · cases h
        cases h'
        exact absurd hbit (by decide)
      · exact absurd h (by simp)
    · split at h <;> split at h'
      · next h₀ h₁ => rw [h₀, h₁]
      · exact absurd h' (by simp)
      · exact absurd h (by simp)
      · exact absurd h (by simp)
  layers := by
    intro devId disp h
    simp only [twoDisplays] at h
    split at h
    · cases h
      exact ⟨rfl, rfl, Or.inl rfl, by simp⟩
    · split at h
      · cases h
        exact ⟨rfl, rfl, Or.inl rfl, by simp⟩
      · exact absurd h (by simp)

/-- A frame whose framebuffer is to get the id `fb` and whose fence the descriptor `fence`. -/
def frameAnswers (fb : Nat) (rmFB : Bool) (fence : Option Int) : FrameAnswers where
  plane := fun _ => { prime := ⟨some 1, some fb⟩, drop := { rmFB } }
  atomicCommit := fence

/-- A first frame in the dma-buf `dmaBuf` under the descriptor `fd`, with its duplicate. -/
def firstFrame (fd : Int) (dmaBuf : Nat) (stride copy : Int) (frame : FrameAnswers) :
    FirstFrameAnswers where
  gralloc := { openFd := some 5 }
  allocMem := some (fd, dmaBuf, stride)
  dup := ⟨some copy, none⟩
  frame := frame

/-- The second frame of display `0` is refused, its third lands. The third frame of display
`1` is accepted without a framebuffer, so it does not land. -/
def refusedFrame (rmFB : Bool) : List Call :=
  [.display 0 (.pushFirstFrame (firstFrame 10 100 7680 20 (frameAnswers 61 true (some 40)))),
    .display 1 (.pushFirstFrame (firstFrame 11 200 5120 21 (frameAnswers 62 true (some 41)))),
    .display 0 (.commit true (frameAnswers 63 true none) (some 42)),
    .clientFd 12 (some (.dmaBuf 300)),
    .display 1 (.setDisplayClientBuffer (some ⟨12, 1280, 720, 1280, 24, 0⟩) (-1) ⟨some 22, none⟩),
    .display 1 (.commit true (frameAnswers 64 true (some 43)) none),
    .display 0 (.commit true (frameAnswers 65 rmFB (some 44)) none),
    .display 1 (.commit true { plane := fun _ => { prime := ⟨some 1, none⟩ }, atomicCommit := some 45 }
      none)]

theorem scanout_iff_refused : Meets sessionStep CallKeeps twoDisplays (refusedFrame false) ∧
    ¬ Meets sessionStep CallKeeps twoDisplays (refusedFrame true) :=
  ⟨(scanout_iff fresh_twoDisplays (by decide)).2 (by decide +kernel),
    fun h => absurd ((scanout_iff fresh_twoDisplays (by decide)).1 h) (by decide +kernel)⟩

theorem onscreen_refused :
    OnScreen (twoDisplays.screenAfter (refusedFrame false)).1
        (twoDisplays.screenAfter (refusedFrame false)).2 ∧
      ((twoDisplays.screenAfter (refusedFrame false)).2 0).content =
        some ⟨100, 1920, 1080, .argb8888, 7680⟩ ∧
      ((twoDisplays.screenAfter (refusedFrame false)).2 1).content =
        some ⟨300, 1280, 720, .nv12, 1280⟩ :=
  ⟨onscreen fresh_twoDisplays (by decide) (by decide +kernel), by decide +kernel⟩

end QemuHal.Common.Frame
