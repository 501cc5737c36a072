import QemuHal.Common.Mirror
import QemuHal.Drm.Screen
import QemuHal.Lib.Outputs

/-!
# The screen of the common HAL

A session seen as `Outputs`: each display owns the two `DrmGemBuffer` objects made for its
client layer last, and shows a framebuffer on the plane bound to its pipe. `Scan` is the
invariant that the steps of a frame keep: a buffer is made (`Scan.rotate`), a plane is bound
(`Scan.bind`), a request takes effect (`Scan.committed`).
-/

namespace QemuHal.Common.Frame

open Exec

/-! ## A frame as far as the screen sees it -/

/-- The plane that `FindPlaneAndApply` takes. -/
def DrmDisplay.chosen (disp : DrmDisplay) (device : Planes.DrmDevice) : Option Nat :=
  disp.mPlanes.find? fun plane => disp.mCrtc.takes (device.planes plane)

/-- `UpdateMode` succeeds. -/
def World.modeUpdated (w : World) (a : FrameAnswers) : Bool :=
  !(w.device.modes w.disp.mCrtc.mId).mNeedModeSet ||
    match a.modeBlock with
    | none => true
    | some blob => (w.disp.modeRequest a blob).1 && a.modeCommit

/-- `Apply` comes to `FindPlaneAndApply`. -/
def World.reaches (w : World) (a : FrameAnswers) : Bool :=
  w.modeUpdated a && decide (w.disp.mCompLayers.length ≤ w.disp.mPlanes.length) && a.atomicAlloc &&
    a.outFencePtr

/-- The buffer for which `FindPlaneAndApply` makes a `DrmGemBuffer`, and the plane that is to
show it. -/
def World.offered (w : World) (a : FrameAnswers) : Option (Nat × HdiLayerBuffer) :=
  if w.disp.mCompLayers = [] then none
  else
    (w.disp.chosen w.device).bind fun plane => w.disp.mClientLayer.mHdiBuffer.bind fun buf =>
      if (Planes.planeProperties w.disp.mClientLayer.toComp plane (w.device.planes plane) buf.mWidth
        buf.mHeight).all fun e => (a.plane 0).addProperty e.prop then some (plane, buf) else none

/-- The buffer for which the frame makes a `DrmGemBuffer`. -/
def World.taken (w : World) (a : FrameAnswers) : Option (Nat × HdiLayerBuffer) :=
  if w.reaches a then w.offered a else none

/-- The kernel accepts a commit. -/
def accepts (d : Drm) (answer : Option Int) : Bool :=
  match answer with
  | none => false
  | some n => decide (0 ≤ n ∧ d.fds n = none)

/-- What the display shows if the frame that takes `buf` lands: its framebuffer is made and
named in the request, and the kernel accepts the request. A request without the framebuffer may
be accepted too, and shows nothing. -/
def World.landed (w : World) (a : FrameAnswers) (buf : HdiLayerBuffer) : Option Framebuffer :=
  if (a.plane 0).addProperty .fbId && a.addProperty .crtcId && a.addProperty .active &&
    accepts w.drm a.atomicCommit then w.drm.makes buf (a.plane 0).prime (mDrmFormat buf) else none

/-- What a frame makes of what the display shows. -/
def World.next (w : World) (a : FrameAnswers) (φ : Outputs.Phase Framebuffer) :
    Outputs.Phase Framebuffer :=
  match w.taken a with
  | none => φ
  | some (_, buf) =>
      match w.landed a buf with
      | none => φ.age
      | some c => .shown c

/-- The framebuffer of the older object is not removed while the display shows it. -/
def World.Spares (w : World) (a : FrameAnswers) (φ : Outputs.Phase Framebuffer) : Prop :=
  (w.taken a).isSome = true → φ.isFading = true → (a.plane 0).drop.rmFB = false

/-- When `FB_ID` is added, so is the `CRTC_ID` that follows it. -/
def FrameAnswers.Whole (a : FrameAnswers) : Prop :=
  (a.plane 0).addProperty .fbId = true → (a.plane 0).addProperty .crtcId = true

/-- The world and the answers of the `Apply` that an operation comes to. -/
def Op.frame (op : Op) (w : World) : Option (World × FrameAnswers) :=
  match op with
  | .pushFirstFrame a =>
      match firstBuffer a w with
      | .ok (some buffer) w =>
          let (_, l, d) := w.disp.mClientLayer.setLayerBuffer w.drm (some buffer) (-1) a.dup
          let w := (w.setDrm d).setClient l
          some ({ w with disp := { w.disp with mCompLayers := [.client] } }, a.frame)
      | _ => none
  | .commit true a _ => some (w, a)
  | _ => none

/-- The frame of a call. -/
def Session.frame (s : Session) : Call → Option (Nat × World × FrameAnswers)
  | .display devId op =>
      (s.mHdiDisplays devId).bind fun disp => (op.frame (s.world disp)).map fun f => (devId, f)
  | .clientFd .. => none

/-- What the displays show after a call. -/
def noteFrame (s : Session) (φ : Nat → Outputs.Phase Framebuffer) (call : Call) :
    Nat → Outputs.Phase Framebuffer :=
  match s.frame call with
  | none => φ
  | some (devId, w, a) => Function.update φ devId (w.next a (φ devId))

/-- The frame of a call spares what is on the display. -/
def CallSpares (s : Session × (Nat → Outputs.Phase Framebuffer)) (call : Call) : Prop :=
  ∀ f, s.1.frame call = some f → f.2.1.Spares f.2.2 (s.2 f.1)

def Call.Whole (call : Call) : Prop :=
  match call with
  | .display _ (.pushFirstFrame a) => a.frame.Whole
  | .display _ (.commit _ a _) => a.Whole
  | _ => True

/-! ## What a request asks of a plane -/

/-- The framebuffer a request puts on a plane. -/
def asked (pset : Planes.AtomicReq) (q : Nat) : Option Int := (recorded pset).lookup (.plane q) .fbId

theorem asked_nil (q : Nat) : asked [] q = none := rfl

theorem asked_cons (e : Planes.PropValue) (pset : Planes.AtomicReq) (q : Nat) :
    asked (e :: pset) q =
      if e.obj = .plane q ∧ e.prop = .fbId then some e.value else asked pset q := by
  unfold asked recorded AtomicReq.lookup
  rw [List.filterMap_cons]
  obtain ⟨obj, prop, value⟩ := e
  cases prop <;> simp [recordedProp, values_cons]
  by_cases hobj : obj = .plane q
  · rw [if_pos hobj, if_pos hobj]
    rfl
  · rw [if_neg hobj, if_neg hobj]

theorem asked_append {es pset : Planes.AtomicReq} {q : Nat}
    (h : ∀ e ∈ es, ¬ (e.obj = .plane q ∧ e.prop = .fbId)) : asked (es ++ pset) q = asked pset q := by
  induction es with
  | nil => rfl
  | cons e es ih =>
      rw [List.cons_append, asked_cons, if_neg (h e List.mem_cons_self)]
      exact ih fun e' he' => h e' (List.mem_cons_of_mem _ he')

/-- Entries in front that turn planes off. -/
theorem asked_zeros {es pset : Planes.AtomicReq} {q : Nat} (hvalue : ∀ e ∈ es, e.value = 0)
    (hmem : ∃ e ∈ es, e.obj = .plane q ∧ e.prop = .fbId) : asked (es ++ pset) q = some 0 := by
  induction es with
  | nil =>
      obtain ⟨e, he, -⟩ := hmem
      exact absurd he List.not_mem_nil
  | cons e es ih =>
      rw [List.cons_append, asked_cons]
      split
      · rw [hvalue e List.mem_cons_self]
      · next hne =>
          refine ih (fun e' he' => hvalue e' (List.mem_cons_of_mem _ he')) ?_
          obtain ⟨e', he', hp⟩ := hmem
          rcases List.mem_cons.1 he' with rfl | he'
          · exact absurd hp hne
          · exact ⟨e', he', hp⟩

/-- Nothing that is added names a framebuffer. -/
theorem asked_addProperties {ok : Planes.PropName → Bool} {pset pset' : Planes.AtomicReq}
    {es : List Planes.PropValue} {done : Bool} (h : Planes.addProperties ok pset es = (done, pset'))
    (hes : ∀ e ∈ es, e.prop ≠ .fbId) (q : Nat) : asked pset' q = asked pset q := by
  obtain ⟨es', heq, hsub⟩ := Planes.addProperties_spec ok es pset
  rw [h] at heq
  obtain ⟨-, rfl⟩ := Prod.mk.inj heq
  exact asked_append fun e he hp => hes e (hsub he) hp.2

/-! ## The session as outputs -/

/-- The displays as outputs. -/
def Session.outputs (s : Session) : Outputs.State Nat Nat Nat Int Framebuffer where
  current devId := (s.mHdiDisplays devId).bind fun disp => disp.mClientLayer.mCurrentBuffer
  last devId := (s.mHdiDisplays devId).bind fun disp => disp.mClientLayer.mLastBuffer
  fb gem := s.drm.fbOf gem
  content := s.drm.content
  shown q := shownFb q s.drm.log
  drives devId q := ∃ disp, s.mHdiDisplays devId = some disp ∧
    (s.device.planes q).mPipe = disp.mCrtc.bit

/-- Only the client layer gets `DrmGemBuffer` objects, and only it is composed. -/
structure DrmDisplay.Tidy (disp : DrmDisplay) : Prop where
  layers : disp.mCompLayers = [] ∨ disp.mCompLayers = [.client]
  bare : ∀ id l, disp.mLayersMap id = some l → l.mCurrentBuffer = none ∧ l.mLastBuffer = none

structure Scan (φ : Nat → Outputs.Phase Framebuffer) (s : Session) : Prop where
  outputs : Outputs.Inv φ s.outputs
  sound : s.drm.Sound
  keyed : s.drm.Keyed
  alive : ∀ devId gem, s.outputs.current devId = some gem ∨ s.outputs.last devId = some gem →
    gem < s.drm.nextGem
  pipes : ∀ devId devId' disp disp', s.mHdiDisplays devId = some disp →
    s.mHdiDisplays devId' = some disp' → disp.mCrtc.bit = disp'.mCrtc.bit → devId = devId'
  /-- The plane of a display is the one it takes for the next frame. -/
  chosen : ∀ devId disp q, s.mHdiDisplays devId = some disp →
    (s.device.planes q).mPipe = disp.mCrtc.bit → disp.chosen s.device = some q
  bound : ∀ q, (s.device.planes q).mPipe ≠ 0 → ∃ devId, s.outputs.drives devId q
  tidy : ∀ devId disp, s.mHdiDisplays devId = some disp → disp.Tidy

section
variable {s : Session} {devId : Nat} {w w' : World} {φ : Nat → Outputs.Phase Framebuffer}

theorem Session.store_self (s : Session) (devId : Nat) (w : World) :
    (s.store devId w).mHdiDisplays devId = some w.disp := Function.update_self ..

theorem Session.store_other {e : Nat} (he : e ≠ devId) :
    (s.store devId w).mHdiDisplays e = s.mHdiDisplays e := Function.update_of_ne he ..

theorem Session.outputs_self (s : Session) (devId : Nat) (w : World) :
    (s.store devId w).outputs.current devId = w.disp.mClientLayer.mCurrentBuffer ∧
      (s.store devId w).outputs.last devId = w.disp.mClientLayer.mLastBuffer := by
  unfold outputs
  dsimp only
  rw [s.store_self]
  exact ⟨rfl, rfl⟩

theorem Session.outputs_other {e : Nat} (he : e ≠ devId) :
    (s.store devId w).outputs.current e = s.outputs.current e ∧
      (s.store devId w).outputs.last e = s.outputs.last e := by
  unfold outputs
  dsimp only
  rw [s.store_other he]
  exact ⟨rfl, rfl⟩

theorem Session.drives_self (s : Session) (devId : Nat) (w : World) (q : Nat) :
    (s.store devId w).outputs.drives devId q ↔ (w.device.planes q).mPipe = w.disp.mCrtc.bit := by
  unfold outputs
  dsimp only
  rw [s.store_self]
  constructor
  · rintro ⟨disp, hdisp, hq⟩
    cases hdisp
    exact hq
  · exact fun hq => ⟨w.disp, rfl, hq⟩

theorem Session.drives_other {e : Nat} (he : e ≠ devId) (q : Nat) :
    (s.store devId w).outputs.drives e q ↔
      ∃ disp, s.mHdiDisplays e = some disp ∧ (w.device.planes q).mPipe = disp.mCrtc.bit := by
  unfold outputs
  dsimp only
  rw [s.store_other he]
  rfl

/-- A plane of no pipe is free. -/
theorem Session.free {q : Nat} (hq : (s.device.planes q).mPipe = 0) (e : Nat) :
    ¬ s.outputs.drives e q := by
  rintro ⟨disp, -, hbit⟩
  exact disp.mCrtc.bit_ne_zero (hbit.symm.trans hq)

/-- What no operation changes of a display. -/
structure DrmDisplay.Keeps (disp disp' : DrmDisplay) : Prop where
  mCrtc : disp'.mCrtc = disp.mCrtc
  mPlanes : disp'.mPlanes = disp.mPlanes
  tidy : disp.Tidy → disp'.Tidy

theorem DrmDisplay.Keeps.refl (disp : DrmDisplay) : disp.Keeps disp := ⟨rfl, rfl, id⟩

theorem DrmDisplay.Keeps.store (h : w.disp.Keeps w'.disp) {e : Nat} {x' : DrmDisplay}
    (hx' : (s.store devId w').mHdiDisplays e = some x') :
    ∃ x, (s.store devId w).mHdiDisplays e = some x ∧ x.Keeps x' := by
  by_cases he : e = devId
  · rw [he, s.store_self] at hx'
    cases hx'
    exact ⟨w.disp, by rw [he, s.store_self], h⟩
  · rw [Session.store_other he] at hx'
    exact ⟨x', by rw [Session.store_other he]; exact hx', .refl x'⟩

/-- What a step of an operation has to keep beside the displays themselves. -/
theorem Scan.step {φ' : Nat → Outputs.Phase Framebuffer} (hs : Scan φ (s.store devId w))
    (hdisp : w.disp.Keeps w'.disp) (houtputs : Outputs.Inv φ' (s.store devId w').outputs)
    (hsound : w'.drm.Sound) (hkeyed : w'.drm.Keyed)
    (halive : ∀ e gem, (s.store devId w').outputs.current e = some gem ∨
      (s.store devId w').outputs.last e = some gem → gem < w'.drm.nextGem)
    (hchosen : ∀ e x q, (s.store devId w).mHdiDisplays e = some x →
      (w'.device.planes q).mPipe = x.mCrtc.bit → x.chosen w'.device = some q)
    (hbound : ∀ q, (w'.device.planes q).mPipe ≠ 0 → ∃ e, (s.store devId w').outputs.drives e q) :
    Scan φ' (s.store devId w') where
  outputs := houtputs
  sound := hsound
  keyed := hkeyed
  alive := halive
  pipes := by
    intro e e' y y' hy hy' hbit
    obtain ⟨x, hx, hk⟩ := hdisp.store hy
    obtain ⟨x', hx', hk'⟩ := hdisp.store hy'
    rw [hk.mCrtc, hk'.mCrtc] at hbit
    exact hs.pipes e e' x x' hx hx' hbit
  chosen := by
    intro e y q hy hq
    obtain ⟨x, hx, hk⟩ := hdisp.store hy
    rw [hk.mCrtc] at hq
    have h := hchosen e x q hx hq
    unfold DrmDisplay.chosen at h ⊢
    rw [hk.mPlanes, hk.mCrtc]
    exact h
  bound := hbound
  tidy := by
    intro e y hy
    obtain ⟨x, hx, hk⟩ := hdisp.store hy
    exact hk.tidy (hs.tidy e x hx)

/-! ## Changes that do not reach the screen -/

/-- Neither the objects of the client layer nor the planes change. -/
structure World.Quiet (w w' : World) : Prop where
  unseen : w.drm.Unseen w'.drm
  planes : w'.device.planes = w.device.planes
  disp : w.disp.Keeps w'.disp
  current : w'.disp.mClientLayer.mCurrentBuffer = w.disp.mClientLayer.mCurrentBuffer
  last : w'.disp.mClientLayer.mLastBuffer = w.disp.mClientLayer.mLastBuffer

namespace World.Quiet

theorem refl (w : World) : Quiet w w := ⟨.refl _, rfl, .refl _, rfl, rfl⟩

theorem trans {w'' : World} (h : Quiet w w') (h' : Quiet w' w'') : Quiet w w'' where
  unseen := h.unseen.trans h'.unseen
  planes := h'.planes.trans h.planes
  disp := ⟨h'.disp.mCrtc.trans h.disp.mCrtc, h'.disp.mPlanes.trans h.disp.mPlanes,
    fun ht => h'.disp.tidy (h.disp.tidy ht)⟩
  current := h'.current.trans h.current
  last := h'.last.trans h.last

theorem setDrm {d : Drm} (hd : w.drm.Unseen d) : Quiet w (w.setDrm d) :=
  ⟨hd, rfl, .refl _, rfl, rfl⟩

theorem outputs (h : Quiet w w') (s : Session) (devId : Nat) :
    (s.store devId w').outputs = (s.store devId w).outputs := by
  have hown : ∀ e, (s.store devId w').outputs.current e = (s.store devId w).outputs.current e ∧
      (s.store devId w').outputs.last e = (s.store devId w).outputs.last e := by
    intro e
    by_cases he : e = devId
    · rw [he, (s.outputs_self devId w').1, (s.outputs_self devId w').2, (s.outputs_self devId w).1,
        (s.outputs_self devId w).2]
      exact ⟨h.current, h.last⟩
    · rw [(Session.outputs_other he).1, (Session.outputs_other he).2, (Session.outputs_other he).1,
        (Session.outputs_other he).2]
      exact ⟨rfl, rfl⟩
  have hdrives : ∀ e q, (s.store devId w').outputs.drives e q ↔
      (s.store devId w).outputs.drives e q := by
    intro e q
    by_cases he : e = devId
    · rw [he, s.drives_self, s.drives_self, h.planes, h.disp.mCrtc]
    · rw [Session.drives_other he, Session.drives_other he, h.planes]
  have heq : ∀ o o' : Outputs.State Nat Nat Nat Int Framebuffer, o.current = o'.current →
      o.last = o'.last → o.fb = o'.fb → o.content = o'.content → o.shown = o'.shown →
      o.drives = o'.drives → o = o' := by
    rintro ⟨⟩ ⟨⟩ rfl rfl rfl rfl rfl rfl
    rfl
  refine heq _ _ (funext fun e => (hown e).1) (funext fun e => (hown e).2) ?_ ?_ ?_ ?_
  · exact funext fun gem => congrArg _ (h.unseen.fbOf gem)
  · exact funext fun fb => h.unseen.content fb
  · exact funext fun q => h.unseen.shown q
  · exact funext fun e => funext fun q => propext (hdrives e q)

theorem scan (h : Quiet w w') (hs : Scan φ (s.store devId w)) : Scan φ (s.store devId w') := by
  refine hs.step h.disp ?_ (h.unseen.sound hs.sound) (h.unseen.keyed hs.keyed) ?_ ?_ ?_
  · rw [h.outputs]
    exact hs.outputs
  · rw [h.outputs]
    intro e gem hgem
    exact lt_of_lt_of_eq (hs.alive e gem hgem) h.unseen.nextGem.symm
  · intro e x q hx hq
    rw [h.planes] at hq
    have hchosen := hs.chosen e x q hx hq
    unfold DrmDisplay.chosen at hchosen ⊢
    rw [h.planes]
    exact hchosen
  · intro q hq
    rw [h.outputs]
    rw [h.planes] at hq
    exact hs.bound q hq

end World.Quiet

/-! ## `GetGemBuffer` -/

section
variable {buf : HdiLayerBuffer} {a : PlaneAnswers}

/-- The framebuffer that the destructor in `GetGemBuffer` removes; `0` when it removes none. -/
def World.gone (w : World) (buf : HdiLayerBuffer) (a : PlaneAnswers) : Nat :=
  (w.drm.newGem buf a.prime (mDrmFormat buf)).2.drops w.disp.mClientLayer.mLastBuffer a.drop

theorem World.rotate_drm (w : World) (buf : HdiLayerBuffer) (a : PlaneAnswers) :
    (w.rotate buf a).drm =
      (w.drm.newGem buf a.prime (mDrmFormat buf)).2.destroyOwned
        w.disp.mClientLayer.mLastBuffer a.drop := rfl

theorem World.rotate_kept (w : World) (buf : HdiLayerBuffer) (a : PlaneAnswers) (q : Nat) :
    FbKept q (w.rotate buf a).drm.log ↔
      FbKept q w.drm.log ∧ (w.gone buf a ≠ 0 → shownFb q w.drm.log ≠ w.gone buf a) := by
  have hshown : shownFb q (w.drm.newGem buf a.prime (mDrmFormat buf)).2.log =
      shownFb q w.drm.log := by
    unfold shownFb
    rw [Drm.newGem_commits]
  rw [w.rotate_drm,
    ((w.drm.newGem buf a.prime (mDrmFormat buf)).2.destroyOwned_dropped _ a.drop).kept q,
    Drm.newGem_kept, hshown]
  rfl

/-- The object that goes is not the new one. -/
theorem Scan.last_ne (h : Scan φ (s.store devId w)) {gem : Nat}
    (hlast : w.disp.mClientLayer.mLastBuffer = some gem) : gem ≠ w.drm.nextGem := by
  have hlt := h.alive devId gem (Or.inr ((s.outputs_self devId w).2.trans hlast))
  exact Nat.ne_of_lt hlt

theorem Scan.gone_eq (h : Scan φ (s.store devId w)) {gem : Nat}
    (hlast : w.disp.mClientLayer.mLastBuffer = some gem) :
    w.gone buf a = if a.drop.rmFB then w.drm.fbOf gem else 0 := by
  have hsound : w.drm.Sound := h.sound
  unfold World.gone
  rw [hlast, (hsound.newGem buf a.prime (mDrmFormat buf)).drops_eq,
    Drm.newGem_fbOf_other (h.last_ne hlast)]

/-- What is removed is on no plane, unless the display is fading. -/
theorem Scan.gone_iff (h : Scan φ (s.store devId w)) :
    (w.gone buf a ≠ 0 → ∀ q, shownFb q w.drm.log ≠ w.gone buf a) ↔
      ((φ devId).isFading = true → a.drop.rmFB = false) := by
  have hown := (s.outputs_self devId w).2
  cases hlast : w.disp.mClientLayer.mLastBuffer with
  | none =>
      have hgone : w.gone buf a = 0 := by
        unfold World.gone
        rw [hlast]
        rfl
      have hφ := h.outputs.not_fading fun b hb => by
        rw [hown, hlast] at hb
        exact absurd hb (by simp)
      rw [hgone, hφ]
      simp
  | some gem =>
      rw [h.gone_eq hlast]
      by_cases hne : w.drm.fbOf gem = 0
      · have hφ := h.outputs.not_fading fun b hb => by
          rw [hown, hlast] at hb
          cases hb
          exact Int.natCast_eq_zero.2 hne
        rw [hne, hφ, ite_self]
        simp
      · have hspare := h.outputs.spare_iff (b := gem) (hown.trans hlast)
          (Int.natCast_ne_zero.2 hne)
        cases hrm : a.drop.rmFB with
        | false => simp
        | true =>
            rw [if_pos rfl]
            constructor
            · intro hq hfading
              rw [hspare.1 (hq hne)] at hfading
              exact absurd hfading (by simp)
            · intro hφ _
              refine hspare.2 (Bool.eq_false_iff.2 fun hb => ?_)
              exact absurd (hφ hb) (by simp)

/-- A buffer is made. -/
theorem Scan.rotates (h : Scan φ (s.store devId w)) :
    Outputs.Rotates (s.store devId w).outputs (s.store devId (w.rotate buf a)).outputs devId
      w.drm.nextGem ((w.drm.newGemBuffer buf a.prime (mDrmFormat buf)).mFdId : Int)
      (w.drm.makes buf a.prime (mDrmFormat buf))
      (w.gone buf a : Int) where
  current := by
    funext e
    rw [Function.update_apply]
    split
    · next he =>
        rw [he, (s.outputs_self devId _).1]
        rfl
    · next he => rw [(Session.outputs_other he).1, (Session.outputs_other he).1]
  last := by
    funext e
    rw [Function.update_apply]
    split
    · next he =>
        rw [he, (s.outputs_self devId _).2, (s.outputs_self devId _).1]
        rfl
    · next he => rw [(Session.outputs_other he).2, (Session.outputs_other he).2]
  fb := by
    intro gem
    rw [(s.outputs_self devId w).2]
    have hfb : (s.store devId (w.rotate buf a)).outputs.fb gem = ((w.rotate buf a).drm.fbOf gem : Int) := rfl
    rw [hfb, w.rotate_drm, Drm.destroyOwned_fbOf]
    by_cases hlast : w.disp.mClientLayer.mLastBuffer = some gem
    · rw [if_pos hlast, if_pos hlast]
      rfl
    · rw [if_neg hlast, if_neg hlast]
      by_cases hgem : gem = w.drm.nextGem
      · rw [if_pos hgem, hgem]
        unfold Drm.fbOf
        rw [Drm.newGem_gems, Function.update_self]
      · rw [if_neg hgem, Drm.newGem_fbOf_other hgem]
        rfl
  content := by
    intro g hg
    have hcontent : (s.store devId (w.rotate buf a)).outputs.content g =
      (w.rotate buf a).drm.content g := rfl
    rw [hcontent, w.rotate_drm, (Drm.destroyOwned_dropped _ _ _).content g hg]
    have hnew : (w.drm.newGem buf a.prime (mDrmFormat buf)).2.content g =
        if g = (w.drm.newGemBuffer buf a.prime (mDrmFormat buf)).mFdId
        then w.drm.makes buf a.prime (mDrmFormat buf)
        else w.drm.content g := by
      cases hmakes : w.drm.makes buf a.prime (mDrmFormat buf) with
      | some c => exact Drm.content_cons (Drm.newGem_some h.sound h.keyed hmakes).2.2 g
      | none =>
          obtain ⟨hz, hfbs⟩ := Drm.newGem_none hmakes
          rw [hz, if_neg (by simpa using hg)]
          unfold Drm.content
          rw [hfbs]
    rw [hnew]
    rfl
  shown := by
    funext q
    have hshown : shownFb q (w.rotate buf a).drm.log = shownFb q w.drm.log := by
      unfold shownFb
      rw [w.rotate_drm, (Drm.destroyOwned_frame _ _ _).2.2.2, Drm.newGem_commits]
    exact hshown
  drives := by
    funext e q
    by_cases he : e = devId
    · rw [he, eq_iff_iff, s.drives_self, s.drives_self]
      rfl
    · rw [eq_iff_iff, Session.drives_other he, Session.drives_other he]
      rfl

/-- What the display shows is one buffer older. -/
theorem Scan.rotate (h : Scan φ (s.store devId w))
    (hspare : (φ devId).isFading = true → a.drop.rmFB = false) :
    Scan (Function.update φ devId (φ devId).age) (s.store devId (w.rotate buf a)) := by
  have hsound : w.drm.Sound := h.sound
  have hrot : Outputs.Rotates _ (s.store devId (w.rotate buf a)).outputs devId _ _ _ _ := h.rotates
  have hnext : (w.rotate buf a).drm.nextGem = w.drm.nextGem + 1 := by
    rw [w.rotate_drm, (Drm.destroyOwned_frame _ _ _).2.2.1, Drm.newGem_nextGem]
  have hold : ∀ e gem, (s.store devId w).outputs.current e = some gem ∨
      (s.store devId w).outputs.last e = some gem → gem ≠ w.drm.nextGem :=
    fun e gem hgem => Nat.ne_of_lt (h.alive e gem hgem)
  refine h.step ⟨rfl, rfl, fun ht => ⟨ht.layers, ht.bare⟩⟩ ?_ ?_ ?_ ?_ ?_ ?_
  · refine h.outputs.rotate hrot (fun e he => hold e _ (Or.inl he) rfl)
      (fun e he => hold e _ (Or.inr he) rfl) ?_ ?_
    · intro hf
      obtain ⟨hcontent, hfb⟩ := hsound.newGem_fresh (Int.natCast_ne_zero.1 hf)
      exact ⟨hcontent, fun x he => hfb x (Int.natCast_inj.1 he)⟩
    · exact fun hgone => h.gone_iff.2 hspare (Int.natCast_ne_zero.1 hgone)
  · rw [w.rotate_drm]
    exact (hsound.newGem buf a.prime (mDrmFormat buf)).destroyOwned _ _
  · rw [w.rotate_drm]
    exact (Drm.destroyOwned_dropped _ _ _).keyed
      (Drm.Keyed.newGem h.keyed buf a.prime (mDrmFormat buf))
  · intro e gem hgem
    rw [hnext]
    rw [hrot.current, hrot.last, Function.update_apply, Function.update_apply] at hgem
    by_cases he : e = devId
    · rw [if_pos he, if_pos he] at hgem
      rcases hgem with hgem | hgem
      · cases hgem
        exact Nat.lt_succ_self _
      · exact Nat.lt_succ_of_lt (h.alive devId gem (Or.inl hgem))
    · rw [if_neg he, if_neg he] at hgem
      exact Nat.lt_succ_of_lt (h.alive e gem hgem)
  · exact fun e x q hx hq => h.chosen e x q hx hq
  · intro q hq
    rw [hrot.drives]
    exact h.bound q hq

/-! ## `BindToPipe` -/

/-- The plane a display takes is bound to its pipe. -/
def World.bind (w : World) (plane : Nat) : World :=
  { w with device := w.device.bindToPipe plane w.disp.mCrtc.bit }

theorem World.bind_drm (w : World) (plane : Nat) : (w.bind plane).drm = w.drm := rfl

theorem World.bind_self (w : World) (plane : Nat) :
    ((w.bind plane).device.planes plane).mPipe = w.disp.mCrtc.bit := by
  unfold World.bind Planes.DrmDevice.bindToPipe
  dsimp only
  rw [Function.update_self]

theorem World.bind_other {plane q : Nat} (hq : q ≠ plane) :
    (w.bind plane).device.planes q = w.device.planes q := Function.update_of_ne hq ..

/-- A plane that another display has is not taken. -/
theorem chosen_pipe {disp : DrmDisplay} {device : Planes.DrmDevice} {plane : Nat}
    (h : disp.chosen device = some plane) :
    (device.planes plane).mPipe = 0 ∨ (device.planes plane).mPipe = disp.mCrtc.bit := by
  have htakes := List.find?_some (p := fun p => disp.mCrtc.takes (device.planes p)) h
  unfold Planes.DrmCrtc.takes at htakes
  simp only [Bool.and_eq_true, decide_eq_true_eq] at htakes
  exact htakes.1.1

/-- The others go on taking the planes they have. -/
theorem chosen_bind {disp : DrmDisplay} {plane q : Nat} (h : disp.chosen w.device = some q)
    (hbit : disp.mCrtc.bit ≠ w.disp.mCrtc.bit) (hne : q ≠ plane) :
    disp.chosen (w.bind plane).device = some q := by
  unfold DrmDisplay.chosen at h ⊢
  obtain ⟨htakes, before, after, heq, hbefore⟩ := List.find?_eq_some_iff_append.1 h
  refine List.find?_eq_some_iff_append.2 ⟨?_, before, after, heq, fun p hp => ?_⟩
  · rw [World.bind_other hne]
    exact htakes
  · by_cases hpp : p = plane
    · rw [hpp, Bool.not_eq_true']
      unfold Planes.DrmCrtc.takes
      rw [w.bind_self, decide_eq_false, Bool.false_and, Bool.false_and]
      rintro (hz | hb)
      · exact w.disp.mCrtc.bit_ne_zero hz
      · exact hbit hb.symm
    · rw [World.bind_other hpp]
      exact hbefore p hp

theorem Scan.bind (h : Scan φ (s.store devId w)) {plane : Nat}
    (hplane : w.disp.chosen w.device = some plane) : Scan φ (s.store devId (w.bind plane)) := by
  have hself : (s.store devId w).mHdiDisplays devId = some w.disp := s.store_self ..
  have hown : ∀ e, (s.store devId w).outputs.drives e plane → e = devId := by
    rintro e ⟨x, hx, hq⟩
    rcases chosen_pipe hplane with hz | hb
    · exact absurd (hq.symm.trans hz) x.mCrtc.bit_ne_zero
    · exact h.pipes e devId x w.disp hx hself (hq.symm.trans hb)
  have honly : ∀ p, (s.store devId w).outputs.drives devId p → p = plane := by
    intro p hp
    rw [s.drives_self] at hp
    exact Option.some.inj ((h.chosen devId w.disp p hself hp).symm.trans hplane)
  have hbinds : Outputs.Binds (s.store devId w).outputs (s.store devId (w.bind plane)).outputs
      devId plane := by
    refine ⟨rfl, rfl, rfl, rfl, rfl, fun e p => ?_⟩
    by_cases hp : p = plane
    · subst hp
      constructor
      · rintro ⟨x, hx, hq⟩
        refine Or.inr ⟨h.pipes e devId x w.disp hx hself ?_, rfl⟩
        rw [← hq]
        exact w.bind_self p
      · rintro (hq | ⟨he, -⟩)
        · rw [hown e hq, s.drives_self]
          exact w.bind_self p
        · rw [he, s.drives_self]
          exact w.bind_self p
    · have hsame : ((s.store devId (w.bind plane)).device.planes p) =
          ((s.store devId w).device.planes p) := World.bind_other hp
      constructor
      · rintro ⟨x, hx, hq⟩
        rw [hsame] at hq
        exact Or.inl ⟨x, hx, hq⟩
      · rintro (⟨x, hx, hq⟩ | ⟨-, hpp⟩)
        · exact ⟨x, hx, by rw [hsame]; exact hq⟩
        · exact absurd hpp hp
  refine h.step (.refl _) (h.outputs.bind hbinds hown honly) h.sound h.keyed
    (fun e gem hgem => h.alive e gem hgem) ?_ ?_
  · intro e x q hx hq
    by_cases hqp : q = plane
    · subst hqp
      rw [w.bind_self] at hq
      obtain rfl := h.pipes e devId x w.disp hx hself hq.symm
      rw [hself] at hx
      cases hx
      exact Planes.find_bound true hplane
    · rw [World.bind_other hqp] at hq
      have hchosen := h.chosen e x q hx hq
      refine chosen_bind hchosen (fun hbit => hqp ?_) hqp
      exact honly q ((s.drives_self devId w q).2 (hq.trans hbit))
  · intro q hq
    by_cases hqp : q = plane
    · exact ⟨devId, (hbinds.drives devId q).2 (Or.inr ⟨rfl, hqp⟩)⟩
    · rw [World.bind_other hqp] at hq
      obtain ⟨e, he⟩ := h.bound q hq
      exact ⟨e, (hbinds.drives e q).2 (Or.inl he)⟩

end

/-! ## The commit -/

theorem atomicCommit_refused {d : Drm} {answer : Option Int} (h : accepts d answer = false)
    (pset : AtomicReq) :
    d.atomicCommit pset answer =
      (none, { d with log := .atomicCommit pset (d.fbs.map Prod.fst) none :: d.log }) := by
  unfold Drm.atomicCommit
  cases answer with
  | none => rfl
  | some n => exact if_neg (of_decide_eq_false h)

theorem atomicCommit_accepted {d : Drm} {answer : Option Int} (h : accepts d answer = true)
    (pset : AtomicReq) :
    ∃ n fds, d.atomicCommit pset answer =
      (some n, { d with fds, log := .atomicCommit pset (d.fbs.map Prod.fst) (some n) :: d.log }) := by
  unfold Drm.atomicCommit
  cases answer with
  | none => exact absurd h (by simp [accepts])
  | some n => exact ⟨n, _, if_pos (of_decide_eq_true h)⟩

/-- The fence of a commit is put in place. -/
theorem setReleaseFences_quiet (fence : Int) (mCompLayers : List LayerRef) : ∀ w : World,
    Post (setReleaseFences fence mCompLayers) w (fun _ w' => w.Quiet w') (fun _ _ => False) := by
  induction mCompLayers with
  | nil => exact fun w => .refl w
  | cons p mCompLayers ih =>
      intro w
      cases p
      unfold setReleaseFences
      simp only [post_bind, post_get, post_set]
      refine (ih _).mono (fun _ w' hq => World.Quiet.trans ?_ hq) (fun _ _ he => he)
      refine ⟨Drm.Unseen.setFds ?_, rfl, ⟨rfl, rfl, fun ht => ⟨ht.layers, ht.bare⟩⟩, rfl, rfl⟩
      show ∃ fds, (if 0 ≤ w.disp.mClientLayer.mReleaseFence then
        w.drm.close w.disp.mClientLayer.mReleaseFence else w.drm) = { w.drm with fds := fds }
      split
      · exact ⟨_, rfl⟩
      · exact ⟨w.drm.fds, rfl⟩

theorem commitFrame_refused {pset : Planes.AtomicReq} {answer : Option Int}
    (h : accepts w.drm answer = false) :
    Post (commitFrame pset answer) w (fun _ w' => w.Quiet w') (fun _ _ => False) := by
  unfold commitFrame
  rw [post_bind, post_get, atomicCommit_refused h]
  exact .setDrm ⟨rfl, rfl, rfl, rfl, fun _ => rfl, fun _ => Iff.rfl⟩

/-- The world once a request has taken effect. -/
theorem commitFrame_accepted {pset : Planes.AtomicReq} {answer : Option Int}
    (h : accepts w.drm answer = true) :
    Post (commitFrame pset answer) w
      (fun _ w' => ∃ n fds, World.Quiet (w.setDrm { w.drm with
        fds, log := .atomicCommit (recorded pset) (w.drm.fbs.map Prod.fst) (some n) :: w.drm.log }) w')
      (fun _ _ => False) := by
  obtain ⟨n, fds, heq⟩ := atomicCommit_accepted h (recorded pset)
  unfold commitFrame
  simp only [post_bind, post_get, heq, post_set, post_pure]
  exact (setReleaseFences_quiet n _ _).mono (fun _ _ hq => ⟨n, fds, hq⟩) (fun _ _ he => he)

/-- No framebuffer is removed by a commit. -/
theorem commitFrame_kept (pset : Planes.AtomicReq) (answer : Option Int) :
    Post (commitFrame pset answer) w (fun _ w' => ∀ q, FbKept q w'.drm.log ↔ FbKept q w.drm.log)
      (fun _ _ => False) := by
  cases h : accepts w.drm answer with
  | false => exact (commitFrame_refused h).mono (fun _ _ hq => hq.unseen.kept) (fun _ _ he => he)
  | true =>
      refine (commitFrame_accepted h).mono ?_ (fun _ _ he => he)
      rintro - w' ⟨n, fds, hq⟩
      exact fun q => hq.unseen.kept q

theorem shows_committed (s : Session) (devId : Nat) (w : World) (pset : Planes.AtomicReq) (n : Int)
    (fds : Int → Option FdEntry) (fbs : List Nat) :
    Outputs.Shows (s.store devId w).outputs
      (s.store devId (w.setDrm { w.drm with
        fds, log := .atomicCommit (recorded pset) fbs (some n) :: w.drm.log })).outputs
      (asked pset) where
  current := rfl
  last := rfl
  fb := rfl
  content := rfl
  shown _ := rfl
  drives := rfl

/-- The display shows what the request puts on its plane. -/
theorem Scan.committed {φ' : Nat → Outputs.Phase Framebuffer} (h : Scan φ (s.store devId w))
    {pset : Planes.AtomicReq} {n : Int} {fds : Int → Option FdEntry} {fbs : List Nat}
    (hinv : Outputs.Inv φ' (s.store devId (w.setDrm { w.drm with
      fds, log := .atomicCommit (recorded pset) fbs (some n) :: w.drm.log })).outputs) :
    Scan φ' (s.store devId (w.setDrm { w.drm with
      fds, log := .atomicCommit (recorded pset) fbs (some n) :: w.drm.log })) := by
  refine h.step (.refl _) hinv ?_ h.keyed (fun e gem hgem => h.alive e gem hgem)
    (fun e x q hx hq => h.chosen e x q hx hq) (fun q hq => h.bound q hq)
  exact ⟨h.sound.unallocated, h.sound.handles, h.sound.fbExists, h.sound.fbUnique⟩

end

end QemuHal.Common.Frame
