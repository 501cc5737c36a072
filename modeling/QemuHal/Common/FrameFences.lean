import QemuHal.Common.Descriptors

/-!
# The fences of the frames of the common HAL

The kernel gives a descriptor for the fence of each frame it accepts. `Apply` gives it to the
layers of the composition, so to the client layer, or to nobody before `SetLayers`.
`descriptors_accounted` says that a session holds every descriptor exactly once, but for the
fences given to nobody, the buffers of first frames and the files opened for good, which are
never closed. `commits_return` says which fence the client gets for a frame.
-/

namespace QemuHal.Common.Frame

open Exec Tenure

section
variable {s : Session} {devId : Nat} {w w' w'' : World} {spare : Int → Prop}

/-! ## What a frame asks for -/

/-- The descriptor of the fence of a frame, when the kernel accepts it. -/
def World.fence (w : World) (a : FrameAnswers) : Option Int :=
  if w.reaches a && a.addProperty .crtcId && a.addProperty .active && accepts w.drm a.atomicCommit then
    a.atomicCommit
  else none

/-- The fence of a frame without a layer. -/
def World.leaks (w : World) (a : FrameAnswers) : Option Int :=
  if w.disp.mCompLayers = [] then w.fence a else none

theorem recorded_append (es pset : Planes.AtomicReq) :
    recorded (es ++ pset) = recorded es ++ recorded pset := List.filterMap_append ..

/-- Entries in front that ask for no fence. -/
theorem fenced_append {es pset : Planes.AtomicReq} {c : Nat}
    (h : ∀ e ∈ es, ¬ (e.obj = .crtc c ∧ e.prop = .outFencePtr)) :
    fenced (recorded (es ++ pset)) c = fenced (recorded pset) c := by
  have hnone : fenced (recorded es) c = false := by
    unfold fenced recorded
    rw [List.any_eq_false]
    intro e he
    obtain ⟨e', he', heq⟩ := List.mem_filterMap.1 he
    obtain ⟨prop, hprop, rfl⟩ := Option.map_eq_some_iff.1 heq
    rw [decide_eq_true_eq]
    rintro ⟨hobj, hptr⟩
    refine h e' he' ⟨hobj, ?_⟩
    have hptr' : prop = .outFencePtr := hptr
    rw [hptr'] at hprop
    cases hp : e'.prop with
    | outFencePtr => rfl
    | fbId | inFenceFd | crtcId | crtcX | crtcY | crtcW | crtcH | srcX | srcY | srcW | srcH | zpos
    | modeId | active =>
        rw [hp] at hprop
        exact absurd hprop (by simp [recordedProp])
  have happend : fenced (recorded es ++ recorded pset) c =
      (fenced (recorded es) c || fenced (recorded pset) c) := List.any_append ..
  rw [recorded_append, happend, hnone, Bool.false_or]

theorem fenced_addProperties {ok : Planes.PropName → Bool} {pset pset' : Planes.AtomicReq}
    {es : List Planes.PropValue} {done : Bool} (h : Planes.addProperties ok pset es = (done, pset'))
    {c : Nat} (hes : ∀ e ∈ es, ¬ (e.obj = .crtc c ∧ e.prop = .outFencePtr)) :
    fenced (recorded pset') c = fenced (recorded pset) c := by
  obtain ⟨es', heq, hsub⟩ := Planes.addProperties_spec ok es pset
  rw [h] at heq
  obtain ⟨-, rfl⟩ := Prod.mk.inj heq
  exact fenced_append fun e he => hes e (hsub he)

/-! ## The frame up to its commit -/

/-- The layers hold the same, and no frame was accepted. -/
structure World.Still (w w' : World) : Prop where
  level : w.Level w'
  crtc : w'.disp.mCrtc = w.disp.mCrtc
  newest : ∀ c, newestFence c w'.drm.log = newestFence c w.drm.log

namespace World.Still

theorem refl (w : World) : w.Still w := ⟨.refl w, rfl, fun _ => rfl⟩

theorem trans (h : w.Still w') (h' : w'.Still w'') : w.Still w'' :=
  ⟨h.level.trans h'.level, h'.crtc.trans h.crtc, fun c => (h'.newest c).trans (h.newest c)⟩

/-- The same deeds mean the same release fence. -/
theorem release_of_deeds {l l' : HdiDrmLayer} (h : l'.deeds = l.deeds) :
    l'.mReleaseFence = l.mReleaseFence := HdiDrmLayer.fdOf_congr h .releaseFence

theorem bare_of_deeds {disp disp' : DrmDisplay}
    (h : ∀ id, (disp'.mLayersMap id).map HdiDrmLayer.deeds = (disp.mLayersMap id).map HdiDrmLayer.deeds)
    (hb : disp.Bare) : disp'.Bare := by
  intro id l hl
  have hid := h id
  rw [hl, Option.map_some] at hid
  obtain ⟨l₀, hl₀, hdeeds⟩ := Option.map_eq_some_iff.1 hid.symm
  exact (release_of_deeds hdeeds.symm).trans (hb id l₀ hl₀)

theorem calm (h : w.Still w') : w.Calm w' where
  crtc := h.crtc
  release := release_of_deeds (Option.some.inj (h.level.layers .client))
  newest := h.newest
  bare := bare_of_deeds fun id => h.level.layers (.created id)
  comp := fun hc => h.level.comp.trans hc

theorem unfenced (h : w.Still w') (ht : Tenants spare (s.store devId w)) :
    Unfenced s devId spare w w' := ⟨h.level.handled ht, h.calm⟩

end World.Still

theorem updateMode_still (w : World) (a : FrameAnswers) :
    Post (updateMode a) w (fun _ w' => w.Still w') (fun _ _ => False) := by
  have hnewest : Post (updateMode a) w
      (fun _ w' => ∀ c, newestFence c w'.drm.log = newestFence c w.drm.log) (fun _ _ => False) := by
    cases hneed : (w.device.modes w.disp.mCrtc.mId).mNeedModeSet with
    | false => exact post_of_ok (updateMode_settled a hneed) fun _ => rfl
    | true =>
        cases hblock : a.modeBlock with
        | none => exact post_of_ok (updateMode_blockless hneed hblock) fun _ => rfl
        | some blob =>
            refine post_of_ok (updateMode_built hneed hblock) fun c => ?_
            have hptr : fenced (recorded (w.disp.modeRequest a blob).2) c = false := by
              have hadd : w.disp.modeRequest a blob =
                  ((w.disp.modeRequest a blob).1, (w.disp.modeRequest a blob).2) := rfl
              unfold DrmDisplay.modeRequest at hadd
              exact fenced_addProperties hadd (by simp)
            unfold World.modeDrm commitMode
            dsimp only
            split
            · cases a.modeCommit with
              | false => rfl
              | true =>
                  show (if fenced _ c = true then _ else _) = _
                  rw [if_neg (by rw [hptr]; simp)]
                  rfl
            · rfl
  refine ((updateMode_same w a).and hnewest).mono ?_ (fun _ _ he => he.2)
  rintro r w' ⟨⟨hsame, -⟩, hlog⟩
  exact ⟨⟨hsame.fds, fun p => by rw [hsame.disp], by rw [hsame.disp]⟩, by rw [hsame.disp], hlog⟩

/-- Making a buffer gives out no descriptor. -/
theorem World.rotate_still (w : World) (buf : HdiLayerBuffer) (a : PlaneAnswers) :
    w.Still (w.rotate buf a) := by
  refine ⟨⟨?_, fun p => ?_, rfl⟩, rfl, fun c => ?_⟩
  · rw [w.rotate_drm, (Drm.destroyOwned_frame _ _ _).1, (Drm.newGem_fds _ _ _).1]
  · cases p <;> rfl
  · rw [w.rotate_drm]
    exact ((newGem_grown _ _ _ _).trans (destroyOwned_grown _ _ _)).newest c

/-- `FB_ID` and `CRTC_ID` of a plane ask for no fence. -/
theorem fbProperties_fenced (a : PlaneAnswers) (gem : Option DrmGemBuffer) (plane crtcId : Nat)
    (pset : Planes.AtomicReq) (c : Nat) :
    fenced (recorded (fbProperties a gem plane crtcId pset).2) c = fenced (recorded pset) c := by
  unfold fbProperties
  cases gem with
  | none => rfl
  | some gem =>
      dsimp only
      split
      · exact fenced_addProperties (Prod.mk.eta.symm : _ = (_, _)) (by simp)
      · rfl

theorem placeOn_still (a : PlaneAnswers) (crtc : Planes.DrmCrtc) (plane : Nat)
    (pset : Planes.AtomicReq) (w : World) :
    Post (placeOn a crtc plane pset) w
      (fun pset' w' => w.Still w' ∧ ∀ c, fenced (recorded pset') c = fenced (recorded pset) c)
      (fun _ w' => w' = w) := by
  unfold placeOn
  rw [post_bind]
  cases hbuf : w.disp.mClientLayer.mHdiBuffer with
  | none =>
      unfold Post
      rw [applyPlane_none a hbuf]
  | some buf =>
      have hplane : ∀ {done pset'}, Planes.addProperties a.addProperty pset (Planes.planeProperties
          w.disp.mClientLayer.toComp plane (w.device.planes plane) buf.mWidth buf.mHeight) =
            (done, pset') → ∀ c, fenced (recorded pset') c = fenced (recorded pset) c := by
        intro done pset' hadd c
        refine fenced_addProperties hadd fun e he hptr => ?_
        rw [(Planes.planeProperties_mem he).1] at hptr
        exact absurd hptr.1 (by simp)
      cases hadd : Planes.addProperties a.addProperty pset (Planes.planeProperties
          w.disp.mClientLayer.toComp plane (w.device.planes plane) buf.mWidth buf.mHeight) with
      | mk done pset' =>
          cases done with
          | false => exact post_of_ok (applyPlane_failed hbuf hadd) ⟨.refl w, hplane hadd⟩
          | true =>
              refine post_of_ok (applyPlane_made hbuf hadd) ?_
              have hfenced := fun c => (fbProperties_fenced a ((w.rotate buf a).drm.gems w.drm.nextGem)
                plane w.disp.mCrtc.mId pset' c).trans (hplane hadd c)
              cases hfb : fbProperties a ((w.rotate buf a).drm.gems w.drm.nextGem) plane
                  w.disp.mCrtc.mId pset' with
              | mk ok pset'' =>
                  rw [hfb] at hfenced
                  have hrotate := w.rotate_still buf a
                  cases ok with
                  | false => exact ⟨hrotate, hfenced⟩
                  | true => exact ⟨⟨⟨hrotate.level.fds, hrotate.level.layers, rfl⟩, rfl, hrotate.newest⟩,
                      hfenced⟩

theorem findPlaneAndApply_still (a : Nat → PlaneAnswers) (mCompLayers : List LayerRef) :
    ∀ (i : Nat) (pset : Planes.AtomicReq) (w : World),
      Post (findPlaneAndApply a i mCompLayers pset) w
        (fun pset' w' => w.Still w' ∧ ∀ c, fenced (recorded pset') c = fenced (recorded pset) c)
        (fun _ w' => w.Still w' ∧ mCompLayers ≠ []) := by
  induction mCompLayers with
  | nil => exact fun i pset w => ⟨.refl w, fun _ => rfl⟩
  | cons p mCompLayers ih =>
      intro i pset w
      cases p
      unfold findPlaneAndApply
      simp only [post_bind, post_get]
      have hplace : Post (placeLayer (a i) w.disp.mPlanes pset) w
          (fun pset' w' => w.Still w' ∧ ∀ c, fenced (recorded pset') c = fenced (recorded pset) c)
          (fun _ w' => w' = w) := by
        unfold Post
        rw [placeLayer_eq]
        cases w.disp.mPlanes.find? fun plane => w.disp.mCrtc.takes (w.device.planes plane) with
        | none => exact ⟨.refl w, fun _ => rfl⟩
        | some plane => exact placeOn_still (a i) w.disp.mCrtc plane pset w
      refine hplace.mono ?_ ?_
      · rintro pset₁ w₁ ⟨h₁, hf₁⟩
        refine (ih (i + 1) pset₁ w₁).mono ?_ ?_
        · rintro pset₂ w₂ ⟨h₂, hf₂⟩
          exact ⟨h₁.trans h₂, fun c => (hf₂ c).trans (hf₁ c)⟩
        · exact fun e w₂ h₂ => ⟨h₁.trans h₂.1, by simp⟩
      · rintro e w₁ rfl
        exact ⟨.refl w₁, by simp⟩

/-! ## The commit -/

/-- What the fence `n` of an accepted frame does: the client layer gets it in place of its
older one, if it is composed. -/
structure World.Landed (w : World) (n : Int) (w' : World) : Prop where
  free : 0 ≤ n ∧ w.drm.fds n = none
  crtc : w'.disp.mCrtc = w.disp.mCrtc
  comp : w'.disp.mCompLayers = w.disp.mCompLayers
  created : ∀ id, (w'.disp.mLayersMap id).map HdiDrmLayer.deeds =
    (w.disp.mLayersMap id).map HdiDrmLayer.deeds
  newest : ∃ k, w'.drm.fds n = some ⟨.outFence k, true⟩ ∧ ∀ c, newestFence c w'.drm.log =
    if c = w.disp.mCrtc.mId then some k else newestFence c w.drm.log
  stray : w.disp.mCompLayers = [] → w'.disp.mClientLayer.deeds = w.disp.mClientLayer.deeds ∧
    ∀ r, r ≠ n → w'.drm.fds r = w.drm.fds r
  given : w.disp.mCompLayers = [.client] →
    w'.disp.mClientLayer.deeds =
        HdiDrmLayer.deeds { w.disp.mClientLayer with mReleaseFence := n } ∧
      Swapped w.drm.fds w'.drm.fds w.disp.mClientLayer.mReleaseFence n

/-- What a frame does, with the fence it is given. -/
def World.Outcome (w : World) (fence : Option Int) (w' : World) : Prop :=
  match fence with
  | none => w.Still w'
  | some n => w.Landed n w'

/-- Deeds of the client layer, before and after. -/
theorem World.Still.client_deeds (h : w.Still w') :
    w'.disp.mClientLayer.deeds = w.disp.mClientLayer.deeds :=
  Option.some.inj (h.level.layers .client)

theorem World.Landed.after {n : Int} (h : w.Still w') (hl : w'.Landed n w'') : w.Landed n w'' where
  free := by
    rw [← h.level.fds]
    exact hl.free
  crtc := hl.crtc.trans h.crtc
  comp := hl.comp.trans h.level.comp
  created := fun id => (hl.created id).trans (h.level.layers (.created id))
  newest := by
    obtain ⟨k, hfd, hlog⟩ := hl.newest
    refine ⟨k, hfd, fun c => ?_⟩
    rw [hlog, h.crtc, h.newest]
  stray := by
    intro hc
    obtain ⟨hdeeds, hfds⟩ := hl.stray (h.level.comp.trans hc)
    refine ⟨hdeeds.trans h.client_deeds, fun r hr => ?_⟩
    rw [hfds r hr, h.level.fds]
  given := by
    intro hc
    obtain ⟨hdeeds, hx⟩ := hl.given (h.level.comp.trans hc)
    obtain ⟨hbuf, hacq, hrel⟩ : w'.disp.mClientLayer.mHdiBuffer = w.disp.mClientLayer.mHdiBuffer ∧
        w'.disp.mClientLayer.mAcquireFence = w.disp.mClientLayer.mAcquireFence ∧
        w'.disp.mClientLayer.mReleaseFence = w.disp.mClientLayer.mReleaseFence := by
      obtain ⟨hbuf, hrest⟩ := Prod.mk.inj h.client_deeds
      exact ⟨hbuf, Prod.mk.inj hrest⟩
    rw [h.level.fds, hrel] at hx
    refine ⟨hdeeds.trans ?_, hx⟩
    unfold HdiDrmLayer.deeds
    rw [hbuf, hacq]

theorem World.Landed.before {n : Int} (hl : w.Landed n w') (h : w'.Still w'') : w.Landed n w'' where
  free := hl.free
  crtc := h.crtc.trans hl.crtc
  comp := h.level.comp.trans hl.comp
  created := fun id => (h.level.layers (.created id)).trans (hl.created id)
  newest := by
    obtain ⟨k, hfd, hlog⟩ := hl.newest
    refine ⟨k, by rw [h.level.fds]; exact hfd, fun c => ?_⟩
    rw [h.newest, hlog]
  stray := by
    intro hc
    obtain ⟨hdeeds, hfds⟩ := hl.stray hc
    refine ⟨h.client_deeds.trans hdeeds, fun r hr => ?_⟩
    rw [h.level.fds, hfds r hr]
  given := by
    intro hc
    obtain ⟨hdeeds, hx⟩ := hl.given hc
    rw [h.level.fds]
    exact ⟨h.client_deeds.trans hdeeds, hx⟩

theorem World.Outcome.after {fence : Option Int} (h : w.Still w') (ho : w'.Outcome fence w'') :
    w.Outcome fence w'' := by
  cases fence with
  | none => exact h.trans ho
  | some n => exact World.Landed.after h ho

theorem World.Outcome.before {fence : Option Int} (ho : w.Outcome fence w') (h : w'.Still w'') :
    w.Outcome fence w'' := by
  cases fence with
  | none => exact World.Still.trans ho h
  | some n => exact World.Landed.before ho h

/-- A request that asks for the fence of the display is committed. -/
theorem commitFrame_outcome (h : Tenants spare (s.store devId w)) {pset : Planes.AtomicReq}
    (hpset : ∀ c, fenced (recorded pset) c = decide (c = w.disp.mCrtc.mId)) (answer : Option Int) :
    Post (commitFrame pset answer) w
      (fun _ w' => w.Outcome (if accepts w.drm answer then answer else none) w')
      (fun _ _ => False) := by
  unfold commitFrame
  cases hacc : accepts w.drm answer with
  | false =>
      rw [if_neg (by simp), post_bind, post_get, atomicCommit_refused hacc]
      exact ⟨⟨rfl, fun _ => rfl, rfl⟩, rfl, fun _ => rfl⟩
  | true =>
      rw [if_pos rfl]
      obtain ⟨n, rfl⟩ : ∃ n, answer = some n := by
        cases answer with
        | none => exact absurd hacc (by simp [accepts])
        | some n => exact ⟨n, rfl⟩
      have hfree : 0 ≤ n ∧ w.drm.fds n = none := of_decide_eq_true hacc
      set drm : Drm := { w.drm with
        fds := Function.update w.drm.fds n (some ⟨.outFence w.drm.log.length, true⟩)
        log := .atomicCommit (recorded pset) (w.drm.fbs.map Prod.fst) (some n) :: w.drm.log } with hdrm
      have hcommit : w.drm.atomicCommit (recorded pset) (some n) = (some n, drm) := if_pos hfree
      have hself : drm.fds n = some ⟨.outFence w.drm.log.length, true⟩ := Function.update_self ..
      have hother : ∀ r, r ≠ n → drm.fds r = w.drm.fds r := fun r hr => Function.update_of_ne hr ..
      have hlog : ∀ c, newestFence c drm.log =
          if c = w.disp.mCrtc.mId then some w.drm.log.length else newestFence c w.drm.log := by
        intro c
        show (if fenced (recorded pset) c = true then _ else _) = _
        rw [hpset c]
        simp
      simp only [post_bind, post_get, hcommit, post_set, post_pure]
      rcases h.comp with hcomp | hcomp
      · have hnone : (w.setDrm drm).disp.mCompLayers = [] := hcomp
        rw [show w.disp.mCompLayers = [] from hcomp]
        exact ⟨hfree, rfl, rfl, fun _ => rfl, ⟨_, hself, hlog⟩, fun _ => ⟨rfl, hother⟩,
          fun hc => absurd (hcomp.symm.trans hc) (by simp)⟩
      · rw [show w.disp.mCompLayers = [.client] from hcomp]
        unfold setReleaseFences setReleaseFences
        simp only [post_bind, post_get, post_set, post_pure]
        set old := w.disp.mClientLayer.mReleaseFence with hold
        -- the older fence is open, so it is not the new one
        have hne : 0 ≤ old → n ≠ old := by
          rintro hpos rfl
          obtain ⟨file, he⟩ := h.ours (p := .client) rfl (m := .releaseFence) hpos
          exact absurd (he.symm.trans hfree.2) (by simp)
        set d := if 0 ≤ old then drm.close old else drm with hd
        have hfd : ∀ r, (0 ≤ old → r ≠ old) → d.fds r = drm.fds r := by
          intro r hr
          rw [hd]
          split
          · next hpos => exact Function.update_of_ne (hr hpos) ..
          · rfl
        have hlog' : d.log = drm.log := by
          rw [hd]
          split <;> rfl
        have hgiven : d.fds n = some ⟨.outFence w.drm.log.length, true⟩ := by rw [hfd n hne, hself]
        refine ⟨hfree, rfl, rfl, fun _ => rfl, ⟨_, hgiven, fun c => ?_⟩,
          fun hc => absurd (hcomp.symm.trans hc) (by simp), fun _ => ⟨rfl, ?_⟩⟩
        · show newestFence c d.log = _
          rw [hlog', hlog]
        · refine ⟨Or.inr ⟨hfree.1, hfree.2, _, hgiven⟩, fun hpos => ?_, fun r hr hro => ?_⟩
          · show d.fds old = none
            rw [hd, if_pos hpos]
            exact Function.update_self ..
          · show d.fds r = w.drm.fds r
            rw [hfd r hro, hother r (hr hfree.1)]

/-- The rest of a frame whose request asks for the fence of the display. -/
theorem finishFrame_outcome (h : Tenants spare (s.store devId w)) (a : FrameAnswers)
    {disp : DrmDisplay} {pset : Planes.AtomicReq}
    (hpset : ∀ c, fenced (recorded pset) c = decide (c = w.disp.mCrtc.mId)) :
    Post (finishFrame a disp pset) w
      (fun _ w' => w.Outcome (if a.addProperty .crtcId && a.addProperty .active &&
        accepts w.drm a.atomicCommit then a.atomicCommit else none) w') (fun _ _ => False) := by
  have hunuse : Post (removeUnusePlane a.unuse pset) w
      (fun pset' w' => w' = w ∧ ∀ c, fenced (recorded pset') c = fenced (recorded pset) c)
      (fun _ _ => False) := by
    obtain ⟨es, heq, hes⟩ :=
      @Planes.removeUnusePlane_spec w.disp.mCrtc w.device pset a.unuse w.disp.mPlanes
    unfold removeUnusePlane
    rw [post_bind, post_get, onDevice_post]
    refine post_of_ok heq ⟨rfl, fun c => fenced_append fun e he hptr => ?_⟩
    obtain ⟨p, -, -, -, rfl⟩ := (hes e).1 he
    exact absurd hptr.1 (by simp)
  unfold finishFrame
  rw [post_bind]
  refine hunuse.mono ?_ (fun _ _ he => he)
  rintro pset' w' ⟨rfl, hpset'⟩
  have hall : (Planes.addProperties a.addProperty pset' [⟨.connector disp.mConnectorId, .crtcId,
      disp.mCrtc.mId⟩, ⟨.crtc disp.mCrtc.mId, .active, 1⟩]).1 =
      (a.addProperty .crtcId && a.addProperty .active) := by
    obtain ⟨es, heq, -⟩ := Planes.addProperties_spec a.addProperty [⟨.connector disp.mConnectorId,
      .crtcId, disp.mCrtc.mId⟩, ⟨.crtc disp.mCrtc.mId, .active, 1⟩] pset'
    rw [heq]
    simp
  split
  · next hadd =>
      rw [hadd] at hall
      rw [← hall, Bool.false_and, if_neg (by simp)]
      exact .refl w'
  · next pset'' hadd =>
      rw [hadd] at hall
      rw [← hall, Bool.true_and, post_bind]
      refine (commitFrame_outcome h (fun c => ?_) a.atomicCommit).mono (fun _ _ ho => ho)
        (fun _ _ he => he)
      rw [fenced_addProperties hadd (by simp), hpset' c, hpset c]

/-! ## `Apply` -/

theorem applyFrame_outcome (h : Tenants spare (s.store devId w)) {a : FrameAnswers}
    (hreach : w.reaches a = true) (hfence : a.outFencePtr = true) :
    Post (applyFrame a) w (fun _ w' => w.Outcome (w.fence a) w')
      (fun _ w' => w.Still w' ∧ w.disp.mCompLayers ≠ []) := by
  have hcongr : Post (applyFrame a) w = Post (findPlaneAndApply a.plane 0 w.disp.mCompLayers
      [⟨.crtc w.disp.mCrtc.mId, .outFencePtr, 0⟩] >>= finishFrame a w.disp) w := by
    unfold Post
    rw [applyFrame_eq hfence]
  rw [hcongr, post_bind]
  refine (findPlaneAndApply_still a.plane w.disp.mCompLayers 0 _ w).mono ?_ (fun _ _ he => he)
  rintro pset w₁ ⟨hstill, hpset⟩
  have hasked : ∀ c, fenced (recorded pset) c = decide (c = w₁.disp.mCrtc.mId) := by
    intro c
    rw [hpset c, hstill.crtc]
    simp [recorded, recordedProp, fenced, eq_comm]
  refine (finishFrame_outcome (hstill.level.handled h (P := fun _ => True)).tenants a hasked).mono ?_
    (fun _ _ he => he.elim)
  intro r w₂ ho
  have haccepts : accepts w₁.drm a.atomicCommit = accepts w.drm a.atomicCommit := by
    unfold accepts
    rw [hstill.level.fds]
  rw [haccepts] at ho
  unfold World.fence
  rw [hreach, Bool.true_and]
  exact ho.after hstill

theorem applyLayers_outcome (h : Tenants spare (s.store devId w)) {a : FrameAnswers}
    (hmode : w.modeUpdated a = true) :
    Post (applyLayers a) w (fun _ w' => w.Outcome (w.fence a) w')
      (fun _ w' => w.Still w' ∧ w.disp.mCompLayers ≠ []) := by
  have hsame : ∀ (w : World) requests, w.Still { w with requests } :=
    fun _ _ => ⟨⟨rfl, fun _ => rfl, rfl⟩, rfl, fun _ => rfl⟩
  have hstopped : ∀ requests, w.reaches a = false →
      w.Outcome (w.fence a) { w with requests } := by
    intro requests hreach
    have hnone : w.fence a = none := by
      unfold World.fence
      rw [hreach]
      rfl
    rw [hnone]
    exact hsame w requests
  unfold applyLayers
  rw [post_bind, post_get]
  by_cases henough : w.disp.mPlanes.length < w.disp.mCompLayers.length
  · rw [if_pos henough]
    refine hstopped w.requests ?_
    unfold World.reaches
    rw [decide_eq_false (by omega), Bool.and_false, Bool.false_and, Bool.false_and]
  · rw [if_neg henough]
    by_cases halloc : a.atomicAlloc = true
    · rw [if_neg (not_not.2 halloc), post_bind]
      refine withRequest_post ?_
      by_cases hfence : a.outFencePtr = true
      · have hreach : w.reaches a = true := by
          unfold World.reaches
          rw [hmode, decide_eq_true (by omega), halloc, hfence]
          rfl
        have hone := hsame w (w.requests + 1)
        refine (applyFrame_outcome (hone.level.handled h (P := fun _ => True)).tenants hreach
          hfence).mono ?_ ?_
        · intro r w' ho
          exact (ho.after hone).before (hsame w' _)
        · exact fun e w' he => ⟨hone.trans he.1, he.2⟩
      · have hreach : w.reaches a = false := by
          unfold World.reaches
          rw [Bool.eq_false_iff.2 hfence, Bool.and_false]
        unfold applyFrame
        rw [post_bind, post_get, if_pos hfence]
        exact hstopped _ hreach
    · rw [if_pos halloc]
      refine hstopped w.requests ?_
      unfold World.reaches
      rw [Bool.eq_false_iff.2 halloc, Bool.and_false, Bool.false_and]

/-- **`Apply`** changes no descriptor but those of the fence. -/
theorem apply_outcome (h : Tenants spare (s.store devId w)) (a : FrameAnswers) :
    Post (apply a) w (fun _ w' => w.Outcome (w.fence a) w')
      (fun _ w' => w.Still w' ∧ w.disp.mCompLayers ≠ []) := by
  unfold apply
  rw [post_bind]
  refine ((updateMode_still w a).and (updateMode_same w a)).mono ?_ (fun _ _ he => he.2.elim)
  rintro ⟨ok, block, psets⟩ w₁ ⟨hstill, hsame, hok, hmode⟩
  have hblock : ∀ w', Post (destroyModeBlock block) w' (fun _ w'' => w'.Still w'') (fun _ _ => False) := by
    intro w'
    cases block with
    | none => exact .refl w'
    | some blob => exact ⟨⟨rfl, fun _ => rfl, rfl⟩, rfl, fun _ => rfl⟩
  dsimp only at hok ⊢
  cases ok with
  | true =>
      rw [if_pos rfl, post_bind]
      have hfence : w₁.fence a = w.fence a := by
        unfold World.fence World.reaches accepts
        rw [hmode, hsame.disp, hsame.fds]
      refine (applyLayers_outcome (hstill.level.handled h (P := fun _ => True)).tenants
        (hmode.trans hok.symm)).mono ?_ ?_
      · intro r w₂ ho
        rw [post_bind]
        refine (hblock w₂).mono ?_ (fun _ _ he => he.elim)
        intro _ w₃ h₃
        rw [← hfence]
        exact (ho.after hstill).before h₃
      · rintro e w₂ ⟨h₂, hcomp⟩
        exact ⟨hstill.trans h₂, by rw [← hstill.level.comp]; exact hcomp⟩
  | false =>
      rw [if_neg (by simp), post_bind]
      refine (hblock w₁).mono ?_ (fun _ _ he => he.elim)
      intro _ w₂ h₂
      have hnone : w.fence a = none := by
        unfold World.fence World.reaches
        rw [← hok]
        rfl
      show w.Outcome (w.fence a) w₂
      rw [hnone]
      exact hstill.trans h₂

/-! ## What becomes of the fence -/

/-- The fence of a frame without a layer is held by nobody. -/
theorem World.Landed.strayed {n : Int} (hl : w.Landed n w') (h : Tenants spare (s.store devId w))
    (hcomp : w.disp.mCompLayers = []) {P : Holder → Prop} :
    Handled s devId (fun r => spare r ∨ r = n) P w w' := by
  obtain ⟨hdeeds, hfds⟩ := hl.stray hcomp
  obtain ⟨k, hn, -⟩ := hl.newest
  refine h.strayed ?_ hfds (fun p m fd => DrmDisplay.holds_congr ?_ m fd)
    (Or.inl (hl.comp.trans hcomp))
  · rintro r rfl
    exact ⟨hl.free.1, hl.free.2, _, hn⟩
  · cases p with
    | client => exact congrArg some hdeeds
    | created id => exact hl.created id

/-- The fence of a frame with its layer takes the place of the older one. -/
theorem World.Landed.handed {n : Int} (hl : w.Landed n w') (h : Tenants spare (s.store devId w))
    (hcomp : w.disp.mCompLayers = [.client]) :
    Handled s devId spare (· ≠ ⟨devId, .client, .releaseFence⟩) w w' := by
  obtain ⟨hdeeds, hx⟩ := hl.given hcomp
  set l' : HdiDrmLayer := { w.disp.mClientLayer with mReleaseFence := n }
  have hlayer : w.disp.layer .client = some w.disp.mClientLayer := rfl
  have hx' : Swapped w.drm.fds w'.drm.fds (w.disp.mClientLayer.fdOf .releaseFence)
    (l'.fdOf .releaseFence) := hx
  have hput := h.exchange hlayer hx' fun m hm => by
    cases m with
    | buffer => rfl
    | acquireFence => rfl
    | releaseFence => exact absurd rfl hm
  have hlevel : (w.put .client l' w'.drm).Level w' := by
    refine ⟨rfl, fun p => ?_, hl.comp⟩
    cases p with
    | client => exact congrArg some hdeeds
    | created id => exact hl.created id
  exact hput.trans (hlevel.handled hput.tenants)

/-- What nobody holds after a frame. -/
def World.spares (w : World) (a : FrameAnswers) (spare : Int → Prop) (fd : Int) : Prop :=
  spare fd ∨ w.leaks a = some fd

theorem World.spares_of_none {a : FrameAnswers} (h : w.leaks a = none) : w.spares a spare = spare := by
  funext fd
  unfold World.spares
  rw [h]
  simp

/-- A frame concerns no descriptor but its fence and the one before. -/
theorem World.Outcome.handled {a : FrameAnswers} (ho : w.Outcome (w.fence a) w')
    (h : Tenants spare (s.store devId w)) :
    Handled s devId (w.spares a spare) (· ≠ ⟨devId, .client, .releaseFence⟩) w w' := by
  cases hfence : w.fence a with
  | none =>
      rw [hfence] at ho
      have hnone : w.leaks a = none := by
        unfold World.leaks
        rw [hfence, ite_self]
      rw [World.spares_of_none hnone]
      exact World.Level.handled (World.Still.level ho) h
  | some n =>
      rw [hfence] at ho
      rcases h.comp with hcomp | hcomp
      · have hspares : w.spares a spare = fun fd => spare fd ∨ fd = n := by
          funext fd
          unfold World.spares World.leaks
          rw [if_pos hcomp, hfence]
          simp [eq_comm]
        rw [hspares]
        exact World.Landed.strayed ho h hcomp
      · have hnone : w.leaks a = none := by
          unfold World.leaks
          rw [if_neg (by rw [hcomp]; simp)]
        rw [World.spares_of_none hnone]
        exact World.Landed.handed ho h hcomp

/-! ## The operations -/

/-- What nobody holds once an operation has opened its files. -/
def Op.keeps (op : Op) (w : World) (spare : Int → Prop) (fd : Int) : Prop :=
  spare fd ∨ fd ∈ op.opened w

theorem Op.keeps_of_nil {op : Op} (h : op.opened w = []) : op.keeps w spare = spare := by
  funext fd
  unfold Op.keeps
  rw [h]
  simp

/-- What an operation of a display does to the descriptors: without a frame it concerns no
release fence, and what comes before and after the frame does not either. -/
def OpDone (s : Session) (devId : Nat) (spare : Int → Prop) (w : World) (op : Op) (w' : World) : Prop :=
  match op.frame w with
  | none => Unfenced s devId (op.keeps w spare) w w'
  | some (w₁, a) => Unfenced s devId (op.keeps w spare) w w₁ ∧
      ∃ w₂, w₁.Outcome (w₁.fence a) w₂ ∧ Unfenced s devId (w₁.spares a (op.keeps w spare)) w₂ w'

/-- An operation that stops on a fault does so before the commit of its frame. -/
def OpStopped (s : Session) (devId : Nat) (spare : Int → Prop) (w : World) (op : Op) (w' : World) :
    Prop :=
  ∃ w₁ a, op.frame w = some (w₁, a) ∧ Unfenced s devId (op.keeps w spare) w w₁ ∧ w₁.Still w' ∧
    w₁.disp.mCompLayers ≠ []

/-- An operation that opens no file and composes no frame. -/
theorem OpDone.still {op : Op} (hframe : op.frame w = none) (hopened : op.opened w = [])
    (h : Unfenced s devId spare w w') : OpDone s devId spare w op w' := by
  unfold OpDone
  rw [hframe, Op.keeps_of_nil hopened]
  exact h

/-- The client has a copy of the release fence, or none because there is no such fence or the
kernel gave no number for it. -/
def World.Copied (w : World) (answer : Option Int) (fd : Int) : Prop :=
  match w.drm.fds w.disp.mClientLayer.mReleaseFence with
  | none => fd = -1
  | some e => (answer = some fd ∧ w.drm.fds fd = some ⟨e.file, false⟩) ∨
      (fd = -1 ∧ ∀ n, answer = some n → n < 0 ∨ w.drm.fds n ≠ none)

/-- What the client gets from an operation. -/
def OpReturns (op : Op) (ret : Ret) (w w' : World) : Prop :=
  match op with
  | .commit _ _ fence => ∃ fd, ret.fences = [fd] ∧ w'.Copied fence fd
  | .getDisplayReleaseFence .. => w.disp.Bare → ∀ fd ∈ ret.fences, fd = -1
  | _ => True

theorem handOut_copied (h : Tenants spare (s.store devId w)) (answer : Option Int) :
    Post (handOut w.disp.mClientLayer.mReleaseFence answer) w (fun fd w' => w'.Copied answer fd)
      (fun _ _ => False) := by
  have hkept : w.drm.handOver (-1) = w.drm := Drm.handOver_none (h.closed (by decide))
  unfold handOut World.Copied
  simp only [post_bind, post_get, post_set, post_pure]
  set src := w.disp.mClientLayer.mReleaseFence with hsrc
  cases he : w.drm.fds src with
  | none =>
      have hdup : w.drm.dup src answer = (-1, w.drm) := by
        unfold Drm.dup
        rw [he]
      rw [hdup]
      dsimp only
      rw [hkept]
      have hnone : (w.setDrm w.drm).drm.fds (w.setDrm w.drm).disp.mClientLayer.mReleaseFence = none := he
      rw [hnone]
  | some e =>
      cases answer with
      | none =>
          have hdup : w.drm.dup src none = (-1, w.drm) := by
            unfold Drm.dup
            rw [he]
          rw [hdup]
          dsimp only
          rw [hkept]
          have hsome : (w.setDrm w.drm).drm.fds (w.setDrm w.drm).disp.mClientLayer.mReleaseFence =
            some e := he
          rw [hsome]
          exact Or.inr ⟨rfl, by simp⟩
      | some n =>
          by_cases hfree : 0 ≤ n ∧ w.drm.fds n = none
          · have hdup : w.drm.dup src (some n) =
                (n, { w.drm with fds := Function.update w.drm.fds n (some { e with hal := true }) }) := by
              unfold Drm.dup
              rw [he]
              exact if_pos hfree
            rw [hdup]
            dsimp only
            set d := ({ w.drm with fds := Function.update w.drm.fds n (some { e with hal := true }) } :
              Drm).handOver n with hd
            have hne : src ≠ n := by
              intro heq
              rw [heq] at he
              exact absurd (he.symm.trans hfree.2) (by simp)
            have hsome : (w.setDrm d).drm.fds (w.setDrm d).disp.mClientLayer.mReleaseFence = some e := by
              show d.fds src = some e
              simp [hd, Drm.handOver, Function.update_of_ne hne, he]
            rw [hsome]
            refine Or.inl ⟨rfl, ?_⟩
            show d.fds n = some ⟨e.file, false⟩
            simp [hd, Drm.handOver]
          · have hdup : w.drm.dup src (some n) = (-1, w.drm) := by
              unfold Drm.dup
              rw [he]
              exact if_neg hfree
            rw [hdup]
            dsimp only
            rw [hkept]
            have hsome : (w.setDrm w.drm).drm.fds (w.setDrm w.drm).disp.mClientLayer.mReleaseFence =
              some e := he
            rw [hsome]
            refine Or.inr ⟨rfl, fun m hm => ?_⟩
            cases hm
            show n < 0 ∨ w.drm.fds n ≠ none
            by_cases hpos : 0 ≤ n
            · exact Or.inr fun hnone => hfree ⟨hpos, hnone⟩
            · exact Or.inl (by omega)

theorem pushFirstFrame_done (h : Tenants spare (s.store devId w)) (a : FirstFrameAnswers) :
    Post (pushFirstFrame a) w (fun _ w' => OpDone s devId spare w (.pushFirstFrame a) w')
      (fun _ w' => OpStopped s devId spare w (.pushFirstFrame a) w') := by
  obtain ⟨buffer, w₁, hfirst, hopens⟩ := (firstBuffer_opens (w := w) a).exists_ok
  have hopened := h.opens hopens
  unfold pushFirstFrame OpDone OpStopped Op.frame
  rw [post_bind]
  refine post_of_ok hfirst ?_
  dsimp only
  rw [hfirst]
  cases buffer with
  | none => exact hopened
  | some buffer =>
      have hbuffer := hopened.handled.tenants.setLayerBuffer (p := .client) rfl (some buffer) (-1) a.dup
      set l := (w₁.disp.mClientLayer.setLayerBuffer w₁.drm (some buffer) (-1) a.dup).2.1 with hl
      set d := (w₁.disp.mClientLayer.setLayerBuffer w₁.drm (some buffer) (-1) a.dup).2.2 with hd
      have hlayers := hbuffer.handled.tenants.setLayers l.mZorder
      have hbefore := hopened.trans (hbuffer.trans hlayers)
      simp only [post_bind, post_pure]
      refine (apply_outcome hbefore.handled.tenants a.frame).mono ?_ ?_
      · exact fun _ w₂ ho => ⟨hbefore, w₂, ho, .refl (ho.handled hbefore.handled.tenants).tenants⟩
      · exact fun _ w₂ he => ⟨_, a.frame, rfl, hbefore, he⟩

theorem commit_done (h : Tenants spare (s.store devId w)) (pre : Bool) (a : FrameAnswers)
    (fence : Option Int) :
    Post (commit pre a fence) w
      (fun ret w' => OpDone s devId spare w (.commit pre a fence) w' ∧
        ∃ fd, ret.fences = [fd] ∧ w'.Copied fence fd)
      (fun _ w' => OpStopped s devId spare w (.commit pre a fence) w') := by
  have hgive : ∀ {spare : Int → Prop} {w : World} (psets : List Planes.AtomicReq),
      Tenants spare (s.store devId w) →
      Post (do
          let fd ← handOut (← get).disp.mClientLayer.mReleaseFence fence
          return ({ fences := [fd], psets } : Ret)) w
        (fun ret w' => Unfenced s devId spare w w' ∧ ∃ fd, ret.fences = [fd] ∧ w'.Copied fence fd)
        (fun _ _ => False) := by
    intro spare w psets h
    simp only [post_bind, post_get, post_pure]
    refine ((h.handOut _ fence).and (handOut_copied h fence)).mono ?_ (fun _ _ he => he.1)
    exact fun fd w' hw => ⟨hw.1, fd, rfl, hw.2⟩
  unfold commit composerCommit
  rw [post_bind]
  cases pre with
  | true =>
      have hkeeps : (Op.commit true a fence).keeps w spare = spare := Op.keeps_of_nil rfl
      unfold OpDone OpStopped
      rw [if_pos rfl, post_map, hkeeps]
      refine (apply_outcome h a).mono ?_ ?_
      · intro r w₁ ho
        refine (hgive r.2 (ho.handled h).tenants).mono ?_ (fun _ _ he => he.elim)
        exact fun ret w₂ hw => ⟨⟨.refl h, w₁, ho, hw.1⟩, hw.2⟩
      · exact fun _ w₁ he => ⟨w, a, rfl, .refl h, he⟩
  | false =>
      rw [if_neg (by simp), post_pure]
      exact (hgive [] h).mono (fun _ _ hw => ⟨.still rfl rfl hw.1, hw.2⟩) (fun _ _ he => he.elim)

/-- **Every operation** of a display. -/
theorem step_done (h : Tenants spare (s.store devId w)) (op : Op) :
    Post (step op) w (fun ret w' => OpDone s devId spare w op w' ∧ OpReturns op ret w w')
      (fun _ w' => OpStopped s devId spare w op w') := by
  cases op with
  | setDisplayClientBuffer buffer fence a =>
      exact ⟨.still rfl rfl (h.setLayerBuffer (p := .client) rfl buffer fence a), trivial⟩
  | pushFirstFrame a =>
      exact (pushFirstFrame_done h a).mono (fun _ _ hd => ⟨hd, trivial⟩) (fun _ _ he => he)
  | setDisplayMode modeId =>
      have hstill : ∀ device, w.Still { w with device } :=
        fun _ => ⟨⟨rfl, fun _ => rfl, rfl⟩, rfl, fun _ => rfl⟩
      exact ⟨.still rfl rfl ((hstill _).unfenced h), trivial⟩
  | prepareDisplayLayers => exact ⟨.still rfl rfl (h.setLayers 3), trivial⟩
  | commit pre a fence => exact commit_done h pre a fence
  | createLayer layerId =>
      exact (h.createLayer layerId).mono (fun _ _ hu => ⟨.still rfl rfl hu, trivial⟩)
        (fun _ _ he => he.elim)
  | closeLayer layerId last current =>
      exact (h.closeLayer layerId last current).mono (fun _ _ hu => ⟨.still rfl rfl hu, trivial⟩)
        (fun _ _ he => he.elim)
  | setLayerBuffer layerId buffer fence a =>
      show Post (setLayerBuffer layerId buffer fence a) w _ _
      unfold setLayerBuffer
      rw [post_bind, post_get]
      cases hl : w.disp.mLayersMap layerId with
      | none => exact ⟨.still rfl rfl (.refl h), trivial⟩
      | some l =>
          exact ⟨.still rfl rfl (h.setLayerBuffer (p := .created layerId) hl buffer fence a), trivial⟩
  | getDisplayReleaseFence mLayers a =>
      show Post (getDisplayReleaseFence mLayers a) w _ _
      unfold getDisplayReleaseFence
      rw [post_bind]
      exact (h.releaseFences mLayers a w).mono (fun _ _ hu => ⟨.still rfl rfl hu.1, hu.2⟩)
        (fun _ _ he => he.elim)
  | setDisplayPowerStatus status openFd blank =>
      exact (setDisplayPowerStatus_opens status openFd blank).mono
        (fun _ _ ho => ⟨h.opens ho.1, trivial⟩) (fun _ _ he => he.elim)
  | setDisplayBacklight level openFd memset =>
      exact (setDisplayBacklight_opens level openFd memset).mono
        (fun _ _ ho => ⟨h.opens ho.1, trivial⟩) (fun _ _ he => he.elim)

end

/-! ## The session -/

/-- What a call opens, but for fences, that nobody ever closes. -/
def Session.opened (s : Session) : Call → List Int
  | .display devId op =>
      match s.mHdiDisplays devId with
      | none => []
      | some disp => op.opened (s.world disp)
  | .clientFd .. => []

/-- The fence of the frame of a call, if the frame has no layer. -/
def Session.leaked (s : Session) (call : Call) : List Int :=
  match s.frame call with
  | none => []
  | some (_, w, a) => (w.leaks a).toList

/-- The descriptors that nobody holds and nobody ever closes: files the HAL opens once, the
buffers of first frames and the fences of frames without a layer. -/
def noteKept (s : Session) (kept : List Int) (call : Call) : List Int :=
  s.leaked call ++ s.opened call ++ kept

/-- A call of the HAL leaves the client's descriptors alone. -/
def HandsOff (call : Call) (s s' : Session) : Prop :=
  (∀ fd file, call ≠ .clientFd fd file) →
    ∀ fd file, s.drm.fds fd = some ⟨file, false⟩ → s'.drm.fds fd = some ⟨file, false⟩

def CallHandsOff (s : Session) (call : Call) : Prop :=
  Post (sessionStep call) s (fun _ s' => HandsOff call s s') (fun _ s' => HandsOff call s s')

section
variable {s : Session} {spare : Int → Prop}

theorem Tenants.clientFd (h : Tenants spare s) (fd : Int) (file : Option File) :
    Tenants spare { s with drm := s.drm.clientFd fd file } := by
  rcases s.drm.clientFd_cases fd file with heq | ⟨hpos, hclient, heq⟩
  · rw [heq]
    exact h
  · rw [heq]
    set fds := Function.update s.drm.fds fd (file.map (⟨·, false⟩)) with hfds
    have hsame : ∀ r, r ≠ fd → fds r = s.drm.fds r := fun r hr => Function.update_of_ne hr ..
    have hnot : ¬ Ours (fun e : FdEntry => e.hal = true) s.drm.fds fd := by
      rintro ⟨e, he, hours⟩
      rw [hclient e he] at hours
      exact absurd hours (by simp)
    have hnot' : ¬ Ours (fun e : FdEntry => e.hal = true) fds fd := by
      rintro ⟨e, he, hours⟩
      have hself : fds fd = file.map (⟨·, false⟩) := Function.update_self ..
      obtain ⟨f, -, rfl⟩ := Option.map_eq_some_iff.1 (hself.symm.trans he)
      exact absurd hours (by simp)
    refine ⟨h.sole.congr (fun _ _ => Iff.rfl) fun r => ?_, fun r hr => ?_, h.layers⟩
    · by_cases hr : r = fd
      · rw [hr]
        exact iff_of_false hnot' hnot
      · exact ⟨fun hx => hx.congr (hsame r hr).symm, fun hx => hx.congr (hsame r hr)⟩
    · have hne : r ≠ fd := by omega
      exact (hsame r hne).trans (h.numbered r hr)

/-- What nobody holds once an operation has opened its files, as a list. -/
theorem keeps_append {op : Op} {w : World} {kept : List Int} :
    op.keeps w (fun fd => spare fd ∨ fd ∈ kept) = fun fd => spare fd ∨ fd ∈ op.opened w ++ kept := by
  funext fd
  unfold Op.keeps
  rw [List.mem_append, or_assoc, or_comm (a := fd ∈ kept)]

/-- What nobody holds after a frame, as a list. -/
theorem spares_append {w : World} {a : FrameAnswers} {kept : List Int} :
    w.spares a (fun fd => spare fd ∨ fd ∈ kept) =
      fun fd => spare fd ∨ fd ∈ (w.leaks a).toList ++ kept := by
  funext fd
  unfold World.spares
  dsimp only
  rw [List.mem_append, Option.mem_toList, or_assoc, or_comm (a := fd ∈ kept)]

/-- What a call of a display keeps, from the frame of its operation. -/
theorem Session.noteKept_display {devId : Nat} {disp : DrmDisplay}
    (hdisp : s.mHdiDisplays devId = some disp) (kept : List Int) (op : Op) :
    noteKept s kept (.display devId op) =
      match op.frame (s.world disp) with
      | none => op.opened (s.world disp) ++ kept
      | some (w, a) => (w.leaks a).toList ++ (op.opened (s.world disp) ++ kept) := by
  unfold noteKept Session.leaked Session.opened Session.frame
  dsimp only
  rw [hdisp, Option.bind_some]
  cases op.frame (s.world disp) with
  | none => rfl
  | some f => exact List.append_assoc ..

/-- A call leaves every descriptor with its holder, and the client's where they are. -/
theorem Tenants.sessionStep {kept : List Int} (h : Tenants (fun fd => spare fd ∨ fd ∈ kept) s)
    (call : Call) :
    Post (sessionStep call) s
      (fun _ s' => Tenants (fun fd => spare fd ∨ fd ∈ noteKept s kept call) s' ∧ HandsOff call s s')
      (fun _ s' => Tenants (fun fd => spare fd ∨ fd ∈ noteKept s kept call) s' ∧
        HandsOff call s s') := by
  cases call with
  | clientFd fd file => exact ⟨h.clientFd fd file, fun hcall => absurd rfl (hcall fd file)⟩
  | display devId op =>
      apply callDisplayFunction_post
      · intro hnone
        have hkept : noteKept s kept (.display devId op) = kept := by
          unfold noteKept Session.leaked Session.opened Session.frame
          dsimp only
          rw [hnone]
          rfl
        rw [hkept]
        exact ⟨h, fun _ _ _ hfd => hfd⟩
      · intro disp hdisp
        have hstore := h
        rw [← Session.store_world hdisp] at hstore
        rw [Session.noteKept_display hdisp]
        refine (step_done hstore op).mono ?_ ?_
        · rintro ret w' ⟨hdone, -⟩
          unfold OpDone at hdone
          rw [keeps_append] at hdone
          cases hop : op.frame (s.world disp) with
          | none =>
              rw [hop] at hdone
              exact ⟨hdone.handled.tenants, fun _ => hdone.handled.client⟩
          | some f =>
              obtain ⟨w₁, a⟩ := f
              rw [hop] at hdone
              obtain ⟨hbefore, w₂, ho, hafter⟩ := hdone
              have hmid := ho.handled hbefore.handled.tenants
              rw [spares_append] at hafter
              refine ⟨hafter.handled.tenants, fun _ fd file hfd => ?_⟩
              exact hafter.handled.client fd file
                (hmid.client fd file (hbefore.handled.client fd file hfd))
        · rintro e w' ⟨w₁, a, hop, hbefore, hstill, hcomp⟩
          have hnone : w₁.leaks a = none := if_neg hcomp
          rw [keeps_append] at hbefore
          have hlevel := hstill.level.handled hbefore.handled.tenants (P := fun _ => True)
          rw [hop]
          dsimp only
          rw [hnone]
          refine ⟨hlevel.tenants, fun _ fd file hfd => ?_⟩
          exact hlevel.client fd file (hbefore.handled.client fd file hfd)

/-- The session after a run, whichever way it ends, and the descriptors that stay open. -/
def Session.ledgerAfter (s : Session) (calls : List Call) : Session × List Int :=
  after (run (noting noteKept Frame.sessionStep) calls) (s, [])

/-- **Every descriptor is accounted for.** In every state of a run, each descriptor of the HAL
is held by one member of one layer, but for those that were spare from the start and those
that are kept open for good; and no call of the HAL closes or reuses a descriptor of the
client. -/
theorem descriptors_accounted (h : Tenants spare s) (calls : List Call) :
    Tenants (fun fd => spare fd ∨ fd ∈ (s.ledgerAfter calls).2) (s.ledgerAfter calls).1 ∧
      Meets sessionStep CallHandsOff s calls := by
  have hstep : ∀ (x : Session × List Int) call,
      Tenants (fun fd => spare fd ∨ fd ∈ x.2) x.1 →
      Post (noting noteKept Frame.sessionStep call) x
        (fun _ x' => Tenants (fun fd => spare fd ∨ fd ∈ x'.2) x'.1)
        (fun _ x' => Tenants (fun fd => spare fd ∨ fd ∈ x'.2) x'.1) := by
    intro x call hx
    rw [post_noting]
    exact (hx.sessionStep call).mono (fun _ _ hs => hs.1) (fun _ _ hs => hs.1)
  have hstart : (fun x : Session × List Int => Tenants (fun fd => spare fd ∨ fd ∈ x.2) x.1)
      (s, []) := by
    simpa using h
  constructor
  · exact (run_invariant hstep hstart calls).after
  · have hnoting : Meets (noting noteKept Frame.sessionStep) (fun x call => CallHandsOff x.1 call)
        (s, []) calls ↔ Meets Frame.sessionStep CallHandsOff s calls := meets_noting
    rw [← hnoting]
    refine meets_imp (C := fun _ _ => True)
      (I := fun x => Tenants (fun fd => spare fd ∨ fd ∈ x.2) x.1) ?_ ?_ hstart (meets_true _ _)
    · exact fun x call hx _ => (hstep x call hx).mono (fun _ _ hs => hs) (fun _ _ _ => trivial)
    · exact fun x call hx _ => (hx.sessionStep call).mono (fun _ _ hs => hs.2) (fun _ _ hs => hs.2)

/-! ### The fence the client gets -/

/-- The frame is accepted, and its fence is given to a layer. -/
def World.gives (w : World) (a : FrameAnswers) : Bool :=
  decide (w.disp.mCompLayers ≠ []) && (w.fence a).isSome

/-- The displays that have been given a fence. -/
def noteGiven (s : Session) (given : Nat → Bool) (call : Call) : Nat → Bool :=
  match s.frame call with
  | none => given
  | some (devId, w, a) => if w.gives a then Function.update given devId true else given

/-- What the client may get from a call that ends in `s'`: from `Commit` a copy of the fence of
the newest frame of the display, unless there was none or the kernel gives no number for the
copy; from `GetDisplayReleaseFence` nothing. -/
def Returns (given : Nat → Bool) (call : Call) (ret : Ret) (s' : Session) : Prop :=
  match call with
  | .display devId (.commit _ _ fence) =>
      ∀ disp, s'.mHdiDisplays devId = some disp → ∃ fd, ret.fences = [fd] ∧
        if given devId then
          ∃ k, newestFence disp.mCrtc.mId s'.drm.log = some k ∧
            ((fence = some fd ∧ s'.drm.fds fd = some ⟨.outFence k, false⟩) ∨
              (fd = -1 ∧ ∀ n, fence = some n → n < 0 ∨ s'.drm.fds n ≠ none))
        else fd = -1
  | .display _ (.getDisplayReleaseFence ..) => ∀ fd ∈ ret.fences, fd = -1
  | _ => True

def CallReturns (x : Session × (Nat → Bool)) (call : Call) : Prop :=
  Post (Frame.sessionStep call) x.1
    (fun ret s' => Returns (noteGiven x.1 x.2 call) call ret s') (fun _ _ => True)

/-- The displays have CRTCs of their own, and no layer has a release fence yet. -/
structure Unlit (s : Session) : Prop where
  crtcs : ∀ devId devId' disp disp', s.mHdiDisplays devId = some disp →
    s.mHdiDisplays devId' = some disp' → disp.mCrtc.mId = disp'.mCrtc.mId → devId = devId'
  bare : ∀ devId disp, s.mHdiDisplays devId = some disp → disp.Bare
  unlit : ∀ devId disp, s.mHdiDisplays devId = some disp → disp.mClientLayer.mReleaseFence = -1

/-- Each client layer has the fence of the newest frame of its CRTC, if it was given one. -/
structure Given (spare : Int → Prop) (given : Nat → Bool) (s : Session) : Prop where
  tenants : Tenants spare s
  crtcs : ∀ devId devId' disp disp', s.mHdiDisplays devId = some disp →
    s.mHdiDisplays devId' = some disp' → disp.mCrtc.mId = disp'.mCrtc.mId → devId = devId'
  bare : ∀ devId disp, s.mHdiDisplays devId = some disp → disp.Bare
  unlit : ∀ devId disp, s.mHdiDisplays devId = some disp → given devId = false →
    disp.mClientLayer.mReleaseFence = -1
  lit : ∀ devId disp, s.mHdiDisplays devId = some disp → given devId = true →
    disp.mCompLayers = [.client] ∧ ∃ k, newestFence disp.mCrtc.mId s.drm.log = some k ∧
      0 ≤ disp.mClientLayer.mReleaseFence ∧
      s.drm.fds disp.mClientLayer.mReleaseFence = some ⟨.outFence k, true⟩

section
variable {devId : Nat} {w w' : World} {given : Nat → Bool}

/-- The displays of a session in which one of them has changed. -/
theorem Given.store {spare' : Int → Prop} {given' : Nat → Bool}
    (h : Given spare given (s.store devId w)) (ht : Tenants spare' (s.store devId w'))
    (hcrtc : w'.disp.mCrtc = w.disp.mCrtc) (hbare : w.disp.Bare → w'.disp.Bare)
    (hgiven : ∀ e, e ≠ devId → given' e = given e)
    (hothers : ∀ e fd, e ≠ devId → (s.store devId w).Holds ⟨e, .client, .releaseFence⟩ fd →
      w'.drm.fds fd = w.drm.fds fd)
    (hnewest : ∀ c, c ≠ w.disp.mCrtc.mId → newestFence c w'.drm.log = newestFence c w.drm.log)
    (hnone : given' devId = false → w'.disp.mClientLayer.mReleaseFence = -1)
    (hsome : given' devId = true → w'.disp.mCompLayers = [.client] ∧
      ∃ k, newestFence w.disp.mCrtc.mId w'.drm.log = some k ∧ 0 ≤ w'.disp.mClientLayer.mReleaseFence ∧
        w'.drm.fds w'.disp.mClientLayer.mReleaseFence = some ⟨.outFence k, true⟩) :
    Given spare' given' (s.store devId w') := by
  have hself : (s.store devId w).mHdiDisplays devId = some w.disp := s.store_self ..
  -- a display after the step, and what it was before
  have hback : ∀ e disp', (s.store devId w').mHdiDisplays e = some disp' →
      (e = devId ∧ disp' = w'.disp) ∨ (e ≠ devId ∧ (s.store devId w).mHdiDisplays e = some disp') := by
    intro e disp' hdisp'
    by_cases he : e = devId
    · rw [he, s.store_self] at hdisp'
      cases hdisp'
      exact Or.inl ⟨he, rfl⟩
    · rw [s.store_other he] at hdisp'
      exact Or.inr ⟨he, by rw [s.store_other he]; exact hdisp'⟩
  refine ⟨ht, fun e e' x x' hx hx' heq => ?_, fun e x hx => ?_, fun e x hx hg => ?_,
    fun e x hx hg => ?_⟩
  · rcases hback e x hx with ⟨rfl, rfl⟩ | ⟨he, hx⟩ <;> rcases hback e' x' hx' with ⟨rfl, rfl⟩ | ⟨he', hx'⟩
    · rfl
    · rw [hcrtc] at heq
      exact h.crtcs _ _ _ _ hself hx' heq
    · rw [hcrtc] at heq
      exact h.crtcs _ _ _ _ hx hself heq
    · exact h.crtcs _ _ _ _ hx hx' heq
  · rcases hback e x hx with ⟨rfl, rfl⟩ | ⟨he, hx⟩
    · exact hbare (h.bare _ _ hself)
    · exact h.bare _ _ hx
  · rcases hback e x hx with ⟨rfl, rfl⟩ | ⟨he, hx⟩
    · exact hnone hg
    · exact h.unlit _ _ hx ((hgiven e he).symm.trans hg)
  · rcases hback e x hx with ⟨rfl, rfl⟩ | ⟨he, hx⟩
    · obtain ⟨hcomp, k, hk, hpos, hfd⟩ := hsome hg
      exact ⟨hcomp, k, by rw [hcrtc]; exact hk, hpos, hfd⟩
    · obtain ⟨hcomp, k, hk, hpos, hfd⟩ := h.lit _ _ hx ((hgiven e he).symm.trans hg)
      have hne : x.mCrtc.mId ≠ w.disp.mCrtc.mId := fun heq => he (h.crtcs _ _ _ _ hx hself heq)
      have hheld : (s.store devId w).Holds ⟨e, .client, .releaseFence⟩ x.mClientLayer.mReleaseFence :=
        ⟨x, hx, hpos, _, rfl, rfl⟩
      exact ⟨hcomp, k, (hnewest _ hne).trans hk, hpos, (hothers e _ he hheld).trans hfd⟩

theorem Given.unfenced {spare' : Int → Prop} (h : Given spare given (s.store devId w))
    (hu : Unfenced s devId spare' w w') : Given spare' given (s.store devId w') := by
  have hself : (s.store devId w).mHdiDisplays devId = some w.disp := s.store_self ..
  refine h.store hu.handled.tenants hu.calm.crtc hu.calm.bare (fun _ _ => rfl)
    (fun e fd _ hheld => (hu.handled.others _ ⟨rfl, rfl⟩ fd hheld).2) (fun c _ => hu.calm.newest c)
    (fun hg => ?_) (fun hg => ?_)
  · rw [hu.calm.release]
    exact h.unlit _ _ hself hg
  · obtain ⟨hcomp, k, hk, hpos, hfd⟩ := h.lit _ _ hself hg
    have hheld : (s.store devId w).Holds ⟨devId, .client, .releaseFence⟩
        w.disp.mClientLayer.mReleaseFence := ⟨w.disp, hself, hpos, _, rfl, rfl⟩
    rw [hu.calm.release, hu.calm.newest, (hu.handled.others _ ⟨rfl, rfl⟩ _ hheld).2]
    exact ⟨hu.calm.comp hcomp, k, hk, hpos, hfd⟩

/-- A frame gives the client layer the fence of its commit. -/
theorem Given.outcome (h : Given spare given (s.store devId w)) {a : FrameAnswers}
    (ho : w.Outcome (w.fence a) w') :
    Given (w.spares a spare) (if w.gives a then Function.update given devId true else given)
      (s.store devId w') := by
  have hself : (s.store devId w).mHdiDisplays devId = some w.disp := s.store_self ..
  have hhandled := ho.handled h.tenants
  cases hfence : w.fence a with
  | none =>
      rw [hfence] at ho
      have hgives : w.gives a = false := by
        unfold World.gives
        rw [hfence, Option.isSome_none, Bool.and_false]
      have hspares : w.spares a spare = spare := World.spares_of_none (by
        unfold World.leaks
        rw [hfence, ite_self])
      rw [hgives, hspares, if_neg (by simp)]
      exact h.unfenced (World.Still.unfenced ho h.tenants)
  | some n =>
      rw [hfence] at ho
      have hl : w.Landed n w' := ho
      obtain ⟨k, hn, hlog⟩ := hl.newest
      have hothers : ∀ e fd, e ≠ devId → (s.store devId w).Holds ⟨e, .client, .releaseFence⟩ fd →
          w'.drm.fds fd = w.drm.fds fd :=
        fun e fd he hheld => (hhandled.others _ (by simp [he]) fd hheld).2
      have hbare : w.disp.Bare → w'.disp.Bare := World.Still.bare_of_deeds hl.created
      rcases h.tenants.comp with hcomp | hcomp
      · -- the display has no layer yet, so it was given nothing
        have hgives : w.gives a = false := by
          unfold World.gives
          rw [hcomp]
          rfl
        have hbefore : given devId = false := by
          rw [Bool.eq_false_iff]
          intro hg
          exact absurd (hcomp.symm.trans (h.lit _ _ hself hg).1) (by simp)
        rw [hgives, if_neg (by simp)]
        refine h.store hhandled.tenants hl.crtc hbare (fun _ _ => rfl) hothers
          (fun c hc => by rw [hlog, if_neg hc]) (fun hg => ?_) (fun hg => ?_)
        · rw [World.Still.release_of_deeds (hl.stray hcomp).1]
          exact h.unlit _ _ hself hg
        · rw [hbefore] at hg
          exact absurd hg (by simp)
      · have hgives : w.gives a = true := by
          unfold World.gives
          rw [hcomp, hfence]
          rfl
        have hrelease : w'.disp.mClientLayer.mReleaseFence = n :=
          World.Still.release_of_deeds (hl.given hcomp).1
        rw [hgives, if_pos rfl]
        refine h.store hhandled.tenants hl.crtc hbare (fun e he => Function.update_of_ne he ..) hothers
          (fun c hc => by rw [hlog, if_neg hc]) (fun hg => ?_) (fun _ => ?_)
        · rw [Function.update_self] at hg
          exact absurd hg (by simp)
        · rw [hrelease]
          exact ⟨hl.comp.trans hcomp, k, by rw [hlog, if_pos rfl], hl.free.1, hn⟩

/-- What the client gets of a fence. -/
theorem Given.copied (h : Given spare given (s.store devId w)) {fence : Option Int} {fd : Int}
    (hc : w.Copied fence fd) :
    if given devId then
      ∃ k, newestFence w.disp.mCrtc.mId w.drm.log = some k ∧
        ((fence = some fd ∧ w.drm.fds fd = some ⟨.outFence k, false⟩) ∨
          (fd = -1 ∧ ∀ n, fence = some n → n < 0 ∨ w.drm.fds n ≠ none))
    else fd = -1 := by
  have hself : (s.store devId w).mHdiDisplays devId = some w.disp := s.store_self ..
  unfold World.Copied at hc
  split
  · next hg =>
      obtain ⟨-, k, hk, -, hfd⟩ := h.lit _ _ hself hg
      have hfd' : w.drm.fds w.disp.mClientLayer.mReleaseFence = some ⟨.outFence k, true⟩ := hfd
      rw [hfd'] at hc
      exact ⟨k, hk, hc⟩
  · next hg =>
      rw [h.unlit _ _ hself (Bool.eq_false_iff.2 hg), h.tenants.closed (by decide)] at hc
      exact hc

end

theorem Given.clientFd {given : Nat → Bool} (h : Given spare given s) (fd : Int)
    (file : Option File) : Given spare given { s with drm := s.drm.clientFd fd file } := by
  obtain ⟨fds, hfds⟩ := clientFd_fds s.drm fd file
  refine ⟨h.tenants.clientFd fd file, h.crtcs, h.bare, h.unlit, fun e disp hdisp hg => ?_⟩
  obtain ⟨hcomp, k, hk, hpos, hfd⟩ := h.lit e disp hdisp hg
  refine ⟨hcomp, k, ?_, hpos, ?_⟩
  · rw [hfds]
    exact hk
  · rcases s.drm.clientFd_cases fd file with heq | ⟨-, hclient, heq⟩
    · rw [heq]
      exact hfd
    · rw [heq]
      refine (Function.update_of_ne ?_ _ _).trans hfd
      rintro rfl
      exact absurd (hclient _ hfd) (by simp)

/-- A call keeps the fences with their displays, and the client gets what it may. -/
theorem Given.sessionStep {given : Nat → Bool} (h : Given spare given s) (call : Call) :
    Post (Frame.sessionStep call) s
      (fun ret s' => (∃ spare', Given spare' (noteGiven s given call) s') ∧
        Returns (noteGiven s given call) call ret s')
      (fun _ _ => True) := by
  cases call with
  | clientFd fd file => exact ⟨⟨spare, h.clientFd fd file⟩, trivial⟩
  | display devId op =>
      apply callDisplayFunction_post
      · intro hnone
        have hframe : s.frame (.display devId op) = none := by
          unfold Session.frame
          dsimp only
          rw [hnone]
          rfl
        unfold noteGiven
        rw [hframe]
        refine ⟨⟨spare, h⟩, ?_⟩
        cases op with
        | commit pre a fence =>
            intro disp hdisp
            rw [hnone] at hdisp
            exact absurd hdisp (by simp)
        | getDisplayReleaseFence mLayers a => exact fun fd hfd => absurd hfd (by simp)
        | setDisplayClientBuffer | pushFirstFrame | setDisplayMode | prepareDisplayLayers
        | createLayer | closeLayer | setLayerBuffer | setDisplayPowerStatus
        | setDisplayBacklight => trivial
      · intro disp hdisp
        have hstore := h
        rw [← Session.store_world hdisp] at hstore
        have hframe : s.frame (.display devId op) =
            (op.frame (s.world disp)).map fun f => (devId, f) := by
          unfold Session.frame
          dsimp only
          rw [hdisp]
          rfl
        refine (step_done hstore.tenants op).mono ?_ (fun _ _ _ => trivial)
        rintro ret w' ⟨hdone, hret⟩
        have hgiven : ∃ spare', Given spare' (noteGiven s given (.display devId op))
            (s.store devId w') := by
          unfold noteGiven
          rw [hframe]
          unfold OpDone at hdone
          cases hop : op.frame (s.world disp) with
          | none =>
              rw [hop] at hdone
              exact ⟨_, hstore.unfenced hdone⟩
          | some f =>
              obtain ⟨w₁, a⟩ := f
              rw [hop] at hdone
              obtain ⟨hbefore, w₂, ho, hafter⟩ := hdone
              exact ⟨_, ((hstore.unfenced hbefore).outcome ho).unfenced hafter⟩
        refine ⟨hgiven, ?_⟩
        obtain ⟨spare', hgiven⟩ := hgiven
        cases op with
        | commit pre a fence =>
            obtain ⟨fd, hfences, hcopied⟩ := hret
            intro disp' hdisp'
            rw [s.store_self] at hdisp'
            cases hdisp'
            exact ⟨fd, hfences, hgiven.copied hcopied⟩
        | getDisplayReleaseFence mLayers a => exact hret (h.bare devId disp hdisp)
        | setDisplayClientBuffer | pushFirstFrame | setDisplayMode | prepareDisplayLayers
        | createLayer | closeLayer | setLayerBuffer | setDisplayPowerStatus
        | setDisplayBacklight => trivial

/-- **The fence the client gets.** In every run, `Commit` gives the client a copy of the fence of
the newest frame of that display which the kernel accepted, also when the frame of this `Commit`
is refused; and no created layer ever gets a fence. -/
theorem commits_return (ht : Tenants spare s) (h : Unlit s) (calls : List Call) :
    Meets (noting noteGiven sessionStep) CallReturns (s, fun _ => false) calls := by
  have hstart : (fun x : Session × (Nat → Bool) => ∃ spare, Given spare x.2 x.1) (s, fun _ => false) :=
    ⟨spare, ht, h.crtcs, h.bare, fun e disp hdisp _ => h.unlit e disp hdisp,
      fun _ _ _ hg => absurd hg (by simp)⟩
  refine meets_imp (C := fun _ _ => True)
    (I := fun x : Session × (Nat → Bool) => ∃ spare, Given spare x.2 x.1) ?_ ?_ hstart (meets_true _ _)
  · rintro x call ⟨spare, hx⟩ -
    rw [post_noting]
    exact (hx.sessionStep call).mono (fun _ _ hs => hs.1) (fun _ _ _ => trivial)
  · rintro x call ⟨spare, hx⟩ -
    exact (hx.sessionStep call).mono (fun _ _ hs => hs.2) (fun _ _ _ => trivial)

end

/-! ## A frame before the first layer -/

theorem twoDisplays_cases {devId : Nat} {disp : DrmDisplay}
    (h : twoDisplays.mHdiDisplays devId = some disp) :
    (devId = 0 ∧ disp.mCrtc.mId = 51 ∨ devId = 1 ∧ disp.mCrtc.mId = 52) ∧
      (∀ p l, disp.layer p = some l → l = {}) ∧ disp.mCompLayers = [] := by
  simp only [twoDisplays] at h
  split at h
  · next hdev =>
      cases h
      refine ⟨Or.inl ⟨hdev, rfl⟩, fun p l hl => ?_, rfl⟩
      cases p <;> cases hl
      rfl
  · split at h
    · next hdev =>
        cases h
        refine ⟨Or.inr ⟨hdev, rfl⟩, fun p l hl => ?_, rfl⟩
        cases p <;> cases hl
        rfl
    · exact absurd h (by simp)

theorem tenants_twoDisplays : Tenants (fun _ => False) twoDisplays := by
  have hnobody : ∀ k fd, ¬ twoDisplays.Holds k fd := by
    rintro k fd ⟨disp, hdisp, hpos, l, hl, hfd⟩
    obtain rfl := (twoDisplays_cases hdisp).2.1 _ l hl
    have hminus : HdiDrmLayer.fdOf {} k.member = -1 := by cases k.member <;> rfl
    omega
  refine ⟨⟨fun hk => absurd hk (hnobody _ _), fun hk => absurd hk (hnobody _ _), fun h => h.elim, ?_⟩,
    fun _ _ => rfl, fun devId disp h => Or.inl (twoDisplays_cases h).2.2⟩
  rintro r ⟨e, he, -⟩
  exact absurd he (by simp [twoDisplays])

theorem unlit_twoDisplays : Unlit twoDisplays where
  crtcs := by
    intro devId devId' disp disp' h h' heq
    rcases (twoDisplays_cases h).1 with ⟨rfl, hid⟩ | ⟨rfl, hid⟩ <;>
      rcases (twoDisplays_cases h').1 with ⟨rfl, hid'⟩ | ⟨rfl, hid'⟩ <;> omega
  bare := by
    intro devId disp h id l hl
    rw [(twoDisplays_cases h).2.1 (.created id) l hl]
  unlit := by
    intro devId disp h
    rw [(twoDisplays_cases h).2.1 .client _ rfl]

/-- A commit before `SetLayers`, a frame that is refused and files that stay open. -/
def earlyCommit : List Call :=
  [.display 0 (.commit true (frameAnswers 61 true (some 40)) (some 42)),
    .display 0 (.pushFirstFrame (firstFrame 10 100 7680 20 (frameAnswers 62 true (some 41)))),
    .display 0 (.setDisplayBacklight 80 (some 6) true),
    .display 1 (.setDisplayPowerStatus .on (some 7) fun _ => 0),
    .display 0 (.commit true (frameAnswers 63 true none) (some 42))]

theorem descriptors_accounted_early :
    Tenants (fun fd => False ∨ fd ∈ (twoDisplays.ledgerAfter earlyCommit).2)
        (twoDisplays.ledgerAfter earlyCommit).1 ∧
      Meets sessionStep CallHandsOff twoDisplays earlyCommit ∧
      (twoDisplays.ledgerAfter earlyCommit).2 = [7, 6, 5, 10, 40] :=
  ⟨(descriptors_accounted tenants_twoDisplays earlyCommit).1,
    (descriptors_accounted tenants_twoDisplays earlyCommit).2, by decide +kernel⟩

theorem commits_return_early :
    Meets (noting noteGiven sessionStep) CallReturns (twoDisplays, fun _ => false) earlyCommit ∧
      returns (run sessionStep earlyCommit) twoDisplays
        (fun rets _ => decide (rets.map Ret.fences = [[-1], [], [], [], [42]])) = true :=
  ⟨commits_return tenants_twoDisplays unlit_twoDisplays earlyCommit, by decide +kernel⟩

end QemuHal.Common.Frame
