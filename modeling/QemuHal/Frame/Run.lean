import QemuHal.Frame.Calm

/-!
# Runs of a display

From a fresh display through `Init`, which commits a first frame, to any sequence
of the operations of a client.
-/

namespace QemuHal

open Exec

/-! ## `Commit` -/

/-- The rule for `Commit`: the fence of the client layer is popped after the frame. -/
theorem commit_post {w : World} (h : WellFormed w) {a : FrameAnswers}
    {Q : Int → World → Prop} {E : Fault → World → Prop}
    (happly : Post (apply a) w (fun _ w' => ∀ p : Parts, p.Of w' →
      Q (p.layer .primary).getReleaseFenceFd.1
        (w'.setLayer .client (p.layer .primary).getReleaseFenceFd.2)) E) :
    Post (commit a) w (fun r w' => r.1 = .success ∧ Q r.2 w') E := by
  obtain ⟨p, hp, -⟩ := h.parts
  have hwf := happly.and (h.apply a)
  unfold commit composerCommit popReleaseFence
  simp only [post_bind]
  refine post_of_ok (theComposition_of hp.comp) ?_
  refine hwf.mono ?_ (fun _ _ hE => hE.1)
  rintro ret w' ⟨hQ, h'⟩
  obtain ⟨p', hp', -⟩ := h'.parts
  have hpop : Post (do
      let l ← derefLayer .client
      modify (·.setLayer .client l.getReleaseFenceFd.2)
      return l.getReleaseFenceFd.1 : Hal Int) w' (fun fd w'' => Q fd w'') E := by
    rw [post_bind]
    refine post_of_ok (derefLayer_of (hp'.layer .primary)) ?_
    simp only [post_bind, post_modify, post_pure]
    exact hQ p' hp'
  simp only [post_bind, post_modify, post_pure] at hpop ⊢
  split <;> simpa using hpop

theorem HdiLayer.getReleaseFenceFd_layer (l : HdiLayer) :
    ∃ fences, l.getReleaseFenceFd.2 = { l with releaseFences_ := fences } := by
  unfold HdiLayer.getReleaseFenceFd
  split
  · exact ⟨l.releaseFences_, rfl⟩
  · exact ⟨_, rfl⟩

/-- The display once the front of the client layer's queue is taken. -/
def Parts.popped (p : Parts) : Parts where
  comp := p.comp
  layer := fun s =>
    if s = .primary then (p.layer s).getReleaseFenceFd.2 else p.layer s

theorem Parts.Of.popped {w : World} {p : Parts} (h : p.Of w) :
    p.popped.Of (w.setLayer .client (p.layer .primary).getReleaseFenceFd.2) where
  comp := by simpa [Parts.popped] using h.comp
  layer := by
    intro s
    cases s with
    | primary => simp [Parts.popped, Slot.layer]
    | cursor =>
        rw [World.layerAt_setLayer]
        simpa [Parts.popped, Slot.layer] using h.layer .cursor

theorem Parts.popped_layer (p : Parts) (s : Slot) :
    ∃ fences, p.popped.layer s = { p.layer s with releaseFences_ := fences } := by
  unfold Parts.popped
  dsimp only
  split
  · exact HdiLayer.getReleaseFenceFd_layer _
  · exact ⟨(p.layer s).releaseFences_, rfl⟩

theorem WellFormed.popped {w : World} {p : Parts} (h : WellFormed w) (hp : p.Of w) :
    WellFormed (w.setLayer .client (p.layer .primary).getReleaseFenceFd.2) := by
  refine h.setParts hp hp.popped (by simpa using h.sound) (by simp) (by simp) rfl rfl fun s => ?_
  obtain ⟨fences, hl⟩ := p.popped_layer s
  rw [hl]
  exact ⟨rfl, rfl, id⟩

theorem Calm.handOver (w : World) (fd : Int) : Calm w (w.setDrm (w.drm.handOver fd)) :=
  Calm.setDrm (w.drm.handOver_frame fd)

/-! ## Initialisation -/

/-- A display just constructed. The process has put nothing on the planes it may
take. -/
structure Fresh (w : World) : Prop where
  mComposer : w.disp.mComposer = none
  mLayers : w.disp.mLayers = []
  mLayersMap : ∀ id, w.disp.mLayersMap id = none
  layers : ∀ n, w.disp.layers n = none
  mChangeLayers : w.disp.mChangeLayers = []
  sound : w.drm.Sound
  distinctPlanes : (w.planes.map DrmPlane.mId).Nodup
  dark : ∀ p ∈ w.planes, p.isIdle = true →
    FbKept p.mId w.drm.log ∧
      ∀ c ∈ commits w.drm.log, c.pset.values (.plane p.mId) .fbId = []

/-- A display that `Init` has brought up, whatever the kernel answered. -/
def Initialised (w : World) : Prop :=
  ∃ w₀ a, Fresh w₀ ∧ drmDisplayInit a w₀ = .ok .success w

/-- What `HdiDrmComposition::Init` leaves behind when it succeeds. -/
structure HdiDrmComposition.InitSpec (planes : List DrmPlane) (c : HdiDrmComposition) :
    Prop where
  empty : c = {
    mPrimPlanes := c.mPrimPlanes
    mOverlayPlanes := c.mOverlayPlanes
    mPlanes := c.mPlanes
    mCursorPlanes := c.mCursorPlanes }
  nonempty : c.mPlanes ≠ []
  distinct : (planes.map DrmPlane.mId).Nodup →
    ((c.mPlanes ++ c.mCursorPlanes).map DrmPlane.mId).Nodup
  idle : ∀ q ∈ c.mPlanes ++ c.mCursorPlanes, ∃ p ∈ planes, p.mId = q.mId ∧ p.isIdle = true

theorem HdiDrmComposition.init_spec {pipe : UInt32} {planes planes' : List DrmPlane}
    {c : HdiDrmComposition}
    (h : HdiDrmComposition.init pipe planes = (.success, c, planes')) : c.InitSpec planes := by
  -- every plane found comes from the device's list, under its own type
  have hprim : ∀ q ∈ (getDrmPlane pipe .primary planes).1,
      ∃ p ∈ planes, p.mId = q.mId ∧ p.mType = .primary ∧ p.isIdle = true := by
    intro q hq
    obtain ⟨p, hp, hm, rfl⟩ := getDrmPlane_mem hq
    unfold planeMatches at hm
    simp only [Bool.and_eq_true, decide_eq_true_eq] at hm
    exact ⟨p, hp, rfl, hm.2.symm, hm.1.1⟩
  have hover : ∀ q ∈ (getDrmPlane pipe .overlay (getDrmPlane pipe .primary planes).2).1,
      ∃ p ∈ planes, p.mId = q.mId ∧ p.mType = .overlay ∧ p.isIdle = true := by
    intro q hq
    obtain ⟨p, hp, hm, rfl⟩ := getDrmPlane_mem hq
    obtain ⟨p₀, hp₀, hid, htype, hidle⟩ := getDrmPlane_snd_mem hp
    unfold planeMatches at hm
    simp only [Bool.and_eq_true, decide_eq_true_eq] at hm
    exact ⟨p₀, hp₀, hid.symm, htype.symm.trans hm.2.symm, hidle hm.1.1⟩
  have hcur : ∀ q ∈ (getDrmPlane pipe .cursor
        (getDrmPlane pipe .overlay (getDrmPlane pipe .primary planes).2).2).1,
      ∃ p ∈ planes, p.mId = q.mId ∧ p.mType = .cursor ∧ p.isIdle = true := by
    intro q hq
    obtain ⟨p, hp, hm, rfl⟩ := getDrmPlane_mem hq
    obtain ⟨p₁, hp₁, hid₁, htype₁, hidle₁⟩ := getDrmPlane_snd_mem hp
    obtain ⟨p₀, hp₀, hid, htype, hidle⟩ := getDrmPlane_snd_mem hp₁
    unfold planeMatches at hm
    simp only [Bool.and_eq_true, decide_eq_true_eq] at hm
    exact ⟨p₀, hp₀, (hid₁.trans hid).symm, (htype₁.trans htype).symm.trans hm.2.symm,
      hidle (hidle₁ hm.1.1)⟩
  unfold HdiDrmComposition.init at h
  dsimp only at h
  split at h
  · exact absurd (congrArg Prod.fst h) (by simp)
  · next hne =>
      simp only [Prod.mk.injEq, true_and] at h
      obtain ⟨rfl, -⟩ := h
      refine ⟨rfl, ?_, fun hnodup => ?_, ?_⟩
      · intro hnil
        exact hne (by simpa using congrArg List.length (List.append_eq_nil_iff.1 hnil).1)
      · have hdisj : ∀ {t t' : PlaneType} {l l' : List DrmPlane}, t ≠ t' →
            (∀ q ∈ l, ∃ p ∈ planes, p.mId = q.mId ∧ p.mType = t ∧ p.isIdle = true) →
            (∀ q ∈ l', ∃ p ∈ planes, p.mId = q.mId ∧ p.mType = t' ∧ p.isIdle = true) →
            List.Disjoint (l.map DrmPlane.mId) (l'.map DrmPlane.mId) := by
          intro t t' l l' hne hl hl' id h h'
          obtain ⟨q, hq, rfl⟩ := List.mem_map.1 h
          obtain ⟨q', hq', hid⟩ := List.mem_map.1 h'
          obtain ⟨p, hp, hpid, htype, -⟩ := hl q hq
          obtain ⟨p', hp', hpid', htype', -⟩ := hl' q' hq'
          have : p = p' := List.inj_on_of_nodup_map hnodup hp hp'
            (hpid.trans (hid.symm.trans hpid'.symm))
          exact hne (htype.symm.trans (this ▸ htype'))
        have hids : ((getDrmPlane pipe .primary planes).2.map DrmPlane.mId).Nodup := by
          rw [getDrmPlane_ids]
          exact hnodup
        have hids' : ((getDrmPlane pipe .overlay
            (getDrmPlane pipe .primary planes).2).2.map DrmPlane.mId).Nodup := by
          rw [getDrmPlane_ids]
          exact hids
        simp only [List.map_append]
        refine ((getDrmPlane_nodup hnodup).append (getDrmPlane_nodup hids)
          (hdisj (by simp) hprim hover)).append (getDrmPlane_nodup hids') ?_
        intro id h h'
        rcases List.mem_append.1 h with h | h
        · exact hdisj (by simp) hprim hcur h h'
        · exact hdisj (by simp) hover hcur h h'
      · intro q hq
        rcases List.mem_append.1 hq with hq | hq
        · rcases List.mem_append.1 hq with hq | hq
          · obtain ⟨p, hp, hid, -, hidle⟩ := hprim q hq
            exact ⟨p, hp, hid, hidle⟩
          · obtain ⟨p, hp, hid, -, hidle⟩ := hover q hq
            exact ⟨p, hp, hid, hidle⟩
        · obtain ⟨p, hp, hid, -, hidle⟩ := hcur q hq
          exact ⟨p, hp, hid, hidle⟩

/-- The display when `PushFirstFrame` comes to `Apply`: the client layer has the
allocated buffer and is the only composition layer. -/
def World.primed (w : World) (c : HdiDrmComposition) (d : Drm) (buffer : BufferHandle)
    (a : DupAnswers) : World :=
  let r := HdiLayerBuffer.new d buffer a.buffer
  ((w.setDrm r.2).setLayer .client { mHdiBuffer := some r.1 }).setComposition
    { c with mCompLayers := [.client] }

theorem setLayers_nil {w : World} {c : HdiDrmComposition} (h : w.disp.mComposer = some c) :
    setLayers [] w = .ok .success (w.setComposition { c with mCompLayers := [.client] }) := by
  unfold setLayers selectDevices
  rw [pure_bind, bind_of_ok (theComposition_of h)]
  rfl

theorem pushFirstFrame_post {w : World} {c : HdiDrmComposition}
    (hcomp : w.disp.mComposer = some c) (hclient : w.disp.mClientLayer = some {})
    (a : InitAnswers) :
    Post (pushFirstFrame a) w
      (fun r w' => r = .success → ∃ mode d buffer ret,
        w.drm.allocMem mode a.allocMem = (some buffer, d) ∧
        apply a.firstFrame (w.primed c d buffer a.dup) = .ok ret w')
      (fun _ _ => True) := by
  unfold pushFirstFrame
  rw [post_bind, post_get]
  cases w.disp.mConnector.getModeFromId w.disp.mCrtc.mActiveModeId with
  | none => simp
  | some mode =>
      dsimp only
      rcases halloc : w.drm.allocMem mode a.allocMem with ⟨buffer, d⟩
      cases buffer with
      | none => simp
      | some buffer =>
          dsimp only
          rw [post_bind]
          refine post_of_ok (derefLayer_of (p := .client) hclient) ?_
          have hset : ({} : HdiLayer).setLayerBuffer d (some buffer) (-1) a.dup =
              (.success, { mHdiBuffer := some (HdiLayerBuffer.new d buffer a.dup.buffer).1 },
                (HdiLayerBuffer.new d buffer a.dup.buffer).2) := rfl
          rw [hset]
          simp only [post_bind, post_set, post_pure]
          refine post_of_ok (setLayers_nil hcomp) ?_
          exact (post_self (apply a.firstFrame) (w.primed c d buffer a.dup)).mono
            (fun ret w' happ _ => ⟨mode, d, buffer, ret, halloc, happ⟩) (fun _ _ _ => trivial)

theorem chosePreferenceMode_post {w : World} {c : HdiDrmComposition}
    (hcomp : w.disp.mComposer = some c) (hclient : w.disp.mClientLayer = some {})
    (a : InitAnswers) :
    Post (chosePreferenceMode a) w
      (fun r w' => r = .success → ∃ mCrtc mode d buffer ret,
        w.drm.allocMem mode a.allocMem = (some buffer, d) ∧
        apply a.firstFrame (World.primed { w with disp := { w.disp with mCrtc } } c d buffer
          a.dup) = .ok ret w')
      (fun _ _ => True) := by
  unfold chosePreferenceMode
  simp only [post_bind, post_get]
  generalize (if w.disp.mConnector.mPreferenceId = invalidModeId then 0
    else w.disp.mConnector.mPreferenceId) = modeId
  have hpush := fun mCrtc => pushFirstFrame_post
    (w := { w with disp := { w.disp with mCrtc := mCrtc } }) hcomp hclient a
  unfold setDisplayMode
  simp only [post_bind, post_get, post_set, post_pure]
  split
  · simp
  · refine (hpush _).mono ?_ (fun _ _ _ => trivial)
    intro r w' hpush hr
    obtain ⟨mode, d, buffer, ret, halloc, happ⟩ := hpush hr
    exact ⟨_, mode, d, buffer, ret, halloc, happ⟩

theorem hdiDisplayInit_post (w : World) :
    Post hdiDisplayInit w
      (fun r w' => r = .success → ∃ ids id, w' = { w with
        displayIds := ids
        disp := { w.disp with
          mId := id
          mClientLayer := some {}
          mCursorLayer := some {} } })
      (fun _ _ => True) := by
  unfold hdiDisplayInit
  rw [post_bind, post_get]
  cases w.displayIds.getIdleId invalidDisplayId with
  | none => trivial
  | some r =>
      obtain ⟨id, ids⟩ := r
      dsimp only
      split
      · simp
      · simp only [post_bind, post_set, post_pure]
        exact fun _ => ⟨ids, id, rfl⟩

/-- **`Init` up to the first frame.** When it succeeds, it has run `Apply` on the
display `w₁.primed`, where `w₁` differs from the fresh display in its ids, its
layers, its CRTC, its composition and the planes taken. -/
theorem drmDisplayInit_post (w : World) (a : InitAnswers) :
    Post (drmDisplayInit a) w
      (fun r w' => r = .success → ∃ (w₁ : World) (c : HdiDrmComposition) (mode : DrmMode) (d : Drm)
          (buffer : BufferHandle) (ret : DispStatus),
        c.InitSpec w.planes ∧ w₁.disp.mComposer = some c ∧
        w₁.drm = w.drm ∧
        w₁.disp = { w.disp with
          mId := w₁.disp.mId
          mClientLayer := some {}
          mCursorLayer := some {}
          mComposer := w₁.disp.mComposer
          mCrtc := w₁.disp.mCrtc } ∧
        w.drm.allocMem mode a.allocMem = (some buffer, d) ∧
        apply a.firstFrame (w₁.primed c d buffer a.dup) = .ok ret w')
      (fun _ _ => True) := by
  unfold drmDisplayInit
  rw [post_bind]
  refine (hdiDisplayInit_post w).mono ?_ (fun _ _ _ => trivial)
  intro r w' hr
  split
  · simp
  · next hsucc =>
      obtain ⟨ids, id, rfl⟩ := hr (not_not.1 hsucc)
      split
      · simp
      · simp only [post_bind, post_get]
        rcases hinit : HdiDrmComposition.init w.disp.mCrtc.mPipe w.planes with ⟨ret, c, planes⟩
        dsimp only
        simp only [post_set]
        split
        · simp
        · next hok =>
            have hspec : c.InitSpec w.planes :=
              HdiDrmComposition.init_spec ((not_not.1 hok) ▸ hinit)
            simp only [setTheComposition, post_bind, post_modify, post_get, post_set]
            split
            · simp
            · refine (chosePreferenceMode_post (c := c) rfl rfl a).mono ?_ (fun _ _ _ => trivial)
              intro r w' hpush hr
              obtain ⟨mCrtc, mode, d, buffer, ret, halloc, happ⟩ := hpush hr
              refine ⟨_, c, mode, d, buffer, ret, hspec, ?_, ?_, ?_, halloc, happ⟩ <;> rfl

/-- The parts of a primed display. -/
def HdiDrmComposition.primedParts (c : HdiDrmComposition) (buf : HdiLayerBuffer) : Parts where
  comp := { c with mCompLayers := [.client] }
  layer := fun s =>
    match s with
    | .primary => { mHdiBuffer := some buf }
    | .cursor => {}

theorem primedParts_of {w : World} (c : HdiDrmComposition) (d : Drm) (buffer : BufferHandle)
    (a : DupAnswers) (hcursor : w.disp.mCursorLayer = some {}) :
    (c.primedParts (HdiLayerBuffer.new d buffer a.buffer).1).Of (w.primed c d buffer a) where
  comp := rfl
  layer := by
    intro s
    cases s with
    | primary => rfl
    | cursor => exact hcursor

theorem allocMem_frame {d d' : Drm} {mode : DrmMode} {answer : Option (Int × Nat × Int)}
    {buffer : BufferHandle} (h : d.allocMem mode answer = (some buffer, d')) :
    ∃ fds, d' = { d with fds := fds } := by
  unfold Drm.allocMem at h
  split at h
  · split at h
    · simp only [Prod.mk.injEq] at h
      exact ⟨_, h.2.symm⟩
    · simp at h
  · simp at h

theorem primed_wellFormed {w₀ w : World} {c : HdiDrmComposition} {d : Drm}
    {buffer : BufferHandle} {a : DupAnswers} (hfresh : Fresh w₀) (hc : c.InitSpec w₀.planes)
    (hd : ∃ fds, d = { w₀.drm with fds := fds })
    (hdisp : w.disp = { w₀.disp with
      mId := w.disp.mId
      mClientLayer := some {}
      mCursorLayer := some {}
      mComposer := w.disp.mComposer
      mCrtc := w.disp.mCrtc }) : WellFormed (w.primed c d buffer a) := by
  obtain ⟨fds, rfl⟩ := hd
  obtain ⟨fds', hnew⟩ := HdiLayerBuffer.new_frame { w₀.drm with fds := fds } buffer a.buffer
  have hdrm : (w.primed c { w₀.drm with fds := fds } buffer a).drm = { w₀.drm with fds := fds' } :=
    hnew
  have hcursor : w.disp.mCursorLayer = some {} := by rw [hdisp]
  have hno : ∀ s b, ¬ ((c.primedParts
      (HdiLayerBuffer.new { w₀.drm with fds := fds } buffer a.buffer).1).layer s).Owns b := by
    intro s b hb
    cases s <;> rcases hb with hb | hb <;> exact absurd hb (by simp [HdiDrmComposition.primedParts])
  refine ⟨?_, ⟨_, primedParts_of c _ buffer a hcursor, ?_⟩, ?_⟩
  · rw [hdrm]
    exact hfresh.sound.setFds fds'
  · refine ⟨rfl, ?_, hc.nonempty, hc.distinct hfresh.distinctPlanes, ?_, ?_, ?_,
      fun s b hb => absurd hb (hno s b), ?_, fun s _ b hb => absurd hb (hno s b), ?_⟩
    · show c.mCursorLayers = [] ∨ _
      rw [hc.empty]
      exact Or.inl rfl
    · simp [HdiDrmComposition.primedParts]
    · intro hne
      refine absurd ?_ hne
      show c.mCursorLayers = []
      rw [hc.empty]
    · intro s
      show ({ c with mCompLayers := [.client] } : HdiDrmComposition).currentGem s = _
      rw [hc.empty]
      cases s <;> rfl
    · intro s b hb
      exact absurd (Or.inl hb) (hno s b)
    · intro s b hb
      have hnone : (c.primedParts (HdiLayerBuffer.new { w₀.drm with fds := fds } buffer
          a.buffer).1).comp.lastGem s = none := by
        show ({ c with mCompLayers := [.client] } : HdiDrmComposition).lastGem s = _
        rw [hc.empty]
        cases s <;> rfl
      rw [hnone] at hb
      exact absurd hb (by simp)
  · intro n l hl
    have : w.disp.layers n = some l := hl
    rw [hdisp] at this
    exact absurd this (by simp [hfresh.layers])

/-- What an initialised display has been through. -/
theorem Initialised.primed {w : World} (h : Initialised w) :
    ∃ (w₀ w₁ : World) (c : HdiDrmComposition) (mode : DrmMode) (d : Drm)
      (buffer : BufferHandle) (a : InitAnswers) (ret : DispStatus),
      Fresh w₀ ∧ c.InitSpec w₀.planes ∧ w₁.drm = w₀.drm ∧
      w₁.disp = { w₀.disp with
        mId := w₁.disp.mId
        mClientLayer := some {}
        mCursorLayer := some {}
        mComposer := w₁.disp.mComposer
        mCrtc := w₁.disp.mCrtc } ∧
      w₀.drm.allocMem mode a.allocMem = (some buffer, d) ∧
      apply a.firstFrame (w₁.primed c d buffer a.dup) = .ok ret w := by
  obtain ⟨w₀, a, hfresh, hinit⟩ := h
  obtain ⟨w₁, c, mode, d, buffer, ret, hc, -, hdrm, hdisp, halloc, happ⟩ :=
    (drmDisplayInit_post w₀ a).of_ok hinit rfl
  exact ⟨w₀, w₁, c, mode, d, buffer, a, ret, hfresh, hc, hdrm, hdisp, halloc, happ⟩

theorem Initialised.wellFormed {w : World} (h : Initialised w) : WellFormed w := by
  obtain ⟨w₀, w₁, c, mode, d, buffer, a, ret, hfresh, hc, hdrm, hdisp, halloc, happ⟩ := h.primed
  have hwf : WellFormed (w₁.primed c d buffer a.dup) :=
    primed_wellFormed hfresh hc (allocMem_frame halloc) hdisp
  exact (hwf.apply a.firstFrame).of_ok happ

/-! ## Steps and runs -/

/-- The step rule: a property of well-formed displays survives an operation if it
survives calm steps, the popping of a fence and, for `Commit`, the frame. -/
theorem step_post {w : World} {op : Op} {I : World → Prop} {E : Fault → World → Prop}
    (h : WellFormed w) (hI : I w)
    (hcalm : ∀ {w w'}, WellFormed w → Calm w w' → I w → I w')
    (hpop : ∀ {w : World} {p : Parts}, WellFormed w → p.Of w → I w →
      I (w.setLayer .client (p.layer .primary).getReleaseFenceFd.2))
    (hE : ∀ e w', e.Elsewhere → WellFormed w' → I w' → E e w')
    (hcommit : ∀ a, op = .commit a → Post (apply a) w (fun _ w' => I w') E) :
    Post (step op) w (fun _ w' => WellFormed w' ∧ I w') E := by
  by_cases hop : ∃ a, op = .commit a
  · obtain ⟨a, rfl⟩ := hop
    have happly := (hcommit a rfl).and (h.apply a)
    have hpost := commit_post h (a := a) (Q := fun _ w' => WellFormed w' ∧ I w') (E := E)
      (happly.mono (fun _ w' hw' p hp => ⟨hw'.2.popped hp, hpop hw'.2 hp hw'.1⟩)
        (fun _ _ hw' => hw'.1))
    show Post (commit a >>= _) w _ _
    rw [post_bind]
    refine hpost.mono ?_ (fun _ _ hw' => hw')
    rintro ⟨ret, fd⟩ w' ⟨-, hwf, hI'⟩
    simp only [post_bind, post_modify, post_pure]
    exact ⟨hwf.calm (Calm.handOver w' fd), hcalm hwf (Calm.handOver w' fd) hI'⟩
  · have hno : ∀ a, op ≠ .commit a := fun a ha => hop ⟨a, ha⟩
    exact (isCalm_step op hno w h.noneOwned).mono
      (fun _ w' hc => ⟨h.calm hc, hcalm h hc hI⟩)
      (fun e w' hc => hE e w' hc.1 (h.calm hc.2) (hcalm h hc.2 hI))

/-- Every operation keeps a display well-formed. -/
theorem WellFormed.step {w : World} (h : WellFormed w) (op : Op) :
    Post (QemuHal.step op) w (fun _ w' => WellFormed w') (fun _ _ => True) := by
  have hstep : Post (QemuHal.step op) w (fun _ w' => WellFormed w' ∧ True) (fun _ _ => True) := by
    apply step_post h trivial
    · exact fun _ _ _ => trivial
    · exact fun _ _ _ => trivial
    · exact fun _ _ _ _ _ => trivial
    · exact fun a _ => (h.apply a).mono (fun _ _ _ => trivial) (fun _ _ _ => trivial)
  exact hstep.mono (fun _ _ hw => hw.1) (fun _ _ _ => trivial)

/-! ## A small display -/

/-- A process that has done nothing yet, and a display with one mode, one primary
plane and these cursor planes. -/
def smallDisplay (cursorPlanes : List Nat) : World where
  drm := {
    drmFd := 3
    fds := fun _ => none
    handles := []
    fbs := []
    gems := fun _ => none
    nextGem := 0
    log := [] }
  layerIds := {}
  displayIds := {}
  planes := { mId := 40, mPossibleCrtcs := 1, mType := .primary } ::
    cursorPlanes.map fun id => { mId := id, mPossibleCrtcs := 1, mType := .cursor }
  disp := {
    mConnector := {
      mId := 31
      mEncoderId := 32
      mPossibleEncoders := [32]
      mModes := [(0, { hdisplay := 640, vdisplay := 480 })]
      mPreferenceId := 0 }
    mCrtc := { mId := 33, mPipe := 0 } }

theorem smallDisplay_fresh {cursorPlanes : List Nat} (h : (40 :: cursorPlanes).Nodup) :
    Fresh (smallDisplay cursorPlanes) where
  mComposer := rfl
  mLayers := rfl
  mLayersMap := fun _ => rfl
  layers := fun _ => rfl
  mChangeLayers := rfl
  sound := ⟨fun _ _ => rfl, by simp [smallDisplay], by simp [smallDisplay], by simp [smallDisplay]⟩
  distinctPlanes := by
    have hids : (smallDisplay cursorPlanes).planes.map DrmPlane.mId = 40 :: cursorPlanes := by
      simp [smallDisplay, Function.comp_def]
    rwa [hids]
  dark := fun _ _ _ => ⟨trivial, by simp [smallDisplay, commits]⟩

/-- Answers that bring the small display up: the first frame's buffer is the dma-buf
`100` under descriptor `10`, and its fence has descriptor `20`. -/
def smallInit : InitAnswers where
  allocMem := some (10, 100, 2560)
  dup := { buffer := some 11 }
  firstFrame := {
    plane := fun _ => { prime := { handle := some 1, fb := some 1 } }
    createPropertyBlob := some 70
    atomicCommit := some 20 }

/-- The small display after `Init`. Only the kernel evaluates it. -/
@[irreducible] def smallBoot (cursorPlanes : List Nat) : World :=
  match drmDisplayInit smallInit (smallDisplay cursorPlanes) with
  | .ok _ w => w
  | .error _ w => w

theorem smallBoot_eq {cursorPlanes : List Nat}
    (h : returns (drmDisplayInit smallInit) (smallDisplay cursorPlanes)
      (fun ret _ => decide (ret = .success)) = true) :
    drmDisplayInit smallInit (smallDisplay cursorPlanes) = .ok .success (smallBoot cursorPlanes) := by
  obtain ⟨ret, w, hinit, hret⟩ := returns_iff.1 h
  obtain rfl := of_decide_eq_true hret
  rw [smallBoot, hinit]

theorem smallBoot_initialised {cursorPlanes : List Nat} (hids : (40 :: cursorPlanes).Nodup)
    (h : returns (drmDisplayInit smallInit) (smallDisplay cursorPlanes)
      (fun ret _ => decide (ret = .success)) = true) : Initialised (smallBoot cursorPlanes) :=
  ⟨smallDisplay cursorPlanes, smallInit, smallDisplay_fresh hids, smallBoot_eq h⟩

/-- A frame of the small display: the answers to the import of the client buffer, to
`AddFB2` and to the atomic commit. -/
def frame (handle fb : Option Nat) (fence : Option Int) : FrameAnswers where
  plane := fun _ => { prime := { handle, fb } }
  atomicCommit := fence

end QemuHal
