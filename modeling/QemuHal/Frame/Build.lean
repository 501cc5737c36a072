import QemuHal.Frame.Inputs

/-!
# Building a request

`Apply` up to the atomic commit. The loops over layers and planes touch the
display in one way only, by rotating a slot, and put one framebuffer into the
request for each rotation that goes well. `Along` is what stays as it was at the
start of the frame; `LoopInv` is what a property has to survive to hold when the
request is committed.
-/

namespace QemuHal

/-! ## The framebuffers of a request -/

/-- The entries of a request that put a framebuffer on a plane. -/
def AtomicReq.fbEntries (pset : AtomicReq) : AtomicReq :=
  pset.filter fun e => decide (e.prop = .fbId)

theorem AtomicReq.values_fbEntries (pset : AtomicReq) (obj : DrmObj) :
    AtomicReq.values pset.fbEntries obj .fbId = pset.values obj .fbId := by
  unfold AtomicReq.values AtomicReq.fbEntries
  rw [List.filter_filter]
  congr 2
  funext e
  simp only [← Bool.decide_and]
  exact decide_eq_decide.2 ⟨fun h => h.1, fun h => ⟨h, h.2⟩⟩

theorem fbEntries_cons (e : PropValue) (pset : AtomicReq) :
    AtomicReq.fbEntries (e :: pset) =
      if e.prop = .fbId then e :: pset.fbEntries else pset.fbEntries := by
  rw [AtomicReq.fbEntries, List.filter_cons]
  simp only [decide_eq_true_eq]
  rfl

theorem fbEntries_addProperties {ok : PropName → Bool} :
    ∀ {es : List PropValue} {pset : AtomicReq}, (∀ e ∈ es, e.prop ≠ .fbId) →
      AtomicReq.fbEntries (addProperties ok pset es).2 = pset.fbEntries
  | [], _, _ => rfl
  | e :: es, pset, h => by
      have hrest := @fbEntries_addProperties ok es (e :: pset)
        fun x hx => h x (List.mem_cons_of_mem _ hx)
      simp only [addProperties, drmModeAtomicAddProperty]
      by_cases hok : ok e.prop = true
      · simp only [hok, if_true]
        rw [hrest, fbEntries_cons, if_neg (h e List.mem_cons_self)]
      · simp [hok]

/-- The entries of a request beside its framebuffers. -/
def AtomicReq.otherEntries (pset : AtomicReq) : AtomicReq :=
  pset.filter fun e => decide (e.prop ≠ .fbId)

theorem AtomicReq.values_otherEntries (pset : AtomicReq) (obj : DrmObj) {prop : PropName}
    (h : prop ≠ .fbId) : AtomicReq.values pset.otherEntries obj prop = pset.values obj prop := by
  unfold AtomicReq.values AtomicReq.otherEntries
  rw [List.filter_filter]
  congr 2
  funext e
  simp only [← Bool.decide_and]
  exact decide_eq_decide.2 ⟨fun he => he.1, fun he => ⟨he, fun hfb => h (he.2.symm.trans hfb)⟩⟩

theorem otherEntries_cons (e : PropValue) (pset : AtomicReq) :
    AtomicReq.otherEntries (e :: pset) =
      if e.prop = .fbId then pset.otherEntries else e :: pset.otherEntries := by
  unfold AtomicReq.otherEntries
  rw [List.filter_cons]
  by_cases he : e.prop = .fbId <;> simp [he]

theorem addProperties_snd {ok : PropName → Bool} :
    ∀ {es : List PropValue} {pset : AtomicReq},
      (addProperties ok pset es).2 = addedProperties ok es ++ pset
  | [], _ => rfl
  | e :: es, pset => by
      have hrest := @addProperties_snd ok es (e :: pset)
      unfold addedProperties at hrest ⊢
      simp only [addProperties, drmModeAtomicAddProperty]
      by_cases hok : ok e.prop = true
      · simp only [hok, if_true, List.takeWhile_cons_of_pos, List.reverse_cons, List.append_assoc]
        exact hrest
      · simp [hok]

theorem otherEntries_added {ok : PropName → Bool} {es : List PropValue} {pset : AtomicReq}
    (h : ∀ e ∈ es, e.prop ≠ .fbId) :
    AtomicReq.otherEntries (addedProperties ok es ++ pset) =
      addedProperties ok es ++ pset.otherEntries := by
  unfold AtomicReq.otherEntries
  rw [List.filter_append, List.filter_eq_self.2]
  intro e he
  have hmem : e ∈ es := List.takeWhile_subset _ (List.mem_reverse.1 he)
  exact decide_eq_true (h e hmem)

theorem otherEntries_setFb (a : PlaneAnswers) (g : DrmGemBuffer) (crtcId : Nat)
    (drmPlane : DrmPlane) (pset : AtomicReq) :
    AtomicReq.otherEntries (setFbProperties a g crtcId drmPlane pset).2 =
      (if g.isValid && a.addProperty .fbId && a.addProperty .crtcId then
        [⟨.plane drmPlane.mId, .crtcId, crtcId⟩] else []) ++ pset.otherEntries := by
  unfold setFbProperties drmModeAtomicAddProperty
  cases g.isValid <;> cases a.addProperty .fbId <;> cases a.addProperty .crtcId <;>
    simp [otherEntries_cons]

/-- The entry that puts the framebuffer of an object on a plane. -/
def fbEntry (drmPlane : DrmPlane) (g : DrmGemBuffer) : PropValue :=
  ⟨.plane drmPlane.mId, .fbId, g.mFdId⟩

theorem setFbProperties_cases (a : PlaneAnswers) (g : DrmGemBuffer) (crtcId : Nat)
    (drmPlane : DrmPlane) (pset : AtomicReq) :
    ((setFbProperties a g crtcId drmPlane pset).1 = .success ↔
      (g.isValid && a.addProperty .fbId && a.addProperty .crtcId) = true) ∧
    AtomicReq.fbEntries (setFbProperties a g crtcId drmPlane pset).2 =
      if g.isValid && a.addProperty .fbId then fbEntry drmPlane g :: pset.fbEntries
      else pset.fbEntries := by
  unfold setFbProperties drmModeAtomicAddProperty
  cases g.isValid <;> cases a.addProperty .fbId <;> cases a.addProperty .crtcId <;>
    simp [fbEntries_cons, fbEntry]

/-- **One layer on one plane.** The step of both loops, in terms of what the
answers decide. -/
theorem applyLayer_outcome {w : World} {p : Parts} {s : Slot} {buf : HdiLayerBuffer}
    (h : WellFormed w) (hp : p.Of w) (hbuf : (p.layer s).mHdiBuffer = some buf)
    (a : PlaneAnswers) (drmPlane : DrmPlane) (pset : AtomicReq) :
    ∃ ret pset', applyLayer s a s.layer drmPlane pset w = .ok (ret, pset')
        (if rotatesOn s a (p.layer s) buf drmPlane then w.rotate s p buf a else w) ∧
      (ret = .success ↔ succeedsOn w.drm s a (p.layer s) buf drmPlane = true) ∧
      (AtomicReq.fbEntries pset' =
        if carriesOn w.drm s a (p.layer s) buf drmPlane then
          fbEntry drmPlane (w.drm.newGemBuffer buf a.prime) :: pset.fbEntries
        else pset.fbEntries) ∧
      AtomicReq.otherEntries pset' =
        planeEntries w.drm s a (p.layer s) buf w.disp.mCrtc.mId drmPlane ++
          pset.otherEntries := by
  have hset := setPlaneProperties_eq s a (p.layer s) buf drmPlane pset
  have hok : (setPlaneProperties s a (p.layer s) buf drmPlane pset).1 =
      rotatesOn s a (p.layer s) buf drmPlane := by
    rw [hset]
    exact addProperties_fst
  have hfb : AtomicReq.fbEntries (setPlaneProperties s a (p.layer s) buf drmPlane pset).2 =
      pset.fbEntries := by
    rw [hset]
    exact fbEntries_addProperties planeProperties_ne_fbId
  have hother : AtomicReq.otherEntries (setPlaneProperties s a (p.layer s) buf drmPlane pset).2 =
      addedProperties a.addProperty (planeProperties s (p.layer s) buf drmPlane) ++
        pset.otherEntries := by
    rw [hset, addProperties_snd]
    exact otherEntries_added planeProperties_ne_fbId
  have heq := applyLayer_eq h hp hbuf a drmPlane pset
  unfold planeEntries succeedsOn carriesOn
  rw [← Drm.newGemBuffer_isValid h.sound buf a.prime]
  generalize setPlaneProperties s a (p.layer s) buf drmPlane pset = r at hset hok hfb hother heq
  obtain ⟨ok, pset₁⟩ := r
  rw [← hok]
  cases ok with
  | false => exact ⟨_, _, heq, by simp, by simpa using hfb, by simpa using hother⟩
  | true =>
      obtain ⟨hret, hentries⟩ := setFbProperties_cases a (w.drm.newGemBuffer buf a.prime)
        w.disp.mCrtc.mId drmPlane pset₁
      have hset' := otherEntries_setFb a (w.drm.newGemBuffer buf a.prime) w.disp.mCrtc.mId drmPlane
        pset₁
      dsimp only at heq hfb hother
      generalize setFbProperties a (w.drm.newGemBuffer buf a.prime) w.disp.mCrtc.mId drmPlane
        pset₁ = r at hret hentries hset' heq
      obtain ⟨ret, pset'⟩ := r
      refine ⟨ret, pset', heq, ?_, ?_, ?_⟩
      · simpa using hret
      · rw [hentries, hfb, Bool.true_and]
      · rw [hset', hother, Bool.true_and, List.append_assoc]

/-! ## What a frame leaves alone until it is committed -/

structure Along (w₀ : World) (p₀ : Parts) (w : World) (p : Parts) : Prop where
  wf : WellFormed w
  of : p.Of w
  drmFd : w.drm.drmFd = w₀.drm.drmFd
  fds : w.drm.fds = w₀.drm.fds
  disp : w.disp = { w₀.disp with
    mClientLayer := w.disp.mClientLayer
    mCursorLayer := w.disp.mCursorLayer
    mComposer := w.disp.mComposer }
  world : w = { w₀ with drm := w.drm, disp := w.disp }
  comp : p.comp = { p₀.comp with
    mCurrentGemBuffer := p.comp.mCurrentGemBuffer
    mCurrentCursorGemBuffer := p.comp.mCurrentCursorGemBuffer
    isAnimationEnd_ := p.comp.isAnimationEnd_ }
  layer : ∀ s, p.layer s = { p₀.layer s with
    mCurrentBuffer := (p.layer s).mCurrentBuffer
    lastBuffer_ := (p.layer s).lastBuffer_ }
  commits : commits w.drm.log = commits w₀.drm.log

namespace Along

variable {w₀ w : World} {p₀ p : Parts}

theorem refl (h : WellFormed w₀) (hp : p₀.Of w₀) : Along w₀ p₀ w₀ p₀ :=
  ⟨h, hp, rfl, rfl, rfl, rfl, rfl, fun _ => rfl, rfl⟩

theorem rotate (h : Along w₀ p₀ w p) (s : Slot) (buf : HdiLayerBuffer) (a : PlaneAnswers) :
    Along w₀ p₀ (w.rotate s p buf a) (p.rotate s w.drm.nextGem) where
  wf := h.wf.rotate h.of s buf a
  of := World.rotate_of h.of
  drmFd := by
    rw [World.rotate_drm, ((w.drm.newGem buf a.prime).2.destroyOwned_frame _ _).2.1,
      (w.drm.newGem_fds buf a.prime).2, h.drmFd]
  fds := by rw [World.rotate_fds, h.fds]
  disp := by
    have hd := h.disp
    cases s <;> simp only [World.rotate, World.setComposition, World.setLayer, Slot.layer,
      World.setDrm] <;> rw [hd]
  world := by
    have hw := h.world
    cases s <;> simp only [World.rotate, World.setComposition, World.setLayer, Slot.layer,
      World.setDrm] <;> rw [hw]
  comp := by
    have hc := h.comp
    cases s <;> simp only [Parts.rotate, HdiDrmComposition.setCurrentGem] <;> rw [hc]
  layer := by
    intro s'
    by_cases hs : s' = s
    · subst hs
      have hl := h.layer s'
      simp only [Parts.rotate, Function.update_self]
      rw [hl]
    · simp only [Parts.rotate, Function.update_of_ne hs]
      exact h.layer s'
  commits := by rw [World.rotate_commits, h.commits]

theorem mCrtc (h : Along w₀ p₀ w p) : w.disp.mCrtc = w₀.disp.mCrtc := by rw [h.disp]

theorem mConnector (h : Along w₀ p₀ w p) : w.disp.mConnector = w₀.disp.mConnector := by
  rw [h.disp]

theorem slotPlanes (h : Along w₀ p₀ w p) (s : Slot) :
    p.comp.slotPlanes s = p₀.comp.slotPlanes s := by
  rw [h.comp]
  cases s <;> rfl

theorem mCursorLayers (h : Along w₀ p₀ w p) : p.comp.mCursorLayers = p₀.comp.mCursorLayers := by
  rw [h.comp]

theorem mHdiBuffer (h : Along w₀ p₀ w p) (s : Slot) :
    (p.layer s).mHdiBuffer = (p₀.layer s).mHdiBuffer := by rw [h.layer s]

theorem imports (h : Along w₀ p₀ w p) (buf : HdiLayerBuffer) (a : ImportAnswers) :
    w.drm.imports buf a = w₀.drm.imports buf a := by
  unfold Drm.imports Drm.dmaBufAt
  rw [h.drmFd, h.fds]

theorem rotatesOn (h : Along w₀ p₀ w p) (s : Slot) (a : PlaneAnswers) (buf : HdiLayerBuffer)
    (drmPlane : DrmPlane) :
    QemuHal.rotatesOn s a (p.layer s) buf drmPlane =
      QemuHal.rotatesOn s a (p₀.layer s) buf drmPlane := by
  rw [h.layer s]
  rfl

theorem carriesOn (h : Along w₀ p₀ w p) (s : Slot) (a : PlaneAnswers) (buf : HdiLayerBuffer)
    (drmPlane : DrmPlane) :
    QemuHal.carriesOn w.drm s a (p.layer s) buf drmPlane =
      QemuHal.carriesOn w₀.drm s a (p₀.layer s) buf drmPlane := by
  unfold QemuHal.carriesOn
  rw [h.rotatesOn, h.imports]

theorem succeedsOn (h : Along w₀ p₀ w p) (s : Slot) (a : PlaneAnswers) (buf : HdiLayerBuffer)
    (drmPlane : DrmPlane) :
    QemuHal.succeedsOn w.drm s a (p.layer s) buf drmPlane =
      QemuHal.succeedsOn w₀.drm s a (p₀.layer s) buf drmPlane := by
  unfold QemuHal.succeedsOn
  rw [h.carriesOn]

theorem planeEntries (h : Along w₀ p₀ w p) (s : Slot) (a : PlaneAnswers) (buf : HdiLayerBuffer)
    (drmPlane : DrmPlane) :
    QemuHal.planeEntries w.drm s a (p.layer s) buf w.disp.mCrtc.mId drmPlane =
      QemuHal.planeEntries w₀.drm s a (p₀.layer s) buf w₀.disp.mCrtc.mId drmPlane := by
  have hprops : planeProperties s (p.layer s) buf drmPlane =
      planeProperties s (p₀.layer s) buf drmPlane := by
    rw [h.layer s]
    cases s <;> rfl
  unfold QemuHal.planeEntries
  rw [h.succeedsOn, h.mCrtc, hprops]

end Along

/-! ## Steps beside the loops -/

/-- A mode block is created or destroyed, or the boot animation is seen to be over. -/
inductive Neutral (w : World) (p : Parts) : World → Parts → Prop where
  | createBlob (blob : Nat) : Neutral w p
      (w.setDrm { w.drm with log := .createPropertyBlob blob :: w.drm.log }) p
  | destroyBlob (blob : Nat) : Neutral w p
      (w.setDrm { w.drm with log := .destroyPropertyBlob blob :: w.drm.log }) p
  | booted : Neutral w p (w.setComposition { p.comp with isAnimationEnd_ := true })
      { p with comp := { p.comp with isAnimationEnd_ := true } }

theorem Neutral.gems {w w' : World} {p p' : Parts} (h : Neutral w p w' p') :
    ∃ log, w'.drm = { w.drm with log := log } ∧ commits log = commits w.drm.log ∧
      (∀ q, FbKept q log ↔ FbKept q w.drm.log) := by
  cases h with
  | createBlob blob => exact ⟨_, rfl, rfl, fun _ => Iff.rfl⟩
  | destroyBlob blob => exact ⟨_, rfl, rfl, fun _ => Iff.rfl⟩
  | booted => exact ⟨_, rfl, rfl, fun _ => Iff.rfl⟩

theorem Neutral.parts {w w' : World} {p p' : Parts} (h : Neutral w p w' p') :
    ∃ b, p' = { p with comp := { p.comp with isAnimationEnd_ := b } } := by
  cases h with
  | createBlob blob => exact ⟨_, rfl⟩
  | destroyBlob blob => exact ⟨_, rfl⟩
  | booted => exact ⟨_, rfl⟩

theorem Neutral.of {w w' : World} {p p' : Parts} (h : Neutral w p w' p') (hp : p.Of w) :
    p'.Of w' := by
  cases h with
  | createBlob blob => exact ⟨hp.comp, by simpa using hp.layer⟩
  | destroyBlob blob => exact ⟨hp.comp, by simpa using hp.layer⟩
  | booted => exact ⟨rfl, by simpa using hp.layer⟩

theorem Neutral.layers {w w' : World} {p p' : Parts} (h : Neutral w p w' p') :
    w'.disp = { w.disp with mComposer := w'.disp.mComposer } ∧
      w' = { w with drm := w'.drm, disp := w'.disp } := by
  cases h with
  | createBlob blob => exact ⟨rfl, rfl⟩
  | destroyBlob blob => exact ⟨rfl, rfl⟩
  | booted => exact ⟨rfl, rfl⟩

theorem WellFormed.neutral {w w' : World} {p p' : Parts} (h : WellFormed w) (hp : p.Of w)
    (hn : Neutral w p w' p') : WellFormed w' := by
  obtain ⟨p₁, hp₁, hgood⟩ := h.parts
  obtain rfl := hp.unique hp₁
  obtain ⟨log, hdrm, -, -⟩ := hn.gems
  obtain ⟨b, hparts⟩ := hn.parts
  refine ⟨?_, ⟨p', hn.of hp, ?_⟩, ?_⟩
  · rw [hdrm]
    exact ⟨h.sound.unallocated, h.sound.handles, h.sound.fbExists, h.sound.fbUnique⟩
  · rw [hdrm, hparts]
    refine ⟨hgood.compLayers, hgood.cursorLayers, hgood.planes, hgood.distinctPlanes,
      hgood.clientBuffer, hgood.cursorBuffer, fun s => ?_, hgood.live, hgood.apart,
      hgood.disjoint, fun s b hb => ?_⟩
    · have := hgood.pointer s
      cases s <;> exact this
    · refine hgood.remembered s b ?_
      cases s <;> exact hb
  · rw [hn.layers.1]
    exact h.created

theorem Along.neutral {w₀ w w' : World} {p₀ p p' : Parts} (h : Along w₀ p₀ w p)
    (hn : Neutral w p w' p') : Along w₀ p₀ w' p' := by
  obtain ⟨log, hdrm, hcommits, -⟩ := hn.gems
  obtain ⟨b, hparts⟩ := hn.parts
  obtain ⟨hdisp, hworld⟩ := hn.layers
  refine ⟨h.wf.neutral h.of hn, hn.of h.of, ?_, ?_, ?_, ?_, ?_, ?_, ?_⟩
  · rw [hdrm, h.drmFd]
  · rw [hdrm, h.fds]
  · rw [hdisp, h.disp]
  · rw [hworld, h.world]
  · rw [hparts, h.comp]
  · intro s
    rw [hparts]
    exact h.layer s
  · rw [hdrm]
    exact hcommits.trans h.commits

/-! ## The loops -/

/-- What a property of the display, its parts and the framebuffers requested so far
has to survive in the loop of a slot. Its first two arguments count the rotations
and list the planes still to come; the rotation to come is the one on the plane `j`. -/
structure LoopInv (w₀ : World) (p₀ : Parts) (a : FrameAnswers) (s : Slot)
    (J : Nat → List (Nat × DrmPlane) → World → Parts → AtomicReq → Prop) : Prop where
  rotate : ∀ {j drmPlane w p buf req}, Along w₀ p₀ w p →
    (p.layer s).mHdiBuffer = some buf → drmPlane ∈ p₀.comp.slotPlanes s →
    j + 1 = p₀.rotations w₀.drm a s →
    J 1 [] w p req →
    J 0 [] (w.rotate s p buf (a.slot s j)) (p.rotate s w.drm.nextGem) req
  carry : ∀ {n C j drmPlane w p buf req}, Along w₀ p₀ w p →
    (p.layer s).mHdiBuffer = some buf → drmPlane ∈ p₀.comp.slotPlanes s →
    j + (n + 1) = p₀.rotations w₀.drm a s →
    w.drm.imports buf (a.slot s j).prime = true →
    J (n + 1) ((j, drmPlane) :: C) w p req →
    J n C (w.rotate s p buf (a.slot s j)) (p.rotate s w.drm.nextGem)
      (fbEntry drmPlane (w.drm.newGemBuffer buf (a.slot s j).prime) :: req)

/-- The step of a loop under a loop invariant. -/
theorem LoopInv.step {w₀ w : World} {p₀ p : Parts} {a : FrameAnswers} {s : Slot}
    {J : Nat → List (Nat × DrmPlane) → World → Parts → AtomicReq → Prop}
    (hJ : LoopInv w₀ p₀ a s J) (h : Along w₀ p₀ w p) {buf : HdiLayerBuffer}
    (hbuf : (p₀.layer s).mHdiBuffer = some buf) {j : Nat} {drmPlane : DrmPlane}
    (hplane : drmPlane ∈ p₀.comp.slotPlanes s) {planes : List DrmPlane} {pset : AtomicReq}
    (hcount : j + rotationsOn w₀.drm s (a.slot s) (p₀.layer s) buf j (drmPlane :: planes) =
      p₀.rotations w₀.drm a s)
    (hinv : J (rotationsOn w₀.drm s (a.slot s) (p₀.layer s) buf j (drmPlane :: planes))
      (carriedOn w₀.drm s (a.slot s) (p₀.layer s) buf j (drmPlane :: planes)) w p pset.fbEntries) :
    ∃ ret pset' w' p', applyLayer s (a.slot s j) s.layer drmPlane pset w = .ok (ret, pset') w' ∧
      Along w₀ p₀ w' p' ∧
      (ret = .success →
        j + 1 + rotationsOn w₀.drm s (a.slot s) (p₀.layer s) buf (j + 1) planes =
          p₀.rotations w₀.drm a s ∧
        J (rotationsOn w₀.drm s (a.slot s) (p₀.layer s) buf (j + 1) planes)
          (carriedOn w₀.drm s (a.slot s) (p₀.layer s) buf (j + 1) planes) w' p' pset'.fbEntries) ∧
      (ret ≠ .success → J 0 [] w' p' pset'.fbEntries) ∧
      (ret = .success ↔ succeedsOn w₀.drm s (a.slot s j) (p₀.layer s) buf drmPlane = true) ∧
      AtomicReq.otherEntries pset' =
        planeEntries w₀.drm s (a.slot s j) (p₀.layer s) buf w₀.disp.mCrtc.mId drmPlane ++
          pset.otherEntries := by
  have hbuf' : (p.layer s).mHdiBuffer = some buf := by rw [h.mHdiBuffer, hbuf]
  obtain ⟨ret, pset', heq, hret, hfb, hother⟩ :=
    applyLayer_outcome h.wf h.of hbuf' (a.slot s j) drmPlane pset
  rw [h.planeEntries] at hother
  rw [h.rotatesOn] at heq
  rw [h.succeedsOn] at hret
  rw [h.carriesOn] at hfb
  simp only [rotationsOn, carriedOn] at hcount hinv
  by_cases hrot : rotatesOn s (a.slot s j) (p₀.layer s) buf drmPlane = true
  · rw [if_pos hrot] at heq hcount hinv
    by_cases hcar : carriesOn w₀.drm s (a.slot s j) (p₀.layer s) buf drmPlane = true
    · -- the plane got the new framebuffer
      rw [if_pos hcar] at hfb hinv
      have himp : w.drm.imports buf (a.slot s j).prime = true := by
        rw [h.imports]
        unfold carriesOn at hcar
        simp only [Bool.and_eq_true] at hcar
        exact hcar.1.2
      have hnext := hJ.carry h hbuf' hplane hcount himp hinv
      refine ⟨ret, pset', _, _, heq, h.rotate s buf _, fun hs => ?_, fun hs => ?_, hret, hother⟩
      · rw [if_pos (hret.1 hs)] at hcount
        rw [if_pos (hret.1 hs), if_pos (hret.1 hs)] at hnext
        rw [hfb]
        exact ⟨by omega, hnext⟩
      · have hno : ¬ succeedsOn w₀.drm s (a.slot s j) (p₀.layer s) buf drmPlane = true :=
          fun hyes => hs (hret.2 hyes)
        rw [if_neg hno, if_neg hno] at hnext
        rw [hfb]
        exact hnext
    · -- the buffers were rotated for nothing
      have hno : ¬ succeedsOn w₀.drm s (a.slot s j) (p₀.layer s) buf drmPlane = true := by
        unfold succeedsOn
        simp [hcar]
      rw [if_neg hcar] at hfb
      rw [if_neg hno] at hcount
      rw [if_neg hcar, if_neg hno] at hinv
      refine ⟨ret, pset', _, _, heq, h.rotate s buf _, fun hs => absurd (hret.1 hs) hno,
        fun _ => ?_, hret, hother⟩
      rw [hfb]
      exact hJ.rotate h hbuf' hplane hcount hinv
  · have hcar : ¬ carriesOn w₀.drm s (a.slot s j) (p₀.layer s) buf drmPlane = true := by
      unfold carriesOn
      simp [hrot]
    have hno : ¬ succeedsOn w₀.drm s (a.slot s j) (p₀.layer s) buf drmPlane = true := by
      unfold succeedsOn
      simp [hcar]
    rw [if_neg hcar] at hfb
    rw [if_neg hrot] at heq hinv
    rw [if_neg hcar] at hinv
    refine ⟨ret, pset', w, p, heq, h, fun hs => absurd (hret.1 hs) hno, fun _ => ?_, hret, hother⟩
    rw [hfb]
    exact hinv

open Exec

/-- The inner cursor loop. -/
theorem applyCursorPlanes_post {w₀ : World} {p₀ : Parts} {a : FrameAnswers}
    {J : Nat → List (Nat × DrmPlane) → World → Parts → AtomicReq → Prop}
    (hJ : LoopInv w₀ p₀ a .cursor J) {buf : HdiLayerBuffer}
    (hbuf : (p₀.layer .cursor).mHdiBuffer = some buf) :
    ∀ {planes : List DrmPlane} {j : Nat} {w : World} {p : Parts} {pset : AtomicReq},
      (∀ drmPlane ∈ planes, drmPlane ∈ p₀.comp.slotPlanes .cursor) → Along w₀ p₀ w p →
      j + rotationsOn w₀.drm .cursor (a.slot .cursor) (p₀.layer .cursor) buf j planes =
        p₀.rotations w₀.drm a .cursor →
      J (rotationsOn w₀.drm .cursor (a.slot .cursor) (p₀.layer .cursor) buf j planes)
        (carriedOn w₀.drm .cursor (a.slot .cursor) (p₀.layer .cursor) buf j planes) w p
        pset.fbEntries →
      Post (applyCursorPlanes (a.cursor 0) .cursor j planes pset) w
        (fun r w' => ∃ p', Along w₀ p₀ w' p' ∧ J 0 [] w' p' r.2.fbEntries ∧
          AtomicReq.otherEntries r.2 =
            entriesOn w₀.drm .cursor (a.slot .cursor) (p₀.layer .cursor) buf w₀.disp.mCrtc.mId
              j planes ++ pset.otherEntries)
        (fun _ _ => False)
  | [], j, w, p, pset, _, h, _, hinv => ⟨p, h, hinv, rfl⟩
  | drmPlane :: planes, j, w, p, pset, hmem, h, hcount, hinv => by
      obtain ⟨ret, pset', w', p', heq, h', hyes, hno, hret', hother⟩ :=
        hJ.step h hbuf (hmem drmPlane List.mem_cons_self) hcount hinv
      simp only [applyCursorPlanes, post_bind]
      refine post_of_ok heq ?_
      dsimp only
      by_cases hret : ret = .success
      · rw [if_neg (not_not.2 hret)]
        obtain ⟨hcount', hinv'⟩ := hyes hret
        apply (applyCursorPlanes_post hJ hbuf
          (fun x hx => hmem x (List.mem_cons_of_mem _ hx)) h' hcount' hinv').mono
        · rintro r w'' ⟨p'', h'', hinv'', hrest⟩
          refine ⟨p'', h'', hinv'', ?_⟩
          rw [entriesOn, if_pos (hret'.1 hret), List.append_assoc, hrest, hother]
        · exact fun _ _ hf => hf
      · rw [if_pos hret]
        refine ⟨p', h', hno hret, ?_⟩
        rw [entriesOn, if_neg fun hyes => hret (hret'.2 hyes)]
        exact hother

/-- The loop over the composition layers, with the client layer as the only one. -/
theorem applyPlanes_post {w₀ w : World} {p₀ p : Parts} {a : FrameAnswers}
    {J : Nat → List (Nat × DrmPlane) → World → Parts → AtomicReq → Prop}
    (hJ : LoopInv w₀ p₀ a .primary J) {buf : HdiLayerBuffer}
    (hbuf : (p₀.layer .primary).mHdiBuffer = some buf) (hplanes : p₀.comp.mPlanes ≠ [])
    (h : Along w₀ p₀ w p) {pset : AtomicReq}
    (hcount : rotationsOn w₀.drm .primary (a.slot .primary) (p₀.layer .primary) buf 0
      (p₀.comp.slotPlanes .primary) = p₀.rotations w₀.drm a .primary)
    (hinv : J (rotationsOn w₀.drm .primary (a.slot .primary) (p₀.layer .primary) buf 0
        (p₀.comp.slotPlanes .primary))
      (carriedOn w₀.drm .primary (a.slot .primary) (p₀.layer .primary) buf 0
        (p₀.comp.slotPlanes .primary)) w p pset.fbEntries) :
    Post (applyPlanes a.plane 0 [.client] p₀.comp.mPlanes pset) w
      (fun r w' => ∃ p', Along w₀ p₀ w' p' ∧ J 0 [] w' p' r.2.fbEntries ∧
        AtomicReq.otherEntries r.2 =
          entriesOn w₀.drm .primary (a.slot .primary) (p₀.layer .primary) buf w₀.disp.mCrtc.mId
            0 (p₀.comp.slotPlanes .primary) ++ pset.otherEntries)
      (fun _ _ => False) := by
  cases hlist : p₀.comp.mPlanes with
  | nil => exact absurd hlist hplanes
  | cons drmPlane planes =>
      have hslot : p₀.comp.slotPlanes .primary = [drmPlane] := by
        simp [HdiDrmComposition.slotPlanes, hlist]
      rw [hslot] at hcount hinv
      obtain ⟨ret, pset', w', p', heq, h', hyes, hno, -, hother⟩ :=
        hJ.step h hbuf (by simp [hslot]) (by rw [Nat.zero_add, hcount]) hinv
      have hentries : AtomicReq.otherEntries pset' =
          entriesOn w₀.drm .primary (a.slot .primary) (p₀.layer .primary) buf w₀.disp.mCrtc.mId
            0 [drmPlane] ++ pset.otherEntries := by
        rw [hother, entriesOn, entriesOn, ite_self, List.nil_append]
      simp only [applyPlanes, post_bind]
      refine post_of_ok heq ?_
      dsimp only
      rw [hslot]
      by_cases hret : ret = .success
      · rw [if_neg (not_not.2 hret)]
        exact ⟨p', h', (hyes hret).2, hentries⟩
      · rw [if_pos hret]
        exact ⟨p', h', hno hret, hentries⟩

end QemuHal
