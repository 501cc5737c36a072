import QemuHal.Frame.Requests

/-!
# Framebuffer lifetime

What runs of a display do to the framebuffers on its planes, slot by slot. A run
whose frames spare a slot removes no framebuffer of the slot while a plane carries
it, and leaves no pointer to a destroyed `DrmGemBuffer` in the composition. Frames
that follow a refused commit need not spare it, and then both fail.
-/

namespace QemuHal

open Exec FlipChain

/-! ## Operations beside `Commit` -/

theorem ScannedOut.calm {w w' : World} {s : Slot} (hc : Calm w w') (h : ScannedOut s w) :
    ScannedOut s w' := by
  obtain ⟨p, hp, hs⟩ := h
  obtain ⟨p', hp', hcalm⟩ := hc.parts p hp
  obtain ⟨fds, hdrm⟩ := hc.drm
  have hlog : w'.drm.log = w.drm.log := by rw [hdrm]
  have hslot : p'.comp.slotPlanes s = p.comp.slotPlanes s := by
    rw [hcalm.comp]
    cases s <;> rfl
  refine ⟨p', hp', hs.congr (Parts.chain_congr (hcalm.layer s).current (hcalm.layer s).last ?_
    hslot (fun b _ => ?_) (by rw [hlog]) fun _ _ => rfl) hslot (by rw [hlog]) (fun q hk => ?_)⟩
  · rw [hcalm.comp]
    cases s <;> rfl
  · unfold Drm.fbOf
    rw [hdrm]
  · rwa [hlog]

theorem ScannedOut.popped {w : World} {p : Parts} {s : Slot} (hp : p.Of w)
    (h : ScannedOut s w) :
    ScannedOut s (w.setLayer .client (p.layer .primary).getReleaseFenceFd.2) := by
  obtain ⟨p', hp', hs⟩ := h
  obtain rfl := hp.unique hp'
  obtain ⟨fences, hl⟩ := p.popped_layer s
  refine ⟨p.popped, hp.popped, hs.congr (Parts.chain_congr (by rw [hl]) (by rw [hl]) rfl rfl
    (fun b _ => ?_) (by simp) fun _ _ => rfl) rfl (by simp) (fun q hk => ?_)⟩
  · simp
  · simpa using hk

/-! ## Initialisation -/

theorem carriedFb_eq_zero {q : Nat} : ∀ {cs : List Commit},
    (∀ c ∈ cs, c.pset.values (.plane q) .fbId = []) → carriedFb q cs = 0
  | [], _ => rfl
  | ⟨pset, fbs, fence⟩ :: cs, h => by
      have hrest := carriedFb_eq_zero fun c hc => h c (List.mem_cons_of_mem _ hc)
      have hfirst : pset.values (.plane q) .fbId = [] := h _ List.mem_cons_self
      cases fence <;> simp [carriedFb, AtomicReq.lookup, hfirst, hrest]

/-- What is known of the display when `PushFirstFrame` comes to `Apply`. -/
structure Primed (p : Parts) (d : Drm) : Prop where
  unowned : ∀ s, (p.layer s).mCurrentBuffer = none ∧ (p.layer s).lastBuffer_ = none
  lastGem : ∀ s, p.comp.lastGem s = none
  cursorLayers : p.comp.mCursorLayers = []
  dark : ∀ s, ∀ q ∈ p.comp.planeIds s,
    FbKept q d.log ∧ ∀ c ∈ commits d.log, c.pset.values (.plane q) .fbId = []

theorem Primed.scanout {p : Parts} {d : Drm} (h : Primed p d) (s : Slot) : Scanout p d s [] := by
  obtain ⟨hcur, hlast⟩ := h.unowned s
  have hno : ∀ b f, ¬ (p.chain d s []).Holds b f := by
    intro b f hh
    rcases (Parts.chain_holds.1 hh).1 with hb | hb
    · exact absurd (hcur.symm.trans hb) (by simp)
    · exact absurd (hlast.symm.trans hb) (by simp)
  refine ⟨⟨fun b f f' hc => absurd (Or.inl hc) (hno b f), fun b b' f hb => absurd hb (hno b f),
    fun b hr => ?_, fun q hq => ?_, fun q f hf => ?_⟩, fun q hq => (h.dark s q hq).1,
    fun q hq c hc fb hfb => ?_⟩
  · exact absurd ((h.lastGem s).symm.trans hr) (by simp)
  · simp only [Parts.chain] at hq
    split at hq
    · next hmem => exact absurd (carriedFb_eq_zero (h.dark s q hmem).2) hq
    · exact absurd rfl hq
  · simp [Parts.chain] at hf
  · rw [(h.dark s q hq).2 c hc] at hfb
    exact absurd hfb (by simp)

theorem Primed.rotations_le {p : Parts} {d : Drm} (h : Primed p d) (a : FrameAnswers)
    (s : Slot) : p.rotations d a s ≤ 1 := by
  cases s with
  | primary => exact p.rotations_primary_le d a
  | cursor =>
      have hent : p.enters a .cursor = false := by simp [Parts.enters, h.cursorLayers]
      unfold Parts.rotations
      rw [hent]
      cases (p.layer .cursor).mHdiBuffer <;> simp

/-- The first frame spares both slots. -/
theorem Primed.spares {p : Parts} {w : World} (h : Primed p w.drm) (a : FrameAnswers)
    (s : Slot) : p.Spares w a s := by
  refine ⟨(h.rotations_le a s).trans (by omega), fun b hb => ?_, fun _ b hb => ?_⟩
  · simp [Parts.doomed, (h.unowned s).1, (h.unowned s).2] at hb
  · simp [h.lastGem s] at hb

/-- An initialised display comes from a primed one by its first frame. -/
theorem Initialised.firstFrame {w : World} (h : Initialised w) :
    ∃ (w₀ : World) (p : Parts) (a : FrameAnswers) (ret : DispStatus),
      WellFormed w₀ ∧ p.Of w₀ ∧ Primed p w₀.drm ∧ apply a w₀ = .ok ret w := by
  obtain ⟨w₀, w₁, c, mode, d, buffer, a, ret, hfresh, hc, hdrm, hdisp, halloc, happ⟩ := h.primed
  obtain ⟨fds, rfl⟩ := allocMem_frame halloc
  have hcursor : w₁.disp.mCursorLayer = some {} := by rw [hdisp]
  have hlog : (w₁.primed c { w₀.drm with fds := fds } buffer a.dup).drm.log = w₀.drm.log := by
    obtain ⟨fds', hnew⟩ := HdiLayerBuffer.new_frame { w₀.drm with fds := fds } buffer a.dup.buffer
    show (HdiLayerBuffer.new _ _ _).2.log = _
    rw [hnew]
  refine ⟨_, _, a.firstFrame, ret, primed_wellFormed hfresh hc ⟨_, rfl⟩ hdisp,
    primedParts_of c _ buffer a.dup hcursor, ⟨?_, ?_, ?_, ?_⟩, happ⟩
  · intro s
    cases s <;> exact ⟨rfl, rfl⟩
  · intro s
    show ({ c with mCompLayers := [.client] } : HdiDrmComposition).lastGem s = none
    rw [hc.empty]
    cases s <;> rfl
  · show c.mCursorLayers = []
    rw [hc.empty]
  · intro s q hq
    obtain ⟨x, hx, rfl⟩ := List.mem_map.1 hq
    have hmem : x ∈ c.mPlanes ++ c.mCursorPlanes := by
      cases s with
      | primary => exact List.mem_append_left _ (List.mem_of_mem_take hx)
      | cursor => exact List.mem_append_right _ hx
    obtain ⟨y, hy, hid, hidle⟩ := hc.idle x hmem
    rw [hlog, ← hid]
    exact hfresh.dark y hy hidle

theorem Initialised.scannedOut {w : World} (h : Initialised w) (s : Slot) : ScannedOut s w := by
  obtain ⟨w₀, p, a, ret, hwf, hp, hprimed, happ⟩ := h.firstFrame
  exact (ScannedOut.apply hwf hp (hprimed.scanout s) (hprimed.spares a s)).of_ok happ

/-! ## Steps and runs -/

/-- Every frame spares the slot. -/
def Op.Spares (s : Slot) (w : World) : Op → Prop
  | .commit a => ∀ p ∈ w.parts, p.Spares w a s
  | _ => True

instance (s : Slot) (w : World) : (op : Op) → Decidable (op.Spares s w)
  | .commit a => inferInstanceAs (Decidable (∀ p ∈ w.parts, p.Spares w a s))
  | .createLayer .. | .destroyLayer .. | .setLayerZorder .. | .setLayerBuffer ..
  | .setLayerCompositionType .. | .setLayerVisible .. | .setLayerRegion ..
  | .setDisplayClientBuffer .. | .setDisplayMode .. | .prepareDisplayLayers ..
  | .getDisplayCompChange .. | .getDisplayReleaseFence .. | .clientFd .. =>
      inferInstanceAs (Decidable True)

theorem ScannedOut.step {w : World} {s : Slot} {op : Op} (h : WellFormed w)
    (hs : ScannedOut s w) (hop : op.Spares s w) :
    Post (QemuHal.step op) w (fun _ w' => WellFormed w' ∧ ScannedOut s w')
      (fun e w' => e ≠ s.danglingLast ∧ WellFormed w' ∧ ScannedOut s w') := by
  refine step_post h hs (fun _ hc hI => hI.calm hc) (fun _ hp hI => hI.popped hp)
    (fun e w' he hwf hI => ⟨he s, hwf, hI⟩) ?_
  rintro a rfl
  obtain ⟨p, hp, hscan⟩ := hs
  have happly := (ScannedOut.apply h hp hscan (hop p (World.parts_of hp))).and (h.apply a)
  refine happly.mono (fun _ _ hw => hw.1) ?_
  rintro e w' ⟨⟨⟨t, hne, rfl⟩, hI⟩, hwf, -⟩
  refine ⟨?_, hwf, hI⟩
  cases s <;> cases t <;> simp_all [Slot.danglingLast]

/-- **The run lemma.** Frames that spare a slot keep its scanout in every state. -/
theorem ScannedOut.run {w : World} {s : Slot} (h : WellFormed w) (hs : ScannedOut s w)
    {ops : List Op} (hops : Meets QemuHal.step (fun w op => op.Spares s w) w ops) :
    Post (Exec.run QemuHal.step ops) w (fun _ w' => WellFormed w' ∧ ScannedOut s w')
      (fun e w' => e ≠ s.danglingLast ∧ WellFormed w' ∧ ScannedOut s w') :=
  run_post (I := fun w => WellFormed w ∧ ScannedOut s w)
    (fun _ _ hI hop => hI.2.step hI.1 hop) ⟨h, hs⟩ hops

/-! ## The lifetime of a slot's framebuffers -/

/-- No framebuffer was removed while a plane of the slot carried it, and the slot's two
pointers in the composition are null or point to live objects. -/
def SlotKept (s : Slot) (w : World) : Prop :=
  ∀ c ∈ w.disp.mComposer,
    (∀ q ∈ c.planeIds s, FbKept q w.drm.log) ∧
    (∀ gem ∈ c.lastGem s, w.drm.gems gem ≠ none) ∧
    ∀ gem ∈ c.currentGem s, w.drm.gems gem ≠ none

instance (s : Slot) (w : World) : Decidable (SlotKept s w) :=
  inferInstanceAs (Decidable (∀ c ∈ w.disp.mComposer, _ ∧ _ ∧ _))

theorem ScannedOut.slotKept {w : World} {s : Slot} (h : WellFormed w) (hs : ScannedOut s w) :
    SlotKept s w := by
  obtain ⟨p, hp, hscan⟩ := hs
  have hgood := h.good hp
  intro c hc
  obtain rfl := Option.some.inj (hp.comp.symm.trans hc)
  refine ⟨hscan.kept, fun gem hl hdead => hscan.not_dangles hgood ⟨gem, hl, hdead⟩,
    fun gem hcur => ?_⟩
  rw [Option.mem_def, hgood.pointer] at hcur
  exact hgood.live s gem (Or.inl hcur)

/-! ### The primary plane -/

/-- **The primary plane.** In a run whose frames spare the primary slot, the
framebuffer on the primary plane is removed only after an accepted commit has
replaced it, and `mLastGemBuffer` and `mCurrentGemBuffer` never dangle. -/
theorem primaryPlane_kept {w : World} (h : Initialised w) {ops : List Op}
    (hops : Meets step (fun w op => op.Spares .primary w) w ops) :
    Post (run step ops) w (fun _ w' => SlotKept .primary w')
      (fun e w' => e ≠ .danglingLastGem ∧ SlotKept .primary w') :=
  (ScannedOut.run h.wellFormed (h.scannedOut .primary) hops).mono
    (fun _ _ hw => hw.2.slotKept hw.1) (fun _ _ hw => ⟨hw.1, hw.2.2.slotKept hw.2.1⟩)

/-- An accepted frame and a refused one that imports nothing. -/
theorem primaryPlane_kept_small :
    ∃ rets w', run step
        [.commit (frame (some 2) (some 2) (some 21)), .commit (frame none none none)]
        (smallBoot []) = .ok rets w' ∧ SlotKept .primary w' := by
  have hret : returns (run step
      [.commit (frame (some 2) (some 2) (some 21)), .commit (frame none none none)])
      (smallBoot []) (fun _ _ => true) = true := by decide +kernel
  obtain ⟨rets, w', hrun, -⟩ := returns_iff.1 hret
  have hops : Meets step (fun w op => op.Spares .primary w) (smallBoot [])
      [.commit (frame (some 2) (some 2) (some 21)), .commit (frame none none none)] := by
    decide +kernel
  have hinit : Initialised (smallBoot []) :=
    smallBoot_initialised (by decide) (by decide +kernel)
  exact ⟨rets, w', hrun, (primaryPlane_kept hinit hops).of_ok hrun⟩

/-- **A refused commit loses the framebuffer on screen.** The frame after it destroys
the buffer of the last accepted commit, which the primary plane still shows. -/
theorem primaryPlane_lost :
    Initialised (smallBoot []) ∧
      ∃ rets w', run step
          [.commit (frame (some 2) (some 2) none), .commit (frame (some 2) (some 3) none)]
          (smallBoot []) = .ok rets w' ∧ ¬ SlotKept .primary w' := by
  refine ⟨smallBoot_initialised (by decide) (by decide +kernel), ?_⟩
  have hrun : returns (run step
      [.commit (frame (some 2) (some 2) none), .commit (frame (some 2) (some 3) none)])
      (smallBoot []) (fun _ w' => !decide (SlotKept .primary w')) = true := by decide +kernel
  simpa using returns_iff.1 hrun

/-! ### The cursor planes -/

/-- `AddFB2` succeeds for every framebuffer a frame requests. -/
def Op.Names (w : World) : Op → Prop
  | .commit a => ∀ p ∈ w.parts, p.Names w.drm a .primary ∧ p.Names w.drm a .cursor
  | _ => True

instance (w : World) : (op : Op) → Decidable (op.Names w)
  | .commit a =>
      inferInstanceAs (Decidable (∀ p ∈ w.parts, p.Names w.drm a .primary ∧ _))
  | .createLayer .. | .destroyLayer .. | .setLayerZorder .. | .setLayerBuffer ..
  | .setLayerCompositionType .. | .setLayerVisible .. | .setLayerRegion ..
  | .setDisplayClientBuffer .. | .setDisplayMode .. | .prepareDisplayLayers ..
  | .getDisplayCompChange .. | .getDisplayReleaseFence .. | .clientFd .. =>
      inferInstanceAs (Decidable True)

/-- Every `FB_ID` put into a request named a framebuffer that existed when the request
was committed. -/
def RequestsValid (w : World) : Prop :=
  ∀ c ∈ w.disp.mComposer, ∀ q ∈ c.planeIds .primary ++ c.planeIds .cursor,
    RequestsMeet AllNamed q w.drm.log ∧ RequestsMeet AllExist q w.drm.log

instance (w : World) : Decidable (RequestsValid w) :=
  inferInstanceAs (Decidable (∀ c ∈ w.disp.mComposer, _))

/-- What holds of the cursor slot, and of the requests. -/
structure CursorScan (w : World) : Prop where
  cursor : ScannedOut .cursor w
  named : ∀ s, SlotRequests AllNamed s w
  exist : SlotRequests AllExist .primary w

theorem CursorScan.requestsValid {w : World} (h : CursorScan w) : RequestsValid w := by
  intro c hc q hq
  have hmem : ∀ {R s}, SlotRequests R s w → q ∈ c.planeIds s → RequestsMeet R q w.drm.log := by
    rintro R s ⟨p, hp, hR⟩ hq
    obtain rfl := Option.some.inj (hp.comp.symm.trans hc)
    exact hR q hq
  rcases List.mem_append.1 hq with hq | hq
  · exact ⟨hmem (h.named .primary) hq, hmem h.exist hq⟩
  · obtain ⟨p, hp, hscan⟩ := h.cursor
    obtain rfl := Option.some.inj (hp.comp.symm.trans hc)
    exact ⟨hmem (h.named .cursor) hq, hscan.exist q hq⟩

theorem CursorScan.step {w : World} {op : Op} (h : WellFormed w) (hs : CursorScan w)
    (hop : op.Spares .cursor w ∧ op.Names w) :
    Post (QemuHal.step op) w (fun _ w' => WellFormed w' ∧ CursorScan w')
      (fun e w' => e ≠ .danglingLastCursorGem ∧ WellFormed w' ∧ CursorScan w') := by
  refine step_post h hs
    (fun _ hc hI => ⟨hI.cursor.calm hc, fun s => (hI.named s).calm hc, hI.exist.calm hc⟩)
    (fun _ hp hI => ⟨hI.cursor.popped hp, fun s => (hI.named s).popped hp, hI.exist.popped hp⟩)
    (fun e w' he hwf hI => ⟨he .cursor, hwf, hI⟩) ?_
  rintro a rfl
  obtain ⟨p, hp, hscan⟩ := hs.cursor
  obtain ⟨hspares, hnames⟩ := hop
  obtain ⟨hprimary, hcursor⟩ := hnames p (World.parts_of hp)
  have hslot := ScannedOut.apply h hp hscan (hspares p (World.parts_of hp))
  have hrequests := ((SlotRequests.apply_named h hp hprimary (hs.named .primary)).and
    (SlotRequests.apply_named h hp hcursor (hs.named .cursor))).and
    (SlotRequests.apply_exist h hp hs.exist)
  have hall : ∀ {w'}, ScannedOut .cursor w' →
      (SlotRequests AllNamed .primary w' ∧ SlotRequests AllNamed .cursor w') ∧
        SlotRequests AllExist .primary w' → CursorScan w' := by
    rintro w' hc ⟨⟨h₁, h₂⟩, h₃⟩
    exact ⟨hc, fun s => by cases s <;> assumption, h₃⟩
  refine ((hslot.and hrequests).and (h.apply a)).mono (fun _ _ hw => hall hw.1.1 hw.1.2) ?_
  rintro e w' ⟨⟨⟨⟨t, hne, rfl⟩, hI⟩, hreq⟩, hwf, -⟩
  refine ⟨?_, hwf, hall hI hreq⟩
  cases t
  · simp [Slot.danglingLast]
  · exact absurd rfl hne

/-- The first frame asks for existing framebuffers, and for none on a cursor plane. -/
theorem Initialised.cursorScan {w : World} (h : Initialised w)
    (hnamed : ∀ c ∈ w.disp.mComposer, ∀ q ∈ c.planeIds .primary,
      RequestsMeet AllNamed q w.drm.log) : CursorScan w := by
  obtain ⟨p', hp', -⟩ := h.wellFormed.parts
  obtain ⟨w₀, p, a, ret, hwf, hp, hprimed, happ⟩ := h.firstFrame
  have hbefore : ∀ {R : List Int → List Nat → Prop} s, (∀ fbs, R [] fbs) →
      SlotRequests R s w₀ := by
    intro R s hR
    refine ⟨p, hp, fun q hq c hc => ?_⟩
    rw [(hprimed.dark s q hq).2 c hc]
    exact hR _
  have hno : p.Names w₀.drm a .cursor := by
    intro x hx
    have hent : p.enters a .cursor = false := by simp [Parts.enters, hprimed.cursorLayers]
    unfold Parts.carried at hx
    rw [hent] at hx
    split at hx <;> exact absurd hx (by simp)
  refine ⟨h.scannedOut .cursor, fun s => ?_, ?_⟩
  · cases s with
    | primary => exact ⟨p', hp', hnamed _ hp'.comp⟩
    | cursor =>
        exact (SlotRequests.apply_named hwf hp hno
          (hbefore .cursor fun _ => by simp [AllNamed])).of_ok happ
  · exact (SlotRequests.apply_exist hwf hp
      (hbefore .primary fun _ => by simp [AllExist])).of_ok happ

/-- **The cursor planes.** In a run whose frames spare the cursor slot and name their
framebuffers, a framebuffer on a cursor plane is removed only after an accepted
commit has replaced it there, every framebuffer requested exists, and
`mLastCursorGemBuffer` and `mCurrentCursorGemBuffer` never dangle. -/
theorem cursorPlanes_kept {w : World} (h : Initialised w)
    (hfirst : ∀ c ∈ w.disp.mComposer, ∀ q ∈ c.planeIds .primary,
      RequestsMeet AllNamed q w.drm.log) {ops : List Op}
    (hops : Meets step (fun w op => op.Spares .cursor w ∧ op.Names w) w ops) :
    Post (run step ops) w (fun _ w' => SlotKept .cursor w' ∧ RequestsValid w')
      (fun e w' => e ≠ .danglingLastCursorGem ∧ SlotKept .cursor w' ∧ RequestsValid w') := by
  have hrun := run_post (I := fun w => WellFormed w ∧ CursorScan w)
    (fun _ _ hI hop => hI.2.step hI.1 hop) ⟨h.wellFormed, h.cursorScan hfirst⟩ hops
  exact hrun.mono (fun _ _ hw => ⟨hw.2.cursor.slotKept hw.1, hw.2.requestsValid⟩)
    (fun _ _ hw => ⟨hw.1, hw.2.2.cursor.slotKept hw.2.1, hw.2.2.requestsValid⟩)

/-- A client shows a cursor layer in two frames; the second one gets the fence `fence`. -/
def cursorFrames (fence : Option Int) : List Op :=
  [.clientFd 50 (some (.dmaBuf 200)), .createLayer false false,
    .setLayerBuffer 0 (some ⟨50, 64, 64, 256, 20, 0⟩) (-1) { buffer := some 51 },
    .setLayerCompositionType 0 .cursor,
    .prepareDisplayLayers fun _ => { buffer := some 52 },
    .commit (cursorFrame 2 (some 21)), .commit (cursorFrame 6 fence)]
where
  cursorFrame (fb : Nat) (fence : Option Int) : FrameAnswers :=
    { frame (some 2) (some fb) fence with
      cursor := fun _ j => { prime := { handle := some 3, fb := some (fb + 1 + j) } }
      bootCompleted := true }

/-- With one cursor plane both frames spare the cursor. -/
theorem cursorPlanes_kept_one :
    ∃ rets w', run step (cursorFrames (some 22)) (smallBoot [41]) = .ok rets w' ∧
      SlotKept .cursor w' ∧ RequestsValid w' := by
  have hinit : Initialised (smallBoot [41]) :=
    smallBoot_initialised (by decide) (by decide +kernel)
  have hfirst : ∀ c ∈ (smallBoot [41]).disp.mComposer, ∀ q ∈ c.planeIds .primary,
      RequestsMeet AllNamed q (smallBoot [41]).drm.log := by decide +kernel
  have hops : Meets step (fun w op => op.Spares .cursor w ∧ op.Names w) (smallBoot [41])
      (cursorFrames (some 22)) := by decide +kernel
  have hret : returns (run step (cursorFrames (some 22))) (smallBoot [41])
      (fun _ _ => true) = true := by decide +kernel
  obtain ⟨rets, w', hrun, -⟩ := returns_iff.1 hret
  exact ⟨rets, w', hrun, (cursorPlanes_kept hinit hfirst hops).of_ok hrun⟩

/-- **With two cursor planes the second frame takes the cursor away.** It rotates the
layer twice and destroys the buffers of the first frame, which the planes show; its
commit is refused. -/
theorem cursorPlanes_lost :
    Initialised (smallBoot [41, 42]) ∧
      ∃ rets w', run step (cursorFrames none) (smallBoot [41, 42]) = .ok rets w' ∧
        ¬ SlotKept .cursor w' := by
  refine ⟨smallBoot_initialised (by decide) (by decide +kernel), ?_⟩
  have hrun : returns (run step (cursorFrames none)) (smallBoot [41, 42])
      (fun _ w' => !decide (SlotKept .cursor w')) = true := by decide +kernel
  simpa using returns_iff.1 hrun

end QemuHal
