import QemuHal.Core.Tenancy
import QemuHal.Frame.Imports

/-!
# The reference a layer keeps to its buffer

`SetLayerBuffer` duplicates the descriptor in the handle, and a commit imports the duplicate.
The cursor layer of the display gets its buffer in `PrepareDisplayLayers` instead, from the
number in the copy of the handle, which the client may have closed and opened anew.
-/

namespace QemuHal

open Exec

/-! ## What the client passed -/

/-- What was passed with the buffer last set on a layer: the dma-buf its descriptor denoted,
and the file of its fence. -/
structure Passed where
  dmaBuf : Option Nat := none
  fence : Option File := none
deriving DecidableEq, Repr

def Drm.passed (d : Drm) (hdl : BufferHandle) (fence : Int) : Passed where
  dmaBuf := d.dmaBufAt hdl.fd
  fence := if fence > -1 then (d.fds fence).map FdEntry.file else none

/-- What was passed with the buffer of each layer. The cursor layer of the display has the
buffer of the layer it was handed over from. -/
def notePassed (w : World) (h : LayerRef → Passed) : Op → LayerRef → Passed
  | .setLayerBuffer layerId (some hdl) fence _ =>
      match w.disp.mLayersMap layerId with
      | some n => Function.update h (.created n) (w.drm.passed hdl fence)
      | none => h
  | .setDisplayClientBuffer (some hdl) fence _ =>
      Function.update h .client (w.drm.passed hdl fence)
  | .prepareDisplayLayers _ =>
      match w.cursorTaken with
      | some n => Function.update h .cursor (h (.created n))
      | none => h
  | _ => h

/-- The client layer has the buffer of the first frame, which came without a fence. -/
def World.passedAtBoot (w : World) : LayerRef → Passed
  | .client =>
      match w.disp.mClientLayer.bind HdiLayer.mHdiBuffer with
      | some buf => { dmaBuf := w.drm.dmaBufAt buf.mHandle.fd }
      | none => {}
  | _ => {}

/-- The layer of the slot is given a buffer: the client layer by the client, the cursor layer
when the buffer of another layer is handed over. -/
def Op.Hands (w : World) : Op → Slot → Prop
  | .setDisplayClientBuffer buffer .., .primary => buffer ≠ none
  | .prepareDisplayLayers _, .cursor => w.cursorTaken ≠ none
  | _, _ => False

theorem Op.Hands.touches {w : World} {op : Op} {s : Slot} (h : op.Hands w s) :
    op.Touches s.layer := by
  cases op <;> cases s <;> first | exact h.elim | exact rfl

/-- A layer of the display keeps what was passed with its buffer until it gets another. -/
theorem notePassed_slot {w : World} {h : LayerRef → Passed} {op : Op} {s : Slot}
    (hop : ¬ op.Touches s.layer) : notePassed w h op s.layer = h s.layer := by
  have hcreated : ∀ n, s.layer ≠ .created n := by
    intro n
    cases s <;> simp [Slot.layer]
  cases op with
  | setLayerBuffer layerId buffer fence a =>
      cases buffer with
      | none => rfl
      | some hdl =>
          unfold notePassed
          dsimp only
          cases w.disp.mLayersMap layerId with
          | none => rfl
          | some n => exact Function.update_of_ne (hcreated n) _ _
  | setDisplayClientBuffer buffer fence a =>
      cases buffer with
      | none => rfl
      | some hdl => exact Function.update_of_ne hop _ _
  | prepareDisplayLayers a =>
      unfold notePassed
      dsimp only
      cases w.cursorTaken with
      | none => rfl
      | some n => exact Function.update_of_ne hop _ _
  | _ => rfl

/-! ## The law -/

/-- Every framebuffer that was built comes from the dma-buf passed with the buffer of its
layer. -/
def BuildsPassed (s : World × (LayerRef → Passed)) (w' : World) : Prop :=
  ∀ e ∈ newBuilt s.1 w', ∃ b ∈ e.source, (s.2 (w'.slotOf e.gem).layer).dmaBuf = some b

instance (s : World × (LayerRef → Passed)) (w' : World) : Decidable (BuildsPassed s w') :=
  inferInstanceAs (Decidable (∀ e ∈ newBuilt s.1 w', _))

/-- Every `Commit` builds its framebuffers from what the client passed, also when it stops on
a fault. -/
def KeepsReferences (s : World × (LayerRef → Passed)) (op : Op) : Prop :=
  ∀ a, op = .commit a →
    Post (step op) s.1 (fun _ w' => BuildsPassed s w') (fun _ w' => BuildsPassed s w')

/-- When the buffer of a cursor layer is handed over, the number in its handle still denotes
the dma-buf passed with it, if it denotes one, and is given to none of the duplicates. -/
def NumbersStand (s : World × (LayerRef → Passed)) : Op → Prop
  | .prepareDisplayLayers a => ∀ n ∈ s.1.cursorTaken, ∀ l ∈ s.1.disp.layers n,
      ∀ buf ∈ l.mHdiBuffer,
        (∀ b ∈ s.1.drm.dmaBufAt buf.mHandle.fd, (s.2 (.created n)).dmaBuf = some b) ∧
          Spared a s.1.visible.length buf.mHandle.fd
  | _ => True

instance (s : World × (LayerRef → Passed)) : (op : Op) → Decidable (NumbersStand s op)
  | .prepareDisplayLayers _ => inferInstanceAs (Decidable (∀ n ∈ s.1.cursorTaken, _))
  | .createLayer .. | .destroyLayer .. | .setLayerZorder .. | .setLayerBuffer ..
  | .setLayerCompositionType .. | .setLayerVisible .. | .setLayerRegion ..
  | .setDisplayClientBuffer .. | .setDisplayMode .. | .commit .. | .getDisplayCompChange ..
  | .getDisplayReleaseFence .. | .clientFd .. => .isTrue trivial

/-! ## One operation -/

/-- What holds along such a run: the duplicates of the layers of the display denote what was
passed with their buffers. -/
structure Referencing (s : World × (LayerRef → Passed)) : Prop where
  wf : WellFormed s.1
  registered : Registered s.1
  tenants : ∃ spare, Tenants spare s.1
  slots : ∀ t : Slot, s.1.BufferFrom t.layer (s.2 t.layer).dmaBuf

section
variable {w : World} {h : LayerRef → Passed}

/-- A fact about a layer of the display and what was passed with its buffer, over one
operation: it has to stand where the layer is left alone, where the client sets a buffer and
where the buffer of a cursor layer is handed over. -/
theorem slot_step {spare : Int → Prop} {P : World → LayerRef → Passed → Prop}
    (hwf : WellFormed w) (hreg : Registered w) (ht : Tenants spare w) {op : Op} (t : Slot)
    (huntouched : ∀ w', Tenants spare w' → Untouched t.layer w w' → ¬ op.Hands w t →
      P w' t.layer (h t.layer))
    (hset : t = .primary → ∀ hdl fence a, op = .setDisplayClientBuffer (some hdl) fence a →
      ∀ l, w.layerAt .client = some l →
        P ((w.setDrm (l.setLayerBuffer w.drm (some hdl) fence a).2.2).setLayer .client
          (l.setLayerBuffer w.drm (some hdl) fence a).2.1) .client (w.drm.passed hdl fence))
    (htaken : t = .cursor → ∀ a n, op = .prepareDisplayLayers a → w.cursorTaken = some n →
      ∀ w', CursorAfter a w.visible.length w.visible w w' → P w' .cursor (h (.created n))) :
    Post (step op) w (fun _ w' => P w' t.layer (notePassed w h op t.layer))
      (fun _ _ => True) := by
  by_cases htouches : op.Touches t.layer
  swap
  · -- the layer keeps its buffer
    rw [notePassed_slot htouches]
    apply (tenants_step hwf hreg ht op).mono
    · exact fun _ w' hw => huntouched w' hw.1 (hw.2 _ htouches) fun hh => htouches hh.touches
    · exact fun _ _ _ => trivial
  cases op with
  | setDisplayClientBuffer buffer fence a =>
      obtain rfl : t = .primary := by cases t with
        | primary => rfl
        | cursor => exact absurd htouches (by simp [Op.Touches, Slot.layer])
      show Post (Ret.status <$> _) w _ _
      rw [post_map]
      unfold setDisplayClientBuffer
      rw [post_bind]
      apply derefLayer_post
      · intro l hl
        cases buffer with
        | none =>
            have hsame : Handled spare (fun _ => False) w ((w.setDrm w.drm).setLayer .client l) :=
              @Tenants.setSame _ _ (w.setDrm w.drm) ht .client l hl l rfl rfl
            exact huntouched _ hsame.tenants (hsame.untouched _ id) fun hh => hh rfl
        | some hdl =>
            have hpassed : notePassed w h (.setDisplayClientBuffer (some hdl) fence a) .client =
                w.drm.passed hdl fence := by
              simp [notePassed]
            show P _ .client (notePassed w h _ .client)
            rw [hpassed]
            exact hset rfl hdl fence a rfl l hl
      · exact fun _ _ => trivial
  | prepareDisplayLayers a =>
      obtain rfl : t = .cursor := by cases t with
        | primary => exact absurd htouches (by simp [Op.Touches, Slot.layer])
        | cursor => rfl
      show Post (Ret.status <$> _) w _ _
      rw [post_map]
      apply (prepareDisplayLayers_handled hreg ht a).mono
      · rintro _ w' ⟨hhandled, hafter⟩
        cases hlast : w.cursorTaken with
        | none =>
            have hpassed : notePassed w h (.prepareDisplayLayers a) = h := by
              unfold notePassed
              rw [hlast]
            rw [hpassed]
            exact huntouched w' hhandled.tenants (hafter.skipped hlast) fun hh => hh hlast
        | some n =>
            have hpassed : notePassed w h (.prepareDisplayLayers a) .cursor = h (.created n) := by
              unfold notePassed
              rw [hlast]
              exact Function.update_self _ _ _
            show P w' .cursor (notePassed w h (.prepareDisplayLayers a) .cursor)
            rw [hpassed]
            exact htaken rfl a n rfl hlast w' hafter
      · exact fun _ _ _ => trivial
  | _ => cases t <;> exact absurd htouches (by simp [Op.Touches, Slot.layer, LayerRef.IsCreated])

/-- The two layers of the display that an operation gives a buffer. -/
theorem slots_step (hs : Referencing (w, h)) {op : Op} (hop : NumbersStand (w, h) op) (t : Slot) :
    Post (step op) w (fun _ w' => w'.BufferFrom t.layer (notePassed w h op t.layer).dmaBuf)
      (fun _ _ => True) := by
  obtain ⟨spare, ht⟩ := hs.tenants
  apply @slot_step w h spare (fun w' p passed => w'.BufferFrom p passed.dmaBuf) hs.wf hs.registered ht
  · exact fun w' ht' hu _ => (hs.slots t).untouched ht ht' hu
  · rintro - hdl fence a rfl l hl
    exact ht.setLayerBuffer_from hl hdl fence a
  · rintro - a n rfl hlast w' hafter c hc b hb
    obtain ⟨l, hl, buf, hbuf, hfrom⟩ := hafter.taken n hlast
    obtain ⟨hdenotes, hspared⟩ := hop n hlast l hl buf hbuf
    exact hdenotes b (hfrom hspared c hc b hb)

theorem referencing_step {s : World × (LayerRef → Passed)} (hs : Referencing s) {op : Op}
    (hop : NumbersStand s op) :
    Post (noting notePassed step op) s (fun _ s' => Referencing s') (fun _ _ => True) := by
  obtain ⟨spare, ht⟩ := hs.tenants
  rw [post_noting]
  have hslots := (slots_step hs hop .primary).and (slots_step hs hop .cursor)
  apply ((hs.wf.step op).and ((step_registered hs.wf hs.registered op).and
    ((tenants_step hs.wf hs.registered ht op).and hslots))).mono
  · rintro _ w' ⟨hwf, hreg, ⟨ht', -⟩, hprimary, hcursor⟩
    refine ⟨hwf, hreg, ⟨spare, ht'⟩, fun t => ?_⟩
    cases t with
    | primary => exact hprimary
    | cursor => exact hcursor
  · exact fun _ _ _ => trivial

/-- `Commit` builds what its frame builds. -/
theorem step_commit_builds {p : Parts} (hwf : WellFormed w) (hp : p.Of w) (a : FrameAnswers) :
    Post (step (.commit a)) w (fun _ w' => FrameBuilds w p w')
      (fun _ w' => FrameBuilds w p w') := by
  show Post (commit a >>= _) w _ _
  rw [post_bind]
  refine (commit_post hwf (Q := fun _ w' => FrameBuilds w p w') ?_).mono ?_ (fun _ _ hE => hE)
  · refine (apply_builds hwf hp a).mono (fun _ w' hb p' hp' => ?_) (fun _ _ hE => hE)
    exact hb.congr (by simp) (World.slotOf_congr (by simp))
  · rintro r w' ⟨-, hb⟩
    exact hb.congr rfl fun _ => rfl

/-- The frame builds from what the layers of the display were passed. -/
theorem Referencing.builds {s : World × (LayerRef → Passed)} (hs : Referencing s) {p : Parts}
    (hp : p.Of s.1) {w' : World} (hb : FrameBuilds s.1 p w') : BuildsPassed s w' := by
  intro e he
  obtain ⟨buf, hbuf, b, hsource, hdenotes⟩ := hb e he
  refine ⟨b, hsource, hs.slots _ _ (hp.layer _) b ?_⟩
  unfold HdiLayer.fdOf
  rw [Option.mem_def.1 hbuf]
  exact hdenotes

theorem Referencing.keeps {s : World × (LayerRef → Passed)} (hs : Referencing s) (op : Op) :
    KeepsReferences s op := by
  rintro a rfl
  obtain ⟨p, hp, -⟩ := hs.wf.parts
  exact (step_commit_builds hs.wf hp a).mono (fun _ w' hb => hs.builds hp hb)
    (fun _ w' hb => hs.builds hp hb)

end

/-! ## Runs -/

theorem Started.referencing {w : World} (h : Started w) : Referencing (w, w.passedAtBoot) := by
  have htracked := initialised_tracked h.initialised
  obtain ⟨htenants, hboot⟩ := h.tenants
  refine ⟨htracked.wf, htracked.registered, htenants, fun t => ?_⟩
  cases t with
  | primary =>
      intro l hl b hb
      have hclient : w.disp.mClientLayer = some l := hl
      obtain ⟨-, buf, hbuf, hdenotes⟩ := hboot.client l hclient
      have hpassed : w.passedAtBoot .client = { dmaBuf := w.drm.dmaBufAt buf.mHandle.fd } := by
        unfold World.passedAtBoot
        rw [hclient, Option.bind_some, Option.mem_def.1 hbuf]
      show (w.passedAtBoot .client).dmaBuf = some b
      rw [hpassed]
      apply hdenotes b
      rw [← hb]
      unfold HdiLayer.fdOf
      rw [Option.mem_def.1 hbuf]
  | cursor =>
      intro l hl b hb
      obtain ⟨spare, ht⟩ := htenants
      have hnone : l.fdOf .buffer = -1 := by
        unfold HdiLayer.fdOf
        rw [(hboot.cursor l hl).2]
      rw [hnone, ht.dmaBufAt_neg (by decide)] at hb
      exact absurd hb (by simp)

/-- **Runs.** Where the numbers stand whenever a cursor layer is handed over, every framebuffer
of every commit is imported from the dma-buf the client passed. -/
theorem references_of_numbers {w : World} (h : Started w) {ops : List Op}
    (hops : Meets (noting notePassed step) NumbersStand (w, w.passedAtBoot) ops) :
    Meets (noting notePassed step) KeepsReferences (w, w.passedAtBoot) ops := by
  apply meets_imp (I := Referencing) _ _ h.referencing hops
  · exact fun s op hs hop => referencing_step hs hop
  · exact fun s op hs _ => hs.keeps op

/-- A client shows a cursor layer with the buffer its descriptor `50` denotes, and does
`reopen` before the frame is prepared. -/
def cursorShown (reopen : List Op) : List Op :=
  [.clientFd 50 (some (.dmaBuf 200)), .createLayer false false,
    .setLayerBuffer 0 (some ⟨50, 64, 64, 256, 20, 0⟩) (-1) { buffer := some 51 },
    .setLayerCompositionType 0 .cursor] ++ reopen ++
  [.prepareDisplayLayers fun _ => { buffer := some 52 }]

/-- The client gives its descriptor `50` another meaning. -/
def reused : List Op := [.clientFd 50 none, .clientFd 50 (some (.dmaBuf 300))]

/-- A number that is used again after the preparation does no harm. -/
theorem references_prepared :
    Meets (noting notePassed step) KeepsReferences (smallBoot [41], (smallBoot [41]).passedAtBoot)
      (cursorShown [] ++ reused ++ [.commit (cursorFrames.cursorFrame 2 (some 21))]) := by
  have hboot : Started (smallBoot [41]) := smallBoot_started (by decide) (by decide +kernel)
  exact references_of_numbers hboot (by decide +kernel)

/-- **A number that is used again before the preparation** is what the cursor plane shows:
the framebuffer comes from dma-buf `300`, and the client passed dma-buf `200`. -/
theorem references_reused :
    Started (smallBoot [41]) ∧
      ¬ Meets (noting notePassed step) KeepsReferences
        (smallBoot [41], (smallBoot [41]).passedAtBoot)
        (cursorShown reused ++ [.commit (cursorFrames.cursorFrame 2 (some 21))]) := by
  refine ⟨smallBoot_started (by decide) (by decide +kernel), fun hmeets => ?_⟩
  have hrun : returns (run (noting notePassed step) (cursorShown reused))
      (smallBoot [41], (smallBoot [41]).passedAtBoot) (fun _ s =>
        returns (step (.commit (cursorFrames.cursorFrame 2 (some 21)))) s.1
          (fun _ w' => decide (¬ BuildsPassed s w'))) = true := by
    decide +kernel
  obtain ⟨rets, s, hrun, hcommit⟩ := returns_iff.1 hrun
  obtain ⟨r, w', hstep, hbad⟩ := returns_iff.1 hcommit
  exact of_decide_eq_true hbad (((hmeets.of_run hrun) _ rfl).of_ok hstep)

end QemuHal
