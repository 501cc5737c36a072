import Mathlib.Logic.Basic
import QemuHal.Core.Changes
import QemuHal.Frame.Lifetime

/-!
# How visible layers are presented

`PrepareDisplayLayers` turns every visible layer into a client layer, the cursor layers
among them, and hands the buffer of the last cursor layer to the cursor planes. Nothing
takes it back.
-/

namespace QemuHal

open Exec

/-! ## What is on screen -/

/-- The framebuffer a plane scans out, `0` for none: the one of the last accepted request
that set it, unless it has been removed since. -/
def litFb (plane : Nat) : List DrmCall → Int
  | [] => 0
  | .atomicCommit pset _ (some _) :: log =>
      (pset.lookup (.plane plane) .fbId).getD (litFb plane log)
  | .rmFB _ fb true :: log => if litFb plane log = fb then 0 else litFb plane log
  | _ :: log => litFb plane log

/-- The plane scans out the dma-buf `b`. -/
def Drm.ScansOut (d : Drm) (plane b : Nat) : Prop :=
  litFb plane d.log ≠ 0 ∧ ∃ e ∈ d.fbs, (e.1 : Int) = litFb plane d.log ∧ e.2.dmaBuf = b

instance (d : Drm) (plane b : Nat) : Decidable (d.ScansOut plane b) :=
  inferInstanceAs (Decidable (_ ∧ _))

namespace World

def isVisible (w : World) (n : Nat) : Bool :=
  match w.disp.layers n with
  | some l => l.mVisible
  | none => false

/-- The visible layers, in the order of `mLayers`. -/
def visible (w : World) : List Nat := w.disp.mLayers.filter w.isVisible

/-- The dma-buf in the buffer of a layer. -/
def contents (w : World) (l : HdiLayer) : Option Nat :=
  l.mHdiBuffer.bind fun buf => w.drm.dmaBufAt buf.mFd

/-- The latest buffer of the layer is scanned out on a cursor plane. -/
def OnCursorPlane (w : World) (l : HdiLayer) : Prop :=
  ∃ c ∈ w.disp.mComposer, ∃ q ∈ c.mCursorPlanes, ∃ b ∈ w.contents l, w.drm.ScansOut q.mId b

instance (w : World) (l : HdiLayer) : Decidable (w.OnCursorPlane l) :=
  inferInstanceAs (Decidable (∃ c ∈ w.disp.mComposer, _))

end World

/-! ## The law -/

/-- Every layer that was visible in `w₀`, where the frame was prepared, is presented by
exactly one path in `w`, and the cursor planes show cursor layers of `w₀` only. -/
structure Presented (w₀ w : World) : Prop where
  onePath : ∀ n ∈ w₀.visible, ∀ l₀ ∈ w₀.disp.layers n, ∀ l ∈ w.disp.layers n,
    Xor (l.mCompositionType = .client ∧
      (l₀.mCompositionType ≠ .client → n ∈ w.disp.mChangeLayers)) (w.OnCursorPlane l)
  cursorsOnly : ∀ c ∈ w.disp.mComposer, ∀ q ∈ c.mCursorPlanes, ∀ b, w.drm.ScansOut q.mId b →
    ∃ n ∈ w₀.visible, ∃ l₀ ∈ w₀.disp.layers n, ∃ l ∈ w.disp.layers n,
      l₀.mCompositionType = .cursor ∧ w.contents l = some b

/-- The state the last `PrepareDisplayLayers` found, while the client has set no
composition type since. -/
def notePrepared (w : World) (w₀ : Option World) : Op → Option World
  | .prepareDisplayLayers _ => some w
  | .setLayerCompositionType .. => none
  | _ => w₀

/-- On a display with a cursor plane, once the boot is completed, an accepted commit
presents what was prepared. -/
def Presents (s : World × Option World) : Op → Prop
  | .commit a => ∀ w₀ ∈ s.2, ∀ c ∈ s.1.disp.mComposer, c.mCursorPlanes ≠ [] →
      (c.isAnimationEnd_ || a.bootCompleted) = true → s.1.accepts a = true →
        Post (step (.commit a)) s.1 (fun _ w => Presented w₀ w) (fun _ _ => True)
  | _ => True

/-- No cursor layer is visible when a frame is prepared. -/
def NoCursor (s : World × Option World) : Op → Prop
  | .prepareDisplayLayers _ =>
      ∀ n ∈ s.1.visible, ∀ l ∈ s.1.disp.layers n, l.mCompositionType ≠ .cursor
  | _ => True

instance (s : World × Option World) : (op : Op) → Decidable (NoCursor s op)
  | .prepareDisplayLayers _ =>
      inferInstanceAs (Decidable (∀ n ∈ s.1.visible, _))
  | .createLayer .. | .destroyLayer .. | .setLayerZorder .. | .setLayerBuffer ..
  | .setLayerCompositionType .. | .setLayerVisible .. | .setLayerRegion ..
  | .setDisplayClientBuffer .. | .setDisplayMode .. | .commit .. | .getDisplayCompChange ..
  | .getDisplayReleaseFence .. | .clientFd .. => inferInstanceAs (Decidable True)

/-! ## Cursor planes no request has touched -/

/-- There is no cursor layer, and no request has put a framebuffer on a cursor plane. -/
structure Unlit (w : World) : Prop where
  cursorLayers : ∀ c ∈ w.disp.mComposer, c.mCursorLayers = []
  requests : SlotRequests (fun values _ => values = []) .cursor w

theorem litFb_eq_zero {q : Nat} {log : List DrmCall}
    (h : ∀ c ∈ commits log, c.pset.values (.plane q) .fbId = []) : litFb q log = 0 := by
  induction log with
  | nil => rfl
  | cons call log ih =>
      cases call with
      | atomicCommit pset fbs fence =>
          have hlog := ih fun c hc => h c (List.mem_cons_of_mem _ hc)
          cases fence with
          | none => exact hlog
          | some n =>
              have hpset : pset.values (.plane q) .fbId = [] := h ⟨pset, fbs, some n⟩ (by simp [commits])
              simp [litFb, AtomicReq.lookup, hpset, hlog]
      | rmFB gem fb removed =>
          have hlog := ih h
          cases removed with
          | false => exact hlog
          | true => simp [litFb, hlog]
      | _ => exact ih h

theorem Unlit.dark {w : World} (h : Unlit w) {c : HdiDrmComposition}
    (hc : w.disp.mComposer = some c) {q : DrmPlane} (hq : q ∈ c.mCursorPlanes) (b : Nat) :
    ¬ w.drm.ScansOut q.mId b := by
  obtain ⟨p, hp, hmeet⟩ := h.requests
  obtain rfl := Option.some.inj (hp.comp.symm.trans hc)
  rintro ⟨hlit, -⟩
  exact hlit (litFb_eq_zero (hmeet q.mId (List.mem_map_of_mem hq)))

theorem Unlit.not_onCursorPlane {w : World} (h : Unlit w) (l : HdiLayer) :
    ¬ w.OnCursorPlane l := by
  rintro ⟨c, hc, q, hq, b, -, hb⟩
  exact h.dark hc hq b hb

/-- A frame without a cursor layer puts nothing on the cursor planes. -/
theorem Unlit.apply {w : World} (hwf : WellFormed w) (h : Unlit w) (a : FrameAnswers) :
    Post (QemuHal.apply a) w (fun _ w' => SlotRequests (fun values _ => values = []) .cursor w')
      (fun _ w' => SlotRequests (fun values _ => values = []) .cursor w') := by
  obtain ⟨p, hp, -⟩ := hwf.parts
  have hent : p.enters a .cursor = false := by
    simp [Parts.enters, h.cursorLayers _ hp.comp]
  have hcarried : p.carried w.drm a .cursor = [] := by
    unfold Parts.carried
    rw [hent]
    cases (p.layer .cursor).mHdiBuffer <;> simp
  apply requests_apply (s := .cursor) hwf hp
    (J := fun _ C _ p req => C = [] ∧ ∀ q ∈ p.comp.planeIds .cursor, req.values (.plane q) .fbId = [])
  · constructor
    · intro j drmPlane w p buf req _ _ _ _ hJ
      rw [Parts.rotate_planeIds]
      exact hJ
    · intro n C j drmPlane w p buf req _ _ _ _ _ hJ
      exact absurd hJ.1 (by simp)
  · intro t n C hne
    constructor
    · intro j drmPlane w p buf req _ _ _ _ hJ
      rw [Parts.rotate_planeIds]
      exact hJ
    · intro n' C' j drmPlane w p buf req halong _ hmem _ _ hJ
      rw [Parts.rotate_planeIds]
      refine ⟨hJ.1, fun q hq => ?_⟩
      rw [Parts.values_put_other (halong.wf.good halong.of) hne (by rwa [halong.slotPlanes]) hq]
      exact hJ.2 q hq
  · intro n C w p w' p' req _ hn hJ
    rw [hn.planeIds]
    exact hJ
  · exact ⟨hcarried, fun _ _ => rfl⟩
  · exact fun _ _ _ _ hJ => hJ.2
  · exact h.requests

/-! ## Operations between two preparations -/

/-- No layer has a new type, the changes are the same, and so is what the composition
does with its cursor planes. -/
structure KeepsTypes (w w' : World) : Prop where
  nextLayer : w.disp.nextLayer ≤ w'.disp.nextLayer
  mChangeLayers : w'.disp.mChangeLayers = w.disp.mChangeLayers
  types : ∀ n < w.disp.nextLayer, ∀ l', w'.disp.layers n = some l' →
    ∃ l, w.disp.layers n = some l ∧ l'.mCompositionType = l.mCompositionType
  cursorLayers : ∀ c', w'.disp.mComposer = some c' →
    ∃ c, w.disp.mComposer = some c ∧ c'.mCursorLayers = c.mCursorLayers

namespace KeepsTypes

variable {w w' w'' : World}

theorem refl (w : World) : KeepsTypes w w :=
  ⟨le_refl _, rfl, fun _ _ l hl => ⟨l, hl, rfl⟩, fun c hc => ⟨c, hc, rfl⟩⟩

theorem trans (h : KeepsTypes w w') (h' : KeepsTypes w' w'') : KeepsTypes w w'' where
  nextLayer := h.nextLayer.trans h'.nextLayer
  mChangeLayers := h'.mChangeLayers.trans h.mChangeLayers
  types := by
    intro n hn l'' hl''
    obtain ⟨l', hl', ht'⟩ := h'.types n (hn.trans_le h.nextLayer) l'' hl''
    obtain ⟨l, hl, ht⟩ := h.types n hn l' hl'
    exact ⟨l, hl, ht'.trans ht⟩
  cursorLayers := by
    intro c'' hc''
    obtain ⟨c', hc', he'⟩ := h'.cursorLayers c'' hc''
    obtain ⟨c, hc, he⟩ := h.cursorLayers c' hc'
    exact ⟨c, hc, he'.trans he⟩

theorem setDrm (w : World) (d : Drm) : KeepsTypes w (w.setDrm d) :=
  ⟨le_refl _, rfl, fun _ _ l hl => ⟨l, hl, rfl⟩, fun c hc => ⟨c, hc, rfl⟩⟩

theorem setLayer {p : LayerRef} {l : HdiLayer} (h : w.layerAt p = some l) (l' : HdiLayer)
    (hl : l'.mCompositionType = l.mCompositionType) : KeepsTypes w (w.setLayer p l') := by
  cases p with
  | client => exact ⟨le_refl _, rfl, fun _ _ m hm => ⟨m, hm, rfl⟩, fun c hc => ⟨c, hc, rfl⟩⟩
  | cursor => exact ⟨le_refl _, rfl, fun _ _ m hm => ⟨m, hm, rfl⟩, fun c hc => ⟨c, hc, rfl⟩⟩
  | created n =>
      refine ⟨le_refl _, rfl, fun m _ k hk => ?_, fun c hc => ⟨c, hc, rfl⟩⟩
      simp only [World.setLayer, Function.update_apply] at hk
      split at hk
      · next hm =>
          subst hm
          obtain rfl := Option.some.inj hk
          exact ⟨l, h, hl⟩
      · exact ⟨k, hk, rfl⟩

theorem setDrm_setLayer {p : LayerRef} {l : HdiLayer} (h : w.layerAt p = some l) (d : Drm)
    (l' : HdiLayer) (hl : l'.mCompositionType = l.mCompositionType) :
    KeepsTypes w ((w.setDrm d).setLayer p l') :=
  (setDrm w d).trans (setLayer (by simpa using h) l' hl)

theorem popped {p : LayerRef} {l : HdiLayer} (h : w.layerAt p = some l) :
    KeepsTypes w (w.setLayer p l.getReleaseFenceFd.2) := by
  obtain ⟨fences, hl⟩ := l.getReleaseFenceFd_layer
  exact setLayer h _ (by rw [hl])

end KeepsTypes

/-- The operation keeps the types when it returns. -/
def IsTypeKeeping {α : Type} (m : Hal α) : Prop :=
  ∀ w, Post m w (fun _ w' => KeepsTypes w w') (fun _ _ => True)

section
variable {α β : Type}

theorem IsTypeKeeping.bind {m : Hal α} {f : α → Hal β} (hm : IsTypeKeeping m)
    (hf : ∀ a, IsTypeKeeping (f a)) : IsTypeKeeping (m >>= f) := by
  intro w
  rw [post_bind]
  apply (hm w).mono
  · intro a w' h
    exact (hf a w').mono (fun _ _ h' => h.trans h') (fun _ _ _ => trivial)
  · exact fun _ _ _ => trivial

theorem IsTypeKeeping.pure (a : α) : IsTypeKeeping (pure a : Hal α) := fun w => KeepsTypes.refl w

theorem isTypeKeeping_derefLayer (p : LayerRef) : IsTypeKeeping (derefLayer p) :=
  fun w => derefLayer_post (fun _ _ => KeepsTypes.refl w) (fun _ _ => trivial)

theorem isTypeKeeping_popReleaseFence (p : LayerRef) : IsTypeKeeping (popReleaseFence p) := by
  intro w
  unfold popReleaseFence
  rw [post_bind]
  apply derefLayer_post
  · exact fun l hl => KeepsTypes.popped hl
  · exact fun _ _ => trivial

theorem isTypeKeeping_readReleaseFences (fences : Bool) (mLayers : List Nat) :
    IsTypeKeeping (readReleaseFences fences mLayers) := by
  induction mLayers with
  | nil => exact IsTypeKeeping.pure _
  | cons n mLayers ih =>
      apply (isTypeKeeping_derefLayer _).bind
      intro l
      have hrest : ∀ fd : Int, IsTypeKeeping (do
          let _ ← popReleaseFence (.created n)
          let rest ← readReleaseFences fences mLayers
          return (l.mId, fd) :: rest : Hal (List (Nat × Int))) := fun fd =>
        (isTypeKeeping_popReleaseFence _).bind fun _ => ih.bind fun _ => IsTypeKeeping.pure _
      cases fences with
      | false => exact hrest (-1)
      | true => exact (isTypeKeeping_popReleaseFence _).bind hrest

theorem isTypeKeeping_readChanges (changes : List Nat) : IsTypeKeeping (readChanges changes) := by
  induction changes with
  | nil => exact IsTypeKeeping.pure _
  | cons n changes ih =>
      exact (isTypeKeeping_derefLayer _).bind fun _ => ih.bind fun _ => IsTypeKeeping.pure _

theorem isTypeKeeping_callLayerFunction (layerId : Nat)
    {f : Drm → HdiLayer → DispStatus × HdiLayer × Drm}
    (hf : ∀ d l, (f d l).2.1.mCompositionType = l.mCompositionType) :
    IsTypeKeeping (callLayerFunction layerId f) := by
  intro w
  apply (callLayerFunction_cases layerId f).mono
  · rintro _ w' (rfl | ⟨n, l, hl, rfl⟩)
    · exact KeepsTypes.refl w'
    · exact KeepsTypes.setDrm_setLayer (p := .created n) hl _ _ (hf w.drm l)
  · exact fun _ _ _ => trivial

theorem isTypeKeeping_setDisplayClientBuffer (buffer : Option BufferHandle) (fence : Int)
    (a : DupAnswers) : IsTypeKeeping (setDisplayClientBuffer buffer fence a) := by
  intro w
  unfold setDisplayClientBuffer
  rw [post_bind]
  apply derefLayer_post
  · intro l hl
    obtain ⟨buf, fd, heq, -⟩ := HdiLayer.setLayerBuffer_layer w.drm l buffer fence a
    have htype : (l.setLayerBuffer w.drm buffer fence a).2.1.mCompositionType =
        l.mCompositionType := by rw [heq]
    exact KeepsTypes.setDrm_setLayer hl _ _ htype
  · exact fun _ _ => trivial

theorem KeepsTypes.fenced {w : World} {p : Parts} (hp : p.Of w) (n : Int) :
    KeepsTypes w (w.fenced p n) := by
  have hclient : KeepsTypes w (w.setLayer .client ((p.layer .primary).setReleaseFence n)) :=
    KeepsTypes.setLayer (p := .client) (hp.layer .primary) _ rfl
  unfold World.fenced
  split
  · exact hclient
  · have hcursor : (w.setLayer .client ((p.layer .primary).setReleaseFence n)).layerAt .cursor =
        some (p.layer .cursor) := by
      rw [World.layerAt_setLayer, if_neg (by simp)]
      exact hp.layer .cursor
    exact hclient.trans (KeepsTypes.setLayer hcursor _ rfl)

theorem KeepsTypes.released {w : World} {p : Parts} (hp : p.Of w) (s : Slot) (a : DropAnswers) :
    KeepsTypes w (w.released p s a) where
  nextLayer := le_refl _
  mChangeLayers := rfl
  types := fun _ _ l hl => ⟨l, hl, rfl⟩
  cursorLayers := by
    intro c hc
    obtain rfl := Option.some.inj (hc : some (p.comp.setLastGem s (p.comp.currentGem s)) = some c)
    refine ⟨p.comp, hp.comp, ?_⟩
    cases s <;> rfl

/-- A frame works on the display's own layers. -/
theorem keepsTypes_apply {w : World} (h : WellFormed w) (a : FrameAnswers) :
    Post (apply a) w (fun _ w' => KeepsTypes w w') (fun _ _ => True) := by
  obtain ⟨p, hp, -⟩ := h.parts
  have htriv : ∀ s, LoopInv w p a s fun _ _ _ _ _ => True :=
    fun _ => ⟨fun _ _ _ _ _ => trivial, fun _ _ _ _ _ _ => trivial⟩
  have hbuilt : ∀ w' p', Along w p w' p' → KeepsTypes w w' := by
    intro w' p' halong
    have hdisp := halong.disp
    refine ⟨by rw [hdisp], by rw [hdisp], fun n _ l hl => ?_, fun c hc => ?_⟩
    · rw [hdisp] at hl
      exact ⟨l, hl, rfl⟩
    · obtain rfl := Option.some.inj (halong.of.comp.symm.trans hc)
      exact ⟨p.comp, hp.comp, by rw [halong.comp]⟩
  apply apply_post h hp (htriv .primary) (htriv .cursor) (fun _ _ _ => trivial) _ trivial
    (fun _ _ _ _ _ => trivial) (fun _ => KeepsTypes.refl w)
    (fun w' p' _ halong _ _ _ => hbuilt w' p' halong)
  · intro w' p' pset halong _ _
    have hrefused : KeepsTypes w (w'.refused pset) :=
      (hbuilt w' p' halong).trans (KeepsTypes.setDrm w' _)
    apply commitFrame_post halong.wf halong.of (fun _ => hrefused)
    intro n _
    have hof := (halong.of.committed pset n).fenced n
    have hgranted : KeepsTypes w (w'.granted p' pset n) :=
      ((hbuilt w' p' halong).trans (KeepsTypes.setDrm w' _)).trans
        (KeepsTypes.fenced (halong.of.committed pset n) n)
    rw [post_bind]
    refine releaseLast_post hof (fun _ => ?_) (fun _ => trivial)
    refine releaseLast_post (hof.released _ _) (fun _ => ?_) (fun _ => trivial)
    exact (hgranted.trans (KeepsTypes.released hof _ _)).trans
      (KeepsTypes.released (hof.released _ _) _ _)
  · exact fun w' blob hw => hw.trans (KeepsTypes.setDrm w' _)

/-- One operation beside the frames that sets no type. -/
theorem keepsTypes_beside {w : World} (h : Registered w) {op : Op}
    (hcommit : ∀ a, op ≠ .commit a) (hprep : ∀ a, op ≠ .prepareDisplayLayers a)
    (htype : ∀ id type, op ≠ .setLayerCompositionType id type) :
    Post (step op) w (fun _ w' => KeepsTypes w w') (fun _ _ => True) := by
  cases op with
  | createLayer i l =>
      show Post (createLayer i l >>= _) w _ _
      rw [post_bind]
      rcases createLayer_cases h i l with ⟨ret, heq⟩ | ⟨layerIds, heq, -⟩ |
        ⟨id, layerIds, heq, -⟩ | heq
      · exact post_of_ok heq (KeepsTypes.refl w)
      · exact post_of_ok heq ⟨le_refl _, rfl, fun _ _ l hl => ⟨l, hl, rfl⟩, fun c hc => ⟨c, hc, rfl⟩⟩
      · refine post_of_ok heq ⟨Nat.le_succ _, rfl, fun n hn l hl => ?_, fun c hc => ⟨c, hc, rfl⟩⟩
        simp only [World.created, World.setLayer, Function.update_of_ne hn.ne] at hl
        exact ⟨l, hl, rfl⟩
      · unfold Post
        rw [heq]
        trivial
  | destroyLayer id a =>
      show Post (_ <$> destroyLayer id a) w _ _
      rw [post_map]
      rcases destroyLayer_cases h id a with ⟨-, heq⟩ | ⟨n, drm, -, heq⟩
      · exact post_of_ok heq (KeepsTypes.refl w)
      · refine post_of_ok heq ⟨le_refl _, rfl, fun m _ l hl => ?_, fun c hc => ⟨c, hc, rfl⟩⟩
        simp only [World.destroyed, Function.update_apply] at hl
        split at hl
        · exact absurd hl (by simp)
        · exact ⟨l, hl, rfl⟩
  | setLayerZorder id z =>
      show Post (_ <$> setLayerZorder id z) w _ _
      rw [post_map]
      rcases setLayerZorder_cases h id z with ⟨ret, heq⟩ | ⟨n, l, -, hl, heq⟩
      · exact post_of_ok heq (KeepsTypes.refl w)
      · have hset := KeepsTypes.setLayer (p := .created n) hl (l.setLayerZorder z) rfl
        exact post_of_ok heq ⟨hset.nextLayer, hset.mChangeLayers, hset.types, hset.cursorLayers⟩
  | setLayerBuffer id buffer fence a =>
      show Post (_ <$> callLayerFunction id _) w _ _
      rw [post_map]
      apply isTypeKeeping_callLayerFunction id _ w
      intro d l
      obtain ⟨buf, fd, heq, -⟩ := HdiLayer.setLayerBuffer_layer d l buffer fence a
      rw [heq]
  | setLayerCompositionType id type => exact absurd rfl (htype id type)
  | setLayerVisible id visible =>
      show Post (_ <$> callLayerFunction id _) w _ _
      rw [post_map]
      exact isTypeKeeping_callLayerFunction id (fun _ _ => rfl) w
  | setLayerRegion id rect =>
      show Post (_ <$> callLayerFunction id _) w _ _
      rw [post_map]
      apply isTypeKeeping_callLayerFunction id _ w
      intro d l
      cases rect <;> rfl
  | setDisplayClientBuffer buffer fence a =>
      show Post (_ <$> setDisplayClientBuffer buffer fence a) w _ _
      rw [post_map]
      exact isTypeKeeping_setDisplayClientBuffer buffer fence a w
  | setDisplayMode id =>
      exact ⟨le_refl _, rfl, fun _ _ l hl => ⟨l, hl, rfl⟩, fun c hc => ⟨c, hc, rfl⟩⟩
  | prepareDisplayLayers a => exact absurd rfl (hprep a)
  | commit a => exact absurd rfl (hcommit a)
  | getDisplayCompChange arrays =>
      show Post (getDisplayCompChange arrays >>= _) w _ _
      rw [post_bind]
      unfold getDisplayCompChange
      rw [post_bind, post_get]
      cases arrays with
      | false => exact KeepsTypes.refl w
      | true =>
          show Post (readChanges w.disp.mChangeLayers >>= _) w _ _
          rw [post_bind]
          exact isTypeKeeping_readChanges _ w
  | getDisplayReleaseFence layers fences =>
      show Post (getDisplayReleaseFence layers fences >>= _) w _ _
      rw [post_bind]
      unfold getDisplayReleaseFence
      rw [post_bind, post_get]
      dsimp only
      split
      · exact KeepsTypes.setDrm w _
      · rw [post_bind]
        apply (isTypeKeeping_readReleaseFences fences w.disp.mLayers w).mono
        · exact fun out w' hw => hw.trans (KeepsTypes.setDrm w' _)
        · exact fun _ _ _ => trivial
  | clientFd fd file => exact KeepsTypes.setDrm w _

/-- **One operation** that prepares no frame and sets no type. -/
theorem keepsTypes_step {w : World} (hwf : WellFormed w) (h : Registered w) {op : Op}
    (hprep : ∀ a, op ≠ .prepareDisplayLayers a)
    (htype : ∀ id type, op ≠ .setLayerCompositionType id type) :
    Post (step op) w (fun _ w' => KeepsTypes w w') (fun _ _ => True) := by
  by_cases hop : ∃ a, op = .commit a
  · obtain ⟨a, rfl⟩ := hop
    have hcommit := commit_post hwf (a := a) (Q := fun _ w' => KeepsTypes w w')
      ((keepsTypes_apply hwf a).mono
        (fun _ w' hw p hp => hw.trans (KeepsTypes.popped (p := .client) (hp.layer .primary)))
        (fun _ _ _ => trivial))
    show Post (commit a >>= _) w _ _
    rw [post_bind]
    exact hcommit.mono (fun _ w' hw => hw.2.trans (KeepsTypes.setDrm w' _)) (fun _ _ _ => trivial)
  · exact keepsTypes_beside h (fun a heq => hop ⟨a, heq⟩) hprep htype

end

/-! ## Preparing a frame without a cursor layer -/

namespace World

/-- The layer is there and is no client layer. -/
def notClient (w : World) (n : Nat) : Bool :=
  match w.disp.layers n with
  | some l => decide (l.mCompositionType ≠ .client)
  | none => false

/-- These layers have the client selected. -/
def selected (w : World) (ns : List Nat) : World :=
  { w with disp := { w.disp with
    layers := fun n =>
      (w.disp.layers n).map fun l => if n ∈ ns then l.setDeviceSelect .client else l } }

/-- These layers are client layers, and those that were none before are changed ones. -/
def collected (w : World) (ns : List Nat) : World :=
  { w with disp := { w.disp with
    layers := fun n =>
      (w.disp.layers n).map fun l => if n ∈ ns then l.setLayerCompositionType .client else l
    mChangeLayers := w.disp.mChangeLayers ++ ns.filter w.notClient } }

/-- What `PrepareDisplayLayers` leaves behind. -/
def prepared (w : World) (c : HdiDrmComposition) : World :=
  let cleared : World := { w with disp := { w.disp with mChangeLayers := [] } }
  ((cleared.selected w.visible).setComposition { c with mCompLayers := [.client] }).collected
    w.visible

theorem notClient_congr {w w' : World} {n : Nat} (h : w'.disp.layers n = w.disp.layers n) :
    w'.notClient n = w.notClient n := by
  unfold notClient
  rw [h]

end World

theorem visibleLayers_eq {w : World} (mLayers : List Nat)
    (h : ∀ n ∈ mLayers, w.disp.layers n ≠ none) :
    visibleLayers mLayers w = .ok (mLayers.filter w.isVisible) w := by
  induction mLayers with
  | nil => rfl
  | cons n mLayers ih =>
      obtain ⟨l, hl, hderef⟩ := derefLayer_live (h n List.mem_cons_self)
      have hvisible : w.isVisible n = l.mVisible := by
        unfold World.isVisible
        rw [hl]
      unfold visibleLayers
      rw [bind_of_ok hderef, bind_of_ok (ih fun m hm => h m (List.mem_cons_of_mem n hm)),
        List.filter_cons, hvisible]
      rfl

theorem selectDevices_eq (ns : List Nat) :
    ∀ w : World, (∀ n ∈ ns, ∃ l, w.disp.layers n = some l ∧ l.mCompositionType ≠ .cursor) →
      selectDevices (ns.map .created) w = .ok () (w.selected ns) := by
  induction ns with
  | nil =>
      intro w _
      have hsame : w.selected [] = w := by simp [World.selected]
      rw [hsame]
      rfl
  | cons n ns ih =>
      intro w h
      obtain ⟨l, hl, htype⟩ := h n List.mem_cons_self
      have hset : (w.setLayer (.created n) (l.setDeviceSelect .client)).selected ns =
          w.selected (n :: ns) := by
        simp only [World.selected, World.setLayer]
        congr 2
        funext m
        by_cases hm : m = n
        · subst hm
          simp only [Function.update_self, hl, Option.map_some, List.mem_cons_self, if_true]
          split <;> rfl
        · simp [hm]
      rw [List.map_cons]
      unfold selectDevices
      rw [bind_of_ok (derefLayer_of (p := .created n) hl), if_pos htype]
      show selectDevices (ns.map .created) (w.setLayer (.created n) (l.setDeviceSelect .client)) = _
      rw [ih, hset]
      intro m hm
      obtain ⟨k, hk, hktype⟩ := h m (List.mem_cons_of_mem n hm)
      simp only [World.setLayer, Function.update_apply]
      split
      · exact ⟨_, rfl, htype⟩
      · exact ⟨k, hk, hktype⟩

theorem collectChanges_eq (a : Nat → DupAnswers) (ns : List Nat) (hnodup : ns.Nodup) :
    ∀ (i : Nat) (w : World), (∀ n ∈ ns, ∃ l, w.disp.layers n = some l ∧
        l.mCompositionType ≠ .cursor ∧ l.mDeviceSelect = .client) →
      collectChanges a i ns w = .ok () (w.collected ns) := by
  induction ns with
  | nil =>
      intro i w _
      have hsame : w.collected [] = w := by simp [World.collected]
      rw [hsame]
      rfl
  | cons n ns ih =>
      intro i w h
      obtain ⟨hnew, hnodup⟩ := List.nodup_cons.1 hnodup
      obtain ⟨l, hl, hcursor, hselect⟩ := h n List.mem_cons_self
      have hrest : ∀ m ∈ ns, m ≠ n := fun m hm heq => hnew (heq ▸ hm)
      unfold collectChanges
      rw [bind_of_ok (derefLayer_of (p := .created n) hl)]
      dsimp only
      rw [if_neg hcursor, hselect]
      by_cases htype : CompositionType.client ≠ l.mCompositionType
      · rw [if_pos htype]
        let w₁ : World :=
          let typed := w.setLayer (.created n) (l.setLayerCompositionType .client)
          { typed with disp := { typed.disp with
            mChangeLayers := typed.disp.mChangeLayers ++ [n] } }
        have hkept : ∀ m ∈ ns, w₁.disp.layers m = w.disp.layers m := by
          intro m hm
          exact Function.update_of_ne (hrest m hm) _ _
        have hset : w₁.collected ns = w.collected (n :: ns) := by
          have hchanged : (n :: ns).filter w.notClient = n :: ns.filter w₁.notClient := by
            have hn : w.notClient n = true := by
              unfold World.notClient
              rw [hl]
              exact decide_eq_true (Ne.symm htype)
            rw [List.filter_cons_of_pos hn]
            congr 1
            apply List.filter_congr
            intro m hm
            exact (World.notClient_congr (hkept m hm)).symm
          unfold World.collected
          rw [hchanged]
          simp only [w₁, World.setLayer, List.append_assoc, List.singleton_append]
          congr 2
          funext m
          by_cases hm : m = n
          · subst hm
            simp only [Function.update_self, hl, Option.map_some, List.mem_cons_self, if_true]
            split <;> rfl
          · simp [hm]
        show collectChanges a (i + 1) ns w₁ = _
        rw [ih hnodup, hset]
        intro m hm
        rw [hkept m hm]
        exact h m (List.mem_cons_of_mem n hm)
      · rw [if_neg htype]
        have hset : w.collected ns = w.collected (n :: ns) := by
          have hn : w.notClient n = false := by
            unfold World.notClient
            rw [hl]
            simpa using (not_not.1 htype).symm
          have hchanged : (n :: ns).filter w.notClient = ns.filter w.notClient :=
            List.filter_cons_of_neg (by simp [hn])
          simp only [World.collected, hchanged]
          congr 2
          funext m
          by_cases hm : m = n
          · subst hm
            have hsame : l.setLayerCompositionType .client = l := by
              rw [not_not.1 htype]
              rfl
            simp [hl, hsame]
          · simp [hm]
        show collectChanges a (i + 1) ns w = _
        rw [ih hnodup, hset]
        exact fun m hm => h m (List.mem_cons_of_mem n hm)

/-- **A frame without a visible cursor layer.** -/
theorem prepareDisplayLayers_eq {w : World} (h : Registered w) {c : HdiDrmComposition}
    (hc : w.disp.mComposer = some c)
    (hno : ∀ n ∈ w.visible, ∀ l ∈ w.disp.layers n, l.mCompositionType ≠ .cursor)
    (a : Nat → DupAnswers) : prepareDisplayLayers a w = .ok .success (w.prepared c) := by
  have hlive : ∀ n ∈ w.visible, ∃ l, w.disp.layers n = some l ∧ l.mCompositionType ≠ .cursor := by
    intro n hn
    obtain ⟨l, hl⟩ := Option.ne_none_iff_exists'.1
      (h.live_of_listed n (List.mem_of_mem_filter hn))
    exact ⟨l, hl, hno n hn l hl⟩
  let cleared : World := { w with disp := { w.disp with mChangeLayers := [] } }
  have hvisible : visibleLayers w.disp.mLayers cleared = .ok w.visible cleared :=
    visibleLayers_eq (w := cleared) w.disp.mLayers h.live_of_listed
  have hselect := selectDevices_eq w.visible cleared hlive
  have hset : setLayers (w.visible.map .created) cleared =
      .ok .success ((cleared.selected w.visible).setComposition
        { c with mCompLayers := [.client] }) := by
    unfold setLayers
    rw [bind_of_ok hselect]
    exact bind_of_ok (theComposition_of (w := cleared.selected w.visible) hc) _
  have hcollect := collectChanges_eq a w.visible (h.listed.nodup.filter _) 0
    ((cleared.selected w.visible).setComposition { c with mCompLayers := [.client] }) (by
      intro n hn
      obtain ⟨l, hl, htype⟩ := hlive n hn
      refine ⟨l.setDeviceSelect .client, ?_, htype, rfl⟩
      show (w.disp.layers n).map _ = _
      rw [hl, Option.map_some, if_pos hn])
  show (visibleLayers w.disp.mLayers >>= _) cleared = _
  rw [bind_of_ok hvisible, bind_of_ok (theComposition_of (w := cleared) hc), bind_of_ok hset,
    bind_of_ok hcollect]
  rfl

/-! ## Runs -/

/-- What is left of a preparation found in `w₀`. -/
structure Framed (w₀ w : World) : Prop where
  old : ∀ n ∈ w₀.visible, n < w.disp.nextLayer
  typed : ∀ n ∈ w₀.visible, ∀ l₀ ∈ w₀.disp.layers n, ∀ l ∈ w.disp.layers n,
    l.mCompositionType = .client ∧ (l₀.mCompositionType ≠ .client → n ∈ w.disp.mChangeLayers)

theorem Framed.keepsTypes {w₀ w w' : World} (h : Framed w₀ w) (hk : KeepsTypes w w') :
    Framed w₀ w' where
  old := fun n hn => (h.old n hn).trans_le hk.nextLayer
  typed := by
    intro n hn l₀ hl₀ l' hl'
    obtain ⟨l, hl, htype⟩ := hk.types n (h.old n hn) l' hl'
    obtain ⟨hclient, hchanged⟩ := h.typed n hn l₀ hl₀ l hl
    rw [htype, hk.mChangeLayers]
    exact ⟨hclient, hchanged⟩

theorem Framed.prepared {w : World} (h : Registered w) (c : HdiDrmComposition) :
    Framed w (w.prepared c) where
  old := by
    intro n hn
    exact h.lt_nextLayer (h.live_of_listed n (List.mem_of_mem_filter hn))
  typed := by
    intro n hn l₀ hl₀ l hl
    have hprepared : (w.prepared c).disp.layers n =
        some ((l₀.setDeviceSelect .client).setLayerCompositionType .client) := by
      show ((w.disp.layers n).map _).map _ = _
      rw [Option.mem_def.1 hl₀, Option.map_some, Option.map_some, if_pos hn, if_pos hn]
    obtain rfl := Option.some.inj (hprepared.symm.trans hl)
    refine ⟨rfl, fun htype => ?_⟩
    have hchanged : ((({ w with disp := { w.disp with mChangeLayers := [] } } : World).selected
        w.visible).setComposition { c with mCompLayers := [.client] }).notClient n = true := by
      unfold World.notClient
      have hselected : ((({ w with disp := { w.disp with mChangeLayers := [] } } : World).selected
          w.visible).setComposition { c with mCompLayers := [.client] }).disp.layers n =
            some (l₀.setDeviceSelect .client) := by
        show (w.disp.layers n).map _ = _
        rw [Option.mem_def.1 hl₀, Option.map_some, if_pos hn]
      rw [hselected]
      exact decide_eq_true htype
    exact List.mem_append_right _ (List.mem_filter.2 ⟨hn, hchanged⟩)

/-- What holds along a run that prepares no visible cursor layer. -/
structure CursorFree (s : World × Option World) : Prop where
  wf : WellFormed s.1
  registered : Registered s.1
  unlit : Unlit s.1
  framed : ∀ w₀ ∈ s.2, Framed w₀ s.1

theorem CursorFree.presented {s : World × Option World} (h : CursorFree s) {w₀ : World}
    (hw₀ : w₀ ∈ s.2) : Presented w₀ s.1 where
  onePath := by
    intro n hn l₀ hl₀ l hl
    exact Or.inl ⟨(h.framed w₀ hw₀).typed n hn l₀ hl₀ l hl, h.unlit.not_onCursorPlane l⟩
  cursorsOnly := fun c hc q hq b hb => absurd hb (h.unlit.dark hc hq b)

theorem Unlit.keepsTypes {w w' : World} (h : Unlit w) (hk : KeepsTypes w w')
    (hrequests : SlotRequests (fun values _ => values = []) .cursor w') : Unlit w' where
  cursorLayers := by
    intro c' hc'
    obtain ⟨c, hc, heq⟩ := hk.cursorLayers c' hc'
    rw [heq]
    exact h.cursorLayers c hc
  requests := hrequests

/-- An operation leaves the display well-formed, its containers in agreement and the cursor
planes untouched. -/
theorem cursorFree_kept {s : World × Option World} (h : CursorFree s) (op : Op) :
    Post (step op) s.1 (fun _ w' => (WellFormed w' ∧
      SlotRequests (fun values _ => values = []) .cursor w') ∧ Registered w')
      (fun _ _ => True) := by
  have hrequests : Post (step op) s.1 (fun _ w' => WellFormed w' ∧
      SlotRequests (fun values _ => values = []) .cursor w') (fun _ _ => True) := by
    apply step_post h.wf h.unlit.requests
    · exact fun _ hc hI => hI.calm hc
    · exact fun _ hp hI => hI.popped hp
    · exact fun _ _ _ _ _ => trivial
    · exact fun a _ => (h.unlit.apply h.wf a).mono (fun _ _ hw => hw) (fun _ _ _ => trivial)
  exact (hrequests.and (step_registered h.wf h.registered op)).mono (fun _ _ hw => hw)
    (fun _ _ _ => trivial)

theorem cursorFree_step {s : World × Option World} (h : CursorFree s) {op : Op}
    (hno : NoCursor s op) :
    Post (noting notePrepared step op) s (fun _ s' => CursorFree s') (fun _ _ => True) := by
  rw [post_noting]
  have hkept := cursorFree_kept h op
  by_cases hprep : ∃ a, op = .prepareDisplayLayers a
  · obtain ⟨a, rfl⟩ := hprep
    obtain ⟨p, hp, -⟩ := h.wf.parts
    have hstep : step (.prepareDisplayLayers a) s.1 =
        .ok (.status .success) (s.1.prepared p.comp) := by
      show (Ret.status <$> prepareDisplayLayers a) s.1 = _
      rw [map_eq_pure_bind, bind_of_ok (prepareDisplayLayers_eq h.registered hp.comp hno a)]
      rfl
    obtain ⟨⟨hwf, hrequests⟩, hregistered⟩ := hkept.of_ok hstep
    refine post_of_ok hstep ⟨hwf, hregistered, ⟨?_, hrequests⟩, ?_⟩
    · intro c hc
      obtain rfl := Option.some.inj hc
      exact h.unlit.cursorLayers p.comp hp.comp
    · intro w₀ hw₀
      obtain rfl := Option.some.inj hw₀
      exact Framed.prepared h.registered p.comp
  · by_cases htype : ∃ id type, op = .setLayerCompositionType id type
    · obtain ⟨id, type, rfl⟩ := htype
      have hcall : Post (step (.setLayerCompositionType id type)) s.1
          (fun _ w' => w'.disp.mComposer = s.1.disp.mComposer) (fun _ _ => True) := by
        show Post (_ <$> callLayerFunction id _) s.1 _ _
        rw [post_map]
        apply (callLayerFunction_cases id _).mono
        · rintro _ w' (rfl | ⟨n, l, -, rfl⟩)
          · rfl
          · simp
        · exact fun _ _ _ => trivial
      apply (hkept.and hcall).mono
      · rintro _ w' ⟨⟨⟨hwf, hrequests⟩, hregistered⟩, hcomp⟩
        refine ⟨hwf, hregistered, ⟨fun c hc => ?_, hrequests⟩, by simp [notePrepared]⟩
        exact h.unlit.cursorLayers c (hcomp ▸ hc)
      · exact fun _ _ _ => trivial
    · push Not at hprep htype
      have hnote : notePrepared s.1 s.2 op = s.2 := by
        cases op with
        | prepareDisplayLayers a => exact absurd rfl (hprep a)
        | setLayerCompositionType id type => exact absurd rfl (htype id type)
        | _ => rfl
      rw [hnote]
      apply (hkept.and (keepsTypes_step h.wf h.registered hprep htype)).mono
      · rintro _ w' ⟨⟨⟨hwf, hrequests⟩, hregistered⟩, hk⟩
        exact ⟨hwf, hregistered, h.unlit.keepsTypes hk hrequests,
          fun w₀ hw₀ => (h.framed w₀ hw₀).keepsTypes hk⟩
      · exact fun _ _ _ => trivial

theorem initialised_cursorFree {w : World} (h : Initialised w) : CursorFree (w, none) := by
  have htracked := initialised_tracked h
  obtain ⟨w₀, p, a, ret, hwf, hp, hprimed, happ⟩ := h.firstFrame
  have hunlit : Unlit w₀ := by
    constructor
    · intro c hc
      obtain rfl := Option.some.inj (hp.comp.symm.trans hc)
      exact hprimed.cursorLayers
    · exact ⟨p, hp, fun q hq => (hprimed.dark .cursor q hq).2⟩
  have hk := (keepsTypes_apply hwf a).of_ok happ
  exact ⟨htracked.wf, htracked.registered,
    hunlit.keepsTypes hk ((hunlit.apply hwf a).of_ok happ), by simp⟩

/-- **Runs.** On an initialised display, in a run whose preparations find no visible cursor
layer, every accepted commit presents every visible layer by exactly one path. -/
theorem presents_of_noCursor {w : World} (h : Initialised w) {ops : List Op}
    (hops : Meets (noting notePrepared step) NoCursor (w, none) ops) :
    Meets (noting notePrepared step) Presents (w, none) ops := by
  apply meets_imp (I := CursorFree) _ _ (initialised_cursorFree h) hops
  · exact fun s op hs hno => cursorFree_step hs hno
  · intro s op hs hno
    cases op with
    | commit a =>
        intro w₀ hw₀ c _ _ _ _
        have hstep := cursorFree_step hs hno
        rw [post_noting] at hstep
        exact hstep.mono (fun _ w' hs' => hs'.presented hw₀) (fun _ _ _ => trivial)
    | _ => trivial

/-- A layer that asks for the device is changed to a client layer. -/
theorem presents_deviceLayer :
    Meets (noting notePrepared step) Presents (smallBoot [41], none)
      [.createLayer false false, .setLayerCompositionType 0 .device,
        .prepareDisplayLayers fun _ => {},
        .commit { frame (some 2) (some 2) (some 21) with bootCompleted := true }] := by
  have hboot : Initialised (smallBoot [41]) :=
    smallBoot_initialised (by decide) (by decide +kernel)
  exact presents_of_noCursor hboot (by decide +kernel)

/-- The commit `a` leaves the layer `n` with two paths. -/
def PresentsTwice (a : FrameAnswers) (n : Nat) (s : World × Option World) : Prop :=
  ∃ w₀ ∈ s.2, ∃ c ∈ s.1.disp.mComposer, c.mCursorPlanes ≠ [] ∧
    (c.isAnimationEnd_ || a.bootCompleted) = true ∧ s.1.accepts a = true ∧
    n ∈ w₀.visible ∧ (w₀.disp.layers n).isSome = true ∧
    returns (step (.commit a)) s.1 (fun _ w => decide (∃ l ∈ w.disp.layers n,
      (l.mCompositionType = .client ∧ n ∈ w.disp.mChangeLayers) ∧ w.OnCursorPlane l)) = true

instance (a : FrameAnswers) (n : Nat) (s : World × Option World) :
    Decidable (PresentsTwice a n s) :=
  inferInstanceAs (Decidable (∃ w₀ ∈ s.2, _))

theorem PresentsTwice.not_presents {a : FrameAnswers} {n : Nat} {s : World × Option World}
    (h : PresentsTwice a n s) : ¬ Presents s (.commit a) := by
  obtain ⟨w₀, hw₀, c, hc, hplanes, hboot, haccepts, hn, hsome, htwice⟩ := h
  intro hlaw
  obtain ⟨l₀, hl₀⟩ := Option.isSome_iff_exists.1 hsome
  obtain ⟨r, w, hstep, hpaths⟩ := returns_iff.1 htwice
  obtain ⟨l, hl, hclient, hcursor⟩ := of_decide_eq_true hpaths
  have hpresented := (hlaw w₀ hw₀ c hc hplanes hboot haccepts).of_ok hstep
  rcases hpresented.onePath n hn l₀ hl₀ l hl with ⟨-, hno⟩ | ⟨-, hno⟩
  · exact hno hcursor
  · exact hno ⟨hclient.1, fun _ => hclient.2⟩

/-- **A cursor layer is presented twice.** It becomes a client layer, and its buffer is
scanned out on the cursor plane. -/
theorem presents_cursorLayer :
    Initialised (smallBoot [41]) ∧
      ¬ Meets (noting notePrepared step) Presents (smallBoot [41], none)
        ((cursorFrames none).take 5 ++ [.commit (cursorFrames.cursorFrame 2 (some 21))]) := by
  refine ⟨smallBoot_initialised (by decide) (by decide +kernel), fun hmeets => ?_⟩
  have hrun : returns (run (noting notePrepared step) ((cursorFrames none).take 5))
      (smallBoot [41], none)
      (fun _ s => decide (PresentsTwice (cursorFrames.cursorFrame 2 (some 21)) 0 s)) = true := by
    decide +kernel
  obtain ⟨rets, s, hrun, htwice⟩ := returns_iff.1 hrun
  exact (of_decide_eq_true htwice : PresentsTwice _ _ _).not_presents (hmeets.of_run hrun)

end QemuHal
