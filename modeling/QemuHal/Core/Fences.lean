import QemuHal.Core.Changes

/-!
# Release fences

An accepted commit queues its fence in the client layer, and in the cursor layer when the
composition has one; `Commit` takes the oldest fence of the client layer, and no operation
takes one of the cursor layer. The commit of the first frame queues a fence that `Init` does
not take.
-/

namespace QemuHal

open Exec

/-! ## The law -/

def fencesOf : Option HdiLayer → List Int
  | some l => l.releaseFences_
  | none => []

/-- The fences queued in the layers of a display. -/
def World.queued (w : World) : List Int :=
  fencesOf w.disp.mClientLayer ++ fencesOf w.disp.mCursorLayer ++
    w.disp.mLayers.flatMap fun n => fencesOf (w.disp.layers n)

/-- The fences of the atomic commits the kernel has accepted since `w`. -/
def produced (w w' : World) : List Int :=
  ((commits w'.drm.log).take ((commits w'.drm.log).length - (commits w.drm.log).length)).filterMap
    Commit.fence

/-- The fences an operation hands to the client. -/
def Ret.handed : Ret → List Int
  | .fence _ fd => [fd].filter fun fd => decide (0 ≤ fd)
  | .fences _ _ out => (out.map Prod.snd).filter fun fd => decide (0 ≤ fd)
  | _ => []

/-- `Commit` returns the fence of the atomic commit it issues. No fence is lost or
duplicated: each is queued once until it is handed out, and is the HAL's until then. No
queue grows. -/
structure FencesKept (w : World) (op : Op) (r : Ret) (w' : World) : Prop where
  returned : ∀ a, op = .commit a → ∃ ret, r = .fence ret ((produced w w').head?.getD (-1))
  conserved : (w'.queued ++ r.handed).Perm (w.queued ++ produced w w')
  owned : ∀ fd ∈ w'.queued, ∃ k, w'.drm.fds fd = some ⟨.outFence k, true⟩
  handedOver : ∀ fd ∈ r.handed, ∃ k, w'.drm.fds fd = some ⟨.outFence k, false⟩
  bounded : ∀ p l, w'.layerAt p = some l → l.releaseFences_.length ≤ 1

def KeepsFences (w : World) (op : Op) : Prop :=
  Post (step op) w (fun r w' => FencesKept w op r w') (fun _ _ => True)

/-- A `Commit` that returns finds no fence in the client layer and, when the kernel accepts
it, no cursor layer in the composition. -/
def CommitsClean (w : World) (op : Op) : Prop :=
  ∀ a, op = .commit a → returns (step op) w (fun _ _ => true) = true →
    (∀ l ∈ w.disp.mClientLayer, l.releaseFences_ = []) ∧
      (w.accepts a = true → ∀ c ∈ w.disp.mComposer, c.mCursorLayers = [])

instance (w : World) : (op : Op) → Decidable (CommitsClean w op)
  | .commit a =>
      decidable_of_iff (returns (step (.commit a)) w (fun _ _ => true) = true →
        (∀ l ∈ w.disp.mClientLayer, l.releaseFences_ = []) ∧
          (w.accepts a = true → ∀ c ∈ w.disp.mComposer, c.mCursorLayers = []))
        ⟨fun h a' heq => by rwa [← Op.commit.inj heq], fun h => h a rfl⟩
  | .createLayer .. | .destroyLayer .. | .setLayerZorder .. | .setLayerBuffer ..
  | .setLayerCompositionType .. | .setLayerVisible .. | .setLayerRegion ..
  | .setDisplayClientBuffer .. | .setDisplayMode .. | .prepareDisplayLayers ..
  | .getDisplayCompChange .. | .getDisplayReleaseFence .. | .clientFd .. =>
      .isTrue (fun _ heq => nomatch heq)

/-! ## Descriptors -/

/-- None of these descriptors is the layer's. -/
def HdiLayer.Apart (q : List Int) (l : HdiLayer) : Prop :=
  ∀ fd ∈ q, l.mAcquireFence ≠ fd ∧ ∀ buf ∈ l.mHdiBuffer, buf.mFd ≠ fd

/-- The descriptor is open, and the HAL's. -/
def Drm.Holds (d : Drm) (fd : Int) : Prop :=
  0 ≤ fd ∧ ∃ k, d.fds fd = some ⟨.outFence k, true⟩

theorem Drm.Holds.congr {d d' : Drm} {fd : Int} (h : d.Holds fd) (hfd : d'.fds fd = d.fds fd) :
    d'.Holds fd := by
  unfold Holds
  rw [hfd]
  exact h

/-- `dup` gives out a free number. -/
theorem Drm.dup_apart (d : Drm) {fd : Int} (h : d.Holds fd) (fd₀ : Int) (answer : Option Int) :
    (d.dup fd₀ answer).1 ≠ fd ∧ (d.dup fd₀ answer).2.fds fd = d.fds fd := by
  obtain ⟨hpos, k, hopen⟩ := h
  unfold dup
  split
  · next e n _ =>
      split
      · next hfree =>
          have hne : n ≠ fd := by
            rintro rfl
            exact absurd (hopen.symm.trans hfree.2) (by simp)
          exact ⟨hne, Function.update_of_ne (Ne.symm hne) _ _⟩
      · exact ⟨by omega, rfl⟩
  · exact ⟨by omega, rfl⟩

theorem Drm.close_fds (d : Drm) {fd fd' : Int} (h : fd' ≠ fd) :
    (d.close fd').fds fd = d.fds fd := Function.update_of_ne (Ne.symm h) _ _

theorem HdiLayerBuffer.destroy_apart {buf : HdiLayerBuffer} {d : Drm} {fd : Int}
    (h : buf.mFd ≠ fd) : (buf.destroy d).fds fd = d.fds fd := by
  unfold destroy
  split
  · exact d.close_fds h
  · rfl

/-- The old buffer object of a layer closes its own descriptor only. -/
theorem HdiLayer.dropBuffer_apart {l : HdiLayer} {d : Drm} {fd : Int}
    (h : ∀ buf ∈ l.mHdiBuffer, buf.mFd ≠ fd) :
    (match l.mHdiBuffer with
      | some buf => buf.destroy d
      | none => d).fds fd = d.fds fd := by
  split
  · next buf hl => exact HdiLayerBuffer.destroy_apart (h buf hl)
  · rfl

/-- `SetLayerBuffer` closes descriptors of the layer and opens free ones. -/
theorem HdiLayer.setLayerBuffer_apart {l : HdiLayer} {d : Drm} {q : List Int}
    (h : l.Apart q) (hq : ∀ fd ∈ q, d.Holds fd) (buffer : Option BufferHandle) (fence : Int)
    (a : DupAnswers) :
    (l.setLayerBuffer d buffer fence a).2.1.Apart q ∧
      ∀ fd ∈ q, (l.setLayerBuffer d buffer fence a).2.2.fds fd = d.fds fd := by
  have hone : ∀ fd ∈ q, ((l.setLayerBuffer d buffer fence a).2.1.mAcquireFence ≠ fd ∧
      ∀ buf ∈ (l.setLayerBuffer d buffer fence a).2.1.mHdiBuffer, buf.mFd ≠ fd) ∧
      (l.setLayerBuffer d buffer fence a).2.2.fds fd = d.fds fd := by
    intro fd hfd
    obtain ⟨hacq, hbuf⟩ := h fd hfd
    cases buffer with
    | none => exact ⟨⟨hacq, hbuf⟩, rfl⟩
    | some hdl =>
        obtain ⟨hnew, hdup⟩ := d.dup_apart (hq fd hfd) hdl.fd a.buffer
        -- the descriptor once the old buffer object is gone
        have hold := (dropBuffer_apart (d := (HdiLayerBuffer.new d hdl a.buffer).2) hbuf).trans hdup
        have hmine : ∀ buf ∈ some (HdiLayerBuffer.new d hdl a.buffer).1, buf.mFd ≠ fd := by
          rintro buf hb
          obtain rfl := Option.some.inj hb
          exact hnew
        unfold setLayerBuffer
        dsimp only
        split
        · obtain ⟨hfence, hdup'⟩ := Drm.dup_apart _ ((hq fd hfd).congr hold) fence a.fence
          unfold assignAcquireFence
          refine ⟨⟨hfence, hmine⟩, ?_⟩
          dsimp only
          split
          · exact (Drm.close_fds _ hacq).trans (hdup'.trans hold)
          · exact hdup'.trans hold
        · exact ⟨⟨hacq, hmine⟩, hold⟩
  exact ⟨fun fd hfd => (hone fd hfd).1, fun fd hfd => (hone fd hfd).2⟩

/-- Destroying a layer closes its own descriptors. -/
theorem HdiLayer.destroy_apart {l : HdiLayer} {d : Drm} {q : List Int} (h : l.Apart q)
    (a : DestroyAnswers) : ∀ fd ∈ q, (l.destroy d a).fds fd = d.fds fd := by
  intro fd hfd
  obtain ⟨hacq, hbuf⟩ := h fd hfd
  have howned : ((d.destroyOwned l.lastBuffer_ a.last).destroyOwned l.mCurrentBuffer a.current).fds =
      d.fds := by
    rw [(Drm.destroyOwned_frame _ _ _).1, (Drm.destroyOwned_frame _ _ _).1]
  have hbuffer := (dropBuffer_apart hbuf).trans (congrFun howned fd)
  unfold destroy
  dsimp only
  split
  · exact (Drm.close_fds _ hacq).trans hbuffer
  · exact hbuffer

/-! ## Queues that no operation but `Commit` touches -/

/-- The client layer's queue is `q`, the HAL holds its fences and no layer has them as
anything else, and the other queues are empty. -/
structure Queues (q : List Int) (w : World) : Prop where
  fences : ∀ p l, w.layerAt p = some l → l.releaseFences_ = if p = .client then q else []
  apart : ∀ p l, w.layerAt p = some l → l.Apart q
  held : ∀ fd ∈ q, w.drm.Holds fd

namespace Queues

variable {q : List Int} {w : World}

theorem setDrm (h : Queues q w) {d : Drm} (hd : ∀ fd ∈ q, d.fds fd = w.drm.fds fd) :
    Queues q (w.setDrm d) where
  fences := by simpa using h.fences
  apart := by simpa using h.apart
  held := fun fd hfd => (h.held fd hfd).congr (hd fd hfd)

theorem setLayer (h : Queues q w) {p : LayerRef} {l : HdiLayer} (hl : w.layerAt p = some l)
    {l' : HdiLayer} (hfences : l'.releaseFences_ = l.releaseFences_) (hapart : l'.Apart q) :
    Queues q (w.setLayer p l') where
  fences := by
    intro p' k hk
    rw [World.layerAt_setLayer] at hk
    split at hk
    · next he =>
        obtain rfl := Option.some.inj hk
        rw [hfences, he]
        exact h.fences p l hl
    · exact h.fences p' k hk
  apart := by
    intro p' k hk
    rw [World.layerAt_setLayer] at hk
    split at hk
    · obtain rfl := Option.some.inj hk
      exact hapart
    · exact h.apart p' k hk
  held := by simpa using h.held

/-- A layer that keeps its queue and its descriptors. -/
theorem setSame (h : Queues q w) {p : LayerRef} {l : HdiLayer} (hl : w.layerAt p = some l)
    {l' : HdiLayer} (hfences : l'.releaseFences_ = l.releaseFences_)
    (hacq : l'.mAcquireFence = l.mAcquireFence) (hbuf : l'.mHdiBuffer = l.mHdiBuffer) :
    Queues q (w.setLayer p l') := by
  apply h.setLayer hl hfences
  unfold HdiLayer.Apart
  rw [hacq, hbuf]
  exact h.apart p l hl

/-- Nothing else of the display matters. -/
theorem congr (h : Queues q w) {w' : World} (hlayers : ∀ p, w'.layerAt p = w.layerAt p)
    (hdrm : w'.drm = w.drm) : Queues q w' where
  fences := by
    intro p
    rw [hlayers]
    exact h.fences p
  apart := by
    intro p
    rw [hlayers]
    exact h.apart p
  held := by
    rw [hdrm]
    exact h.held

end Queues

section
variable {q : List Int} {w : World}

theorem queues_derefLayer (p : LayerRef) : Preserves (Queues q) (derefLayer p) :=
  fun _ h => derefLayer_post (fun _ _ => h) (fun _ _ => trivial)

theorem queues_theComposition : Preserves (Queues q) theComposition :=
  fun _ h => theComposition_post (fun _ _ => h) (fun _ _ => trivial)

theorem queues_setTheComposition (c : HdiDrmComposition) :
    Preserves (Queues q) (setTheComposition c) :=
  fun w h => h.congr (w.setComposition_layerAt c) rfl

theorem queues_createLayer (hreg : Registered w) (h : Queues q w) (i l : Bool) :
    Post (createLayer i l) w (fun _ w' => Queues q w') (fun _ _ => True) := by
  rcases createLayer_cases hreg i l with ⟨ret, heq⟩ | ⟨layerIds, heq, -⟩ |
    ⟨id, layerIds, heq, -⟩ | heq
  · exact post_of_ok heq h
  · exact post_of_ok heq (h.congr (fun p => by cases p <;> rfl) rfl)
  · -- the new layer has no fences and no descriptors
    have hnew : ∀ p k, (w.created id layerIds).layerAt p = some k →
        w.layerAt p = some k ∨ (p ≠ .client ∧ k = { mId := id }) := by
      intro p k hk
      cases p with
      | client => exact Or.inl hk
      | cursor => exact Or.inl hk
      | created n =>
          have hk : Function.update w.disp.layers w.disp.nextLayer (some { mId := id }) n = some k := hk
          rw [Function.update_apply] at hk
          split at hk
          · exact Or.inr ⟨by simp, (Option.some.inj hk).symm⟩
          · exact Or.inl hk
    refine post_of_ok heq ⟨fun p k hk => ?_, fun p k hk => ?_, h.held⟩
    · rcases hnew p k hk with hk | ⟨hp, rfl⟩
      · exact h.fences p k hk
      · rw [if_neg hp]
    · rcases hnew p k hk with hk | ⟨-, rfl⟩
      · exact h.apart p k hk
      · intro fd hfd
        have := (h.held fd hfd).1
        exact ⟨show (-1 : Int) ≠ fd by omega, by simp⟩
  · unfold Post
    rw [heq]
    trivial

theorem World.layerAt_erased {w' : World} {n : Nat} {p : LayerRef} {k : HdiLayer}
    (hk : w'.layerAt p = some k) (hlayers : w'.disp.layers = Function.update w.disp.layers n none)
    (hclient : w'.disp.mClientLayer = w.disp.mClientLayer)
    (hcursor : w'.disp.mCursorLayer = w.disp.mCursorLayer) : w.layerAt p = some k := by
  cases p with
  | client => exact hclient.symm.trans hk
  | cursor => exact hcursor.symm.trans hk
  | created m =>
      have hk : w'.disp.layers m = some k := hk
      rw [hlayers, Function.update_apply] at hk
      split at hk
      · exact absurd hk (by simp)
      · exact hk

theorem queues_destroyLayer (h : Queues q w) (layerId : Nat) (a : DestroyAnswers) :
    Post (destroyLayer layerId a) w (fun _ w' => Queues q w') (fun _ _ => True) := by
  unfold destroyLayer
  rw [post_bind, post_get]
  cases w.disp.mLayersMap layerId with
  | none => exact h
  | some n =>
      dsimp only
      rw [post_bind]
      apply derefLayer_post
      · intro l hl
        refine ⟨fun p k hk => h.fences p k ?_, fun p k hk => h.apart p k ?_, fun fd hfd => ?_⟩
        · exact World.layerAt_erased hk rfl rfl rfl
        · exact World.layerAt_erased hk rfl rfl rfl
        · exact (h.held fd hfd).congr (HdiLayer.destroy_apart (h.apart (.created n) l hl) a fd hfd)
      · exact fun _ _ => trivial

theorem queues_setLayerZorder (hreg : Registered w) (h : Queues q w) (layerId zorder : Nat) :
    Post (setLayerZorder layerId zorder) w (fun _ w' => Queues q w') (fun _ _ => True) := by
  rcases setLayerZorder_cases hreg layerId zorder with ⟨ret, heq⟩ | ⟨n, l, -, hl, heq⟩
  · exact post_of_ok heq h
  · have hl : w.layerAt (.created n) = some l := hl
    have hset : Queues q (w.setLayer (.created n) (l.setLayerZorder zorder)) :=
      h.setSame hl rfl rfl rfl
    exact post_of_ok heq (hset.congr (fun p => by cases p <;> rfl) rfl)

theorem queues_callLayerFunction (layerId : Nat) {f : Drm → HdiLayer → DispStatus × HdiLayer × Drm}
    (hf : ∀ d l, (∀ fd ∈ q, d.Holds fd) → l.Apart q →
      (f d l).2.1.releaseFences_ = l.releaseFences_ ∧ (f d l).2.1.Apart q ∧
        ∀ fd ∈ q, (f d l).2.2.fds fd = d.fds fd) :
    Preserves (Queues q) (callLayerFunction layerId f) := by
  intro w h
  apply (callLayerFunction_cases layerId f).mono
  · rintro _ w' (rfl | ⟨n, l, hl, rfl⟩)
    · exact h
    · have hl : w.layerAt (.created n) = some l := hl
      obtain ⟨hfences, hapart, hfds⟩ := hf w.drm l h.held (h.apart _ l hl)
      exact (h.setDrm hfds).setLayer (by simpa using hl) hfences hapart
  · exact fun _ _ _ => trivial

theorem HdiLayer.setLayerBuffer_fences (d : Drm) (l : HdiLayer) (buffer : Option BufferHandle)
    (fence : Int) (a : DupAnswers) :
    (l.setLayerBuffer d buffer fence a).2.1.releaseFences_ = l.releaseFences_ := by
  obtain ⟨buf, fd, heq, -⟩ := HdiLayer.setLayerBuffer_layer d l buffer fence a
  rw [heq]

theorem queues_setDisplayClientBuffer (buffer : Option BufferHandle) (fence : Int)
    (a : DupAnswers) : Preserves (Queues q) (setDisplayClientBuffer buffer fence a) := by
  intro w h
  unfold setDisplayClientBuffer
  rw [post_bind]
  apply derefLayer_post
  · intro l hl
    obtain ⟨hapart, hfds⟩ :=
      HdiLayer.setLayerBuffer_apart (h.apart .client l hl) h.held buffer fence a
    exact (h.setDrm hfds).setLayer (by simpa using hl)
      (HdiLayer.setLayerBuffer_fences w.drm l buffer fence a) hapart
  · exact fun _ _ => trivial

/-! ### Preparing a frame -/

theorem queues_visibleLayers (mLayers : List Nat) : Preserves (Queues q) (visibleLayers mLayers) := by
  induction mLayers with
  | nil => exact Preserves.pure _
  | cons n mLayers ih =>
      apply (queues_derefLayer _).bind
      intro l
      exact ih.bind fun _ => Preserves.pure _

theorem queues_selectDevices (layers : List LayerRef) :
    Preserves (Queues q) (selectDevices layers) := by
  induction layers with
  | nil => exact Preserves.pure _
  | cons p layers ih =>
      intro w h
      unfold selectDevices
      rw [post_bind]
      apply derefLayer_post
      · intro l hl
        split
        · have hset : Queues q (w.setLayer p (l.setDeviceSelect .client)) :=
            h.setSame hl rfl rfl rfl
          exact ih _ hset
        · exact ih w h
      · exact fun _ _ => trivial

theorem queues_setLayers (layers : List LayerRef) : Preserves (Queues q) (setLayers layers) := by
  apply (queues_selectDevices layers).bind
  intro _
  apply queues_theComposition.bind
  intro c
  exact (queues_setTheComposition _).bind fun _ => Preserves.pure _

theorem queues_takeCursor (l : HdiLayer) (a : DupAnswers) :
    Preserves (Queues q) (takeCursor l a) := by
  intro w h
  unfold takeCursor
  rw [post_bind]
  apply derefBuffer_post
  · intro buf _
    rw [post_bind]
    apply derefLayer_post
    · intro cursor hcursor
      obtain ⟨hapart, hfds⟩ := HdiLayer.setLayerBuffer_apart (h.apart .cursor cursor hcursor) h.held
        (some buf.mHandle) (-1) a
      have hlayer : (w.setDrm (cursor.setLayerBuffer w.drm (some buf.mHandle) (-1) a).2.2).layerAt
          .cursor = some cursor := by simpa using hcursor
      have hset : Queues q (((w.setDrm
          (cursor.setLayerBuffer w.drm (some buf.mHandle) (-1) a).2.2).setLayer .cursor
          ((cursor.setLayerBuffer w.drm (some buf.mHandle) (-1) a).2.1.setLayerRegion
            (some l.mDisplayRect)).2)) :=
        (h.setDrm hfds).setLayer hlayer
          (HdiLayer.setLayerBuffer_fences w.drm cursor (some buf.mHandle) (-1) a) hapart
      have hrest : Preserves (Queues q) (do let _ ← setCursorLayer .cursor : Hal Unit) := by
        apply Preserves.bind
        · apply queues_theComposition.bind
          intro c
          exact (queues_setTheComposition _).bind fun _ => Preserves.pure _
        · exact fun _ => Preserves.pure _
      exact hrest _ hset
    · exact fun _ _ => trivial
  · exact fun _ _ => trivial

theorem queues_collectChanges (a : Nat → DupAnswers) (layers : List Nat) :
    ∀ i, Preserves (Queues q) (collectChanges a i layers) := by
  induction layers with
  | nil => exact fun _ => Preserves.pure _
  | cons n layers ih =>
      intro i w h
      unfold collectChanges
      rw [post_bind]
      apply derefLayer_post
      · intro l hl
        have hrest : ∀ w', Queues q w' → w'.disp.layers = w.disp.layers → Post (do
            if l.mDeviceSelect ≠ l.mCompositionType then
              modify (·.setLayer (.created n) (l.setLayerCompositionType l.mDeviceSelect))
              modify fun w =>
                { w with disp := { w.disp with mChangeLayers := w.disp.mChangeLayers ++ [n] } }
            collectChanges a (i + 1) layers : Hal Unit) w' (fun _ w'' => Queues q w'')
            (fun _ _ => True) := by
          intro w' h' hlayers
          dsimp only
          split
          · have hl' : w'.layerAt (.created n) = some l := by
              show w'.disp.layers n = some l
              rw [hlayers]
              exact hl
            have hset : Queues q
                (w'.setLayer (.created n) (l.setLayerCompositionType l.mDeviceSelect)) :=
              h'.setSame hl' rfl rfl rfl
            simp only [post_bind, post_modify]
            exact ih (i + 1) _ (hset.congr (fun p => by cases p <;> rfl) rfl)
          · exact ih (i + 1) w' h'
        dsimp only
        split
        · rw [post_bind]
          apply ((queues_takeCursor l (a i) w h).and (takeCursor_layers l (a i) w)).mono
          · exact fun _ w' hw => hrest w' hw.1 hw.2
          · exact fun _ _ _ => trivial
        · exact hrest w h rfl
      · exact fun _ _ => trivial

theorem queues_prepareDisplayLayers (a : Nat → DupAnswers) :
    Preserves (Queues q) (prepareDisplayLayers a) := by
  have hclear : Preserves (Queues q)
      (modify fun w => { w with disp := { w.disp with mChangeLayers := [] } } : Hal PUnit) :=
    fun w h => h.congr (fun p => by cases p <;> rfl) rfl
  apply hclear.bind
  intro _
  apply preserves_get.bind
  intro w
  apply (queues_visibleLayers _).bind
  intro layers
  apply queues_theComposition.bind
  intro c
  apply (queues_setLayers _).bind
  intro _
  exact (queues_collectChanges a _ _).bind fun _ => Preserves.pure _

/-! ### Reading -/

theorem queues_readChanges (changes : List Nat) : Preserves (Queues q) (readChanges changes) := by
  induction changes with
  | nil => exact Preserves.pure _
  | cons n changes ih =>
      apply (queues_derefLayer _).bind
      intro l
      exact ih.bind fun _ => Preserves.pure _

/-- There is no fence to take from a layer `CreateLayer` made. -/
theorem queues_popReleaseFence (h : Queues q w) (n : Nat) :
    Post (popReleaseFence (.created n)) w (fun fd w' => fd = -1 ∧ Queues q w') (fun _ _ => True) := by
  unfold popReleaseFence
  rw [post_bind]
  apply derefLayer_post
  · intro l hl
    have hempty : l.releaseFences_ = [] := by
      rw [h.fences _ l hl, if_neg (by simp)]
    have hpop : l.getReleaseFenceFd = (-1, l) := by
      unfold HdiLayer.getReleaseFenceFd
      rw [hempty]
    rw [hpop]
    exact ⟨rfl, h.setSame hl rfl rfl rfl⟩
  · exact fun _ _ => trivial

theorem queues_readReleaseFences (fences : Bool) (mLayers : List Nat) :
    ∀ w, Queues q w → Post (readReleaseFences fences mLayers) w
      (fun out w' => (∀ e ∈ out, e.2 = -1) ∧ Queues q w') (fun _ _ => True) := by
  induction mLayers with
  | nil => exact fun w h => ⟨by simp, h⟩
  | cons n mLayers ih =>
      intro w h
      unfold readReleaseFences
      rw [post_bind]
      apply derefLayer_post
      · intro l hl
        have hrest : ∀ w', Queues q w' → Post (do
            let _ ← popReleaseFence (.created n)
            let rest ← readReleaseFences fences mLayers
            return (l.mId, -1) :: rest : Hal (List (Nat × Int))) w'
            (fun out w'' => (∀ e ∈ out, e.2 = -1) ∧ Queues q w'') (fun _ _ => True) := by
          intro w' h'
          rw [post_bind]
          apply (queues_popReleaseFence h' n).mono
          · rintro _ w'' ⟨-, h''⟩
            rw [post_bind]
            apply (ih w'' h'').mono
            · rintro out w₃ ⟨hout, h₃⟩
              refine ⟨fun e he => ?_, h₃⟩
              rcases List.mem_cons.1 he with rfl | he
              · rfl
              · exact hout e he
            · exact fun _ _ _ => trivial
          · exact fun _ _ _ => trivial
        cases fences with
        | false => exact hrest w h
        | true =>
            show Post (popReleaseFence (.created n) >>= _) w _ _
            rw [post_bind]
            apply (queues_popReleaseFence h n).mono
            · rintro _ w' ⟨rfl, h'⟩
              exact hrest w' h'
            · exact fun _ _ _ => trivial
      · exact fun _ _ => trivial

theorem Drm.clientFd_held {d : Drm} {fd : Int} (h : d.Holds fd) (fd' : Int) (file : Option File) :
    (d.clientFd fd' file).fds fd = d.fds fd := by
  obtain ⟨-, k, hopen⟩ := h
  unfold clientFd
  split
  · rfl
  · split
    · rfl
    · next hno =>
        have hne : fd ≠ fd' := by
          rintro rfl
          exact hno _ hopen
        exact Function.update_of_ne hne _ _

theorem Drm.handOver_fds (d : Drm) {fd fd' : Int} (h : fd' ≠ fd) :
    (d.handOver fd').fds fd = d.fds fd := Function.update_of_ne (Ne.symm h) _ _

theorem Drm.handOvers_fds {fd : Int} (out : List (Nat × Int)) (h : ∀ e ∈ out, e.2 ≠ fd) :
    ∀ d : Drm, (out.foldl (fun d e => d.handOver e.2) d).fds fd = d.fds fd := by
  induction out with
  | nil => exact fun _ => rfl
  | cons e out ih =>
      intro d
      rw [List.foldl_cons, ih fun e' he' => h e' (List.mem_cons_of_mem e he')]
      exact d.handOver_fds (h e List.mem_cons_self)

/-- **Every operation but `Commit`** leaves the queues alone and hands out no fence. -/
theorem queues_step (hreg : Registered w) (h : Queues q w) {op : Op}
    (hop : ∀ a, op ≠ .commit a) :
    Post (step op) w (fun r w' => Queues q w' ∧ r.handed = []) (fun _ _ => True) := by
  have hmap : ∀ {m : Hal DispStatus}, Post m w (fun _ w' => Queues q w') (fun _ _ => True) →
      Post (Ret.status <$> m) w (fun r w' => Queues q w' ∧ r.handed = []) (fun _ _ => True) := by
    intro m hm
    rw [post_map]
    exact hm.mono (fun _ _ hw => ⟨hw, rfl⟩) (fun _ _ _ => trivial)
  cases op with
  | createLayer i l =>
      show Post (createLayer i l >>= _) w _ _
      rw [post_bind]
      exact (queues_createLayer hreg h i l).mono (fun _ _ hw => ⟨hw, rfl⟩) (fun _ _ _ => trivial)
  | destroyLayer id a => exact hmap (queues_destroyLayer h id a)
  | setLayerZorder id z => exact hmap (queues_setLayerZorder hreg h id z)
  | setLayerBuffer id buffer fence a =>
      apply hmap
      apply queues_callLayerFunction id _ w h
      intro d l hd hl
      exact ⟨HdiLayer.setLayerBuffer_fences d l buffer fence a,
        HdiLayer.setLayerBuffer_apart hl hd buffer fence a⟩
  | setLayerCompositionType id type =>
      exact hmap (queues_callLayerFunction id (fun _ _ _ hl => ⟨rfl, hl, fun _ _ => rfl⟩) w h)
  | setLayerVisible id visible =>
      exact hmap (queues_callLayerFunction id (fun _ _ _ hl => ⟨rfl, hl, fun _ _ => rfl⟩) w h)
  | setLayerRegion id rect =>
      apply hmap
      apply queues_callLayerFunction id _ w h
      intro d l _ hl
      cases rect with
      | none => exact ⟨rfl, hl, fun _ _ => rfl⟩
      | some rect => exact ⟨rfl, hl, fun _ _ => rfl⟩
  | setDisplayClientBuffer buffer fence a =>
      exact hmap (queues_setDisplayClientBuffer buffer fence a w h)
  | setDisplayMode id => exact hmap (h.congr (fun p => by cases p <;> rfl) rfl)
  | prepareDisplayLayers a => exact hmap (queues_prepareDisplayLayers a w h)
  | commit a => exact absurd rfl (hop a)
  | getDisplayCompChange arrays =>
      show Post (getDisplayCompChange arrays >>= _) w _ _
      rw [post_bind]
      unfold getDisplayCompChange
      rw [post_bind, post_get]
      cases arrays with
      | false => exact ⟨h, rfl⟩
      | true =>
          show Post (readChanges w.disp.mChangeLayers >>= _) w _ _
          rw [post_bind]
          exact (queues_readChanges _ w h).mono (fun _ _ hw => ⟨hw, rfl⟩) (fun _ _ _ => trivial)
  | getDisplayReleaseFence layers fences =>
      show Post (getDisplayReleaseFence layers fences >>= _) w _ _
      rw [post_bind]
      unfold getDisplayReleaseFence
      rw [post_bind, post_get]
      dsimp only
      split
      · exact ⟨h.setDrm fun _ _ => rfl, rfl⟩
      · rw [post_bind]
        apply (queues_readReleaseFences fences w.disp.mLayers w h).mono
        · rintro out w' ⟨hout, h'⟩
          refine ⟨h'.setDrm fun fd hfd => ?_, ?_⟩
          · have hpos := (h'.held fd hfd).1
            apply Drm.handOvers_fds
            intro e he
            rw [hout e he]
            omega
          · apply List.filter_eq_nil_iff.2
            intro fd hfd
            obtain ⟨e, he, rfl⟩ := List.mem_map.1 hfd
            rw [hout e he]
            decide
        · exact fun _ _ _ => trivial
  | clientFd fd file =>
      exact ⟨h.setDrm fun fd' hfd' => Drm.clientFd_held (h.held fd' hfd') fd file, rfl⟩

end

/-! ## What a frame queues -/

/-- A frame that is not accepted queues nothing; an accepted one queues its fence. -/
def FrameQueues (w : World) (p : Parts) (a : FrameAnswers) (w' : World) : Prop :=
  ∃ p' : Parts, p'.Of w' ∧ w'.disp.layers = w.disp.layers ∧ w'.disp.mLayers = w.disp.mLayers ∧
    (∀ s, (p'.layer s).mAcquireFence = (p.layer s).mAcquireFence ∧
      (p'.layer s).mHdiBuffer = (p.layer s).mHdiBuffer) ∧
    ((w.accepts a = false ∧ produced w w' = [] ∧ w'.drm.fds = w.drm.fds ∧
        ∀ s, (p'.layer s).releaseFences_ = (p.layer s).releaseFences_) ∨
      ∃ n k, w.accepts a = true ∧ a.grants w.drm n ∧ produced w w' = [n] ∧
        w'.drm.fds = Function.update w.drm.fds n (some ⟨.outFence k, true⟩) ∧
        ∀ s, (p'.layer s).releaseFences_ = ((p.fenced n).layer s).releaseFences_)

theorem produced_of_commits {w w' : World} {cs : List Commit}
    (h : commits w'.drm.log = cs ++ commits w.drm.log) :
    produced w w' = cs.filterMap Commit.fence := by
  unfold produced
  rw [h, List.length_append, Nat.add_sub_cancel, List.take_left]

theorem FrameQueues.congr {w w' w'' : World} {p : Parts} {a : FrameAnswers}
    (h : FrameQueues w p a w') (hlayers : ∀ p : Parts, p.Of w' → ∃ p' : Parts, p'.Of w'' ∧
      p'.layer = p.layer) (hdisp : w''.disp.layers = w'.disp.layers)
    (hlist : w''.disp.mLayers = w'.disp.mLayers)
    (hcommits : commits w''.drm.log = commits w'.drm.log) (hfds : w''.drm.fds = w'.drm.fds) :
    FrameQueues w p a w'' := by
  obtain ⟨p', hp', hl, hm, hown, hcase⟩ := h
  obtain ⟨p'', hp'', hsame⟩ := hlayers p' hp'
  refine ⟨p'', hp'', hdisp.trans hl, hlist.trans hm, ?_, ?_⟩
  · rw [hsame]
    exact hown
  · unfold produced
    rw [hcommits, hfds, hsame]
    exact hcase

section
variable {w w' w'' : World} {p p' : Parts} {a : FrameAnswers}

/-- While a frame is built, nothing is queued. -/
theorem FrameQueues.built (h : Along w p w' p') (hno : w.accepts a = false) (hp : p'.Of w'')
    (hdisp : w''.disp = w'.disp) (hfds : w''.drm.fds = w'.drm.fds)
    (hproduced : produced w w'' = []) : FrameQueues w p a w'' := by
  have hd := h.disp
  refine ⟨p', hp, by rw [hdisp, hd], by rw [hdisp, hd], fun s => ?_, Or.inl ⟨hno, hproduced,
    hfds.trans h.fds, fun s => ?_⟩⟩
  · rw [h.layer s]
    exact ⟨rfl, rfl⟩
  · rw [h.layer s]

/-- A commit that is granted queues its fence. -/
theorem FrameQueues.granted (h : Along w p w' p') {pset : AtomicReq} {n : Int}
    (haccepts : w.accepts a = true) (hgrants : a.grants w.drm n) :
    FrameQueues w p a (w'.granted p' pset n) := by
  have hd := h.disp
  refine ⟨p'.fenced n, (h.of.committed pset n).fenced n, ?_, ?_, fun s => ?_,
    Or.inr ⟨n, w'.drm.log.length, haccepts, hgrants, ?_, ?_, fun s => ?_⟩⟩
  · show ((w'.committed pset n).fenced p' n).disp.layers = _
    rw [World.fenced_layers]
    show w'.disp.layers = _
    rw [hd]
  · have hlist : ((w'.committed pset n).fenced p' n).disp.mLayers = w'.disp.mLayers := by
      unfold World.fenced
      split <;> rfl
    exact hlist.trans (by rw [hd])
  · obtain ⟨fences, hl⟩ := p'.fenced_layer n s
    rw [hl, h.layer s]
    exact ⟨rfl, rfl⟩
  · have hlog : commits (w'.granted p' pset n).drm.log =
        [⟨pset, w'.drm.fbs.map Prod.fst, some n⟩] ++ commits w.drm.log := by
      show commits ((w'.committed pset n).fenced p' n).drm.log = _
      rw [World.fenced_drm]
      exact congrArg _ h.commits
    exact produced_of_commits hlog
  · show ((w'.committed pset n).fenced p' n).drm.fds = _
    rw [World.fenced_drm, ← h.fds]
    rfl
  · unfold Parts.fenced
    dsimp only
    rw [h.mCursorLayers, h.layer s]
    split <;> rfl

/-- Giving back the buffers that are off the screen queues nothing. -/
theorem FrameQueues.released (h : FrameQueues w p a w') (s : Slot) (b : DropAnswers)
    (hp : p'.Of w') : FrameQueues w p a (w'.released p' s b) := by
  have hframe := w'.drm.released_frame p' s b
  refine h.congr (fun p₂ hp₂ => ?_) rfl rfl hframe.2.2.2.1 hframe.1
  obtain rfl := hp.unique hp₂
  exact ⟨p'.released s, hp.released s b, rfl⟩

end

theorem frameQueues_apply {w : World} {p : Parts} (h : WellFormed w) (hp : p.Of w)
    (a : FrameAnswers) :
    Post (apply a) w (fun _ w' => FrameQueues w p a w') (fun _ _ => True) := by
  have htriv : ∀ s, LoopInv w p a s fun _ _ _ _ _ => True :=
    fun _ => ⟨fun _ _ _ _ _ => trivial, fun _ _ _ _ _ _ => trivial⟩
  apply apply_post h hp (htriv .primary) (htriv .cursor) (fun _ _ _ => trivial) _ trivial
    (fun _ _ _ _ _ => trivial)
  · intro hbegins
    have hno : w.accepts a = false := by simp [World.accepts, World.commits, hbegins]
    exact FrameQueues.built (Along.refl h hp) hno hp rfl rfl (by simp [produced])
  · intro w' p' _ halong _ _ hmode
    have hno : w.accepts a = false := by simp [World.accepts, World.commits, hmode]
    have hsame : commits w'.drm.log = [] ++ commits w.drm.log := halong.commits
    exact FrameQueues.built halong hno halong.of rfl rfl (produced_of_commits hsame)
  · intro w' p' pset halong _ hcommits
    apply commitFrame_post halong.wf halong.of
    · intro hrefused
      have hno : w.accepts a = false := by
        rw [← Bool.not_eq_true, World.accepts_iff]
        rintro ⟨-, n, hn⟩
        refine hrefused n ⟨hn.1, hn.2.1, ?_⟩
        rw [halong.fds]
        exact hn.2.2
      refine FrameQueues.built halong hno (halong.of.refused pset) rfl rfl ?_
      have hlog : commits (w'.refused pset).drm.log =
          [⟨pset, w'.drm.fbs.map Prod.fst, none⟩] ++ commits w.drm.log :=
        congrArg _ halong.commits
      exact produced_of_commits hlog
    · intro n hgrants
      have hgranted : a.grants w.drm n := by
        refine ⟨hgrants.1, hgrants.2.1, ?_⟩
        rw [← halong.fds]
        exact hgrants.2.2
      have haccepts : w.accepts a = true := World.accepts_iff.2 ⟨hcommits, n, hgranted⟩
      have hof := (halong.of.committed pset n).fenced n
      have hqueued : FrameQueues w p a (w'.granted p' pset n) :=
        FrameQueues.granted halong haccepts hgranted
      rw [post_bind]
      refine releaseLast_post hof (fun _ => ?_) (fun _ => trivial)
      refine releaseLast_post (hof.released _ _) (fun _ => ?_) (fun _ => trivial)
      exact (hqueued.released .primary _ hof).released .cursor _ (hof.released _ _)
  · intro w' blob hq
    refine hq.congr (fun p₁ hp₁ => ⟨p₁, ⟨hp₁.comp, ?_⟩, rfl⟩) rfl rfl rfl rfl
    simpa using hp₁.layer

/-- The state once a fence is popped and handed over. -/
def World.took (w : World) (p : Parts) : World :=
  (w.setLayer .client (p.layer .primary).getReleaseFenceFd.2).setDrm
    (w.drm.handOver (p.layer .primary).getReleaseFenceFd.1)

/-- **`Commit`** is a frame and what is taken from the client layer after it. -/
theorem commit_queues {w : World} {p : Parts} (h : WellFormed w) (hp : p.Of w)
    (a : FrameAnswers) :
    Post (step (.commit a)) w
      (fun r w'' => ∃ w', ∃ p' : Parts, FrameQueues w p a w' ∧ p'.Of w' ∧
        r = .fence .success (p'.layer .primary).getReleaseFenceFd.1 ∧ w'' = w'.took p')
      (fun _ _ => True) := by
  have hcommit := commit_post h (a := a)
    (Q := fun fd w'' => ∃ w', ∃ p' : Parts, FrameQueues w p a w' ∧ p'.Of w' ∧
      fd = (p'.layer .primary).getReleaseFenceFd.1 ∧
      w'' = w'.setLayer .client (p'.layer .primary).getReleaseFenceFd.2)
    ((frameQueues_apply h hp a).mono
      (fun _ w' hq p' hp' => ⟨w', p', hq, hp', rfl, rfl⟩) (fun _ _ _ => trivial))
  show Post (commit a >>= _) w _ _
  rw [post_bind]
  apply hcommit.mono
  · rintro ⟨ret, fd⟩ w'' ⟨hret, w', p', hq, hp', hfd, hw''⟩
    dsimp only at hret hfd hw''
    subst hret hfd hw''
    exact ⟨w', p', hq, hp', rfl, rfl⟩
  · exact fun _ _ _ => trivial

/-! ## One operation -/

section
variable {q : List Int} {w : World} {p : Parts}

theorem Queues.queued (h : Queues q w) (hp : p.Of w) : w.queued = q := by
  have hclient : fencesOf w.disp.mClientLayer = q := by
    have hl : w.disp.mClientLayer = some (p.layer .primary) := hp.layer .primary
    rw [hl]
    exact h.fences .client _ hl
  have hcursor : fencesOf w.disp.mCursorLayer = [] := by
    have hl : w.disp.mCursorLayer = some (p.layer .cursor) := hp.layer .cursor
    rw [hl]
    exact h.fences .cursor _ hl
  have hcreated : (w.disp.mLayers.flatMap fun n => fencesOf (w.disp.layers n)) = [] := by
    rw [List.flatMap_eq_nil_iff]
    intro n _
    cases hl : w.disp.layers n with
    | none => rfl
    | some l => exact h.fences (.created n) l hl
  unfold World.queued
  rw [hclient, hcursor, hcreated, List.append_nil, List.append_nil]

/-- An operation that leaves the queues alone. -/
theorem Queues.kept (h : Queues q w) (hp : p.Of w) (hq : q.length ≤ 1) {w' : World} {p' : Parts}
    (h' : Queues q w') (hp' : p'.Of w') {op : Op} (hop : ∀ a, op ≠ .commit a) {r : Ret}
    (hr : r.handed = []) (hproduced : produced w w' = []) : FencesKept w op r w' where
  returned := fun a heq => absurd heq (hop a)
  conserved := by
    rw [h.queued hp, h'.queued hp', hr, hproduced]
  owned := by
    rw [h'.queued hp']
    exact fun fd hfd => (h'.held fd hfd).2
  handedOver := by
    rw [hr]
    simp
  bounded := by
    intro p l hl
    rw [h'.fences p l hl]
    split
    · exact hq
    · exact Nat.zero_le _

/-- The client layer's queue after an accepted frame and after one that is not. -/
theorem FrameQueues.client {a : FrameAnswers} {w' : World} (hf : FrameQueues w p a w')
    (hp : p.Of w) (h : Queues q w) {p' : Parts} (hp' : p'.Of w') :
    (w.accepts a = false ∧ produced w w' = [] ∧ (p'.layer .primary).releaseFences_ = q) ∨
      ∃ n k, w.accepts a = true ∧ a.grants w.drm n ∧ produced w w' = [n] ∧
        w'.drm.fds n = some ⟨.outFence k, true⟩ ∧
        (p'.layer .primary).releaseFences_ = q ++ [n] := by
  obtain ⟨p'', hp'', -, -, -, hcase⟩ := hf
  obtain rfl := hp'.unique hp''
  have hclient : (p.layer .primary).releaseFences_ = q := h.fences .client _ (hp.layer .primary)
  rcases hcase with ⟨hno, hproduced, -, hsame⟩ | ⟨n, k, hyes, hgrants, hproduced, hfds, hsame⟩
  · exact Or.inl ⟨hno, hproduced, (hsame .primary).trans hclient⟩
  · refine Or.inr ⟨n, k, hyes, hgrants, hproduced, by rw [hfds, Function.update_self], ?_⟩
    rw [hsame .primary, ← hclient]
    simp [Parts.fenced, HdiLayer.setReleaseFence]

theorem HdiLayer.getReleaseFenceFd_fst (l : HdiLayer) :
    l.getReleaseFenceFd.1 = l.releaseFences_.head?.getD (-1) := by
  unfold getReleaseFenceFd
  split
  · next h => rw [h]; rfl
  · next h => rw [h]; rfl

theorem HdiLayer.getReleaseFenceFd_fences (l : HdiLayer) :
    l.getReleaseFenceFd.2.releaseFences_ = l.releaseFences_.tail := by
  unfold getReleaseFenceFd
  split
  · next h => rw [h]; rfl
  · next h => rw [h]; rfl

theorem World.took_layerAt (w : World) (p : Parts) (r : LayerRef) :
    (w.took p).layerAt r = if r = .client then some (p.layer .primary).getReleaseFenceFd.2
      else w.layerAt r := by
  unfold took
  rw [setDrm_layerAt, layerAt_setLayer]

/-- After a frame that finds no fence in the client layer and puts none in the cursor layer,
all queues are empty again. -/
theorem FrameQueues.emptied {a : FrameAnswers} {w' : World} (hf : FrameQueues w p a w')
    (hp : p.Of w) (h : Queues [] w) {p' : Parts} (hp' : p'.Of w')
    (hcursor : w.accepts a = true → p.comp.mCursorLayers = []) : Queues [] (w'.took p') where
  fences := by
    intro r l hl
    rw [World.took_layerAt] at hl
    rw [ite_self]
    cases r with
    | client =>
        rw [if_pos rfl] at hl
        obtain rfl := Option.some.inj hl
        rw [HdiLayer.getReleaseFenceFd_fences]
        rcases hf.client hp h hp' with ⟨-, -, hq⟩ | ⟨n, k, -, -, -, -, hq⟩
        · rw [hq]
          rfl
        · rw [hq]
          rfl
    | cursor =>
        rw [if_neg (by simp)] at hl
        have hempty : (p.layer .cursor).releaseFences_ = [] :=
          h.fences .cursor _ (hp.layer .cursor)
        obtain ⟨p'', hp'', -, -, -, hcase⟩ := hf
        obtain rfl := hp'.unique hp''
        obtain rfl := Option.some.inj ((hp'.layer .cursor).symm.trans hl)
        rcases hcase with ⟨-, -, -, hsame⟩ | ⟨n, k, hyes, -, -, -, hsame⟩
        · rw [hsame .cursor, hempty]
        · rw [hsame .cursor]
          simp [Parts.fenced, hcursor hyes, hempty]
    | created n =>
        rw [if_neg (by simp)] at hl
        obtain ⟨-, -, hlayers, -⟩ := hf
        have hl : w'.disp.layers n = some l := hl
        rw [hlayers] at hl
        exact h.fences (.created n) l hl
  apart := fun _ _ _ fd hfd => absurd hfd (by simp)
  held := fun fd hfd => absurd hfd (by simp)

theorem Parts.Of.took {w' : World} {p' : Parts} (hp' : p'.Of w') : p'.popped.Of (w'.took p') :=
  ⟨hp'.popped.comp, by simpa [World.took] using hp'.popped.layer⟩

/-- A clean `Commit` finds all queues empty and leaves them empty. -/
theorem commit_emptied (hwf : WellFormed w) (hp : p.Of w) (h : Queues q w) {a : FrameAnswers}
    (hclean : CommitsClean w (.commit a)) :
    Post (step (.commit a)) w
      (fun r w'' => ∃ w', ∃ p' : Parts, FrameQueues w p a w' ∧ p'.Of w' ∧
        r = .fence .success (p'.layer .primary).getReleaseFenceFd.1 ∧ w'' = w'.took p' ∧
        q = [] ∧ Queues [] (w'.took p'))
      (fun _ _ => True) := by
  apply ((commit_queues hwf hp a).and (post_self (step (.commit a)) w)).mono
  · rintro r w'' ⟨⟨w', p', hf, hp', rfl, rfl⟩, hok⟩
    obtain ⟨hclient, hcursor⟩ := hclean a rfl (returns_iff.2 ⟨_, _, hok, rfl⟩)
    have hempty : q = [] := by
      rw [← hclient _ (hp.layer .primary), h.fences .client _ (hp.layer .primary), if_pos rfl]
    subst hempty
    exact ⟨w', p', hf, hp', rfl, rfl, rfl,
      hf.emptied hp h hp' fun hyes => hcursor hyes p.comp hp.comp⟩
  · exact fun _ _ _ => trivial

/-- A fence that was queued before a frame is returned in place of the frame's own. -/
theorem FrameQueues.nothing_queued {a : FrameAnswers} {w' : World} (hf : FrameQueues w p a w')
    (hp : p.Of w) (h : Queues q w) {p' : Parts} (hp' : p'.Of w')
    (hfd : (p'.layer .primary).releaseFences_.head?.getD (-1) =
      (produced w w').head?.getD (-1)) : q = [] := by
  cases q with
  | nil => rfl
  | cons f rest =>
      obtain ⟨hpos, k, hopen⟩ := h.held f List.mem_cons_self
      rcases hf.client hp h hp' with ⟨-, hproduced, hq⟩ | ⟨n, k', -, hgrants, hproduced, -, hq⟩
      · rw [hq, hproduced] at hfd
        have hminus : f = -1 := hfd
        omega
      · rw [hq, hproduced] at hfd
        have hsame : f = n := hfd
        rw [hsame, hgrants.2.2] at hopen
        exact absurd hopen (by simp)

theorem commitsClean_of_keepsFences (hwf : WellFormed w) (hp : p.Of w) (h : Queues q w)
    {a : FrameAnswers} (hlaw : KeepsFences w (.commit a)) : CommitsClean w (.commit a) := by
  intro a' heq hret
  obtain rfl := Op.commit.inj heq
  obtain ⟨r, w'', hok, -⟩ := returns_iff.1 hret
  have hkept := Post.of_ok hlaw hok
  obtain ⟨w', p', hf, hp', rfl, rfl⟩ := (commit_queues hwf hp a).of_ok hok
  obtain ⟨ret, hr⟩ := hkept.returned a rfl
  have hfd : (p'.layer .primary).releaseFences_.head?.getD (-1) =
      (produced w w').head?.getD (-1) := by
    rw [← HdiLayer.getReleaseFenceFd_fst]
    exact (Ret.fence.inj hr).2
  have hempty : q = [] := hf.nothing_queued hp h hp' hfd
  subst hempty
  constructor
  · intro l hl
    rw [h.fences .client l hl, ite_self]
  · intro hyes c hc
    obtain rfl := Option.some.inj (hp.comp.symm.trans hc)
    by_contra hne
    obtain ⟨p'', hp'', -, -, -, ⟨hno, -⟩ | ⟨n, k, -, hgrants, hproduced, -, hsame⟩⟩ := hf
    · rw [hyes] at hno
      exact absurd hno (by simp)
    · obtain rfl := hp'.unique hp''
      -- the fence is handed out and stays in the cursor layer
      have hqueue : ∀ s, (p'.layer s).releaseFences_ = [n] := by
        intro s
        have hbefore : (p.layer s).releaseFences_ = [] := by
          rw [h.fences s.layer _ (hp.layer s), ite_self]
        rw [hsame s]
        simp [Parts.fenced, hne, HdiLayer.setReleaseFence, hbefore]
      have hhanded : (Ret.fence .success (p'.layer .primary).getReleaseFenceFd.1).handed = [n] := by
        rw [HdiLayer.getReleaseFenceFd_fst, hqueue]
        simp [Ret.handed, hgrants.2.1]
      have hcursor : n ∈ (w'.took p').queued := by
        have hl : (w'.took p').disp.mCursorLayer = some (p'.layer .cursor) := hp'.layer .cursor
        unfold World.queued
        rw [hl]
        simp [fencesOf, hqueue]
      have hlength := hkept.conserved.length_eq
      have hproduced' : produced w (w'.took p') = [n] := hproduced
      rw [List.length_append, List.length_append, hhanded, h.queued hp, hproduced'] at hlength
      have hnone : (w'.took p').queued = [] := List.length_eq_zero_iff.1 (by simpa using hlength)
      rw [hnone] at hcursor
      exact absurd hcursor (by simp)

theorem keepsFences_of_commitsClean (hwf : WellFormed w) (hp : p.Of w) (h : Queues q w)
    {a : FrameAnswers} (hclean : CommitsClean w (.commit a)) : KeepsFences w (.commit a) := by
  apply (commit_emptied hwf hp h hclean).mono
  · rintro r w'' ⟨w', p', hf, hp', rfl, rfl, rfl, hq'⟩
    have hnone := hq'.queued hp'.took
    have hbounded : ∀ r l, (w'.took p').layerAt r = some l → l.releaseFences_.length ≤ 1 := by
      intro r l hl
      rw [hq'.fences r l hl, ite_self]
      exact Nat.zero_le _
    rcases hf.client hp h hp' with ⟨-, hproduced, hq⟩ | ⟨n, k, -, hgrants, hproduced, hopen, hq⟩
    · have hproduced' : produced w (w'.took p') = [] := hproduced
      have hfd : (p'.layer .primary).getReleaseFenceFd.1 = -1 := by
        rw [HdiLayer.getReleaseFenceFd_fst, hq]
        rfl
      rw [hfd]
      refine ⟨fun _ _ => ⟨.success, by rw [hproduced']; rfl⟩, ?_, ?_, ?_, hbounded⟩
      · rw [hnone, h.queued hp, hproduced']
        exact List.Perm.refl _
      · rw [hnone]
        simp
      · simp [Ret.handed]
    · have hproduced' : produced w (w'.took p') = [n] := hproduced
      have hfd : (p'.layer .primary).getReleaseFenceFd.1 = n := by
        rw [HdiLayer.getReleaseFenceFd_fst, hq]
        rfl
      have hhanded : (Ret.fence .success n).handed = [n] := by
        simp [Ret.handed, hgrants.2.1]
      have hgiven : (w'.took p').drm.fds n = some ⟨.outFence k, false⟩ := by
        show (w'.drm.handOver (p'.layer .primary).getReleaseFenceFd.1).fds n = _
        rw [hfd]
        simp [Drm.handOver, hopen]
      rw [hfd]
      refine ⟨fun _ _ => ⟨.success, by rw [hproduced']; rfl⟩, ?_, ?_, ?_, hbounded⟩
      · rw [hnone, h.queued hp, hproduced', hhanded]
      · rw [hnone]
        simp
      · rw [hhanded]
        intro fd hfd'
        rw [List.mem_singleton.1 hfd']
        exact ⟨k, hgiven⟩
  · exact fun _ _ _ => trivial

/-- `Commit` keeps the law exactly when it is clean. -/
theorem keepsFences_commit_iff (hwf : WellFormed w) (hp : p.Of w) (h : Queues q w)
    (a : FrameAnswers) : KeepsFences w (.commit a) ↔ CommitsClean w (.commit a) :=
  ⟨commitsClean_of_keepsFences hwf hp h, keepsFences_of_commitsClean hwf hp h⟩

end

/-! ## Runs -/

/-- What holds along a run that keeps the law. -/
structure Delivering (w : World) : Prop where
  wf : WellFormed w
  registered : Registered w
  queues : ∃ q : List Int, q.length ≤ 1 ∧ Queues q w

theorem queues_other {w : World} {q : List Int} (hwf : WellFormed w) (hreg : Registered w)
    (h : Queues q w) (hq : q.length ≤ 1) {op : Op} (hop : ∀ a, op ≠ .commit a) :
    Post (step op) w (fun r w' => Queues q w' ∧ FencesKept w op r w') (fun _ _ => True) := by
  obtain ⟨p, hp, -⟩ := hwf.parts
  have hcalm := isCalm_step op hop w hwf.noneOwned
  apply ((queues_step hreg h hop).and hcalm).mono
  · rintro r w' ⟨⟨h', hr⟩, hc⟩
    obtain ⟨fds, hdrm⟩ := hc.drm
    obtain ⟨p', hp', -⟩ := hc.parts p hp
    have hproduced : produced w w' = [] := by
      unfold produced
      rw [hdrm]
      simp
    exact ⟨h', h.kept hp hq h' hp' hop hr hproduced⟩
  · exact fun _ _ _ => trivial

theorem keepsFences_iff {w : World} (h : Delivering w) (op : Op) :
    KeepsFences w op ↔ CommitsClean w op := by
  obtain ⟨q, hlen, hq⟩ := h.queues
  by_cases hop : ∃ a, op = .commit a
  · obtain ⟨a, rfl⟩ := hop
    obtain ⟨p, hp, -⟩ := h.wf.parts
    exact keepsFences_commit_iff h.wf hp hq a
  · push Not at hop
    constructor
    · exact fun _ a heq => absurd heq (hop a)
    · exact fun _ => (queues_other h.wf h.registered hq hlen hop).mono (fun _ _ hw => hw.2)
        (fun _ _ _ => trivial)

theorem delivering_step {w : World} (h : Delivering w) {op : Op} (hlaw : KeepsFences w op) :
    Post (step op) w (fun _ w' => Delivering w') (fun _ _ => True) := by
  obtain ⟨q, hlen, hq⟩ := h.queues
  have hqueues : Post (step op) w (fun _ w' => ∃ q : List Int, q.length ≤ 1 ∧ Queues q w')
      (fun _ _ => True) := by
    by_cases hop : ∃ a, op = .commit a
    · obtain ⟨a, rfl⟩ := hop
      obtain ⟨p, hp, -⟩ := h.wf.parts
      have hclean := (keepsFences_commit_iff h.wf hp hq a).1 hlaw
      apply (commit_emptied h.wf hp hq hclean).mono
      · rintro r w'' ⟨w', p', -, -, -, rfl, -, hq'⟩
        exact ⟨[], Nat.zero_le _, hq'⟩
      · exact fun _ _ _ => trivial
    · push Not at hop
      exact (queues_other h.wf h.registered hq hlen hop).mono (fun _ _ hw => ⟨q, hlen, hw.1⟩)
        (fun _ _ _ => trivial)
  apply ((h.wf.step op).and ((step_registered h.wf h.registered op).and hqueues)).mono
  · exact fun _ _ hw => ⟨hw.1, hw.2.1, hw.2.2⟩
  · exact fun _ _ _ => trivial

/-- The first frame queues at most one fence, which is no descriptor of a layer. -/
theorem initialised_delivering {w : World} (h : Initialised w) : Delivering w := by
  have htracked := initialised_tracked h
  obtain ⟨w₀, w₁, c, mode, d, buffer, a, ret, hfresh, hc, hdrm, hdisp, halloc, happ⟩ := h.primed
  have hcursor : w₁.disp.mCursorLayer = some {} := by rw [hdisp]
  have hwf : WellFormed (w₁.primed c d buffer a.dup) :=
    primed_wellFormed hfresh hc (allocMem_frame halloc) hdisp
  have hp := primedParts_of c d buffer a.dup hcursor
  -- what the layers hold before the frame
  have hbuf : (HdiLayerBuffer.new d buffer a.dup.buffer).1.mFd = -1 ∨
      (HdiLayerBuffer.new d buffer a.dup.buffer).2.fds
        (HdiLayerBuffer.new d buffer a.dup.buffer).1.mFd ≠ none := by
    show (d.dup buffer.fd a.dup.buffer).1 = -1 ∨
      (d.dup buffer.fd a.dup.buffer).2.fds (d.dup buffer.fd a.dup.buffer).1 ≠ none
    unfold Drm.dup
    split
    · split
      · right
        simp
      · exact Or.inl rfl
    · exact Or.inl rfl
  have hnone : ∀ n, (w₁.primed c d buffer a.dup).disp.layers n = none := by
    intro n
    show w₁.disp.layers n = none
    rw [hdisp]
    exact hfresh.layers n
  obtain ⟨p', hp', hlayers, -, hown, hcase⟩ :=
    (frameQueues_apply hwf hp a.firstFrame).of_ok happ
  have hlayer : ∀ r l, w.layerAt r = some l → ∃ s : Slot, r = s.layer ∧ l = p'.layer s := by
    intro r l hl
    cases r with
    | client => exact ⟨.primary, rfl, Option.some.inj (hl.symm.trans (hp'.layer .primary))⟩
    | cursor => exact ⟨.cursor, rfl, Option.some.inj (hl.symm.trans (hp'.layer .cursor))⟩
    | created n =>
        have hl : w.disp.layers n = some l := hl
        rw [hlayers, hnone] at hl
        exact absurd hl (by simp)
  refine ⟨htracked.wf, htracked.registered, ?_⟩
  rcases hcase with ⟨-, -, -, hsame⟩ | ⟨n, k, -, hgrants, -, hfds, hsame⟩
  · refine ⟨[], Nat.zero_le _, fun r l hl => ?_, fun _ _ _ fd hfd => absurd hfd (by simp),
      fun fd hfd => absurd hfd (by simp)⟩
    obtain ⟨s, -, rfl⟩ := hlayer r l hl
    rw [hsame s, ite_self]
    cases s <;> rfl
  · refine ⟨[n], le_refl _, fun r l hl => ?_, fun r l hl fd hfd => ?_, fun fd hfd => ?_⟩
    · obtain ⟨s, rfl, rfl⟩ := hlayer r l hl
      rw [hsame s]
      have hno : c.mCursorLayers = [] := by rw [hc.empty]
      cases s with
      | primary => rfl
      | cursor => simp [Parts.fenced, HdiDrmComposition.primedParts, hno, Slot.layer]
    · obtain ⟨s, -, rfl⟩ := hlayer r l hl
      obtain rfl := List.mem_singleton.1 hfd
      have hpos := hgrants.2.1
      rw [(hown s).1, (hown s).2]
      cases s with
      | primary =>
          refine ⟨show (-1 : Int) ≠ fd by omega, ?_⟩
          rintro buf hb rfl
          obtain rfl := Option.some.inj hb
          rcases hbuf with hminus | hopen
          · omega
          · exact hopen hgrants.2.2
      | cursor => exact ⟨show (-1 : Int) ≠ fd by omega, by simp [HdiDrmComposition.primedParts]⟩
    · obtain rfl := List.mem_singleton.1 hfd
      exact ⟨hgrants.2.1, k, by rw [hfds, Function.update_self]⟩

/-- **Runs.** In a run from an initialised display every operation keeps the law of the
release fences exactly when every `Commit` is clean. -/
theorem fences_iff {w : World} (h : Initialised w) (ops : List Op) :
    Meets step KeepsFences w ops ↔ Meets step CommitsClean w ops := by
  apply meets_congr (I := Delivering)
  · exact fun w op hw hlaw => delivering_step hw hlaw
  · exact fun w op hw => keepsFences_iff hw op
  · exact initialised_delivering h

/-- The small display when the kernel refuses its first frame. -/
@[irreducible] def refusedBoot : World :=
  match drmDisplayInit { smallInit with firstFrame := {} } (smallDisplay []) with
  | .ok _ w => w
  | .error _ w => w

theorem refusedBoot_initialised : Initialised refusedBoot := by
  have hret : returns (drmDisplayInit { smallInit with firstFrame := {} }) (smallDisplay [])
      (fun ret _ => decide (ret = .success)) = true := by decide +kernel
  obtain ⟨ret, w, hinit, hret⟩ := returns_iff.1 hret
  obtain rfl := of_decide_eq_true hret
  refine ⟨smallDisplay [], { smallInit with firstFrame := {} }, smallDisplay_fresh (by decide), ?_⟩
  rw [refusedBoot, hinit]

/-- An accepted and a refused frame after a refused first one. -/
theorem fences_refusedFirst :
    Meets step KeepsFences refusedBoot
      [.prepareDisplayLayers fun _ => {}, .commit (frame (some 2) (some 2) (some 21)),
        .commit (frame none none none), .getDisplayReleaseFence true true] :=
  (fences_iff refusedBoot_initialised _).2 (by decide +kernel)

/-- **The first frame's fence is returned by the next `Commit`**, whose own fence has
descriptor `21`. -/
theorem fences_skewed :
    Initialised (smallBoot []) ∧
      ¬ Meets step KeepsFences (smallBoot []) [.commit (frame (some 2) (some 2) (some 21))] := by
  refine ⟨smallBoot_initialised (by decide) (by decide +kernel), ?_⟩
  rintro ⟨hlaw, -⟩
  have hrun : returns (step (.commit (frame (some 2) (some 2) (some 21)))) (smallBoot [])
      (fun r w' => decide (r = .fence .success 20) &&
        decide (produced (smallBoot []) w' = [21])) = true := by
    decide +kernel
  obtain ⟨r, w', hok, hbad⟩ := returns_iff.1 hrun
  rw [Bool.and_eq_true, decide_eq_true_eq, decide_eq_true_eq] at hbad
  obtain ⟨ret, hr⟩ := (Post.of_ok hlaw hok).returned _ rfl
  rw [hbad.1, hbad.2] at hr
  exact absurd (Ret.fence.inj hr).2 (by decide)

end QemuHal
