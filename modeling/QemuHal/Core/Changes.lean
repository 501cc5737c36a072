import QemuHal.Core.Registry
import QemuHal.Frame.Steady

/-!
# The layers `GetDisplayCompChange` reads

`PrepareDisplayLayers` leaves pointers to the layers whose type it changed in
`mChangeLayers`, and `DestroyLayer` leaves them there. The composition holds pointers to
the client and the cursor layer only, which live as long as the display.
-/

namespace QemuHal

open Exec

/-! ## The law -/

/-- Whether a layer that the last `PrepareDisplayLayers` changed has been destroyed since. -/
def noteDestroyed (w : World) (destroyed : Bool) : Op → Bool
  | .prepareDisplayLayers _ => false
  | .destroyLayer layerId _ =>
      destroyed || decide (w.disp.mLayersMap layerId ∈ w.disp.mChangeLayers.map some)
  | _ => destroyed

/-- No pointer to a destroyed layer is dereferenced. -/
def NoDangling (s : World × Bool) (op : Op) : Prop :=
  Post (noting noteDestroyed step op) s (fun _ _ => True) (fun e _ => e ≠ .danglingLayer)

/-- The changes are not asked for while one of the changed layers is gone. -/
def AsksInTime (s : World × Bool) (op : Op) : Prop :=
  op = .getDisplayCompChange true → s.2 = false

instance (s : World × Bool) : (op : Op) → Decidable (AsksInTime s op)
  | .getDisplayCompChange true =>
      decidable_of_iff (s.2 = false) ⟨fun h _ => h, fun h => h rfl⟩
  | .getDisplayCompChange false | .createLayer .. | .destroyLayer .. | .setLayerZorder ..
  | .setLayerBuffer .. | .setLayerCompositionType .. | .setLayerVisible .. | .setLayerRegion ..
  | .setDisplayClientBuffer .. | .setDisplayMode .. | .prepareDisplayLayers .. | .commit ..
  | .getDisplayReleaseFence .. | .clientFd .. => .isTrue (fun heq => nomatch heq)

/-! ## What stays in the containers -/

/-- The layers are the same ones, under the same ids and z-orders. -/
structure Shelved (w w' : World) : Prop where
  layerIds : w'.layerIds = w.layerIds
  nextLayer : w'.disp.nextLayer = w.disp.nextLayer
  mLayersMap : w'.disp.mLayersMap = w.disp.mLayersMap
  mLayers : w'.disp.mLayers = w.disp.mLayers
  filed : ∀ n, (w'.disp.layers n).map HdiLayer.filed = (w.disp.layers n).map HdiLayer.filed

namespace Shelved

variable {w w' w'' : World}

theorem refl (w : World) : Shelved w w := ⟨rfl, rfl, rfl, rfl, fun _ => rfl⟩

theorem trans (h : Shelved w w') (h' : Shelved w' w'') : Shelved w w'' where
  layerIds := h'.layerIds.trans h.layerIds
  nextLayer := h'.nextLayer.trans h.nextLayer
  mLayersMap := h'.mLayersMap.trans h.mLayersMap
  mLayers := h'.mLayers.trans h.mLayers
  filed := fun n => (h'.filed n).trans (h.filed n)

theorem of_steady (h : Steady w w') :
    Shelved w w' ∧ w'.disp.mChangeLayers = w.disp.mChangeLayers := by
  refine ⟨⟨?_, ?_, ?_, ?_, h.filed⟩, ?_⟩
  · rw [h.world]
  · rw [h.disp]
  · rw [h.disp]
  · rw [h.disp]
  · rw [h.disp]

theorem setLayer {p : LayerRef} {l : HdiLayer} (h : w.layerAt p = some l) (l' : HdiLayer)
    (hl : l'.filed = l.filed) : Shelved w (w.setLayer p l') :=
  (of_steady (Steady.setLayer h l' hl)).1

theorem dead (h : Shelved w w') (n : Nat) :
    w'.disp.layers n = none ↔ w.disp.layers n = none := by
  rw [← Option.map_eq_none_iff (f := HdiLayer.filed), h.filed, Option.map_eq_none_iff]

theorem layer (h : Shelved w w') {n : Nat} {l : HdiLayer} (hl : w'.disp.layers n = some l) :
    ∃ l₀, w.disp.layers n = some l₀ ∧ l₀.mId = l.mId ∧ l₀.mZorder = l.mZorder := by
  have hf := h.filed n
  rw [hl, Option.map_some] at hf
  obtain ⟨l₀, hl₀, heq⟩ := Option.map_eq_some_iff.1 hf.symm
  exact ⟨l₀, hl₀, congrArg Prod.fst heq, congrArg Prod.snd heq⟩

theorem symm (h : Shelved w w') : Shelved w' w :=
  ⟨h.layerIds.symm, h.nextLayer.symm, h.mLayersMap.symm, h.mLayers.symm, fun n => (h.filed n).symm⟩

/-- The changes are no part of the containers. -/
theorem of_cleared {changes : List Nat}
    (h : Shelved { w with disp := { w.disp with mChangeLayers := changes } } w') :
    Shelved w w' :=
  ⟨h.layerIds, h.nextLayer, h.mLayersMap, h.mLayers, h.filed⟩

theorem zorderOf (h : Shelved w w') : w'.zorderOf = w.zorderOf := by
  funext n
  unfold World.zorderOf
  cases hl : w'.disp.layers n with
  | none => rw [(h.dead n).1 hl]
  | some l =>
      obtain ⟨l₀, hl₀, -, hz⟩ := h.layer hl
      rw [hl₀]
      exact hz.symm

end Shelved

theorem Registered.shelved {w w' : World} (h : Registered w) (hs : Shelved w w') :
    Registered w' where
  listed := by
    rw [hs.zorderOf, hs.mLayersMap, hs.mLayers]
    exact h.listed
  live := by
    intro id n hid
    rw [hs.mLayersMap] at hid
    obtain ⟨l, hl, hlid⟩ := h.live id n hid
    obtain ⟨l', hl', hid', -⟩ := hs.symm.layer hl
    exact ⟨l', hl', hid'.trans hlid⟩
  stored := by
    intro n l hl
    obtain ⟨l₀, hl₀, hid, -⟩ := hs.layer hl
    rw [hs.mLayersMap, ← hid]
    exact h.stored n l₀ hl₀
  fresh := by
    intro n hn
    rw [hs.nextLayer] at hn
    exact (hs.dead n).2 (h.fresh n hn)
  valid := by
    rw [hs.mLayersMap]
    exact h.valid
  used := by
    rw [hs.mLayersMap, hs.layerIds]
    exact h.used

theorem Registered.live_of_listed {w : World} (h : Registered w) :
    ∀ n ∈ w.disp.mLayers, w.disp.layers n ≠ none := by
  intro n hn
  obtain ⟨id, hid⟩ := h.listed.filed n hn
  obtain ⟨l, hl, -⟩ := h.live id n hid
  rw [hl]
  simp

/-! ## Reading layers -/

section
variable {w : World}

theorem derefLayer_live {n : Nat} (h : w.disp.layers n ≠ none) :
    ∃ l, w.disp.layers n = some l ∧ derefLayer (.created n) w = .ok l w := by
  obtain ⟨l, hl⟩ := Option.ne_none_iff_exists'.1 h
  exact ⟨l, hl, derefLayer_of hl⟩

/-- The client and the cursor layer are not destroyed; at worst there is none. -/
theorem derefLayer_own {p : LayerRef} (hp : ∀ n, p ≠ .created n) :
    Post (derefLayer p) w (fun l w' => w' = w ∧ w.layerAt p = some l)
      (fun e _ => e ≠ .danglingLayer) := by
  unfold derefLayer
  rw [post_bind, post_get]
  cases hl : w.layerAt p with
  | some l => exact ⟨rfl, rfl⟩
  | none =>
      cases p with
      | client => exact fun he => absurd he (by simp)
      | cursor => exact fun he => absurd he (by simp)
      | created n => exact absurd rfl (hp n)

theorem theComposition_own :
    Post theComposition w (fun c w' => w' = w ∧ w.disp.mComposer = some c)
      (fun e _ => e ≠ .danglingLayer) := by
  unfold theComposition
  rw [post_bind, post_get]
  cases w.disp.mComposer with
  | some c => exact ⟨rfl, rfl⟩
  | none => exact fun he => absurd he (by simp)

/-- `GetDisplayCompChange` stops at a layer that is gone, and only there. -/
theorem readChanges_post (changes : List Nat) :
    Post (readChanges changes) w
      (fun _ w' => w' = w ∧ ∀ n ∈ changes, w.disp.layers n ≠ none)
      (fun e _ => e = .danglingLayer ∧ ∃ n ∈ changes, w.disp.layers n = none) := by
  induction changes with
  | nil => exact ⟨rfl, by simp⟩
  | cons n changes ih =>
      unfold readChanges
      rw [post_bind]
      cases hl : w.disp.layers n with
      | none =>
          have hdead : derefLayer (.created n) w = .error .danglingLayer w := by
            have hat : w.layerAt (.created n) = none := hl
            unfold derefLayer
            rw [get_bind, hat]
            rfl
          unfold Post
          rw [hdead]
          exact ⟨rfl, n, List.mem_cons_self, hl⟩
      | some l =>
          refine post_of_ok (derefLayer_of (p := .created n) hl) ?_
          rw [post_bind]
          apply ih.mono
          · rintro rest w' ⟨rfl, hlive⟩
            refine ⟨rfl, fun m hm => ?_⟩
            rcases List.mem_cons.1 hm with rfl | hm
            · rw [hl]
              simp
            · exact hlive m hm
          · rintro e w' ⟨he, m, hm, hdead⟩
            exact ⟨he, m, List.mem_cons_of_mem n hm, hdead⟩

theorem visibleLayers_post (mLayers : List Nat) (h : ∀ n ∈ mLayers, w.disp.layers n ≠ none) :
    Post (visibleLayers mLayers) w (fun layers w' => w' = w ∧ ∀ n ∈ layers, n ∈ mLayers)
      (fun _ _ => False) := by
  induction mLayers with
  | nil => exact ⟨rfl, by simp⟩
  | cons n mLayers ih =>
      obtain ⟨l, -, hderef⟩ := derefLayer_live (h n List.mem_cons_self)
      unfold visibleLayers
      rw [post_bind]
      refine post_of_ok hderef ?_
      rw [post_bind]
      apply (ih fun m hm => h m (List.mem_cons_of_mem n hm)).mono
      · rintro layers w' ⟨rfl, hsub⟩
        refine ⟨rfl, fun m hm => ?_⟩
        split at hm
        · rcases List.mem_cons.1 hm with rfl | hm
          · exact List.mem_cons_self
          · exact List.mem_cons_of_mem n (hsub m hm)
        · exact List.mem_cons_of_mem n (hsub m hm)
      · exact fun _ _ he => he

end

/-! ## Operations that leave the containers alone -/

/-- The operation leaves the containers and the changes alone and reads no pointer to a
destroyed layer. -/
def IsShelved {α : Type} (m : Hal α) (w : World) : Prop :=
  Post m w (fun _ w' => Shelved w w' ∧ w'.disp.mChangeLayers = w.disp.mChangeLayers)
    (fun e _ => e ≠ .danglingLayer)

section
variable {α β : Type} {w : World}

theorem IsShelved.bind {m : Hal α} {f : α → Hal β} (hm : IsShelved m w)
    (hf : ∀ a w', Shelved w w' → IsShelved (f a) w') : IsShelved (m >>= f) w := by
  unfold IsShelved
  rw [post_bind]
  apply Post.mono hm
  · rintro a w' ⟨h, hc⟩
    apply Post.mono (hf a w' h)
    · rintro b w'' ⟨h', hc'⟩
      exact ⟨h.trans h', hc'.trans hc⟩
    · exact fun _ _ he => he
  · exact fun _ _ he => he

theorem IsShelved.pure (a : α) : IsShelved (pure a : Hal α) w := ⟨Shelved.refl w, rfl⟩

theorem isShelved_setLayer {p : LayerRef} {l : HdiLayer} (h : w.layerAt p = some l)
    (l' : HdiLayer) (hl : l'.filed = l.filed) :
    IsShelved (modify (·.setLayer p l') : Hal PUnit) w :=
  Shelved.of_steady (Steady.setLayer h l' hl)

theorem isShelved_setDrm (f : World → Drm) :
    IsShelved (modify fun w => w.setDrm (f w) : Hal PUnit) w :=
  Shelved.of_steady (Steady.setDrm w (f w))

/-- What `Apply` reads through pointers is the display's own. -/
theorem isShelved_apply (h : WellFormed w) (a : FrameAnswers) : IsShelved (apply a) w := by
  apply ((h.apply a).and (isSteady_apply a w)).mono
  · exact fun _ _ hpost => Shelved.of_steady hpost.2
  · rintro e w' ⟨⟨-, s, rfl⟩, -⟩
    cases s <;> exact fun he => absurd he (by simp [Slot.danglingLast])

theorem isShelved_popReleaseFence {p : LayerRef} (hp : ∀ n, p = .created n →
    w.disp.layers n ≠ none) : IsShelved (popReleaseFence p) w := by
  have hpop : ∀ l, w.layerAt p = some l → IsShelved (do
      modify (·.setLayer p l.getReleaseFenceFd.2)
      return l.getReleaseFenceFd.1 : Hal Int) w := by
    intro l hl
    have hfiled : l.getReleaseFenceFd.2.filed = l.filed := by
      unfold HdiLayer.getReleaseFenceFd
      split <;> rfl
    exact (isShelved_setLayer hl _ hfiled).bind fun _ _ _ => IsShelved.pure _
  unfold popReleaseFence IsShelved
  rw [post_bind]
  cases p with
  | created n =>
      obtain ⟨l, hl, hderef⟩ := derefLayer_live (hp n rfl)
      exact post_of_ok hderef (hpop l hl)
  | client =>
      apply (derefLayer_own (p := .client) (by simp)).mono
      · rintro l w' ⟨rfl, hl⟩
        exact hpop l hl
      · exact fun _ _ he => he
  | cursor =>
      apply (derefLayer_own (p := .cursor) (by simp)).mono
      · rintro l w' ⟨rfl, hl⟩
        exact hpop l hl
      · exact fun _ _ he => he

theorem isShelved_commit (h : WellFormed w) (a : FrameAnswers) : IsShelved (commit a) w := by
  have hcompose : IsShelved (composerCommit a) w := by
    unfold composerCommit IsShelved
    rw [post_bind]
    apply theComposition_own.mono
    · rintro c w' ⟨rfl, -⟩
      apply (isShelved_apply h a).bind
      intro ret w'' _
      split
      · exact IsShelved.pure _
      · exact IsShelved.pure _
    · exact fun _ _ he => he
  apply hcompose.bind
  intro _ w' _
  apply (isShelved_popReleaseFence (p := .client) (by simp)).bind
  exact fun _ _ _ => IsShelved.pure _

theorem isShelved_readReleaseFences (fences : Bool) (mLayers : List Nat) :
    ∀ w : World, (∀ n ∈ mLayers, w.disp.layers n ≠ none) →
      IsShelved (readReleaseFences fences mLayers) w := by
  induction mLayers with
  | nil => exact fun w _ => IsShelved.pure []
  | cons n mLayers ih =>
      intro w h
      have hhead : ∀ w', Shelved w w' → ∀ m, LayerRef.created n = .created m →
          w'.disp.layers m ≠ none := by
        rintro w' hs m heq
        obtain rfl := LayerRef.created.inj heq
        rw [ne_eq, hs.dead]
        exact h n List.mem_cons_self
      have hrest : ∀ (l : HdiLayer) (fd : Int) (w' : World), Shelved w w' → IsShelved (do
          let _ ← popReleaseFence (.created n)
          let rest ← readReleaseFences fences mLayers
          return (l.mId, fd) :: rest : Hal (List (Nat × Int))) w' := by
        intro l fd w' hs
        apply (isShelved_popReleaseFence (hhead w' hs)).bind
        intro _ w'' hs'
        apply IsShelved.bind
        · apply ih
          intro m hm
          rw [ne_eq, (hs.trans hs').dead]
          exact h m (List.mem_cons_of_mem n hm)
        · exact fun _ _ _ => IsShelved.pure _
      obtain ⟨l, -, hderef⟩ := derefLayer_live (h n List.mem_cons_self)
      unfold readReleaseFences IsShelved
      rw [post_bind]
      refine post_of_ok hderef ?_
      cases fences with
      | false => exact hrest l (-1) w (Shelved.refl w)
      | true =>
          apply IsShelved.bind (isShelved_popReleaseFence (hhead w (Shelved.refl w)))
          exact fun fd w' hs => hrest l fd w' hs

theorem isShelved_callLayerFunction (h : Registered w) (layerId : Nat)
    {f : Drm → HdiLayer → DispStatus × HdiLayer × Drm}
    (hf : ∀ d l, (f d l).2.1.filed = l.filed) : IsShelved (callLayerFunction layerId f) w := by
  unfold callLayerFunction IsShelved
  rw [post_bind, post_get]
  cases hm : w.disp.mLayersMap layerId with
  | none => exact IsShelved.pure _
  | some n =>
      obtain ⟨l, hl, -⟩ := h.live layerId n hm
      dsimp only
      rw [post_bind]
      refine post_of_ok (derefLayer_of (p := .created n) hl) ?_
      rw [post_bind, post_set]
      exact Shelved.of_steady (Steady.setDrm_setLayer (p := .created n) hl _ _ (hf w.drm l))

theorem isShelved_setDisplayClientBuffer (buffer : Option BufferHandle) (fence : Int)
    (a : DupAnswers) : IsShelved (setDisplayClientBuffer buffer fence a) w := by
  unfold setDisplayClientBuffer IsShelved
  rw [post_bind]
  apply (derefLayer_own (p := .client) (by simp)).mono
  · rintro l w' ⟨rfl, hl⟩
    rw [post_bind, post_get]
    have hfiled : (l.setLayerBuffer w'.drm buffer fence a).2.1.filed = l.filed := by
      obtain ⟨buf, fd, heq, -⟩ := HdiLayer.setLayerBuffer_layer w'.drm l buffer fence a
      rw [heq]
      rfl
    exact Shelved.of_steady (Steady.setDrm_setLayer (p := .client) hl _ _ hfiled)
  · exact fun _ _ he => he

end

/-! ## `PrepareDisplayLayers` -/

section
variable {w : World}

theorem isShelved_selectDevices (layers : List Nat) :
    ∀ w : World, (∀ n ∈ layers, w.disp.layers n ≠ none) →
      IsShelved (selectDevices (layers.map .created)) w := by
  induction layers with
  | nil => exact fun w _ => IsShelved.pure ()
  | cons n layers ih =>
      intro w h
      have hrest : ∀ w', Shelved w w' → IsShelved (selectDevices (layers.map .created)) w' := by
        intro w' hs
        apply ih
        intro m hm
        rw [ne_eq, hs.dead]
        exact h m (List.mem_cons_of_mem n hm)
      obtain ⟨l, hl, hderef⟩ := derefLayer_live (h n List.mem_cons_self)
      rw [List.map_cons]
      unfold selectDevices IsShelved
      rw [post_bind]
      refine post_of_ok hderef ?_
      split
      · exact (isShelved_setLayer (p := .created n) hl (l.setDeviceSelect .client) rfl).bind
          fun _ w' hs => hrest w' hs
      · exact hrest w (Shelved.refl w)

theorem isShelved_setComposition (f : HdiDrmComposition → HdiDrmComposition) {α : Type} (a : α) :
    IsShelved (do
      let c ← theComposition
      setTheComposition (f c)
      return a) w := by
  unfold IsShelved
  rw [post_bind]
  apply theComposition_own.mono
  · rintro c w' ⟨rfl, -⟩
    exact Shelved.of_steady (Steady.setComposition w' (f c))
  · exact fun _ _ he => he

theorem isShelved_takeCursor (l : HdiLayer) (a : DupAnswers) : IsShelved (takeCursor l a) w := by
  unfold takeCursor IsShelved
  rw [post_bind]
  cases hb : l.mHdiBuffer with
  | none =>
      unfold derefBuffer
      rw [hb]
      exact fun he => absurd he (by simp)
  | some buf =>
      refine post_of_ok (derefBuffer_of hb) ?_
      rw [post_bind]
      apply (derefLayer_own (p := .cursor) (by simp)).mono
      · rintro cursor w' ⟨rfl, hl⟩
        rw [post_bind, post_get]
        dsimp only
        rw [post_bind, post_set]
        have hfiled : ((cursor.setLayerBuffer w'.drm (some buf.mHandle) (-1) a).2.1.setLayerRegion
            (some l.mDisplayRect)).2.filed = cursor.filed := by
          obtain ⟨buf', fd, heq, -⟩ :=
            HdiLayer.setLayerBuffer_layer w'.drm cursor (some buf.mHandle) (-1) a
          rw [heq]
          rfl
        have hset := Steady.setDrm_setLayer (p := .cursor) hl
          (cursor.setLayerBuffer w'.drm (some buf.mHandle) (-1) a).2.2 _ hfiled
        have hcursor := isShelved_setComposition
          (w := (w'.setDrm (cursor.setLayerBuffer w'.drm (some buf.mHandle) (-1) a).2.2).setLayer
            .cursor ((cursor.setLayerBuffer w'.drm (some buf.mHandle) (-1) a).2.1.setLayerRegion
              (some l.mDisplayRect)).2)
          (fun c => { c with mCursorLayers := [.cursor] }) DispStatus.success
        rw [post_bind]
        apply Post.mono hcursor
        · rintro _ w'' ⟨hs, hc⟩
          obtain ⟨hs', hc'⟩ := Shelved.of_steady hset
          exact ⟨hs'.trans hs, hc.trans hc'⟩
        · exact fun _ _ he => he
      · exact fun _ _ he => he

/-- The loop adds layers it goes over to the changes. -/
theorem collectChanges_post (a : Nat → DupAnswers) (layers : List Nat) :
    ∀ (i : Nat) (w : World), (∀ n ∈ layers, w.disp.layers n ≠ none) →
      Post (collectChanges a i layers) w
        (fun _ w' => Shelved w w' ∧
          ∀ n ∈ w'.disp.mChangeLayers, n ∈ w.disp.mChangeLayers ∨ n ∈ layers)
        (fun e _ => e ≠ .danglingLayer) := by
  induction layers with
  | nil => exact fun i w _ => ⟨Shelved.refl w, fun n hn => Or.inl hn⟩
  | cons n layers ih =>
      intro i w h
      -- the rest of the loop, from any state that has the same layers
      have hrest : ∀ w', Shelved w w' →
          (∀ m ∈ w'.disp.mChangeLayers, m ∈ w.disp.mChangeLayers ∨ m = n) →
          Post (collectChanges a (i + 1) layers) w'
            (fun _ w'' => Shelved w w'' ∧
              ∀ m ∈ w''.disp.mChangeLayers, m ∈ w.disp.mChangeLayers ∨ m ∈ n :: layers)
            (fun e _ => e ≠ .danglingLayer) := by
        intro w' hs hc
        apply (ih (i + 1) w' ?_).mono
        · rintro _ w'' ⟨hs', hc'⟩
          refine ⟨hs.trans hs', fun m hm => ?_⟩
          rcases hc' m hm with hm | hm
          · rcases hc m hm with hm | rfl
            · exact Or.inl hm
            · exact Or.inr List.mem_cons_self
          · exact Or.inr (List.mem_cons_of_mem n hm)
        · exact fun _ _ he => he
        · intro m hm
          rw [ne_eq, hs.dead]
          exact h m (List.mem_cons_of_mem n hm)
      obtain ⟨l, hl, hderef⟩ := derefLayer_live (h n List.mem_cons_self)
      have hretype : ∀ w', Shelved w w' → w'.disp.layers = w.disp.layers →
          w'.disp.mChangeLayers = w.disp.mChangeLayers → Post (do
            if l.mDeviceSelect ≠ l.mCompositionType then
              modify (·.setLayer (.created n) (l.setLayerCompositionType l.mDeviceSelect))
              modify fun w =>
                { w with disp := { w.disp with mChangeLayers := w.disp.mChangeLayers ++ [n] } }
            collectChanges a (i + 1) layers : Hal Unit) w'
            (fun _ w'' => Shelved w w'' ∧
              ∀ m ∈ w''.disp.mChangeLayers, m ∈ w.disp.mChangeLayers ∨ m ∈ n :: layers)
            (fun e _ => e ≠ .danglingLayer) := by
        intro w' hs hlayers hc
        dsimp only
        split
        · simp only [post_bind, post_modify]
          have hl' : w'.layerAt (.created n) = some l := by
            show w'.disp.layers n = some l
            rw [hlayers, hl]
          have hset := Shelved.setLayer hl' (l.setLayerCompositionType l.mDeviceSelect) rfl
          apply hrest
          · exact hs.trans (hset.trans ⟨rfl, rfl, rfl, rfl, fun _ => rfl⟩)
          · intro m hm
            rcases List.mem_append.1 hm with hm | hm
            · left
              rw [← hc]
              exact hm
            · exact Or.inr (List.mem_singleton.1 hm)
        · apply hrest w' hs
          intro m hm
          left
          rw [← hc]
          exact hm
      unfold collectChanges
      rw [post_bind]
      refine post_of_ok hderef ?_
      dsimp only
      split
      · rw [post_bind]
        apply ((isShelved_takeCursor l (a i)).and (takeCursor_layers l (a i) w)).mono
        · exact fun _ w' hpost => hretype w' hpost.1.1 hpost.2 hpost.1.2
        · exact fun _ _ he => he.1
      · exact hretype w (Shelved.refl w) rfl rfl

theorem prepareDisplayLayers_post (h : Registered w) (a : Nat → DupAnswers) :
    Post (prepareDisplayLayers a) w
      (fun _ w' => Shelved w w' ∧ ∀ n ∈ w'.disp.mChangeLayers, n ∈ w.disp.mLayers)
      (fun e _ => e ≠ .danglingLayer) := by
  have hlive := h.live_of_listed
  unfold prepareDisplayLayers
  simp only [post_bind, post_modify, post_get]
  apply (visibleLayers_post (w := { w with disp := { w.disp with mChangeLayers := [] } })
    w.disp.mLayers hlive).mono
  · rintro layers _ ⟨rfl, hsub⟩
    apply theComposition_own.mono
    · rintro c _ ⟨rfl, -⟩
      have hset : IsShelved (setLayers (layers.map .created))
          { w with disp := { w.disp with mChangeLayers := [] } } := by
        unfold setLayers
        apply IsShelved.bind
        · exact isShelved_selectDevices layers _ fun n hn => hlive n (hsub n hn)
        · intro _ w' _
          exact isShelved_setComposition (fun c => { c with mCompLayers := [.client] }) _
      apply Post.mono hset
      · rintro _ w' ⟨hs, hc⟩
        apply (collectChanges_post a layers 0 w' ?_).mono
        · rintro _ w'' ⟨hs', hc'⟩
          refine ⟨(hs.trans hs').of_cleared, fun n hn => ?_⟩
          rcases hc' n hn with hn | hn
          · rw [hc] at hn
            exact absurd hn List.not_mem_nil
          · exact hsub n hn
        · exact fun _ _ he => he
        · intro n hn
          rw [ne_eq, hs.dead]
          exact hlive n (hsub n hn)
      · exact fun _ _ he => he
    · exact fun _ _ he => he
  · exact fun _ _ he => he.elim

end

/-! ## Every operation -/

/-- What an operation does to the layers and to the changes. -/
structure Outlives (op : Op) (w w' : World) : Prop where
  registered : Registered w'
  nextLayer : w.disp.nextLayer ≤ w'.disp.nextLayer
  dead : ∀ n < w.disp.nextLayer, (w'.disp.layers n = none ↔ w.disp.layers n = none ∨
    ∃ layerId a, op = .destroyLayer layerId a ∧ w.disp.mLayersMap layerId = some n)
  kept : (∀ a, op ≠ .prepareDisplayLayers a) → w'.disp.mChangeLayers = w.disp.mChangeLayers
  renewed : ∀ a, op = .prepareDisplayLayers a →
    ∀ n ∈ w'.disp.mChangeLayers, n ∈ w.disp.mLayers

section
variable {w : World} {op : Op}

theorem Shelved.outlives {w' : World} (hs : Shelved w w') (h : Registered w)
    (hop : ∀ layerId a, op ≠ .destroyLayer layerId a)
    (hc : (∀ a, op ≠ .prepareDisplayLayers a) → w'.disp.mChangeLayers = w.disp.mChangeLayers)
    (hr : ∀ a, op = .prepareDisplayLayers a →
      ∀ n ∈ w'.disp.mChangeLayers, n ∈ w.disp.mLayers) : Outlives op w w' where
  registered := h.shelved hs
  nextLayer := hs.nextLayer.ge
  dead := by
    intro n _
    rw [hs.dead]
    refine ⟨Or.inl, ?_⟩
    rintro (hdead | ⟨layerId, a, heq, -⟩)
    · exact hdead
    · exact absurd heq (hop layerId a)
  kept := hc
  renewed := hr

/-- An operation that leaves containers and changes alone, followed by one that returns. -/
theorem IsShelved.outlives {α : Type} {m : Hal α} (hm : IsShelved m w) (h : Registered w)
    (hop : ∀ layerId a, op ≠ .destroyLayer layerId a)
    (hop' : ∀ a, op ≠ .prepareDisplayLayers a) :
    Post m w (fun _ w' => Outlives op w w') (fun e _ => e ≠ .danglingLayer) := by
  apply Post.mono hm
  · rintro a w' ⟨hs, hc⟩
    exact hs.outlives h hop (fun _ => hc) (fun a heq => absurd heq (hop' a))
  · exact fun _ _ he => he

theorem createLayer_outlives (h : Registered w) (i l : Bool) :
    Post (createLayer i l) w (fun _ w' => Outlives (.createLayer i l) w w')
      (fun e _ => e ≠ .danglingLayer) := by
  have hsame : ∀ w', Shelved w w' → w'.disp.mChangeLayers = w.disp.mChangeLayers →
      Outlives (.createLayer i l) w w' := fun w' hs hc =>
    hs.outlives h (by simp) (fun _ => hc) (by simp)
  rcases createLayer_cases h i l with ⟨ret, heq⟩ | ⟨layerIds, heq, hsub⟩ |
    ⟨id, layerIds, heq, hinv, hunused, hnew, hsets⟩ | heq
  · exact post_of_ok heq (hsame w (Shelved.refl w) rfl)
  · refine post_of_ok heq ⟨h.grow rfl hsub, le_refl _, fun n _ => ?_, fun _ => rfl, by simp⟩
    simp
  · refine post_of_ok heq ⟨h.created hinv hnew hsets, Nat.le_succ _, fun n hn => ?_, fun _ => rfl,
      by simp⟩
    simp only [World.created, World.setLayer]
    rw [Function.update_of_ne hn.ne]
    simp
  · unfold Post
    rw [heq]
    exact fun he => absurd he (by simp)

theorem setLayerZorder_outlives (h : Registered w) (layerId zorder : Nat) :
    Post (setLayerZorder layerId zorder) w
      (fun _ w' => Outlives (.setLayerZorder layerId zorder) w w')
      (fun e _ => e ≠ .danglingLayer) := by
  rcases setLayerZorder_cases h layerId zorder with ⟨ret, heq⟩ | ⟨n, l, hm, hl, heq⟩
  · exact post_of_ok heq ((Shelved.refl w).outlives h (by simp) (fun _ => rfl) (by simp))
  · refine post_of_ok heq ⟨h.rezordered hm hl, le_refl _, fun m _ => ?_, fun _ => rfl, by simp⟩
    simp only [World.rezordered, World.setLayer, Function.update_apply]
    split
    · next hmn =>
        subst hmn
        simp [hl]
    · simp

theorem destroyLayer_outlives (h : Registered w) (layerId : Nat) (a : DestroyAnswers) :
    Post (destroyLayer layerId a) w (fun _ w' => Outlives (.destroyLayer layerId a) w w')
      (fun e _ => e ≠ .danglingLayer) := by
  rcases destroyLayer_cases h layerId a with ⟨hm, heq⟩ | ⟨n, drm, hm, heq⟩
  · refine post_of_ok heq ⟨h, le_refl _, fun m _ => ?_, fun _ => rfl, by simp⟩
    refine ⟨Or.inl, ?_⟩
    rintro (hdead | ⟨layerId', a', hop, hm'⟩)
    · exact hdead
    · obtain ⟨rfl, -⟩ := Op.destroyLayer.inj hop
      exact absurd (hm.symm.trans hm') (by simp)
  · refine post_of_ok heq ⟨h.destroyed hm drm, le_refl _, fun m _ => ?_, fun _ => rfl, by simp⟩
    simp only [World.destroyed, Function.update_apply]
    constructor
    · intro hdead
      split at hdead
      · next hmn => exact Or.inr ⟨layerId, a, rfl, hmn ▸ hm⟩
      · exact Or.inl hdead
    · rintro (hdead | ⟨layerId', a', hop, hm'⟩)
      · split
        · rfl
        · exact hdead
      · obtain ⟨rfl, -⟩ := Op.destroyLayer.inj hop
        rw [if_pos (Option.some.inj (hm'.symm.trans hm))]

/-- The operation is no frame and leaves the containers alone. -/
def Op.beside : Op → Bool
  | .createLayer .. | .destroyLayer .. | .setLayerZorder .. | .prepareDisplayLayers _
  | .commit _ => false
  | .setLayerBuffer .. | .setLayerCompositionType .. | .setLayerVisible .. | .setLayerRegion ..
  | .setDisplayClientBuffer .. | .setDisplayMode _ | .getDisplayCompChange _
  | .getDisplayReleaseFence .. | .clientFd .. => true

theorem isShelved_step (h : Registered w) (hop : op.beside = true)
    (hasks : op = .getDisplayCompChange true → ∀ n ∈ w.disp.mChangeLayers, w.disp.layers n ≠ none) :
    IsShelved (step op) w := by
  unfold IsShelved
  cases op with
  | setLayerBuffer id buffer fence a =>
      show Post (_ <$> callLayerFunction id _) w _ _
      rw [post_map]
      apply isShelved_callLayerFunction h id
      intro d l
      obtain ⟨buf, fd, heq, -⟩ := HdiLayer.setLayerBuffer_layer d l buffer fence a
      rw [heq]
      rfl
  | setLayerCompositionType id type =>
      show Post (_ <$> callLayerFunction id _) w _ _
      rw [post_map]
      exact isShelved_callLayerFunction h id fun _ _ => rfl
  | setLayerVisible id visible =>
      show Post (_ <$> callLayerFunction id _) w _ _
      rw [post_map]
      exact isShelved_callLayerFunction h id fun _ _ => rfl
  | setLayerRegion id rect =>
      show Post (_ <$> callLayerFunction id _) w _ _
      rw [post_map]
      apply isShelved_callLayerFunction h id
      intro d l
      cases rect <;> rfl
  | setDisplayClientBuffer buffer fence a =>
      show Post (_ <$> setDisplayClientBuffer buffer fence a) w _ _
      rw [post_map]
      exact isShelved_setDisplayClientBuffer buffer fence a
  | setDisplayMode id => exact ⟨⟨rfl, rfl, rfl, rfl, fun _ => rfl⟩, rfl⟩
  | getDisplayCompChange arrays =>
      apply IsShelved.bind
      · unfold getDisplayCompChange IsShelved
        rw [post_bind, post_get]
        cases arrays with
        | false => exact IsShelved.pure _
        | true =>
            show Post (readChanges w.disp.mChangeLayers >>= _) w _ _
            rw [post_bind]
            apply (readChanges_post w.disp.mChangeLayers).mono
            · rintro changes w' ⟨rfl, -⟩
              exact IsShelved.pure _
            · rintro e w' ⟨-, n, hn, hdead⟩
              exact absurd hdead (hasks rfl n hn)
      · exact fun _ _ _ => IsShelved.pure _
  | getDisplayReleaseFence layers fences =>
      apply IsShelved.bind
      · unfold getDisplayReleaseFence IsShelved
        rw [post_bind, post_get]
        dsimp only
        split
        · exact IsShelved.pure _
        · exact (isShelved_readReleaseFences fences w.disp.mLayers w h.live_of_listed).bind
            fun _ _ _ => IsShelved.pure _
      · rintro ⟨ret, num, out⟩ w' _
        exact (isShelved_setDrm _).bind fun _ _ _ => IsShelved.pure _
  | clientFd fd file => exact (isShelved_setDrm _).bind fun _ _ _ => IsShelved.pure _
  | _ => exact absurd hop (by simp [Op.beside])

/-- **One operation.** When the changes are asked for, all changed layers must be alive. -/
theorem step_outlives (hwf : WellFormed w) (h : Registered w)
    (hasks : op = .getDisplayCompChange true → ∀ n ∈ w.disp.mChangeLayers, w.disp.layers n ≠ none) :
    Post (step op) w (fun _ w' => Outlives op w w') (fun e _ => e ≠ .danglingLayer) := by
  cases op with
  | createLayer i l =>
      show Post (createLayer i l >>= _) w _ _
      rw [post_bind]
      exact createLayer_outlives h i l
  | destroyLayer id a =>
      show Post (_ <$> destroyLayer id a) w _ _
      rw [post_map]
      exact destroyLayer_outlives h id a
  | setLayerZorder id z =>
      show Post (_ <$> setLayerZorder id z) w _ _
      rw [post_map]
      exact setLayerZorder_outlives h id z
  | prepareDisplayLayers a =>
      show Post (_ <$> prepareDisplayLayers a) w _ _
      rw [post_map]
      apply (prepareDisplayLayers_post h a).mono
      · rintro ret w' ⟨hs, hc⟩
        exact hs.outlives h (by simp) (fun hne => absurd rfl (hne a)) (fun _ _ => hc)
      · exact fun _ _ he => he
  | commit a =>
      refine IsShelved.outlives ?_ h (by simp) (by simp)
      apply (isShelved_commit hwf a).bind
      rintro ⟨ret, fd⟩ w' _
      exact (isShelved_setDrm _).bind fun _ _ _ => IsShelved.pure _
  | _ => exact (isShelved_step h rfl hasks).outlives h (by simp) (by simp)

/-- Every operation that returns leaves the containers in agreement. -/
theorem step_registered (hwf : WellFormed w) (h : Registered w) (op : Op) :
    Post (step op) w (fun _ w' => Registered w') (fun _ _ => True) := by
  by_cases hasks : op = .getDisplayCompChange true →
      ∀ n ∈ w.disp.mChangeLayers, w.disp.layers n ≠ none
  · exact (step_outlives hwf h hasks).mono (fun _ _ ho => ho.registered) (fun _ _ _ => trivial)
  · -- the changes are asked for with a layer gone: the call does not return
    push Not at hasks
    obtain ⟨rfl, n, hn, hdead⟩ := hasks
    show Post (readChanges w.disp.mChangeLayers >>= _ >>= _) w _ _
    simp only [post_bind]
    apply (readChanges_post w.disp.mChangeLayers).mono
    · rintro changes w' ⟨rfl, hlive⟩
      exact absurd hdead (hlive n hn)
    · exact fun _ _ _ => trivial

end

/-! ## Runs -/

/-- What holds along a run: the note says whether all changed layers are alive. -/
structure Tracked (s : World × Bool) : Prop where
  wf : WellFormed s.1
  registered : Registered s.1
  old : ∀ n ∈ s.1.disp.mChangeLayers, n < s.1.disp.nextLayer
  note : s.2 = false ↔ ∀ n ∈ s.1.disp.mChangeLayers, s.1.disp.layers n ≠ none

theorem Registered.lt_nextLayer {w : World} (h : Registered w) {n : Nat}
    (hl : w.disp.layers n ≠ none) : n < w.disp.nextLayer := by
  by_contra hge
  exact hl (h.fresh n (by omega))

theorem Tracked.outlives {s : World × Bool} (h : Tracked s) {op : Op} {w' : World}
    (hwf : WellFormed w') (ho : Outlives op s.1 w') :
    Tracked (w', noteDestroyed s.1 s.2 op) := by
  by_cases hprep : ∃ a, op = .prepareDisplayLayers a
  · obtain ⟨a, rfl⟩ := hprep
    have hlive : ∀ n ∈ w'.disp.mChangeLayers,
        s.1.disp.layers n ≠ none ∧ n < s.1.disp.nextLayer := by
      intro n hn
      have hl := h.registered.live_of_listed n (ho.renewed a rfl n hn)
      exact ⟨hl, h.registered.lt_nextLayer hl⟩
    refine ⟨hwf, ho.registered, fun n hn => (hlive n hn).2.trans_le ho.nextLayer, ?_⟩
    refine ⟨fun _ n hn hdead => ?_, fun _ => rfl⟩
    rcases (ho.dead n (hlive n hn).2).1 hdead with hd | ⟨layerId, a', heq, -⟩
    · exact (hlive n hn).1 hd
    · exact absurd heq (by simp)
  · have hc := ho.kept fun a heq => hprep ⟨a, heq⟩
    refine ⟨hwf, ho.registered, fun n hn => ?_, ?_⟩
    · rw [hc] at hn
      exact (h.old n hn).trans_le ho.nextLayer
    · -- a changed layer is alive when it was and is not the one destroyed
      have halive : (∀ n ∈ w'.disp.mChangeLayers, w'.disp.layers n ≠ none) ↔
          s.2 = false ∧ ∀ n ∈ s.1.disp.mChangeLayers, ¬ ∃ layerId a,
            op = .destroyLayer layerId a ∧ s.1.disp.mLayersMap layerId = some n := by
        rw [hc, h.note]
        constructor
        · intro hall
          refine ⟨fun n hn hdead => ?_, fun n hn hgone => ?_⟩
          · exact hall n hn ((ho.dead n (h.old n hn)).2 (Or.inl hdead))
          · exact hall n hn ((ho.dead n (h.old n hn)).2 (Or.inr hgone))
        · rintro ⟨hlive, hnone⟩ n hn hdead
          rcases (ho.dead n (h.old n hn)).1 hdead with hd | hgone
          · exact hlive n hn hd
          · exact hnone n hn hgone
      rw [halive]
      cases op with
      | prepareDisplayLayers a => exact absurd ⟨a, rfl⟩ hprep
      | destroyLayer layerId a =>
          simp only [noteDestroyed, Bool.or_eq_false_iff, decide_eq_false_iff_not]
          refine and_congr_right fun _ => ?_
          constructor
          · rintro hnot n hn ⟨layerId', a', heq, hm⟩
            obtain ⟨rfl, -⟩ := Op.destroyLayer.inj heq
            exact hnot (List.mem_map.2 ⟨n, hn, hm.symm⟩)
          · intro hall hmem
            obtain ⟨n, hn, hm⟩ := List.mem_map.1 hmem
            exact hall n hn ⟨layerId, a, rfl, hm.symm⟩
      | _ => simp [noteDestroyed]

theorem initialised_tracked {w : World} (h : Initialised w) : Tracked (w, false) := by
  obtain ⟨w₀, w₁, c, mode, d, buffer, a, ret, hfresh, hc, hdrm, hdisp, halloc, happ⟩ := h.primed
  have hsteady := (isSteady_apply a.firstFrame (w₁.primed c d buffer a.dup)).of_ok happ
  obtain ⟨hs, hchanges⟩ := Shelved.of_steady hsteady
  have hlayers : ∀ n, w.disp.layers n = none := by
    intro n
    refine (hs.dead n).2 ?_
    show w₁.disp.layers n = none
    rw [hdisp]
    exact hfresh.layers n
  have hempty : w.disp.mChangeLayers = [] := by
    rw [hchanges]
    show w₁.disp.mChangeLayers = []
    rw [hdisp]
    exact hfresh.mChangeLayers
  refine ⟨h.wellFormed, registered_empty hlayers ?_ ?_, ?_, ?_⟩
  · intro id
    rw [hs.mLayersMap]
    show w₁.disp.mLayersMap id = none
    rw [hdisp]
    exact hfresh.mLayersMap id
  · rw [hs.mLayers]
    show w₁.disp.mLayers = []
    rw [hdisp]
    exact hfresh.mLayers
  · simp [hempty]
  · simp [hempty]

theorem tracked_step {s : World × Bool} (h : Tracked s) {op : Op} (hasks : AsksInTime s op) :
    Post (noting noteDestroyed step op) s (fun _ s' => Tracked s')
      (fun e _ => e ≠ .danglingLayer) := by
  rw [post_noting]
  have hstep := step_outlives h.wf h.registered fun heq => h.note.1 (hasks heq)
  apply ((h.wf.step op).and hstep).mono
  · rintro r w' ⟨hwf', ho⟩
    exact h.outlives hwf' ho
  · exact fun _ _ he => he.2

/-- An operation dereferences no destroyed layer exactly when it asks in time. -/
theorem noDangling_iff {s : World × Bool} (h : Tracked s) (op : Op) :
    NoDangling s op ↔ AsksInTime s op := by
  constructor
  · rintro hlaw rfl
    rw [h.note]
    unfold NoDangling at hlaw
    rw [post_noting] at hlaw
    have hread : Post (readChanges s.1.disp.mChangeLayers) s.1 (fun _ _ => True)
        (fun e _ => e ≠ .danglingLayer) := by
      have hasked : Post (getDisplayCompChange true >>= fun r =>
          pure (Ret.changes r.1 r.2.1 r.2.2)) s.1 (fun _ _ => True)
          (fun e _ => e ≠ .danglingLayer) := hlaw
      simp only [post_bind, getDisplayCompChange, post_get, Bool.not_true, Bool.false_eq_true,
        if_false, post_pure] at hasked
      exact hasked
    have hboth := hread.and (readChanges_post s.1.disp.mChangeLayers)
    obtain ⟨changes, w', -, -, -, hlive⟩ :=
      (hboth.mono (fun _ _ hpost => hpost) (fun _ _ he => he.1 he.2.1)).exists_ok
    exact hlive
  · intro hasks
    exact (tracked_step h hasks).mono (fun _ _ _ => trivial) (fun _ _ he => he)

/-- **Runs.** On an initialised display no operation of a run dereferences a destroyed layer
exactly when the run never asks for the changes after it has destroyed a changed layer. -/
theorem dangling_iff {w : World} (h : Initialised w) (ops : List Op) :
    Meets (noting noteDestroyed step) NoDangling (w, false) ops ↔
      Meets (noting noteDestroyed step) AsksInTime (w, false) ops := by
  apply meets_congr (I := Tracked)
  · intro s op hs hlaw
    exact (tracked_step hs ((noDangling_iff hs op).1 hlaw)).mono (fun _ _ hpost => hpost)
      (fun _ _ _ => trivial)
  · exact fun s op hs => noDangling_iff hs op
  · exact initialised_tracked h

/-- A run that asks for the changes before the changed layer is destroyed. -/
theorem dangling_inTime :
    Meets (noting noteDestroyed step) NoDangling (smallBoot [], false)
      [.createLayer false false, .setLayerCompositionType 0 .device,
        .prepareDisplayLayers fun _ => {}, .getDisplayCompChange true, .destroyLayer 0 {},
        .getDisplayCompChange false] := by
  have hboot : Initialised (smallBoot []) :=
    smallBoot_initialised (by decide) (by decide +kernel)
  exact (dangling_iff hboot _).2 (by decide +kernel)

/-- **A destroyed layer is read.** The layer's type is changed, the layer is destroyed, and
the changes are asked for. -/
theorem dangling_destroyed :
    Initialised (smallBoot []) ∧
      ¬ Meets (noting noteDestroyed step) NoDangling (smallBoot [], false)
        [.createLayer false false, .setLayerCompositionType 0 .device,
          .prepareDisplayLayers fun _ => {}, .destroyLayer 0 {}, .getDisplayCompChange true] := by
  refine ⟨smallBoot_initialised (by decide) (by decide +kernel), fun hmeets => ?_⟩
  have hend := run_post (I := fun _ => True) (E := fun e _ => e ≠ Fault.danglingLayer)
    (fun s op _ (hlaw : NoDangling s op) => hlaw) trivial hmeets
  have hread : faults (run (noting noteDestroyed step)
      [.createLayer false false, .setLayerCompositionType 0 .device,
        .prepareDisplayLayers fun _ => {}, .destroyLayer 0 {}, .getDisplayCompChange true])
      (smallBoot [], false) (fun e => decide (e = .danglingLayer)) = true := by
    decide +kernel
  obtain ⟨e, s', hrun, he⟩ := faults_iff.1 hread
  exact hend.of_error hrun (of_decide_eq_true he)

end QemuHal
