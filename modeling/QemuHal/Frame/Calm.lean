import QemuHal.Core.Display
import QemuHal.Frame.Apply

/-!
# The operations beside `Commit`

None of them touches a `DrmGemBuffer`, the kernel's framebuffers or its record
of calls. `Calm` says what they leave alone.
-/

namespace QemuHal

open Exec

/-- No layer made by `CreateLayer` owns a `DrmGemBuffer`. -/
def World.NoneOwned (w : World) : Prop :=
  ∀ n l, w.disp.layers n = some l → l.mCurrentBuffer = none ∧ l.lastBuffer_ = none

theorem WellFormed.noneOwned {w : World} (h : WellFormed w) : w.NoneOwned := by
  intro n l hl
  have hno := h.created n l hl
  constructor
  · cases hc : l.mCurrentBuffer with
    | none => rfl
    | some b => exact absurd (Or.inl hc) (hno b)
  · cases hc : l.lastBuffer_ with
    | none => rfl
    | some b => exact absurd (Or.inr hc) (hno b)

/-- The layer keeps its objects and its fences, and a buffer if it has one. -/
structure HdiLayer.Calm (l l' : HdiLayer) : Prop where
  current : l'.mCurrentBuffer = l.mCurrentBuffer
  last : l'.lastBuffer_ = l.lastBuffer_
  fences : l'.releaseFences_ = l.releaseFences_
  buffer : l.mHdiBuffer ≠ none → l'.mHdiBuffer ≠ none

theorem HdiLayer.Calm.refl (l : HdiLayer) : l.Calm l := ⟨rfl, rfl, rfl, id⟩

theorem HdiLayer.Calm.trans {l₁ l₂ l₃ : HdiLayer} (h : l₁.Calm l₂) (h' : l₂.Calm l₃) :
    l₁.Calm l₃ :=
  ⟨h'.current.trans h.current, h'.last.trans h.last, h'.fences.trans h.fences,
    fun hb => h'.buffer (h.buffer hb)⟩

structure Parts.Calm (p p' : Parts) : Prop where
  comp : p'.comp = { p.comp with
    mCompLayers := p'.comp.mCompLayers
    mCursorLayers := p'.comp.mCursorLayers }
  compLayers : p'.comp.mCompLayers = p.comp.mCompLayers ∨ p'.comp.mCompLayers = [.client]
  cursorLayers : p'.comp.mCursorLayers = p.comp.mCursorLayers ∨
    (p'.comp.mCursorLayers = [.cursor] ∧ (p'.layer .cursor).mHdiBuffer ≠ none)
  layer : ∀ s, (p.layer s).Calm (p'.layer s)

theorem Parts.Calm.refl (p : Parts) : p.Calm p :=
  ⟨rfl, Or.inl rfl, Or.inl rfl, fun _ => HdiLayer.Calm.refl _⟩

theorem Parts.Calm.trans {p₁ p₂ p₃ : Parts} (h : p₁.Calm p₂) (h' : p₂.Calm p₃) :
    p₁.Calm p₃ where
  comp := by
    rw [h'.comp, h.comp]
  compLayers := by
    rcases h'.compLayers with e | e
    · rw [e]
      exact h.compLayers
    · exact Or.inr e
  cursorLayers := by
    rcases h'.cursorLayers with e | e
    · rcases h.cursorLayers with e' | ⟨e', hb⟩
      · exact Or.inl (e.trans e')
      · exact Or.inr ⟨e.trans e', (h'.layer .cursor).buffer hb⟩
    · exact Or.inr e
  layer := fun s => (h.layer s).trans (h'.layer s)

structure Calm (w w' : World) : Prop where
  drm : ∃ fds, w'.drm = { w.drm with fds := fds }
  parts : ∀ p : Parts, p.Of w → ∃ p' : Parts, p'.Of w' ∧ p.Calm p'
  noneOwned : w.NoneOwned → w'.NoneOwned

namespace Calm

theorem refl (w : World) : Calm w w :=
  ⟨⟨w.drm.fds, rfl⟩, fun p hp => ⟨p, hp, Parts.Calm.refl p⟩, id⟩

theorem trans {w₁ w₂ w₃ : World} (h : Calm w₁ w₂) (h' : Calm w₂ w₃) : Calm w₁ w₃ where
  drm := by
    obtain ⟨f, e⟩ := h.drm
    obtain ⟨f', e'⟩ := h'.drm
    exact ⟨f', by rw [e', e]⟩
  parts := by
    intro p hp
    obtain ⟨p₂, hp₂, hc₂⟩ := h.parts p hp
    obtain ⟨p₃, hp₃, hc₃⟩ := h'.parts p₂ hp₂
    exact ⟨p₃, hp₃, hc₂.trans hc₃⟩
  noneOwned := fun hn => h'.noneOwned (h.noneOwned hn)

theorem setDrm {w : World} {d : Drm} (hd : ∃ fds, d = { w.drm with fds := fds }) :
    Calm w (w.setDrm d) where
  drm := hd
  parts := fun p hp => ⟨p, ⟨hp.comp, by simpa using hp.layer⟩, Parts.Calm.refl p⟩
  noneOwned := id

theorem setLayer {w : World} {q : LayerRef} {l l' : HdiLayer} (hl : w.layerAt q = some l)
    (hc : l.Calm l') : Calm w (w.setLayer q l') where
  drm := ⟨w.drm.fds, by simp⟩
  parts := by
    intro p hp
    refine ⟨⟨p.comp, fun s => if s.layer = q then l' else p.layer s⟩, ⟨?_, fun s => ?_⟩,
      ⟨rfl, Or.inl rfl, Or.inl rfl, fun s => ?_⟩⟩
    · simpa using hp.comp
    · rw [World.layerAt_setLayer]
      dsimp only
      split
      · rfl
      · exact hp.layer s
    · dsimp only
      split
      · next hs =>
          subst hs
          obtain rfl := Option.some.inj ((hp.layer s).symm.trans hl)
          exact hc
      · exact HdiLayer.Calm.refl _
  noneOwned := by
    intro hn n m hm
    cases q with
    | client => exact hn n m hm
    | cursor => exact hn n m hm
    | created k =>
        simp only [World.setLayer, Function.update_apply] at hm
        split at hm
        · obtain rfl := Option.some.inj hm
          obtain ⟨h₁, h₂⟩ := hn k l hl
          exact ⟨hc.current.trans h₁, hc.last.trans h₂⟩
        · exact hn n m hm

/-- A layer made by `CreateLayer` may change but for the objects it owns. -/
theorem setCreated {w : World} {n : Nat} {l l' : HdiLayer} (hl : w.disp.layers n = some l)
    (hcur : l'.mCurrentBuffer = l.mCurrentBuffer) (hlast : l'.lastBuffer_ = l.lastBuffer_) :
    Calm w (w.setLayer (.created n) l') where
  drm := ⟨w.drm.fds, rfl⟩
  parts := by
    refine fun p hp => ⟨p, ⟨hp.comp, fun s => ?_⟩, Parts.Calm.refl p⟩
    cases s with
    | primary => exact hp.layer .primary
    | cursor => exact hp.layer .cursor
  noneOwned := by
    intro hn k m hm
    simp only [World.setLayer, Function.update_apply] at hm
    split at hm
    · obtain rfl := Option.some.inj hm
      obtain ⟨h₁, h₂⟩ := hn n l hl
      exact ⟨hcur.trans h₁, hlast.trans h₂⟩
    · exact hn k m hm

/-- Changes to the layers made by `CreateLayer` and to the fields that are no part
of a frame. -/
theorem setDisp {w w' : World} (hdrm : w'.drm = w.drm)
    (hcomp : w'.disp.mComposer = w.disp.mComposer)
    (hclient : w'.disp.mClientLayer = w.disp.mClientLayer)
    (hcursor : w'.disp.mCursorLayer = w.disp.mCursorLayer)
    (hlayers : w.NoneOwned → w'.NoneOwned) : Calm w w' where
  drm := ⟨w.drm.fds, hdrm⟩
  parts := by
    intro p hp
    refine ⟨p, ⟨hcomp.trans hp.comp, fun s => ?_⟩, Parts.Calm.refl p⟩
    have := hp.layer s
    cases s with
    | primary => exact hclient.trans this
    | cursor => exact hcursor.trans this
  noneOwned := hlayers

end Calm

/-- A calm step keeps a display well-formed. -/
theorem WellFormed.calm {w w' : World} (h : WellFormed w) (hc : Calm w w') :
    WellFormed w' := by
  obtain ⟨p, hp, hgood⟩ := h.parts
  obtain ⟨p', hp', hcalm⟩ := hc.parts p hp
  obtain ⟨fds, hdrm⟩ := hc.drm
  have howns : ∀ s b, (p'.layer s).Owns b → (p.layer s).Owns b := by
    intro s b hb
    unfold HdiLayer.Owns at hb
    rw [(hcalm.layer s).current, (hcalm.layer s).last] at hb
    exact hb
  have hcomp := hcalm.comp
  refine ⟨hdrm ▸ h.sound.setFds fds, ⟨p', hp', ?_⟩, ?_⟩
  · refine ⟨?_, ?_, ?_, ?_, (hcalm.layer _).buffer hgood.clientBuffer, ?_, fun s => ?_,
      fun s b hb => ?_, fun s b hcur hlast => ?_,
      fun s s' b hb hb' => hgood.disjoint s s' b (howns s b hb) (howns s' b hb'),
      fun s b hb => ?_⟩
    · rcases hcalm.compLayers with e | e
      · rw [e, hgood.compLayers]
      · exact e
    · rcases hcalm.cursorLayers with e | e
      · rw [e]
        exact hgood.cursorLayers
      · exact Or.inr e.1
    · rw [hcomp]
      exact hgood.planes
    · rw [hcomp]
      exact hgood.distinctPlanes
    · intro hne
      rcases hcalm.cursorLayers with e | e
      · exact (hcalm.layer _).buffer (hgood.cursorBuffer (e ▸ hne))
      · exact e.2
    · rw [(hcalm.layer s).current, hcomp]
      have := hgood.pointer s
      cases s <;> exact this
    · rw [hdrm]
      exact hgood.live s b (howns s b hb)
    · rw [(hcalm.layer s).current] at hcur
      rw [(hcalm.layer s).last] at hlast
      exact hgood.apart s b hcur hlast
    · have hb' : p.comp.lastGem s = some b := by
        rw [hcomp] at hb
        cases s <;> exact hb
      obtain ⟨hlt, hown⟩ := hgood.remembered s b hb'
      rw [hdrm]
      refine ⟨hlt, fun hne => ?_⟩
      unfold HdiLayer.Owns
      rw [(hcalm.layer s).current, (hcalm.layer s).last]
      exact hown hne
  · intro n l hl b hb
    obtain ⟨h₁, h₂⟩ := hc.noneOwned h.noneOwned n l hl
    rcases hb with hb | hb
    · rw [h₁] at hb
      exact absurd hb (by simp)
    · rw [h₂] at hb
      exact absurd hb (by simp)

/-! ## Operations -/

/-- The fault is not about a pointer the composition remembers. -/
def Fault.Elsewhere (e : Fault) : Prop := ∀ s : Slot, e ≠ s.danglingLast

theorem derefLayer_post {w : World} {p : LayerRef} {Q : HdiLayer → World → Prop}
    {E : Fault → World → Prop} (hQ : ∀ l, w.layerAt p = some l → Q l w)
    (hE : ∀ e : Fault, e.Elsewhere → E e w) : Post (derefLayer p) w Q E := by
  unfold derefLayer
  rw [post_bind, post_get]
  cases hl : w.layerAt p with
  | some l => exact hQ l hl
  | none => cases p <;> exact hE _ fun s => by cases s <;> simp [Slot.danglingLast]

theorem derefBuffer_post {w : World} {l : HdiLayer} {Q : HdiLayerBuffer → World → Prop}
    {E : Fault → World → Prop} (hQ : ∀ buf, l.mHdiBuffer = some buf → Q buf w)
    (hE : ∀ e : Fault, e.Elsewhere → E e w) : Post (derefBuffer l) w Q E := by
  unfold derefBuffer
  cases hb : l.mHdiBuffer with
  | some buf => exact hQ buf hb
  | none => exact hE _ fun s => by cases s <;> simp [Slot.danglingLast]

theorem theComposition_post {w : World} {Q : HdiDrmComposition → World → Prop}
    {E : Fault → World → Prop} (hQ : ∀ c, w.disp.mComposer = some c → Q c w)
    (hE : ∀ e : Fault, e.Elsewhere → E e w) : Post theComposition w Q E := by
  unfold theComposition
  rw [post_bind, post_get]
  cases hc : w.disp.mComposer with
  | some c => exact hQ c hc
  | none => exact hE _ fun s => by cases s <;> simp [Slot.danglingLast]

/-- The operation is calm however it ends. -/
def IsCalm {α : Type} (m : Hal α) : Prop :=
  ∀ w, w.NoneOwned →
    Post m w (fun _ w' => Calm w w') (fun e w' => e.Elsewhere ∧ Calm w w')

theorem IsCalm.bind {α β : Type} {m : Hal α} {f : α → Hal β} (hm : IsCalm m)
    (hf : ∀ a, IsCalm (f a)) : IsCalm (m >>= f) := by
  intro w hw
  rw [post_bind]
  refine (hm w hw).mono (fun a w' hc => ?_) (fun _ _ hc => hc)
  exact (hf a w' (hc.noneOwned hw)).mono (fun _ _ hc' => hc.trans hc')
    (fun _ _ he => ⟨he.1, hc.trans he.2⟩)

theorem IsCalm.pure {α : Type} (a : α) : IsCalm (pure a : Hal α) :=
  fun w _ => Calm.refl w

theorem IsCalm.map {α β : Type} {m : Hal α} {f : α → β} (hm : IsCalm m) : IsCalm (f <$> m) := by
  intro w hw
  rw [post_map]
  exact hm w hw

theorem isCalm_get : IsCalm get := fun w _ => Calm.refl w

theorem isCalm_derefLayer (p : LayerRef) : IsCalm (derefLayer p) :=
  fun w _ => derefLayer_post (fun _ _ => Calm.refl w) (fun _ he => ⟨he, Calm.refl w⟩)

theorem isCalm_theComposition : IsCalm theComposition :=
  fun w _ => theComposition_post (fun _ _ => Calm.refl w) (fun _ he => ⟨he, Calm.refl w⟩)

theorem HdiLayer.setLayerBuffer_calm (d : Drm) (l : HdiLayer) (buffer : Option BufferHandle)
    (fence : Int) (a : DupAnswers) : l.Calm (l.setLayerBuffer d buffer fence a).2.1 := by
  obtain ⟨buf, fd, heq, hbuf⟩ := HdiLayer.setLayerBuffer_layer d l buffer fence a
  rw [heq]
  refine ⟨rfl, rfl, rfl, fun hb => ?_⟩
  have := hbuf (Or.inr (Option.isSome_iff_ne_none.2 hb))
  exact Option.isSome_iff_ne_none.1 this

/-- A layer function changes one layer and the kernel's state. -/
theorem callLayerFunction_cases {w : World} (layerId : Nat)
    (f : Drm → HdiLayer → DispStatus × HdiLayer × Drm) :
    Post (callLayerFunction layerId f) w
      (fun _ w' => w' = w ∨ ∃ n l, w.disp.layers n = some l ∧
        w' = (w.setDrm (f w.drm l).2.2).setLayer (.created n) (f w.drm l).2.1)
      (fun _ _ => True) := by
  unfold callLayerFunction
  rw [post_bind, post_get]
  cases w.disp.mLayersMap layerId with
  | none => exact Or.inl rfl
  | some n =>
      dsimp only
      rw [post_bind]
      apply derefLayer_post
      · exact fun l hl => Or.inr ⟨n, l, hl, rfl⟩
      · exact fun _ _ => trivial

theorem isCalm_callLayerFunction (layerId : Nat)
    {f : Drm → HdiLayer → DispStatus × HdiLayer × Drm}
    (hf : ∀ d l, l.Calm (f d l).2.1 ∧ ∃ fds, (f d l).2.2 = { d with fds := fds }) :
    IsCalm (callLayerFunction layerId f) := by
  intro w _
  unfold callLayerFunction
  simp only [post_bind, post_get]
  cases w.disp.mLayersMap layerId with
  | none => exact Calm.refl w
  | some n =>
      simp only [post_bind]
      refine derefLayer_post (fun l hl => ?_) (fun _ he => ⟨he, Calm.refl w⟩)
      obtain ⟨hc, hd⟩ := hf w.drm l
      simp only [post_set, post_pure]
      exact (Calm.setDrm hd).trans (Calm.setLayer (by simpa using hl) hc)

theorem isCalm_setDisplayClientBuffer (buffer : Option BufferHandle) (fence : Int)
    (a : DupAnswers) : IsCalm (setDisplayClientBuffer buffer fence a) := by
  intro w _
  unfold setDisplayClientBuffer
  simp only [post_bind, post_get]
  refine derefLayer_post (fun l hl => ?_) (fun _ he => ⟨he, Calm.refl w⟩)
  simp only [post_set, post_pure]
  exact (Calm.setDrm (HdiLayer.setLayerBuffer_frame w.drm l buffer fence a)).trans
    (Calm.setLayer (by simpa using hl) (HdiLayer.setLayerBuffer_calm w.drm l buffer fence a))

theorem isCalm_setDisplayMode (modeId : Nat) : IsCalm (setDisplayMode modeId) :=
  fun _ _ => Calm.setDisp rfl rfl rfl rfl id

theorem isCalm_createLayer (i l : Bool) : IsCalm (createLayer i l) := by
  intro w _
  unfold createLayer
  cases i with
  | true => exact Calm.refl w
  | false =>
      cases l with
      | true => exact Calm.refl w
      | false =>
          simp only [Bool.false_eq_true, if_false, post_bind, post_get]
          cases w.layerIds.getIdleId invalidLayerId with
          | none => exact ⟨fun s => by cases s <;> simp [Slot.danglingLast], Calm.refl w⟩
          | some r =>
              obtain ⟨id, ids⟩ := r
              dsimp only
              split
              · exact Calm.setDisp rfl rfl rfl rfl fun h => h
              · -- the new layer owns nothing, dropped or not
                have hnew : w.NoneOwned → ∀ n l, Function.update w.disp.layers w.disp.nextLayer
                    (some { mId := id }) n = some l →
                    l.mCurrentBuffer = none ∧ l.lastBuffer_ = none := by
                  intro hw n l hl
                  rw [Function.update_apply] at hl
                  split at hl
                  · obtain rfl := Option.some.inj hl
                    exact ⟨rfl, rfl⟩
                  · exact hw n l hl
                split
                · exact Calm.setDisp rfl rfl rfl rfl hnew
                · refine Calm.setDisp rfl rfl rfl rfl fun hw n l hl => ?_
                  simp only [Function.update_apply] at hl
                  split at hl
                  · exact absurd hl (by simp)
                  · exact hw n l hl

theorem isCalm_setLayerZorder (layerId zorder : Nat) :
    IsCalm (setLayerZorder layerId zorder) := by
  intro w _
  unfold setLayerZorder
  simp only [post_bind, post_get]
  cases w.disp.mLayersMap layerId with
  | none => exact Calm.refl w
  | some n =>
      simp only [post_bind]
      refine derefLayer_post (fun l hl => ?_) (fun _ he => ⟨he, Calm.refl w⟩)
      split
      · exact Calm.refl w
      · simp only [post_bind, post_set, post_pure]
        have hz : Calm w (w.setLayer (.created n) (l.setLayerZorder zorder)) :=
          Calm.setLayer hl ⟨rfl, rfl, rfl, id⟩
        exact hz.trans (Calm.setDisp rfl rfl rfl rfl fun h => h)

theorem HdiLayer.destroy_frame {l : HdiLayer} (hc : l.mCurrentBuffer = none)
    (hlast : l.lastBuffer_ = none) (d : Drm) (a : DestroyAnswers) :
    ∃ fds, l.destroy d a = { d with fds := fds } := by
  simp only [HdiLayer.destroy, hc, hlast, Drm.destroyOwned]
  cases l.mHdiBuffer with
  | none =>
      dsimp only
      split
      · exact ⟨_, rfl⟩
      · exact ⟨d.fds, rfl⟩
  | some buf =>
      obtain ⟨fds, hbuf⟩ := buf.destroy_frame d
      dsimp only
      rw [hbuf]
      split
      · exact ⟨_, rfl⟩
      · exact ⟨fds, rfl⟩

theorem isCalm_destroyLayer (layerId : Nat) (a : DestroyAnswers) :
    IsCalm (destroyLayer layerId a) := by
  intro w hw
  unfold destroyLayer
  simp only [post_bind, post_get]
  cases w.disp.mLayersMap layerId with
  | none => exact Calm.refl w
  | some n =>
      simp only [post_bind]
      refine derefLayer_post (fun l hl => ?_) (fun _ he => ⟨he, Calm.refl w⟩)
      obtain ⟨hc, hlast⟩ := hw n l hl
      simp only [post_set, post_pure]
      refine (Calm.setDrm (HdiLayer.destroy_frame hc hlast w.drm a)).trans
        (Calm.setDisp rfl rfl rfl rfl fun hw' k m hm => ?_)
      simp only [Function.update_apply] at hm
      split at hm
      · exact absurd hm (by simp)
      · exact hw' k m hm

theorem isCalm_visibleLayers : ∀ mLayers, IsCalm (visibleLayers mLayers)
  | [] => IsCalm.pure []
  | n :: mLayers => by
      unfold visibleLayers
      exact (isCalm_derefLayer _).bind fun l =>
        (isCalm_visibleLayers mLayers).bind fun _ => by
          split
          · exact IsCalm.pure _
          · exact IsCalm.pure _

theorem isCalm_selectDevices : ∀ layers, IsCalm (selectDevices layers)
  | [] => IsCalm.pure ()
  | p :: layers => by
      intro w hw
      unfold selectDevices
      rw [post_bind]
      refine derefLayer_post (fun l hl => ?_) (fun _ he => ⟨he, Calm.refl w⟩)
      split
      · simp only [post_bind, post_modify]
        have hc : Calm w (w.setLayer p (l.setDeviceSelect .client)) :=
          Calm.setLayer hl ⟨rfl, rfl, rfl, id⟩
        exact (isCalm_selectDevices layers _ (hc.noneOwned hw)).mono
          (fun _ _ h => hc.trans h) (fun _ _ h => ⟨h.1, hc.trans h.2⟩)
      · exact isCalm_selectDevices layers w hw

/-- Changing the two layer lists of the composition is calm, if a cursor layer
that is added has a buffer. -/
theorem Calm.setComposition {w : World} {c : HdiDrmComposition}
    (hc : w.disp.mComposer = some c) {comp cursor : List LayerRef}
    (hcomp : comp = c.mCompLayers ∨ comp = [.client])
    (hcursor : cursor = c.mCursorLayers ∨
      (cursor = [.cursor] ∧ ∃ l, w.disp.mCursorLayer = some l ∧ l.mHdiBuffer ≠ none)) :
    Calm w (w.setComposition { c with mCompLayers := comp, mCursorLayers := cursor }) where
  drm := ⟨w.drm.fds, rfl⟩
  parts := by
    intro p hp
    obtain rfl := Option.some.inj (hp.comp.symm.trans hc)
    refine ⟨⟨_, p.layer⟩, ⟨rfl, by simpa using hp.layer⟩,
      ⟨rfl, hcomp, ?_, fun s => HdiLayer.Calm.refl _⟩⟩
    rcases hcursor with e | ⟨e, l, hl, hb⟩
    · exact Or.inl e
    · obtain rfl := Option.some.inj ((hp.layer .cursor).symm.trans hl)
      exact Or.inr ⟨e, hb⟩
  noneOwned := id

theorem isCalm_setLayers (layers : List LayerRef) : IsCalm (setLayers layers) := by
  unfold setLayers
  refine (isCalm_selectDevices layers).bind fun _ => ?_
  intro w _
  rw [post_bind]
  refine theComposition_post (fun c hc => ?_) (fun _ he => ⟨he, Calm.refl w⟩)
  exact Calm.setComposition hc (Or.inr rfl) (Or.inl rfl)

theorem isCalm_takeCursor (l : HdiLayer) (a : DupAnswers) : IsCalm (takeCursor l a) := by
  intro w _
  unfold takeCursor
  rw [post_bind]
  refine derefBuffer_post (fun buf _ => ?_) (fun _ he => ⟨he, Calm.refl w⟩)
  rw [post_bind]
  refine derefLayer_post (fun cursor hcursor => ?_) (fun _ he => ⟨he, Calm.refl w⟩)
  simp only [post_bind, post_get, post_set]
  -- the cursor layer gets a buffer and a rectangle
  have hset := HdiLayer.setLayerBuffer_calm w.drm cursor (some buf.mHandle) (-1) a
  have hbuf : (cursor.setLayerBuffer w.drm (some buf.mHandle) (-1) a).2.1.mHdiBuffer ≠ none := by
    obtain ⟨b, fd, heq, hb⟩ :=
      HdiLayer.setLayerBuffer_layer w.drm cursor (some buf.mHandle) (-1) a
    rw [heq]
    exact Option.isSome_iff_ne_none.1 (hb (Or.inl rfl))
  have hcalm : Calm w ((w.setDrm (cursor.setLayerBuffer w.drm (some buf.mHandle) (-1) a).2.2).setLayer
      .cursor ((cursor.setLayerBuffer w.drm (some buf.mHandle) (-1) a).2.1.setLayerRegion
        (some l.mDisplayRect)).2) :=
    (Calm.setDrm (HdiLayer.setLayerBuffer_frame _ _ _ _ _)).trans
      (Calm.setLayer (by simpa using hcursor) (hset.trans ⟨rfl, rfl, rfl, id⟩))
  unfold setCursorLayer
  simp only [post_bind]
  refine theComposition_post (fun c hc => ?_) (fun _ he => ⟨he, hcalm⟩)
  exact hcalm.trans (Calm.setComposition hc (Or.inl rfl) (Or.inr ⟨rfl, _, rfl, hbuf⟩))

theorem takeCursor_layers (l : HdiLayer) (a : DupAnswers) (w : World) :
    Post (takeCursor l a) w (fun _ w' => w'.disp.layers = w.disp.layers) (fun _ _ => True) := by
  unfold takeCursor setCursorLayer
  rw [post_bind]
  refine derefBuffer_post (fun buf _ => ?_) (fun _ _ => trivial)
  rw [post_bind]
  refine derefLayer_post (fun cursor _ => ?_) (fun _ _ => trivial)
  simp only [post_bind, post_get, post_set]
  exact theComposition_post (fun c _ => rfl) (fun _ _ => trivial)

theorem isCalm_collectChanges (a : Nat → DupAnswers) :
    ∀ i layers, IsCalm (collectChanges a i layers)
  | _, [] => IsCalm.pure ()
  | i, n :: layers => by
      intro w hw
      unfold collectChanges
      rw [post_bind]
      refine derefLayer_post (fun l hl => ?_) (fun _ he => ⟨he, Calm.refl w⟩)
      -- the second half, wherever the first half leaves the layer as it was
      have hrest : ∀ w', Calm w w' → w'.disp.layers = w.disp.layers →
          Post (do
            if l.mDeviceSelect ≠ l.mCompositionType then
              modify (·.setLayer (.created n) (l.setLayerCompositionType l.mDeviceSelect))
              modify fun w =>
                { w with disp := { w.disp with mChangeLayers := w.disp.mChangeLayers ++ [n] } }
            collectChanges a (i + 1) layers : Hal Unit) w' (fun _ w'' => Calm w w'')
            (fun e w'' => e.Elsewhere ∧ Calm w w'') := by
        intro w' hc hlayers
        have hgo : ∀ w'', Calm w w'' → Post (collectChanges a (i + 1) layers) w''
            (fun _ w₃ => Calm w w₃) (fun e w₃ => e.Elsewhere ∧ Calm w w₃) := fun w'' hc' =>
          (isCalm_collectChanges a (i + 1) layers w'' (hc'.noneOwned hw)).mono
            (fun _ _ h => hc'.trans h) (fun _ _ h => ⟨h.1, hc'.trans h.2⟩)
        dsimp only
        split
        · simp only [post_bind, post_modify]
          have hl' : w'.layerAt (.created n) = some l := by
            show w'.disp.layers n = some l
            rw [hlayers]
            exact hl
          have hset : Calm w' (w'.setLayer (.created n)
              (l.setLayerCompositionType l.mDeviceSelect)) :=
            Calm.setLayer hl' ⟨rfl, rfl, rfl, id⟩
          exact hgo _ ((hc.trans hset).trans (Calm.setDisp rfl rfl rfl rfl fun h => h))
        · exact hgo w' hc
      dsimp only
      split
      · rw [post_bind]
        exact ((isCalm_takeCursor l (a i) w hw).and (takeCursor_layers l (a i) w)).mono
          (fun _ w' h => hrest w' h.1 h.2) (fun _ _ h => h.1)
      · exact hrest w (Calm.refl w) rfl

theorem isCalm_prepareDisplayLayers (a : Nat → DupAnswers) :
    IsCalm (prepareDisplayLayers a) := by
  have hfirst : IsCalm
      (modify fun w => { w with disp := { w.disp with mChangeLayers := [] } } : Hal PUnit) :=
    fun _ _ => Calm.setDisp rfl rfl rfl rfl id
  exact hfirst.bind fun _ => isCalm_get.bind fun _ => (isCalm_visibleLayers _).bind fun _ =>
    isCalm_theComposition.bind fun _ => (isCalm_setLayers _).bind fun _ =>
      (isCalm_collectChanges a _ _).bind fun _ => IsCalm.pure _

theorem isCalm_readChanges : ∀ changes, IsCalm (readChanges changes)
  | [] => IsCalm.pure []
  | _ :: changes => (isCalm_derefLayer _).bind fun _ =>
      (isCalm_readChanges changes).bind fun _ => IsCalm.pure _

theorem isCalm_getDisplayCompChange (arrays : Bool) : IsCalm (getDisplayCompChange arrays) := by
  unfold getDisplayCompChange
  refine isCalm_get.bind fun w => ?_
  cases arrays with
  | false => exact IsCalm.pure _
  | true => exact (isCalm_readChanges _).bind fun _ => IsCalm.pure _

theorem isCalm_clientFd (fd : Int) (file : Option File) :
    IsCalm (modify fun w => w.setDrm (w.drm.clientFd fd file) : Hal PUnit) := by
  intro w _
  refine Calm.setDrm ?_
  unfold Drm.clientFd
  split
  · exact ⟨w.drm.fds, rfl⟩
  · split
    · exact ⟨w.drm.fds, rfl⟩
    · exact ⟨_, rfl⟩

theorem isCalm_popReleaseFence (n : Nat) : IsCalm (popReleaseFence (.created n)) := by
  intro w _
  unfold popReleaseFence
  rw [post_bind]
  refine derefLayer_post (fun l hl => ?_) (fun _ he => ⟨he, Calm.refl w⟩)
  simp only [post_bind, post_modify, post_pure]
  refine Calm.setCreated hl ?_ ?_ <;> unfold HdiLayer.getReleaseFenceFd <;> split <;> rfl

theorem isCalm_readReleaseFences (fences : Bool) :
    ∀ mLayers, IsCalm (readReleaseFences fences mLayers)
  | [] => IsCalm.pure []
  | n :: mLayers => by
      unfold readReleaseFences
      refine (isCalm_derefLayer _).bind fun l => ?_
      have hrest : ∀ fd : Int, IsCalm (do
          let _ ← popReleaseFence (.created n)
          let rest ← readReleaseFences fences mLayers
          return (l.mId, fd) :: rest : Hal (List (Nat × Int))) := fun fd =>
        (isCalm_popReleaseFence n).bind fun _ =>
          (isCalm_readReleaseFences fences mLayers).bind fun _ => IsCalm.pure _
      cases fences with
      | false => exact (IsCalm.pure _).bind hrest
      | true => exact (isCalm_popReleaseFence n).bind hrest

theorem Drm.handOver_frame (d : Drm) (fd : Int) :
    ∃ fds, d.handOver fd = { d with fds := fds } := ⟨_, rfl⟩

theorem isCalm_handOver (out : List (Nat × Int)) :
    IsCalm (modify fun w => w.setDrm (out.foldl (fun d e => d.handOver e.2) w.drm) :
      Hal PUnit) := by
  intro w _
  refine Calm.setDrm ?_
  have hfold : ∀ (es : List (Nat × Int)) (d : Drm),
      ∃ fds, es.foldl (fun d e => d.handOver e.2) d = { d with fds := fds } := by
    intro es
    induction es with
    | nil => exact fun d => ⟨d.fds, rfl⟩
    | cons e es ih =>
        intro d
        obtain ⟨fds, h⟩ := ih (d.handOver e.2)
        exact ⟨fds, h⟩
  exact hfold out w.drm

theorem isCalm_getDisplayReleaseFence (layers fences : Bool) :
    IsCalm (getDisplayReleaseFence layers fences) := by
  unfold getDisplayReleaseFence
  refine isCalm_get.bind fun w => ?_
  dsimp only
  split
  · exact IsCalm.pure _
  · exact (isCalm_readReleaseFences _ _).bind fun _ => IsCalm.pure _

/-- **Every operation of a client but `Commit` is calm.** -/
theorem isCalm_step (op : Op) (h : ∀ a, op ≠ .commit a) : IsCalm (step op) := by
  cases op with
  | createLayer i l => exact (isCalm_createLayer i l).bind fun _ => IsCalm.pure _
  | destroyLayer id a => exact (isCalm_destroyLayer id a).map
  | setLayerZorder id z => exact (isCalm_setLayerZorder id z).map
  | setLayerBuffer id buffer fence a =>
      exact (isCalm_callLayerFunction id fun d l =>
        ⟨HdiLayer.setLayerBuffer_calm d l buffer fence a,
          HdiLayer.setLayerBuffer_frame d l buffer fence a⟩).map
  | setLayerCompositionType id type =>
      exact (isCalm_callLayerFunction id fun d _ => ⟨⟨rfl, rfl, rfl, fun h => h⟩, d.fds, rfl⟩).map
  | setLayerVisible id visible =>
      exact (isCalm_callLayerFunction id fun d _ => ⟨⟨rfl, rfl, rfl, fun h => h⟩, d.fds, rfl⟩).map
  | setLayerRegion id rect =>
      refine (isCalm_callLayerFunction id fun d l => ⟨?_, d.fds, rfl⟩).map
      cases rect <;> exact ⟨rfl, rfl, rfl, fun h => h⟩
  | setDisplayClientBuffer buffer fence a =>
      exact (isCalm_setDisplayClientBuffer buffer fence a).map
  | setDisplayMode id => exact (isCalm_setDisplayMode id).map
  | prepareDisplayLayers a => exact (isCalm_prepareDisplayLayers a).map
  | commit a => exact absurd rfl (h a)
  | getDisplayCompChange arrays =>
      exact (isCalm_getDisplayCompChange arrays).bind fun _ => IsCalm.pure _
  | getDisplayReleaseFence layers fences =>
      exact (isCalm_getDisplayReleaseFence layers fences).bind fun r =>
        (isCalm_handOver r.2.2).bind fun _ => IsCalm.pure _
  | clientFd fd file => exact (isCalm_clientFd fd file).bind fun _ => IsCalm.pure _

end QemuHal
