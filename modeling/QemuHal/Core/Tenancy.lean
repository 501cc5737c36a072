import QemuHal.Core.Descriptors

/-!
# The descriptors over a run

Preparing a frame renews the buffer of the display's cursor layer, once for each visible
cursor layer and last with the last of them; a commit queues its fence and hands one out.
With these, every operation of a display keeps each descriptor with its one holder.
-/

namespace QemuHal

open Exec Tenure

/-! ## The cursor layer taken over -/

namespace World

def isCursor (w : World) (n : Nat) : Bool :=
  match w.disp.layers n with
  | some l => decide (l.mCompositionType = .cursor)
  | none => false

/-- The last of these layers that is a cursor layer. -/
def lastCursor (w : World) (ns : List Nat) : Option Nat := (ns.filter w.isCursor).getLast?

/-- The layer whose buffer `PrepareDisplayLayers` leaves in the cursor layer of the display. -/
def cursorTaken (w : World) : Option Nat := w.lastCursor w.visible

theorem isCursor_congr {w w' : World} {n : Nat}
    (h : (w'.disp.layers n).map HdiLayer.looks = (w.disp.layers n).map HdiLayer.looks) :
    w'.isCursor n = w.isCursor n := by
  unfold isCursor
  cases hl : w.disp.layers n with
  | none =>
      rw [hl, Option.map_none, Option.map_eq_none_iff] at h
      rw [h]
  | some l =>
      rw [hl, Option.map_some, Option.map_eq_some_iff] at h
      obtain ⟨l', hl', hlooks⟩ := h
      have htype : l'.mCompositionType = l.mCompositionType := congrArg Prod.fst hlooks
      rw [hl']
      simp only [htype]

theorem lastCursor_congr {w w' : World} {ns : List Nat} (h : ∀ n ∈ ns,
    (w'.disp.layers n).map HdiLayer.looks = (w.disp.layers n).map HdiLayer.looks) :
    w'.lastCursor ns = w.lastCursor ns := by
  unfold lastCursor
  congr 1
  apply List.filter_congr
  exact fun n hn => isCursor_congr (h n hn)

theorem lastCursor_cons (w : World) (n : Nat) (ns : List Nat) :
    w.lastCursor (n :: ns) =
      (w.lastCursor ns).or (if w.isCursor n then some n else none) := by
  unfold lastCursor
  rw [List.filter_cons]
  split
  · rw [List.getLast?_cons]
    cases (ns.filter w.isCursor).getLast? <;> rfl
  · simp

theorem mem_of_lastCursor {w : World} {ns : List Nat} {n : Nat} (h : w.lastCursor ns = some n) :
    n ∈ ns := List.mem_of_mem_filter (List.mem_of_getLast? h)

end World

/-- The kernel gives the number to none of the duplicates. -/
def Spared (a : Nat → DupAnswers) (count : Nat) (f : Int) : Prop :=
  ∀ i < count, (a i).buffer ≠ some f

instance (a : Nat → DupAnswers) (count : Nat) (f : Int) : Decidable (Spared a count f) :=
  inferInstanceAs (Decidable (∀ i < count, (a i).buffer ≠ some f))

/-- What the duplicate in the layer's buffer object denotes, if it denotes a dma-buf, is
`source`. -/
def World.BufferFrom (w : World) (p : LayerRef) (source : Option Nat) : Prop :=
  ∀ l ∈ w.layerAt p, ∀ b, w.drm.dmaBufAt (l.fdOf .buffer) = some b → source = some b

section
variable {spare : Int → Prop} {touched : LayerRef → Prop} {w w' : World}

theorem Drm.dmaBufAt_congr {d d' : Drm} {fd : Int} (h : d'.fds fd = d.fds fd) :
    d'.dmaBufAt fd = d.dmaBufAt fd := by
  unfold dmaBufAt
  rw [h]

/-- A number that is negative denotes nothing. -/
theorem Tenants.dmaBufAt_neg (h : Tenants spare w) {fd : Int} (hneg : fd < 0) :
    w.drm.dmaBufAt fd = none := by
  unfold Drm.dmaBufAt
  rw [h.numbered fd hneg]

/-- An untouched layer has a buffer that denotes the same. -/
theorem Untouched.dmaBufAt {p : LayerRef} (hu : Untouched p w w') (h : Tenants spare w)
    (h' : Tenants spare w') {l' : HdiLayer} (hl' : w'.layerAt p = some l') :
    ∃ l, w.layerAt p = some l ∧ l'.deeds = l.deeds ∧
      w'.drm.dmaBufAt (l'.fdOf .buffer) = w.drm.dmaBufAt (l.fdOf .buffer) := by
  have hdeeds := hu.deeds
  rw [hl', Option.map_some] at hdeeds
  obtain ⟨l, hl, heq⟩ := Option.map_eq_some_iff.1 hdeeds.symm
  refine ⟨l, hl, heq.symm, ?_⟩
  rw [HdiLayer.fdOf_congr heq.symm]
  by_cases hpos : 0 ≤ l.fdOf .buffer
  · exact Drm.dmaBufAt_congr (hu.entry .buffer _ ((World.holds_layer hl _ _).2 ⟨hpos, rfl⟩))
  · rw [h.dmaBufAt_neg (by omega), h'.dmaBufAt_neg (by omega)]

theorem World.BufferFrom.untouched {p : LayerRef} {source : Option Nat}
    (hf : w.BufferFrom p source) (h : Tenants spare w) (h' : Tenants spare w')
    (hu : Untouched p w w') : w'.BufferFrom p source := by
  intro l' hl' b hb
  obtain ⟨l, hl, -, heq⟩ := hu.dmaBufAt h h' hl'
  rw [heq] at hb
  exact hf l hl b hb

/-- The buffer of a layer, once renewed, denotes what the number in the handle did. -/
theorem Tenants.rebuffer_from (h : Tenants spare w) {p : LayerRef} {l : HdiLayer}
    (hl : w.layerAt p = some l) (hdl : BufferHandle) (answer : Option Int) :
    (w.rebuffer p l hdl answer).BufferFrom p (w.drm.dmaBufAt hdl.fd) := by
  have htenants := (h.rebuffer hl hdl answer).1.tenants
  intro k hk b hb
  rw [World.rebuffer_layerAt] at hk
  obtain rfl := Option.some.inj hk
  by_cases hpos : 0 ≤ (l.rebuffered w.drm hdl answer).fdOf .buffer
  · obtain ⟨⟨file, hal⟩, he, hentry⟩ := (h.renewed hl .buffer hdl.fd answer).entry hpos
    have hentry : (w.rebuffer p l hdl answer).drm.fds ((l.rebuffered w.drm hdl answer).fdOf .buffer) =
        some ⟨file, true⟩ := by
      rw [World.rebuffer_drm]
      exact hentry
    unfold Drm.dmaBufAt at hb ⊢
    rw [hentry] at hb
    rw [he]
    cases file <;> exact hb
  · rw [htenants.dmaBufAt_neg (by omega)] at hb
    exact absurd hb (by simp)

/-- Renewing its fence leaves the buffer of a layer alone. -/
theorem Tenants.refence_from (h : Tenants spare w) {p : LayerRef} {l : HdiLayer}
    (hl : w.layerAt p = some l) {source : Option Nat} (hf : w.BufferFrom p source) (fence : Int)
    (answer : Option Int) : (w.refence p l fence answer).BufferFrom p source := by
  obtain ⟨hhandled, hkept⟩ := h.refence hl fence answer
  intro k hk b hb
  rw [World.refence_layerAt] at hk
  obtain rfl := Option.some.inj hk
  have hfd : (l.refenced w.drm fence answer).fdOf .buffer = l.fdOf .buffer := rfl
  rw [hfd] at hb
  by_cases hpos : 0 ≤ l.fdOf .buffer
  · have hentry : (w.refence p l fence answer).drm.fds (l.fdOf .buffer) =
        w.drm.fds (l.fdOf .buffer) := by
      rw [World.refence_drm]
      exact hkept (.layer p .buffer) (by simp) _ ((World.holds_layer hl _ _).2 ⟨hpos, rfl⟩)
    rw [Drm.dmaBufAt_congr hentry] at hb
    exact hf l hl b hb
  · rw [hhandled.tenants.dmaBufAt_neg (by omega)] at hb
    exact absurd hb (by simp)

/-- **`SetLayerBuffer`** keeps what the number in the handle denotes. -/
theorem Tenants.setLayerBuffer_from (h : Tenants spare w) {p : LayerRef} {l : HdiLayer}
    (hl : w.layerAt p = some l) (hdl : BufferHandle) (fence : Int) (a : DupAnswers) :
    ((w.setDrm (l.setLayerBuffer w.drm (some hdl) fence a).2.2).setLayer p
      (l.setLayerBuffer w.drm (some hdl) fence a).2.1).BufferFrom p (w.drm.dmaBufAt hdl.fd) := by
  rw [World.setLayerBuffer_eq]
  have hfrom := h.rebuffer_from hl hdl a.buffer
  split
  · exact (h.rebuffer hl hdl a.buffer).1.tenants.refence_from (World.rebuffer_layerAt w p l hdl a.buffer)
      hfrom fence a.fence
  · exact hfrom

/-- One round of the loop of `PrepareDisplayLayers`, for the layer `l` with number `n`. -/
structure CursorRound (spare : Int → Prop) (a : Nat → DupAnswers) (count n : Nat) (l : HdiLayer)
    (w w' : World) : Prop where
  handled : Handled spare (· = .cursor) w w'
  layers : ∀ m, m ≠ n → w'.disp.layers m = w.disp.layers m
  fence : ∀ c' ∈ w'.disp.mCursorLayer, ∃ c ∈ w.disp.mCursorLayer,
    c'.mAcquireFence = c.mAcquireFence
  spared : ∀ f, Spared a count f → w'.drm.fds f = none ∨ w'.drm.fds f = w.drm.fds f
  skipped : l.mCompositionType ≠ .cursor → Untouched .cursor w w'
  taken : l.mCompositionType = .cursor → ∃ buf ∈ l.mHdiBuffer,
    w'.BufferFrom .cursor (w.drm.dmaBufAt buf.mHandle.fd)

/-- The buffer of a cursor layer is duplicated anew from the number in its handle. -/
theorem takeCursor_round (h : Tenants spare w) {a : Nat → DupAnswers} {count i : Nat}
    (hi : i < count) (n : Nat) {l : HdiLayer} (htype : l.mCompositionType = .cursor) :
    Post (takeCursor l (a i)) w (fun _ w' => CursorRound spare a count n l w w')
      (fun _ _ => True) := by
  unfold takeCursor setCursorLayer
  rw [post_bind]
  apply derefBuffer_post
  · intro buf hbuf
    rw [post_bind]
    apply derefLayer_post
    · intro c hc
      have hc : w.layerAt .cursor = some c := hc
      have hset : c.setLayerBuffer w.drm (some buf.mHandle) (-1) (a i) =
          (.success, c.rebuffered w.drm buf.mHandle (a i).buffer,
            c.bufferDrm w.drm buf.mHandle (a i).buffer) := by
        rw [HdiLayer.setLayerBuffer_eq, if_neg (by decide)]
      have hrenewed := h.renewed hc .buffer buf.mHandle.fd (a i).buffer
      set c' := ((c.rebuffered w.drm buf.mHandle (a i).buffer).setLayerRegion
        (some l.mDisplayRect)).2 with hc'
      set d := c.bufferDrm w.drm buf.mHandle (a i).buffer with hd
      have hrenew : Handled spare (· = .cursor) w ((w.setDrm d).setLayer .cursor c') := by
        have hnumber : c'.fdOf .buffer =
            (w.drm.renew buf.mHandle.fd (a i).buffer (c.fdOf .buffer)).1 := rfl
        refine (h.renew hc .buffer buf.mHandle.fd (a i).buffer hnumber (fun m hm => ?_) rfl).1
        cases m with
        | buffer => exact absurd rfl hm
        | acquireFence => rfl
      simp only [hset, post_bind, post_get, post_set]
      apply theComposition_post
      · intro comp _
        unfold setTheComposition
        simp only [post_modify, post_pure]
        set w₁ := (w.setDrm d).setLayer .cursor c' with hw₁
        refine ⟨hrenew.trans (hrenew.tenants.congr (World.setComposition_layerAt _ _) rfl),
          fun _ _ => rfl, ?_, fun f hf => hrenewed.stray (hf i hi), fun hno => absurd htype hno,
          fun _ => ⟨buf, hbuf, ?_⟩⟩
        · rintro k hk
          obtain rfl := Option.some.inj (show some c' = some k from hk)
          exact ⟨c, hc, rfl⟩
        · intro k hk
          obtain rfl := Option.some.inj (show some c' = some k from hk)
          exact h.rebuffer_from hc buf.mHandle (a i).buffer (c.rebuffered w.drm buf.mHandle (a i).buffer)
            (World.rebuffer_layerAt w .cursor c buf.mHandle (a i).buffer)
      · exact fun _ _ => trivial
    · exact fun _ _ => trivial
  · exact fun _ _ => trivial

/-- The cursor layer once the layers `ns` have been gone over. -/
structure CursorAfter (a : Nat → DupAnswers) (count : Nat) (ns : List Nat) (w w' : World) :
    Prop where
  fence : ∀ c' ∈ w'.disp.mCursorLayer, ∃ c ∈ w.disp.mCursorLayer,
    c'.mAcquireFence = c.mAcquireFence
  skipped : w.lastCursor ns = none → Untouched .cursor w w'
  taken : ∀ n ∈ w.lastCursor ns, ∃ l ∈ w.disp.layers n, ∃ buf ∈ l.mHdiBuffer,
    Spared a count buf.mHandle.fd → w'.BufferFrom .cursor (w.drm.dmaBufAt buf.mHandle.fd)

/-- A round and the rounds after it. -/
theorem CursorRound.before {a : Nat → DupAnswers} {count n : Nat} {l : HdiLayer} {ns : List Nat}
    {w₁ : World} (hr : CursorRound spare a count n l w w₁)
    (hl : w.disp.layers n = some l) (hnew : n ∉ ns) (h' : Tenants spare w')
    (hrest : CursorAfter a count ns w₁ w') : CursorAfter a count (n :: ns) w w' := by
  have hsame : ∀ m ∈ ns, w₁.disp.layers m = w.disp.layers m :=
    fun m hm => hr.layers m fun heq => hnew (heq ▸ hm)
  have hlast : w₁.lastCursor ns = w.lastCursor ns :=
    World.lastCursor_congr fun m hm => by rw [hsame m hm]
  have hcursor : w.isCursor n = decide (l.mCompositionType = .cursor) := by
    unfold World.isCursor
    rw [hl]
  refine ⟨fun c' hc' => ?_, fun hnone => ?_, fun m hm => ?_⟩
  · obtain ⟨c₁, hc₁, heq⟩ := hrest.fence c' hc'
    obtain ⟨c, hc, heq'⟩ := hr.fence c₁ hc₁
    exact ⟨c, hc, heq.trans heq'⟩
  · rw [World.lastCursor_cons, Option.or_eq_none_iff] at hnone
    have htype : l.mCompositionType ≠ .cursor := by
      intro heq
      rw [hcursor, decide_eq_true heq, if_pos rfl] at hnone
      exact absurd hnone.2 (by simp)
    exact (hr.skipped htype).trans (hrest.skipped (hlast.trans hnone.1))
  · rw [World.lastCursor_cons, Option.mem_def, Option.or_eq_some_iff] at hm
    rcases hm with hm | ⟨hnone, hm⟩
    · -- a later layer is taken over
      have hmem : m ∈ ns := World.mem_of_lastCursor hm
      obtain ⟨k, hk, buf, hbuf, hlater⟩ := hrest.taken m (hlast.trans hm)
      refine ⟨k, (hsame m hmem).symm.trans hk, buf, hbuf, fun hspared => ?_⟩
      rcases hr.spared _ hspared with hclosed | hfd
      · intro c hc b hb
        have hnothing : w₁.drm.dmaBufAt buf.mHandle.fd = none := by
          unfold Drm.dmaBufAt
          rw [hclosed]
        exact absurd ((hlater hspared c hc b hb).symm.trans hnothing) (by simp)
      · rw [← Drm.dmaBufAt_congr hfd]
        exact hlater hspared
    · -- this layer is the last one
      by_cases htype : l.mCompositionType = .cursor
      · rw [hcursor, decide_eq_true htype, if_pos rfl] at hm
        obtain rfl := Option.some.inj hm
        obtain ⟨buf, hbuf, hfrom⟩ := hr.taken htype
        exact ⟨l, hl, buf, hbuf, fun _ => hfrom.untouched hr.handled.tenants h'
          (hrest.skipped (hlast.trans hnone))⟩
      · rw [hcursor, decide_eq_false htype] at hm
        exact absurd hm (by simp)

/-- The layer may get its new type in the round. -/
theorem CursorRound.retyped {a : Nat → DupAnswers} {count n : Nat} {l k : HdiLayer}
    (hr : CursorRound spare a count n l w w') (hk : w'.disp.layers n = some k)
    (type : CompositionType) (changes : List Nat) :
    CursorRound spare a count n l w
      { w'.setLayer (.created n) (k.setLayerCompositionType type) with
        disp := { (w'.setLayer (.created n) (k.setLayerCompositionType type)).disp with
          mChangeLayers := changes } } := by
  have hset : Handled spare (· = .cursor) w' (w'.setLayer (.created n)
      (k.setLayerCompositionType type)) :=
    hr.handled.tenants.setSame (p := .created n) hk rfl rfl
  have hchanged : Handled spare (· = .cursor) (w'.setLayer (.created n)
      (k.setLayerCompositionType type)) { w'.setLayer (.created n) (k.setLayerCompositionType type) with
        disp := { (w'.setLayer (.created n) (k.setLayerCompositionType type)).disp with
          mChangeLayers := changes } } :=
    hset.tenants.congr (fun p => by cases p <;> rfl) rfl
  refine ⟨hr.handled.trans (hset.trans hchanged), fun m hm => ?_, hr.fence, hr.spared, fun htype => ?_,
    hr.taken⟩
  · exact (Function.update_of_ne hm _ _).trans (hr.layers m hm)
  · exact (hr.skipped htype).trans ⟨rfl, fun _ _ _ => rfl⟩

/-- **The loop of `PrepareDisplayLayers`** leaves the buffer of the last cursor layer in the
cursor layer of the display. The induction is on the layers still to come; `spared` of a
round carries what their numbers denote past the duplicates made on the way. -/
theorem collectChanges_cursor (a : Nat → DupAnswers) (count : Nat) (ns : List Nat)
    (hnodup : ns.Nodup) :
    ∀ (i : Nat) (w : World), i + ns.length ≤ count → Tenants spare w →
      (∀ n ∈ ns, w.disp.layers n ≠ none) →
      Post (collectChanges a i ns) w (fun _ w' => Handled spare (· = .cursor) w w' ∧
        CursorAfter a count ns w w') (fun _ _ => True) := by
  induction ns with
  | nil =>
      intro i w _ h _
      refine ⟨Handled.refl h, fun c hc => ⟨c, hc, rfl⟩, fun _ => Untouched.refl _ _, ?_⟩
      exact fun n hn => absurd hn (by simp [World.lastCursor])
  | cons n ns ih =>
      intro i w hi h hlive
      obtain ⟨hnew, hnodup⟩ := List.nodup_cons.1 hnodup
      obtain ⟨l, hl, hderef⟩ := derefLayer_live (hlive n List.mem_cons_self)
      rw [List.length_cons] at hi
      -- the layers still to come, once this one is dealt with
      have hrest : ∀ w₁, CursorRound spare a count n l w w₁ →
          Post (collectChanges a (i + 1) ns) w₁ (fun _ w' => Handled spare (· = .cursor) w w' ∧
            CursorAfter a count (n :: ns) w w') (fun _ _ => True) := by
        intro w₁ hr
        apply (ih hnodup (i + 1) w₁ (by omega) hr.handled.tenants ?_).mono
        · rintro _ w' ⟨hhandled, hafter⟩
          exact ⟨hr.handled.trans hhandled,
            hr.before hl hnew hhandled.tenants hafter⟩
        · exact fun _ _ _ => trivial
        · intro m hm
          rw [hr.layers m fun heq => hnew (heq ▸ hm)]
          exact hlive m (List.mem_cons_of_mem n hm)
      have hretype : ∀ w₁, CursorRound spare a count n l w w₁ → w₁.disp.layers = w.disp.layers →
          Post (do
            if l.mDeviceSelect ≠ l.mCompositionType then
              modify (·.setLayer (.created n) (l.setLayerCompositionType l.mDeviceSelect))
              modify fun w =>
                { w with disp := { w.disp with mChangeLayers := w.disp.mChangeLayers ++ [n] } }
            collectChanges a (i + 1) ns : Hal Unit) w₁
            (fun _ w' => Handled spare (· = .cursor) w w' ∧ CursorAfter a count (n :: ns) w w')
            (fun _ _ => True) := by
        intro w₁ hr hlayers
        dsimp only
        split
        · simp only [post_bind, post_modify]
          apply hrest
          exact hr.retyped (by rw [hlayers, hl]) _ _
        · exact hrest w₁ hr
      unfold collectChanges
      rw [post_bind]
      refine post_of_ok hderef ?_
      dsimp only
      split
      · next htype =>
          rw [post_bind]
          have hi' : i < count := by omega
          apply ((takeCursor_round h hi' n htype).and (takeCursor_layers l (a i) w)).mono
          · exact fun _ w₁ hw => hretype w₁ hw.1 hw.2
          · exact fun _ _ _ => trivial
      · next htype =>
          apply hretype w _ rfl
          exact ⟨Handled.refl h, fun _ _ => rfl, fun c hc => ⟨c, hc, rfl⟩,
            fun _ _ => Or.inr rfl, fun _ => Untouched.refl _ _, fun heq => absurd heq htype⟩

/-! ## `PrepareDisplayLayers` -/

/-- The selection of devices touches no descriptor and no layer's type or buffer. -/
theorem selectDevices_handled (ns : List Nat) (w : World) (h : Tenants spare w)
    (hlive : ∀ n ∈ ns, w.disp.layers n ≠ none) :
    Post (selectDevices (ns.map .created)) w
      (fun _ w' => Handled spare touched w w' ∧ w'.drm = w.drm ∧
        w'.disp.mCursorLayer = w.disp.mCursorLayer ∧
        ∀ n, (w'.disp.layers n).map HdiLayer.looks = (w.disp.layers n).map HdiLayer.looks)
      (fun _ _ => True) := by
  have hset : ∀ v n l, (Handled spare touched w v ∧ v.drm = w.drm ∧
      v.disp.mCursorLayer = w.disp.mCursorLayer) → v.disp.layers n = some l →
      Handled spare touched w (v.setLayer (.created n) (l.setDeviceSelect .client)) ∧
        v.drm = w.drm ∧ v.disp.mCursorLayer = w.disp.mCursorLayer := by
    rintro v n l ⟨hhandled, hsame⟩ hl
    exact ⟨hhandled.trans (hhandled.tenants.setSame (p := .created n) hl rfl rfl), hsame⟩
  apply (selectDevices_post hset ns w ⟨Handled.refl h, rfl, rfl⟩ hlive).mono
  · rintro _ w' ⟨⟨hhandled, hdrm, hcursor⟩, hlooks⟩
    exact ⟨hhandled, hdrm, hcursor, hlooks⟩
  · exact fun _ _ he => he.elim

/-- **`PrepareDisplayLayers`** works on the cursor layer of the display only. -/
theorem prepareDisplayLayers_handled (hreg : Registered w) (h : Tenants spare w)
    (a : Nat → DupAnswers) :
    Post (prepareDisplayLayers a) w (fun _ w' => Handled spare (· = .cursor) w w' ∧
      CursorAfter a w.visible.length w.visible w w') (fun _ _ => True) := by
  have hlive : ∀ n ∈ w.visible, w.disp.layers n ≠ none :=
    fun n hn => hreg.live_of_listed n (List.mem_of_mem_filter hn)
  let cleared : World := { w with disp := { w.disp with mChangeLayers := [] } }
  have hvisible : visibleLayers w.disp.mLayers cleared = .ok w.visible cleared :=
    visibleLayers_eq (w := cleared) w.disp.mLayers hreg.live_of_listed
  have hcleared : Handled spare (· = .cursor) w cleared :=
    h.congr (fun p => by cases p <;> rfl) rfl
  unfold prepareDisplayLayers
  simp only [post_bind, post_modify, post_get]
  refine post_of_ok hvisible ?_
  apply theComposition_post
  · intro c _
    unfold setLayers
    simp only [post_bind]
    have hselect : Post (selectDevices (w.visible.map .created)) cleared
        (fun _ w' => Handled spare (· = .cursor) cleared w' ∧ w'.drm = cleared.drm ∧
          w'.disp.mCursorLayer = cleared.disp.mCursorLayer ∧ ∀ n,
            (w'.disp.layers n).map HdiLayer.looks = (cleared.disp.layers n).map HdiLayer.looks)
        (fun _ _ => True) := selectDevices_handled w.visible cleared hcleared.tenants hlive
    apply hselect.mono
    · rintro _ w₁ ⟨hselected, hdrm, hcursor, hlooks⟩
      apply theComposition_post
      · intro c₁ _
        unfold setTheComposition
        simp only [post_modify, post_pure]
        set w₂ := w₁.setComposition { c₁ with mCompLayers := [.client] } with hw₂
        have hcomposed : Handled spare (· = .cursor) w₁ w₂ :=
          hselected.tenants.congr (World.setComposition_layerAt _ _) rfl
        have hbefore : Handled spare (· = .cursor) w w₂ :=
          hcleared.trans (hselected.trans hcomposed)
        have hlooks' : ∀ n, (w₂.disp.layers n).map HdiLayer.looks =
            (w.disp.layers n).map HdiLayer.looks := hlooks
        have hlast : w₂.lastCursor w.visible = w.lastCursor w.visible :=
          World.lastCursor_congr fun n _ => hlooks' n
        have hfds : w₂.drm.fds = w.drm.fds := congrArg Drm.fds hdrm
        have hcursor' : w₂.disp.mCursorLayer = w.disp.mCursorLayer := hcursor
        apply (collectChanges_cursor a w.visible.length w.visible (hreg.listed.nodup.filter _) 0 w₂
          (by omega) hbefore.tenants ?_).mono
        · rintro _ w' ⟨hhandled, hafter⟩
          refine ⟨hbefore.trans hhandled, fun k hk => ?_, fun hnone => ?_, ?_⟩
          · rw [← hcursor']
            exact hafter.fence k hk
          · have hsame : Untouched .cursor w w₂ :=
              ⟨congrArg (Option.map HdiLayer.deeds) hcursor', fun _ _ _ => by rw [hfds]⟩
            exact hsame.trans (hafter.skipped (hlast.trans hnone))
          · intro n hn
            obtain ⟨l', hl', buf, hbuf, hfrom⟩ := hafter.taken n (hlast.trans hn)
            have hn' := hlooks' n
            rw [Option.mem_def.1 hl', Option.map_some] at hn'
            obtain ⟨l, hl, heq⟩ := Option.map_eq_some_iff.1 hn'.symm
            have hfd : w₂.drm.fds buf.mHandle.fd = w.drm.fds buf.mHandle.fd := by rw [hfds]
            refine ⟨l, hl, buf, (congrArg Prod.snd heq).trans hbuf, fun hspared => ?_⟩
            rw [← Drm.dmaBufAt_congr hfd]
            exact hfrom hspared
        · exact fun _ _ _ => trivial
        · intro n hn hdead
          have hn' := hlooks' n
          rw [hdead, Option.map_none] at hn'
          exact hlive n hn (Option.map_eq_none_iff.1 hn'.symm)
      · exact fun _ _ => trivial
    · exact fun _ _ _ => trivial
  · exact fun _ _ => trivial

/-! ## The queue of the client layer -/

/-- The fence is queued in the client layer. -/
def World.Queued (w : World) (fd : Int) : Prop := ∃ l ∈ w.disp.mClientLayer, fd ∈ l.releaseFences_

/-- One number enters or leaves the queue of the client layer, and with it the table. -/
theorem Tenants.requeued (h : Tenants spare w) (n : Int)
    (hdeeds : ∀ p, (w'.layerAt p).map HdiLayer.deeds = (w.layerAt p).map HdiLayer.deeds)
    (hothers : ∀ m, m ≠ n → (w'.Queued m ↔ w.Queued m)) (hfds : ∀ m, m ≠ n →
      w'.drm.fds m = w.drm.fds m)
    (hnew : w'.Queued n → w.drm.fds n = none ∧ w'.drm.Ours n)
    (hold : w.Queued n → ¬ w'.drm.Ours n) (hone : w.Queued n ∨ w'.Queued n) (hpos : 0 ≤ n)
    (hqueue : ∀ l ∈ w'.disp.mClientLayer, l.releaseFences_.Nodup)
    (hidle : ∀ m, ∀ l ∈ w'.disp.layers m, l.releaseFences_ = []) :
    Handled spare touched w w' := by
  have hturn : Turn (fun e : FdEntry => e.hal = true) (.releaseFence n) w.Holds w'.Holds
      w.drm.fds w'.drm.fds := by
    constructor
    · rintro (⟨p, m⟩ | m) hm r
      · exact World.holds_of_deeds (hdeeds p) m r
      · have hmn : m ≠ n := fun heq => hm (heq ▸ rfl)
        constructor
        · rintro ⟨rfl, hr⟩
          exact ⟨rfl, (hothers m hmn).1 hr⟩
        · rintro ⟨rfl, hr⟩
          exact ⟨rfl, (hothers m hmn).2 hr⟩
    · rintro r ⟨rfl, hr⟩ ⟨e, he, -⟩
      exact absurd (he.symm.trans (hnew hr).1) (by simp)
    · rintro r ⟨rfl, hr⟩
      exact (hnew hr).2
    · rintro r ⟨rfl, hr⟩
      exact hold hr
    · intro r hbefore hafter
      apply hfds
      rintro rfl
      rcases hone with hq | hq
      · exact hbefore ⟨rfl, hq⟩
      · exact hafter ⟨rfl, hq⟩
  refine ⟨⟨h.sole.turn hturn, fun r hneg => ?_, hqueue, hidle⟩, fun p _ => ⟨hdeeds p, fun m r hr => ?_⟩,
    fun fd hfd => ?_⟩
  · rw [hfds r (by omega)]
    exact h.numbered r hneg
  · exact (h.sole.other hturn (by simp) hr).2
  · have hopen : w.drm.fds fd ≠ none ∧ ¬ w.Holds (.releaseFence fd) fd := h.others_apart hfd _
    apply hfds
    rintro rfl
    rcases hone with hq | hq
    · exact hopen.2 ⟨rfl, hq⟩
    · exact hopen.1 (hnew hq).1

/-- The layers of the two slots and those of the client are all there are. -/
theorem Parts.Of.deeds {p p' : Parts} (hp : p.Of w) (hp' : p'.Of w')
    (hlayer : ∀ s, (p'.layer s).mAcquireFence = (p.layer s).mAcquireFence ∧
      (p'.layer s).mHdiBuffer = (p.layer s).mHdiBuffer)
    (hlayers : w'.disp.layers = w.disp.layers) (r : LayerRef) :
    (w'.layerAt r).map HdiLayer.deeds = (w.layerAt r).map HdiLayer.deeds := by
  have hslot : ∀ s : Slot, (w'.layerAt s.layer).map HdiLayer.deeds =
      (w.layerAt s.layer).map HdiLayer.deeds := by
    intro s
    rw [hp'.layer s, hp.layer s]
    exact congrArg some (Prod.ext (hlayer s).2 (hlayer s).1)
  cases r with
  | client => exact hslot .primary
  | cursor => exact hslot .cursor
  | created n =>
      show (w'.disp.layers n).map HdiLayer.deeds = (w.disp.layers n).map HdiLayer.deeds
      rw [hlayers]

/-- **A frame** queues the fence of its commit and touches no layer's buffer or fence. -/
theorem Tenants.frame (h : Tenants spare w) {p : Parts} (hp : p.Of w) {a : FrameAnswers}
    (hf : FrameQueues w p a w') : Handled spare touched w w' := by
  obtain ⟨p', hp', hlayers, -, hown, hcase⟩ := hf
  have hdeeds := hp.deeds hp' hown hlayers
  have hclient : w.disp.mClientLayer = some (p.layer .primary) := hp.layer .primary
  have hclient' : w'.disp.mClientLayer = some (p'.layer .primary) := hp'.layer .primary
  have hidle : ∀ m, ∀ l ∈ w'.disp.layers m, l.releaseFences_ = [] := by
    rw [hlayers]
    exact h.idle
  rcases hcase with ⟨-, -, hfds, hsame⟩ | ⟨n, k, -, ⟨-, hpos, hfree⟩, -, hfds, hsame⟩
  · apply h.same hfds hdeeds _ hidle
    rw [hclient', hclient, Option.map_some, Option.map_some, hsame .primary]
  · have hqueue : (p'.layer .primary).releaseFences_ = (p.layer .primary).releaseFences_ ++ [n] := by
      rw [hsame .primary]
      simp [Parts.fenced, HdiLayer.setReleaseFence]
    have hmem : ∀ m, w'.Queued m ↔ w.Queued m ∨ m = n := by
      intro m
      unfold World.Queued
      rw [hclient', hclient]
      simp [hqueue]
    have hnot : ¬ w.Queued n := by
      intro hq
      obtain ⟨e, he, -⟩ : w.drm.Ours n := h.sole.owned (k := .releaseFence n) ⟨rfl, hq⟩
      exact absurd (he.symm.trans hfree) (by simp)
    refine h.requeued n hdeeds (fun m hm => ?_) (fun m hm => ?_) (fun _ => ⟨hfree, ?_⟩)
      (fun hq => absurd hq hnot) (Or.inr ((hmem n).2 (Or.inr rfl))) hpos (fun l hl => ?_) hidle
    · rw [hmem m]
      exact or_iff_left hm
    · rw [hfds]
      exact Function.update_of_ne hm _ _
    · exact ⟨_, by rw [hfds, Function.update_self], rfl⟩
    · obtain rfl := Option.some.inj (hclient'.symm.trans hl)
      rw [hqueue]
      apply List.Nodup.append (h.queue _ hclient) (List.nodup_singleton n)
      intro m hm hmn
      obtain rfl := List.mem_singleton.1 hmn
      exact hnot ⟨_, hclient, hm⟩

/-- Handing over a number that denotes nothing changes nothing. -/
theorem Drm.handOver_none {d : Drm} {fd : Int} (h : d.fds fd = none) : d.handOver fd = d := by
  unfold handOver
  rw [h, Option.map_none, ← h, Function.update_eq_self]

/-- Taking the oldest fence of the client layer hands it over. -/
theorem Tenants.took (h : Tenants spare w) {p : Parts} (hp : p.Of w) :
    Handled spare touched w (w.took p) := by
  have hclient : w.disp.mClientLayer = some (p.layer .primary) := hp.layer .primary
  obtain ⟨fences, hpopped⟩ := HdiLayer.getReleaseFenceFd_layer (p.layer .primary)
  have hdeeds : ∀ r, ((w.took p).layerAt r).map HdiLayer.deeds = (w.layerAt r).map HdiLayer.deeds := by
    intro r
    rw [World.took_layerAt]
    split
    · next hr =>
        have hl : w.layerAt r = some (p.layer .primary) := by
          rw [hr]
          exact hclient
        rw [hl, hpopped]
        rfl
    · rfl
  have hclient' : (w.took p).disp.mClientLayer = some (p.layer .primary).getReleaseFenceFd.2 := rfl
  have hidle : ∀ m, ∀ l ∈ (w.took p).disp.layers m, l.releaseFences_ = [] := h.idle
  have hdrm : (w.took p).drm = w.drm.handOver (p.layer .primary).getReleaseFenceFd.1 := rfl
  cases hqueue : (p.layer .primary).releaseFences_ with
  | nil =>
      have hpop : (p.layer .primary).getReleaseFenceFd = (-1, p.layer .primary) := by
        unfold HdiLayer.getReleaseFenceFd
        rw [hqueue]
      apply h.same _ hdeeds _ hidle
      · rw [hdrm, hpop, Drm.handOver_none (h.numbered (-1) (by decide))]
      · rw [hclient', hpop, hclient]
  | cons n rest =>
      have hpop : (p.layer .primary).getReleaseFenceFd =
          (n, { p.layer .primary with releaseFences_ := rest }) := by
        unfold HdiLayer.getReleaseFenceFd
        rw [hqueue]
      have hnodup := h.queue _ hclient
      rw [hqueue, List.nodup_cons] at hnodup
      rw [hpop] at hclient' hdrm
      have hq : ∀ m, (w.took p).Queued m ↔ m ∈ rest := by
        intro m
        unfold World.Queued
        rw [hclient']
        simp
      have hq' : ∀ m, w.Queued m ↔ m = n ∨ m ∈ rest := by
        intro m
        unfold World.Queued
        rw [hclient]
        simp [hqueue]
      have hheld : w.Queued n := (hq' n).2 (Or.inl rfl)
      have hours : w.drm.Ours n := h.sole.owned (k := .releaseFence n) ⟨rfl, hheld⟩
      have hpos : 0 ≤ n := by
        by_contra hneg
        obtain ⟨e, he, -⟩ := hours
        exact absurd (he.symm.trans (h.numbered n (by omega))) (by simp)
      refine h.requeued n hdeeds (fun m hm => ?_) (fun m hm => ?_)
        (fun hn => absurd ((hq n).1 hn) hnodup.1) (fun _ => ?_) (Or.inl hheld) hpos (fun l hl => ?_)
        hidle
      · rw [hq m, hq' m]
        exact (or_iff_right hm).symm
      · rw [hdrm]
        exact Function.update_of_ne hm _ _
      · rintro ⟨e, he, hhal⟩
        obtain ⟨e₀, he₀, -⟩ := hours
        have he : (w.drm.handOver n).fds n = some e := by rw [← he, hdrm]
        simp only [Drm.handOver, Function.update_self, he₀, Option.map_some] at he
        obtain rfl := Option.some.inj he
        exact absurd hhal (by simp)
      · obtain rfl := Option.some.inj (hclient'.symm.trans hl)
        exact hnodup.2

/-- **`Commit`** is a frame and what is taken after it. -/
theorem handled_commit (hwf : WellFormed w) (h : Tenants spare w) (a : FrameAnswers) :
    Post (step (.commit a)) w (fun _ w' => Handled spare touched w w') (fun _ _ => True) := by
  obtain ⟨p, hp, -⟩ := hwf.parts
  apply (commit_queues hwf hp a).mono
  · rintro r w'' ⟨w', p', hf, hp', -, rfl⟩
    have hframe : Handled spare touched w w' := h.frame hp hf
    exact hframe.trans (hframe.tenants.took hp')
  · exact fun _ _ _ => trivial

/-! ## The other operations of a display -/

theorem handles_readChanges (changes : List Nat) :
    Handles spare touched (readChanges changes) := by
  induction changes with
  | nil => exact Handles.pure _
  | cons n changes ih =>
      apply (handles_derefLayer _).bind
      intro l
      exact ih.bind fun _ => Handles.pure _

/-- There is no fence to take from a layer `CreateLayer` made. -/
theorem handled_popReleaseFence (h : Tenants spare w) (n : Nat) :
    Post (popReleaseFence (.created n)) w (fun fd w' => fd = -1 ∧ Handled spare touched w w')
      (fun _ _ => True) := by
  unfold popReleaseFence
  rw [post_bind]
  apply derefLayer_post
  · intro l hl
    have hpop : l.getReleaseFenceFd = (-1, l) := by
      unfold HdiLayer.getReleaseFenceFd
      rw [h.idle n l hl]
    rw [hpop]
    exact ⟨rfl, h.setSame hl rfl rfl⟩
  · exact fun _ _ => trivial

theorem handled_readReleaseFences (fences : Bool) (mLayers : List Nat) :
    ∀ w, Tenants spare w → Post (readReleaseFences fences mLayers) w
      (fun out w' => (∀ e ∈ out, e.2 = -1) ∧ Handled spare touched w w') (fun _ _ => True) := by
  induction mLayers with
  | nil => exact fun w h => ⟨by simp, Handled.refl h⟩
  | cons n mLayers ih =>
      intro w h
      unfold readReleaseFences
      rw [post_bind]
      apply derefLayer_post
      · intro l _
        have hrest : ∀ w₁, Handled spare touched w w₁ → Post (do
            let _ ← popReleaseFence (.created n)
            let rest ← readReleaseFences fences mLayers
            return (l.mId, -1) :: rest : Hal (List (Nat × Int))) w₁
            (fun out w' => (∀ e ∈ out, e.2 = -1) ∧ Handled spare touched w w')
            (fun _ _ => True) := by
          intro w₁ h₁
          have hpop : Post (popReleaseFence (.created n)) w₁
              (fun fd w' => fd = -1 ∧ Handled spare touched w₁ w') (fun _ _ => True) :=
            handled_popReleaseFence h₁.tenants n
          rw [post_bind]
          apply hpop.mono
          · rintro _ w₂ ⟨-, h₂⟩
            rw [post_bind]
            apply (ih w₂ h₂.tenants).mono
            · rintro out w₃ ⟨hout, h₃⟩
              refine ⟨fun e he => ?_, h₁.trans (h₂.trans h₃)⟩
              rcases List.mem_cons.1 he with rfl | he
              · rfl
              · exact hout e he
            · exact fun _ _ _ => trivial
          · exact fun _ _ _ => trivial
        cases fences with
        | false => exact hrest w (Handled.refl h)
        | true =>
            have hpop : Post (popReleaseFence (.created n)) w
                (fun fd w' => fd = -1 ∧ Handled spare touched w w') (fun _ _ => True) :=
              handled_popReleaseFence h n
            show Post (popReleaseFence (.created n) >>= _) w _ _
            rw [post_bind]
            apply hpop.mono
            · rintro _ w₁ ⟨rfl, h₁⟩
              exact hrest w₁ h₁
            · exact fun _ _ _ => trivial
      · exact fun _ _ => trivial

theorem Drm.handOvers_none {d : Drm} (hneg : d.fds (-1) = none) (out : List (Nat × Int))
    (h : ∀ e ∈ out, e.2 = -1) : out.foldl (fun d e => d.handOver e.2) d = d := by
  induction out with
  | nil => rfl
  | cons e out ih =>
      rw [List.foldl_cons, h e List.mem_cons_self, Drm.handOver_none hneg]
      exact ih fun e' he' => h e' (List.mem_cons_of_mem e he')

/-- The client changes none of the HAL's descriptors. -/
theorem Drm.clientFd_cases (d : Drm) (fd : Int) (file : Option File) :
    d.clientFd fd file = d ∨ (0 ≤ fd ∧ (∀ e ∈ d.fds fd, e.hal = false) ∧
      d.clientFd fd file =
        { d with fds := Function.update d.fds fd (file.map (⟨·, false⟩)) }) := by
  unfold clientFd
  split
  · exact Or.inl rfl
  · next hpos =>
      split
      · exact Or.inl rfl
      · next hno =>
          refine Or.inr ⟨by omega, fun e he => ?_, rfl⟩
          obtain ⟨f, hal⟩ := e
          cases hal with
          | false => rfl
          | true => exact absurd he (hno f)

theorem Tenants.clientFd (h : Tenants spare w) (fd : Int) (file : Option File) :
    Tenants spare (w.setDrm (w.drm.clientFd fd file)) ∧
      ∀ p, Untouched p w (w.setDrm (w.drm.clientFd fd file)) := by
  rcases w.drm.clientFd_cases fd file with heq | ⟨hpos, hclient, heq⟩
  · rw [heq]
    exact ⟨h, fun p => Untouched.refl p w⟩
  · rw [heq]
    set d : Drm := { w.drm with fds := Function.update w.drm.fds fd (file.map (⟨·, false⟩)) } with hd
    have hsame : ∀ r, r ≠ fd → d.fds r = w.drm.fds r := fun r hr => Function.update_of_ne hr _ _
    have hnot : ¬ w.drm.Ours fd := by
      rintro ⟨e, he, hours⟩
      rw [hclient e he] at hours
      exact absurd hours (by simp)
    have hnot' : ¬ d.Ours fd := by
      rintro ⟨e, he, hours⟩
      have hself : d.fds fd = file.map (⟨·, false⟩) := Function.update_self _ _ _
      obtain ⟨f, -, rfl⟩ := Option.map_eq_some_iff.1 (hself.symm.trans he)
      exact absurd hours (by simp)
    have hours : ∀ r, d.Ours r ↔ w.drm.Ours r := by
      intro r
      by_cases hr : r = fd
      · subst hr
        exact iff_of_false hnot' hnot
      · exact ⟨fun hr' => hr'.congr (hsame r hr).symm, fun hr' => hr'.congr (hsame r hr)⟩
    have hlayer : ∀ p, (w.setDrm d).layerAt p = w.layerAt p := w.setDrm_layerAt d
    refine ⟨⟨h.sole.congr (fun k r => ?_) hours, fun r hneg => ?_, h.queue, h.idle⟩, fun p =>
      ⟨by rw [hlayer], fun m r hr => hsame r ?_⟩⟩
    · rcases k with ⟨p, m⟩ | n
      · exact World.holds_of_deeds (by rw [hlayer]) m r
      · exact Iff.rfl
    · have hne : r ≠ fd := by omega
      exact (hsame r hne).trans (h.numbered r hneg)
    · rintro rfl
      exact hnot (h.sole.owned hr)

/-! ## Every operation -/

/-- The layers whose buffer or fence an operation may renew. -/
def Op.Touches : Op → LayerRef → Prop
  | .createLayer .. | .destroyLayer .. | .setLayerBuffer .. => LayerRef.IsCreated
  | .setDisplayClientBuffer .. => (· = .client)
  | .prepareDisplayLayers .. => (· = .cursor)
  | _ => fun _ => False

/-- **Every operation of the HAL** keeps each descriptor with its one holder. -/
theorem handled_step (hwf : WellFormed w) (hreg : Registered w) (h : Tenants spare w) {op : Op}
    (hop : ∀ fd file, op ≠ .clientFd fd file) :
    Post (step op) w (fun _ w' => Handled spare op.Touches w w') (fun _ _ => True) := by
  have hmap : ∀ {m : Hal DispStatus}, Post m w (fun _ w' => Handled spare op.Touches w w')
      (fun _ _ => True) → Post (Ret.status <$> m) w
        (fun _ w' => Handled spare op.Touches w w') (fun _ _ => True) := by
    intro m hm
    rw [post_map]
    exact hm
  cases op with
  | createLayer i l =>
      show Post (createLayer i l >>= _) w _ _
      rw [post_bind]
      exact handled_createLayer hreg h i l
  | destroyLayer id a => exact hmap (handled_destroyLayer h id a)
  | setLayerZorder id z => exact hmap (handled_setLayerZorder hreg h id z)
  | setLayerBuffer id buffer fence a => exact hmap (handles_setLayerBuffer id buffer fence a w h)
  | setLayerCompositionType id type =>
      exact hmap (handles_callLayerFunction id (fun _ _ => ⟨rfl, rfl, rfl⟩) w h)
  | setLayerVisible id visible =>
      exact hmap (handles_callLayerFunction id (fun _ _ => ⟨rfl, rfl, rfl⟩) w h)
  | setLayerRegion id rect =>
      apply hmap
      apply handles_callLayerFunction id _ w h
      intro d l
      cases rect with
      | none => exact ⟨rfl, rfl, rfl⟩
      | some rect => exact ⟨rfl, rfl, rfl⟩
  | setDisplayClientBuffer buffer fence a =>
      exact hmap (handles_setDisplayClientBuffer buffer fence a w h)
  | setDisplayMode id => exact hmap (h.congr (fun p => by cases p <;> rfl) rfl)
  | prepareDisplayLayers a =>
      apply hmap
      exact (prepareDisplayLayers_handled hreg h a).mono (fun _ _ hw => hw.1) (fun _ _ _ => trivial)
  | commit a => exact handled_commit hwf h a
  | getDisplayCompChange arrays =>
      show Post (getDisplayCompChange arrays >>= _) w _ _
      rw [post_bind]
      unfold getDisplayCompChange
      rw [post_bind, post_get]
      cases arrays with
      | false => exact Handled.refl h
      | true =>
          show Post (readChanges w.disp.mChangeLayers >>= _) w _ _
          rw [post_bind]
          exact handles_readChanges _ w h
  | getDisplayReleaseFence layers fences =>
      show Post (getDisplayReleaseFence layers fences >>= _) w _ _
      rw [post_bind]
      unfold getDisplayReleaseFence
      rw [post_bind, post_get]
      dsimp only
      split
      · exact Handled.refl h
      · rw [post_bind]
        apply (handled_readReleaseFences fences w.disp.mLayers w h).mono
        · rintro out w' ⟨hout, h'⟩
          show Handled spare _ w (w'.setDrm (out.foldl (fun d e => d.handOver e.2) w'.drm))
          rw [Drm.handOvers_none (h'.tenants.numbered (-1) (by decide)) out hout]
          exact h'
        · exact fun _ _ _ => trivial
  | clientFd fd file => exact absurd rfl (hop fd file)

/-- **Every operation**, those of the client on its own descriptors among them. -/
theorem tenants_step (hwf : WellFormed w) (hreg : Registered w) (h : Tenants spare w) (op : Op) :
    Post (step op) w (fun _ w' => Tenants spare w' ∧ ∀ p, ¬ op.Touches p → Untouched p w w')
      (fun _ _ => True) := by
  by_cases hop : ∃ fd file, op = .clientFd fd file
  · obtain ⟨fd, file, rfl⟩ := hop
    obtain ⟨htenants, huntouched⟩ := h.clientFd fd file
    exact ⟨htenants, fun p _ => huntouched p⟩
  · push Not at hop
    apply (handled_step hwf hreg h hop).mono
    · exact fun _ w' hw => ⟨hw.tenants, hw.untouched⟩
    · exact fun _ _ _ => trivial

end

/-! ## A display brought up -/

/-- A display that `Init` has brought up; the kernel gives no descriptor a negative number. -/
def Started (w : World) : Prop :=
  ∃ w₀ a, Fresh w₀ ∧ (∀ fd < 0, w₀.drm.fds fd = none) ∧ drmDisplayInit a w₀ = .ok .success w

theorem Started.initialised {w : World} (h : Started w) : Initialised w := by
  obtain ⟨w₀, a, hfresh, -, hinit⟩ := h
  exact ⟨w₀, a, hfresh, hinit⟩

theorem smallBoot_started {cursorPlanes : List Nat} (hids : (40 :: cursorPlanes).Nodup)
    (h : returns (drmDisplayInit smallInit) (smallDisplay cursorPlanes)
      (fun ret _ => decide (ret = .success)) = true) : Started (smallBoot cursorPlanes) :=
  ⟨smallDisplay cursorPlanes, smallInit, smallDisplay_fresh hids, fun _ _ => rfl, smallBoot_eq h⟩

/-- What the layers of a display have to do with descriptors once it is brought up: the
client layer has the buffer of the first frame, and there is no fence. -/
structure BootLayers (w : World) : Prop where
  client : ∀ l ∈ w.disp.mClientLayer, l.mAcquireFence = -1 ∧ ∃ buf ∈ l.mHdiBuffer,
    ∀ b, w.drm.dmaBufAt buf.mFd = some b → w.drm.dmaBufAt buf.mHandle.fd = some b
  cursor : ∀ l ∈ w.disp.mCursorLayer, l.mAcquireFence = -1 ∧ l.mHdiBuffer = none

theorem Drm.allocMem_spec {d d' : Drm} {mode : DrmMode} {answer : Option (Int × Nat × Int)}
    {buffer : BufferHandle} (h : d.allocMem mode answer = (some buffer, d')) :
    0 ≤ buffer.fd ∧ d.fds buffer.fd = none ∧ ∃ id,
      d'.fds = Function.update d.fds buffer.fd (some ⟨.dmaBuf id, true⟩) := by
  rcases answer with _ | ⟨fd, dmaBuf, stride⟩
  · exact absurd h (by simp [allocMem])
  · unfold allocMem at h
    dsimp only at h
    split at h
    · next hfree =>
        obtain ⟨hbuffer, rfl⟩ := Prod.mk.inj h
        obtain rfl := Option.some.inj hbuffer
        exact ⟨hfree.1, hfree.2, _, rfl⟩
    · exact absurd h (by simp)

/-- The descriptors that are spare from then on: those open before the buffer of the first
frame is duplicated, that buffer's own among them. -/
theorem Started.tenants {w : World} (h : Started w) : (∃ spare, Tenants spare w) ∧ BootLayers w := by
  obtain ⟨w₀, a, hfresh, hnum, hinit⟩ := h
  obtain ⟨w₁, c, mode, d, buffer, ret, hc, -, hdrm, hdisp, halloc, happ⟩ :=
    (drmDisplayInit_post w₀ a).of_ok hinit rfl
  have hwf : WellFormed (w₁.primed c d buffer a.dup) :=
    primed_wellFormed hfresh hc (allocMem_frame halloc) hdisp
  have hclient : w₁.disp.mClientLayer = some {} := by rw [hdisp]
  have hcursor : w₁.disp.mCursorLayer = some {} := by rw [hdisp]
  have hlayers : ∀ n, w₁.disp.layers n = none := by
    rw [hdisp]
    exact hfresh.layers
  -- before the duplicate is made nothing is held
  have hempty : ∀ p, ∀ l ∈ (w₁.setDrm d).layerAt p, l = {} := by
    rintro (_ | _ | n) l hl
    · exact (Option.some.inj (hclient.symm.trans hl)).symm
    · exact (Option.some.inj (hcursor.symm.trans hl)).symm
    · exact absurd ((hlayers n).symm.trans hl) (by simp)
  have hnone : ∀ k r, ¬ (w₁.setDrm d).Holds k r := by
    rintro (⟨p, m⟩ | n) r
    · rintro ⟨hpos, l, hl, hfd⟩
      obtain rfl := hempty p l hl
      cases m with
      | buffer =>
          have hfd : (-1 : Int) = r := hfd
          omega
      | acquireFence =>
          have hfd : (-1 : Int) = r := hfd
          omega
    · rintro ⟨-, l, hl, hr⟩
      obtain rfl := hempty .client l hl
      exact absurd hr (by simp)
  obtain ⟨hpos, hfree, id, hfds⟩ := Drm.allocMem_spec halloc
  have hours : d.Ours buffer.fd := ⟨_, by rw [hfds, Function.update_self], rfl⟩
  have hnum' : ∀ r < 0, d.fds r = none := by
    intro r hneg
    have hne : r ≠ buffer.fd := by omega
    rw [hfds, Function.update_of_ne hne]
    exact hnum r hneg
  have hbefore : Tenants d.Ours (w₁.setDrm d) := by
    refine ⟨⟨fun hr => absurd hr (hnone _ _), fun hr => absurd hr (hnone _ _),
      fun hr => ⟨hr, fun k => hnone k _⟩, fun hr => Or.inl hr⟩, hnum', fun l hl => ?_, fun n l hl => ?_⟩
    · obtain rfl := hempty .client l hl
      exact List.nodup_nil
    · rw [hempty (.created n) l hl]
  have hprimed : Handled d.Ours (· = .client) (w₁.setDrm d) (w₁.primed c d buffer a.dup) := by
    have hbuffer := (hbefore.rebuffer (p := .client) hclient buffer a.dup.buffer).1
    exact hbuffer.trans (hbuffer.tenants.congr (World.setComposition_layerAt _ _) rfl)
  have hp := primedParts_of c d buffer a.dup hcursor
  have hframe : Handled d.Ours (fun _ => False) (w₁.primed c d buffer a.dup) w :=
    hprimed.tenants.frame hp ((frameQueues_apply hwf hp a.firstFrame).of_ok happ)
  refine ⟨⟨d.Ours, hframe.tenants⟩, fun l hl => ?_, fun l hl => ?_⟩
  · obtain ⟨l₁, hl₁, hdeeds, hsame⟩ := (hframe.untouched .client False.elim).dmaBufAt
      hprimed.tenants hframe.tenants (show w.layerAt .client = some l from hl)
    obtain rfl := Option.some.inj ((hp.layer .primary).symm.trans hl₁)
    refine ⟨congrArg Prod.snd hdeeds, _, congrArg Prod.fst hdeeds, fun b hb => ?_⟩
    have hb : (w₁.primed c d buffer a.dup).drm.dmaBufAt (d.dup buffer.fd a.dup.buffer).1 = some b := by
      rw [← hb]
      have hfd : l.fdOf .buffer = (d.dup buffer.fd a.dup.buffer).1 := HdiLayer.fdOf_congr hdeeds _
      rw [hfd] at hsame
      exact hsame.symm
    -- the number the HAL allocated the buffer under is spare
    have hkept : w.drm.fds buffer.fd = d.fds buffer.fd :=
      (hframe.others _ (Or.inl hours)).trans (hprimed.others _ (Or.inl hours))
    show w.drm.dmaBufAt buffer.fd = some b
    rw [Drm.dmaBufAt_congr hkept, ← hb]
    rcases d.dup_dmaBufAt buffer.fd a.dup.buffer with hfail | ⟨-, -, hdup⟩
    · have hminus : (w₁.primed c d buffer a.dup).drm.dmaBufAt (-1) = none :=
        hprimed.tenants.dmaBufAt_neg (by decide)
      rw [hfail, hminus] at hb
      exact absurd hb (by simp)
    · exact hdup.symm
  · obtain ⟨l₁, hl₁, hdeeds, -⟩ := (hframe.untouched .cursor False.elim).dmaBufAt
      hprimed.tenants hframe.tenants (show w.layerAt .cursor = some l from hl)
    obtain rfl := Option.some.inj (hcursor.symm.trans hl₁)
    exact ⟨congrArg Prod.snd hdeeds, congrArg Prod.fst hdeeds⟩

end QemuHal
