import QemuHal.Core.Layer
import QemuHal.Lib.Exec
import QemuHal.Lib.Roster

/-!
# The layers of a display in the common HAL

`HdiDisplay` of the common HAL keeps its layers in `mLayersMap`, by id, and in the
multiset `mLayers`, by z-order. `CloseLayer` erases from the multiset by key, so it
takes every layer of the same z-order out with the one it closes.
-/

namespace QemuHal.Common

open Exec

/-! ## The state -/

inductive Fault where
  | danglingLayer
  | diverges
deriving DecidableEq, Repr

structure HdiLayer where
  mId : Nat := 0
  mZorder : Nat := 0xffffffff
  mCompositionType : CompositionType := .client
  mDeviceSelect : CompositionType := .client
  mHdiBuffer : Option BufferHandle := none
deriving DecidableEq, Repr

/-- A display after `Init`. `layers` holds the layers `CreateLayer` made and
`CloseLayer` has not destroyed, `mCompLayers` belongs to its `HdiGfxComposition`. -/
structure HdiDisplay where
  layers : Nat → Option HdiLayer := fun _ => none
  nextLayer : Nat := 0
  mLayersMap : Nat → Option Nat := fun _ => none
  mLayers : List Nat := []
  mClientLayer : HdiLayer := {}
  mChangeLayers : List Nat := []
  mCompLayers : List Nat := []

structure World where
  layerIds : IdPool := {}
  disp : HdiDisplay := {}

abbrev Hal := EStateM Fault World

/-- A display without layers; other displays have taken the ids of the pool. -/
def World.start (layerIds : IdPool) : World := { layerIds }

def World.setLayer (w : World) (n : Nat) (l : HdiLayer) : World :=
  { w with disp := { w.disp with layers := Function.update w.disp.layers n (some l) } }

def World.zorderOf (w : World) (n : Nat) : Nat :=
  match w.disp.layers n with
  | some l => l.mZorder
  | none => 0

def derefLayer (n : Nat) : Hal HdiLayer := do
  match (← get).disp.layers n with
  | some l => return l
  | none => throw .danglingLayer

theorem derefLayer_of {w : World} {n : Nat} {l : HdiLayer} (h : w.disp.layers n = some l) :
    derefLayer n w = .ok l w := by
  unfold derefLayer
  rw [get_bind, h]
  rfl

/-! ## The operations -/

/-- `CreateLayer`; the arguments say whether its two pointers are null. -/
def createLayer (layerInfoNull layerIdNull : Bool) : Hal (DispStatus × Option Nat) := do
  if layerInfoNull then return (.paramErr, none)
  if layerIdNull then return (.paramErr, none)
  let w ← get
  match w.layerIds.getIdleId invalidLayerId with
  | none => throw .diverges
  | some (id, layerIds) =>
      if id = invalidLayerId then
        set { w with layerIds }
        return (.failure, none)
      let n := w.disp.nextLayer
      let w := { w with
        layerIds
        disp := { w.disp with
          layers := Function.update w.disp.layers n (some { mId := id })
          nextLayer := n + 1 } }
      let w := { w with disp := { w.disp with
        mLayers := Roster.insert w.zorderOf n w.disp.mLayers } }
      -- `emplace` drops the new layer when its id is already a key
      match w.disp.mLayersMap id with
      | none =>
          set { w with disp := { w.disp with
            mLayersMap := Function.update w.disp.mLayersMap id (some n) } }
      | some _ =>
          set { w with disp := { w.disp with
            layers := Function.update w.disp.layers n none } }
      return (.success, some id)

/-- `SetLayerZorder`. -/
def setLayerZorder (layerId zorder : Nat) : Hal DispStatus := do
  let w ← get
  match w.disp.mLayersMap layerId with
  | none => return .failure
  | some n =>
      let layer ← derefLayer n
      if layer.mZorder = zorder then return .success
      let mLayers := Roster.erase w.zorderOf n w.disp.mLayers
      let w := w.setLayer n { layer with mZorder := zorder }
      set { w with disp := { w.disp with mLayers := Roster.insert w.zorderOf n mLayers } }
      return .success

/-- `CloseLayer`: `mLayers.erase` is given the layer as a key. -/
def closeLayer (layerId : Nat) : Hal DispStatus := do
  let w ← get
  match w.disp.mLayersMap layerId with
  | none => return .failure
  | some n =>
      set { w with disp := { w.disp with
        mLayers := Roster.eraseEquiv w.zorderOf n w.disp.mLayers
        mLayersMap := Function.update w.disp.mLayersMap layerId none
        layers := Function.update w.disp.layers n none } }
      return .success

inductive LayerOp where
  | createLayer (layerInfoNull layerIdNull : Bool)
  | closeLayer (layerId : Nat)
  | setLayerZorder (layerId zorder : Nat)

def layerStep : LayerOp → Hal (DispStatus × Option Nat)
  | .createLayer i l => createLayer i l
  | .closeLayer id => (·, none) <$> closeLayer id
  | .setLayerZorder id z => (·, none) <$> setLayerZorder id z

/-! ## The two containers -/

/-- `mLayers` is ordered by z-order and holds every layer of `mLayersMap` once and no
other. -/
def World.Listed (w : World) : Prop :=
  Roster.Agrees w.zorderOf w.disp.mLayersMap w.disp.mLayers

/-- What is asked of an operation: the containers agree after it, and closing a layer
leaves every other layer in both. -/
structure LayerLaw (w : World) (op : LayerOp) (w' : World) : Prop where
  listed : w'.Listed
  others : ∀ id, op = .closeLayer id → ∀ id' n, id' ≠ id → w.disp.mLayersMap id' = some n →
    w'.disp.mLayersMap id' = some n ∧ n ∈ w'.disp.mLayers

/-- No other layer in the list has the z-order of a layer that is closed. -/
def LayerOp.NoTie (w : World) : LayerOp → Prop
  | .closeLayer id => ∀ n ∈ w.disp.mLayersMap id, ∀ m ∈ w.disp.mLayers,
      m ≠ n → w.zorderOf m ≠ w.zorderOf n
  | _ => True

instance (w : World) : (op : LayerOp) → Decidable (op.NoTie w)
  | .closeLayer id => inferInstanceAs (Decidable (∀ n ∈ w.disp.mLayersMap id, _))
  | .createLayer .. | .setLayerZorder .. => inferInstanceAs (Decidable True)

/-- The list holds layers of the map, and exactly these are alive, each made before
`nextLayer`. -/
structure Housed (w : World) : Prop where
  files : Roster.Files w.zorderOf w.disp.mLayersMap w.disp.mLayers
  live : ∀ id n, w.disp.mLayersMap id = some n → ∃ l, w.disp.layers n = some l
  owned : ∀ n l, w.disp.layers n = some l → ∃ id, w.disp.mLayersMap id = some n
  fresh : ∀ n, w.disp.nextLayer ≤ n → w.disp.layers n = none

/-- What every operation keeps: the layers are housed, each under an id that is used up. -/
structure Sound (w : World) : Prop extends Housed w where
  used : ∀ id n, w.disp.mLayersMap id = some n → id ∈ w.layerIds.mIdSets

theorem housed_start (layerIds : IdPool) : Housed (World.start layerIds) where
  files := Roster.Files.empty
  live := fun _ _ h => absurd h (by simp [World.start])
  owned := fun _ _ h => absurd h (by simp [World.start])
  fresh := fun _ _ => rfl

theorem sound_start (layerIds : IdPool) : Sound (World.start layerIds) where
  toHoused := housed_start layerIds
  used := fun _ _ h => absurd h (by simp [World.start])

theorem listed_start (layerIds : IdPool) : (World.start layerIds).Listed := Roster.Agrees.empty

/-- The z-order of the other layers. -/
theorem zorderOf_update {w w' : World} {n m : Nat} {l : Option HdiLayer}
    (hw : w'.disp.layers = Function.update w.disp.layers n l) (hne : m ≠ n) :
    w'.zorderOf m = w.zorderOf m := by
  unfold World.zorderOf
  rw [hw, Function.update_of_ne hne]

/-! ## Creating a layer -/

/-- What is left of a display when a layer is created under the id the pool gives. -/
def World.created (w : World) (id : Nat) (layerIds : IdPool) : World :=
  let n := w.disp.nextLayer
  let made := w.setLayer n { mId := id }
  { layerIds
    disp := { made.disp with
      nextLayer := n + 1
      mLayers := Roster.insert made.zorderOf n w.disp.mLayers
      mLayersMap := Function.update w.disp.mLayersMap id (some n) } }

theorem createLayer_cases {w : World} (h : Sound w) (i l : Bool) :
    (∃ ret, createLayer i l w = .ok (ret, none) w) ∨
      (∃ layerIds, createLayer i l w = .ok (.failure, none) { w with layerIds } ∧
        w.layerIds.mIdSets ⊆ layerIds.mIdSets) ∨
      (∃ id layerIds, createLayer i l w = .ok (.success, some id) (w.created id layerIds) ∧
        w.disp.mLayersMap id = none ∧ layerIds.mIdSets = insert id w.layerIds.mIdSets) ∨
      createLayer i l w = .error .diverges w := by
  unfold createLayer
  cases i with
  | true => exact Or.inl ⟨_, rfl⟩
  | false =>
    cases l with
    | true => exact Or.inl ⟨_, rfl⟩
    | false =>
        simp only [Bool.false_eq_true, if_false]
        cases hid : w.layerIds.getIdleId invalidLayerId with
        | none =>
            refine Or.inr (Or.inr (Or.inr ?_))
            rw [get_bind, hid]
            rfl
        | some found =>
            obtain ⟨id, layerIds⟩ := found
            have hsets := IdPool.getIdleId_mIdSets hid
            by_cases hinv : id = invalidLayerId
            · refine Or.inr (Or.inl ⟨layerIds, ?_, ?_⟩)
              · rw [get_bind, hid]
                dsimp only
                rw [if_pos hinv]
                rfl
              · rw [hsets]
                exact Finset.subset_insert _ _
            · have hnew : w.disp.mLayersMap id = none := by
                cases hm : w.disp.mLayersMap id with
                | none => rfl
                | some n => exact absurd (h.used id n hm) (IdPool.getIdleId_unused hid hinv)
              refine Or.inr (Or.inr (Or.inl ⟨id, layerIds, ?_, hnew, hsets⟩))
              rw [get_bind, hid]
              dsimp only
              rw [if_neg hinv, hnew]
              rfl

theorem Housed.nextLayer_new {w : World} (h : Housed w) (id : Nat) :
    w.disp.mLayersMap id ≠ some w.disp.nextLayer := by
  intro hid
  obtain ⟨l, hl⟩ := h.live id _ hid
  rw [h.fresh _ (Nat.le_refl _)] at hl
  exact absurd hl (by simp)

/-- The z-orders of the listed layers, when the next one is made. -/
theorem Housed.zorderOf_created {w : World} (h : Housed w) {id : Nat} {layerIds : IdPool} :
    ∀ m ∈ w.disp.mLayers, (w.created id layerIds).zorderOf m = w.zorderOf m := by
  intro m hm
  refine zorderOf_update rfl ?_
  rintro rfl
  obtain ⟨i, hi⟩ := h.files.filed _ hm
  exact h.nextLayer_new i hi

theorem Housed.created {w : World} (h : Housed w) {id : Nat} {layerIds : IdPool}
    (hnew : w.disp.mLayersMap id = none) : Housed (w.created id layerIds) where
  files := (h.files.congr h.zorderOf_created).add hnew h.nextLayer_new
  live := by
    intro i n hi
    simp only [World.created, World.setLayer, Function.update_apply] at hi ⊢
    by_cases hn : n = w.disp.nextLayer
    · rw [if_pos hn]
      exact ⟨_, rfl⟩
    · rw [if_neg hn]
      split at hi
      · exact absurd (Option.some.inj hi).symm hn
      · exact h.live i n hi
  owned := by
    intro n l hl
    simp only [World.created, World.setLayer, Function.update_apply] at hl ⊢
    split at hl
    · next hn => exact ⟨id, by simp [hn]⟩
    · obtain ⟨i, hi⟩ := h.owned n l hl
      refine ⟨i, ?_⟩
      rw [if_neg, hi]
      rintro rfl
      exact absurd (hnew.symm.trans hi) (by simp)
  fresh := by
    intro n hn
    simp only [World.created, World.setLayer] at hn ⊢
    rw [Function.update_of_ne (by omega)]
    exact h.fresh n (by omega)

theorem Sound.created {w : World} (h : Sound w) {id : Nat} {layerIds : IdPool}
    (hnew : w.disp.mLayersMap id = none)
    (hsets : layerIds.mIdSets = Insert.insert id w.layerIds.mIdSets) :
    Sound (w.created id layerIds) where
  toHoused := h.toHoused.created hnew
  used := by
    intro i n hi
    simp only [World.created, Function.update_apply] at hi ⊢
    rw [hsets, Finset.mem_insert]
    split at hi
    · next hid => exact Or.inl hid
    · exact Or.inr (h.used i n hi)

theorem createLayer_post {w : World} (h : Sound w) (i l : Bool) :
    Post (createLayer i l) w (fun _ w' => Sound w' ∧ (w.Listed → w'.Listed))
      (fun e _ => e = .diverges) := by
  rcases createLayer_cases h i l with ⟨ret, heq⟩ | ⟨layerIds, heq, hsub⟩ |
    ⟨id, layerIds, heq, hnew, hsets⟩ | heq
  · exact post_of_ok heq ⟨h, id⟩
  · refine post_of_ok heq ⟨⟨⟨h.files, h.live, h.owned, h.fresh⟩, ?_⟩, id⟩
    exact fun i n hi => hsub (h.used i n hi)
  · refine post_of_ok heq ⟨h.created hnew hsets, fun hl => ?_⟩
    exact (hl.congr h.zorderOf_created).add hnew h.nextLayer_new
  · unfold Post
    rw [heq]

/-! ## Changing a z-order -/

/-- A layer alive is replaced. -/
theorem Housed.setLayer {w : World} (h : Housed w) {n : Nat} {l l' : HdiLayer}
    (hl : w.disp.layers n = some l) {mLayers : List Nat}
    (hfiles : Roster.Files (w.setLayer n l').zorderOf w.disp.mLayersMap mLayers) :
    Housed { w.setLayer n l' with disp := { (w.setLayer n l').disp with mLayers } } where
  files := hfiles
  live := by
    intro i m hi
    simp only [World.setLayer, Function.update_apply]
    split
    · exact ⟨_, rfl⟩
    · exact h.live i m hi
  owned := by
    intro m k hk
    simp only [World.setLayer, Function.update_apply] at hk
    split at hk
    · next hm => exact hm ▸ h.owned n l hl
    · exact h.owned m k hk
  fresh := by
    intro m hge
    simp only [World.setLayer, Function.update_apply]
    split
    · next hmn =>
        subst hmn
        rw [h.fresh m hge] at hl
        exact absurd hl (by simp)
    · exact h.fresh m hge

theorem setLayerZorder_housed {w : World} (h : Housed w) (layerId zorder : Nat) :
    Post (setLayerZorder layerId zorder) w
      (fun _ w' => Housed w' ∧ (w.Listed → w'.Listed) ∧ w'.layerIds = w.layerIds ∧
        w'.disp.mLayersMap = w.disp.mLayersMap)
      (fun _ _ => False) := by
  unfold setLayerZorder
  rw [post_bind, post_get]
  cases hm : w.disp.mLayersMap layerId with
  | none => exact ⟨h, id, rfl, rfl⟩
  | some n =>
      obtain ⟨layer, hlive⟩ := h.live layerId n hm
      dsimp only
      rw [post_bind]
      refine post_of_ok (derefLayer_of hlive) ?_
      by_cases hz : layer.mZorder = zorder
      · rw [if_pos hz]
        exact ⟨h, id, rfl, rfl⟩
      · rw [if_neg hz]
        simp only [post_bind, post_set, post_pure]
        rw [Roster.erase_eq]
        have hkey : ∀ m, m ≠ n →
            (w.setLayer n { layer with mZorder := zorder }).zorderOf m = w.zorderOf m :=
          fun m hne => zorderOf_update rfl hne
        exact ⟨h.setLayer hlive (h.files.rekey hm hkey), fun hl => hl.rekey hm hkey, rfl, rfl⟩

theorem setLayerZorder_post {w : World} (h : Sound w) (layerId zorder : Nat) :
    Post (setLayerZorder layerId zorder) w (fun _ w' => Sound w' ∧ (w.Listed → w'.Listed))
      (fun _ _ => False) := by
  refine (setLayerZorder_housed h.toHoused layerId zorder).mono ?_ (fun _ _ hf => hf)
  rintro - w' ⟨hhoused, hlisted, hpool, hmap⟩
  refine ⟨⟨hhoused, fun id n hid => ?_⟩, hlisted⟩
  rw [hpool]
  exact h.used id n (hmap ▸ hid)

/-! ## Closing a layer -/

/-- What is left of a display when a layer is closed. -/
def World.closed (w : World) (layerId n : Nat) : World :=
  { w with disp := { w.disp with
    mLayers := Roster.eraseEquiv w.zorderOf n w.disp.mLayers
    mLayersMap := Function.update w.disp.mLayersMap layerId none
    layers := Function.update w.disp.layers n none } }

theorem closeLayer_of {w : World} {layerId n : Nat} (hm : w.disp.mLayersMap layerId = some n) :
    closeLayer layerId w = .ok .success (w.closed layerId n) := by
  unfold closeLayer
  rw [get_bind, hm]
  rfl

theorem closeLayer_of_none {w : World} {layerId : Nat} (hm : w.disp.mLayersMap layerId = none) :
    closeLayer layerId w = .ok .failure w := by
  unfold closeLayer
  rw [get_bind, hm]
  rfl

theorem zorderOf_closed {w : World} {layerId n : Nat} :
    ∀ m ∈ Roster.eraseEquiv w.zorderOf n w.disp.mLayers,
      (w.closed layerId n).zorderOf m = w.zorderOf m := by
  intro m hm
  refine zorderOf_update rfl ?_
  rintro rfl
  exact (Roster.mem_eraseEquiv.1 hm).2 rfl

theorem Housed.closed {w : World} (h : Housed w) {layerId n : Nat}
    (hm : w.disp.mLayersMap layerId = some n) : Housed (w.closed layerId n) where
  files := (h.files.eraseEquiv hm).congr zorderOf_closed
  live := by
    intro i m hi
    simp only [World.closed, Function.update_apply] at hi ⊢
    split at hi
    · exact absurd hi (by simp)
    · next hne =>
        rw [if_neg]
        · exact h.live i m hi
        · rintro rfl
          exact hne (h.files.inj i layerId m hi hm)
  owned := by
    intro m l hl
    simp only [World.closed, Function.update_apply] at hl ⊢
    split at hl
    · exact absurd hl (by simp)
    · next hne =>
        obtain ⟨i, hi⟩ := h.owned m l hl
        refine ⟨i, ?_⟩
        rw [if_neg, hi]
        rintro rfl
        exact hne (Option.some.inj (hi.symm.trans hm))
  fresh := by
    intro m hge
    simp only [World.closed, Function.update_apply]
    split
    · rfl
    · exact h.fresh m hge

theorem Sound.closed {w : World} (h : Sound w) {layerId n : Nat}
    (hm : w.disp.mLayersMap layerId = some n) : Sound (w.closed layerId n) where
  toHoused := h.toHoused.closed hm
  used := by
    intro i m hi
    simp only [World.closed, Function.update_apply] at hi
    split at hi
    · exact absurd hi (by simp)
    · exact h.used i m hi

/-- Without a tie the containers lose the closed layer and nothing else. -/
theorem World.Listed.closed {w : World} (hl : w.Listed) {layerId n : Nat}
    (hm : w.disp.mLayersMap layerId = some n)
    (htie : ∀ m ∈ w.disp.mLayers, m ≠ n → w.zorderOf m ≠ w.zorderOf n) :
    (w.closed layerId n).Listed := by
  have hrest : Roster.Agrees w.zorderOf (Function.update w.disp.mLayersMap layerId none)
      (Roster.eraseEquiv w.zorderOf n w.disp.mLayers) := by
    rw [hl.eraseEquiv_eq htie]
    exact hl.erase hm
  exact hrest.congr zorderOf_closed

/-! ## Every operation -/

theorem layerStep_sound {w : World} (h : Sound w) (op : LayerOp) :
    Post (layerStep op) w (fun _ w' => Sound w') (fun e _ => e = .diverges) := by
  cases op with
  | createLayer i l =>
      exact (createLayer_post h i l).mono (fun _ _ hw' => hw'.1) (fun _ _ he => he)
  | setLayerZorder id z =>
      show Post (_ <$> setLayerZorder id z) w _ _
      rw [post_map]
      exact (setLayerZorder_post h id z).mono (fun _ _ hw' => hw'.1) (fun _ _ he => he.elim)
  | closeLayer id =>
      show Post (_ <$> closeLayer id) w _ _
      rw [post_map]
      cases hm : w.disp.mLayersMap id with
      | none => exact post_of_ok (closeLayer_of_none hm) h
      | some n => exact post_of_ok (closeLayer_of hm) (h.closed hm)

/-- **One operation keeps the containers in agreement exactly when it closes no layer
that shares its z-order.** -/
theorem layerLaw_iff {w : World} (h : Sound w) (hl : w.Listed) (op : LayerOp) :
    Post (layerStep op) w (fun _ w' => LayerLaw w op w') (fun e _ => e = .diverges) ↔
      op.NoTie w := by
  cases op with
  | createLayer i l =>
      refine Iff.intro (fun _ => trivial) (fun _ => ?_)
      refine (createLayer_post h i l).mono ?_ (fun _ _ he => he)
      intro r w' hw'
      exact ⟨hw'.2 hl, by simp⟩
  | setLayerZorder id z =>
      refine Iff.intro (fun _ => trivial) (fun _ => ?_)
      show Post (_ <$> setLayerZorder id z) w _ _
      rw [post_map]
      refine (setLayerZorder_post h id z).mono ?_ (fun _ _ he => he.elim)
      intro r w' hw'
      exact ⟨hw'.2 hl, by simp⟩
  | closeLayer id =>
      show Post (_ <$> closeLayer id) w _ _ ↔ _
      rw [post_map]
      cases hm : w.disp.mLayersMap id with
      | none =>
          rw [post_iff_of_ok (closeLayer_of_none hm)]
          constructor
          · intro _
            show ∀ n ∈ w.disp.mLayersMap id, _
            rw [hm]
            simp
          · intro _
            refine ⟨hl, ?_⟩
            rintro id₁ - id' n - hn
            exact ⟨hn, hl.all id' n hn⟩
      | some n =>
          rw [post_iff_of_ok (closeLayer_of hm)]
          constructor
          · intro hlaw
            show ∀ n ∈ w.disp.mLayersMap id, _
            rw [hm]
            rintro n' hn' m hmem hne hz
            obtain rfl := Option.some.inj hn'
            exact hl.not_eraseEquiv hm hmem hne hz hlaw.listed
          · intro htie
            have hclosed := hl.closed hm (htie n hm)
            refine ⟨hclosed, ?_⟩
            rintro id₁ hop id' n' hne hn'
            obtain rfl := LayerOp.closeLayer.inj hop
            have hkept : (w.closed id n).disp.mLayersMap id' = some n' := by
              simp only [World.closed]
              rw [Function.update_of_ne hne, hn']
            exact ⟨hkept, hclosed.all id' n' hkept⟩

/-- **Runs.** From a display without layers, exactly the runs that close no layer sharing
its z-order keep the containers in agreement after every operation. -/
theorem registry_iff (layerIds : IdPool) (ops : List LayerOp) :
    Meets layerStep (fun w op => Post (layerStep op) w (fun _ w' => LayerLaw w op w')
        (fun e _ => e = .diverges)) (World.start layerIds) ops ↔
      Meets layerStep (fun w op => op.NoTie w) (World.start layerIds) ops := by
  refine meets_congr (I := fun w => Sound w ∧ w.Listed) ?_ ?_
    ⟨sound_start layerIds, listed_start layerIds⟩ ops
  · rintro w op ⟨h, hl⟩ hlaw
    exact ((layerStep_sound h op).and hlaw).mono (fun _ _ hw => ⟨hw.1, hw.2.listed⟩)
      (fun _ _ _ => trivial)
  · rintro w op ⟨h, hl⟩
    exact layerLaw_iff h hl op

/-- **Closing one of two new layers takes both out of `mLayers`.** New layers have the
same z-order. -/
theorem registry_lost :
    ¬ Meets layerStep (fun w op => Post (layerStep op) w (fun _ w' => LayerLaw w op w')
        (fun e _ => e = .diverges)) (World.start {})
      [.createLayer false false, .createLayer false false, .closeLayer 0] := by
  intro hlaw
  have hlisted := run_post (I := World.Listed) (E := fun e _ => e = .diverges)
    (fun w op _ hop => hop.mono (fun _ _ hw => hw.listed) (fun _ _ he => he))
    (listed_start {}) hlaw
  have hret : returns (run layerStep
      [.createLayer false false, .createLayer false false, .closeLayer 0]) (World.start {})
      (fun _ w' => decide (w'.disp.mLayersMap 1 = some 1 ∧ w'.disp.mLayers = [])) = true := by
    decide +kernel
  obtain ⟨rets, w', hrun, hgone⟩ := returns_iff.1 hret
  obtain ⟨hmap, hnil⟩ := of_decide_eq_true hgone
  have hmem := (hlisted.of_ok hrun).all 1 1 hmap
  rw [hnil] at hmem
  exact absurd hmem List.not_mem_nil

end QemuHal.Common
