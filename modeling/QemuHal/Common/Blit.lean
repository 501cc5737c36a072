import QemuHal.Common.Layers

/-!
# The layers a commit blits

`PrepareDisplayLayers` hands the layers of `mLayers` to `HdiGfxComposition`, which
keeps pointers to them until the next one. `Commit` runs over these pointers. A
layer that was closed in between is still among them.
-/

namespace QemuHal.Common

open Exec

/-! ## `HdiGfxComposition` -/

/-- `SetLayers`. `CanHandle` is true of every layer. -/
def setLayers (layers : List Nat) : Hal DispStatus := do
  modify fun w => { w with disp := { w.disp with mCompLayers := [] } }
  select layers
  return .success
where
  /-- The loop. -/
  select : List Nat → Hal Unit
    | [] => return ()
    | n :: layers => do
        let layer ← derefLayer n
        let type := layer.mCompositionType
        modify fun w => w.setLayer n { layer with
          mDeviceSelect := if type ≠ .video ∧ type ≠ .cursor then .device else type }
        modify fun w => { w with disp := { w.disp with
          mCompLayers := w.disp.mCompLayers ++ [n] } }
        select layers

/-- `BlitLayer`, the blitter answering `ok`. The surfaces it is given are not modelled. -/
def blitLayer (src dst : HdiLayer) (ok : Bool) : DispStatus :=
  if src.mHdiBuffer = none then .nullPtr
  else if dst.mHdiBuffer = none then .failure
  else if ok then .success else .failure

/-- `ClearRect`. -/
def clearRect (dst : HdiLayer) (ok : Bool) : DispStatus :=
  if dst.mHdiBuffer = none then .failure
  else if ok then .success else .failure

/-- The body of the loop of `Apply` for one layer. -/
def applyLayer (layer client : HdiLayer) (ok : Bool) : DispStatus :=
  match layer.mCompositionType with
  | .video => clearRect client ok
  | .device => blitLayer layer client ok
  | _ => .success

/-- `Apply`: its status and the layers it visits. `blit i` is the answer of the blitter
for layer `i`. -/
def apply (blit : Nat → Bool) : Nat → List Nat → Hal (DispStatus × List Nat)
  | _, [] => return (.success, [])
  | i, n :: mCompLayers => do
      let layer ← derefLayer n
      let w ← get
      if applyLayer layer w.disp.mClientLayer (blit i) ≠ .success then return (.failure, [n])
      let (ret, visited) ← apply blit (i + 1) mCompLayers
      return (ret, n :: visited)

/-! ## `HdiDisplay` -/

/-- The loop of `PrepareDisplayLayers` over the changes. -/
def collectChanges : List Nat → Hal Unit
  | [] => return ()
  | n :: layers => do
      let layer ← derefLayer n
      if layer.mDeviceSelect ≠ layer.mCompositionType then
        modify fun w => w.setLayer n { layer with mCompositionType := layer.mDeviceSelect }
      modify fun w => { w with disp := { w.disp with
        mChangeLayers := w.disp.mChangeLayers ++ [n] } }
      collectChanges layers

/-- `PrepareDisplayLayers`. -/
def prepareDisplayLayers : Hal DispStatus := do
  modify fun w => { w with disp := { w.disp with
    mChangeLayers := []
    mClientLayer := { w.disp.mClientLayer with mZorder := 3 } } }
  let layers := (← get).disp.mLayers
  let _ ← setLayers layers
  collectChanges layers
  return .success

/-- `Commit`, which drops the status of the composer, and the layers its
`HdiGfxComposition` visits. The fence it returns comes from the other composition. -/
def commit (blit : Nat → Bool) : Hal (DispStatus × List Nat) := do
  let w ← get
  let (_, visited) ← apply blit 0 w.disp.mCompLayers
  return (.success, visited)

/-- `HdiSession::CallLayerFunction`. -/
def callLayerFunction (layerId : Nat) (f : HdiLayer → DispStatus × HdiLayer) : Hal DispStatus := do
  let w ← get
  match w.disp.mLayersMap layerId with
  | none => return .failure
  | some n =>
      let layer ← derefLayer n
      set (w.setLayer n (f layer).2)
      return (f layer).1

inductive Op where
  | layer (op : LayerOp)
  | setLayerCompositionType (layerId : Nat) (type : CompositionType)
  | setLayerBuffer (layerId : Nat) (buffer : Option BufferHandle)
  | setDisplayClientBuffer (buffer : Option BufferHandle)
  | prepareDisplayLayers
  | commit (blit : Nat → Bool)

/-- An operation, with the layers that a commit visits. -/
def step : Op → Hal (DispStatus × List Nat)
  | .layer op => (fun r => (r.1, [])) <$> layerStep op
  | .setLayerCompositionType id type =>
      (·, []) <$> callLayerFunction id fun l => (.success, { l with mCompositionType := type })
  | .setLayerBuffer id buffer =>
      (·, []) <$> callLayerFunction id fun l =>
        match buffer with
        | none => (.nullPtr, l)
        | some buffer => (.success, { l with mHdiBuffer := some buffer })
  | .setDisplayClientBuffer buffer => do
      if buffer.isSome then
        modify fun w => { w with disp := { w.disp with
          mClientLayer := { w.disp.mClientLayer with mHdiBuffer := buffer } } }
      return (.success, [])
  | .prepareDisplayLayers => (·, []) <$> prepareDisplayLayers
  | .commit blit => commit blit

/-! ## What a commit should visit -/

/-- The layers passed to `SetLayers` by the last `PrepareDisplayLayers`, less those
closed since, as the history of a display tells them. -/
def toBlit (w : World) (layers : List Nat) : Op → List Nat
  | .prepareDisplayLayers => w.disp.mLayers
  | .layer (.closeLayer id) =>
      match w.disp.mLayersMap id with
      | some n => layers.filter fun m => decide (m ≠ n)
      | none => layers
  | _ => layers

/-- What is asked of an operation: a commit visits these layers and no other, they are
layers of the display, and they come in z-order. -/
def BlitLaw (s : World × List Nat) (op : Op) (visited : List Nat) : Prop :=
  ∀ blit, op = .commit blit → visited = s.2 ∧
    (∀ n ∈ visited, ∃ id l, s.1.disp.mLayersMap id = some n ∧ s.1.disp.layers n = some l) ∧
    Roster.Sorted s.1.zorderOf visited

/-- `Apply` comes to every layer alive and to no closed one. -/
def visitsAll (w : World) (blit : Nat → Bool) : Nat → List Nat → Bool
  | _, [] => true
  | i, n :: mCompLayers =>
      match w.disp.layers n with
      | none => false
      | some layer =>
          if applyLayer layer w.disp.mClientLayer (blit i) = .success then
            visitsAll w blit (i + 1) mCompLayers
          else mCompLayers.all fun m => (w.disp.layers m).isNone

/-- The condition of an operation: a commit comes to all its layers before the blitter
stops it, none of them closed, and no z-order changes under a prepared layer. -/
def Op.Fresh (w : World) : Op → Prop
  | .commit blit => visitsAll w blit 0 w.disp.mCompLayers = true
  | .layer (.setLayerZorder id _) => ∀ n ∈ w.disp.mLayersMap id, n ∉ w.disp.mCompLayers
  | _ => True

instance (w : World) : (op : Op) → Decidable (op.Fresh w)
  | .commit _ => inferInstanceAs (Decidable (_ = true))
  | .layer (.setLayerZorder id _) =>
      inferInstanceAs (Decidable (∀ n ∈ w.disp.mLayersMap id, _))
  | .layer (.createLayer ..) | .layer (.closeLayer ..) | .setLayerCompositionType ..
  | .setLayerBuffer .. | .setDisplayClientBuffer .. | .prepareDisplayLayers =>
      inferInstanceAs (Decidable True)

/-! ## Operations that leave the registry alone -/

/-- The layers keep their places and z-orders. -/
structure Quiet (w w' : World) : Prop where
  layerIds : w'.layerIds = w.layerIds
  nextLayer : w'.disp.nextLayer = w.disp.nextLayer
  mLayersMap : w'.disp.mLayersMap = w.disp.mLayersMap
  mLayers : w'.disp.mLayers = w.disp.mLayers
  layers : ∀ n, (w'.disp.layers n).map HdiLayer.mZorder = (w.disp.layers n).map HdiLayer.mZorder

namespace Quiet

theorem refl (w : World) : Quiet w w := ⟨rfl, rfl, rfl, rfl, fun _ => rfl⟩

theorem trans {w₁ w₂ w₃ : World} (h : Quiet w₁ w₂) (h' : Quiet w₂ w₃) : Quiet w₁ w₃ where
  layerIds := h'.layerIds.trans h.layerIds
  nextLayer := h'.nextLayer.trans h.nextLayer
  mLayersMap := h'.mLayersMap.trans h.mLayersMap
  mLayers := h'.mLayers.trans h.mLayers
  layers := fun n => (h'.layers n).trans (h.layers n)

theorem setLayer {w : World} {n : Nat} {l l' : HdiLayer} (hl : w.disp.layers n = some l)
    (hz : l'.mZorder = l.mZorder) : Quiet w (w.setLayer n l') where
  layerIds := rfl
  nextLayer := rfl
  mLayersMap := rfl
  mLayers := rfl
  layers := by
    intro m
    simp only [World.setLayer, Function.update_apply]
    split
    · next hm => rw [hm, hl, Option.map_some, Option.map_some, hz]
    · rfl

theorem zorderOf {w w' : World} (h : Quiet w w') : w'.zorderOf = w.zorderOf := by
  have hread : ∀ v : World, v.zorderOf =
      fun n => ((v.disp.layers n).map HdiLayer.mZorder).getD 0 := by
    intro v
    funext n
    unfold World.zorderOf
    cases v.disp.layers n <;> rfl
  rw [hread, hread]
  funext n
  rw [h.layers n]

theorem isSome {w w' : World} (h : Quiet w w') (n : Nat) :
    (w'.disp.layers n).isSome = (w.disp.layers n).isSome := by
  have hn := congrArg Option.isSome (h.layers n)
  simpa using hn

theorem housed {w w' : World} (h : Quiet w w') (hs : Housed w) : Housed w' where
  files := by
    rw [h.zorderOf, h.mLayersMap, h.mLayers]
    exact hs.files
  live := by
    intro id n hid
    rw [h.mLayersMap] at hid
    obtain ⟨l, hl⟩ := hs.live id n hid
    have hsome := h.isSome n
    rw [hl] at hsome
    exact Option.isSome_iff_exists.1 hsome
  owned := by
    intro n l hl
    have hsome := h.isSome n
    rw [hl] at hsome
    obtain ⟨l', hl'⟩ := Option.isSome_iff_exists.1 hsome.symm
    rw [h.mLayersMap]
    exact hs.owned n l' hl'
  fresh := by
    intro n hn
    rw [h.nextLayer] at hn
    have hsome := h.isSome n
    rw [hs.fresh n hn] at hsome
    exact Option.isNone_iff_eq_none.1 (by simpa using hsome)

theorem sound {w w' : World} (h : Quiet w w') (hs : Sound w) : Sound w' where
  toHoused := h.housed hs.toHoused
  used := by
    intro id n hid
    rw [h.mLayersMap] at hid
    rw [h.layerIds]
    exact hs.used id n hid

end Quiet

/-- `SetLayerZorder` changes no other layer. -/
theorem setLayerZorder_frame {w : World} (h : Sound w) (layerId zorder : Nat) :
    Post (setLayerZorder layerId zorder) w
      (fun _ w' => w'.disp.mCompLayers = w.disp.mCompLayers ∧
        w'.disp.nextLayer = w.disp.nextLayer ∧
        ∀ m, w.disp.mLayersMap layerId ≠ some m → w'.disp.layers m = w.disp.layers m)
      (fun _ _ => False) := by
  unfold setLayerZorder
  rw [post_bind, post_get]
  cases hm : w.disp.mLayersMap layerId with
  | none => exact ⟨rfl, rfl, fun _ _ => rfl⟩
  | some n =>
      obtain ⟨layer, hlive⟩ := h.live layerId n hm
      dsimp only
      rw [post_bind]
      refine post_of_ok (derefLayer_of hlive) ?_
      by_cases hz : layer.mZorder = zorder
      · rw [if_pos hz]
        exact ⟨rfl, rfl, fun _ _ => rfl⟩
      · rw [if_neg hz]
        refine ⟨rfl, rfl, fun m hne => ?_⟩
        exact Function.update_of_ne (fun he => hne (congrArg some he.symm)) _ _

theorem callLayerFunction_post {w : World} (h : Sound w) (layerId : Nat)
    {f : HdiLayer → DispStatus × HdiLayer} (hz : ∀ l, (f l).2.mZorder = l.mZorder) :
    Post (callLayerFunction layerId f) w
      (fun _ w' => Quiet w w' ∧ w'.disp.mCompLayers = w.disp.mCompLayers)
      (fun _ _ => False) := by
  unfold callLayerFunction
  rw [post_bind, post_get]
  cases hm : w.disp.mLayersMap layerId with
  | none => exact ⟨Quiet.refl w, rfl⟩
  | some n =>
      obtain ⟨l, hl⟩ := h.live layerId n hm
      dsimp only
      rw [post_bind]
      refine post_of_ok (derefLayer_of hl) ?_
      simp only [post_bind, post_set, post_pure]
      exact ⟨Quiet.setLayer hl (hz l), rfl⟩

/-! ## Preparing a frame -/

/-- The loop of `SetLayers` over layers that are alive. -/
theorem select_post {layers : List Nat} :
    ∀ {w : World}, (∀ n ∈ layers, (w.disp.layers n).isSome = true) →
      Post (setLayers.select layers) w
        (fun _ w' => Quiet w w' ∧ w'.disp.mCompLayers = w.disp.mCompLayers ++ layers)
        (fun _ _ => False) := by
  induction layers with
  | nil =>
      intro w _
      exact ⟨Quiet.refl w, (List.append_nil _).symm⟩
  | cons n layers ih =>
      intro w hlive
      obtain ⟨l, hl⟩ := Option.isSome_iff_exists.1 (hlive n List.mem_cons_self)
      unfold setLayers.select
      rw [post_bind]
      refine post_of_ok (derefLayer_of hl) ?_
      simp only [post_bind, post_modify]
      have hq : Quiet w (w.setLayer n { l with mDeviceSelect :=
          if l.mCompositionType ≠ .video ∧ l.mCompositionType ≠ .cursor then .device
          else l.mCompositionType }) := Quiet.setLayer hl rfl
      have hq' : Quiet w { w.setLayer n { l with mDeviceSelect :=
            if l.mCompositionType ≠ .video ∧ l.mCompositionType ≠ .cursor then .device
            else l.mCompositionType } with
          disp := { (w.setLayer n { l with mDeviceSelect :=
            if l.mCompositionType ≠ .video ∧ l.mCompositionType ≠ .cursor then .device
            else l.mCompositionType }).disp with
          mCompLayers := w.disp.mCompLayers ++ [n] } } :=
        ⟨hq.layerIds, hq.nextLayer, hq.mLayersMap, hq.mLayers, hq.layers⟩
      refine (ih fun m hm => ?_).mono ?_ (fun _ _ hf => hf)
      · exact (hq'.isSome m).trans (hlive m (List.mem_cons_of_mem _ hm))
      · rintro r w' ⟨hrest, hcomp⟩
        refine ⟨hq'.trans hrest, ?_⟩
        rw [hcomp]
        exact List.append_assoc _ _ _

/-- The loop over the changes. -/
theorem collectChanges_post {layers : List Nat} :
    ∀ {w : World}, (∀ n ∈ layers, (w.disp.layers n).isSome = true) →
      Post (collectChanges layers) w
        (fun _ w' => Quiet w w' ∧ w'.disp.mCompLayers = w.disp.mCompLayers)
        (fun _ _ => False) := by
  induction layers with
  | nil =>
      intro w _
      exact ⟨Quiet.refl w, rfl⟩
  | cons n layers ih =>
      intro w hlive
      obtain ⟨l, hl⟩ := Option.isSome_iff_exists.1 (hlive n List.mem_cons_self)
      have hrest : ∀ w', Quiet w w' → w'.disp.mCompLayers = w.disp.mCompLayers →
          Post (do
            modify fun w => { w with disp := { w.disp with
              mChangeLayers := w.disp.mChangeLayers ++ [n] } }
            collectChanges layers : Hal Unit) w'
            (fun _ w'' => Quiet w w'' ∧ w''.disp.mCompLayers = w.disp.mCompLayers)
            (fun _ _ => False) := by
        intro w' hq hcomp
        simp only [post_bind, post_modify]
        refine (ih fun m hm => ?_).mono ?_ (fun _ _ hf => hf)
        · exact (hq.isSome m).trans (hlive m (List.mem_cons_of_mem _ hm))
        · rintro r w'' ⟨hq', hcomp'⟩
          refine ⟨hq.trans ⟨hq'.layerIds, hq'.nextLayer, hq'.mLayersMap, hq'.mLayers,
            hq'.layers⟩, hcomp'.trans hcomp⟩
      unfold collectChanges
      rw [post_bind]
      refine post_of_ok (derefLayer_of hl) ?_
      by_cases hsel : l.mDeviceSelect ≠ l.mCompositionType
      · rw [if_pos hsel, post_bind, post_modify]
        exact hrest _ (Quiet.setLayer hl rfl) rfl
      · rw [if_neg hsel]
        exact hrest w (Quiet.refl w) rfl

theorem Housed.listed_live {w : World} (h : Housed w) {n : Nat} (hn : n ∈ w.disp.mLayers) :
    (w.disp.layers n).isSome = true := by
  obtain ⟨id, hid⟩ := h.files.filed n hn
  obtain ⟨l, hl⟩ := h.live id n hid
  rw [hl]
  rfl

theorem prepareDisplayLayers_post {w : World} (h : Sound w) :
    Post prepareDisplayLayers w
      (fun _ w' => Quiet w w' ∧ w'.disp.mCompLayers = w.disp.mLayers) (fun _ _ => False) := by
  unfold prepareDisplayLayers setLayers
  simp only [post_bind, post_modify, post_get, post_pure]
  refine Post.mono (select_post ?_) ?_ (fun _ _ hf => hf)
  · exact fun n hn => h.listed_live hn
  rintro r w' ⟨hq, hcomp⟩
  have hq' : Quiet w w' := ⟨hq.layerIds, hq.nextLayer, hq.mLayersMap, hq.mLayers, hq.layers⟩
  refine (collectChanges_post fun n hn => ?_).mono ?_ (fun _ _ hf => hf)
  · exact (hq'.isSome n).trans (h.listed_live hn)
  · rintro r' w'' ⟨hq'', hcomp'⟩
    exact ⟨hq'.trans hq'', hcomp'.trans hcomp⟩

/-! ## Committing a frame -/

/-- `Apply` visits the layers alive and stops at none exactly on the condition. -/
theorem apply_visits_iff {w : World} {blit : Nat → Bool} {mCompLayers : List Nat} :
    ∀ {i : Nat}, Post (apply blit i mCompLayers) w
        (fun r w' => w' = w ∧ r.2 = mCompLayers.filter fun n => (w.disp.layers n).isSome)
        (fun _ _ => False) ↔ visitsAll w blit i mCompLayers = true := by
  induction mCompLayers with
  | nil =>
      intro i
      exact Iff.intro (fun _ => rfl) (fun _ => ⟨rfl, rfl⟩)
  | cons n mCompLayers ih =>
      intro i
      unfold apply visitsAll
      rw [post_bind]
      cases hl : w.disp.layers n with
      | none =>
          have hfault : derefLayer n w = .error .danglingLayer w := by
            unfold derefLayer
            rw [get_bind, hl]
            rfl
          unfold Post
          rw [hfault]
          simp
      | some l =>
          rw [post_iff_of_ok (derefLayer_of hl)]
          simp only [post_bind, post_get, List.filter_cons, hl, Option.isSome_some, if_true]
          by_cases hok : applyLayer l w.disp.mClientLayer (blit i) = .success
          · rw [if_neg (not_not.2 hok), if_pos hok, ← ih, post_bind]
            simp only [post_pure, List.cons.injEq, true_and]
          · rw [if_pos hok, if_neg hok]
            simp only [post_pure, List.cons.injEq, true_and]
            rw [eq_comm, List.filter_eq_nil_iff, List.all_eq_true]
            simp

/-! ## The history of a display -/

/-- The composition holds the layers to blit, and perhaps some that are closed. -/
structure Prepared (s : World × List Nat) : Prop where
  sound : Sound s.1
  shown : s.2 = s.1.disp.mCompLayers.filter fun n => (s.1.disp.layers n).isSome
  sorted : Roster.Sorted s.1.zorderOf s.2
  made : ∀ n ∈ s.1.disp.mCompLayers, n < s.1.disp.nextLayer

theorem prepared_start (layerIds : IdPool) : Prepared (World.start layerIds, []) where
  sound := sound_start layerIds
  shown := rfl
  sorted := List.Pairwise.nil
  made := by simp [World.start]

theorem Prepared.quiet {s : World × List Nat} {w' : World} (h : Prepared s) (hq : Quiet s.1 w')
    (hcomp : w'.disp.mCompLayers = s.1.disp.mCompLayers) : Prepared (w', s.2) where
  sound := hq.sound h.sound
  shown := by
    dsimp only
    rw [hcomp, h.shown]
    exact List.filter_congr fun n _ => (hq.isSome n).symm
  sorted := by
    dsimp only
    rw [hq.zorderOf]
    exact h.sorted
  made := by
    dsimp only
    rw [hcomp, hq.nextLayer]
    exact h.made

/-- A layer that is not prepared is made, or changes its z-order. -/
theorem Prepared.beside {s : World × List Nat} {w' : World} (h : Prepared s)
    (hsound : Sound w') (hcomp : w'.disp.mCompLayers = s.1.disp.mCompLayers)
    (hnext : s.1.disp.nextLayer ≤ w'.disp.nextLayer)
    (hlayers : ∀ n ∈ s.1.disp.mCompLayers, w'.disp.layers n = s.1.disp.layers n) :
    Prepared (w', s.2) where
  sound := hsound
  shown := by
    dsimp only
    rw [hcomp, h.shown]
    refine List.filter_congr fun n hn => ?_
    rw [hlayers n hn]
  sorted := by
    refine h.sorted.congr fun n hn => ?_
    rw [h.shown, List.mem_filter] at hn
    unfold World.zorderOf
    dsimp only
    rw [hlayers n hn.1]
  made := by
    dsimp only
    rw [hcomp]
    exact fun n hn => (h.made n hn).trans_le hnext

theorem Prepared.closed {s : World × List Nat} (h : Prepared s) {layerId n : Nat}
    (hm : s.1.disp.mLayersMap layerId = some n) :
    Prepared (s.1.closed layerId n, s.2.filter fun m => decide (m ≠ n)) where
  sound := h.sound.closed hm
  shown := by
    show _ = s.1.disp.mCompLayers.filter fun m => (Function.update s.1.disp.layers n none m).isSome
    rw [h.shown, List.filter_filter]
    refine List.filter_congr fun m _ => ?_
    by_cases hmn : m = n
    · simp [hmn]
    · simp [hmn]
  sorted := by
    refine (h.sorted.sublist List.filter_sublist).congr fun m hmem => ?_
    exact zorderOf_update rfl (by simpa using (List.mem_filter.1 hmem).2)
  made := h.made

/-- **A commit meets the law exactly on the condition.** -/
theorem commit_law_iff {s : World × List Nat} (h : Prepared s) (blit : Nat → Bool) :
    Post (step (.commit blit)) s.1 (fun r w' => BlitLaw s (.commit blit) r.2 ∧ w' = s.1)
        (fun _ _ => False) ↔ (Op.commit blit).Fresh s.1 := by
  have hlive : ∀ n ∈ s.2, ∃ id l,
      s.1.disp.mLayersMap id = some n ∧ s.1.disp.layers n = some l := by
    intro n hn
    rw [h.shown, List.mem_filter] at hn
    obtain ⟨l, hl⟩ := Option.isSome_iff_exists.1 hn.2
    obtain ⟨id, hid⟩ := h.sound.owned n l hl
    exact ⟨id, l, hid, hl⟩
  have hlaw : ∀ visited, BlitLaw s (.commit blit) visited ↔ visited = s.2 := by
    intro visited
    constructor
    · intro hv
      exact (hv blit rfl).1
    · rintro rfl blit' -
      exact ⟨rfl, hlive, h.sorted⟩
  show Post (commit blit) s.1 _ _ ↔ visitsAll s.1 blit 0 s.1.disp.mCompLayers = true
  unfold commit
  simp only [post_bind, post_get, post_pure]
  rw [← apply_visits_iff]
  have hsame : ∀ r : DispStatus × List Nat, BlitLaw s (.commit blit) r.2 ↔
      r.2 = s.1.disp.mCompLayers.filter fun n => (s.1.disp.layers n).isSome := by
    intro r
    rw [hlaw, h.shown]
  constructor
  · exact fun hp => hp.mono (fun r w' hr => ⟨hr.2, (hsame r).1 hr.1⟩) (fun _ _ hf => hf)
  · exact fun hp => hp.mono (fun r w' hr => ⟨(hsame r).2 hr.2, hr.1⟩) (fun _ _ hf => hf)

/-- **One operation** that meets the condition obeys the law and keeps the history. -/
theorem step_prepared {s : World × List Nat} {op : Op} (h : Prepared s) (hop : op.Fresh s.1) :
    Post (step op) s.1 (fun r w' => BlitLaw s op r.2 ∧ Prepared (w', toBlit s.1 s.2 op))
      (fun e _ => e = .diverges) := by
  cases op with
  | commit blit =>
      refine ((commit_law_iff h blit).2 hop).mono ?_ (fun _ _ hf => hf.elim)
      rintro r w' ⟨hlaw, rfl⟩
      exact ⟨hlaw, h⟩
  | prepareDisplayLayers =>
      show Post (_ <$> prepareDisplayLayers) s.1 _ _
      rw [post_map]
      refine (prepareDisplayLayers_post h.sound).mono ?_ (fun _ _ hf => hf.elim)
      rintro r w' ⟨hq, hcomp⟩
      refine ⟨fun _ he => absurd he (by simp), hq.sound h.sound, ?_, ?_, ?_⟩
      · dsimp only [toBlit]
        rw [hcomp, eq_comm, List.filter_eq_self]
        exact fun n hn => (hq.isSome n).trans (h.sound.listed_live hn)
      · dsimp only [toBlit]
        rw [hq.zorderOf]
        exact h.sound.files.sorted
      · dsimp only
        rw [hcomp, hq.nextLayer]
        intro n hn
        by_contra hge
        have hlive := h.sound.listed_live hn
        rw [h.sound.fresh n (by omega)] at hlive
        exact absurd hlive (by simp)
  | setLayerCompositionType id type =>
      show Post (_ <$> callLayerFunction id _) s.1 _ _
      rw [post_map]
      refine (callLayerFunction_post h.sound id fun _ => rfl).mono ?_ (fun _ _ hf => hf.elim)
      rintro r w' ⟨hq, hcomp⟩
      exact ⟨fun _ he => absurd he (by simp), h.quiet hq hcomp⟩
  | setLayerBuffer id buffer =>
      show Post (_ <$> callLayerFunction id _) s.1 _ _
      rw [post_map]
      refine (callLayerFunction_post h.sound id fun l => ?_).mono ?_ (fun _ _ hf => hf.elim)
      · cases buffer <;> rfl
      · rintro r w' ⟨hq, hcomp⟩
        exact ⟨fun _ he => absurd he (by simp), h.quiet hq hcomp⟩
  | setDisplayClientBuffer buffer =>
      have hno : ∀ visited, BlitLaw s (.setDisplayClientBuffer buffer) visited :=
        fun _ _ he => absurd he (by simp)
      cases buffer with
      | none => exact ⟨hno _, h⟩
      | some buffer => exact ⟨hno _, h.quiet ⟨rfl, rfl, rfl, rfl, fun _ => rfl⟩ rfl⟩
  | layer op =>
      have hno : ∀ visited, BlitLaw s (.layer op) visited := fun _ _ he => absurd he (by simp)
      show Post (_ <$> layerStep op) s.1 _ _
      rw [post_map]
      have hsound := layerStep_sound h.sound op
      cases op with
      | createLayer i l =>
          rcases createLayer_cases h.sound i l with ⟨ret, heq⟩ | ⟨layerIds, heq, -⟩ |
            ⟨id, layerIds, heq, -, -⟩ | heq
          · exact post_of_ok heq ⟨hno _, h⟩
          · exact post_of_ok heq ⟨hno _, h.beside (hsound.of_ok heq) rfl (Nat.le_refl _)
              fun _ _ => rfl⟩
          · refine post_of_ok heq ⟨hno _, h.beside (hsound.of_ok heq) rfl (Nat.le_succ _) ?_⟩
            intro n hn
            exact Function.update_of_ne (Nat.ne_of_lt (h.made n hn)) _ _
          · unfold Post
            have heq' : layerStep (.createLayer i l) s.1 = .error .diverges s.1 := heq
            rw [heq']
      | setLayerZorder id z =>
          show Post (_ <$> setLayerZorder id z) s.1 _ _
          rw [post_map]
          refine ((setLayerZorder_post h.sound id z).and
            (setLayerZorder_frame h.sound id z)).mono ?_ (fun _ _ hf => hf.1.elim)
          rintro r w' ⟨⟨hs, -⟩, hcomp, hnext, hlayers⟩
          refine ⟨hno _, h.beside hs hcomp hnext.ge fun n hn => hlayers n fun hm => ?_⟩
          exact hop n hm hn
      | closeLayer id =>
          show Post (_ <$> closeLayer id) s.1 _ _
          rw [post_map]
          cases hm : s.1.disp.mLayersMap id with
          | none =>
              refine post_of_ok (closeLayer_of_none hm) ⟨hno _, ?_⟩
              simp only [toBlit, hm]
              exact h
          | some n =>
              refine post_of_ok (closeLayer_of hm) ⟨hno _, ?_⟩
              simp only [toBlit, hm]
              exact h.closed hm

/-- **Every commit of a run blits the current layers.** In a run whose commits find no
closed layer in the composition and are not stopped early by the blitter, each commit
visits exactly the layers of the last `PrepareDisplayLayers` that are still there, in
z-order. -/
theorem blits_current (layerIds : IdPool) {ops : List Op}
    (hops : Meets (noting toBlit step) (fun s op => op.Fresh s.1) (World.start layerIds, []) ops) :
    Meets (noting toBlit step) (fun s op => Post (step op) s.1 (fun r _ => BlitLaw s op r.2)
      (fun e _ => e = .diverges)) (World.start layerIds, []) ops := by
  refine meets_imp (I := Prepared) ?_ ?_ (prepared_start layerIds) hops
  · intro s op h hop
    rw [post_noting]
    exact (step_prepared h hop).mono (fun _ _ hr => hr.2) (fun _ _ _ => trivial)
  · intro s op h hop
    exact (step_prepared h hop).mono (fun _ _ hr => hr.1) (fun _ _ he => he)

/-- Two layers with buffers, and a client buffer, are prepared. -/
def twoLayers : List Op :=
  [.layer (.createLayer false false), .layer (.createLayer false false),
    .setLayerBuffer 0 (some ⟨5, 64, 64, 256, 12, 0⟩),
    .setLayerBuffer 1 (some ⟨6, 64, 64, 256, 12, 0⟩),
    .setDisplayClientBuffer (some ⟨7, 64, 64, 256, 12, 0⟩), .prepareDisplayLayers]

theorem blits_current_two :
    Meets (noting toBlit step) (fun s op => Post (step op) s.1 (fun r _ => BlitLaw s op r.2)
      (fun e _ => e = .diverges)) (World.start {}, []) (twoLayers ++ [.commit fun _ => true]) :=
  blits_current {} (by decide +kernel)

/-- **A layer closed after `PrepareDisplayLayers` is read by the next commit.** -/
theorem blit_closed :
    ¬ Meets (noting toBlit step) (fun s op => Post (step op) s.1 (fun r _ => BlitLaw s op r.2)
      (fun e _ => e = .diverges)) (World.start {}, [])
      [.layer (.createLayer false false), .prepareDisplayLayers, .layer (.closeLayer 0),
        .commit fun _ => true] := by
  intro hlaw
  have hpost := run_post (I := fun _ => True) (E := fun e _ => e = .diverges) (fun s op _ hop =>
    post_noting.2 (hop.mono (fun _ _ _ => trivial) (fun _ _ he => he))) trivial hlaw
  have hfault : faults (run (noting toBlit step) [.layer (.createLayer false false),
      .prepareDisplayLayers, .layer (.closeLayer 0), .commit fun _ => true])
      (World.start {}, []) (fun e => decide (e = .danglingLayer)) = true := by decide +kernel
  obtain ⟨e, s', hrun, he⟩ := faults_iff.1 hfault
  have hdiv := hpost.of_error hrun
  rw [hdiv] at he
  exact absurd he (by decide)

end QemuHal.Common
