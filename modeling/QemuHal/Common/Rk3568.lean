import QemuHal.Common.Blit

/-!
# Composition types in the rk3568 HAL

`HdiDisplay` of `hardware.rk3568` differs from that of the common HAL in two places. A layer
that is destroyed gives its id back. And `UseCompositionClient` has every layer composed by
the client when one of them is, or when there are more than four; `PrepareDisplayLayers`
writes the choice back into the field it is made from. `composition_iff` says which histories
make the same choice.
-/

namespace QemuHal.Common.Rk3568

open Exec

/-! ## `HdiGfxComposition` -/

/-- `UseCompositionClient`, with the count and the flag of its loop. `CanHandle` is true of
every layer. -/
def useCompositionClientFrom (layerCount : Nat) (hasCompositionClient : Bool) :
    List Nat → Hal Bool
  | [] => return hasCompositionClient || decide (layerCount > 4)
  | n :: layers => do
      let layer ← derefLayer n
      let type := layer.mCompositionType
      let layerCount := layerCount + if type ≠ .video ∧ type ≠ .cursor then 1 else 0
      useCompositionClientFrom layerCount (hasCompositionClient || decide (type = .client)) layers

def useCompositionClient (layers : List Nat) : Hal Bool := useCompositionClientFrom 0 false layers

/-- The type `SetLayers` gives a layer of this type. -/
def pick (defaultCompType type : CompositionType) : CompositionType :=
  if type = .video ∨ type = .cursor then type else defaultCompType

/-- The loop of `SetLayers`. -/
def select (defaultCompType : CompositionType) : List Nat → Hal Unit
  | [] => return ()
  | n :: layers => do
      let layer ← derefLayer n
      modify fun w => w.setLayer n
        { layer with mDeviceSelect := pick defaultCompType layer.mCompositionType }
      modify fun w => { w with disp := { w.disp with
        mCompLayers := w.disp.mCompLayers ++ [n] } }
      select defaultCompType layers

/-- `SetLayers`. -/
def setLayers (layers : List Nat) : Hal DispStatus := do
  let client ← useCompositionClient layers
  modify fun w => { w with disp := { w.disp with mCompLayers := [] } }
  select (if client then .client else .device) layers
  return .success

/-! ## `HdiDisplay` -/

/-- `~HdiLayer` of a layer with this id. -/
def returnId (mId : Nat) : Hal Unit :=
  modify fun w => { w with layerIds := { w.layerIds with mIdSets := w.layerIds.mIdSets.erase mId } }

/-- A search of the multiset, which compares the z-orders of the layers in it. -/
def searchLayers : List Nat → Hal Unit
  | [] => return ()
  | n :: mLayers => do
      let _ ← derefLayer n
      searchLayers mLayers

/-- `CreateLayer`. -/
def createLayer (layerInfoNull layerIdNull : Bool) : Hal (DispStatus × Option Nat) := do
  if layerInfoNull then return (.paramErr, none)
  if layerIdNull then return (.paramErr, none)
  let w ← get
  match w.layerIds.getIdleId invalidLayerId with
  | none => throw .diverges
  | some (id, layerIds) =>
      set { w with layerIds }
      if id = invalidLayerId then
        -- `Init` fails before it sets `mId`, so the destructor gives back id `0`
        returnId 0
        return (.failure, none)
      searchLayers w.disp.mLayers
      match w.disp.mLayersMap id with
      | none =>
          set (w.created id layerIds)
      | some _ =>
          -- `emplace` drops the new layer; `mLayers` keeps the pointer
          let n := w.disp.nextLayer
          set { w with layerIds, disp := { w.disp with
            nextLayer := n + 1
            mLayers := Roster.insert (w.setLayer n { mId := id }).zorderOf n w.disp.mLayers } }
          returnId id
      return (.success, some id)

/-- `SetLayerZorder`. -/
def setLayerZorder (layerId zorder : Nat) : Hal DispStatus := do
  let w ← get
  match w.disp.mLayersMap layerId with
  | none => return .failure
  | some n =>
      let layer ← derefLayer n
      if layer.mZorder = zorder then return .success
      searchLayers w.disp.mLayers
      let mLayers := Roster.erase w.zorderOf n w.disp.mLayers
      let w := w.setLayer n { layer with mZorder := zorder }
      set { w with disp := { w.disp with mLayers := Roster.insert w.zorderOf n mLayers } }
      return .success

/-- `DestroyLayer`. -/
def destroyLayer (layerId : Nat) : Hal DispStatus := do
  let w ← get
  match w.disp.mLayersMap layerId with
  | none => return .failure
  | some n =>
      let layer ← derefLayer n
      searchLayers w.disp.mLayers
      set { w with disp := { w.disp with
        mLayers := Roster.eraseEquiv w.zorderOf n w.disp.mLayers
        mLayersMap := Function.update w.disp.mLayersMap layerId none
        layers := Function.update w.disp.layers n none } }
      returnId layer.mId
      return .success

/-- `PrepareDisplayLayers`. -/
def prepareDisplayLayers : Hal DispStatus := do
  modify fun w => { w with disp := { w.disp with
    mChangeLayers := []
    mClientLayer := { w.disp.mClientLayer with mZorder := 3 } } }
  let layers := (← get).disp.mLayers
  let _ ← setLayers layers
  collectChanges layers
  return .success

inductive Op where
  | createLayer (layerInfoNull layerIdNull : Bool)
  | destroyLayer (layerId : Nat)
  | setLayerZorder (layerId zorder : Nat)
  | setLayerCompositionType (layerId : Nat) (type : CompositionType)
  | setLayerBuffer (layerId : Nat) (buffer : Option BufferHandle)
  | prepareDisplayLayers

def step : Op → Hal (DispStatus × Option Nat)
  | .createLayer i l => createLayer i l
  | .destroyLayer id => (·, none) <$> destroyLayer id
  | .setLayerZorder id z => (·, none) <$> setLayerZorder id z
  | .setLayerCompositionType id type =>
      (·, none) <$> callLayerFunction id fun l => (.success, { l with mCompositionType := type })
  | .setLayerBuffer id buffer =>
      (·, none) <$> callLayerFunction id fun l =>
        match buffer with
        | none => (.nullPtr, l)
        | some buffer => (.success, { l with mHdiBuffer := some buffer })
  | .prepareDisplayLayers => (·, none) <$> prepareDisplayLayers

/-! ## The law -/

/-- The type last requested for each layer. A layer starts as a client layer. -/
abbrev Requested := Nat → CompositionType

def noteRequested (w : World) (requested : Requested) : Op → Requested
  | .setLayerCompositionType id type =>
      match w.disp.mLayersMap id with
      | some n => Function.update requested n type
      | none => requested
  | _ => requested

/-- The state a history of a display ends in. Other displays have taken ids of the pool. -/
def Ends (ops : List Op) (s : World × Requested) : Prop :=
  ∃ layerIds rets, run (noting noteRequested step) ops (World.start layerIds, fun _ => .client) =
    .ok rets s

def layerId (w : World) (n : Nat) : Option Nat := (w.disp.layers n).map HdiLayer.mId

def compositionType (w : World) (n : Nat) : CompositionType :=
  ((w.disp.layers n).map HdiLayer.mCompositionType).getD .client

def deviceSelect (w : World) (n : Nat) : Option CompositionType :=
  (w.disp.layers n).map HdiLayer.mDeviceSelect

/-- The layers of the display in order, each with the type last requested for it. -/
def view (s : World × Requested) : List (Option Nat × CompositionType) :=
  s.1.disp.mLayers.map fun n => (layerId s.1 n, s.2 n)

/-- The next `PrepareDisplayLayers` selects the same types on both displays. -/
structure SelectsSame (w₁ w₂ : World) : Prop where
  selects : Post prepareDisplayLayers w₁
    (fun _ w₁' => Post prepareDisplayLayers w₂
      (fun _ w₂' => w₁'.disp.mLayers.map (deviceSelect w₁') = w₂'.disp.mLayers.map (deviceSelect w₂'))
      (fun _ _ => False))
    (fun _ _ => False)

/-- **The law.** The choice is a function of the layers and what is requested for them. -/
def HistoryIndependent : Prop :=
  ∀ ops₁ ops₂ s₁ s₂, Ends ops₁ s₁ → Ends ops₂ s₂ → view s₁ = view s₂ → SelectsSame s₁.1 s₂.1

def fixed (type : CompositionType) : Bool := decide (type = .video ∨ type = .cursor)

/-- The requests alone call for the client. -/
def busy (requests : List CompositionType) : Bool :=
  requests.any (fun r => decide (r = .client)) || decide (4 < requests.countP (!fixed ·))

/-- The layers of the list are alive. -/
def Alive (w : World) (layers : List Nat) : Prop := ∀ n ∈ layers, (w.disp.layers n).isSome = true

instance (w : World) (layers : List Nat) : Decidable (Alive w layers) :=
  inferInstanceAs (Decidable (∀ n ∈ layers, _))

/-- The requests do not call for the client, but a layer is still a client layer. -/
def stale (s : World × Requested) : Bool :=
  !busy (s.1.disp.mLayers.map s.2) &&
    s.1.disp.mLayers.any fun n => decide (compositionType s.1 n = .client)

/-! ## Preparing a frame -/

/-- What the loop of `UseCompositionClient` finds. -/
def wantsClient (w : World) : Bool :=
  w.disp.mLayers.any (fun n => decide (compositionType w n = .client)) ||
    decide (4 < w.disp.mLayers.countP fun n => !fixed (compositionType w n))

def defaultCompType (w : World) : CompositionType := if wantsClient w then .client else .device

/-- Some layers are changed, in what is not their place nor their z-order. -/
def changed (w : World) (layers : List Nat) (f : HdiLayer → HdiLayer) (n : Nat) :
    Option HdiLayer :=
  if n ∈ layers then (w.disp.layers n).map f else w.disp.layers n

theorem compositionType_of {w : World} {n : Nat} {l : HdiLayer} (h : w.disp.layers n = some l) :
    compositionType w n = l.mCompositionType := by
  unfold compositionType
  rw [h]
  rfl

theorem Alive.head {w : World} {n : Nat} {layers : List Nat} (h : Alive w (n :: layers)) :
    ∃ l, w.disp.layers n = some l :=
  Option.isSome_iff_exists.1 (h n List.mem_cons_self)

/-- The rest of a list is alive whatever its first layer becomes. -/
theorem Alive.setLayer {w : World} {n : Nat} {layers : List Nat} (h : Alive w (n :: layers))
    (l : HdiLayer) : Alive (w.setLayer n l) layers := by
  intro m hm
  have hlive := h m (List.mem_cons_of_mem n hm)
  simp only [World.setLayer, Function.update_apply]
  split
  · rfl
  · exact hlive

theorem searchLayers_of {w : World} :
    ∀ {mLayers : List Nat}, Alive w mLayers → searchLayers mLayers w = .ok () w
  | [], _ => rfl
  | n :: mLayers, h => by
      obtain ⟨l, hl⟩ := h.head
      unfold searchLayers
      rw [bind_of_ok (derefLayer_of hl)]
      exact searchLayers_of fun m hm => h m (List.mem_cons_of_mem n hm)

theorem derefLayer_dangling {w : World} {n : Nat} (h : w.disp.layers n = none) :
    derefLayer n w = .error .danglingLayer w := by
  unfold derefLayer
  rw [get_bind, h]
  rfl

/-- A program that reads a list of layers one by one comes to a dangling pointer in it. -/
theorem not_alive_cons {w : World} {n : Nat} {layers : List Nat} (h : ¬ Alive w (n :: layers)) :
    w.disp.layers n = none ∨ (∃ l, w.disp.layers n = some l) ∧ ¬ Alive w layers := by
  cases hl : w.disp.layers n with
  | none => exact Or.inl rfl
  | some l =>
      refine Or.inr ⟨⟨l, rfl⟩, fun halive => h fun m hm => ?_⟩
      rcases List.mem_cons.1 hm with rfl | hm
      · rw [hl]
        rfl
      · exact halive m hm

theorem searchLayers_dangling {w : World} :
    ∀ {mLayers : List Nat}, ¬ Alive w mLayers → searchLayers mLayers w = .error .danglingLayer w
  | [], h => absurd (fun n hn => absurd hn List.not_mem_nil) h
  | n :: mLayers, h => by
      unfold searchLayers
      rcases not_alive_cons h with hl | ⟨⟨l, hl⟩, hrest⟩
      · rw [bind_of_error (derefLayer_dangling hl)]
      · rw [bind_of_ok (derefLayer_of hl)]
        exact searchLayers_dangling hrest

theorem useCompositionClientFrom_dangling {w : World} (layers : List Nat) (h : ¬ Alive w layers)
    (layerCount : Nat) (hasCompositionClient : Bool) :
    useCompositionClientFrom layerCount hasCompositionClient layers w =
      .error .danglingLayer w := by
  induction layers generalizing layerCount hasCompositionClient with
  | nil => exact absurd (fun n hn => absurd hn List.not_mem_nil) h
  | cons n layers ih =>
      unfold useCompositionClientFrom
      rcases not_alive_cons h with hl | ⟨⟨l, hl⟩, hrest⟩
      · rw [bind_of_error (derefLayer_dangling hl)]
      · rw [bind_of_ok (derefLayer_of hl)]
        exact ih hrest _ _

theorem useCompositionClientFrom_post {w : World} (layers : List Nat) (h : Alive w layers)
    (layerCount : Nat) (hasCompositionClient : Bool) :
    Post (useCompositionClientFrom layerCount hasCompositionClient layers) w
      (fun client w' => w' = w ∧ client = (hasCompositionClient ||
        layers.any (fun n => decide (compositionType w n = .client)) ||
        decide (4 < layerCount + layers.countP fun n => !fixed (compositionType w n))))
      (fun _ _ => False) := by
  induction layers generalizing layerCount hasCompositionClient with
  | nil => simp [useCompositionClientFrom]
  | cons n layers ih =>
      obtain ⟨l, hl⟩ := h.head
      unfold useCompositionClientFrom
      rw [post_bind]
      refine post_of_ok (derefLayer_of hl) ?_
      refine (ih (fun m hm => h m (List.mem_cons_of_mem n hm)) _ _).mono ?_ (fun _ _ hf => hf)
      rintro client w' ⟨rfl, rfl⟩
      refine ⟨rfl, ?_⟩
      have hcount : (if l.mCompositionType ≠ .video ∧ l.mCompositionType ≠ .cursor then 1 else 0) =
          if (!fixed l.mCompositionType) = true then 1 else 0 := by
        unfold fixed
        cases l.mCompositionType <;> rfl
      rw [List.any_cons, List.countP_cons, compositionType_of hl, hcount, Nat.add_assoc,
        Nat.add_comm (if (!fixed l.mCompositionType) = true then 1 else 0)]
      simp only [Bool.or_assoc]

@[simp] theorem changed_nil (w : World) (f : HdiLayer → HdiLayer) :
    changed w [] f = w.disp.layers := by
  funext n
  simp [changed]

/-- Changing layers one by one. -/
theorem changed_cons {w : World} {n : Nat} {layers : List Nat} {l : HdiLayer}
    {f : HdiLayer → HdiLayer} (hl : w.disp.layers n = some l) (hf : ∀ l, f (f l) = f l) :
    changed (w.setLayer n (f l)) layers f = changed w (n :: layers) f := by
  funext m
  unfold changed
  simp only [World.setLayer, Function.update_apply, List.mem_cons]
  by_cases hm : m = n
  · subst hm
    rw [hl]
    simp [hf]
  · simp [hm]

theorem select_post (default : CompositionType) (layers : List Nat) :
    ∀ {w : World}, Alive w layers →
      Post (select default layers) w
        (fun _ w' => w' = { w with disp := { w.disp with
          layers := changed w layers fun l =>
            { l with mDeviceSelect := pick default l.mCompositionType }
          mCompLayers := w.disp.mCompLayers ++ layers } })
        (fun _ _ => False) := by
  induction layers with
  | nil =>
      intro w _
      show w = _
      rw [changed_nil, List.append_nil]
  | cons n layers ih =>
      intro w h
      obtain ⟨l, hl⟩ := h.head
      unfold select
      rw [post_bind]
      refine post_of_ok (derefLayer_of hl) ?_
      rw [post_bind, post_modify, post_bind, post_modify]
      refine (ih ?_).mono ?_ (fun _ _ hf => hf)
      · exact h.setLayer { l with mDeviceSelect := pick default l.mCompositionType }
      · rintro _ w' rfl
        have hchanged := @changed_cons w n layers l
          (fun l => { l with mDeviceSelect := pick default l.mCompositionType }) hl fun _ => rfl
        rw [← hchanged, List.append_cons w.disp.mCompLayers n layers]
        rfl

theorem collectChanges_changed (layers : List Nat) :
    ∀ {w : World}, Alive w layers →
      Post (collectChanges layers) w
        (fun _ w' => w' = { w with disp := { w.disp with
          layers := changed w layers fun l => { l with mCompositionType := l.mDeviceSelect }
          mChangeLayers := w.disp.mChangeLayers ++ layers } })
        (fun _ _ => False) := by
  induction layers with
  | nil =>
      intro w _
      show w = _
      rw [changed_nil, List.append_nil]
  | cons n layers ih =>
      intro w h
      obtain ⟨l, hl⟩ := h.head
      -- a layer whose type is the selected one is left as it is
      have hset : (if l.mDeviceSelect ≠ l.mCompositionType then
          w.setLayer n { l with mCompositionType := l.mDeviceSelect } else w) =
          w.setLayer n { l with mCompositionType := l.mDeviceSelect } := by
        split
        · rfl
        · next hsame =>
            have heq : ({ l with mCompositionType := l.mDeviceSelect } : HdiLayer) = l := by
              cases l
              simpa using hsame
            rw [heq, World.setLayer, ← hl, Function.update_eq_self]
      have hrest : Post (do
            modify fun w => { w with disp := { w.disp with
              mChangeLayers := w.disp.mChangeLayers ++ [n] } }
            collectChanges layers : Hal Unit)
          (w.setLayer n { l with mCompositionType := l.mDeviceSelect })
          (fun _ w' => w' = { w with disp := { w.disp with
            layers := changed w (n :: layers) fun l => { l with mCompositionType := l.mDeviceSelect }
            mChangeLayers := w.disp.mChangeLayers ++ n :: layers } })
          (fun _ _ => False) := by
        rw [post_bind, post_modify]
        refine (ih ?_).mono ?_ (fun _ _ hf => hf)
        · exact h.setLayer { l with mCompositionType := l.mDeviceSelect }
        · rintro _ w' rfl
          have hchanged := @changed_cons w n layers l
            (fun l => { l with mCompositionType := l.mDeviceSelect }) hl fun _ => rfl
          rw [← hchanged, List.append_cons w.disp.mChangeLayers n layers]
          rfl
      unfold collectChanges
      rw [post_bind]
      refine post_of_ok (derefLayer_of hl) ?_
      split
      · rw [post_bind, post_modify]
        exact hrest
      · next hsame =>
          rw [if_neg hsame] at hset
          rw [← hset] at hrest
          exact hrest

/-- The layers of a display as `PrepareDisplayLayers` leaves them. -/
def prepared (w : World) : Nat → Option HdiLayer :=
  changed w w.disp.mLayers fun l => { l with
    mDeviceSelect := pick (defaultCompType w) l.mCompositionType
    mCompositionType := pick (defaultCompType w) l.mCompositionType }

theorem prepareDisplayLayers_post {w : World} (h : Housed w) :
    Post prepareDisplayLayers w
      (fun _ w' => Quiet w w' ∧ w'.disp.layers = prepared w) (fun _ _ => False) := by
  have halive : Alive w w.disp.mLayers := fun n hn => h.listed_live hn
  unfold prepareDisplayLayers setLayers useCompositionClient
  simp only [post_bind, post_modify, post_get, post_pure]
  refine Post.mono (useCompositionClientFrom_post _ (by exact halive) 0 false) ?_
    (fun _ _ hf => hf)
  rintro client w₁ ⟨rfl, hclient⟩
  replace hclient : client = wantsClient w := by
    rw [hclient, Bool.false_or, Nat.zero_add]
    rfl
  subst hclient
  refine Post.mono (select_post (defaultCompType w) _ (by exact halive)) ?_
    (fun _ _ hf => hf)
  rintro - w₂ rfl
  refine Post.mono (collectChanges_changed _ fun n hn => ?_) ?_ (fun _ _ hf => hf)
  · have hlive := halive n hn
    simp only [changed]
    rw [if_pos hn, Option.isSome_map]
    exact hlive
  · rintro - w₃ rfl
    have hlayers : changed { w with disp := { w.disp with layers := changed w w.disp.mLayers fun l =>
          { l with mDeviceSelect := pick (defaultCompType w) l.mCompositionType } } } w.disp.mLayers
          (fun l => { l with mCompositionType := l.mDeviceSelect }) = prepared w := by
      funext n
      simp only [changed, prepared]
      split
      · rw [Option.map_map]
        rfl
      · rfl
    refine ⟨⟨rfl, rfl, rfl, rfl, fun n => ?_⟩, hlayers⟩
    show (changed { w with disp := { w.disp with layers := changed w w.disp.mLayers fun l =>
          { l with mDeviceSelect := pick (defaultCompType w) l.mCompositionType } } } w.disp.mLayers
          (fun l => { l with mCompositionType := l.mDeviceSelect }) n).map HdiLayer.mZorder = _
    rw [hlayers]
    unfold prepared changed
    split
    · rw [Option.map_map]
      rfl
    · rfl

theorem prepareDisplayLayers_dangling {w : World} (h : ¬ Alive w w.disp.mLayers) :
    Post prepareDisplayLayers w (fun _ _ => False) (fun _ _ => True) := by
  unfold prepareDisplayLayers setLayers useCompositionClient
  simp only [post_bind, post_modify, post_get]
  have hfault := useCompositionClientFrom_dangling
    (w := { w with disp := { w.disp with
      mChangeLayers := []
      mClientLayer := { w.disp.mClientLayer with mZorder := 3 } } }) w.disp.mLayers h 0 false
  exact post_of_error hfault trivial

/-! ## What is requested and what is set -/

/-- The type of a layer, against the one requested for it: videos and cursors are left
alone, and a client layer stays one. -/
structure Follows (requested type : CompositionType) : Prop where
  same : fixed requested = true ∨ fixed type = true → type = requested
  client : requested = .client → type = .client

/-- A display and the requests made for its layers. -/
structure Tracked (s : World × Requested) : Prop where
  housed : Housed s.1
  types : ∀ n l, s.1.disp.layers n = some l → Follows (s.2 n) l.mCompositionType
  unborn : ∀ n, s.1.disp.nextLayer ≤ n → s.2 n = .client

theorem Follows.self (type : CompositionType) : Follows type type := ⟨fun _ => rfl, id⟩

/-- Layers keep their types, and a new one is a client layer. -/
structure KeepsTypes (w w' : World) : Prop where
  nextLayer : w.disp.nextLayer ≤ w'.disp.nextLayer
  types : ∀ n l', w'.disp.layers n = some l' →
    (∃ l, w.disp.layers n = some l ∧ l'.mCompositionType = l.mCompositionType) ∨
      w.disp.nextLayer ≤ n ∧ l'.mCompositionType = .client

theorem KeepsTypes.refl (w : World) : KeepsTypes w w :=
  ⟨Nat.le_refl _, fun _ l hl => Or.inl ⟨l, hl, rfl⟩⟩

theorem Tracked.keep {w w' : World} {requested : Requested} (h : Tracked (w, requested))
    (hhoused : Housed w') (hkeep : KeepsTypes w w') : Tracked (w', requested) where
  housed := hhoused
  types := by
    intro n l' hl'
    rcases hkeep.types n l' hl' with ⟨l, hl, htype⟩ | ⟨hnew, htype⟩
    · rw [htype]
      exact h.types n l hl
    · rw [htype, h.unborn n hnew]
      exact Follows.self _
  unborn := fun n hn => h.unborn n (Nat.le_trans hkeep.nextLayer hn)

theorem keepsTypes_created {w : World} (id : Nat) (layerIds : IdPool) :
    KeepsTypes w (w.created id layerIds) where
  nextLayer := Nat.le_succ _
  types := by
    intro n l' hl'
    simp only [World.created, World.setLayer, Function.update_apply] at hl'
    split at hl'
    · next hn =>
        cases hl'
        exact Or.inr ⟨Nat.le_of_eq hn.symm, rfl⟩
    · exact Or.inl ⟨l', hl', rfl⟩

theorem keepsTypes_closed {w : World} (id n : Nat) : KeepsTypes w (w.closed id n) where
  nextLayer := Nat.le_refl _
  types := by
    intro m l' hl'
    simp only [World.closed, Function.update_apply] at hl'
    split at hl'
    · simp at hl'
    · exact Or.inl ⟨l', hl', rfl⟩

/-- Replacing a layer by one of the same type. -/
theorem keepsTypes_setLayer {w : World} {n : Nat} {l l' : HdiLayer}
    (hl : w.disp.layers n = some l) (htype : l'.mCompositionType = l.mCompositionType) :
    KeepsTypes w (w.setLayer n l') where
  nextLayer := Nat.le_refl _
  types := by
    intro m k hk
    simp only [World.setLayer, Function.update_apply] at hk
    split at hk
    · next hm =>
        cases hk
        exact Or.inl ⟨l, hm ▸ hl, htype⟩
    · exact Or.inl ⟨k, hk, rfl⟩

/-- A layer is created, unless the id is a key of the map already and the new layer is left
dangling. -/
theorem createLayer_post {w : World} (h : Housed w) (i l : Bool) :
    Post (createLayer i l) w
      (fun _ w' => Alive w' w'.disp.mLayers → Housed w' ∧ KeepsTypes w w') (fun _ _ => True) := by
  have hpool : ∀ layerIds, Housed { w with layerIds } ∧ KeepsTypes w { w with layerIds } :=
    fun layerIds => ⟨⟨h.files, h.live, h.owned, h.fresh⟩,
      Nat.le_refl _, fun _ l hl => Or.inl ⟨l, hl, rfl⟩⟩
  have halive : Alive w w.disp.mLayers := fun n hn => h.listed_live hn
  unfold createLayer
  cases i with
  | true => exact fun _ => hpool w.layerIds
  | false =>
    cases l with
    | true => exact fun _ => hpool w.layerIds
    | false =>
        simp only [Bool.false_eq_true, if_false, post_bind, post_get]
        cases w.layerIds.getIdleId invalidLayerId with
        | none => exact post_of_error rfl trivial
        | some found =>
            obtain ⟨id, layerIds⟩ := found
            simp only [post_bind, post_set]
            by_cases hinv : id = invalidLayerId
            · rw [if_pos hinv]
              exact fun _ => hpool _
            · rw [if_neg hinv, post_bind]
              refine post_of_ok (searchLayers_of (by exact halive)) ?_
              cases hm : w.disp.mLayersMap id with
              | none => exact fun _ => ⟨h.created hm, keepsTypes_created id layerIds⟩
              | some n =>
                  -- nothing is alive where the new layer was
                  intro hdangling
                  have hnew : w.disp.nextLayer ∈ Roster.insert
                      (w.setLayer w.disp.nextLayer { mId := id }).zorderOf w.disp.nextLayer
                      w.disp.mLayers := by
                    simp [Roster.insert]
                  have hsome := hdangling _ hnew
                  rw [show w.disp.layers w.disp.nextLayer = none from
                    h.fresh _ (Nat.le_refl _)] at hsome
                  simp at hsome

theorem destroyLayer_post {w : World} (h : Housed w) (id : Nat) :
    Post (destroyLayer id) w (fun _ w' => Housed w' ∧ KeepsTypes w w') (fun _ _ => False) := by
  have halive : Alive w w.disp.mLayers := fun n hn => h.listed_live hn
  unfold destroyLayer
  rw [post_bind, post_get]
  cases hm : w.disp.mLayersMap id with
  | none => exact ⟨h, KeepsTypes.refl w⟩
  | some n =>
      obtain ⟨layer, hl⟩ := h.live id n hm
      dsimp only
      rw [post_bind]
      refine post_of_ok (derefLayer_of hl) ?_
      rw [post_bind]
      refine post_of_ok (searchLayers_of halive) ?_
      have hclosed := h.closed hm
      have hkeep := keepsTypes_closed (w := w) id n
      exact ⟨⟨hclosed.files, hclosed.live, hclosed.owned, hclosed.fresh⟩,
        hkeep.nextLayer, hkeep.types⟩

theorem setLayerZorder_of {w : World} (h : Alive w w.disp.mLayers) (id zorder : Nat) :
    setLayerZorder id zorder w = Common.setLayerZorder id zorder w := by
  unfold setLayerZorder Common.setLayerZorder
  rw [get_bind, get_bind]
  cases w.disp.mLayersMap id with
  | none => rfl
  | some n =>
      dsimp only
      cases hl : w.disp.layers n with
      | none => rw [bind_of_error (derefLayer_dangling hl), bind_of_error (derefLayer_dangling hl)]
      | some layer =>
          rw [bind_of_ok (derefLayer_of hl), bind_of_ok (derefLayer_of hl)]
          split
          · rfl
          · rw [bind_of_ok (searchLayers_of h)]

theorem setLayerZorder_keeps {w : World} (h : Housed w) (id zorder : Nat) :
    Post (Common.setLayerZorder id zorder) w (fun _ w' => KeepsTypes w w') (fun _ _ => False) := by
  unfold Common.setLayerZorder
  rw [post_bind, post_get]
  cases hm : w.disp.mLayersMap id with
  | none => exact KeepsTypes.refl w
  | some n =>
      obtain ⟨layer, hlive⟩ := h.live id n hm
      dsimp only
      rw [post_bind]
      refine post_of_ok (derefLayer_of hlive) ?_
      split
      · exact KeepsTypes.refl w
      · have hkeep : KeepsTypes w (w.setLayer n { layer with mZorder := zorder }) :=
          keepsTypes_setLayer hlive rfl
        exact ⟨hkeep.nextLayer, hkeep.types⟩

/-- A layer function changes the layer it finds. -/
theorem callLayerFunction_cases {w : World} (h : Housed w) (id : Nat)
    (f : HdiLayer → DispStatus × HdiLayer) :
    (w.disp.mLayersMap id = none ∧ callLayerFunction id f w = .ok .failure w) ∨
      ∃ n l, w.disp.mLayersMap id = some n ∧ w.disp.layers n = some l ∧
        callLayerFunction id f w = .ok (f l).1 (w.setLayer n (f l).2) := by
  unfold callLayerFunction
  rw [get_bind]
  cases hm : w.disp.mLayersMap id with
  | none => exact Or.inl ⟨rfl, rfl⟩
  | some n =>
      obtain ⟨l, hl⟩ := h.live id n hm
      refine Or.inr ⟨n, l, rfl, hl, ?_⟩
      dsimp only
      rw [bind_of_ok (derefLayer_of hl)]
      rfl

/-- The types a frame picks follow the requests as before. -/
theorem Tracked.prepared {w : World} {requested : Requested} (h : Tracked (w, requested))
    {n : Nat} {l : HdiLayer} (hl : prepared w n = some l) :
    Follows (requested n) l.mCompositionType := by
  unfold Rk3568.prepared changed at hl
  split at hl
  · next hn =>
      obtain ⟨k, hk, rfl⟩ := Option.map_eq_some_iff.1 hl
      have hold := h.types n k hk
      dsimp only [pick]
      split
      · exact hold
      · next hfree =>
          have hfree' : fixed k.mCompositionType = false := decide_eq_false hfree
          have hreq : fixed (requested n) = false := by
            cases hr : fixed (requested n) with
            | false => rfl
            | true => rw [hold.same (Or.inl hr), hr] at hfree'; simp at hfree'
          have hdefault : fixed (defaultCompType w) = false := by
            unfold defaultCompType
            split <;> rfl
          constructor
          · rintro (hr | hd)
            · simp [hreq] at hr
            · simp [hdefault] at hd
          · intro hclient
            -- a client layer has everyone composed by the client
            have htype := hold.client hclient
            unfold defaultCompType wantsClient
            rw [if_pos]
            rw [Bool.or_eq_true, List.any_eq_true]
            exact Or.inl ⟨n, hn, by rw [compositionType_of hk, htype]; rfl⟩
  · exact h.types n l hl

/-- A layer that gets the type requested for it. -/
theorem Tracked.retype {w : World} {requested : Requested} (h : Tracked (w, requested))
    {n : Nat} {l : HdiLayer} (hl : w.disp.layers n = some l) (type : CompositionType) :
    Tracked (w.setLayer n { l with mCompositionType := type },
      Function.update requested n type) where
  housed := by
    have hquiet : Quiet w (w.setLayer n { l with mCompositionType := type }) :=
      Quiet.setLayer hl rfl
    exact hquiet.housed h.housed
  types := by
    intro m k hk
    simp only [World.setLayer, Function.update_apply] at hk ⊢
    split at hk
    · next he =>
        cases hk
        rw [if_pos he]
        exact Follows.self type
    · next hne =>
        rw [if_neg hne]
        exact h.types m k hk
  unborn := by
    intro m hge
    have hne : m ≠ n := by
      rintro rfl
      have hnone := h.housed.fresh m hge
      simp [hl] at hnone
    exact (Function.update_of_ne hne _ _).trans (h.unborn m hge)

/-- **Every operation** keeps the types behind the requests, unless it leaves a pointer
dangling. -/
theorem Tracked.step {s : World × Requested} (h : Tracked s) (op : Op) :
    Post (noting noteRequested step op) s
      (fun _ s' => Alive s'.1 s'.1.disp.mLayers → Tracked s') (fun _ _ => True) := by
  obtain ⟨w, requested⟩ := s
  have hhoused : Housed w := h.housed
  have halive : Alive w w.disp.mLayers := fun n hn => hhoused.listed_live hn
  rw [post_noting]
  cases op with
  | createLayer i l =>
      refine (createLayer_post hhoused i l).mono (fun _ _ hw' hlive => ?_) (fun _ _ _ => trivial)
      obtain ⟨hhoused', hkeep⟩ := hw' hlive
      exact h.keep hhoused' hkeep
  | destroyLayer id =>
      show Post (_ <$> destroyLayer id) w _ _
      rw [post_map]
      exact (destroyLayer_post hhoused id).mono (fun _ _ hw' _ => h.keep hw'.1 hw'.2)
        (fun _ _ _ => trivial)
  | setLayerZorder id z =>
      show Post (_ <$> setLayerZorder id z) w _ _
      rw [post_map]
      unfold Post
      rw [setLayerZorder_of halive]
      exact ((setLayerZorder_housed hhoused id z).and (setLayerZorder_keeps hhoused id z)).mono
        (fun _ _ hw' _ => h.keep hw'.1.1 hw'.2) (fun _ _ _ => trivial)
  | setLayerBuffer id buffer =>
      show Post (_ <$> callLayerFunction id _) w _ _
      rw [post_map]
      rcases callLayerFunction_cases hhoused id _ with ⟨-, heq⟩ | ⟨n, l, -, hl, heq⟩
      · exact post_of_ok heq fun _ => h
      · refine post_of_ok heq fun _ => ?_
        cases buffer with
        | none =>
            exact h.keep ((Quiet.setLayer hl rfl).housed hhoused) (keepsTypes_setLayer hl rfl)
        | some buffer =>
            have hquiet : Quiet w (w.setLayer n { l with mHdiBuffer := some buffer }) :=
              Quiet.setLayer hl rfl
            exact h.keep (hquiet.housed hhoused) (keepsTypes_setLayer hl rfl)
  | setLayerCompositionType id type =>
      show Post (_ <$> callLayerFunction id _) w _ _
      rw [post_map]
      rcases callLayerFunction_cases hhoused id
          (fun l => (DispStatus.success, { l with mCompositionType := type })) with
        ⟨hm, heq⟩ | ⟨n, l, hm, hl, heq⟩
      · have hnote : noteRequested w requested (.setLayerCompositionType id type) = requested := by
          simp only [noteRequested, hm]
        refine post_of_ok heq fun _ => ?_
        rw [hnote]
        exact h
      · have hnote : noteRequested w requested (.setLayerCompositionType id type) =
            Function.update requested n type := by
          simp only [noteRequested, hm]
        refine post_of_ok heq fun _ => ?_
        rw [hnote]
        exact h.retype hl type
  | prepareDisplayLayers =>
      show Post (_ <$> prepareDisplayLayers) w _ _
      rw [post_map]
      refine (prepareDisplayLayers_post hhoused).mono ?_ (fun _ _ _ => trivial)
      rintro - w' ⟨hquiet, hlayers⟩ -
      refine ⟨hquiet.housed hhoused, fun n l hl => ?_, fun n hn => ?_⟩
      · rw [hlayers] at hl
        exact h.prepared hl
      · rw [hquiet.nextLayer] at hn
        exact h.unborn n hn

/-! ## A pointer that dangles -/

section
variable {w : World} (h : ¬ Alive w w.disp.mLayers)
include h

theorem createLayer_dangling (i l : Bool) :
    Post (createLayer i l) w (fun _ w' => ¬ Alive w' w'.disp.mLayers) (fun _ _ => True) := by
  unfold createLayer
  cases i with
  | true => exact h
  | false =>
    cases l with
    | true => exact h
    | false =>
        simp only [Bool.false_eq_true, if_false, post_bind, post_get]
        cases w.layerIds.getIdleId invalidLayerId with
        | none => exact post_of_error rfl trivial
        | some found =>
            obtain ⟨id, layerIds⟩ := found
            simp only [post_bind, post_set]
            by_cases hinv : id = invalidLayerId
            · rw [if_pos hinv]
              exact h
            · rw [if_neg hinv, post_bind]
              exact post_of_error (searchLayers_dangling (by exact h)) trivial

theorem destroyLayer_dangling (id : Nat) :
    Post (destroyLayer id) w (fun _ w' => ¬ Alive w' w'.disp.mLayers) (fun _ _ => True) := by
  unfold destroyLayer
  rw [post_bind, post_get]
  cases hm : w.disp.mLayersMap id with
  | none => exact h
  | some n =>
      dsimp only
      rw [post_bind]
      cases hl : w.disp.layers n with
      | none => exact post_of_error (derefLayer_dangling hl) trivial
      | some layer =>
          refine post_of_ok (derefLayer_of hl) ?_
          rw [post_bind]
          exact post_of_error (searchLayers_dangling h) trivial

theorem setLayerZorder_dangling (id z : Nat) :
    Post (setLayerZorder id z) w (fun _ w' => ¬ Alive w' w'.disp.mLayers) (fun _ _ => True) := by
  unfold setLayerZorder
  rw [post_bind, post_get]
  cases hm : w.disp.mLayersMap id with
  | none => exact h
  | some n =>
      dsimp only
      rw [post_bind]
      cases hl : w.disp.layers n with
      | none => exact post_of_error (derefLayer_dangling hl) trivial
      | some layer =>
          refine post_of_ok (derefLayer_of hl) ?_
          by_cases hz : layer.mZorder = z
          · rw [if_pos hz]
            exact h
          · rw [if_neg hz, post_bind]
            exact post_of_error (searchLayers_dangling h) trivial

theorem callLayerFunction_dangling (id : Nat) (f : HdiLayer → DispStatus × HdiLayer) :
    Post (callLayerFunction id f) w (fun _ w' => ¬ Alive w' w'.disp.mLayers)
      (fun _ _ => True) := by
  unfold callLayerFunction
  rw [post_bind, post_get]
  cases hm : w.disp.mLayersMap id with
  | none => exact h
  | some n =>
      dsimp only
      rw [post_bind]
      cases hl : w.disp.layers n with
      | none => exact post_of_error (derefLayer_dangling hl) trivial
      | some l =>
          refine post_of_ok (derefLayer_of hl) fun halive => h fun m hm => ?_
          have hsome := halive m hm
          simp only [World.setLayer, Function.update_apply] at hsome
          split at hsome
          · next he => rw [he, hl]; rfl
          · exact hsome

end

/-- A pointer that dangles stays in the list, for whoever searches the list faults. -/
theorem dangling_step {s : World × Requested} (h : ¬ Alive s.1 s.1.disp.mLayers) (op : Op) :
    Post (noting noteRequested step op) s
      (fun _ s' => ¬ Alive s'.1 s'.1.disp.mLayers) (fun _ _ => True) := by
  obtain ⟨w, requested⟩ := s
  rw [post_noting]
  cases op with
  | createLayer i l => exact createLayer_dangling h i l
  | destroyLayer id =>
      show Post (_ <$> destroyLayer id) w _ _
      rw [post_map]
      exact destroyLayer_dangling h id
  | setLayerZorder id z =>
      show Post (_ <$> setLayerZorder id z) w _ _
      rw [post_map]
      exact setLayerZorder_dangling h id z
  | setLayerBuffer id buffer =>
      show Post (_ <$> callLayerFunction id _) w _ _
      rw [post_map]
      exact callLayerFunction_dangling h id _
  | setLayerCompositionType id type =>
      show Post (_ <$> callLayerFunction id _) w _ _
      rw [post_map]
      exact callLayerFunction_dangling h id _
  | prepareDisplayLayers =>
      show Post (_ <$> prepareDisplayLayers) w _ _
      rw [post_map]
      exact (prepareDisplayLayers_dangling h).mono (fun _ _ hf => hf.elim) (fun _ _ _ => trivial)

theorem Ends.tracked {ops : List Op} {s : World × Requested} (h : Ends ops s)
    (halive : Alive s.1 s.1.disp.mLayers) : Tracked s := by
  obtain ⟨layerIds, rets, hrun⟩ := h
  have hstart : Tracked (World.start layerIds, fun _ => .client) :=
    ⟨housed_start layerIds, fun n l hl => by simp [World.start] at hl, fun _ _ => rfl⟩
  have hstep : ∀ s op, (Alive s.1 s.1.disp.mLayers → Tracked s) →
      Post (noting noteRequested step op) s
        (fun _ s' => Alive s'.1 s'.1.disp.mLayers → Tracked s') (fun _ _ => True) := by
    intro s op hs
    by_cases hlive : Alive s.1 s.1.disp.mLayers
    · exact (hs hlive).step op
    · exact (dangling_step hlive op).mono (fun _ _ hdead hlive' => absurd hlive' hdead)
        (fun _ _ _ => trivial)
  exact (run_invariant hstep (fun _ => hstart) ops).of_ok hrun halive

/-! ## Two displays -/

section
variable {s s₁ s₂ : World × Requested}

/-- What is requested for the layers of the display, in order. -/
def requests (s : World × Requested) : List CompositionType := s.1.disp.mLayers.map s.2

theorem Tracked.follows (h : Tracked s) {n : Nat} (hn : n ∈ s.1.disp.mLayers) :
    Follows (s.2 n) (compositionType s.1 n) := by
  obtain ⟨l, hl⟩ := Option.isSome_iff_exists.1 (h.housed.listed_live hn)
  rw [compositionType_of hl]
  exact h.types n l hl

theorem Follows.fixed_eq {requested type : CompositionType} (h : Follows requested type) :
    fixed type = fixed requested := by
  cases hr : fixed requested with
  | true => rw [h.same (Or.inl hr), hr]
  | false =>
      cases ht : fixed type with
      | false => rfl
      | true =>
          rw [h.same (Or.inr ht), hr] at ht
          exact ht.symm

/-- The client is wanted when the requests call for it, or for the sake of a layer that is
a client layer still. -/
theorem Tracked.wantsClient_eq (h : Tracked s) : wantsClient s.1 = (busy (requests s) || stale s) := by
  have hcount : s.1.disp.mLayers.countP (fun n => !fixed (compositionType s.1 n)) =
      (requests s).countP (!fixed ·) := by
    unfold requests
    rw [List.countP_map]
    refine List.countP_congr fun n hn => ?_
    rw [(h.follows hn).fixed_eq]
    rfl
  have hclient : (requests s).any (fun r => decide (r = .client)) = true →
      s.1.disp.mLayers.any (fun n => decide (compositionType s.1 n = .client)) = true := by
    simp only [requests, List.any_map, List.any_eq_true, Function.comp_apply, decide_eq_true_eq]
    rintro ⟨n, hn, hr⟩
    exact ⟨n, hn, (h.follows hn).client hr⟩
  unfold wantsClient stale
  rw [hcount]
  show _ = (busy (requests s) || (!busy (requests s) && _))
  unfold busy
  cases hreq : (requests s).any fun r => decide (r = .client) with
  | true => simp [hclient hreq]
  | false =>
      cases decide (4 < (requests s).countP (!fixed ·)) <;> simp

/-- The types the next frame selects depend on the requests and the default type alone. -/
theorem Tracked.selects (h : Tracked s) :
    Post prepareDisplayLayers s.1
      (fun _ w' => w'.disp.mLayers.map (deviceSelect w') =
        (requests s).map fun r => some (pick (defaultCompType s.1) r))
      (fun _ _ => False) := by
  refine (prepareDisplayLayers_post h.housed).mono ?_ (fun _ _ hf => hf)
  rintro - w' ⟨hquiet, hlayers⟩
  rw [hquiet.mLayers, requests, List.map_map]
  refine List.map_congr_left fun n hn => ?_
  obtain ⟨l, hl⟩ := Option.isSome_iff_exists.1 (h.housed.listed_live hn)
  have hfollow := h.types n l hl
  unfold deviceSelect
  rw [hlayers, Rk3568.prepared, changed, if_pos hn, hl]
  show some (pick _ l.mCompositionType) = some (pick _ (s.2 n))
  have hfixed := hfollow.fixed_eq
  unfold pick
  by_cases hf : s.2 n = .video ∨ s.2 n = .cursor
  · have htrue : fixed (s.2 n) = true := decide_eq_true hf
    rw [hfollow.same (Or.inl htrue)]
  · have hfalse : fixed l.mCompositionType = false := hfixed.trans (decide_eq_false hf)
    rw [if_neg hf, if_neg (of_decide_eq_false hfalse)]

/-- Two default types give the same selection when they are equal or not used. -/
theorem map_pick_eq_iff {d₁ d₂ : CompositionType} {rs : List CompositionType} :
    (rs.map fun r => some (pick d₁ r)) = (rs.map fun r => some (pick d₂ r)) ↔
      d₁ = d₂ ∨ ∀ r ∈ rs, fixed r = true := by
  rw [List.map_inj_left]
  constructor
  · intro hall
    by_cases hfixed : ∀ r ∈ rs, fixed r = true
    · exact Or.inr hfixed
    · push Not at hfixed
      obtain ⟨r, hr, hfree⟩ := hfixed
      have hne : ¬ (r = .video ∨ r = .cursor) := fun h => hfree (decide_eq_true h)
      have heq := hall r hr
      unfold pick at heq
      rw [if_neg hne, if_neg hne] at heq
      exact Or.inl (Option.some.inj heq)
  · rintro (rfl | hfixed) r hr
    · rfl
    · unfold pick
      rw [if_pos (of_decide_eq_true (hfixed r hr)), if_pos (of_decide_eq_true (hfixed r hr))]

/-- A layer that is a client layer still may be composed either way. -/
theorem Tracked.stale_free (h : Tracked s) (hs : stale s = true) :
    ¬ ∀ r ∈ requests s, fixed r = true := by
  intro hall
  unfold stale at hs
  rw [Bool.and_eq_true, List.any_eq_true] at hs
  obtain ⟨-, n, hn, htype⟩ := hs
  have hfixed := hall (s.2 n) (List.mem_map_of_mem hn)
  rw [← (h.follows hn).fixed_eq, of_decide_eq_true htype] at hfixed
  simp [fixed] at hfixed

theorem requests_eq (hview : view s₁ = view s₂) : requests s₁ = requests s₂ := by
  have h := congrArg (List.map Prod.snd) hview
  simpa [view, requests, List.map_map, Function.comp_def] using h

/-- Displays with the same requests make the same choice exactly when both are stale or
neither is. -/
theorem selectsSame_iff (h₁ : Tracked s₁) (h₂ : Tracked s₂) (hview : view s₁ = view s₂) :
    SelectsSame s₁.1 s₂.1 ↔ (stale s₁ = true ↔ stale s₂ = true) := by
  have hreq := requests_eq hview
  obtain ⟨ret₁, w₁, hrun₁, hsel₁⟩ := h₁.selects.exists_ok
  obtain ⟨ret₂, w₂, hrun₂, hsel₂⟩ := h₂.selects.exists_ok
  have hsame : SelectsSame s₁.1 s₂.1 ↔ defaultCompType s₁.1 = defaultCompType s₂.1 ∨
      ∀ r ∈ requests s₂, fixed r = true := by
    have hpost := post_iff_of_ok (Q := fun _ w₁' => Post prepareDisplayLayers s₂.1
        (fun _ w₂' => w₁'.disp.mLayers.map (deviceSelect w₁') =
          w₂'.disp.mLayers.map (deviceSelect w₂')) (fun _ _ => False))
      (E := fun _ _ => False) hrun₁
    rw [post_iff_of_ok hrun₂, hsel₁, hsel₂, hreq] at hpost
    exact ⟨fun h => map_pick_eq_iff.1 (hpost.1 h.selects),
      fun h => ⟨hpost.2 (map_pick_eq_iff.2 h)⟩⟩
  have hdefault : defaultCompType s₁.1 = defaultCompType s₂.1 ↔
      ((busy (requests s₂) || stale s₁) = true ↔ (busy (requests s₂) || stale s₂) = true) := by
    unfold defaultCompType
    rw [h₁.wantsClient_eq, h₂.wantsClient_eq, hreq]
    cases busy (requests s₂) || stale s₁ <;> cases busy (requests s₂) || stale s₂ <;> simp
  rw [hsame, hdefault]
  cases hbusy : busy (requests s₂) with
  | true =>
      have hfresh : ∀ s : World × Requested, requests s = requests s₂ → stale s = false := by
        intro s hs
        unfold stale
        show (!busy (requests s) && _) = false
        rw [hs, hbusy]
        rfl
      simp [hfresh s₁ hreq, hfresh s₂ rfl]
  | false =>
      simp only [Bool.false_or]
      constructor
      · rintro (hiff | hfixed)
        · exact hiff
        · have hno₁ : ¬ stale s₁ = true := fun hs => h₁.stale_free hs (hreq ▸ hfixed)
          have hno₂ : ¬ stale s₂ = true := fun hs => h₂.stale_free hs hfixed
          exact iff_of_false hno₁ hno₂
      · exact Or.inl

/-- The views show which pointers dangle: they have no id. -/
theorem alive_iff (s : World × Requested) :
    Alive s.1 s.1.disp.mLayers ↔ ∀ e ∈ view s, e.1.isSome = true := by
  simp [Alive, view, layerId]

/-- **Composition choice.** Two histories that end with the same layers and the same
requests make the same choice exactly when no pointer of the list dangles and both leave a
stale client layer or neither does. -/
theorem composition_iff {ops₁ ops₂ : List Op} (h₁ : Ends ops₁ s₁) (h₂ : Ends ops₂ s₂)
    (hview : view s₁ = view s₂) :
    SelectsSame s₁.1 s₂.1 ↔
      Alive s₁.1 s₁.1.disp.mLayers ∧ (stale s₁ = true ↔ stale s₂ = true) := by
  by_cases halive : Alive s₁.1 s₁.1.disp.mLayers
  · have halive₂ : Alive s₂.1 s₂.1.disp.mLayers := by
      rw [alive_iff, ← hview]
      exact (alive_iff s₁).1 halive
    rw [selectsSame_iff (h₁.tracked halive) (h₂.tracked halive₂) hview]
    exact (and_iff_right halive).symm
  · refine iff_of_false (fun hsame => ?_) (fun h => halive h.1)
    obtain ⟨ret, w', hrun, -⟩ := hsame.selects.exists_ok
    exact (prepareDisplayLayers_dangling halive).of_ok hrun

end

/-! ## Five layers -/

/-- The state a history ends in, on a HAL that is started. -/
def endOf (ops : List Op) : World × Requested :=
  after (run (noting noteRequested step) ops) (World.start {}, fun _ => .client)

theorem ends_endOf {ops : List Op}
    (h : returns (run (noting noteRequested step) ops) (World.start {}, fun _ => .client)
      (fun _ _ => true) = true) : Ends ops (endOf ops) := by
  obtain ⟨rets, s, hrun, -⟩ := returns_iff.1 h
  refine ⟨{}, rets, ?_⟩
  unfold endOf after
  rw [hrun]

/-- Layers one above the other, to be composed by the device. -/
def deviceLayers : List Op :=
  (List.range 5).flatMap fun i =>
    [.createLayer false false, .setLayerZorder i i, .setLayerCompositionType i .device]

/-- The choice for four layers, whether or not the four have been prepared before. -/
theorem four_layers :
    SelectsSame (endOf (deviceLayers ++ [.destroyLayer 4, .prepareDisplayLayers])).1
      (endOf (deviceLayers ++ [.destroyLayer 4])).1 := by
  have h₁ : Ends _ (endOf (deviceLayers ++ [.destroyLayer 4, .prepareDisplayLayers])) :=
    ends_endOf (by decide +kernel)
  have h₂ : Ends _ (endOf (deviceLayers ++ [.destroyLayer 4])) := ends_endOf (by decide +kernel)
  have hiff := composition_iff h₁ h₂ (by decide +kernel)
  exact hiff.2 (by decide +kernel)

/-- A frame of five layers makes them client layers, and the four that are left stay so. -/
theorem fifth_layer : ¬ HistoryIndependent := by
  intro hlaw
  have h₁ : Ends _ (endOf (deviceLayers ++ [.prepareDisplayLayers, .destroyLayer 4])) :=
    ends_endOf (by decide +kernel)
  have h₂ : Ends _ (endOf (deviceLayers ++ [.destroyLayer 4])) := ends_endOf (by decide +kernel)
  have hview : view (endOf (deviceLayers ++ [.prepareDisplayLayers, .destroyLayer 4])) =
      view (endOf (deviceLayers ++ [.destroyLayer 4])) := by decide +kernel
  have hselects := hlaw _ _ _ _ h₁ h₂ hview
  have hiff := selectsSame_iff (h₁.tracked (by decide +kernel)) (h₂.tracked (by decide +kernel)) hview
  exact absurd (hiff.1 hselects) (by decide +kernel)

end QemuHal.Common.Rk3568
