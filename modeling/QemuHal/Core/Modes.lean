import QemuHal.Core.Bringup
import QemuHal.Core.Registry
import QemuHal.Frame.Requested

/-!
# The mode of a display

`SetDisplayMode` hands its id to the CRTC, which keeps it with the flag `mNeedModeSet`;
the modes are filed with the connector; `UpdateMode` brings the two together when a frame
is committed. `modes_iff` says which runs keep the active mode a supported one, and
`modeOnce_iff` which of them carry each mode once.
-/

namespace QemuHal

open Exec

/-! ## The queries -/

/-- `GetDisplayMode`, the id as a `uint32_t`. -/
def World.getDisplayMode (w : World) : Nat := (w.disp.mCrtc.mActiveModeId % 2 ^ 32).toNat

/-- The mode is one of those `GetDisplaySupportedModes` lists. -/
def World.Supports (w : World) (id : Nat) : Prop :=
  ∃ info ∈ w.disp.mConnector.getDisplaySupportedModes, info.id = id

instance (w : World) (id : Nat) : Decidable (w.Supports id) :=
  inferInstanceAs (Decidable (∃ info ∈ w.disp.mConnector.getDisplaySupportedModes, _))

/-- The CRTC has a mode of the connector. -/
structure World.HasMode (w : World) : Prop where
  nonneg : 0 ≤ w.disp.mCrtc.mActiveModeId
  bounded : w.disp.mCrtc.mActiveModeId < 2 ^ 31
  filed : (w.disp.mConnector.getModeFromId w.disp.mCrtc.mActiveModeId).isSome

theorem World.supports_iff {w : World} {id : Nat} :
    w.Supports id ↔ (w.disp.mConnector.getModeFromId id).isSome :=
  (w.disp.mConnector.getModeFromId_isSome_iff id).symm

theorem World.HasMode.getDisplayMode {w : World} (h : w.HasMode) :
    (w.getDisplayMode : Int) = w.disp.mCrtc.mActiveModeId := by
  have hnonneg := h.nonneg
  have hbounded := h.bounded
  unfold World.getDisplayMode
  omega

theorem World.HasMode.supports {w : World} (h : w.HasMode) : w.Supports w.getDisplayMode := by
  rw [World.supports_iff, h.getDisplayMode]
  exact h.filed

/-! ## The operations that leave the mode alone -/

/-- The program leaves the CRTC and the connector of the display as they are. -/
def IsModeless {α : Type} (m : Hal α) : Prop :=
  ∀ w, Post m w
    (fun _ w' => w'.disp.mCrtc = w.disp.mCrtc ∧ w'.disp.mConnector = w.disp.mConnector)
    (fun _ _ => True)

section
variable {α β : Type}

theorem IsModeless.pure (a : α) : IsModeless (pure a : Hal α) := fun _ => ⟨rfl, rfl⟩

theorem IsModeless.bind {m : Hal α} {f : α → Hal β} (hm : IsModeless m)
    (hf : ∀ a, IsModeless (f a)) : IsModeless (m >>= f) := by
  intro w
  rw [post_bind]
  apply (hm w).mono
  · rintro a w' ⟨hcrtc, hconn⟩
    apply (hf a w').mono
    · rintro b w'' ⟨hcrtc', hconn'⟩
      exact ⟨hcrtc'.trans hcrtc, hconn'.trans hconn⟩
    · exact fun _ _ _ => trivial
  · exact fun _ _ _ => trivial

theorem IsModeless.map {m : Hal α} (hm : IsModeless m) (f : α → β) : IsModeless (f <$> m) := by
  intro w
  rw [post_map]
  exact hm w

theorem isModeless_get : IsModeless (get : Hal World) := fun _ => ⟨rfl, rfl⟩

theorem isModeless_setDrm (f : World → Drm) :
    IsModeless (modify fun w => w.setDrm (f w) : Hal PUnit) := fun _ => ⟨rfl, rfl⟩

theorem isModeless_setLayer (p : LayerRef) (l : HdiLayer) :
    IsModeless (modify (·.setLayer p l) : Hal PUnit) := fun w =>
  ⟨w.setLayer_mCrtc p l, w.setLayer_mConnector p l⟩

/-- What a frame leaves alone includes the mode. -/
theorem IsSteady.isModeless {m : Hal α} (h : IsSteady m) : IsModeless m := by
  intro w
  apply (h w).mono
  · intro _ w' hw
    constructor
    · rw [hw.disp]
    · rw [hw.disp]
  · exact fun _ _ _ => trivial

theorem isModeless_derefLayer (p : LayerRef) : IsModeless (derefLayer p) :=
  (isSteady_derefLayer p).isModeless

theorem isModeless_setTheComposition (c : HdiDrmComposition) : IsModeless (setTheComposition c) :=
  (isSteady_setTheComposition c).isModeless

theorem isModeless_theComposition : IsModeless theComposition :=
  isSteady_theComposition.isModeless

end

/-! ### The operations, one by one -/

theorem isModeless_createLayer (i l : Bool) : IsModeless (createLayer i l) := by
  intro w
  unfold createLayer
  cases i with
  | true => exact ⟨rfl, rfl⟩
  | false =>
      cases l with
      | true => exact ⟨rfl, rfl⟩
      | false =>
          simp only [Bool.false_eq_true, if_false, post_bind, post_get]
          cases w.layerIds.getIdleId invalidLayerId with
          | none => trivial
          | some found =>
              obtain ⟨id, ids⟩ := found
              dsimp only
              split
              · exact ⟨rfl, rfl⟩
              · cases w.disp.mLayersMap id <;> exact ⟨rfl, rfl⟩

theorem isModeless_destroyLayer (layerId : Nat) (a : DestroyAnswers) :
    IsModeless (destroyLayer layerId a) := by
  intro w
  unfold destroyLayer
  simp only [post_bind, post_get]
  cases w.disp.mLayersMap layerId with
  | none => exact ⟨rfl, rfl⟩
  | some n =>
      simp only [post_bind]
      refine derefLayer_post (fun l _ => ?_) (fun _ _ => trivial)
      exact ⟨rfl, rfl⟩

theorem isModeless_setLayerZorder (layerId zorder : Nat) :
    IsModeless (setLayerZorder layerId zorder) := by
  intro w
  unfold setLayerZorder
  simp only [post_bind, post_get]
  cases w.disp.mLayersMap layerId with
  | none => exact ⟨rfl, rfl⟩
  | some n =>
      simp only [post_bind]
      refine derefLayer_post (fun l _ => ?_) (fun _ _ => trivial)
      split <;> exact ⟨rfl, rfl⟩

theorem isModeless_callLayerFunction (layerId : Nat)
    (f : Drm → HdiLayer → DispStatus × HdiLayer × Drm) :
    IsModeless (callLayerFunction layerId f) := by
  intro w
  unfold callLayerFunction
  simp only [post_bind, post_get]
  cases w.disp.mLayersMap layerId with
  | none => exact ⟨rfl, rfl⟩
  | some n =>
      simp only [post_bind, post_set, post_pure]
      exact derefLayer_post (fun _ _ => ⟨rfl, rfl⟩) (fun _ _ => trivial)

theorem isModeless_setDisplayClientBuffer (buffer : Option BufferHandle) (fence : Int)
    (a : DupAnswers) : IsModeless (setDisplayClientBuffer buffer fence a) := by
  intro w
  unfold setDisplayClientBuffer
  simp only [post_bind, post_get, post_set, post_pure]
  exact derefLayer_post (fun _ _ => ⟨rfl, rfl⟩) (fun _ _ => trivial)

theorem isModeless_visibleLayers : ∀ mLayers, IsModeless (visibleLayers mLayers)
  | [] => IsModeless.pure _
  | _ :: mLayers => (isModeless_derefLayer _).bind fun _ =>
      (isModeless_visibleLayers mLayers).bind fun _ => IsModeless.pure _

theorem isModeless_selectDevices : ∀ layers, IsModeless (selectDevices layers)
  | [] => IsModeless.pure _
  | p :: layers => by
      refine (isModeless_derefLayer p).bind fun l => ?_
      split
      · exact (isModeless_setLayer p _).bind fun _ => isModeless_selectDevices layers
      · exact isModeless_selectDevices layers

theorem isModeless_takeCursor (l : HdiLayer) (a : DupAnswers) : IsModeless (takeCursor l a) := by
  have hset : ∀ buf : HdiLayerBuffer, IsModeless (do
      let cursor ← derefLayer .cursor
      let w ← get
      let rebuffered := cursor.setLayerBuffer w.drm (some buf.mHandle) (-1) a
      set ((w.setDrm rebuffered.2.2).setLayer .cursor
        (rebuffered.2.1.setLayerRegion (some l.mDisplayRect)).2) : Hal PUnit) := by
    intro buf w
    rw [post_bind]
    exact derefLayer_post (fun _ _ => ⟨rfl, rfl⟩) (fun _ _ => trivial)
  have hcursor : IsModeless (setCursorLayer .cursor) :=
    isModeless_theComposition.bind fun c =>
      (isModeless_setTheComposition _).bind fun _ => IsModeless.pure _
  unfold takeCursor
  refine (isSteady_derefBuffer l).isModeless.bind fun buf => ?_
  have hall := (hset buf).bind fun _ => hcursor.bind fun _ => IsModeless.pure ()
  simpa only [bind_assoc] using hall

theorem isModeless_collectChanges (a : Nat → DupAnswers) :
    ∀ i layers, IsModeless (collectChanges a i layers)
  | _, [] => IsModeless.pure _
  | i, n :: layers => by
      -- the second half
      have hrest : ∀ l : HdiLayer, IsModeless (do
          if l.mDeviceSelect ≠ l.mCompositionType then
            modify (·.setLayer (.created n) (l.setLayerCompositionType l.mDeviceSelect))
            modify fun w =>
              { w with disp := { w.disp with mChangeLayers := w.disp.mChangeLayers ++ [n] } }
          collectChanges a (i + 1) layers : Hal Unit) := by
        intro l
        dsimp only
        split
        · refine (isModeless_setLayer _ _).bind fun _ => ?_
          exact IsModeless.bind (fun _ => ⟨rfl, rfl⟩) fun _ => isModeless_collectChanges a _ layers
        · exact isModeless_collectChanges a (i + 1) layers
      intro w
      unfold collectChanges
      rw [post_bind]
      refine derefLayer_post (fun l _ => ?_) (fun _ _ => trivial)
      dsimp only
      split
      · exact ((isModeless_takeCursor l (a i)).bind fun _ => hrest l) w
      · exact hrest l w

theorem isModeless_prepareDisplayLayers (a : Nat → DupAnswers) :
    IsModeless (prepareDisplayLayers a) := by
  unfold prepareDisplayLayers
  refine IsModeless.bind (fun _ => ⟨rfl, rfl⟩) fun _ => ?_
  refine isModeless_get.bind fun w => (isModeless_visibleLayers _).bind fun layers => ?_
  refine isModeless_theComposition.bind fun _ => ?_
  have hset : IsModeless (setLayers (layers.map .created)) :=
    (isModeless_selectDevices _).bind fun _ => isModeless_theComposition.bind fun _ =>
      (isModeless_setTheComposition _).bind fun _ => IsModeless.pure _
  exact hset.bind fun _ => (isModeless_collectChanges a 0 layers).bind fun _ => IsModeless.pure _

theorem isModeless_readChanges : ∀ changes, IsModeless (readChanges changes)
  | [] => IsModeless.pure _
  | _ :: changes => (isModeless_derefLayer _).bind fun _ =>
      (isModeless_readChanges changes).bind fun _ => IsModeless.pure _

theorem isModeless_popReleaseFence (p : LayerRef) : IsModeless (popReleaseFence p) :=
  (isModeless_derefLayer p).bind fun _ => (isModeless_setLayer p _).bind fun _ => IsModeless.pure _

theorem isModeless_readReleaseFences (fences : Bool) :
    ∀ mLayers, IsModeless (readReleaseFences fences mLayers)
  | [] => IsModeless.pure _
  | n :: mLayers => by
      have hrest : ∀ (l : HdiLayer) (fd : Int), IsModeless (do
          let _ ← popReleaseFence (.created n)
          let rest ← readReleaseFences fences mLayers
          return (l.mId, fd) :: rest : Hal (List (Nat × Int))) := fun _ _ =>
        (isModeless_popReleaseFence _).bind fun _ =>
          (isModeless_readReleaseFences fences mLayers).bind fun _ => IsModeless.pure _
      refine (isModeless_derefLayer _).bind fun l => ?_
      cases fences with
      | true => exact (isModeless_popReleaseFence _).bind fun fd => hrest l fd
      | false => exact hrest l (-1)

theorem isModeless_commit (a : FrameAnswers) : IsModeless (commit a) := by
  have hcomposer : IsModeless (composerCommit a) := by
    refine isModeless_theComposition.bind fun _ => (isSteady_apply a).isModeless.bind fun ret => ?_
    split <;> exact IsModeless.pure _
  exact hcomposer.bind fun _ => (isModeless_popReleaseFence _).bind fun _ => IsModeless.pure _

/-- **Only `SetDisplayMode` changes the mode.** -/
theorem isModeless_step (op : Op) (h : ∀ id, op ≠ .setDisplayMode id) : IsModeless (step op) := by
  cases op with
  | createLayer i l => exact (isModeless_createLayer i l).bind fun _ => IsModeless.pure _
  | destroyLayer id a => exact (isModeless_destroyLayer id a).map _
  | setLayerZorder id z => exact (isModeless_setLayerZorder id z).map _
  | setLayerBuffer id buffer fence a => exact (isModeless_callLayerFunction id _).map _
  | setLayerCompositionType id type => exact (isModeless_callLayerFunction id _).map _
  | setLayerVisible id visible => exact (isModeless_callLayerFunction id _).map _
  | setLayerRegion id rect => exact (isModeless_callLayerFunction id _).map _
  | setDisplayClientBuffer buffer fence a =>
      exact (isModeless_setDisplayClientBuffer buffer fence a).map _
  | setDisplayMode id => exact absurd rfl (h id)
  | prepareDisplayLayers a => exact (isModeless_prepareDisplayLayers a).map _
  | commit a =>
      exact (isModeless_commit a).bind fun _ =>
        (isModeless_setDrm _).bind fun _ => IsModeless.pure _
  | getDisplayCompChange arrays =>
      refine IsModeless.bind ?_ fun _ => IsModeless.pure _
      refine isModeless_get.bind fun w => ?_
      cases arrays with
      | true => exact (isModeless_readChanges _).bind fun _ => IsModeless.pure _
      | false => exact IsModeless.pure _
  | getDisplayReleaseFence layers fences =>
      refine IsModeless.bind ?_ fun _ => (isModeless_setDrm _).bind fun _ => IsModeless.pure _
      refine isModeless_get.bind fun w => ?_
      dsimp only
      split
      · exact IsModeless.pure _
      · exact (isModeless_readReleaseFences _ _).bind fun _ => IsModeless.pure _
  | clientFd fd file => exact (isModeless_setDrm _).bind fun _ => IsModeless.pure _

/-! ## What a frame asks of the CRTC -/

/-- The request sets the mode block on the CRTC, switches it on, and connects it. -/
structure Commit.CarriesMode (c : Commit) (w : World) (blob : Nat) : Prop where
  active : c.pset.values (.crtc w.disp.mCrtc.mId) .active = [1]
  modeId : c.pset.values (.crtc w.disp.mCrtc.mId) .modeId = [(blob : Int)]
  crtcId : c.pset.values (.connector w.disp.mConnector.mId) .crtcId = [(w.disp.mCrtc.mId : Int)]

/-- Without a block the request asks nothing of the CRTC's mode. -/
theorem values_noBlock {w : World} {p : Parts} {a : FrameAnswers} {pset : AtomicReq}
    (h : pset.otherEntries = w.requested p a) (hblock : w.modeBlock a = none) {obj : DrmObj}
    (hobj : ∀ q, obj ≠ .plane q) {prop : PropName} (hfb : prop ≠ .fbId)
    (hfence : prop ≠ .outFencePtr) : pset.values obj prop = [] := by
  rw [values_requested h hobj hfb hfence, World.modeEntries, hblock]
  rfl

/-- A request that is issued with a block has all three entries. -/
theorem carriesMode_of_block {w : World} {p : Parts} {a : FrameAnswers} {c : Commit} {blob : Nat}
    (h : c.pset.otherEntries = w.requested p a) (hcommits : w.commits a = true)
    (hblock : w.modeBlock a = some blob) : c.CarriesMode w blob := by
  have hall : a.modeProperty .active = true ∧ a.modeProperty .modeId = true ∧
      a.modeProperty .crtcId = true := by
    simp only [World.commits, World.updatesMode, hblock, Bool.and_eq_true] at hcommits
    simpa [and_assoc] using hcommits.2
  have hentries : w.modeEntries a = (w.modeProperties blob).reverse := by
    rw [World.modeEntries, hblock]
    simp [addedProperties, World.modeProperties, hall]
  constructor
  · rw [values_requested h (by simp) (by simp) (by simp), hentries]
    simp [AtomicReq.values, World.modeProperties]
  · rw [values_requested h (by simp) (by simp) (by simp), hentries]
    simp [AtomicReq.values, World.modeProperties]
  · rw [values_requested h (by simp) (by simp) (by simp), hentries]
    simp [AtomicReq.values, World.modeProperties]

/-! ## A supported mode -/

/-- A request the kernel accepts while the mode is to be set carries it. -/
def CarriesPending (w : World) (op : Op) (w' : World) : Prop :=
  ∀ a, op = .commit a → w.disp.mCrtc.mNeedModeSet = true → ∀ c ∈ newCommits w w', c.fence ≠ none →
    ∃ mode blob, w.disp.mConnector.getModeFromId w.disp.mCrtc.mActiveModeId = some mode ∧
      a.createPropertyBlob = some blob ∧ c.CarriesMode w blob

/-- What is asked of an operation: the mode it leaves is a listed one, an id that is not
listed is refused, and a frame carries the mode that is to be set. -/
def ModeLaw (w : World) (op : Op) : Prop :=
  Post (step op) w
    (fun r w' => w'.Supports w'.getDisplayMode ∧
      (∀ id, op = .setDisplayMode id → ¬ w.Supports (id % 2 ^ 32) →
        r.ret ≠ .success ∧ w'.disp.mCrtc = w.disp.mCrtc) ∧ CarriesPending w op w')
    (fun _ w' => CarriesPending w op w')

/-- The id of `SetDisplayMode` is listed or negative as an `int32_t`, and the blob of a
mode that is to be set is created when the kernel accepts the frame. -/
def ModeCond (w : World) : Op → Prop
  | .setDisplayMode id => w.Supports (id % 2 ^ 32) ∨ toInt32 id < 0
  | .commit a => w.disp.mCrtc.mNeedModeSet = true → w.accepts a = true →
      a.createPropertyBlob.isSome ∧ 0 ≤ w.drm.drmFd
  | _ => True

theorem toInt32_of_nonneg {id : Nat} (h : 0 ≤ toInt32 id) :
    toInt32 id = ((id % 2 ^ 32 : Nat) : Int) ∧ toInt32 id < 2 ^ 31 := by
  unfold toInt32 at h ⊢
  dsimp only at h ⊢
  split at h <;> split <;> omega

theorem modeBlock_isSome_iff {w : World} {a : FrameAnswers} (h : w.HasMode)
    (hneed : w.disp.mCrtc.mNeedModeSet = true) :
    (w.modeBlock a).isSome ↔ a.createPropertyBlob.isSome ∧ 0 ≤ w.drm.drmFd := by
  obtain ⟨mode, hmode⟩ := Option.isSome_iff_exists.1 h.filed
  unfold World.modeBlock
  rw [if_pos hneed, hmode]
  cases a.createPropertyBlob with
  | none => simp
  | some blob =>
      by_cases hfd : w.drm.drmFd < 0
      · simp [hfd]
      · simp [hfd, Int.not_lt.1 hfd]

theorem createPropertyBlob_of_block {w : World} {a : FrameAnswers} {blob : Nat}
    (h : w.modeBlock a = some blob) : a.createPropertyBlob = some blob := by
  unfold World.modeBlock at h
  split at h
  · split at h
    · next hblob =>
        split at h
        · exact absurd h (by simp)
        · rw [hblob, h]
    · exact absurd h (by simp)
  · exact absurd h (by simp)

/-- What a frame does with a mode that is to be set. -/
theorem carriesPending_iff {w w' : World} {p : Parts} {a : FrameAnswers} (hmode : w.HasMode)
    (h : Requested w p a w') : CarriesPending w (.commit a) w' ↔ ModeCond w (.commit a) := by
  obtain ⟨mode, hfiled⟩ := Option.isSome_iff_exists.1 hmode.filed
  rcases h with ⟨hno, hnone⟩ | ⟨c, hcommits, hnew, hfence, hentries, -⟩
  · have hrefused : ¬ w.accepts a = true := by simp [World.accepts, hno]
    refine ⟨fun _ _ hacc => absurd hacc hrefused, fun _ a' _ _ c hc => ?_⟩
    rw [hnone] at hc
    exact absurd hc (by simp)
  · constructor
    · intro hcarries hneed hacc
      obtain ⟨-, blob, -, -, hc⟩ := hcarries a rfl hneed c (by simp [hnew]) (hfence.2 hacc)
      rw [← modeBlock_isSome_iff hmode hneed]
      by_contra hblock
      have hactive : c.pset.values (.crtc w.disp.mCrtc.mId) .active = [] :=
        values_noBlock hentries (Option.not_isSome_iff_eq_none.1 hblock) (by simp) (by simp)
          (by simp)
      exact absurd (hc.active.symm.trans hactive) (by simp)
    · rintro hcond a' ha' hneed c' hc' hfence'
      obtain rfl := Op.commit.inj ha'
      rw [hnew] at hc'
      obtain rfl := List.mem_singleton.1 hc'
      have hblock := (modeBlock_isSome_iff hmode hneed).2 (hcond hneed (hfence.1 hfence'))
      obtain ⟨blob, hblock⟩ := Option.isSome_iff_exists.1 hblock
      exact ⟨mode, blob, hfiled, createPropertyBlob_of_block hblock,
        carriesMode_of_block hentries hcommits hblock⟩

theorem World.supports_congr {w w' : World} (h : w'.disp.mConnector = w.disp.mConnector)
    (id : Nat) : w'.Supports id ↔ w.Supports id := by
  unfold World.Supports
  rw [h]

theorem World.HasMode.congr {w w' : World} (h : w.HasMode)
    (hcrtc : w'.disp.mCrtc = w.disp.mCrtc) (hconn : w'.disp.mConnector = w.disp.mConnector) :
    w'.HasMode := by
  constructor
  · rw [hcrtc]
    exact h.nonneg
  · rw [hcrtc]
    exact h.bounded
  · rw [hcrtc, hconn]
    exact h.filed

/-- What `SetDisplayMode` leaves when it takes the id. -/
def World.withMode (w : World) (id : Nat) : World :=
  { w with disp := { w.disp with mCrtc := (w.disp.mCrtc.setActivieMode (toInt32 id)).2 } }

theorem setDisplayMode_cases (w : World) (id : Nat) :
    (toInt32 id < 0 ∧ step (.setDisplayMode id) w = .ok (.status .paramErr) w) ∨
      (0 ≤ toInt32 id ∧ step (.setDisplayMode id) w = .ok (.status .success) (w.withMode id) ∧
        (w.withMode id).disp.mCrtc.mActiveModeId = toInt32 id) := by
  have hrun : step (.setDisplayMode id) w =
      .ok (.status (w.disp.mCrtc.setActivieMode (toInt32 id)).1) (w.withMode id) := rfl
  unfold World.withMode DrmCrtc.setActivieMode at hrun ⊢
  by_cases hneg : toInt32 id < 0
  · left
    rw [if_pos hneg] at hrun
    exact ⟨hneg, hrun⟩
  · right
    rw [if_neg hneg] at hrun ⊢
    exact ⟨by omega, hrun, rfl⟩

/-- Once an id is taken, the display has the mode exactly when it is listed. -/
theorem World.withMode_hasMode {w : World} {id : Nat} (hid : 0 ≤ toInt32 id)
    (hactive : (w.withMode id).disp.mCrtc.mActiveModeId = toInt32 id)
    (h : w.Supports (id % 2 ^ 32)) : (w.withMode id).HasMode := by
  obtain ⟨heq, hlt⟩ := toInt32_of_nonneg hid
  constructor
  · rw [hactive]
    exact hid
  · rw [hactive]
    exact hlt
  · rw [hactive, heq]
    exact World.supports_iff.1 h

theorem World.withMode_getDisplayMode {w : World} {id : Nat} (hid : 0 ≤ toInt32 id)
    (hactive : (w.withMode id).disp.mCrtc.mActiveModeId = toInt32 id) :
    (w.withMode id).getDisplayMode = id % 2 ^ 32 := by
  obtain ⟨heq, hlt⟩ := toInt32_of_nonneg hid
  unfold World.getDisplayMode
  rw [hactive]
  omega

/-- **One operation** on a display that has a mode. -/
theorem modeLaw_iff {w : World} (h : WellFormed w) (hmode : w.HasMode) (op : Op) :
    ModeLaw w op ↔ ModeCond w op := by
  by_cases hset : ∃ id, op = .setDisplayMode id
  · obtain ⟨id, rfl⟩ := hset
    have hfree : ∀ w', CarriesPending w (.setDisplayMode id) w' := fun _ _ ha => by cases ha
    rcases setDisplayMode_cases w id with ⟨hneg, hrun⟩ | ⟨hid, hrun, hactive⟩
    · have hlaw : ModeLaw w (.setDisplayMode id) := by
        refine post_of_ok hrun ⟨hmode.supports, ?_, hfree w⟩
        exact fun _ _ _ => ⟨by simp [Ret.ret], rfl⟩
      exact iff_of_true hlaw (Or.inr hneg)
    · have hsame : ∀ id', (w.withMode id).Supports id' ↔ w.Supports id' := World.supports_congr rfl
      unfold ModeLaw
      rw [post_iff_of_ok hrun, World.withMode_getDisplayMode hid hactive, hsame]
      constructor
      · rintro ⟨hlisted, -⟩
        exact Or.inl hlisted
      · intro hcond
        have hlisted := hcond.resolve_right (by omega)
        refine ⟨hlisted, fun id' hop hno => ?_, hfree _⟩
        obtain rfl := Op.setDisplayMode.inj hop
        exact absurd hlisted hno
  have hset : ∀ id, op ≠ .setDisplayMode id := fun id hop => hset ⟨id, hop⟩
  have hkept := isModeless_step op hset w
  have hlisted : Post (step op) w (fun _ w' => w'.Supports w'.getDisplayMode)
      (fun _ _ => True) := by
    apply hkept.mono
    · rintro r w' ⟨hcrtc, hconn⟩
      exact (hmode.congr hcrtc hconn).supports
    · exact fun _ _ _ => trivial
  by_cases hcommit : ∃ a, op = .commit a
  · obtain ⟨a, rfl⟩ := hcommit
    obtain ⟨p, hp, -⟩ := id h.parts
    have hrequested := step_commit_requested h hp a
    constructor
    · intro hlaw
      have hboth : Post (step (.commit a)) w (fun _ _ => ModeCond w (.commit a))
          (fun _ _ => ModeCond w (.commit a)) :=
        (hlaw.and hrequested).mono
          (fun _ _ hw' => (carriesPending_iff hmode hw'.2).1 hw'.1.2.2)
          (fun _ _ hw' => (carriesPending_iff hmode hw'.2).1 hw'.1)
      unfold Post at hboth
      split at hboth <;> exact hboth
    · intro hcond
      apply (hlisted.and hrequested).mono
      · rintro r w' ⟨hw', hreq⟩
        refine ⟨hw', fun id hop => ?_, (carriesPending_iff hmode hreq).2 hcond⟩
        cases hop
      · rintro e w' ⟨-, hreq⟩
        exact (carriesPending_iff hmode hreq).2 hcond
  · have hfree : ∀ w', CarriesPending w op w' := fun w' a ha => absurd ⟨a, ha⟩ hcommit
    have hlaw : ModeLaw w op := by
      apply hlisted.mono
      · intro r w' hw'
        exact ⟨hw', fun id hop => absurd hop (hset id), hfree w'⟩
      · exact fun _ w' _ => hfree w'
    refine iff_of_true hlaw ?_
    cases op with
    | setDisplayMode id => exact absurd rfl (hset id)
    | commit a => exact absurd ⟨a, rfl⟩ hcommit
    | _ => trivial

/-- An operation that meets the condition leaves the display with a mode. -/
theorem World.HasMode.step {w : World} (hmode : w.HasMode) {op : Op} (hcond : ModeCond w op) :
    Post (QemuHal.step op) w (fun _ w' => w'.HasMode) (fun _ _ => True) := by
  by_cases hset : ∃ id, op = .setDisplayMode id
  · obtain ⟨id, rfl⟩ := hset
    rcases setDisplayMode_cases w id with ⟨-, hrun⟩ | ⟨hid, hrun, hactive⟩
    · exact post_of_ok hrun hmode
    · refine post_of_ok hrun (World.withMode_hasMode hid hactive ?_)
      exact hcond.resolve_right (by omega)
  · apply (isModeless_step op (fun id hop => hset ⟨id, hop⟩) w).mono
    · rintro r w' ⟨hcrtc, hconn⟩
      exact hmode.congr hcrtc hconn
    · exact fun _ _ _ => trivial

/-- `Init` gives the display a mode. -/
theorem Initialised.hasMode {w : World} (h : Initialised w) : w.HasMode := by
  obtain ⟨w₀, a, -, hinit⟩ := h
  obtain ⟨id, ids, -, hinits, hup⟩ := (drmDisplayInit_outcome a).of_ok hinit
  have hneeds := hinits.1 rfl
  have hup := hup rfl
  obtain ⟨heq, hlt⟩ := toInt32_of_nonneg hneeds.mode
  have hactive : w.disp.mCrtc.mActiveModeId = w₀.disp.mConnector.initialMode := by
    have hmode := hneeds.mode
    rw [hup.mCrtc, DrmCrtc.setActivieMode, if_neg (by omega)]
  obtain ⟨mode, hfiled, -⟩ := hneeds.frame
  constructor
  · rw [hactive]
    exact hneeds.mode
  · rw [hactive]
    exact hlt
  · rw [hactive, hup.mConnector, hfiled]
    rfl

instance (w : World) (op : Op) : Decidable (ModeCond w op) :=
  match op with
  | .setDisplayMode _ => inferInstanceAs (Decidable (_ ∨ _))
  | .commit _ => inferInstanceAs (Decidable (_ → _ → _))
  | .createLayer .. | .destroyLayer .. | .setLayerZorder .. | .setLayerBuffer ..
  | .setLayerCompositionType .. | .setLayerVisible .. | .setLayerRegion ..
  | .setDisplayClientBuffer .. | .prepareDisplayLayers .. | .getDisplayCompChange ..
  | .getDisplayReleaseFence .. | .clientFd .. => inferInstanceAs (Decidable True)

theorem smallBoot_ready : Initialised (smallBoot []) :=
  smallBoot_initialised (by decide) (by decide +kernel)

/-- Nothing clears the flag: a mode once set is to be set in every later frame. -/
theorem needModeSet_kept {w : World} (h : w.disp.mCrtc.mNeedModeSet = true) (ops : List Op) :
    Post (run step ops) w (fun _ w' => w'.disp.mCrtc.mNeedModeSet = true) (fun _ _ => True) := by
  refine run_invariant (I := fun w : World => w.disp.mCrtc.mNeedModeSet = true) ?_ h ops
  intro w op hneed
  by_cases hset : ∃ id, op = .setDisplayMode id
  · obtain ⟨id, rfl⟩ := hset
    rcases setDisplayMode_cases w id with ⟨-, hrun⟩ | ⟨hid, hrun, -⟩
    · exact post_of_ok hrun hneed
    · refine post_of_ok hrun ?_
      unfold World.withMode DrmCrtc.setActivieMode
      rw [if_neg (by omega)]
      dsimp only
      rw [hneed, ite_self]
  · apply (isModeless_step op (fun id hop => hset ⟨id, hop⟩) w).mono
    · rintro r w' ⟨hcrtc, -⟩
      rw [hcrtc]
      exact hneed
    · exact fun _ _ _ => trivial

/-- The request has a `MODE_ID` for the CRTC. -/
def Commit.hasModeId (c : Commit) (crtcId : Nat) : Bool :=
  !(c.pset.values (.crtc crtcId) .modeId).isEmpty

/-- Whether the active mode has changed since the last accepted request that carried one. -/
def pendingAfter (w w' : World) (pending : Bool) : Bool :=
  if (newCommits w w').any fun c => c.fence.isSome && c.hasModeId w.disp.mCrtc.mId then false
  else pending || decide (w'.disp.mCrtc.mActiveModeId ≠ w.disp.mCrtc.mActiveModeId)

def notePending (w : World) (pending : Bool) (op : Op) : Bool :=
  pendingAfter w (after (step op) w) pending

/-- Every request made between the states has a mode, and a block made for it, exactly when
one is pending. -/
def CarriedOnce (w : World) (pending : Bool) (w' : World) : Prop :=
  ∀ c ∈ newCommits w w',
    (c.hasModeId w.disp.mCrtc.mId = true ↔ pending = true) ∧
      (newBlobs w w' ≠ [] ↔ pending = true)

/-- What is asked of a frame. -/
def ModeOnceLaw (s : World × Bool) (op : Op) : Prop :=
  ∀ a, op = .commit a →
    Post (step op) s.1 (fun _ w' => CarriedOnce s.1 s.2 w') (fun _ w' => CarriedOnce s.1 s.2 w')

/-- `UpdateMode` gets a block: the flag is set, the mode is found and the kernel makes the
blob. -/
structure World.MakesBlock (w : World) (a : FrameAnswers) : Prop where
  need : w.disp.mCrtc.mNeedModeSet = true
  found : (w.disp.mConnector.getModeFromId w.disp.mCrtc.mActiveModeId).isSome
  made : a.createPropertyBlob.isSome
  drmFd : 0 ≤ w.drm.drmFd

theorem World.makesBlock_iff {w : World} {a : FrameAnswers} :
    w.MakesBlock a ↔ (w.modeBlock a).isSome := by
  constructor
  · rintro ⟨hneed, hfound, hmade, hfd⟩
    obtain ⟨mode, hmode⟩ := Option.isSome_iff_exists.1 hfound
    obtain ⟨blob, hblob⟩ := Option.isSome_iff_exists.1 hmade
    unfold World.modeBlock
    rw [if_pos hneed, hmode, hblob]
    simp [Int.not_lt.2 hfd]
  · intro h
    unfold World.modeBlock at h
    split at h
    · next hneed =>
        split at h
        · next hmode hblob =>
            split at h
            · exact absurd h (by simp)
            · next hfd => exact ⟨hneed, by simp [hmode], by simp [hblob], Int.not_lt.1 hfd⟩
        · exact absurd h (by simp)
    · exact absurd h (by simp)

instance (w : World) (a : FrameAnswers) : Decidable (w.MakesBlock a) :=
  decidable_of_iff _ World.makesBlock_iff.symm

/-- A frame that issues its request gets a block exactly when a mode is pending. -/
def ModeOnceCond (s : World × Bool) : Op → Prop
  | .commit a => s.1.commits a = true → (s.2 = true ↔ s.1.MakesBlock a)
  | _ => True

instance (s : World × Bool) (op : Op) : Decidable (ModeOnceCond s op) :=
  match op with
  | .commit _ => inferInstanceAs (Decidable (_ → _))
  | .createLayer .. | .destroyLayer .. | .setLayerZorder .. | .setLayerBuffer ..
  | .setLayerCompositionType .. | .setLayerVisible .. | .setLayerRegion ..
  | .setDisplayClientBuffer .. | .setDisplayMode .. | .prepareDisplayLayers ..
  | .getDisplayCompChange .. | .getDisplayReleaseFence .. | .clientFd .. =>
      inferInstanceAs (Decidable True)

theorem hasModeId_iff {w : World} {p : Parts} {a : FrameAnswers} {c : Commit}
    (hentries : c.pset.otherEntries = w.requested p a) (hcommits : w.commits a = true) :
    c.hasModeId w.disp.mCrtc.mId = true ↔ (w.modeBlock a).isSome := by
  unfold Commit.hasModeId
  cases hblock : w.modeBlock a with
  | none =>
      rw [values_noBlock hentries hblock (by simp) (by simp) (by simp)]
      simp
  | some blob =>
      rw [(carriesMode_of_block hentries hcommits hblock).modeId]
      simp

theorem carriedOnce_iff {w w' : World} {p : Parts} {a : FrameAnswers} {pending : Bool}
    (h : Requested w p a w') :
    CarriedOnce w pending w' ↔ ModeOnceCond (w, pending) (.commit a) := by
  unfold CarriedOnce ModeOnceCond
  rcases h with ⟨hno, hnone⟩ | ⟨c, hcommits, hnew, -, hentries, hblobs⟩
  · rw [hnone]
    simp [hno]
  · have hmade : newBlobs w w' ≠ [] ↔ (w.modeBlock a).isSome := by
      rw [hblobs]
      cases w.modeBlock a <;> simp
    rw [hnew]
    simp only [List.mem_singleton, forall_eq]
    rw [hasModeId_iff hentries hcommits, hmade, World.makesBlock_iff, and_self]
    exact ⟨fun hiff _ => hiff.symm, fun hcond => (hcond hcommits).symm⟩

/-- **One operation.** -/
theorem modeOnceLaw_iff {s : World × Bool} (h : WellFormed s.1) (op : Op) :
    ModeOnceLaw s op ↔ ModeOnceCond s op := by
  by_cases hcommit : ∃ a, op = .commit a
  · obtain ⟨a, rfl⟩ := hcommit
    obtain ⟨p, hp, -⟩ := id h.parts
    have hrequested := step_commit_requested h hp a
    constructor
    · intro hlaw
      have hboth : Post (step (.commit a)) s.1 (fun _ _ => ModeOnceCond s (.commit a))
          (fun _ _ => ModeOnceCond s (.commit a)) :=
        ((hlaw a rfl).and hrequested).mono
          (fun _ _ hw' => (carriedOnce_iff hw'.2).1 hw'.1)
          (fun _ _ hw' => (carriedOnce_iff hw'.2).1 hw'.1)
      unfold Post at hboth
      split at hboth <;> exact hboth
    · rintro hcond a' -
      exact hrequested.mono (fun _ _ hreq => (carriedOnce_iff hreq).2 hcond)
        (fun _ _ hreq => (carriedOnce_iff hreq).2 hcond)
  · refine iff_of_true (fun a ha => absurd ⟨a, ha⟩ hcommit) ?_
    cases op with
    | commit a => exact absurd ⟨a, rfl⟩ hcommit
    | _ => trivial

/-- **Runs.** From a display that `Init` has brought up, every request of a run carries a mode
exactly when one is pending if and only if the frames meet the condition. -/
theorem modeOnce_iff {w₀ w : World} {a : InitAnswers} (hfresh : Fresh w₀)
    (hinit : drmDisplayInit a w₀ = .ok .success w) (ops : List Op) :
    Meets (noting notePending step) ModeOnceLaw (w, pendingAfter w₀ w false) ops ↔
      Meets (noting notePending step) ModeOnceCond (w, pendingAfter w₀ w false) ops := by
  have hw : Initialised w := ⟨w₀, a, hfresh, hinit⟩
  refine meets_congr (I := fun s => WellFormed s.1) ?_ ?_ hw.wellFormed ops
  · intro s op h _
    rw [post_noting]
    exact h.step op
  · intro s op h
    exact modeOnceLaw_iff h op

/-- The mode the first frame has carried is carried again. -/
theorem modeOnce_again :
    ¬ Meets (noting notePending step) ModeOnceLaw
      (smallBoot [], pendingAfter (smallDisplay []) (smallBoot []) false)
      [.commit { frame (some 2) (some 2) (some 21) with createPropertyBlob := some 71 }] := by
  rintro ⟨hlaw, -⟩
  have hcond := (modeOnceLaw_iff smallBoot_ready.wellFormed _).1 hlaw
  have hcommits : (smallBoot []).commits
      { frame (some 2) (some 2) (some 21) with createPropertyBlob := some 71 } = true := by
    decide +kernel
  exact absurd (hcond hcommits) (by decide +kernel)

/-- A small display with two modes. -/
def twoModes : World :=
  { smallDisplay [] with disp := { (smallDisplay []).disp with mConnector := {
    (smallDisplay []).disp.mConnector with
    mModes := [(0, { hdisplay := 640, vdisplay := 480 }), (1, { hdisplay := 800, vdisplay := 600 })] } } }

theorem twoModes_fresh : Fresh twoModes :=
  have h : Fresh (smallDisplay []) := smallDisplay_fresh (by decide)
  { h with }

/-- A frame whose blob is refused, another mode and the frame that carries it, and a frame
after it whose blob is refused again. -/
theorem modeOnce_iff_boot :
    ∃ w, drmDisplayInit smallInit twoModes = .ok .success w ∧
      Meets (noting notePending step) ModeOnceLaw (w, pendingAfter twoModes w false)
        [.commit (frame (some 2) (some 2) (some 21)), .setDisplayMode 1,
          .commit { frame (some 3) (some 3) (some 22) with createPropertyBlob := some 71 },
          .commit (frame (some 4) (some 4) (some 23))] := by
  have hret : returns (drmDisplayInit smallInit) twoModes (fun ret w => decide (ret = .success ∧
      Meets (noting notePending step) ModeOnceCond (w, pendingAfter twoModes w false)
        [.commit (frame (some 2) (some 2) (some 21)), .setDisplayMode 1,
          .commit { frame (some 3) (some 3) (some 22) with createPropertyBlob := some 71 },
          .commit (frame (some 4) (some 4) (some 23))])) = true := by
    decide +kernel
  obtain ⟨ret, w, hinit, hmeets⟩ := returns_iff.1 hret
  obtain ⟨rfl, hcond⟩ := of_decide_eq_true hmeets
  exact ⟨w, hinit, (modeOnce_iff twoModes_fresh hinit _).2 hcond⟩

end QemuHal
