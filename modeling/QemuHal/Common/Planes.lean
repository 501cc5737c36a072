import QemuHal.Drm.Mode
import QemuHal.Lib.Exec

/-!
# Planes shared by the displays of the common HAL

The displays of a `DrmDevice` share its planes. `HdiDrmComposition::Apply` puts the
client layer on the first plane that is free or its own, binds the plane to its pipe
and turns off the planes that no pipe owns. Nothing unbinds a plane again.
`planesLaw_iff` says in which runs the requests keep off the planes of other CRTCs
and turn planes off completely.
-/

namespace QemuHal.Common.Planes

open Exec

/-! ## Requests -/

/-- The properties of planes, CRTCs and connectors that a frame sets. -/
inductive PropName where
  | fbId | inFenceFd | crtcId
  | crtcX | crtcY | crtcW | crtcH
  | srcX | srcY | srcW | srcH
  | zpos | modeId | outFencePtr | active
deriving DecidableEq, Repr

/-- One entry of an atomic request. -/
structure PropValue where
  obj : DrmObj
  prop : PropName
  value : Int
deriving DecidableEq, Repr

/-- A `drmModeAtomicReq`, newest entry first. -/
abbrev AtomicReq := List PropValue

/-- Add one property after another and stop at the first call that fails. -/
def addProperties (ok : PropName → Bool) : AtomicReq → List PropValue → Bool × AtomicReq
  | pset, [] => (true, pset)
  | pset, e :: es => if ok e.prop then addProperties ok (e :: pset) es else (false, pset)

/-! ## The device -/

/-- `mWinType` is one bit, or all of them for a plane of unknown name. `mCrtcId` is what
the kernel reported when the device was opened. -/
structure DrmPlane where
  mWinType : UInt32
  mCrtcId : Nat
  mPropFenceInId : Nat := 1
  mPipe : UInt32 := 0
deriving DecidableEq, Repr

structure DrmCrtc where
  mId : Nat
  mPipe : UInt32
  mPlaneMask : UInt32
deriving DecidableEq, Repr

/-- The mode of a CRTC. -/
structure CrtcMode where
  mActiveModeId : Int := invalidModeId
  mNeedModeSet : Bool := false
deriving DecidableEq, Repr

/-- What the displays share: the planes and the CRTCs, by id. -/
structure DrmDevice where
  planes : Nat → DrmPlane
  modes : Nat → CrtcMode := fun _ => {}

inductive Fault where
  /-- `layerBuffer->GetWight()` of a layer without a buffer. -/
  | nullLayerBuffer
deriving DecidableEq, Repr

abbrev Comp := EStateM Fault DrmDevice

def DrmDevice.bindToPipe (d : DrmDevice) (plane : Nat) (pipe : UInt32) : DrmDevice :=
  { d with planes := Function.update d.planes plane { d.planes plane with mPipe := pipe } }

def DrmDevice.setMode (d : DrmDevice) (crtcId : Nat) (mode : CrtcMode) : DrmDevice :=
  { d with modes := Function.update d.modes crtcId mode }

/-! ## A composition -/

/-- The client layer as `ApplyPlane` finds it; the buffer as its width and height. -/
structure CompLayer where
  mAcquireFence : Int := -1
  mZorder : Nat := 0
  mHdiBuffer : Option (Int × Int) := none
deriving DecidableEq, Repr

/-- `mPlanes` as ids. -/
structure HdiDrmComposition where
  mCrtc : DrmCrtc
  mConnectorId : Nat
  mPlanes : List Nat
  mCompLayers : List CompLayer
deriving DecidableEq, Repr

structure DrmGemBuffer where
  mGemHandle : Nat
  mFdId : Nat
deriving DecidableEq, Repr

/-- `IsValid`. -/
def DrmGemBuffer.isValid (gem : DrmGemBuffer) : Bool :=
  decide (gem.mGemHandle ≠ 0) && decide (gem.mFdId ≠ 0)

/-- The answers to the calls made for one layer. -/
structure LayerAnswers where
  addProperty : PropName → Bool := fun _ => true
  gem : DrmGemBuffer

/-- The answers to the calls of one `Apply`; `unuse p` answers the two calls that
`RemoveUnusePlane` makes for the plane `p`. -/
structure ApplyAnswers where
  /-- The blob id of the mode block, if there is a valid one. -/
  modeBlock : Option Nat := none
  modeProperty : PropName → Bool := fun _ => true
  modeCommit : Bool := true
  atomicAlloc : Bool := true
  outFencePtr : Bool := true
  layer : Nat → LayerAnswers
  unuse : Nat → Bool × Bool := fun _ => (true, true)
  addProperty : PropName → Bool := fun _ => true
  atomicCommit : Bool := true

/-! ## `Apply` -/

/-- What `ApplyPlane` sets before it gets the buffer. -/
def planeProperties (layer : CompLayer) (plane : Nat) (drmPlane : DrmPlane) (bufferW bufferH : Int) :
    List PropValue :=
  (if drmPlane.mPropFenceInId ≠ 0 ∧ 0 ≤ layer.mAcquireFence then
    [⟨.plane plane, .inFenceFd, layer.mAcquireFence⟩] else []) ++
  [⟨.plane plane, .crtcX, 0⟩, ⟨.plane plane, .crtcY, 0⟩,
    ⟨.plane plane, .crtcW, bufferW⟩, ⟨.plane plane, .crtcH, bufferH⟩,
    ⟨.plane plane, .srcX, 0⟩, ⟨.plane plane, .srcY, 0⟩,
    ⟨.plane plane, .srcW, shiftLeft16 bufferW⟩, ⟨.plane plane, .srcH, shiftLeft16 bufferH⟩,
    ⟨.plane plane, .zpos, layer.mZorder⟩]

/-- `ApplyPlane`: whether it succeeds, and the request. -/
def applyPlane (a : LayerAnswers) (layer : CompLayer) (crtc : DrmCrtc) (plane : Nat)
    (pset : AtomicReq) : Comp (Bool × AtomicReq) := do
  let drmPlane := (← get).planes plane
  match layer.mHdiBuffer with
  | none => throw .nullLayerBuffer
  | some (bufferW, bufferH) =>
      match addProperties a.addProperty pset
          (planeProperties layer plane drmPlane bufferW bufferH) with
      | (false, pset) => return (false, pset)
      | (true, pset) =>
          if a.gem.isValid then
            return addProperties a.addProperty pset
              [⟨.plane plane, .fbId, a.gem.mFdId⟩, ⟨.plane plane, .crtcId, crtc.mId⟩]
          else return (false, pset)

/-- The bit of the pipe of a CRTC. -/
def DrmCrtc.bit (crtc : DrmCrtc) : UInt32 := 1 <<< crtc.mPipe

/-- `GetWinType() & GetPlaneMask()`. -/
def DrmCrtc.covers (crtc : DrmCrtc) (drmPlane : DrmPlane) : Bool :=
  decide (drmPlane.mWinType &&& crtc.mPlaneMask ≠ 0)

/-- The inner loop of `FindPlaneAndApply`. -/
def placeLayer (a : LayerAnswers) (layer : CompLayer) (crtc : DrmCrtc) :
    List Nat → AtomicReq → Comp AtomicReq
  | [], pset => return pset
  | plane :: mPlanes, pset => do
      let drmPlane := (← get).planes plane
      if drmPlane.mPipe ≠ 0 ∧ drmPlane.mPipe ≠ crtc.bit then
        placeLayer a layer crtc mPlanes pset
      else if ¬ crtc.covers drmPlane then
        placeLayer a layer crtc mPlanes pset
      else if drmPlane.mCrtcId = crtc.mId ∨ drmPlane.mCrtcId = 0 then
        let (ok, pset) ← applyPlane a layer crtc plane pset
        if ok then modify fun d => d.bindToPipe plane crtc.bit
        return pset
      else placeLayer a layer crtc mPlanes pset

/-- `FindPlaneAndApply`, from layer `i` on. -/
def findPlaneAndApply (a : Nat → LayerAnswers) (crtc : DrmCrtc) (mPlanes : List Nat) :
    Nat → List CompLayer → AtomicReq → Comp AtomicReq
  | _, [], pset => return pset
  | i, layer :: mCompLayers, pset => do
      let pset ← placeLayer (a i) layer crtc mPlanes pset
      findPlaneAndApply a crtc mPlanes (i + 1) mCompLayers pset

/-- `FB_ID = 0` for a plane, as far as it can be added. -/
def unuse (ok : Bool) (plane : Nat) (pset : AtomicReq) : AtomicReq :=
  if ok then ⟨.plane plane, .fbId, 0⟩ :: pset else pset

/-- `RemoveUnusePlane`. -/
def removeUnusePlane (a : Nat → Bool × Bool) (crtc : DrmCrtc) :
    List Nat → AtomicReq → Comp AtomicReq
  | [], pset => return pset
  | plane :: mPlanes, pset => do
      let drmPlane := (← get).planes plane
      if crtc.covers drmPlane ∧ drmPlane.mPipe = 0 then
        -- both calls set `FB_ID`
        let pset := unuse (a plane).2 plane (unuse (a plane).1 plane pset)
        modify fun d => d.bindToPipe plane 0
        removeUnusePlane a crtc mPlanes pset
      else removeUnusePlane a crtc mPlanes pset

/-- `UpdateMode`: its status, and the request it builds for a pending mode. -/
def updateMode (c : HdiDrmComposition) (a : ApplyAnswers) : Comp (Bool × List AtomicReq) := do
  let d ← get
  if (d.modes c.mCrtc.mId).mNeedModeSet then
    match a.modeBlock with
    | none => return (true, [])
    | some blob =>
        let (ok, pset) := addProperties a.modeProperty []
          [⟨.crtc c.mCrtc.mId, .active, 1⟩, ⟨.crtc c.mCrtc.mId, .modeId, blob⟩,
            ⟨.connector c.mConnectorId, .crtcId, c.mCrtc.mId⟩]
        if ok ∧ a.modeCommit then
          set (d.setMode c.mCrtc.mId { d.modes c.mCrtc.mId with mNeedModeSet := false })
          return (true, [pset])
        return (false, [pset])
  else return (true, [])

/-- `Apply` from the request of the frame on. -/
def applyFrame (c : HdiDrmComposition) (a : ApplyAnswers) : Comp (DispStatus × AtomicReq) := do
  let pset : AtomicReq := [⟨.crtc c.mCrtc.mId, .outFencePtr, 0⟩]
  let pset ← findPlaneAndApply a.layer c.mCrtc c.mPlanes 0 c.mCompLayers pset
  let pset ← removeUnusePlane a.unuse c.mCrtc c.mPlanes pset
  match addProperties a.addProperty pset
      [⟨.connector c.mConnectorId, .crtcId, c.mCrtc.mId⟩, ⟨.crtc c.mCrtc.mId, .active, 1⟩] with
  | (false, pset) => return (.failure, pset)
  | (true, pset) => return (if a.atomicCommit then .success else .failure, pset)

/-- `Apply`: its status and the requests it builds. -/
def apply (c : HdiDrmComposition) (a : ApplyAnswers) : Comp (DispStatus × List AtomicReq) := do
  let (ok, psets) ← updateMode c a
  if ¬ ok then return (.failure, psets)
  if c.mPlanes.length < c.mCompLayers.length then return (.failure, psets)
  if ¬ a.atomicAlloc then return (.nullPtr, psets)
  if ¬ a.outFencePtr then return (.failure, [] :: psets)
  let (ret, pset) ← applyFrame c a
  return (ret, pset :: psets)

/-- `SetActivieMode` of a CRTC. -/
def setActivieMode (crtcId : Nat) (id : Int) : Comp Unit :=
  modify fun d => d.setMode crtcId
    { mActiveModeId := id
      mNeedModeSet := (d.modes crtcId).mNeedModeSet ||
        decide ((d.modes crtcId).mActiveModeId ≠ id) }

/-- What the displays of a device do. The composition of an `apply` is that of its
display at the time. -/
inductive Op where
  | apply (c : HdiDrmComposition) (a : ApplyAnswers)
  | setActivieMode (crtcId : Nat) (id : Int)

/-- An operation, with the requests it builds. -/
def step : Op → Comp (List AtomicReq)
  | .apply c a => Prod.snd <$> apply c a
  | .setActivieMode crtcId id => (fun _ => []) <$> setActivieMode crtcId id

/-! ## The law -/

/-- Another CRTC uses the plane: its pipe owns it, or the kernel reported it. -/
def DrmPlane.usedByOther (drmPlane : DrmPlane) (crtc : DrmCrtc) : Prop :=
  (drmPlane.mPipe ≠ 0 ∧ drmPlane.mPipe ≠ crtc.bit) ∨
    (drmPlane.mCrtcId ≠ 0 ∧ drmPlane.mCrtcId ≠ crtc.mId)

/-- A request turns a plane off. -/
def TurnsOff (pset : AtomicReq) (plane : Nat) : Prop := ⟨.plane plane, .fbId, 0⟩ ∈ pset

/-- A request puts the framebuffer of a layer on a plane. -/
def Carries (pset : AtomicReq) (plane : Nat) : Prop :=
  ∃ fb, fb ≠ 0 ∧ ⟨.plane plane, .fbId, fb⟩ ∈ pset

/-- What is asked of a request built for `crtc`. -/
structure PlanesLaw (d : DrmDevice) (crtc : DrmCrtc) (pset : AtomicReq) : Prop where
  own : ∀ plane prop value, ⟨.plane plane, prop, value⟩ ∈ pset →
    ¬ (d.planes plane).usedByOther crtc
  off : ∀ plane, TurnsOff pset plane → ⟨.plane plane, .crtcId, 0⟩ ∈ pset
  kept : ∀ plane, Carries pset plane → ¬ TurnsOff pset plane

/-- What is asked of an operation. -/
def OpLaw (d : DrmDevice) : Op → Prop
  | .apply c a => Post (apply c a) d (fun r _ => ∀ pset ∈ r.2, PlanesLaw d c.mCrtc pset)
      (fun _ _ => True)
  | .setActivieMode .. => True

/-- The planes `FindPlaneAndApply` may take. -/
def DrmCrtc.takes (crtc : DrmCrtc) (drmPlane : DrmPlane) : Bool :=
  decide (drmPlane.mPipe = 0 ∨ drmPlane.mPipe = crtc.bit) && crtc.covers drmPlane &&
    decide (drmPlane.mCrtcId = crtc.mId ∨ drmPlane.mCrtcId = 0)

/-- The layer has a buffer, every property is added and the buffer is valid. -/
def LayerAnswers.succeeds (a : LayerAnswers) (layer : CompLayer) (plane : Nat)
    (drmPlane : DrmPlane) : Bool :=
  match layer.mHdiBuffer with
  | none => false
  | some (bufferW, bufferH) =>
      ((planeProperties layer plane drmPlane bufferW bufferH).all fun e => a.addProperty e.prop) &&
        a.gem.isValid && a.addProperty .fbId && a.addProperty .crtcId

/-- One of the layers from `i` on is put on the plane. -/
def placed (a : Nat → LayerAnswers) (plane : Nat) (drmPlane : DrmPlane) :
    Nat → List CompLayer → Bool
  | _, [] => false
  | i, layer :: mCompLayers =>
      (a i).succeeds layer plane drmPlane || placed a plane drmPlane (i + 1) mCompLayers

/-- The plane `FindPlaneAndApply` takes, for every layer alike. -/
def HdiDrmComposition.chosen (c : HdiDrmComposition) (d : DrmDevice) : Option Nat :=
  c.mPlanes.find? fun plane => c.mCrtc.takes (d.planes plane)

/-- `UpdateMode` succeeds. -/
def modeUpdated (d : DrmDevice) (c : HdiDrmComposition) (a : ApplyAnswers) : Prop :=
  (d.modes c.mCrtc.mId).mNeedModeSet = true → a.modeBlock ≠ none →
    (a.modeProperty .active = true ∧ a.modeProperty .modeId = true ∧
      a.modeProperty .crtcId = true) ∧ a.modeCommit = true

/-- `Apply` gets as far as `RemoveUnusePlane`. -/
structure Reaches (d : DrmDevice) (c : HdiDrmComposition) (a : ApplyAnswers) : Prop where
  mode : modeUpdated d c a
  enough : c.mCompLayers.length ≤ c.mPlanes.length
  alloc : a.atomicAlloc = true
  outFence : a.outFencePtr = true
  buffers : c.chosen d ≠ none → ∀ layer ∈ c.mCompLayers, layer.mHdiBuffer ≠ none

/-- The plane is the CRTC's to use, no pipe owns it and no layer is put on it. -/
def Unused (d : DrmDevice) (c : HdiDrmComposition) (a : ApplyAnswers) (plane : Nat) : Prop :=
  c.mCrtc.covers (d.planes plane) = true ∧ (d.planes plane).mPipe = 0 ∧
    ¬ (c.chosen d = some plane ∧ placed a.layer plane (d.planes plane) 0 c.mCompLayers = true)

/-- The condition of an operation: an `Apply` that comes to `RemoveUnusePlane` leaves no
plane unused that it could turn off. -/
def Op.LeavesNone (d : DrmDevice) : Op → Prop
  | .apply c a => Reaches d c a →
      ∀ plane ∈ c.mPlanes, Unused d c a plane → a.unuse plane = (false, false)
  | .setActivieMode .. => True

/-! ## Putting a layer on a plane -/

section
variable {crtc : DrmCrtc} {d : DrmDevice} {plane : Nat} {pset : AtomicReq}

theorem DrmCrtc.bit_ne_zero (crtc : DrmCrtc) : crtc.bit ≠ 0 := by
  intro h
  have h' := congrArg UInt32.toNat h
  unfold DrmCrtc.bit at h'
  rw [UInt32.toNat_shiftLeft] at h'
  have hlt : crtc.mPipe.toNat % 32 < 32 := Nat.mod_lt _ (by decide)
  have hpow : 2 ^ (crtc.mPipe.toNat % 32) < 2 ^ 32 := Nat.pow_lt_pow_right (by decide) hlt
  rw [UInt32.toNat_one, Nat.one_shiftLeft, Nat.mod_eq_of_lt hpow] at h'
  exact (Nat.two_pow_pos _).ne' h'

theorem addProperties_spec (ok : PropName → Bool) (es : List PropValue) (pset : AtomicReq) :
    ∃ es', addProperties ok pset es = (es.all fun e => ok e.prop, es' ++ pset) ∧ es' ⊆ es := by
  induction es generalizing pset with
  | nil => exact ⟨[], rfl, List.Subset.refl _⟩
  | cons e es ih =>
      unfold addProperties
      by_cases he : ok e.prop = true
      · obtain ⟨es', hes, hsub⟩ := ih (e :: pset)
        refine ⟨es' ++ [e], ?_, ?_⟩
        · rw [if_pos he, hes, List.all_cons, he, Bool.true_and, List.append_assoc]
          rfl
        · intro e' he'
          rcases List.mem_append.1 he' with h | h
          · exact List.mem_cons_of_mem _ (hsub h)
          · rw [List.mem_singleton.1 h]
            exact List.mem_cons_self
      · refine ⟨[], ?_, List.nil_subset _⟩
        rw [if_neg he, List.all_cons, Bool.eq_false_iff.2 he]
        rfl

/-- What the entries for a plane may be; `ok` says that the layer was put on it. -/
structure PlacedEntries (plane : Nat) (ok : Bool) (es : List PropValue) : Prop where
  obj : ∀ e ∈ es, e.obj = .plane plane
  fb : ∀ e ∈ es, e.prop = .fbId → e.value ≠ 0
  crtc : ∀ e ∈ es, e.prop = .crtcId → ok = true

namespace PlacedEntries

theorem nil (plane : Nat) (ok : Bool) : PlacedEntries plane ok [] where
  obj := by simp
  fb := by simp
  crtc := by simp

theorem append {ok ok' : Bool} {es es' : List PropValue} (h : PlacedEntries plane ok es)
    (h' : PlacedEntries plane ok' es') : PlacedEntries plane (ok || ok') (es' ++ es) where
  obj := by
    intro e he
    rcases List.mem_append.1 he with he | he
    · exact h'.obj e he
    · exact h.obj e he
  fb := by
    intro e he
    rcases List.mem_append.1 he with he | he
    · exact h'.fb e he
    · exact h.fb e he
  crtc := by
    intro e he hp
    rcases List.mem_append.1 he with he | he
    · rw [h'.crtc e he hp, Bool.or_true]
    · rw [h.crtc e he hp, Bool.true_or]

end PlacedEntries

/-- No property of `planeProperties` is `FB_ID` or `CRTC_ID`. -/
theorem planeProperties_mem {layer : CompLayer} {drmPlane : DrmPlane} {bufferW bufferH : Int}
    {e : PropValue} (he : e ∈ planeProperties layer plane drmPlane bufferW bufferH) :
    e.obj = .plane plane ∧ e.prop ≠ .fbId ∧ e.prop ≠ .crtcId := by
  unfold planeProperties at he
  rcases List.mem_append.1 he with he | he
  · split at he
    · rw [List.mem_singleton.1 he]
      exact ⟨rfl, by simp, by simp⟩
    · exact absurd he List.not_mem_nil
  · simp only [List.mem_cons, List.not_mem_nil, or_false] at he
    rcases he with rfl | rfl | rfl | rfl | rfl | rfl | rfl | rfl | rfl <;>
      exact ⟨rfl, by simp, by simp⟩

/-- `ApplyPlane` of a layer with a buffer. -/
theorem applyPlane_spec (a : LayerAnswers) {layer : CompLayer} (hbuf : layer.mHdiBuffer ≠ none) :
    ∃ es, applyPlane a layer crtc plane pset d =
        .ok (a.succeeds layer plane (d.planes plane), es ++ pset) d ∧
      PlacedEntries plane (a.succeeds layer plane (d.planes plane)) es := by
  obtain ⟨⟨bufferW, bufferH⟩, hb⟩ := Option.ne_none_iff_exists'.1 hbuf
  obtain ⟨es, hes, hsub⟩ := addProperties_spec a.addProperty
    (planeProperties layer plane (d.planes plane) bufferW bufferH) pset
  have hentries : ∀ ok, PlacedEntries plane ok es := fun ok =>
    ⟨fun e he => (planeProperties_mem (hsub he)).1,
      fun e he hp => absurd hp (planeProperties_mem (hsub he)).2.1,
      fun e he hp => absurd hp (planeProperties_mem (hsub he)).2.2⟩
  unfold applyPlane LayerAnswers.succeeds
  rw [get_bind, hb]
  dsimp only
  rw [hes]
  by_cases hall : ((planeProperties layer plane (d.planes plane) bufferW bufferH).all
      fun e => a.addProperty e.prop) = true
  · rw [hall]
    dsimp only
    by_cases hgem : a.gem.isValid = true
    · have hfb : (a.gem.mFdId : Int) ≠ 0 := by
        unfold DrmGemBuffer.isValid at hgem
        rw [Bool.and_eq_true, decide_eq_true_eq, decide_eq_true_eq] at hgem
        exact Int.natCast_ne_zero.2 hgem.2
      rw [if_pos hgem, hgem]
      unfold addProperties addProperties addProperties
      dsimp only
      by_cases hadd : a.addProperty .fbId = true
      · rw [if_pos hadd, hadd]
        by_cases hcrtc : a.addProperty .crtcId = true
        · rw [if_pos hcrtc, hcrtc]
          have hlast : PlacedEntries plane true
              [⟨.plane plane, .crtcId, crtc.mId⟩, ⟨.plane plane, .fbId, a.gem.mFdId⟩] :=
            ⟨by simp, by simpa using hfb, fun _ _ _ => rfl⟩
          exact ⟨_, rfl, (hentries true).append hlast⟩
        · rw [if_neg hcrtc, Bool.eq_false_iff.2 hcrtc]
          have hlast : PlacedEntries plane false [⟨.plane plane, .fbId, a.gem.mFdId⟩] :=
            ⟨by simp, by simpa using hfb, by simp⟩
          exact ⟨_, rfl, (hentries false).append hlast⟩
      · rw [if_neg hadd, Bool.eq_false_iff.2 hadd]
        exact ⟨es, rfl, hentries _⟩
    · rw [if_neg hgem, Bool.eq_false_iff.2 hgem]
      exact ⟨es, rfl, hentries _⟩
  · rw [Bool.eq_false_iff.2 hall]
    exact ⟨es, rfl, hentries _⟩

/-! ## The inner loop -/

/-- What `placeLayer` does with the plane it takes. -/
def placeOn (a : LayerAnswers) (layer : CompLayer) (crtc : DrmCrtc) (plane : Nat)
    (pset : AtomicReq) : Comp AtomicReq := do
  let (ok, pset) ← applyPlane a layer crtc plane pset
  if ok then modify fun d => d.bindToPipe plane crtc.bit
  return pset

/-- The inner loop takes the first plane it may. -/
theorem placeLayer_eq (a : LayerAnswers) (layer : CompLayer) (crtc : DrmCrtc)
    (mPlanes : List Nat) (pset : AtomicReq) (d : DrmDevice) :
    placeLayer a layer crtc mPlanes pset d =
      match mPlanes.find? fun plane => crtc.takes (d.planes plane) with
      | none => .ok pset d
      | some plane => placeOn a layer crtc plane pset d := by
  induction mPlanes with
  | nil => rfl
  | cons plane mPlanes ih =>
      unfold placeLayer
      rw [get_bind, List.find?_cons]
      by_cases hpipe : (d.planes plane).mPipe ≠ 0 ∧ (d.planes plane).mPipe ≠ crtc.bit
      · have htakes : crtc.takes (d.planes plane) = false := by
          unfold DrmCrtc.takes
          rw [decide_eq_false (by tauto), Bool.false_and, Bool.false_and]
        rw [if_pos hpipe, htakes]
        exact ih
      · have hpipe' : (d.planes plane).mPipe = 0 ∨ (d.planes plane).mPipe = crtc.bit := by tauto
        rw [if_neg hpipe]
        by_cases hcovers : crtc.covers (d.planes plane) = true
        · rw [if_neg (not_not.2 hcovers)]
          by_cases hid : (d.planes plane).mCrtcId = crtc.mId ∨ (d.planes plane).mCrtcId = 0
          · have htakes : crtc.takes (d.planes plane) = true := by
              unfold DrmCrtc.takes
              rw [decide_eq_true hpipe', hcovers, decide_eq_true hid]
              rfl
            rw [if_pos hid, htakes]
            rfl
          · have htakes : crtc.takes (d.planes plane) = false := by
              unfold DrmCrtc.takes
              rw [decide_eq_false hid, Bool.and_false]
            rw [if_neg hid, htakes]
            exact ih
        · have htakes : crtc.takes (d.planes plane) = false := by
            unfold DrmCrtc.takes
            rw [Bool.eq_false_iff.2 hcovers, Bool.and_false, Bool.false_and]
          rw [if_pos hcovers, htakes]
          exact ih

/-! ## `FindPlaneAndApply` -/

/-- The device once a plane is bound, if it is. -/
def DrmDevice.bound (d : DrmDevice) (crtc : DrmCrtc) (plane : Nat) (ok : Bool) : DrmDevice :=
  if ok then d.bindToPipe plane crtc.bit else d

theorem bound_other {other : Nat} (ok : Bool) (h : other ≠ plane) :
    (d.bound crtc plane ok).planes other = d.planes other := by
  unfold DrmDevice.bound DrmDevice.bindToPipe
  split
  · exact Function.update_of_ne h _ _
  · rfl

theorem bound_self (ok : Bool) : (d.bound crtc plane ok).planes plane =
    { d.planes plane with mPipe := if ok then crtc.bit else (d.planes plane).mPipe } := by
  unfold DrmDevice.bound DrmDevice.bindToPipe
  cases ok
  · rfl
  · exact Function.update_self ..

theorem bound_bound (ok ok' : Bool) :
    (d.bound crtc plane ok).bound crtc plane ok' = d.bound crtc plane (ok || ok') := by
  cases ok
  · rfl
  · cases ok'
    · rfl
    · unfold DrmDevice.bound DrmDevice.bindToPipe
      simp

theorem succeeds_pipe (a : LayerAnswers) (layer : CompLayer) (drmPlane : DrmPlane)
    (pipe : UInt32) :
    a.succeeds layer plane { drmPlane with mPipe := pipe } = a.succeeds layer plane drmPlane := rfl

theorem placed_pipe (a : Nat → LayerAnswers) (drmPlane : DrmPlane) (pipe : UInt32) (i : Nat)
    (mCompLayers : List CompLayer) :
    placed a plane { drmPlane with mPipe := pipe } i mCompLayers =
      placed a plane drmPlane i mCompLayers := by
  induction mCompLayers generalizing i with
  | nil => rfl
  | cons layer mCompLayers ih =>
      unfold placed
      rw [ih, succeeds_pipe]

/-- A plane that was taken is taken again. -/
theorem find_bound {mPlanes : List Nat} (ok : Bool)
    (h : (mPlanes.find? fun p => crtc.takes (d.planes p)) = some plane) :
    (mPlanes.find? fun p => crtc.takes ((d.bound crtc plane ok).planes p)) = some plane := by
  have htakes := List.find?_some (p := fun p => crtc.takes (d.planes p)) h
  have hsame : (fun p => crtc.takes ((d.bound crtc plane ok).planes p)) =
      fun p => crtc.takes (d.planes p) := by
    funext p
    by_cases hp : p = plane
    · rw [hp, htakes, bound_self]
      unfold DrmCrtc.takes DrmCrtc.covers at htakes ⊢
      simp only [Bool.and_eq_true, decide_eq_true_eq] at htakes ⊢
      refine ⟨⟨?_, htakes.1.2⟩, htakes.2⟩
      cases ok
      · exact htakes.1.1
      · exact Or.inr rfl
    · rw [bound_other ok hp]
  rw [hsame]
  exact h

/-- A layer with a buffer is put on the plane that is taken. -/
theorem placeLayer_some (a : LayerAnswers) {layer : CompLayer} {mPlanes : List Nat}
    (hlayer : layer.mHdiBuffer ≠ none)
    (h : (mPlanes.find? fun p => crtc.takes (d.planes p)) = some plane) :
    ∃ es, placeLayer a layer crtc mPlanes pset d = .ok (es ++ pset)
        (d.bound crtc plane (a.succeeds layer plane (d.planes plane))) ∧
      PlacedEntries plane (a.succeeds layer plane (d.planes plane)) es := by
  obtain ⟨es, hes, hentries⟩ := @applyPlane_spec crtc d plane pset a layer hlayer
  refine ⟨es, ?_, hentries⟩
  rw [placeLayer_eq, h]
  dsimp only
  unfold placeOn
  rw [bind_of_ok hes]
  unfold DrmDevice.bound
  cases a.succeeds layer plane (d.planes plane) <;> rfl

/-- Without a plane to take the layers are skipped. -/
theorem findPlaneAndApply_none (a : Nat → LayerAnswers) {mPlanes : List Nat}
    (h : (mPlanes.find? fun p => crtc.takes (d.planes p)) = none) (i : Nat)
    (mCompLayers : List CompLayer) :
    findPlaneAndApply a crtc mPlanes i mCompLayers pset d = .ok pset d := by
  induction mCompLayers generalizing i with
  | nil => rfl
  | cons layer mCompLayers ih =>
      have hplace : placeLayer (a i) layer crtc mPlanes pset d = .ok pset d := by
        rw [placeLayer_eq, h]
      unfold findPlaneAndApply
      rw [bind_of_ok hplace]
      exact ih (i + 1)

/-- The layers are all put on the plane that is taken. -/
theorem findPlaneAndApply_some (a : Nat → LayerAnswers) {mPlanes : List Nat} (i : Nat)
    {mCompLayers : List CompLayer} (hbuf : ∀ layer ∈ mCompLayers, layer.mHdiBuffer ≠ none)
    (h : (mPlanes.find? fun p => crtc.takes (d.planes p)) = some plane) :
    ∃ es, findPlaneAndApply a crtc mPlanes i mCompLayers pset d =
        .ok (es ++ pset) (d.bound crtc plane (placed a plane (d.planes plane) i mCompLayers)) ∧
      PlacedEntries plane (placed a plane (d.planes plane) i mCompLayers) es := by
  induction mCompLayers generalizing i d pset with
  | nil => exact ⟨[], rfl, .nil plane _⟩
  | cons layer mCompLayers ih =>
      obtain ⟨hlayer, hrest⟩ := List.forall_mem_cons.1 hbuf
      obtain ⟨es, hplace, hentries⟩ := @placeLayer_some crtc d plane pset (a i) layer mPlanes
        hlayer h
      have hfind := find_bound ((a i).succeeds layer plane (d.planes plane)) h
      obtain ⟨es', hes', hentries'⟩ := @ih _ (es ++ pset) (i + 1) hrest hfind
      rw [bound_self, placed_pipe] at hes' hentries'
      refine ⟨es' ++ es, ?_, hentries.append hentries'⟩
      unfold findPlaneAndApply
      rw [bind_of_ok hplace, hes', bound_bound, List.append_assoc]
      rfl

/-! ## `RemoveUnusePlane` -/

theorem bindToPipe_idle (h : (d.planes plane).mPipe = 0) : d.bindToPipe plane 0 = d := by
  unfold DrmDevice.bindToPipe
  have hplane : { d.planes plane with mPipe := (0 : UInt32) } = d.planes plane := by
    rw [← h]
  rw [hplane, Function.update_eq_self]

/-- The planes of no pipe are turned off as far as the calls succeed; none changes. -/
theorem removeUnusePlane_spec (a : Nat → Bool × Bool) (mPlanes : List Nat) :
    ∃ es, removeUnusePlane a crtc mPlanes pset d = .ok (es ++ pset) d ∧
      ∀ e, e ∈ es ↔ ∃ p ∈ mPlanes, (crtc.covers (d.planes p) = true ∧ (d.planes p).mPipe = 0) ∧
        a p ≠ (false, false) ∧ e = ⟨.plane p, .fbId, 0⟩ := by
  induction mPlanes generalizing pset with
  | nil => exact ⟨[], rfl, by simp⟩
  | cons p mPlanes ih =>
      unfold removeUnusePlane
      rw [get_bind]
      by_cases hidle : crtc.covers (d.planes p) = true ∧ (d.planes p).mPipe = 0
      · obtain ⟨es, hes, hmem⟩ := @ih (unuse (a p).2 p (unuse (a p).1 p pset))
        have hoff : ∃ es', unuse (a p).2 p (unuse (a p).1 p pset) = es' ++ pset ∧
            ∀ e, e ∈ es' ↔ a p ≠ (false, false) ∧ e = ⟨.plane p, .fbId, 0⟩ := by
          unfold unuse
          rcases a p with ⟨_ | _, _ | _⟩
          · exact ⟨[], rfl, by simp⟩
          · exact ⟨[⟨.plane p, .fbId, 0⟩], rfl, by simp⟩
          · exact ⟨[⟨.plane p, .fbId, 0⟩], rfl, by simp⟩
          · exact ⟨[⟨.plane p, .fbId, 0⟩, ⟨.plane p, .fbId, 0⟩], rfl, by simp⟩
        obtain ⟨es', hes', hmem'⟩ := hoff
        refine ⟨es ++ es', ?_, ?_⟩
        · rw [if_pos hidle]
          show removeUnusePlane a crtc mPlanes _ (d.bindToPipe p 0) = _
          rw [bindToPipe_idle hidle.2, hes, hes', List.append_assoc]
        · intro e
          rw [List.mem_append, hmem, hmem', List.exists_mem_cons_iff]
          constructor
          · rintro (h | h)
            · exact Or.inr h
            · exact Or.inl ⟨hidle, h⟩
          · rintro (⟨-, h⟩ | h)
            · exact Or.inr h
            · exact Or.inl h
      · obtain ⟨es, hes, hmem⟩ := @ih pset
        refine ⟨es, ?_, ?_⟩
        · rw [if_neg hidle]
          exact hes
        · intro e
          rw [hmem, List.exists_mem_cons_iff]
          exact ⟨Or.inr, fun h => h.resolve_left fun hp => hidle hp.1⟩

/-! ## A request -/

/-- A request that touches no plane obeys the law. -/
theorem planesLaw_of_no_plane (h : ∀ e ∈ pset, ∀ plane, e.obj ≠ .plane plane) :
    PlanesLaw d crtc pset where
  own := fun plane _ _ he => absurd rfl (h _ he plane)
  off := fun plane he => absurd rfl (h _ he plane)
  kept := fun plane _ he => absurd rfl (h _ he plane)

theorem takes_not_usedByOther {drmPlane : DrmPlane} (h : crtc.takes drmPlane = true) :
    ¬ drmPlane.usedByOther crtc := by
  unfold DrmCrtc.takes at h
  simp only [Bool.and_eq_true, decide_eq_true_eq] at h
  unfold DrmPlane.usedByOther
  tauto

/-- The request of a frame: what is put on the plane that is taken, what turns planes
off, and what concerns no plane. -/
structure FrameEntries (d : DrmDevice) (c : HdiDrmComposition) (a : ApplyAnswers)
    (pset : AtomicReq) : Prop where
  /-- An entry for a plane puts a layer on the plane taken, or turns an unused one off. -/
  cases : ∀ e ∈ pset, ∀ plane, e.obj = .plane plane →
    (c.chosen d = some plane ∧ (e.prop = .fbId → e.value ≠ 0) ∧
        (e.prop = .crtcId → placed a.layer plane (d.planes plane) 0 c.mCompLayers = true)) ∨
      (plane ∈ c.mPlanes ∧ Unused d c a plane ∧ a.unuse plane ≠ (false, false) ∧
        e = ⟨.plane plane, .fbId, 0⟩)
  off : ∀ plane ∈ c.mPlanes, Unused d c a plane → a.unuse plane ≠ (false, false) →
    ⟨.plane plane, .fbId, 0⟩ ∈ pset

/-- **A request obeys the law exactly when it turns no plane off.** -/
theorem FrameEntries.law_iff {c : HdiDrmComposition} {a : ApplyAnswers}
    (h : FrameEntries d c a pset) :
    PlanesLaw d c.mCrtc pset ↔
      ∀ plane ∈ c.mPlanes, Unused d c a plane → a.unuse plane = (false, false) := by
  constructor
  · intro hlaw plane hmem hunused
    by_contra hadded
    have hcrtc := hlaw.off plane (h.off plane hmem hunused hadded)
    rcases h.cases _ hcrtc plane rfl with ⟨hchosen, -, hplaced⟩ | ⟨-, -, -, he⟩
    · exact hunused.2.2 ⟨hchosen, hplaced rfl⟩
    · exact absurd he (by simp)
  · intro hnone
    have hcases : ∀ e ∈ pset, ∀ plane, e.obj = .plane plane → c.chosen d = some plane ∧
        (e.prop = .fbId → e.value ≠ 0) := by
      intro e he plane hobj
      rcases h.cases e he plane hobj with ⟨hchosen, hfb, -⟩ | ⟨hmem, hunused, hadded, -⟩
      · exact ⟨hchosen, hfb⟩
      · exact absurd (hnone plane hmem hunused) hadded
    have hoff : ∀ plane, ¬ TurnsOff pset plane := fun plane he =>
      (hcases _ he plane rfl).2 rfl rfl
    refine ⟨?_, fun plane he => absurd he (hoff plane), fun plane _ => hoff plane⟩
    intro plane prop value he
    have hchosen := (hcases _ he plane rfl).1
    exact takes_not_usedByOther (List.find?_some (p := fun p => c.mCrtc.takes (d.planes p)) hchosen)

/-- What `FindPlaneAndApply` leaves to `RemoveUnusePlane`. -/
theorem findPlaneAndApply_spec {c : HdiDrmComposition} (a : ApplyAnswers)
    (hbuf : c.chosen d ≠ none → ∀ layer ∈ c.mCompLayers, layer.mHdiBuffer ≠ none) :
    ∃ es d', findPlaneAndApply a.layer c.mCrtc c.mPlanes 0 c.mCompLayers pset d =
        .ok (es ++ pset) d' ∧
      (∀ e ∈ es, ∃ plane, e.obj = .plane plane ∧ c.chosen d = some plane ∧
        (e.prop = .fbId → e.value ≠ 0) ∧
        (e.prop = .crtcId → placed a.layer plane (d.planes plane) 0 c.mCompLayers = true)) ∧
      ∀ plane, c.mCrtc.covers (d'.planes plane) = true ∧ (d'.planes plane).mPipe = 0 ↔
        Unused d c a plane := by
  cases hchosen : c.chosen d with
  | none =>
      refine ⟨[], d, findPlaneAndApply_none a.layer hchosen 0 c.mCompLayers, by simp, ?_⟩
      intro plane
      unfold Unused
      simp [hchosen]
  | some taken =>
      have hlayers := hbuf (by rw [hchosen]; exact Option.some_ne_none taken)
      obtain ⟨es, hes, hentries⟩ := @findPlaneAndApply_some c.mCrtc d taken pset a.layer
        c.mPlanes 0 c.mCompLayers hlayers hchosen
      refine ⟨es, _, hes, ?_, ?_⟩
      · intro e he
        exact ⟨taken, hentries.obj e he, rfl, hentries.fb e he, hentries.crtc e he⟩
      · intro plane
        unfold Unused
        rw [hchosen]
        by_cases hp : plane = taken
        · rw [hp, bound_self]
          by_cases hplaced : placed a.layer taken (d.planes taken) 0 c.mCompLayers = true
          · rw [hplaced]
            refine iff_of_false (fun h => c.mCrtc.bit_ne_zero h.2) ?_
            exact fun h => h.2.2 ⟨rfl, rfl⟩
          · rw [Bool.eq_false_iff.2 hplaced]
            refine ⟨fun h => ⟨h.1, h.2, fun hc => absurd hc.2 (by simp)⟩, fun h => ⟨h.1, h.2.1⟩⟩
        · rw [bound_other _ hp]
          refine ⟨fun h => ⟨h.1, h.2, fun hc => hp (Option.some.inj hc.1).symm⟩, ?_⟩
          exact fun h => ⟨h.1, h.2.1⟩

theorem applyFrame_spec {c : HdiDrmComposition} (a : ApplyAnswers)
    (hbuf : c.chosen d ≠ none → ∀ layer ∈ c.mCompLayers, layer.mHdiBuffer ≠ none) :
    ∃ ret pset d', applyFrame c a d = .ok (ret, pset) d' ∧ FrameEntries d c a pset := by
  obtain ⟨es, d', hfind, hplace, hidle⟩ := @findPlaneAndApply_spec d
    [⟨.crtc c.mCrtc.mId, .outFencePtr, 0⟩] c a hbuf
  obtain ⟨offs, hremove, hoffs⟩ := @removeUnusePlane_spec c.mCrtc d'
    (es ++ [⟨.crtc c.mCrtc.mId, .outFencePtr, 0⟩]) a.unuse c.mPlanes
  obtain ⟨last, hlast, hsub⟩ := addProperties_spec a.addProperty
    [⟨.connector c.mConnectorId, .crtcId, c.mCrtc.mId⟩, ⟨.crtc c.mCrtc.mId, .active, 1⟩]
    (offs ++ (es ++ [⟨.crtc c.mCrtc.mId, .outFencePtr, 0⟩]))
  have hentries : FrameEntries d c a
      (last ++ (offs ++ (es ++ [⟨.crtc c.mCrtc.mId, .outFencePtr, 0⟩]))) := by
    constructor
    · intro e he plane hobj
      simp only [List.mem_append, List.mem_singleton] at he
      rcases he with he | he | he | rfl
      · have hmem := hsub he
        simp only [List.mem_cons, List.not_mem_nil, or_false] at hmem
        rcases hmem with rfl | rfl
        · exact absurd hobj (by simp)
        · exact absurd hobj (by simp)
      · obtain ⟨p, hp, hunused, hadded, rfl⟩ := (hoffs e).1 he
        cases hobj
        exact Or.inr ⟨hp, (hidle plane).1 hunused, hadded, rfl⟩
      · obtain ⟨p, hp, hchosen⟩ := hplace e he
        rw [hobj] at hp
        cases hp
        exact Or.inl hchosen
      · exact absurd hobj (by simp)
    · intro plane hmem hunused hadded
      have hoff := (hoffs ⟨.plane plane, .fbId, 0⟩).2
        ⟨plane, hmem, (hidle plane).2 hunused, hadded, rfl⟩
      exact List.mem_append_right _ (List.mem_append_left _ hoff)
  unfold applyFrame
  rw [bind_of_ok hfind, bind_of_ok hremove, hlast]
  cases ([⟨.connector c.mConnectorId, .crtcId, c.mCrtc.mId⟩,
      ⟨.crtc c.mCrtc.mId, .active, 1⟩] : List PropValue).all fun e => a.addProperty e.prop with
  | false => exact ⟨_, _, _, rfl, hentries⟩
  | true => exact ⟨_, _, _, rfl, hentries⟩

/-- A layer to be placed that has no buffer stops the frame. -/
theorem findPlaneAndApply_fault (a : Nat → LayerAnswers) {mPlanes : List Nat} (i : Nat)
    {mCompLayers : List CompLayer} (hbuf : ∃ layer ∈ mCompLayers, layer.mHdiBuffer = none)
    (h : (mPlanes.find? fun p => crtc.takes (d.planes p)) = some plane) :
    Post (findPlaneAndApply a crtc mPlanes i mCompLayers pset) d (fun _ _ => False)
      (fun _ _ => True) := by
  induction mCompLayers generalizing i d pset with
  | nil => exact absurd hbuf (by simp)
  | cons layer mCompLayers ih =>
      unfold findPlaneAndApply
      rw [post_bind]
      by_cases hlayer : layer.mHdiBuffer = none
      · have hplace : placeLayer (a i) layer crtc mPlanes pset d = .error .nullLayerBuffer d := by
          rw [placeLayer_eq, h]
          dsimp only
          unfold placeOn applyPlane
          rw [hlayer]
          rfl
        unfold Post
        rw [hplace]
        trivial
      · obtain ⟨es, hplace, -⟩ := @placeLayer_some crtc d plane pset (a i) layer mPlanes hlayer h
        rw [post_iff_of_ok hplace]
        refine ih (i + 1) ?_ (find_bound _ h)
        obtain ⟨l, hl, hnone⟩ := hbuf
        rcases List.mem_cons.1 hl with rfl | hl
        · exact absurd hnone hlayer
        · exact ⟨l, hl, hnone⟩

theorem applyFrame_fault {c : HdiDrmComposition} (a : ApplyAnswers)
    (hbuf : ¬ (c.chosen d ≠ none → ∀ layer ∈ c.mCompLayers, layer.mHdiBuffer ≠ none)) :
    Post (applyFrame c a) d (fun _ _ => False) (fun _ _ => True) := by
  obtain ⟨hchosen, hlayers⟩ := Classical.not_imp.1 hbuf
  simp only [not_forall, not_not] at hlayers
  obtain ⟨layer, hmem, hnone⟩ := hlayers
  obtain ⟨taken, htaken⟩ := Option.ne_none_iff_exists'.1 hchosen
  unfold applyFrame
  rw [post_bind]
  refine (findPlaneAndApply_fault a.layer 0 ⟨layer, hmem, hnone⟩ htaken).mono ?_ ?_
  · exact fun _ _ hf => hf.elim
  · exact fun _ _ _ => trivial

/-! ## An `Apply` -/

/-- `UpdateMode` touches no plane. -/
theorem updateMode_spec (d : DrmDevice) (c : HdiDrmComposition) (a : ApplyAnswers) :
    ∃ ok psets modes, updateMode c a d = .ok (ok, psets) { d with modes := modes } ∧
      (ok = true ↔ modeUpdated d c a) ∧ ∀ pset ∈ psets, PlanesLaw d c.mCrtc pset := by
  unfold updateMode modeUpdated
  rw [get_bind]
  by_cases hneed : (d.modes c.mCrtc.mId).mNeedModeSet = true
  · rw [if_pos hneed]
    cases hblock : a.modeBlock with
    | none => exact ⟨true, [], d.modes, rfl, by simp, by simp⟩
    | some blob =>
        obtain ⟨es, hes, hsub⟩ := addProperties_spec a.modeProperty
          [⟨.crtc c.mCrtc.mId, .active, 1⟩, ⟨.crtc c.mCrtc.mId, .modeId, blob⟩,
            ⟨.connector c.mConnectorId, .crtcId, c.mCrtc.mId⟩] []
        have hlaw : PlanesLaw d c.mCrtc (es ++ []) := by
          apply planesLaw_of_no_plane
          intro e he plane
          rw [List.append_nil] at he
          have hmem := hsub he
          simp only [List.mem_cons, List.not_mem_nil, or_false] at hmem
          rcases hmem with rfl | rfl | rfl
          · simp
          · simp
          · simp
        dsimp only
        rw [hes]
        dsimp only
        split
        · next hok =>
            refine ⟨true, [es ++ []], _, rfl, iff_of_true rfl fun _ _ => ⟨?_, hok.2⟩, ?_⟩
            · simpa using hok.1
            · simpa using hlaw
        · next hok =>
            refine ⟨false, [es ++ []], d.modes, rfl, iff_of_false (by simp) ?_, ?_⟩
            · intro h
              obtain ⟨hadd, hcommit⟩ := h hneed (by simp)
              exact hok ⟨by simpa using hadd, hcommit⟩
            · simpa using hlaw
  · rw [if_neg hneed]
    exact ⟨true, [], d.modes, rfl, iff_of_true rfl fun h => absurd h hneed, by simp⟩

/-- **One `Apply` obeys the law exactly when it leaves no plane to be turned off.** -/
theorem apply_law_iff (d : DrmDevice) (c : HdiDrmComposition) (a : ApplyAnswers) :
    OpLaw d (.apply c a) ↔ (Op.apply c a).LeavesNone d := by
  obtain ⟨ok, psets, modes, hmode, hok, hpsets⟩ := updateMode_spec d c a
  show Post (apply c a) d _ _ ↔ (Reaches d c a → _)
  unfold apply
  rw [post_bind, post_iff_of_ok hmode]
  dsimp only
  by_cases hupdated : ok = true
  · rw [if_neg (not_not.2 hupdated)]
    by_cases henough : c.mPlanes.length < c.mCompLayers.length
    · rw [if_pos henough]
      exact iff_of_true hpsets fun h => absurd h.enough (Nat.not_le.2 henough)
    rw [if_neg henough]
    by_cases halloc : a.atomicAlloc = true
    · rw [if_neg (not_not.2 halloc)]
      by_cases hfence : a.outFencePtr = true
      · rw [if_neg (not_not.2 hfence), post_bind]
        by_cases hbuf : c.chosen d ≠ none → ∀ layer ∈ c.mCompLayers, layer.mHdiBuffer ≠ none
        · obtain ⟨ret, pset, d', hframe, hentries⟩ :=
            @applyFrame_spec { d with modes := modes } c a hbuf
          have hentries' : FrameEntries d c a pset := ⟨hentries.cases, hentries.off⟩
          rw [post_iff_of_ok hframe]
          dsimp only
          rw [post_pure, List.forall_mem_cons, and_iff_left hpsets, hentries'.law_iff]
          have hreaches : Reaches d c a :=
            ⟨hok.1 hupdated, Nat.not_lt.1 henough, halloc, hfence, hbuf⟩
          exact ⟨fun h _ => h, fun h => h hreaches⟩
        · refine iff_of_true ?_ fun h => absurd h.buffers hbuf
          have hfault := @applyFrame_fault { d with modes := modes } c a hbuf
          exact hfault.mono (fun _ _ hf => hf.elim) fun _ _ _ => trivial
      · rw [if_pos hfence]
        refine iff_of_true ?_ fun h => absurd h.outFence hfence
        have hempty : PlanesLaw d c.mCrtc [] := planesLaw_of_no_plane (by simp)
        exact List.forall_mem_cons.2 ⟨hempty, hpsets⟩
    · rw [if_pos halloc]
      exact iff_of_true hpsets fun h => absurd h.alloc halloc
  · rw [if_pos hupdated]
    exact iff_of_true hpsets fun h => absurd (hok.2 h.mode) hupdated

end

/-- **The planes law over all runs.** Whatever planes, masks, reported CRTC ids and owners
the displays start with, every request of a run obeys the law exactly when no `Apply`
of the run leaves an unused plane that it could turn off. -/
theorem planesLaw_iff (d : DrmDevice) (ops : List Op) :
    Meets step OpLaw d ops ↔ Meets step (fun d op => op.LeavesNone d) d ops := by
  refine meets_congr (I := fun _ => True) ?_ ?_ trivial ops
  · intro s op _ _
    unfold Post
    split
    · trivial
    · trivial
  · intro s op _
    cases op with
    | apply c a => exact apply_law_iff s c a
    | setActivieMode crtcId id => exact Iff.rfl

/-- Two planes that the CRTC 7 may use; the kernel reported that CRTC 8 uses the second. -/
def twoPlanes : DrmDevice where
  planes := fun p => if p = 1 then { mWinType := 1, mCrtcId := 0 }
    else { mWinType := 2, mCrtcId := 8 }

/-- A display with a client buffer on CRTC 7. -/
def firstDisplay : HdiDrmComposition :=
  { mCrtc := { mId := 7, mPipe := 0, mPlaneMask := 3 }, mConnectorId := 9, mPlanes := [1, 2]
    mCompLayers := [{ mHdiBuffer := some (64, 64) }] }

/-- **The plane of CRTC 8 is turned off, and only by half.** -/
theorem planesLaw_broken :
    ¬ Meets step OpLaw twoPlanes [.apply firstDisplay { layer := fun _ => { gem := ⟨3, 4⟩ } }] := by
  rintro ⟨hlaw, -⟩
  dsimp only [OpLaw] at hlaw
  have hhalf : returns (apply firstDisplay { layer := fun _ => { gem := ⟨3, 4⟩ } }) twoPlanes
      (fun r _ => r.2.any fun pset => decide (⟨.plane 2, .fbId, 0⟩ ∈ pset) &&
        decide (⟨.plane 2, .crtcId, 0⟩ ∉ pset)) = true := by
    decide +kernel
  obtain ⟨r, d', hrun, htest⟩ := returns_iff.1 hhalf
  obtain ⟨pset, hmem, hpset⟩ := List.any_eq_true.1 htest
  simp only [Bool.and_eq_true, decide_eq_true_eq] at hpset
  exact hpset.2 ((hlaw.of_ok hrun pset hmem).off 2 hpset.1)

end QemuHal.Common.Planes
