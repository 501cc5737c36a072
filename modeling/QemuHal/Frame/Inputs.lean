import QemuHal.Frame.WellFormed

/-!
# What the answers of a frame decide

Which calls of a frame are reached depends on the state before the frame and on
the kernel's answers only. The functions below read it off: how often each slot
is rotated, which planes get a framebuffer, and whether the request is committed
and accepted.
-/

namespace QemuHal

/-! ## One layer on one plane -/

/-- The properties set on a plane before its layer's buffer is got. -/
def planeProperties (s : Slot) (l : HdiLayer) (buf : HdiLayerBuffer) (drmPlane : DrmPlane) :
    List PropValue :=
  (if drmPlane.mPropFenceInId ≠ 0 ∧ 0 ≤ l.mAcquireFence then
    [⟨.plane drmPlane.mId, .inFenceFd, l.mAcquireFence⟩] else []) ++
  ([⟨.plane drmPlane.mId, .crtcX, (s.position l).1⟩,
    ⟨.plane drmPlane.mId, .crtcY, (s.position l).2⟩,
    ⟨.plane drmPlane.mId, .crtcW, buf.mWidth⟩, ⟨.plane drmPlane.mId, .crtcH, buf.mHeight⟩] ++
  [⟨.plane drmPlane.mId, .srcX, 0⟩, ⟨.plane drmPlane.mId, .srcY, 0⟩,
    ⟨.plane drmPlane.mId, .srcW, shiftLeft16 buf.mWidth⟩,
    ⟨.plane drmPlane.mId, .srcH, shiftLeft16 buf.mHeight⟩])

theorem setPlaneProperties_eq (s : Slot) (a : PlaneAnswers) (l : HdiLayer)
    (buf : HdiLayerBuffer) (drmPlane : DrmPlane) (pset : AtomicReq) :
    setPlaneProperties s a l buf drmPlane pset =
      addProperties a.addProperty pset (planeProperties s l buf drmPlane) := by
  have hfence : setAcquireFence a l drmPlane pset = addProperties a.addProperty pset
      (if drmPlane.mPropFenceInId ≠ 0 ∧ 0 ≤ l.mAcquireFence then
        [⟨.plane drmPlane.mId, .inFenceFd, l.mAcquireFence⟩] else []) := by
    unfold setAcquireFence
    split
    · simp only [addProperties]
      rcases drmModeAtomicAddProperty a.addProperty pset _ with ⟨ok, pset'⟩
      cases ok <;> rfl
    · rfl
  rw [planeProperties, addProperties_append, ← hfence, setPlaneProperties]
  rcases setAcquireFence a l drmPlane pset with ⟨ok, pset'⟩
  cases ok with
  | false => rfl
  | true => exact addProperties_append.symm

theorem planeProperties_ne_fbId {s : Slot} {l : HdiLayer} {buf : HdiLayerBuffer}
    {drmPlane : DrmPlane} : ∀ e ∈ planeProperties s l buf drmPlane, e.prop ≠ .fbId := by
  intro e he
  unfold planeProperties at he
  split at he <;> simp at he <;> rcases he with rfl | rfl | rfl | rfl | rfl | rfl | rfl | rfl | rfl <;>
    simp

/-- Every property set before `GetGemBuffer` succeeds. -/
def rotatesOn (s : Slot) (a : PlaneAnswers) (l : HdiLayer) (buf : HdiLayerBuffer)
    (drmPlane : DrmPlane) : Bool :=
  (planeProperties s l buf drmPlane).all fun e => a.addProperty e.prop

/-- The plane gets a framebuffer. -/
def carriesOn (d : Drm) (s : Slot) (a : PlaneAnswers) (l : HdiLayer) (buf : HdiLayerBuffer)
    (drmPlane : DrmPlane) : Bool :=
  rotatesOn s a l buf drmPlane && d.imports buf a.prime && a.addProperty .fbId

/-- The layer is applied to the plane with success. -/
def succeedsOn (d : Drm) (s : Slot) (a : PlaneAnswers) (l : HdiLayer) (buf : HdiLayerBuffer)
    (drmPlane : DrmPlane) : Bool :=
  carriesOn d s a l buf drmPlane && a.addProperty .crtcId

/-- What a property setter leaves in the request: what comes before its first failure. -/
def addedProperties (ok : PropName → Bool) (es : List PropValue) : AtomicReq :=
  (es.takeWhile fun e => ok e.prop).reverse

/-- The entries of the plane beside its framebuffer, newest first. -/
def planeEntries (d : Drm) (s : Slot) (a : PlaneAnswers) (l : HdiLayer) (buf : HdiLayerBuffer)
    (crtcId : Nat) (drmPlane : DrmPlane) : AtomicReq :=
  (if succeedsOn d s a l buf drmPlane then [⟨.plane drmPlane.mId, .crtcId, crtcId⟩] else []) ++
    addedProperties a.addProperty (planeProperties s l buf drmPlane)

/-! ## One layer on several planes -/

section
variable (d : Drm) (s : Slot) (a : Nat → PlaneAnswers) (l : HdiLayer) (buf : HdiLayerBuffer)

/-- How often `GetGemBuffer` is called for the layer. -/
def rotationsOn : Nat → List DrmPlane → Nat
  | _, [] => 0
  | j, drmPlane :: planes =>
      if rotatesOn s (a j) l buf drmPlane then
        (if succeedsOn d s (a j) l buf drmPlane then rotationsOn (j + 1) planes else 0) + 1
      else 0

/-- The planes that get a framebuffer, each with its place in the loop. -/
def carriedOn : Nat → List DrmPlane → List (Nat × DrmPlane)
  | _, [] => []
  | j, drmPlane :: planes =>
      if carriesOn d s (a j) l buf drmPlane then
        (j, drmPlane) ::
          (if succeedsOn d s (a j) l buf drmPlane then carriedOn (j + 1) planes else [])
      else []

/-- The entries the loop puts into a request beside the framebuffers, newest first. -/
def entriesOn (crtcId : Nat) : Nat → List DrmPlane → AtomicReq
  | _, [] => []
  | j, drmPlane :: planes =>
      (if succeedsOn d s (a j) l buf drmPlane then entriesOn crtcId (j + 1) planes else []) ++
        planeEntries d s (a j) l buf crtcId drmPlane

end

/-! ## A frame -/

/-- The planes the loop of a slot runs over: the client layer goes to the first
plane. -/
def HdiDrmComposition.slotPlanes (c : HdiDrmComposition) : Slot → List DrmPlane
  | .primary => c.mPlanes.take 1
  | .cursor => c.mCursorPlanes

def FrameAnswers.slot (a : FrameAnswers) : Slot → Nat → PlaneAnswers
  | .primary => a.plane
  | .cursor => a.cursor 0

/-- The request is allocated and its first property set. -/
def FrameAnswers.begins (a : FrameAnswers) : Bool := a.atomicAlloc && a.outFencePtr

namespace Parts

/-- The frame comes to the loop of the slot. -/
def enters (p : Parts) (a : FrameAnswers) : Slot → Bool
  | .primary => a.begins
  | .cursor =>
      a.begins && (p.comp.isAnimationEnd_ || a.bootCompleted) &&
        decide (p.comp.mCursorLayers ≠ [])

/-- How often a frame rotates the slot. -/
def rotations (p : Parts) (d : Drm) (a : FrameAnswers) (s : Slot) : Nat :=
  match (p.layer s).mHdiBuffer with
  | some buf =>
      if p.enters a s then rotationsOn d s (a.slot s) (p.layer s) buf 0 (p.comp.slotPlanes s)
      else 0
  | none => 0

/-- The planes a frame puts a framebuffer of the slot on. -/
def carried (p : Parts) (d : Drm) (a : FrameAnswers) (s : Slot) : List (Nat × DrmPlane) :=
  match (p.layer s).mHdiBuffer with
  | some buf =>
      if p.enters a s then carriedOn d s (a.slot s) (p.layer s) buf 0 (p.comp.slotPlanes s)
      else []
  | none => []

/-- What the loop of the slot puts into the request beside the framebuffers. -/
def entries (p : Parts) (d : Drm) (a : FrameAnswers) (crtcId : Nat) (s : Slot) : AtomicReq :=
  match (p.layer s).mHdiBuffer with
  | some buf =>
      if p.enters a s then
        entriesOn d s (a.slot s) (p.layer s) buf crtcId 0 (p.comp.slotPlanes s)
      else []
  | none => []

theorem mem_carried {p : Parts} {d : Drm} {a : FrameAnswers} {s : Slot} {x : Nat × DrmPlane} :
    x ∈ p.carried d a s ↔ ∃ buf, (p.layer s).mHdiBuffer = some buf ∧ p.enters a s = true ∧
      x ∈ carriedOn d s (a.slot s) (p.layer s) buf 0 (p.comp.slotPlanes s) := by
  unfold carried
  cases (p.layer s).mHdiBuffer with
  | none => simp
  | some buf => cases p.enters a s <;> simp

theorem mem_entries {p : Parts} {d : Drm} {a : FrameAnswers} {crtcId : Nat} {s : Slot}
    {e : PropValue} :
    e ∈ p.entries d a crtcId s ↔ ∃ buf, (p.layer s).mHdiBuffer = some buf ∧ p.enters a s = true ∧
      e ∈ entriesOn d s (a.slot s) (p.layer s) buf crtcId 0 (p.comp.slotPlanes s) := by
  unfold entries
  cases (p.layer s).mHdiBuffer with
  | none => simp
  | some buf => cases p.enters a s <;> simp

end Parts

theorem rotationsOn_le (d : Drm) (s : Slot) (a : Nat → PlaneAnswers) (l : HdiLayer)
    (buf : HdiLayerBuffer) : ∀ (j : Nat) (planes : List DrmPlane),
      rotationsOn d s a l buf j planes ≤ planes.length
  | _, [] => Nat.le_refl 0
  | j, drmPlane :: planes => by
      have := rotationsOn_le d s a l buf (j + 1) planes
      unfold rotationsOn
      rw [List.length_cons]
      split
      · split <;> omega
      · omega

/-- A frame rotates a slot at most once for each of its planes. -/
theorem Parts.rotations_le (p : Parts) (d : Drm) (a : FrameAnswers) (s : Slot) :
    p.rotations d a s ≤ (p.comp.slotPlanes s).length := by
  unfold Parts.rotations
  split
  · split
    · exact rotationsOn_le _ _ _ _ _ _ _
    · omega
  · omega

/-- The primary slot is rotated at most once. -/
theorem Parts.rotations_primary_le (p : Parts) (d : Drm) (a : FrameAnswers) :
    p.rotations d a .primary ≤ 1 := by
  refine (p.rotations_le d a .primary).trans ?_
  simp [HdiDrmComposition.slotPlanes]

namespace World

/-- The mode block a frame makes. -/
def modeBlock (w : World) (a : FrameAnswers) : Option Nat :=
  if w.disp.mCrtc.mNeedModeSet then
    match w.disp.mConnector.getModeFromId w.disp.mCrtc.mActiveModeId, a.createPropertyBlob with
    | some _, some blob => if w.drm.drmFd < 0 then none else some blob
    | _, _ => none
  else none

/-- The properties `UpdateMode` sets for a mode block. -/
def modeProperties (w : World) (blob : Nat) : List PropValue :=
  [⟨.crtc w.disp.mCrtc.mId, .active, 1⟩, ⟨.crtc w.disp.mCrtc.mId, .modeId, blob⟩,
    ⟨.connector w.disp.mConnector.mId, .crtcId, w.disp.mCrtc.mId⟩]

/-- What `UpdateMode` puts into the request. -/
def modeEntries (w : World) (a : FrameAnswers) : AtomicReq :=
  match w.modeBlock a with
  | some blob => addedProperties a.modeProperty (w.modeProperties blob)
  | none => []

/-- The entries of a frame's request beside its framebuffers, newest first. -/
def requested (w : World) (p : Parts) (a : FrameAnswers) : AtomicReq :=
  w.modeEntries a ++ (p.entries w.drm a w.disp.mCrtc.mId .cursor ++
    (p.entries w.drm a w.disp.mCrtc.mId .primary ++
      [⟨.crtc w.disp.mCrtc.mId, .outFencePtr, 0⟩]))

/-- `UpdateMode` succeeds. -/
def updatesMode (w : World) (a : FrameAnswers) : Bool :=
  (w.modeBlock a).isNone ||
    (a.modeProperty .active && a.modeProperty .modeId && a.modeProperty .crtcId)

/-- The frame issues its atomic commit. -/
def commits (w : World) (a : FrameAnswers) : Bool := a.begins && w.updatesMode a

/-- The kernel accepts the commit. -/
def accepts (w : World) (a : FrameAnswers) : Bool :=
  w.commits a &&
    match a.atomicCommit with
    | some n => decide (0 ≤ n ∧ w.drm.fds n = none)
    | none => false

end World

end QemuHal
