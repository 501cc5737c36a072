import QemuHal.Drm.Mode
import QemuHal.Drm.VsyncWorker

/-!
# Hot-plug events in the common HAL

`DrmConnector::HandleHotplug` changes an encoder, the connector and the vsync worker
step by step, and leaves at the first failure. Its result is `bool`, but most of its
early exits return a status code, and every code but `DISPLAY_SUCCESS` reads as `true`.
`hotplug_iff` says when an event is handled as a transaction.
-/

namespace QemuHal.Common

open Exec

/-! ## Connectors, encoders and CRTCs -/

inductive DrmModeConnection where
  | connected
  | disconnected
  | unknown
deriving DecidableEq, Repr

/-- The fields of `drmModeConnector` the handler reads. -/
structure DrmModeConnector where
  connection : DrmModeConnection
  encoders : List Nat
  modes : List DrmMode
deriving DecidableEq, Repr

structure DrmConnector where
  mEncoderId : Nat
  mConnectState : DrmModeConnection
  /-- `mModes`, as its entries. -/
  mModes : List (Int × DrmMode) := []
  mPreferenceId : Int := invalidModeId
  mDpmsState : Nat := 0
  mBrightnessLevel : Nat := 0
deriving DecidableEq, Repr

structure DrmEncoder where
  mCrtcId : Nat
  mPossibleCrtcs : UInt32
deriving DecidableEq, Repr

structure DrmCrtc where
  mId : Nat
  mPipe : UInt32
deriving DecidableEq, Repr

/-- `InitModes`: the modes under their positions, and the first preferred one. -/
def DrmConnector.initModes (connector : DrmConnector) (c : DrmModeConnector) : DrmConnector :=
  let entries := c.modes.zipIdx.map fun e => ((e.2 : Int), e.1)
  { connector with
    mModes := entries
    mPreferenceId := ((entries.find? fun e => e.2.preferred).map Prod.fst).getD invalidModeId }

/-! ## The state -/

/-- The maps of a `DrmDevice`, by id; `mCrtcs` in the order of its iteration. -/
structure DrmDevice where
  mConnectors : Nat → Option DrmConnector := fun _ => none
  mEncoders : Nat → Option DrmEncoder := fun _ => none
  mCrtcs : List DrmCrtc := []
  dispConnectorIdMaps_ : Nat → Option Nat := fun _ => none

/-- The devices of the session, the vsync worker, what the handler has acquired and not
released, the requests the kernel accepted and the callbacks fired, newest first. -/
structure HotplugState where
  mHdiDevices : Nat → DrmDevice
  vsync : DrmVsyncWorker := {}
  atomicReqs : Nat := 0
  blobs : List Nat := []
  connectorObjs : Nat := 0
  committed : List AtomicReq := []
  callBacks : List (Nat × Bool) := []

inductive HotplugFault where
  /-- `c->encoders[0]` of a connector without encoders. -/
  | noEncoder
deriving DecidableEq, Repr

abbrev Plug := EStateM HotplugFault HotplugState

namespace HotplugState

def updateDevice (s : HotplugState) (dev : Nat) (f : DrmDevice → DrmDevice) : HotplugState :=
  { s with mHdiDevices := Function.update s.mHdiDevices dev (f (s.mHdiDevices dev)) }

def setEncoder (s : HotplugState) (dev id : Nat) (encoder : DrmEncoder) : HotplugState :=
  s.updateDevice dev fun d => { d with mEncoders := Function.update d.mEncoders id (some encoder) }

/-- Change the connector `id` of a device. -/
def updateConnector (s : HotplugState) (dev id : Nat) (f : DrmConnector → DrmConnector) :
    HotplugState :=
  s.updateDevice dev fun d =>
    { d with mConnectors := Function.update d.mConnectors id ((d.mConnectors id).map f) }

end HotplugState

/-- What the kernel answers while an event is handled. -/
structure HotplugAnswers where
  atomicAlloc : Bool := true
  getConnector : Option DrmModeConnector
  createPropertyBlob : Option Nat := none
  addProperty : PropName → Bool := fun _ => true
  atomicCommit : Bool := true
  /-- `GetConnectorProperty` of `DPMS`, `CRTC_ID` and `brightness`. -/
  dpms : Option Nat := none
  crtcId : Bool := true
  brightness : Option Nat := none

/-! ## The handler -/

/-- An integer status as the result of a `bool` function. -/
def DispStatus.toBool (ret : DispStatus) : Bool := decide (ret ≠ .success)

/-- The encoder drives this CRTC and no other. -/
def DrmEncoder.picks (encoder : DrmEncoder) (crtc : DrmCrtc) : Bool :=
  decide (encoder.mPossibleCrtcs = 1 <<< crtc.mPipe)

/-- The loop of `UpdateCrtcId`: the last CRTC that matches. -/
def pickCrtc (encoder : DrmEncoder) (mCrtcs : List DrmCrtc) : Option DrmCrtc :=
  mCrtcs.foldl (fun crtc posCrts => if encoder.picks posCrts then some posCrts else crtc) none

/-- `UpdateCrtcId`: the CRTC and `*crtc_id`. -/
def updateCrtcId (dev id : Nat) (plugIn : Bool) (c : DrmModeConnector) :
    Plug (Option DrmCrtc × Nat) := do
  match c.encoders with
  | [] => throw .noEncoder
  | encoderid :: _ =>
      let s ← get
      match (s.mHdiDevices dev).mEncoders encoderid with
      | none => return (none, 0)
      | some encoder =>
          let crtc := pickCrtc encoder (s.mHdiDevices dev).mCrtcs
          let crtcId := (crtc.map DrmCrtc.mId).getD 0
          if plugIn then
            modify (·.setEncoder dev encoderid { encoder with mCrtcId := crtcId })
            modify (·.updateConnector dev id fun k => { k with mEncoderId := encoderid })
            return (crtc, crtcId)
          else
            modify (·.updateConnector dev id fun k => { k with mEncoderId := 0 })
            modify (·.setEncoder dev encoderid { encoder with mCrtcId := 0 })
            return (crtc, 0)

/-- The request of a hot-plug event; all three properties are tried. -/
def plugRequest (a : HotplugAnswers) (id : Nat) (crtc : DrmCrtc) (crtcId : Nat) (plugIn : Bool) :
    Bool × AtomicReq :=
  let (active, pset) := drmModeAtomicAddProperty a.addProperty []
    ⟨.crtc crtc.mId, .active, if plugIn then 1 else 0⟩
  let (mode, pset) := drmModeAtomicAddProperty a.addProperty pset
    ⟨.crtc crtc.mId, .modeId, a.createPropertyBlob.getD 0⟩
  let (crtcProp, pset) := drmModeAtomicAddProperty a.addProperty pset
    ⟨.connector id, .crtcId, crtcId⟩
  (active && mode && crtcProp, pset)

/-- `DrmConnector::HandleHotplug` from `EnableVsync` on. -/
def commitHotplug (dev id : Nat) (plugIn : Bool) (a : HotplugAnswers) (c : DrmModeConnector)
    (crtc : DrmCrtc) (crtcId : Nat) : Plug Bool := do
  modify fun s => { s with
    vsync := s.vsync.enableVsync plugIn
    blobs := a.createPropertyBlob.toList ++ s.blobs }
  let (added, pset) := plugRequest a id crtc crtcId plugIn
  if !added then return DispStatus.toBool .failure
  if !a.atomicCommit then return DispStatus.toBool .failure
  modify fun s => { s with committed := pset :: s.committed, atomicReqs := s.atomicReqs - 1 }
  modify (·.updateConnector dev id fun k => { k with mConnectState := c.connection }.initModes c)
  modify fun s => { s with connectorObjs := s.connectorObjs - 1 }
  return true

/-- `DrmConnector::HandleHotplug` of the connector `id`. -/
def connectorHandleHotplug (dev id : Nat) (connector : DrmConnector) (plugIn : Bool)
    (a : HotplugAnswers) : Plug Bool := do
  if !a.atomicAlloc then return DispStatus.toBool .nullPtr
  modify fun s => { s with atomicReqs := s.atomicReqs + 1 }
  match a.getConnector with
  | none => return false
  | some c =>
      modify fun s => { s with connectorObjs := s.connectorObjs + 1 }
      if connector.mConnectState = c.connection then
        modify fun s => { s with connectorObjs := s.connectorObjs - 1 }
        return false
      else
        let (crtc, crtcId) ← updateCrtcId dev id plugIn c
        match crtc with
        | none => return DispStatus.toBool .failure
        | some crtc => commitHotplug dev id plugIn a c crtc crtcId

/-- `DrmConnector::Init`, over an open descriptor; its status is not used. -/
def connectorInit (dev id : Nat) (a : HotplugAnswers) : Plug Unit := do
  match a.dpms with
  | none => return ()
  | some dpms =>
      modify (·.updateConnector dev id fun k => { k with mDpmsState := dpms })
      if !a.crtcId then return ()
      match a.brightness with
      | none => return ()
      | some level => modify (·.updateConnector dev id fun k => { k with mBrightnessLevel := level })

/-- The connector `DrmDevice::HandleHotplug` finds for a display. -/
def DrmDevice.connectorOf (d : DrmDevice) (dispId : Nat) : Option (Nat × DrmConnector) :=
  (d.dispConnectorIdMaps_ dispId).bind fun id => (d.mConnectors id).map (id, ·)

/-- `DrmDevice::HandleHotplug`. -/
def deviceHandleHotplug (dev dispId : Nat) (plugIn : Bool) (a : HotplugAnswers) : Plug Bool := do
  let s ← get
  match (s.mHdiDevices dev).connectorOf dispId with
  | none => return false
  | some (id, connector) =>
      if ← connectorHandleHotplug dev id connector plugIn a then
        connectorInit dev id a
        return true
      else return false

/-- The body of the two loops of `HdiSession::HandleHotplug`: one display on one device. -/
structure Visit where
  dev : Nat
  dispId : Nat
  plugIn : Bool
  answers : HotplugAnswers

def visit (v : Visit) : Plug Bool := do
  let isSuccess ← deviceHandleHotplug v.dev v.dispId v.plugIn v.answers
  if isSuccess then
    modify fun s => { s with callBacks := (v.dispId, v.plugIn) :: s.callBacks }
  return isSuccess

/-- The visits of an event, in the order of the two loops. -/
def visits (devices displays : List Nat) (plugIn : Bool) (answers : Nat → Nat → HotplugAnswers) :
    List Visit :=
  devices.flatMap fun dev => displays.map fun dispId =>
    { dev, dispId, plugIn, answers := answers dev dispId }

/-- `HdiSession::HandleHotplug`. -/
def sessionHandleHotplug (devices displays : List Nat) (plugIn : Bool)
    (answers : Nat → Nat → HotplugAnswers) : Plug (List Bool) :=
  run visit (visits devices displays plugIn answers)

/-! ## The law -/

/-- The recorded state of the display's connector has moved to the one read back, and a
request was committed with success. -/
def Moved (s : HotplugState) (v : Visit) (s' : HotplugState) : Prop :=
  ∃ id connector connector' c, (s.mHdiDevices v.dev).connectorOf v.dispId = some (id, connector) ∧
    (s'.mHdiDevices v.dev).connectorOf v.dispId = some (id, connector') ∧
    v.answers.getConnector = some c ∧ connector.mConnectState ≠ c.connection ∧
    connector'.mConnectState = c.connection ∧ ∃ pset, s'.committed = pset :: s.committed

/-- Encoders, connectors and vsync are as before, and nothing is held that was not. -/
structure Restored (s s' : HotplugState) : Prop where
  mHdiDevices : s'.mHdiDevices = s.mHdiDevices
  vsync : s'.vsync = s.vsync
  atomicReqs : s'.atomicReqs = s.atomicReqs
  blobs : s'.blobs = s.blobs
  connectorObjs : s'.connectorObjs = s.connectorObjs

/-- A visit is a transaction. -/
def Transacts (s : HotplugState) (v : Visit) : Prop :=
  Post (visit v) s
    (fun ret s' => (ret = true ↔ Moved s v s') ∧
      s'.callBacks = (if ret then [(v.dispId, v.plugIn)] else []) ++ s.callBacks ∧
      (ret = false → Restored s s'))
    (fun _ _ => False)

/-- Nothing goes wrong for the connector: it is read back in another state, its first
encoder is known and drives exactly one CRTC of the device, and the request is allocated,
filled and committed. -/
def HotplugAnswers.Completes (a : HotplugAnswers) (d : DrmDevice) (connector : DrmConnector) :
    Prop :=
  a.atomicAlloc = true ∧
    ∃ c encoderid rest encoder, a.getConnector = some c ∧ connector.mConnectState ≠ c.connection ∧
      c.encoders = encoderid :: rest ∧ d.mEncoders encoderid = some encoder ∧
      (∃ crtc ∈ d.mCrtcs, encoder.picks crtc = true) ∧
      (∀ prop ∈ [PropName.active, .modeId, .crtcId], a.addProperty prop = true) ∧
      a.atomicCommit = true

/-- The display has no connector on the device, or nothing goes wrong for it. -/
def Visit.Completes (s : HotplugState) (v : Visit) : Prop :=
  ∀ id connector, (s.mHdiDevices v.dev).connectorOf v.dispId = some (id, connector) →
    v.answers.Completes (s.mHdiDevices v.dev) connector

/-! ## Lemmas -/

theorem pickCrtc_isSome {encoder : DrmEncoder} {mCrtcs : List DrmCrtc} :
    (pickCrtc encoder mCrtcs).isSome = true ↔ ∃ crtc ∈ mCrtcs, encoder.picks crtc = true := by
  have hfold : ∀ (l : List DrmCrtc) (acc : Option DrmCrtc),
      (l.foldl (fun crtc posCrts => if encoder.picks posCrts then some posCrts else crtc) acc).isSome
        = true ↔ acc.isSome = true ∨ ∃ crtc ∈ l, encoder.picks crtc = true := by
    intro l
    induction l with
    | nil => simp
    | cons x l ih =>
        intro acc
        rw [List.foldl_cons, ih]
        by_cases hx : encoder.picks x = true <;> simp [hx]
  have h := hfold mCrtcs none
  unfold pickCrtc
  rw [h]
  simp

theorem plugRequest_added {a : HotplugAnswers} {id : Nat} {crtc : DrmCrtc} {crtcId : Nat}
    {plugIn : Bool} :
    (plugRequest a id crtc crtcId plugIn).1 = true ↔
      ∀ prop ∈ [PropName.active, .modeId, .crtcId], a.addProperty prop = true := by
  unfold plugRequest drmModeAtomicAddProperty
  cases hactive : a.addProperty .active <;> cases hmode : a.addProperty .modeId <;>
    cases hcrtc : a.addProperty .crtcId <;> simp [hactive, hmode, hcrtc]

section
variable {s : HotplugState} {dev id : Nat} {plugIn : Bool}

/-- What `UpdateCrtcId` leaves alone. -/
structure SameBooks (s s' : HotplugState) : Prop where
  atomicReqs : s'.atomicReqs = s.atomicReqs
  committed : s'.committed = s.committed
  callBacks : s'.callBacks = s.callBacks

/-- The connector of a device, whatever else changes. -/
theorem connectorOf_updateConnector {dispId : Nat} {connector : DrmConnector}
    (h : (s.mHdiDevices dev).connectorOf dispId = some (id, connector))
    (f : DrmConnector → DrmConnector) :
    ((s.updateConnector dev id f).mHdiDevices dev).connectorOf dispId =
      some (id, f connector) := by
  unfold DrmDevice.connectorOf at h ⊢
  obtain ⟨id', hid', hmap⟩ := Option.bind_eq_some_iff.1 h
  obtain ⟨k, hk, hpair⟩ := Option.map_eq_some_iff.1 hmap
  obtain ⟨rfl, rfl⟩ := Prod.mk.inj hpair
  simp [HotplugState.updateConnector, HotplugState.updateDevice, hid', hk]

theorem connectorOf_setEncoder {dispId encoderid : Nat} {encoder : DrmEncoder} :
    ((s.setEncoder dev encoderid encoder).mHdiDevices dev).connectorOf dispId =
      (s.mHdiDevices dev).connectorOf dispId := by
  simp [HotplugState.setEncoder, HotplugState.updateDevice, DrmDevice.connectorOf]

/-- `UpdateCrtcId` finds a CRTC exactly when its first encoder is known and picks one. -/
theorem updateCrtcId_post {dispId : Nat} {connector : DrmConnector} {c : DrmModeConnector}
    (h : (s.mHdiDevices dev).connectorOf dispId = some (id, connector)) :
    Post (updateCrtcId dev id plugIn c) s
      (fun r s' => SameBooks s s' ∧
        (r.1.isSome = true ↔ ∃ encoderid rest encoder, c.encoders = encoderid :: rest ∧
          (s.mHdiDevices dev).mEncoders encoderid = some encoder ∧
          ∃ crtc ∈ (s.mHdiDevices dev).mCrtcs, encoder.picks crtc = true) ∧
        ∃ connector', (s'.mHdiDevices dev).connectorOf dispId = some (id, connector'))
      (fun _ _ => c.encoders = []) := by
  unfold updateCrtcId
  cases hencoders : c.encoders with
  | nil => rfl
  | cons encoderid rest =>
      dsimp only
      rw [post_bind, post_get]
      cases hencoder : (s.mHdiDevices dev).mEncoders encoderid with
      | none =>
          refine ⟨⟨rfl, rfl, rfl⟩, ?_, connector, h⟩
          simp [hencoder]
      | some encoder =>
          have hpick := @pickCrtc_isSome encoder (s.mHdiDevices dev).mCrtcs
          dsimp only
          split
          · simp only [post_bind, post_modify, post_pure]
            refine ⟨⟨rfl, rfl, rfl⟩, ?_, _, connectorOf_updateConnector
              (connectorOf_setEncoder.trans h) _⟩
            simp [hpick, hencoder]
          · simp only [post_bind, post_modify, post_pure]
            refine ⟨⟨rfl, rfl, rfl⟩, ?_, _, connectorOf_setEncoder.trans
              (connectorOf_updateConnector h _)⟩
            simp [hpick, hencoder]

/-- A handler that is done: the request is committed and the new state recorded. -/
def HandlerDone (s : HotplugState) (dev dispId id : Nat) (connector : DrmConnector)
    (a : HotplugAnswers) (s' : HotplugState) : Prop :=
  s'.callBacks = s.callBacks ∧ (∃ pset, s'.committed = pset :: s.committed) ∧
    ∃ c connector', a.getConnector = some c ∧ connector.mConnectState ≠ c.connection ∧
      (s'.mHdiDevices dev).connectorOf dispId = some (id, connector') ∧
      connector'.mConnectState = c.connection

/-- The commit succeeds exactly when its properties are added and the kernel accepts it. -/
theorem commitHotplug_post {dispId : Nat} {connector : DrmConnector} {a : HotplugAnswers}
    {c : DrmModeConnector} {crtc : DrmCrtc} {crtcId : Nat}
    (h : (s.mHdiDevices dev).connectorOf dispId = some (id, connector)) :
    Post (commitHotplug dev id plugIn a c crtc crtcId) s
      (fun ret s' => ret = true ∧ s'.callBacks = s.callBacks ∧
        if (plugRequest a id crtc crtcId plugIn).1 && a.atomicCommit then
          (∃ pset, s'.committed = pset :: s.committed) ∧
            ∃ connector', (s'.mHdiDevices dev).connectorOf dispId = some (id, connector') ∧
              connector'.mConnectState = c.connection
        else s'.committed = s.committed)
      (fun _ _ => False) := by
  unfold commitHotplug
  rw [post_bind, post_modify]
  rcases plugRequest a id crtc crtcId plugIn with ⟨added, pset⟩
  cases added with
  | false => exact ⟨by simp [DispStatus.toBool], rfl, rfl⟩
  | true =>
      cases hcommit : a.atomicCommit with
      | false => exact ⟨by simp [DispStatus.toBool], rfl, rfl⟩
      | true => exact ⟨rfl, rfl, ⟨_, rfl⟩, _, connectorOf_updateConnector h _, rfl⟩

/-- The handler is done exactly when nothing goes wrong. Otherwise nothing is committed,
and where it returns `false` it still holds its request. -/
theorem connectorHandleHotplug_post {dispId : Nat} {connector : DrmConnector}
    {a : HotplugAnswers} (h : (s.mHdiDevices dev).connectorOf dispId = some (id, connector)) :
    Post (connectorHandleHotplug dev id connector plugIn a) s
      (fun ret s' =>
        (a.Completes (s.mHdiDevices dev) connector ∧ ret = true ∧
          HandlerDone s dev dispId id connector a s') ∨
        (¬ a.Completes (s.mHdiDevices dev) connector ∧ s'.committed = s.committed ∧
          (ret = false → s'.atomicReqs = s.atomicReqs + 1)))
      (fun _ _ => ¬ a.Completes (s.mHdiDevices dev) connector) := by
  unfold connectorHandleHotplug
  cases halloc : a.atomicAlloc with
  | false =>
      refine Or.inr ⟨fun hc => ?_, rfl, by simp [DispStatus.toBool]⟩
      rw [hc.1] at halloc
      exact absurd halloc (by simp)
  | true =>
      cases hget : a.getConnector with
      | none =>
          refine Or.inr ⟨?_, rfl, fun _ => rfl⟩
          rintro ⟨-, c, -, -, -, hc, -⟩
          rw [hget] at hc
          exact absurd hc (by simp)
      | some c =>
          -- what is read back is `c`
          have hread : a.Completes (s.mHdiDevices dev) connector →
              connector.mConnectState ≠ c.connection ∧
              (∃ encoderid rest encoder, c.encoders = encoderid :: rest ∧
                (s.mHdiDevices dev).mEncoders encoderid = some encoder ∧
                ∃ crtc ∈ (s.mHdiDevices dev).mCrtcs, encoder.picks crtc = true) ∧
              (∀ prop ∈ [PropName.active, .modeId, .crtcId], a.addProperty prop = true) ∧
              a.atomicCommit = true := by
            rintro ⟨-, c', encoderid, rest, encoder, hc, hne, hcons, hencoder, hpicks, hadd, hcommit⟩
            rw [hget] at hc
            obtain rfl := Option.some.inj hc
            exact ⟨hne, ⟨encoderid, rest, encoder, hcons, hencoder, hpicks⟩, hadd, hcommit⟩
          simp only [Bool.not_true, Bool.false_eq_true, if_false, post_bind, post_modify]
          split
          · next hsame =>
              rw [post_bind, post_modify, post_pure]
              exact Or.inr ⟨fun hc => (hread hc).1 hsame, rfl, fun _ => rfl⟩
          · next hne =>
              rw [post_bind]
              have hupdate := @updateCrtcId_post { s with
                atomicReqs := s.atomicReqs + 1
                connectorObjs := s.connectorObjs + 1 } dev id plugIn dispId connector c h
              refine hupdate.mono ?_ ?_
              · rintro ⟨crtc, crtcId⟩ s' ⟨hbooks, hcrtc, connector', hconnector'⟩
                cases crtc with
                | none =>
                    refine Or.inr ⟨fun hc => ?_, hbooks.committed, by simp [DispStatus.toBool]⟩
                    exact absurd (hcrtc.2 (hread hc).2.1) (by simp)
                | some crtc =>
                    obtain ⟨encoderid, rest, encoder, hcons, hencoder, hpicks⟩ := hcrtc.1 rfl
                    refine (commitHotplug_post hconnector').mono ?_ (fun _ _ hfalse => hfalse.elim)
                    rintro ret s'' ⟨rfl, hcallBacks, hcommitted⟩
                    have hadd := @plugRequest_added a id crtc crtcId plugIn
                    split at hcommitted
                    · next hall =>
                        obtain ⟨hadded, hcommit⟩ := Bool.and_eq_true_iff.1 hall
                        obtain ⟨⟨pset, hpset⟩, connector'', hconnector'', hstate⟩ := hcommitted
                        refine Or.inl ⟨⟨halloc, c, encoderid, rest, encoder, hget, hne, hcons, hencoder,
                          hpicks, hadd.1 hadded, hcommit⟩, rfl, hcallBacks.trans hbooks.callBacks,
                          ⟨pset, ?_⟩, c, connector'', hget, hne, hconnector'', hstate⟩
                        rw [hpset, hbooks.committed]
                    · next hnot =>
                        refine Or.inr ⟨fun hc => hnot ?_, hcommitted.trans hbooks.committed, by simp⟩
                        rw [hadd.2 (hread hc).2.2.1, (hread hc).2.2.2]
                        rfl
              · intro _ _ hnil hc
                obtain ⟨encoderid, rest, -, hcons, -⟩ := (hread hc).2.1
                rw [hnil] at hcons
                exact absurd hcons (by simp)

/-- `Init` of the connector changes nothing the law is about. -/
theorem connectorInit_post (s : HotplugState) (dev id : Nat) (a : HotplugAnswers) :
    Post (connectorInit dev id a) s
      (fun _ s' => s'.callBacks = s.callBacks ∧ s'.committed = s.committed ∧
        ∀ dispId connector, (s.mHdiDevices dev).connectorOf dispId = some (id, connector) →
          ∃ connector', (s'.mHdiDevices dev).connectorOf dispId = some (id, connector') ∧
            connector'.mConnectState = connector.mConnectState)
      (fun _ _ => False) := by
  unfold connectorInit
  cases a.dpms with
  | none => exact ⟨rfl, rfl, fun _ connector h => ⟨connector, h, rfl⟩⟩
  | some dpms =>
      cases a.crtcId with
      | false => exact ⟨rfl, rfl, fun _ _ h => ⟨_, connectorOf_updateConnector h _, rfl⟩⟩
      | true =>
          cases a.brightness with
          | none => exact ⟨rfl, rfl, fun _ _ h => ⟨_, connectorOf_updateConnector h _, rfl⟩⟩
          | some level =>
              refine ⟨rfl, rfl, fun _ _ h => ?_⟩
              have hdpms := connectorOf_updateConnector h fun k => { k with mDpmsState := dpms }
              exact ⟨_, connectorOf_updateConnector hdpms _, rfl⟩

theorem deviceHandleHotplug_post {dispId : Nat} {connector : DrmConnector}
    {a : HotplugAnswers} (h : (s.mHdiDevices dev).connectorOf dispId = some (id, connector)) :
    Post (deviceHandleHotplug dev dispId plugIn a) s
      (fun ret s' =>
        (a.Completes (s.mHdiDevices dev) connector ∧ ret = true ∧
          HandlerDone s dev dispId id connector a s') ∨
        (¬ a.Completes (s.mHdiDevices dev) connector ∧ s'.committed = s.committed ∧
          (ret = false → s'.atomicReqs = s.atomicReqs + 1)))
      (fun _ _ => ¬ a.Completes (s.mHdiDevices dev) connector) := by
  unfold deviceHandleHotplug
  rw [post_bind, post_get, h]
  dsimp only
  rw [post_bind]
  refine (connectorHandleHotplug_post h).mono ?_ (fun _ _ hnot => hnot)
  rintro ret s' hout
  cases ret with
  | false =>
      rcases hout with ⟨-, hret, -⟩ | hfail
      · exact absurd hret (by simp)
      · exact Or.inr hfail
  | true =>
      rw [if_pos rfl, post_bind]
      refine (connectorInit_post s' dev id a).mono ?_ (fun _ _ hfalse => hfalse.elim)
      rintro - s'' ⟨hcallBacks, hcommitted, hconnector⟩
      rcases hout with ⟨hc, -, hdone⟩ | ⟨hnot, hsame, -⟩
      · obtain ⟨hcb, ⟨pset, hpset⟩, c, connector', hget, hne, hfound, hstate⟩ := hdone
        obtain ⟨connector'', hfound', hstate'⟩ := hconnector dispId connector' hfound
        exact Or.inl ⟨hc, rfl, hcallBacks.trans hcb, ⟨pset, hcommitted.trans hpset⟩,
          c, connector'', hget, hne, hfound', hstate'.trans hstate⟩
      · exact Or.inr ⟨hnot, hcommitted.trans hsame, by simp⟩

end

section
variable {s : HotplugState} {v : Visit}

/-- A display without a connector on the device: nothing happens. -/
theorem visit_none (h : (s.mHdiDevices v.dev).connectorOf v.dispId = none) :
    visit v s = .ok false s := by
  have hdevice : deviceHandleHotplug v.dev v.dispId v.plugIn v.answers s = .ok false s := by
    unfold deviceHandleHotplug
    rw [get_bind, h]
    rfl
  unfold visit
  rw [bind_of_ok hdevice]
  rfl

/-- A visit in which nothing goes wrong fires the callback. Any other commits nothing, and
where it fires no callback it still holds a request. -/
theorem visit_some {id : Nat} {connector : DrmConnector}
    (h : (s.mHdiDevices v.dev).connectorOf v.dispId = some (id, connector)) :
    Post (visit v) s
      (fun ret s' =>
        (v.answers.Completes (s.mHdiDevices v.dev) connector ∧ ret = true ∧ Moved s v s' ∧
          s'.callBacks = (v.dispId, v.plugIn) :: s.callBacks) ∨
        (¬ v.answers.Completes (s.mHdiDevices v.dev) connector ∧ s'.committed = s.committed ∧
          (ret = false → s'.atomicReqs = s.atomicReqs + 1)))
      (fun _ _ => ¬ v.answers.Completes (s.mHdiDevices v.dev) connector) := by
  unfold visit
  rw [post_bind]
  refine (deviceHandleHotplug_post h).mono ?_ (fun _ _ hnot => hnot)
  rintro ret s' (⟨hc, rfl, hdone⟩ | ⟨hnot, hsame, hheld⟩)
  · obtain ⟨hcb, hpset, c, connector', hget, hne, hfound, hstate⟩ := hdone
    refine Or.inl ⟨hc, rfl, ⟨id, connector, connector', c, h, hfound, hget, hne, hstate, hpset⟩, ?_⟩
    show (v.dispId, v.plugIn) :: s'.callBacks = _
    rw [hcb]
  · cases ret with
    | false => exact Or.inr ⟨hnot, hsame, hheld⟩
    | true => exact Or.inr ⟨hnot, hsame, by simp⟩

theorem transacts_iff : Transacts s v ↔ v.Completes s := by
  unfold Transacts
  cases hfind : (s.mHdiDevices v.dev).connectorOf v.dispId with
  | none =>
      rw [post_iff_of_ok (visit_none hfind)]
      constructor
      · intro _ id connector h
        rw [hfind] at h
        exact absurd h (by simp)
      · intro _
        refine ⟨⟨by simp, ?_⟩, rfl, fun _ => ⟨rfl, rfl, rfl, rfl, rfl⟩⟩
        rintro ⟨id, connector, -, -, h, -⟩
        rw [hfind] at h
        exact absurd h (by simp)
  | some found =>
      obtain ⟨id, connector⟩ := found
      have hspec := visit_some hfind
      constructor
      · intro hlaw id' connector' h
        rw [hfind] at h
        obtain ⟨rfl, rfl⟩ := Prod.mk.inj (Option.some.inj h)
        by_contra hnot
        -- a visit that goes wrong breaks the law whatever it returns
        have hboth := hlaw.and hspec
        unfold Post at hboth
        split at hboth
        · next ret s' _ =>
            obtain ⟨⟨hiff, -, hrestored⟩, ⟨hc, -⟩ | ⟨-, hsame, hheld⟩⟩ := hboth
            · exact hnot hc
            · cases ret with
              | true =>
                  obtain ⟨-, -, -, -, -, -, -, -, -, pset, hpset⟩ := hiff.1 rfl
                  rw [hsame] at hpset
                  exact absurd hpset (by simp)
              | false =>
                  have hreqs := (hrestored rfl).atomicReqs
                  rw [hheld rfl] at hreqs
                  omega
        · exact hboth.1
      · intro hc
        refine hspec.mono ?_ (fun _ _ hnot => hnot (hc id connector hfind))
        rintro ret s' (⟨-, rfl, hmoved, hcallBacks⟩ | ⟨hnot, -⟩)
        · exact ⟨⟨fun _ => hmoved, fun _ => rfl⟩, hcallBacks, by simp⟩
        · exact absurd (hc id connector hfind) hnot

end

/-- **Hot-plug transactions.** Over every sequence of visits, hence over every sequence of
events, each visit is a transaction exactly when for each nothing goes wrong. -/
theorem hotplug_iff (s : HotplugState) (vs : List Visit) :
    Meets visit Transacts s vs ↔ Meets visit (fun s v => v.Completes s) s vs := by
  apply meets_congr (I := fun _ => True)
  · exact fun s v _ _ => (post_self (visit v) s).mono (fun _ _ _ => trivial) (fun _ _ _ => trivial)
  · exact fun s v _ => transacts_iff
  · trivial

/-! ## A whole event -/

/-- The callbacks of the visits that returned `true`, newest first. -/
def announced (vs : List Visit) (rets : List Bool) : List (Nat × Bool) :=
  (((vs.zip rets).filter Prod.snd).map fun x => (x.1.dispId, x.1.plugIn)).reverse

theorem announced_cons (v : Visit) (vs : List Visit) (ret : Bool) (rets : List Bool) :
    announced (v :: vs) (ret :: rets) = announced vs rets ++ announced [v] [ret] := by
  cases ret <;> simp [announced]

/-- A visit in which nothing goes wrong commits a request for each callback it fires. -/
theorem visit_announces {s : HotplugState} {v : Visit} (h : v.Completes s) :
    Post (visit v) s
      (fun ret s' => s'.callBacks = announced [v] [ret] ++ s.callBacks ∧
        s'.committed.length = (announced [v] [ret]).length + s.committed.length)
      (fun _ _ => False) := by
  cases hfind : (s.mHdiDevices v.dev).connectorOf v.dispId with
  | none => exact post_of_ok (visit_none hfind) ⟨rfl, (Nat.zero_add _).symm⟩
  | some found =>
      obtain ⟨id, connector⟩ := found
      refine (visit_some hfind).mono ?_ (fun _ _ hnot => hnot (h id connector hfind))
      rintro ret s' (⟨-, rfl, hmoved, hcallBacks⟩ | ⟨hnot, -⟩)
      · obtain ⟨-, -, -, -, -, -, -, -, -, pset, hpset⟩ := hmoved
        refine ⟨hcallBacks, ?_⟩
        rw [hpset, List.length_cons, Nat.add_comm]
        rfl
      · exact absurd (h id connector hfind) hnot

/-- **An event.** Where nothing goes wrong in any of its visits, `HandleHotplug` returns, and
it has fired the callbacks of the visits that succeeded, in their order, with one request
committed for each. -/
theorem sessionHandleHotplug_post {s : HotplugState} {devices displays : List Nat} {plugIn : Bool}
    {answers : Nat → Nat → HotplugAnswers}
    (hall : Meets visit (fun s v => v.Completes s) s (visits devices displays plugIn answers)) :
    Post (sessionHandleHotplug devices displays plugIn answers) s
      (fun rets s' =>
        s'.callBacks = announced (visits devices displays plugIn answers) rets ++ s.callBacks ∧
        s'.committed.length =
          (announced (visits devices displays plugIn answers) rets).length + s.committed.length)
      (fun _ _ => False) := by
  unfold sessionHandleHotplug
  generalize visits devices displays plugIn answers = vs at hall ⊢
  induction vs generalizing s with
  | nil => exact ⟨rfl, (Nat.zero_add _).symm⟩
  | cons v vs ih =>
      obtain ⟨hv, hrest⟩ := hall
      obtain ⟨ret, s', hrun, hcallBacks, hcommitted⟩ := (visit_announces hv).exists_ok
      rw [hrun] at hrest
      unfold run
      rw [post_bind]
      refine post_of_ok hrun ?_
      rw [post_bind]
      refine (ih hrest).mono ?_ (fun _ _ hfalse => hfalse)
      rintro rets s'' ⟨hcallBacks', hcommitted'⟩
      show s''.callBacks = announced (v :: vs) (ret :: rets) ++ _ ∧
        _ = (announced (v :: vs) (ret :: rets)).length + _
      rw [announced_cons, hcallBacks', hcallBacks, List.append_assoc, List.length_append]
      exact ⟨rfl, by omega⟩

/-- A display with one connector. -/
def oneConnector : HotplugState where
  mHdiDevices := fun _ => {
    mConnectors := fun id =>
      if id = 31 then some { mEncoderId := 0, mConnectState := .disconnected } else none
    mEncoders := fun id => if id = 32 then some { mCrtcId := 0, mPossibleCrtcs := 1 } else none
    mCrtcs := [{ mId := 33, mPipe := 0 }]
    dispConnectorIdMaps_ := fun dispId => if dispId = 0 then some 31 else none }

/-- The kernel rejects the commit, and the callback is fired all the same. -/
theorem hotplug_rejected :
    ¬ Meets visit Transacts oneConnector
      (visits [0] [0] true fun _ _ => {
        getConnector := some ⟨.connected, [32], [{ hdisplay := 640, vdisplay := 480 }]⟩
        createPropertyBlob := some 70
        atomicCommit := false }) := by
  rintro ⟨⟨hiff, -, -⟩, -⟩
  obtain ⟨-, -, -, -, -, -, -, -, -, pset, hpset⟩ := hiff.1 rfl
  exact absurd hpset (List.cons_ne_nil pset []).symm

end QemuHal.Common
