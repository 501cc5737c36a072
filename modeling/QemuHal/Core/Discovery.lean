import Mathlib.Data.Finset.Erase
import QemuHal.Core.Bringup
import QemuHal.Lib.Traverse

/-!
# `DrmDevice::DiscoveryDisplay`

Every connector is given a CRTC through one of its encoders and becomes a display. An
encoder that has a current CRTC gives that one, whether it is bound or not, and what
`Init` returns is not looked at. `discovery_iff` says when no harm comes of either.
-/

namespace QemuHal

open Exec

/-! ## Picking a CRTC -/

structure DrmEncoder where
  mEncoderId : Nat
  mCrtcId : Nat
  mPossibleCrtcs : UInt32
deriving DecidableEq, Repr

namespace DrmEncoder

/-- `PickIdleCrtcId`; `none` is `DISPLAY_FAILURE`. The search goes through the whole map
and ends with the last CRTC it can take. -/
def pickIdleCrtcId (e : DrmEncoder) (crtcs : List DrmCrtc) : Option Nat :=
  let crtc := match crtcs.find? fun c => c.mId = e.mCrtcId with
    | some crtc => some crtc
    | none => crtcs.foldl (fun (crtc : Option DrmCrtc) (posCrts : DrmCrtc) =>
        if posCrts.canBind && crtcAllowed posCrts.mPipe e.mPossibleCrtcs then some posCrts
        else crtc) none
  crtc.map DrmCrtc.mId

end DrmEncoder

namespace DrmConnector

def tryPickEncoder (encoders : List DrmEncoder) (crtcs : List DrmCrtc) (encoderId : Nat) :
    Option Nat :=
  match encoders.find? fun e => e.mEncoderId = encoderId with
  | none => none
  | some encoder => encoder.pickIdleCrtcId crtcs

/-- `PickIdleCrtcId`: the encoder in use first, then the possible ones. -/
def pickIdleCrtcId (c : DrmConnector) (encoders : List DrmEncoder) (crtcs : List DrmCrtc) :
    Option Nat :=
  match tryPickEncoder encoders crtcs c.mEncoderId with
  | some crtcId => some crtcId
  | none => c.mPossibleEncoders.findSome? (tryPickEncoder encoders crtcs)

end DrmConnector

/-! ## Discovery -/

/-- `FindAllCrtc`: the ids of the CRTCs the kernel lists, `none` where one cannot be read
or lacks a property. The pipe is the place in the list, and `emplace` keeps the first
CRTC of an id. -/
def findAllCrtc (i : Nat) (mCrtcs : List DrmCrtc) : List (Option Nat) → List DrmCrtc
  | [] => mCrtcs
  | none :: res => findAllCrtc (i + 1) mCrtcs res
  | some crtcId :: res =>
      findAllCrtc (i + 1)
        (if mCrtcs.any fun c => c.mId = crtcId then mCrtcs
          else { mId := crtcId, mPipe := UInt32.ofNat i } :: mCrtcs) res

/-- The `DrmDevice`, with what `Init` of its displays works on. `mCrtcs` lists the CRTCs in
the order of the map; a display has its CRTC from there. -/
structure Discovery where
  drm : Drm
  layerIds : IdPool
  displayIds : IdPool
  mPlanes : List DrmPlane
  mCrtcs : List DrmCrtc
  mDisplays : Nat → Option HdiDisplay := fun _ => none

namespace Discovery

/-- The state as `Init` of the display `disp` sees it. -/
def world (s : Discovery) (disp : HdiDisplay) : World where
  drm := s.drm
  layerIds := s.layerIds
  displayIds := s.displayIds
  planes := s.mPlanes
  disp := disp

/-- What a display does to its CRTC is done to the CRTC of the device. -/
def setCrtc (s : Discovery) (crtc : DrmCrtc) : Discovery :=
  { s with mCrtcs := s.mCrtcs.map fun c => if c.mId = crtc.mId then crtc else c }

/-- `mDisplays.emplace` of the display `Init` has left in `w`. A display whose id is a key
already is destroyed; it has no layers, since only displays without an id share one. -/
def emplace (s : Discovery) (w : World) : Discovery :=
  let s := { s with
    drm := w.drm
    layerIds := w.layerIds
    displayIds := w.displayIds
    mPlanes := w.planes }
  let s := s.setCrtc w.disp.mCrtc
  match s.mDisplays w.disp.mId with
  | none => { s with mDisplays := Function.update s.mDisplays w.disp.mId (some w.disp) }
  | some _ =>
      let s := s.setCrtc (w.disp.mCrtc.unBindDisplay w.disp.mId)
      { s with displayIds := { s.displayIds with
          mIdSets := s.displayIds.mIdSets.erase w.disp.mId } }

end Discovery

/-- One turn of the loop of `DiscoveryDisplay`: what `Init` returns, if the turn comes to
it. -/
def discoverDisplay (mEncoders : List DrmEncoder) (x : DrmConnector × InitAnswers) :
    EStateM Fault Discovery (Option DispStatus) := fun s =>
  match x.1.pickIdleCrtcId mEncoders s.mCrtcs with
  | none => .ok none s
  | some crtcId =>
      match s.mCrtcs.find? fun c => c.mId = crtcId with
      | none => .ok none s
      | some mCrtc =>
          match drmDisplayInit x.2 (s.world { mConnector := x.1, mCrtc }) with
          | .ok ret w => .ok (some ret) (s.emplace w)
          | .error e w => .error e { s with drm := w.drm, displayIds := w.displayIds }

/-! ## The law -/

/-- The encoders a connector can use, in the order they are tried. -/
def DrmConnector.encoders (c : DrmConnector) (mEncoders : List DrmEncoder) : List DrmEncoder :=
  (c.mEncoderId :: c.mPossibleEncoders).filterMap fun id =>
    mEncoders.find? fun e => e.mEncoderId = id

/-- The CRTC is allowed by the mask of one of the connector's encoders. -/
def DrmConnector.Allows (c : DrmConnector) (mEncoders : List DrmEncoder) (crtc : DrmCrtc) : Prop :=
  ∃ e ∈ c.encoders mEncoders, crtcAllowed crtc.mPipe e.mPossibleCrtcs = true

/-- A display has a composer and a CRTC of the device, which is bound to it, is allowed
and has an active mode. -/
structure DisplayUp (mEncoders : List DrmEncoder) (mCrtcs : List DrmCrtc) (devId : Nat)
    (disp : HdiDisplay) (crtc : DrmCrtc) : Prop where
  composer : disp.mComposer ≠ none
  id : disp.mId = devId
  mem : crtc ∈ mCrtcs
  shared : crtc.mId = disp.mCrtc.mId
  bound : crtc.mDisplayId = devId
  mode : (disp.mConnector.getModeFromId crtc.mActiveModeId).isSome
  allowed : disp.mConnector.Allows mEncoders crtc

/-- The displays are up, each on a CRTC of its own. -/
structure DisplaysUp (mEncoders : List DrmEncoder) (s : Discovery) : Prop where
  up : ∀ devId disp, s.mDisplays devId = some disp →
    ∃ crtc, DisplayUp mEncoders s.mCrtcs devId disp crtc
  distinct : ∀ devId devId' disp disp', s.mDisplays devId = some disp →
    s.mDisplays devId' = some disp' → disp.mCrtc.mId = disp'.mCrtc.mId → devId = devId'

/-- Some CRTC the connector may have is unbound. -/
def Discovery.HasIdle (s : Discovery) (mEncoders : List DrmEncoder) (c : DrmConnector) : Prop :=
  ∃ crtc ∈ s.mCrtcs, crtc.canBind = true ∧ c.Allows mEncoders crtc

/-- What is asked of the turn of a connector. Only a search for a display id that never
ends may keep it from returning. -/
def DiscoveryLaw (mEncoders : List DrmEncoder) (s : Discovery) (x : DrmConnector × InitAnswers) :
    Prop :=
  Post (discoverDisplay mEncoders x) s
    (fun ret s' => (∀ status, ret = some status → status = .success) ∧ DisplaysUp mEncoders s' ∧
      (s.HasIdle mEncoders x.1 → ∃ devId disp crtc, s.mDisplays devId = none ∧
        s'.mDisplays devId = some disp ∧ disp.mConnector = x.1 ∧ crtc ∈ s.mCrtcs ∧
        crtc.mId = disp.mCrtc.mId ∧ crtc.canBind = true ∧ x.1.Allows mEncoders crtc))
    (fun e _ => e = .diverges)

/-! ## The condition -/

/-- The CRTC in use by the encoder. -/
def DrmEncoder.current (e : DrmEncoder) (crtcs : List DrmCrtc) : Option DrmCrtc :=
  crtcs.find? fun c => c.mId = e.mCrtcId

/-- The unbound CRTCs the encoder allows. -/
def DrmEncoder.idle (e : DrmEncoder) (crtcs : List DrmCrtc) : List DrmCrtc :=
  crtcs.filter fun c => c.canBind && crtcAllowed c.mPipe e.mPossibleCrtcs

/-- The CRTC an encoder has for a connector: the one in use, or else an unbound one. -/
def DrmEncoder.offer (e : DrmEncoder) (crtcs : List DrmCrtc) : Option DrmCrtc :=
  (e.current crtcs).or (e.idle crtcs).getLast?

/-- The CRTC of the first encoder that has one. -/
def DrmConnector.offer (c : DrmConnector) (mEncoders : List DrmEncoder) (crtcs : List DrmCrtc) :
    Option DrmCrtc :=
  (c.encoders mEncoders).findSome? fun e => e.offer crtcs

/-- If the first encoder that has a CRTC has it in use, then that CRTC is unbound and
allowed all the same; and a display on the CRTC of that encoder can be initialised. -/
def Suits (mEncoders : List DrmEncoder) (s : Discovery) (x : DrmConnector × InitAnswers) : Prop :=
  ∀ crtc, x.1.offer mEncoders s.mCrtcs = some crtc →
    ∀ id ids, s.displayIds.getIdleId invalidDisplayId = some (id, ids) →
      x.1.Allows mEncoders crtc ∧ (s.world { mConnector := x.1, mCrtc := crtc }).Inits x.2 id

/-! ## What is picked -/

theorem DrmEncoder.pickIdleCrtcId_eq (e : DrmEncoder) (crtcs : List DrmCrtc) :
    e.pickIdleCrtcId crtcs = (e.offer crtcs).map DrmCrtc.mId := by
  unfold DrmEncoder.pickIdleCrtcId DrmEncoder.offer DrmEncoder.current DrmEncoder.idle
  rw [Traverse.foldl_getLast]
  cases crtcs.find? fun c => c.mId = e.mCrtcId <;> rfl

theorem DrmConnector.pickIdleCrtcId_eq (c : DrmConnector) (mEncoders : List DrmEncoder)
    (crtcs : List DrmCrtc) :
    c.pickIdleCrtcId mEncoders crtcs = (c.offer mEncoders crtcs).map DrmCrtc.mId := by
  have htry : ∀ id, tryPickEncoder mEncoders crtcs id =
      ((mEncoders.find? fun e => e.mEncoderId = id).bind fun e => e.offer crtcs).map
        DrmCrtc.mId := by
    intro id
    unfold tryPickEncoder
    cases mEncoders.find? fun e => e.mEncoderId = id with
    | none => rfl
    | some e => exact e.pickIdleCrtcId_eq crtcs
  have hall : ∀ ids : List Nat, ids.findSome? (tryPickEncoder mEncoders crtcs) =
      ((ids.filterMap fun id => mEncoders.find? fun e => e.mEncoderId = id).findSome? fun e =>
        e.offer crtcs).map DrmCrtc.mId := by
    intro ids
    induction ids with
    | nil => rfl
    | cons id ids ih =>
        rw [List.findSome?_cons, htry, ih, List.filterMap_cons]
        cases mEncoders.find? fun e => e.mEncoderId = id with
        | none => rfl
        | some e =>
            rw [List.findSome?_cons, Option.bind_some]
            cases e.offer crtcs <;> rfl
  have hcons : c.pickIdleCrtcId mEncoders crtcs =
      (c.mEncoderId :: c.mPossibleEncoders).findSome? (tryPickEncoder mEncoders crtcs) := by
    unfold DrmConnector.pickIdleCrtcId
    rw [List.findSome?_cons]
    cases tryPickEncoder mEncoders crtcs c.mEncoderId <;> rfl
  rw [hcons, hall]
  rfl

theorem DrmEncoder.offer_mem {e : DrmEncoder} {crtcs : List DrmCrtc} {crtc : DrmCrtc}
    (h : e.offer crtcs = some crtc) : crtc ∈ crtcs := by
  unfold DrmEncoder.offer at h
  cases hc : e.current crtcs with
  | some c =>
      rw [hc] at h
      obtain rfl := Option.some.inj h
      exact List.mem_of_find?_eq_some hc
  | none =>
      rw [hc, Option.none_or] at h
      exact List.mem_of_mem_filter (List.mem_of_getLast? h)

theorem DrmConnector.offer_mem {c : DrmConnector} {mEncoders : List DrmEncoder}
    {crtcs : List DrmCrtc} {crtc : DrmCrtc} (h : c.offer mEncoders crtcs = some crtc) :
    crtc ∈ crtcs := by
  obtain ⟨e, -, he⟩ := List.exists_of_findSome?_eq_some h
  exact DrmEncoder.offer_mem he

/-- A connector that may have an unbound CRTC is offered one. -/
theorem Discovery.HasIdle.offer {s : Discovery} {mEncoders : List DrmEncoder} {c : DrmConnector}
    (h : s.HasIdle mEncoders c) : c.offer mEncoders s.mCrtcs ≠ none := by
  obtain ⟨crtc, hmem, hidle, e, he, hallow⟩ := h
  intro hnone
  have hoffer : e.offer s.mCrtcs = none := List.findSome?_eq_none_iff.1 hnone e he
  unfold DrmEncoder.offer at hoffer
  rw [Option.or_eq_none_iff, List.getLast?_eq_none_iff] at hoffer
  have hin : crtc ∈ e.idle s.mCrtcs := by
    unfold DrmEncoder.idle
    rw [List.mem_filter, hidle, hallow]
    exact ⟨hmem, rfl⟩
  rw [hoffer.2] at hin
  exact absurd hin List.not_mem_nil

/-! ## One turn -/

/-- CRTCs have their ids to themselves, and the ids of displays are used up. -/
structure Discovery.Sound (s : Discovery) : Prop where
  nodup : (s.mCrtcs.map DrmCrtc.mId).Nodup
  used : ∀ devId disp, s.mDisplays devId = some disp →
    devId ∈ s.displayIds.mIdSets ∧ devId ≠ invalidDisplayId

section
variable {mEncoders : List DrmEncoder} {s : Discovery} {con : DrmConnector} {a : InitAnswers}
  {crtc : DrmCrtc}

theorem Discovery.Sound.find (h : s.Sound) (hmem : crtc ∈ s.mCrtcs) :
    (s.mCrtcs.find? fun c => c.mId = crtc.mId) = some crtc := by
  cases hfind : s.mCrtcs.find? fun c => c.mId = crtc.mId with
  | none => exact absurd (List.find?_eq_none.1 hfind crtc hmem) (by simp)
  | some c =>
      have hid : c.mId = crtc.mId := by simpa using List.find?_some hfind
      rw [List.inj_on_of_nodup_map h.nodup (List.mem_of_find?_eq_some hfind) hmem hid]

/-- A connector that is offered no CRTC is passed over. -/
theorem discoverDisplay_none (hoffer : con.offer mEncoders s.mCrtcs = none) :
    discoverDisplay mEncoders (con, a) s = .ok none s := by
  unfold discoverDisplay
  rw [con.pickIdleCrtcId_eq, hoffer]
  rfl

theorem discoverDisplay_post (h : s.Sound) (hoffer : con.offer mEncoders s.mCrtcs = some crtc)
    {Q : Option DispStatus → Discovery → Prop} {E : Fault → Discovery → Prop}
    (hinit : Post (drmDisplayInit a) (s.world { mConnector := con, mCrtc := crtc })
      (fun ret w => Q (some ret) (s.emplace w))
      (fun e w => E e { s with drm := w.drm, displayIds := w.displayIds })) :
    Post (discoverDisplay mEncoders (con, a)) s Q E := by
  unfold Post discoverDisplay
  rw [con.pickIdleCrtcId_eq, hoffer]
  simp only [Option.map_some, h.find (DrmConnector.offer_mem hoffer)]
  unfold Post at hinit
  cases hrun : drmDisplayInit a (s.world { mConnector := con, mCrtc := crtc }) with
  | ok ret w =>
      rw [hrun] at hinit
      exact hinit
  | error e w =>
      rw [hrun] at hinit
      exact hinit

/-- The device once the display that `Init` has brought up is entered. -/
def Discovery.entered (s : Discovery) (crtc : DrmCrtc) (w : World) : Discovery where
  drm := w.drm
  layerIds := w.layerIds
  displayIds := w.displayIds
  mPlanes := w.planes
  mCrtcs := s.mCrtcs.map fun c => if c.mId = crtc.mId then w.disp.mCrtc else c
  mDisplays := Function.update s.mDisplays w.disp.mId (some w.disp)

theorem World.Up.mCrtc_eq {w w' : World} {id : Nat} {ids : IdPool} (h : w.Up id ids w')
    (hmode : 0 ≤ w.disp.mConnector.initialMode) :
    w'.disp.mCrtc.mId = w.disp.mCrtc.mId ∧ w'.disp.mCrtc.mPipe = w.disp.mCrtc.mPipe ∧
      w'.disp.mCrtc.mDisplayId = id ∧
      w'.disp.mCrtc.mActiveModeId = w.disp.mConnector.initialMode := by
  rw [h.mCrtc]
  unfold DrmCrtc.setActivieMode
  rw [if_neg (not_lt.2 hmode)]
  exact ⟨rfl, rfl, rfl, rfl⟩

/-- Its id is not a key yet. -/
theorem emplace_new (h : s.Sound) {id : Nat} {ids : IdPool}
    (hid : s.displayIds.getIdleId invalidDisplayId = some (id, ids))
    (hinits : (s.world { mConnector := con, mCrtc := crtc }).Inits a id) {w : World}
    (hup : (s.world { mConnector := con, mCrtc := crtc }).Up id ids w) :
    s.mDisplays id = none ∧ s.emplace w = s.entered crtc w := by
  have hnew : s.mDisplays id = none := by
    cases hdisp : s.mDisplays id with
    | none => rfl
    | some disp =>
        exact absurd (h.used id disp hdisp).1 (IdPool.getIdleId_unused hid hinits.valid)
  have hcrtc : w.disp.mCrtc.mId = crtc.mId := (hup.mCrtc_eq hinits.mode).1
  refine ⟨hnew, ?_⟩
  unfold Discovery.emplace Discovery.setCrtc Discovery.entered
  simp only [hup.mId, hnew, hcrtc]

/-- The device with a display that `Init` has brought up on an unbound CRTC. -/
theorem entered_up (h : s.Sound) (hd : DisplaysUp mEncoders s) (hmem : crtc ∈ s.mCrtcs)
    (hallow : con.Allows mEncoders crtc) {id : Nat} {ids : IdPool}
    (hid : s.displayIds.getIdleId invalidDisplayId = some (id, ids))
    (hinits : (s.world { mConnector := con, mCrtc := crtc }).Inits a id) {w : World}
    (hup : (s.world { mConnector := con, mCrtc := crtc }).Up id ids w) :
    (s.entered crtc w).Sound ∧ DisplaysUp mEncoders (s.entered crtc w) := by
  obtain ⟨hcrtc, hpipe, hbound, hactive⟩ :
      w.disp.mCrtc.mId = crtc.mId ∧ w.disp.mCrtc.mPipe = crtc.mPipe ∧
        w.disp.mCrtc.mDisplayId = id ∧ w.disp.mCrtc.mActiveModeId = con.initialMode :=
    hup.mCrtc_eq hinits.mode
  -- the CRTC of another display is bound to it, so it is not the one given away
  have hother : ∀ devId disp c, s.mDisplays devId = some disp →
      DisplayUp mEncoders s.mCrtcs devId disp c → c.mId ≠ crtc.mId := by
    intro devId disp c hdisp hc heq
    have : c = crtc := List.inj_on_of_nodup_map h.nodup hc.mem hmem heq
    subst this
    have hfree : c.mDisplayId = invalidDisplayId := of_decide_eq_true hinits.unbound
    exact (h.used devId disp hdisp).2 (hc.bound.symm.trans hfree)
  refine ⟨⟨?_, ?_⟩, ⟨?_, ?_⟩⟩
  · have hids : (s.mCrtcs.map fun c => if c.mId = crtc.mId then w.disp.mCrtc else c).map
        DrmCrtc.mId = s.mCrtcs.map DrmCrtc.mId := by
      rw [List.map_map]
      refine List.map_congr_left fun c _ => ?_
      simp only [Function.comp_apply]
      split
      · next hc => rw [hcrtc, hc]
      · rfl
    have hnodup := h.nodup
    rw [← hids] at hnodup
    exact hnodup
  · intro devId disp hdisp
    simp only [Discovery.entered, Function.update_apply, hup.mId, hup.displayIds,
      IdPool.getIdleId_mIdSets hid, Finset.mem_insert] at hdisp ⊢
    split at hdisp
    · next he => exact ⟨Or.inl he, he ▸ hinits.valid⟩
    · exact ⟨Or.inr (h.used devId disp hdisp).1, (h.used devId disp hdisp).2⟩
  · intro devId disp hdisp
    simp only [Discovery.entered, Function.update_apply, hup.mId] at hdisp ⊢
    split at hdisp
    · next he =>
        obtain rfl := Option.some.inj hdisp
        obtain ⟨mode, hmode, -⟩ := hinits.frame
        refine ⟨w.disp.mCrtc, hup.mComposer, he ▸ hup.mId, ?_, rfl, he ▸ hbound, ?_, ?_⟩
        · exact List.mem_map.2 ⟨crtc, hmem, if_pos rfl⟩
        · rw [hup.mConnector, hactive]
          exact Option.isSome_iff_exists.2 ⟨mode, hmode⟩
        · rw [hup.mConnector]
          unfold DrmConnector.Allows
          rw [hpipe]
          exact hallow
    · obtain ⟨c, hc⟩ := hd.up devId disp hdisp
      refine ⟨c, hc.composer, hc.id, ?_, hc.shared, hc.bound, hc.mode, hc.allowed⟩
      exact List.mem_map.2 ⟨c, hc.mem, if_neg (hother devId disp c hdisp hc)⟩
  · intro devId devId' disp disp' hdisp hdisp' hshare
    simp only [Discovery.entered, Function.update_apply, hup.mId] at hdisp hdisp'
    split at hdisp
    · next he =>
        split at hdisp'
        · next he' => rw [he, he']
        · obtain rfl := Option.some.inj hdisp
          obtain ⟨c, hc⟩ := hd.up devId' disp' hdisp'
          exact absurd (hc.shared.trans (hshare.symm.trans hcrtc)) (hother devId' disp' c hdisp' hc)
    · split at hdisp'
      · obtain rfl := Option.some.inj hdisp'
        obtain ⟨c, hc⟩ := hd.up devId disp hdisp
        exact absurd (hc.shared.trans (hshare.trans hcrtc)) (hother devId disp c hdisp hc)
      · exact hd.distinct devId devId' disp disp' hdisp hdisp' hshare

/-- The turn of a connector that suits. -/
theorem discoverDisplay_suits (h : s.Sound) (hd : DisplaysUp mEncoders s)
    (hsuits : Suits mEncoders s (con, a)) :
    Post (discoverDisplay mEncoders (con, a)) s
      (fun ret s' => s'.Sound ∧ (∀ status, ret = some status → status = .success) ∧
        DisplaysUp mEncoders s' ∧
        (s.HasIdle mEncoders con → ∃ devId disp crtc, s.mDisplays devId = none ∧
          s'.mDisplays devId = some disp ∧ disp.mConnector = con ∧ crtc ∈ s.mCrtcs ∧
          crtc.mId = disp.mCrtc.mId ∧ crtc.canBind = true ∧ con.Allows mEncoders crtc))
      (fun e _ => e = .diverges) := by
  cases hoffer : con.offer mEncoders s.mCrtcs with
  | none =>
      refine post_of_ok (discoverDisplay_none hoffer) ⟨h, by simp, hd, fun hidle => ?_⟩
      exact absurd hoffer hidle.offer
  | some crtc =>
      apply discoverDisplay_post h hoffer
      apply (drmDisplayInit_outcome a).mono
      · rintro ret w ⟨id, ids, hid, hiff, hup⟩
        obtain ⟨hallow, hinits⟩ := hsuits crtc hoffer id ids hid
        have hret : ret = .success := hiff.2 hinits
        have hmem := DrmConnector.offer_mem hoffer
        obtain ⟨hnone, heq⟩ := emplace_new h hid hinits (hup hret)
        obtain ⟨hsound, hdisplays⟩ := entered_up h hd hmem hallow hid hinits (hup hret)
        rw [heq]
        refine ⟨hsound, ?_, hdisplays, fun _ => ⟨id, w.disp, crtc, hnone, ?_, ?_, hmem, ?_, ?_,
          hallow⟩⟩
        · rintro status hstatus
          rw [← Option.some.inj hstatus, hret]
        · rw [← (hup hret).mId]
          exact Function.update_self ..
        · exact (hup hret).mConnector
        · exact ((hup hret).mCrtc_eq hinits.mode).1.symm
        · exact hinits.unbound
      · exact fun e _ he => he.1

theorem discoverDisplay_sound (h : s.Sound) (hd : DisplaysUp mEncoders s)
    (hsuits : Suits mEncoders s (con, a)) {ret : Option DispStatus} {s' : Discovery}
    (hrun : discoverDisplay mEncoders (con, a) s = .ok ret s') : s'.Sound :=
  ((discoverDisplay_suits h hd hsuits).of_ok hrun).1

/-- **A connector is served as it should be exactly when it suits.** -/
theorem discoveryLaw_iff (h : s.Sound) (hd : DisplaysUp mEncoders s) :
    DiscoveryLaw mEncoders s (con, a) ↔ Suits mEncoders s (con, a) := by
  constructor
  · intro hlaw crtc hoffer id ids hid
    have hinit := drmDisplayInit_outcome (w := s.world { mConnector := con, mCrtc := crtc }) a
    have hmem := DrmConnector.offer_mem hoffer
    cases hrun : drmDisplayInit a (s.world { mConnector := con, mCrtc := crtc }) with
    | error e w => exact absurd ((hinit.of_error hrun).2.symm.trans hid) (by simp)
    | ok ret w =>
        obtain ⟨id', ids', hid', hiff, hup⟩ := hinit.of_ok hrun
        obtain ⟨rfl, rfl⟩ : id' = id ∧ ids' = ids := by
          have hpair := Option.some.inj (hid'.symm.trans hid)
          exact ⟨congrArg Prod.fst hpair, congrArg Prod.snd hpair⟩
        have hstep : discoverDisplay mEncoders (con, a) s = .ok (some ret) (s.emplace w) := by
          unfold discoverDisplay
          rw [con.pickIdleCrtcId_eq, hoffer]
          simp only [Option.map_some, h.find hmem, hrun]
        obtain ⟨hstatus, hdisplays, -⟩ := Post.of_ok hlaw hstep
        have hinits := hiff.1 (hstatus ret rfl)
        refine ⟨?_, hinits⟩
        -- the display's CRTC is the one offered, and the law says that it is allowed
        have hup := hup (hiff.2 hinits)
        rw [(emplace_new h hid hinits hup).2] at hdisplays
        obtain ⟨c, hc⟩ := hdisplays.up id' w.disp (by
          rw [← hup.mId]
          exact Function.update_self ..)
        obtain ⟨hcrtc, hpipe, -, -⟩ : w.disp.mCrtc.mId = crtc.mId ∧
            w.disp.mCrtc.mPipe = crtc.mPipe ∧ _ := hup.mCrtc_eq hinits.mode
        obtain ⟨c', hc', hif⟩ := List.mem_map.1 hc.mem
        have hallowed := hc.allowed
        rw [hup.mConnector] at hallowed
        unfold DrmConnector.Allows at hallowed ⊢
        rw [← hpipe]
        split at hif
        · rw [hif]
          exact hallowed
        · next hne =>
            subst hif
            exact absurd (hc.shared.trans hcrtc) hne
  · intro hsuits
    exact (discoverDisplay_suits h hd hsuits).mono (fun _ _ hpost => hpost.2) (fun _ _ he => he)

end

/-! ## Runs -/

theorem findAllCrtc_nodup (res : List (Option Nat)) : ∀ (i : Nat) (mCrtcs : List DrmCrtc),
    (mCrtcs.map DrmCrtc.mId).Nodup → ((findAllCrtc i mCrtcs res).map DrmCrtc.mId).Nodup := by
  induction res with
  | nil => exact fun _ _ h => h
  | cons answer res ih =>
      intro i mCrtcs h
      cases answer with
      | none => exact ih _ _ h
      | some crtcId =>
          apply ih
          split
          · exact h
          · next hnew =>
              rw [List.map_cons, List.nodup_cons]
              refine ⟨fun hmem => hnew ?_, h⟩
              obtain ⟨c, hc, hid⟩ := List.mem_map.1 hmem
              exact List.any_eq_true.2 ⟨c, hc, decide_eq_true hid⟩

/-- What `DiscoveryDisplay` returns when every turn obeys the law. -/
theorem displaysUp_of_run {mEncoders : List DrmEncoder} {s s' : Discovery}
    {mConnectors : List (DrmConnector × InitAnswers)} {rets : List (Option DispStatus)}
    (hs : DisplaysUp mEncoders s)
    (hlaw : Meets (discoverDisplay mEncoders) (DiscoveryLaw mEncoders) s mConnectors)
    (hrun : run (discoverDisplay mEncoders) mConnectors s = .ok rets s') :
    DisplaysUp mEncoders s' := by
  have hkept : ∀ s x, DisplaysUp mEncoders s → DiscoveryLaw mEncoders s x →
      Post (discoverDisplay mEncoders x) s (fun _ s' => DisplaysUp mEncoders s')
        (fun e _ => e = .diverges) :=
    fun s x _ hx => Post.mono hx (fun _ _ hpost => hpost.2.1) (fun _ _ he => he)
  exact (run_post hkept hs hlaw).of_ok hrun

/-- **Discovery.** Whatever the kernel lists, and in whatever order the map of the CRTCs is
gone through: every turn gives its connector what it should exactly when every connector
suits when its turn comes. -/
theorem discovery_iff {res : List (Option Nat)} {mCrtcs : List DrmCrtc}
    (hcrtcs : mCrtcs.Perm (findAllCrtc 0 [] res)) (drm : Drm) (layerIds displayIds : IdPool)
    (mPlanes : List DrmPlane) (mEncoders : List DrmEncoder)
    (mConnectors : List (DrmConnector × InitAnswers)) :
    Meets (discoverDisplay mEncoders) (DiscoveryLaw mEncoders)
        { drm, layerIds, displayIds, mPlanes, mCrtcs } mConnectors ↔
      Meets (discoverDisplay mEncoders) (Suits mEncoders)
        { drm, layerIds, displayIds, mPlanes, mCrtcs } mConnectors := by
  apply meets_congr (I := fun s => s.Sound ∧ DisplaysUp mEncoders s)
  · rintro s ⟨con, a⟩ ⟨h, hd⟩ hlaw
    exact (discoverDisplay_suits h hd ((discoveryLaw_iff h hd).1 hlaw)).mono
      (fun _ _ hpost => ⟨hpost.1, hpost.2.2.1⟩) (fun _ _ _ => trivial)
  · rintro s ⟨con, a⟩ ⟨h, hd⟩
    exact discoveryLaw_iff h hd
  · refine ⟨⟨?_, by simp⟩, ⟨by simp, by simp⟩⟩
    exact (hcrtcs.map DrmCrtc.mId).nodup_iff.2 (findAllCrtc_nodup res 0 [] List.nodup_nil)

/-- A device with one CRTC and one primary plane. -/
def oneCrtc : Discovery where
  drm := (smallDisplay []).drm
  layerIds := {}
  displayIds := {}
  mPlanes := (smallDisplay []).planes
  mCrtcs := findAllCrtc 0 [] [some 33]

/-- A connector that is used through this encoder. -/
def connectorOn (id encoderId : Nat) : DrmConnector :=
  { (smallDisplay []).disp.mConnector with
    mId := id
    mEncoderId := encoderId
    mPossibleEncoders := [encoderId] }

/-- A device with two CRTCs, each with a primary plane of its own. -/
def twoCrtcs : Discovery where
  drm := (smallDisplay []).drm
  layerIds := {}
  displayIds := {}
  mPlanes := [
    { mId := 40, mPossibleCrtcs := 1, mType := .primary },
    { mId := 43, mPossibleCrtcs := 2, mType := .primary }]
  mCrtcs := findAllCrtc 0 [] [some 33, some 34]

/-- Answers that bring a second display up, with the dma-buf `101`. -/
def secondInit : InitAnswers where
  allocMem := some (12, 101, 2560)
  dup := { buffer := some 13 }
  firstFrame := {
    plane := fun _ => { prime := { handle := some 2, fb := some 2 } }
    createPropertyBlob := some 71
    atomicCommit := some 22 }

def twoEncoders : List DrmEncoder := [⟨32, 33, 1⟩, ⟨35, 34, 2⟩]

@[irreducible] def twoConnectors : List (DrmConnector × InitAnswers) :=
  [(connectorOn 31 32, smallInit), (connectorOn 36 35, secondInit)]

/-- The device when the first connector has had its turn. Only the kernel evaluates it. -/
@[irreducible] def firstFound : Discovery :=
  match discoverDisplay twoEncoders (connectorOn 31 32, smallInit) twoCrtcs with
  | .ok _ s => s
  | .error _ s => s

theorem firstFound_eq :
    discoverDisplay twoEncoders (connectorOn 31 32, smallInit) twoCrtcs =
      .ok (some .success) firstFound := by
  have hret : returns (discoverDisplay twoEncoders (connectorOn 31 32, smallInit)) twoCrtcs
      (fun ret _ => decide (ret = some .success)) = true := by
    decide +kernel
  obtain ⟨ret, s, hrun, hret⟩ := returns_iff.1 hret
  obtain rfl := of_decide_eq_true hret
  rw [firstFound, hrun]

theorem twoCrtcs_suits : Suits twoEncoders twoCrtcs (connectorOn 31 32, smallInit) := by
  intro crtc hoffer id ids hid
  obtain rfl : { mId := 33, mPipe := 0 } = crtc := Option.some.inj hoffer
  obtain rfl : 0 = id := congrArg Prod.fst (Option.some.inj hid)
  refine ⟨⟨⟨32, 33, 1⟩, by decide, by decide⟩, by decide, by decide, ?_, by decide, by decide, ?_⟩
  · exact ⟨_, List.mem_cons_self, by decide, rfl⟩
  · exact ⟨_, rfl, by decide⟩

theorem firstFound_sound : firstFound.Sound :=
  discoverDisplay_sound ⟨by decide, by simp [twoCrtcs]⟩
    ⟨by simp [twoCrtcs], by simp [twoCrtcs]⟩ twoCrtcs_suits firstFound_eq

theorem firstFound_offer :
    (connectorOn 36 35).offer twoEncoders firstFound.mCrtcs = some { mId := 34, mPipe := 1 } := by
  decide +kernel

theorem twoConnectors_suit :
    Meets (discoverDisplay twoEncoders) (Suits twoEncoders) twoCrtcs twoConnectors := by
  rw [twoConnectors]
  refine ⟨twoCrtcs_suits, ?_⟩
  rw [firstFound_eq]
  refine ⟨fun crtc hoffer id ids hid => ?_, ?_⟩
  · obtain rfl := Option.some.inj (firstFound_offer.symm.trans hoffer)
    have hnext : (firstFound.displayIds.getIdleId invalidDisplayId).map Prod.fst = some 1 := by
      decide +kernel
    obtain rfl : 1 = id := by
      rw [hid] at hnext
      exact (Option.some.inj hnext).symm
    refine ⟨⟨⟨35, 34, 2⟩, by decide, by decide⟩, by decide, by decide, ?_, by decide, by decide, ?_⟩
    · have hplane : ∃ p ∈ firstFound.mPlanes, takes 1 p = true ∧ p.mType = .primary := by
        decide +kernel
      exact hplane
    · exact ⟨_, rfl, by decide +kernel⟩
  · split <;> trivial

/-- Two connectors, each on a CRTC of its own. -/
theorem discovery_twoCrtcs :
    Meets (discoverDisplay twoEncoders) (DiscoveryLaw twoEncoders) twoCrtcs twoConnectors :=
  (@discovery_iff [some 33, some 34] _ (List.Perm.refl _) _ _ _ _ _ _).2 twoConnectors_suit

/-- Two connectors whose encoders have the same CRTC in use become two displays on it, and
the second is not initialised. -/
theorem discovery_shared :
    ¬ Meets (discoverDisplay [⟨32, 33, 1⟩, ⟨35, 33, 1⟩])
        (DiscoveryLaw [⟨32, 33, 1⟩, ⟨35, 33, 1⟩]) oneCrtc
        [(connectorOn 31 32, smallInit), (connectorOn 34 35, smallInit)] := by
  intro hlaw
  have hstart : DisplaysUp [⟨32, 33, 1⟩, ⟨35, 33, 1⟩] oneCrtc :=
    ⟨fun _ _ h => absurd h (by simp [oneCrtc]), fun _ _ _ _ h => absurd h (by simp [oneCrtc])⟩
  have hret : returns (run (discoverDisplay [⟨32, 33, 1⟩, ⟨35, 33, 1⟩])
      [(connectorOn 31 32, smallInit), (connectorOn 34 35, smallInit)]) oneCrtc
      (fun _ s => decide ((s.mDisplays 0).map (·.mCrtc.mId) = some 33 ∧
        (s.mDisplays 1).map (·.mCrtc.mId) = some 33)) = true := by
    decide +kernel
  obtain ⟨rets, s, hrun, hshared⟩ := returns_iff.1 hret
  obtain ⟨h0, h1⟩ := of_decide_eq_true hshared
  obtain ⟨disp, hdisp, hid⟩ := Option.map_eq_some_iff.1 h0
  obtain ⟨disp', hdisp', hid'⟩ := Option.map_eq_some_iff.1 h1
  have hdisplays := displaysUp_of_run hstart hlaw hrun
  exact absurd (hdisplays.distinct 0 1 disp disp' hdisp hdisp' (hid.trans hid'.symm)) (by simp)

end QemuHal
