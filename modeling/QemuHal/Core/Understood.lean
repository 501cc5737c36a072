import QemuHal.Core.Hardware

/-!
# What the device reads

The ids of the properties are found once, when the device is searched, and every request
of the session is put in them. `DrmPlane::Init` does not look at what `GetCrtcProp` and
`GetSrcProp` return, so a plane may go without the ids of its place and its size. A
request is read as it is meant unless it names such a plane, and a frame that shows a
framebuffer on such a plane is refused.
-/

namespace QemuHal

open Exec

/-! ## The search -/

/-- What the kernel says while the device is searched: `none` for an object it does not
give. Of a connector it says what there is to it and whether it is connected. -/
structure KmsAnswers where
  crtcs : List (Option (Nat × ObjectAnswers))
  connectors : List (Option (DrmConnector × Bool × ObjectAnswers))
  planes : List (Option (DrmModePlane × ObjectAnswers))

/-- The objects the device keeps, with the ids they have found. -/
structure KmsObjects where
  crtcs : List (Option (Nat × PropIds))
  connectors : List (DrmConnector × PropIds)
  planes : List (DrmPlane × PropIds)

/-- `Init` of the CRTCs `FindAllCrtc` goes through; what is kept of them `findAllCrtc`
says. -/
def initCrtcs : List (Option (Nat × ObjectAnswers)) → Option (List (Option (Nat × PropIds)))
  | [] => some []
  | none :: crtcs => do
      let rest ← initCrtcs crtcs
      return none :: rest
  | some (id, ask) :: crtcs => do
      let ids ← crtcInit ask
      let rest ← initCrtcs crtcs
      return (ids.map fun ids => (id, ids)) :: rest

/-- `FindAllConnector`. `emplace` keeps the first connector of an id. -/
def findAllConnector (mConnectors : List (DrmConnector × PropIds)) :
    List (Option (DrmConnector × Bool × ObjectAnswers)) → Option (List (DrmConnector × PropIds))
  | [] => some mConnectors
  | none :: connectors => findAllConnector mConnectors connectors
  | some (_, false, _) :: connectors => findAllConnector mConnectors connectors
  | some (con, true, ask) :: connectors => do
      match ← connectorInit ask with
      | none => findAllConnector mConnectors connectors
      | some ids =>
          findAllConnector
            (if mConnectors.any fun x => x.1.mId = con.mId then mConnectors
              else mConnectors ++ [(con, ids)]) connectors

/-- The search of `DiscoveryDisplay`; `none` is a null pointer followed. -/
def findAll (a : KmsAnswers) : Option KmsObjects := do
  let crtcs ← initCrtcs a.crtcs
  let connectors ← findAllConnector [] a.connectors
  let planes ← findAllPlane a.planes
  return { crtcs, connectors, planes }

namespace KmsObjects

/-- The ids an object has found, from where the device keeps it. -/
def ids (o : KmsObjects) : DrmObj → PropIds
  | .plane id => ((o.planes.find? fun x => x.1.mId = id).map Prod.snd).getD fun _ => 0
  | .crtc id => (((o.crtcs.filterMap fun x => x).find? fun x => x.1 = id).map Prod.snd).getD fun _ => 0
  | .connector id => ((o.connectors.find? fun x => x.1.mId = id).map Prod.snd).getD fun _ => 0

end KmsObjects

/-- The device answers every question about its objects by the truth, or not at all. -/
structure KmsDevice.TellsAll (K : KmsDevice) (a : KmsAnswers) : Prop where
  crtcs : ∀ x ∈ a.crtcs, ∀ y ∈ x, K.Tells (.crtc y.1) y.2
  connectors : ∀ x ∈ a.connectors, ∀ y ∈ x, K.Tells (.connector y.1.mId) y.2.2
  planes : ∀ x ∈ a.planes, ∀ y ∈ x, K.Tells (.plane y.1.planeId) y.2

/-! ## Requests -/

/-- The plane has found the ids of its place and its size. -/
def Placed (ids : PropIds) : Prop := ∀ prop ∈ PropName.geometry, ids prop.name ≠ 0

/-- What the device makes of a request. -/
structure Spoken (K : KmsDevice) (ids : DrmObj → PropIds) (c : Commit) : Prop where
  either : K.reads (c.pset.lowered ids) = some c.pset.meant ∨ K.reads (c.pset.lowered ids) = none
  exact : (∀ q, (∃ e ∈ c.pset, e.obj = .plane q) → Placed (ids (.plane q))) →
    K.reads (c.pset.lowered ids) = some c.pset.meant
  refused : ∀ q, c.pset.values (.plane q) .fbId ≠ [] → ¬ Placed (ids (.plane q)) →
    K.reads (c.pset.lowered ids) = none

/-- The ids of a plane are right where they have been found, and those it cannot do
without have been. -/
structure KmsDevice.KnowsPlane (K : KmsDevice) (ids : PropIds) (q : Nat) : Prop where
  found : ∀ prop ∈ PropName.ofPlane, prop ∉ PropName.geometry → K.Right (.plane q) ids prop.name
  either : ∀ prop ∈ PropName.ofPlane, ids prop.name = 0 ∨ K.Right (.plane q) ids prop.name

def KmsDevice.KnowsCrtc (K : KmsDevice) (ids : PropIds) (q : Nat) : Prop :=
  ∀ prop ∈ PropName.ofCrtc, K.Right (.crtc q) ids prop.name

def KmsDevice.KnowsConnector (K : KmsDevice) (ids : PropIds) (q : Nat) : Prop :=
  K.Right (.connector q) ids "CRTC_ID"

/-- The ids of all a display puts into requests. -/
structure Outfitted (K : KmsDevice) (ids : DrmObj → PropIds) (disp : HdiDisplay)
    (planes : List DrmPlane) : Prop where
  planes : ∀ q ∈ planes, K.KnowsPlane (ids (.plane q.mId)) q.mId
  crtc : K.KnowsCrtc (ids (.crtc disp.mCrtc.mId)) disp.mCrtc.mId
  connector : K.KnowsConnector (ids (.connector disp.mConnector.mId)) disp.mConnector.mId

section
variable {K : KmsDevice} {ids : DrmObj → PropIds} {w : World} {p : Parts} {a : FrameAnswers}
  {c : Commit}

/-- An entry of a display that is equipped has the right id, but for the place and the
size of a plane that has not found it. -/
theorem Outfitted.entry (h : Outfitted K ids w.disp p.comp.allPlanes) (hc : MadeOf w p a c)
    {e : PropValue} (he : e ∈ c.pset) :
    K.Right e.obj (ids e.obj) e.prop.name ∨
      (∃ q, e.obj = .plane q) ∧ e.prop ∈ PropName.geometry ∧ ids e.obj e.prop.name = 0 := by
  rcases hc.entry he with ⟨s, drmPlane, hmem, hobj, hprop⟩ | ⟨hobj, hprop⟩ | ⟨hobj, hprop⟩
  · have hknows := h.planes drmPlane (HdiDrmComposition.mem_allPlanes hmem)
    rw [hobj]
    by_cases hgeom : e.prop ∈ PropName.geometry
    · rcases hknows.either _ hprop with hzero | hright
      · exact Or.inr ⟨⟨_, rfl⟩, hgeom, hzero⟩
      · exact Or.inl hright
    · exact Or.inl (hknows.found _ hprop hgeom)
  · rw [hobj]
    exact Or.inl (h.crtc _ hprop)
  · rw [hobj, hprop]
    exact Or.inl h.connector

theorem Outfitted.spoken (h : Outfitted K ids w.disp p.comp.allPlanes) (hc : MadeOf w p a c) :
    Spoken K ids c := by
  refine ⟨?_, fun hplaced => ?_, fun q hfb hno => ?_⟩
  · by_cases hzero : ∃ e ∈ c.pset, ids e.obj e.prop.name = 0
    · obtain ⟨e, he, hzero⟩ := hzero
      exact Or.inr (AtomicReq.reads_zero he hzero)
    · refine Or.inl (AtomicReq.reads_lowered fun e he => ?_)
      exact (h.entry hc he).resolve_right fun hbad => hzero ⟨e, he, hbad.2.2⟩
  · refine AtomicReq.reads_lowered fun e he => ?_
    rcases h.entry hc he with hright | ⟨⟨q, hobj⟩, hgeom, hzero⟩
    · exact hright
    · rw [hobj] at hzero
      exact absurd hzero (hplaced q ⟨e, he, hobj⟩ _ hgeom)
  · unfold Placed at hno
    push Not at hno
    obtain ⟨prop, hgeom, hzero⟩ := hno
    obtain ⟨e, he, hobj, rfl⟩ := hc.placed hfb prop hgeom
    exact AtomicReq.reads_zero he (by rw [hobj, hzero])

/-- An operation of a display that is equipped asks for nothing else. -/
theorem Outfitted.step (h : WellFormed w) (hp : p.Of w) (heq : Outfitted K ids w.disp p.comp.allPlanes)
    (hlog : ∀ c ∈ commits w.drm.log, Spoken K ids c) (op : Op) :
    Post (QemuHal.step op) w
      (fun _ w' => (∀ c ∈ commits w'.drm.log, Spoken K ids c) ∧
        ∃ p' : Parts, p'.Of w' ∧ Outfitted K ids w'.disp p'.comp.allPlanes)
      (fun _ w' => ∀ c ∈ commits w'.drm.log, Spoken K ids c) := by
  have hspoken : ∀ w', w.OnlyNew (fun c => ∃ a, MadeOf w p a c) w' →
      ∀ c ∈ commits w'.drm.log, Spoken K ids c := by
    intro w' hnew c hc
    rcases hnew.mem hc with hold | ⟨a, hmade⟩
    · exact hlog c hold
    · exact heq.spoken hmade
  refine (((step_madeOf h hp op).and (hasPlanes_step h ⟨p, hp, rfl⟩ op)).and
    (step_drives w op)).mono ?_
    (fun _ w' hw' => hspoken w' hw'.1.1)
  rintro r w' ⟨⟨hnew, p', hp', hplanes⟩, hcrtc, hconn⟩
  refine ⟨hspoken w' hnew, p', hp', ?_, ?_, ?_⟩
  · rw [hplanes]
    exact heq.planes
  · rw [hcrtc]
    exact heq.crtc
  · rw [hconn]
    exact heq.connector

end

/-! ## What is found -/

section
variable {K : KmsDevice}

theorem initCrtcs_tells : ∀ {answers : List (Option (Nat × ObjectAnswers))},
    (∀ x ∈ answers, ∀ y ∈ x, K.Tells (.crtc y.1) y.2) →
    ∃ crtcs, initCrtcs answers = some crtcs ∧
      ∀ x ∈ crtcs, ∀ y ∈ x, K.KnowsCrtc y.2 y.1
  | [], _ => ⟨[], rfl, by simp⟩
  | none :: answers, h => by
      obtain ⟨crtcs, heq, hall⟩ := initCrtcs_tells fun x hx => h x (List.mem_cons_of_mem _ hx)
      refine ⟨none :: crtcs, by simp [initCrtcs, heq], fun x hx y hy => ?_⟩
      rcases List.mem_cons.1 hx with rfl | hx
      · exact absurd hy (by simp)
      · exact hall x hx y hy
  | some (id, ask) :: answers, h => by
      obtain ⟨ids, hids, hright⟩ := KmsDevice.crtcInit_tells (h _ List.mem_cons_self (id, ask) rfl)
      obtain ⟨crtcs, heq, hall⟩ := initCrtcs_tells fun x hx => h x (List.mem_cons_of_mem _ hx)
      refine ⟨(ids.map fun ids => (id, ids)) :: crtcs, by simp [initCrtcs, heq, hids],
        fun x hx y hy => ?_⟩
      rcases List.mem_cons.1 hx with rfl | hx
      · obtain ⟨ids', hids', rfl⟩ := Option.map_eq_some_iff.1 hy
        intro prop hprop
        refine hright ids' hids' prop.name ?_
        simp only [PropName.ofCrtc, List.mem_cons, List.not_mem_nil, or_false] at hprop
        rcases hprop with rfl | rfl | rfl <;> simp [PropName.name]
      · exact hall x hx y hy

theorem findAllConnector_tells : ∀ {answers : List (Option (DrmConnector × Bool × ObjectAnswers))}
    {mConnectors : List (DrmConnector × PropIds)},
    (∀ x ∈ answers, ∀ y ∈ x, K.Tells (.connector y.1.mId) y.2.2) →
    (∀ x ∈ mConnectors, K.KnowsConnector x.2 x.1.mId) →
    ∃ found, findAllConnector mConnectors answers = some found ∧
      ∀ x ∈ found, K.KnowsConnector x.2 x.1.mId
  | [], mConnectors, _, hall => ⟨mConnectors, rfl, hall⟩
  | none :: answers, _, h, hall => by
      have hrest : ∀ x ∈ answers, ∀ y ∈ x, K.Tells (.connector y.1.mId) y.2.2 :=
        fun x hx => h x (List.mem_cons_of_mem _ hx)
      have hfound := findAllConnector_tells hrest hall
      exact hfound
  | some (_, false, _) :: answers, _, h, hall => by
      have hrest : ∀ x ∈ answers, ∀ y ∈ x, K.Tells (.connector y.1.mId) y.2.2 :=
        fun x hx => h x (List.mem_cons_of_mem _ hx)
      have hfound := findAllConnector_tells hrest hall
      exact hfound
  | some (con, true, ask) :: answers, mConnectors, h, hall => by
      have hrest : ∀ x ∈ answers, ∀ y ∈ x, K.Tells (.connector y.1.mId) y.2.2 :=
        fun x hx => h x (List.mem_cons_of_mem _ hx)
      obtain ⟨ids, hids, hright⟩ :=
        KmsDevice.connectorInit_tells (h _ List.mem_cons_self (con, true, ask) rfl)
      rw [findAllConnector, hids]
      cases ids with
      | none => exact findAllConnector_tells hrest hall
      | some ids =>
          refine findAllConnector_tells hrest fun x hx => ?_
          split at hx
          · exact hall x hx
          · rcases List.mem_append.1 hx with hx | hx
            · exact hall x hx
            · rw [List.mem_singleton.1 hx]
              exact hright ids rfl

theorem KmsDevice.KeepsPlane.knows {plane : DrmPlane} {ids : PropIds}
    (h : K.KeepsPlane plane ids) : K.KnowsPlane ids plane.mId := by
  refine ⟨fun prop hprop hgeom => h.found _ ?_, fun prop _ => h.either _⟩
  simp only [PropName.ofPlane, List.mem_cons, List.not_mem_nil, or_false] at hprop
  rcases hprop with rfl | rfl | rfl | hprop
  · simp [PropName.name]
  · simp [PropName.name]
  · simp [PropName.name]
  · exact absurd hprop (by simpa [PropName.geometry] using hgeom)

/-- The ids of every object that is kept are known under its number. -/
structure KmsObjects.Known (K : KmsDevice) (o : KmsObjects) : Prop where
  crtcs : ∀ x ∈ o.crtcs, ∀ y ∈ x, K.KnowsCrtc (o.ids (.crtc y.1)) y.1
  connectors : ∀ x ∈ o.connectors, K.KnowsConnector (o.ids (.connector x.1.mId)) x.1.mId
  planes : ∀ x ∈ o.planes, K.KnowsPlane (o.ids (.plane x.1.mId)) x.1.mId

/-- What is known of all that is found under their keys is known of what a key finds. -/
theorem find?_known {α β : Type} (f : α → Nat) (g : α → β) {P : β → Nat → Prop} {l : List α}
    (h : ∀ x ∈ l, P (g x) (f x)) {x : α} (hx : x ∈ l) (other : β) :
    P (((l.find? fun y => f y = f x).map g).getD other) (f x) := by
  cases hfind : l.find? fun y => f y = f x with
  | none => exact absurd (List.find?_eq_none.1 hfind x hx) (by simp)
  | some y =>
      have hkey : f y = f x := by simpa using List.find?_some hfind
      rw [← hkey]
      exact h y (List.mem_of_find?_eq_some hfind)

/-- **The search.** On a device that tells the truth it follows no null pointer, and every
id it comes to is right. -/
theorem findAll_tells {a : KmsAnswers} (h : K.TellsAll a) :
    ∃ o, findAll a = some o ∧ o.Known K := by
  obtain ⟨crtcs, hcrtcs, hknown⟩ := initCrtcs_tells h.crtcs
  obtain ⟨connectors, hconnectors, hknown'⟩ :=
    findAllConnector_tells h.connectors fun x hx => absurd hx List.not_mem_nil
  obtain ⟨planes, hplanes, -, hkept⟩ := KmsDevice.findAllPlane_tells h.planes
  refine ⟨⟨crtcs, connectors, planes⟩, ?_, fun x hx y hy => ?_, fun x hx => ?_, fun x hx => ?_⟩
  · simp [findAll, hcrtcs, hconnectors, hplanes]
  · have hmem : y ∈ crtcs.filterMap fun x => x := List.mem_filterMap.2 ⟨x, hx, hy⟩
    refine find?_known Prod.fst Prod.snd (P := fun ids q => K.KnowsCrtc ids q)
      (fun z hz => ?_) hmem _
    obtain ⟨x', hx', hz'⟩ := List.mem_filterMap.1 hz
    exact hknown x' hx' z hz'
  · exact find?_known (fun x : DrmConnector × PropIds => x.1.mId) Prod.snd
      (P := fun ids q => K.KnowsConnector ids q) hknown' hx _
  · exact find?_known (fun x : DrmPlane × PropIds => x.1.mId) Prod.snd
      (P := fun ids q => K.KnowsPlane ids q) (fun x hx => (hkept x hx).knows) hx _

end

/-! ## Sessions -/

/-- Every display is equipped, and of every request it is known what the device makes of
it. -/
structure Understood (K : KmsDevice) (ids : DrmObj → PropIds) (s : HdiSession) : Prop where
  equipped : ∀ devId disp, s.mHdiDisplays devId = some disp →
    ∃ p : Parts, p.Of (s.world disp) ∧ Outfitted K ids disp p.comp.allPlanes
  log : ∀ c ∈ commits s.drm.log, Spoken K ids c

section
variable {K : KmsDevice} {ids : DrmObj → PropIds} {s : HdiSession}

/-- The session with a display that is equipped. -/
theorem Understood.store (h : Understood K ids s) {devId : Nat} {w : World}
    (hw : ∃ p : Parts, p.Of w ∧ Outfitted K ids w.disp p.comp.allPlanes)
    (hlog : ∀ c ∈ commits w.drm.log, Spoken K ids c) : Understood K ids (s.store devId w) := by
  refine ⟨fun other disp hdisp => ?_, hlog⟩
  by_cases hne : other = devId
  · subst hne
    obtain rfl := HdiSession.store_self hdisp
    exact hw
  · rw [HdiSession.store_other hne] at hdisp
    obtain ⟨p, hp, heq⟩ := h.equipped other disp hdisp
    exact ⟨p, hp.shared rfl, heq⟩

/-- **A call.** -/
theorem Understood.step (hco : Coexist s) (h : Understood K ids s) (call : Call) :
    Post (sessionStep call) s (fun _ s' => Coexist s' ∧ Understood K ids s')
      (fun _ s' => ∀ c ∈ commits s'.drm.log, Spoken K ids c) := by
  have hcall : Post (sessionStep call) s (fun _ s' => Understood K ids s')
      (fun _ s' => ∀ c ∈ commits s'.drm.log, Spoken K ids c) := by
    cases call with
    | display devId op =>
        refine callDisplayFunction_post (fun _ => h) fun disp hfind => ?_
        have hdisp := (find_some hfind).1
        obtain ⟨p, hp, heq⟩ := h.equipped devId disp hdisp
        exact (Outfitted.step (hco.wellFormed devId disp hdisp) hp heq h.log op).mono
          (fun _ w hw => h.store hw.2 hw.1) (fun _ _ hw => hw)
    | regDisplayVBlankCallback devId cb =>
        unfold sessionStep
        exact callVsyncWorker_post (fun _ => h) fun _ _ => ⟨h.equipped, h.log⟩
    | setDisplayVsyncEnabled devId enabled =>
        unfold sessionStep
        exact callVsyncWorker_post (fun _ => h) fun _ _ => ⟨h.equipped, h.log⟩
  exact ((hco.step call).and hcall).mono (fun _ _ hs => hs) (fun _ _ hs => hs.2)

end

/-! ## Discovery -/

/-- The objects a display may still be given are known, like those of the displays. -/
structure Discovery.Understood (K : KmsDevice) (ids : DrmObj → PropIds) (s : Discovery) : Prop where
  planes : ∀ p ∈ s.mPlanes, K.KnowsPlane (ids (.plane p.mId)) p.mId
  crtcs : ∀ c ∈ s.mCrtcs, K.KnowsCrtc (ids (.crtc c.mId)) c.mId
  session : QemuHal.Understood K ids s.session

section
variable {K : KmsDevice} {ids : DrmObj → PropIds} {mEncoders : List DrmEncoder} {s : Discovery}
  {con : DrmConnector} {a : InitAnswers}

/-- **A turn of discovery** equips the display it brings up. -/
theorem discoverDisplay_understood (h : s.SideBySide mEncoders) (hu : s.Understood K ids)
    (hcon : K.KnowsConnector (ids (.connector con.mId)) con.mId)
    (hsuits : Suits mEncoders s (con, a)) (hoff : Unheld mEncoders s (con, a)) :
    Post (discoverDisplay mEncoders (con, a)) s (fun _ s' => s'.Understood K ids)
      (fun e _ => e = .diverges) := by
  cases hoffer : con.offer mEncoders s.mCrtcs with
  | none => exact post_of_ok (discoverDisplay_none hoffer) hu
  | some crtc =>
      have hinit := (drmDisplayInit_outcome (w := s.world { mConnector := con, mCrtc := crtc }) a).and
        (post_self _ _)
      refine discoverDisplay_post h.sound hoffer (hinit.mono ?_ fun e _ he => he.1.1)
      rintro ret w ⟨⟨id, ids', hid, hiff, hup⟩, hrun⟩
      obtain ⟨-, hinits⟩ := hsuits crtc hoffer id ids' hid
      obtain rfl : ret = .success := hiff.2 hinits
      have htaken := hoff crtc hoffer
      have hnew : (s.world { mConnector := con, mCrtc := crtc }).disp.New :=
        ⟨rfl, rfl, fun _ => rfl, fun _ => rfl, rfl⟩
      obtain ⟨v, p, ret, hprimed, happ⟩ := drmDisplayInit_primed hnew h.drm h.nodup
        (fun p hp ht => h.dark p hp (htaken p hp ht)) hrun
      obtain ⟨hmId, -⟩ := (hup rfl).mCrtc_eq hinits.mode
      have hmCrtc : w.disp.mCrtc.mId = crtc.mId := hmId
      have hmConnector : w.disp.mConnector = con := (hup rfl).mConnector
      have hsteady := ((isSteady_apply _ _).of_ok happ).disp
      -- the display has its first frame from the planes, the CRTC and the connector it was given
      have hequipped : Outfitted K ids w.disp p.comp.allPlanes := by
        refine ⟨fun q hq => ?_, ?_, ?_⟩
        · obtain ⟨y, hy, -, rfl⟩ := (hprimed.held q).1 hq
          exact hu.planes y hy
        · rw [hmCrtc]
          exact hu.crtcs crtc (DrmConnector.offer_mem hoffer)
        · rw [hmConnector]
          exact hcon
      have hbefore : Outfitted K ids v.disp p.comp.allPlanes := by
        refine ⟨hequipped.planes, ?_, ?_⟩
        · have hcrtc := hequipped.crtc
          rw [hsteady] at hcrtc
          exact hcrtc
        · have hconn := hequipped.connector
          rw [hsteady] at hconn
          exact hconn
      obtain ⟨fds, hdrm⟩ := hprimed.drm
      have hlog : ∀ c ∈ commits w.drm.log, Spoken K ids c := by
        intro c hc
        rcases ((apply_madeOf hprimed.wellFormed hprimed.of _).of_ok happ).mem hc with hold | hmade
        · rw [hdrm] at hold
          exact hu.session.log c hold
        · exact hbefore.spoken hmade
      obtain ⟨p', hp', hplanes⟩ := (hasPlanes_apply hprimed.wellFormed hprimed.of _).of_ok happ
      rw [(emplace_new h.sound hid hinits (hup rfl)).2]
      refine ⟨fun q hq => ?_, fun c hc => ?_, ?_⟩
      · have hmem : q ∈ w.planes := hq
        rw [(hprimed.joins happ).planes] at hmem
        obtain ⟨y, hy, rfl⟩ := List.mem_map.1 hmem
        have hid : (if takes crtc.mPipe y then y.bindToPipe crtc.mPipe else y).mId = y.mId := by
          split <;> rfl
        show K.KnowsPlane (ids (.plane (if takes crtc.mPipe y then y.bindToPipe crtc.mPipe else y).mId))
          (if takes crtc.mPipe y then y.bindToPipe crtc.mPipe else y).mId
        rw [hid]
        exact hu.planes y hy
      · obtain ⟨y, hy, rfl⟩ := List.mem_map.1 hc
        split
        · rw [hmCrtc]
          exact hu.crtcs crtc (DrmConnector.offer_mem hoffer)
        · exact hu.crtcs y hy
      · refine hu.session.store (w := w) ⟨p', hp', ?_⟩ hlog
        rw [hplanes]
        exact hequipped

end

/-- A CRTC of the map is one the kernel has listed. -/
theorem findAllCrtc_listed {res : List (Option Nat)} :
    ∀ {i : Nat} {mCrtcs : List DrmCrtc} {c : DrmCrtc}, c ∈ findAllCrtc i mCrtcs res →
      c ∈ mCrtcs ∨ some c.mId ∈ res := by
  induction res with
  | nil => exact fun h => Or.inl h
  | cons answer res ih =>
      intro i mCrtcs c h
      cases answer with
      | none => exact (ih h).imp_right (List.mem_cons_of_mem _)
      | some crtcId =>
          rcases ih h with hmem | hmem
          · split at hmem
            · exact Or.inl hmem
            · rcases List.mem_cons.1 hmem with rfl | hmem
              · exact Or.inr List.mem_cons_self
              · exact Or.inl hmem
          · exact Or.inr (List.mem_cons_of_mem _ hmem)

/-- The properties of a primary plane. -/
def planeProps : List KmsProperty := [
  ⟨8, "type", 1⟩, ⟨17, "FB_ID", 0⟩, ⟨1, "IN_FENCE_FD", 0⟩, ⟨20, "CRTC_ID", 0⟩,
  ⟨13, "CRTC_X", 0⟩, ⟨14, "CRTC_Y", 0⟩, ⟨15, "CRTC_W", 0⟩, ⟨16, "CRTC_H", 0⟩,
  ⟨9, "SRC_X", 0⟩, ⟨10, "SRC_Y", 0⟩, ⟨11, "SRC_W", 0⟩, ⟨12, "SRC_H", 0⟩]

/-- A primary plane that cannot be placed. -/
def barePlaneProps : List KmsProperty := [
  ⟨8, "type", 1⟩, ⟨17, "FB_ID", 0⟩, ⟨1, "IN_FENCE_FD", 0⟩, ⟨20, "CRTC_ID", 0⟩]

def crtcProps : List KmsProperty := [⟨22, "ACTIVE", 0⟩, ⟨23, "MODE_ID", 0⟩, ⟨24, "OUT_FENCE_PTR", 0⟩]

def connectorProps : List KmsProperty := [⟨2, "DPMS", 0⟩, ⟨20, "CRTC_ID", 0⟩]

/-- The device of `twoCrtcs`. Its second plane cannot be placed. -/
def twoDevice : KmsDevice where
  objs := [
    (.plane 40, planeProps), (.plane 43, barePlaneProps), (.crtc 33, crtcProps),
    (.crtc 34, crtcProps), (.connector 31, connectorProps), (.connector 36, connectorProps)]
  ids := by decide
  propIds := by decide
  names := by decide
  nonzero := by decide

def twoAnswers : KmsAnswers where
  crtcs := [
    some (33, fun _ => some (crtcProps.map some)), some (34, fun _ => some (crtcProps.map some))]
  connectors := [
    some (connectorOn 31 32, true, fun _ => some (connectorProps.map some)),
    some (connectorOn 36 35, true, fun _ => some (connectorProps.map some))]
  planes := [
    some (⟨40, 1⟩, fun _ => some (planeProps.map some)),
    some (⟨43, 2⟩, fun _ => some (barePlaneProps.map some))]

theorem twoAnswers_told : twoDevice.TellsAll twoAnswers where
  crtcs := by
    simp [twoAnswers, KmsDevice.Tells, twoDevice]
  connectors := by
    simp [twoAnswers, KmsDevice.Tells, twoDevice, connectorOn]
  planes := by
    simp [twoAnswers, KmsDevice.Tells, twoDevice]

theorem twoAnswers_found :
    ∃ o, findAll twoAnswers = some o ∧ o.planes.map Prod.fst = twoCrtcs.mPlanes ∧
      o.crtcs.map (Option.map Prod.fst) = [some 33, some 34] ∧
      o.connectors.map Prod.fst = [connectorOn 31 32, connectorOn 36 35] := by
  have hfound : (findAll twoAnswers).map (fun o => (o.planes.map Prod.fst,
      o.crtcs.map (Option.map Prod.fst), o.connectors.map Prod.fst)) =
      some (twoCrtcs.mPlanes, [some 33, some 34], [connectorOn 31 32, connectorOn 36 35]) := by
    decide +kernel
  obtain ⟨o, ho, heq⟩ := Option.map_eq_some_iff.1 hfound
  exact ⟨o, ho, congrArg Prod.fst heq, congrArg (fun x => x.2.1) heq, congrArg (fun x => x.2.2) heq⟩

end QemuHal
