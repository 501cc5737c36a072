import QemuHal.Core.Coexistence
import QemuHal.Core.Nulls

/-!
# From discovery to a session

Each turn of `DiscoveryDisplay` brings a display up over the state the displays before it
have left. When no plane it takes is held by one of them, the new display joins the others;
so the displays of a session live side by side from its start on.
-/

namespace QemuHal

open Exec

/-! ## `Init` over a shared state -/

/-- The planes a new composition has are those it has taken. -/
theorem mem_init_allPlanes {pipe : UInt32} {mPlanes planes : List DrmPlane} {c : HdiDrmComposition}
    (h : HdiDrmComposition.init pipe mPlanes = (.success, c, planes)) {q : DrmPlane} :
    q ∈ c.allPlanes ↔ ∃ p ∈ mPlanes, takes pipe p = true ∧ q = p.bindToPipe pipe := by
  have hc : c.mPlanes = (HdiDrmComposition.init pipe mPlanes).2.1.mPrimPlanes ++
      (HdiDrmComposition.init pipe mPlanes).2.1.mOverlayPlanes ∧
      c.mCursorPlanes = (HdiDrmComposition.init pipe mPlanes).2.1.mCursorPlanes := by
    rw [h]
    unfold HdiDrmComposition.init at h
    dsimp only at h
    split at h
    · exact absurd (congrArg Prod.fst h) (by simp)
    · simp only [Prod.mk.injEq, true_and] at h
      obtain ⟨rfl, -⟩ := h
      exact ⟨rfl, rfl⟩
  unfold HdiDrmComposition.allPlanes
  rw [hc.1, hc.2, mem_init_planes]

/-- **`Init` up to the first frame**, with the planes. -/
theorem drmDisplayInit_primes (w : World) (a : InitAnswers) :
    Post (drmDisplayInit a) w
      (fun r w' => r = .success → ∃ (w₁ : World) (c : HdiDrmComposition) (mode : DrmMode) (d : Drm)
          (buffer : BufferHandle) (ret : DispStatus),
        HdiDrmComposition.init w.disp.mCrtc.mPipe w.planes = (.success, c, w₁.planes) ∧
        w₁.drm = w.drm ∧
        w₁.disp = { w.disp with
          mId := w₁.disp.mId
          mClientLayer := some {}
          mCursorLayer := some {}
          mComposer := w₁.disp.mComposer
          mCrtc := w₁.disp.mCrtc } ∧
        w.drm.allocMem mode a.allocMem = (some buffer, d) ∧
        apply a.firstFrame (w₁.primed c d buffer a.dup) = .ok ret w')
      (fun _ _ => True) := by
  unfold drmDisplayInit
  rw [post_bind]
  refine (hdiDisplayInit_post w).mono ?_ (fun _ _ _ => trivial)
  intro r w' hr
  split
  · simp
  · next hsucc =>
      obtain ⟨ids, id, rfl⟩ := hr (not_not.1 hsucc)
      split
      · simp
      · simp only [post_bind, post_get]
        rcases hinit : HdiDrmComposition.init w.disp.mCrtc.mPipe w.planes with ⟨ret, c, planes⟩
        dsimp only
        simp only [post_set]
        split
        · simp
        · next hok =>
            obtain rfl := not_not.1 hok
            simp only [setTheComposition, post_bind, post_modify, post_get, post_set]
            split
            · simp
            · refine (chosePreferenceMode_post (c := c) rfl rfl a).mono ?_ (fun _ _ _ => trivial)
              intro r w' hpush hr
              obtain ⟨mCrtc, mode, d, buffer, ret, halloc, happ⟩ := hpush hr
              refine ⟨_, c, mode, d, buffer, ret, ?_, ?_, ?_, halloc, happ⟩ <;> rfl

/-- A record `DiscoveryDisplay` has just constructed. -/
structure HdiDisplay.New (disp : HdiDisplay) : Prop where
  mComposer : disp.mComposer = none
  mLayers : disp.mLayers = []
  mLayersMap : ∀ id, disp.mLayersMap id = none
  layers : ∀ n, disp.layers n = none
  mChangeLayers : disp.mChangeLayers = []

/-- A plane that has been dark from the start. -/
def Dark (q : Nat) (log : List DrmCall) : Prop := FbKept q log ∧ NeverAsked q log

/-- A display whose first frame is about to be run: it is in order, owns nothing yet, and its
planes are those `Init` took. -/
structure PrimedBy (w₀ v : World) (p : Parts) : Prop where
  wellFormed : WellFormed v
  of : p.Of v
  primed : Primed p v.drm
  unowned : ∀ s b, ¬ (p.layer s).Owns b
  drm : ∃ fds, v.drm = { w₀.drm with fds }
  planes : v.planes = w₀.planes.map fun p =>
    if takes w₀.disp.mCrtc.mPipe p then p.bindToPipe w₀.disp.mCrtc.mPipe else p
  held : ∀ q, q ∈ p.comp.allPlanes ↔
    ∃ p ∈ w₀.planes, takes w₀.disp.mCrtc.mPipe p = true ∧ q = p.bindToPipe w₀.disp.mCrtc.mPipe

theorem drmDisplayInit_primed {w₀ w : World} {a : InitAnswers} (hnew : w₀.disp.New)
    (hsound : w₀.drm.Sound) (hnodup : (w₀.planes.map DrmPlane.mId).Nodup)
    (hdark : ∀ p ∈ w₀.planes, takes w₀.disp.mCrtc.mPipe p = true → Dark p.mId w₀.drm.log)
    (hinit : drmDisplayInit a w₀ = .ok .success w) :
    ∃ v p ret, PrimedBy w₀ v p ∧ apply a.firstFrame v = .ok ret w := by
  obtain ⟨w₁, c, mode, d, buffer, ret, hplanes, hdrm, hdisp, halloc, happ⟩ :=
    (drmDisplayInit_primes w₀ a).of_ok hinit rfl
  obtain ⟨fds, rfl⟩ := allocMem_frame halloc
  obtain ⟨fds', hbuf⟩ := HdiLayerBuffer.new_frame { w₀.drm with fds := fds } buffer a.dup.buffer
  have hspec := HdiDrmComposition.init_spec hplanes
  -- `Init` has seen no more than the planes it has taken
  have hfresh : Fresh { w₀ with planes := w₀.planes.filter (takes w₀.disp.mCrtc.mPipe) } := {
    mComposer := hnew.mComposer
    mLayers := hnew.mLayers
    mLayersMap := hnew.mLayersMap
    layers := hnew.layers
    mChangeLayers := hnew.mChangeLayers
    sound := hsound
    distinctPlanes := hnodup.sublist (List.filter_sublist.map DrmPlane.mId)
    dark := by
      intro p hp _
      obtain ⟨hp, ht⟩ := List.mem_filter.1 hp
      exact hdark p hp ht }
  have hc : c.InitSpec (w₀.planes.filter (takes w₀.disp.mCrtc.mPipe)) := by
    refine ⟨hspec.empty, hspec.nonempty, fun _ => hspec.distinct hnodup, fun q hq => ?_⟩
    obtain ⟨p, hp, ht, rfl⟩ := (mem_init_allPlanes hplanes).1 hq
    refine ⟨p, List.mem_filter.2 ⟨hp, ht⟩, rfl, ?_⟩
    unfold takes at ht
    exact (Bool.and_eq_true_iff.1 ht).1
  have hcursor : w₁.disp.mCursorLayer = some {} := by rw [hdisp]
  have hwf : WellFormed (w₁.primed c { w₀.drm with fds := fds } buffer a.dup) :=
    primed_wellFormed hfresh hc ⟨fds, rfl⟩ hdisp
  have hp := primedParts_of c { w₀.drm with fds := fds } buffer a.dup hcursor
  generalize hparts : c.primedParts
    (HdiLayerBuffer.new { w₀.drm with fds := fds } buffer a.dup.buffer).1 = p at hp
  have hdrm' : (w₁.primed c { w₀.drm with fds := fds } buffer a.dup).drm =
      { w₀.drm with fds := fds' } := hbuf
  have hall : p.comp.allPlanes = c.allPlanes := by
    rw [← hparts]
    rfl
  have hno : ∀ s b, ¬ (p.layer s).Owns b := by
    intro s b hb
    rw [← hparts] at hb
    cases s <;> rcases hb with hb | hb <;> exact absurd hb (by simp [HdiDrmComposition.primedParts])
  have hprimed : Primed p (w₁.primed c { w₀.drm with fds := fds } buffer a.dup).drm := by
    refine ⟨fun s => ?_, fun s => ?_, ?_, fun s q hq => ?_⟩
    · rw [← hparts]
      cases s <;> exact ⟨rfl, rfl⟩
    · rw [← hparts]
      show ({ c with mCompLayers := [.client] } : HdiDrmComposition).lastGem s = none
      rw [hspec.empty]
      cases s <;> rfl
    · rw [← hparts]
      show c.mCursorLayers = []
      rw [hspec.empty]
    · obtain ⟨x, hx, rfl⟩ := List.mem_map.1 hq
      obtain ⟨y, hy, ht, rfl⟩ := (mem_init_allPlanes hplanes).1
        (hall ▸ HdiDrmComposition.mem_allPlanes hx)
      rw [hdrm']
      exact hdark y hy ht
  refine ⟨_, p, ret, ⟨hwf, hp, hprimed, hno, ⟨fds', hdrm'⟩, ?_, fun q => ?_⟩, happ⟩
  · show w₁.planes = _
    rw [← init_mPlanes, hplanes]
  · rw [hall, mem_init_allPlanes hplanes]

/-- What a display has come to when its first frame has been run: it is in order, its
planes are those `Init` took, and every display apart from it has come through. -/
structure JoinedBy (w₀ w : World) : Prop where
  wellFormed : WellFormed w
  scan : ∀ slot, ScannedOut slot w
  planes : w.planes = w₀.planes.map fun p =>
    if takes w₀.disp.mCrtc.mPipe p then p.bindToPipe w₀.disp.mCrtc.mPipe else p
  held : ∀ c, w.disp.mComposer = some c → ∀ q, q ∈ c.allPlanes ↔
    ∃ p ∈ w₀.planes, takes w₀.disp.mCrtc.mPipe p = true ∧ q = p.bindToPipe w₀.disp.mCrtc.mPipe
  beside : ∀ o : Parts, o.Good w₀.drm →
    (∀ p ∈ w₀.planes, takes w₀.disp.mCrtc.mPipe p = true → ∀ y ∈ o.comp.allPlanes, p.mId ≠ y.mId) →
    w.BesideOf o w₀.drm

theorem PrimedBy.joins {w₀ v w : World} {p : Parts} (h : PrimedBy w₀ v p) {a : FrameAnswers}
    {ret : DispStatus} (happ : apply a v = .ok ret w) : JoinedBy w₀ w := by
  obtain ⟨fds, hdrm⟩ := h.drm
  have hsteady : w.planes = v.planes := by
    rw [((isSteady_apply a _).of_ok happ).world]
  refine ⟨(h.wellFormed.apply a).of_ok happ, fun slot => ?_, ?_, fun c hc q => ?_,
    fun o ho hoff => ?_⟩
  · exact (ScannedOut.apply h.wellFormed h.of (h.primed.scanout slot)
      (h.primed.spares a slot)).of_ok happ
  · rw [hsteady, h.planes]
  · obtain ⟨p', hp', hsame⟩ := (hasPlanes_apply h.wellFormed h.of a).of_ok happ
    obtain rfl := Option.some.inj (hp'.comp.symm.trans hc)
    rw [hsame, h.held]
  · have hapart : p.Apart o := by
      refine ⟨fun s t b hb => absurd hb (h.unowned s b), fun x hx y hy => ?_⟩
      obtain ⟨z, hz, ht, rfl⟩ := (h.held x).1 hx
      exact hoff z hz ht y hy
    have hbase : Beside o w₀.drm w₀ p := Beside.refl hapart ho
    refine (BesideOf.apply h.wellFormed h.of (hbase.still hapart ?_ ?_ ?_ ?_) a).of_ok happ
    all_goals rw [hdrm]
    exact fun _ hk => hk

/-! ## Planes nobody holds -/

/-- A plane by itself, as a display that owns nothing. -/
def DrmPlane.alone (y : DrmPlane) : Parts where
  comp := { mPlanes := [y], mCompLayers := [.client] }
  layer := fun _ => { mHdiBuffer := some ⟨⟨0, 0, 0, 0, 0, 0⟩, 0, 0, 0, 0, 0, -1⟩ }

theorem DrmPlane.alone_good (y : DrmPlane) (d : Drm) : y.alone.Good d := by
  refine ⟨rfl, Or.inl rfl, by simp [alone], by simp [alone], by simp [alone], by simp [alone],
    fun s => by cases s <;> rfl, fun s b hb => ?_, fun s b hb => ?_, fun s s' b hb => ?_,
    fun s b hb => ?_⟩
  · rcases hb with hb | hb <;> exact absurd hb (by simp [alone])
  · exact absurd hb (by simp [alone])
  · rcases hb with hb | hb <;> exact absurd hb (by simp [alone])
  · cases s <;> exact absurd hb (by simp [alone, HdiDrmComposition.lastGem])

/-- A dark plane stays dark beside a display. -/
theorem DrmPlane.alone_dark {y : DrmPlane} {d₀ : Drm} {w : World} (h : w.BesideOf y.alone d₀)
    (hdark : Dark y.mId d₀.log) : Dark y.mId w.drm.log := by
  obtain ⟨p, -, hb⟩ := h
  have hprimed : Primed y.alone d₀ := by
    refine ⟨fun s => ⟨rfl, rfl⟩, fun s => by cases s <;> rfl, rfl, fun s q hq => ?_⟩
    obtain ⟨x, hx, rfl⟩ := List.mem_map.1 hq
    cases s with
    | primary =>
        obtain rfl : x = y := by simpa [alone, HdiDrmComposition.slotPlanes] using hx
        exact hdark
    | cursor => exact absurd hx (by simp [alone, HdiDrmComposition.slotPlanes])
  refine ⟨(hb.scan .primary (hprimed.scanout .primary)).kept y.mId ?_, hb.dark y ?_ hdark.2⟩
  · simp [HdiDrmComposition.planeIds, HdiDrmComposition.slotPlanes, alone]
  · simp [HdiDrmComposition.allPlanes, alone]

/-! ## The turns of discovery -/

/-- A display has the plane. -/
def Discovery.Holds (s : Discovery) (q : Nat) : Prop :=
  ∃ devId disp c, s.mDisplays devId = some disp ∧ disp.mComposer = some c ∧
    ∃ y ∈ c.allPlanes, y.mId = q

/-- No plane the new display takes is held by an earlier one. -/
def Unheld (mEncoders : List DrmEncoder) (s : Discovery) (x : DrmConnector × InitAnswers) : Prop :=
  ∀ crtc, x.1.offer mEncoders s.mCrtcs = some crtc →
    ∀ p ∈ s.mPlanes, takes crtc.mPipe p = true → ¬ s.Holds p.mId

/-- The displays found so far live side by side, and the other planes are dark. -/
structure Discovery.SideBySide (mEncoders : List DrmEncoder) (s : Discovery) : Prop where
  sound : s.Sound
  up : DisplaysUp mEncoders s
  drm : s.drm.Sound
  nodup : (s.mPlanes.map DrmPlane.mId).Nodup
  coexist : Coexist s.session
  scan : ∀ slot, AllScannedOut slot s.session
  dark : ∀ p ∈ s.mPlanes, ¬ s.Holds p.mId → Dark p.mId s.drm.log

section
variable {mEncoders : List DrmEncoder} {s : Discovery} {con : DrmConnector} {a : InitAnswers}

/-- The device with a display that has joined the others. -/
theorem Discovery.SideBySide.entered {crtc : DrmCrtc} {w : World} (h : s.SideBySide mEncoders)
    (hnone : s.mDisplays w.disp.mId = none)
    (hoff : ∀ p ∈ s.mPlanes, takes crtc.mPipe p = true → ¬ s.Holds p.mId)
    (hjoin : JoinedBy (s.world { mConnector := con, mCrtc := crtc }) w) :
    (s.entered crtc w).drm.Sound ∧ ((s.entered crtc w).mPlanes.map DrmPlane.mId).Nodup ∧
      Coexist (s.entered crtc w).session ∧ (∀ slot, AllScannedOut slot (s.entered crtc w).session) ∧
      ∀ p ∈ (s.entered crtc w).mPlanes, ¬ (s.entered crtc w).Holds p.mId →
        Dark p.mId (s.entered crtc w).drm.log := by
  have hsession : (s.entered crtc w).session = s.session.store w.disp.mId w := rfl
  -- the displays found earlier hold none of the planes taken now
  have hspared : s.session.Spared w.disp.mId w := by
    intro other disp o _ hdisp ho
    refine hjoin.beside o ((h.coexist.wellFormed other disp hdisp).good ho) ?_
    intro p hp ht y hy he
    exact hoff p hp ht ⟨other, disp, o.comp, hdisp, ho.comp, y, hy, he.symm⟩
  refine ⟨hjoin.wellFormed.sound, ?_, ?_, fun slot => ?_, fun p hp hfree => ?_⟩
  · have hids : (s.entered crtc w).mPlanes.map DrmPlane.mId = s.mPlanes.map DrmPlane.mId := by
      show w.planes.map DrmPlane.mId = _
      rw [hjoin.planes, List.map_map]
      refine List.map_congr_left fun p _ => ?_
      simp only [Function.comp_apply]
      split <;> rfl
    rw [hids]
    exact h.nodup
  · rw [hsession]
    exact h.coexist.store hjoin.wellFormed hspared
  · rw [hsession]
    exact (h.scan slot).store (hjoin.scan slot) hspared
  · -- a plane nobody holds now has not been taken, and nobody held it before
    have hmem : p ∈ w.planes := hp
    rw [hjoin.planes] at hmem
    obtain ⟨y, hy, rfl⟩ := List.mem_map.1 hmem
    have hid : (if takes crtc.mPipe y then y.bindToPipe crtc.mPipe else y).mId = y.mId := by
      split <;> rfl
    have hfree' : ¬ (s.entered crtc w).Holds y.mId := by
      rw [← hid]
      exact hfree
    show Dark (if takes crtc.mPipe y then y.bindToPipe crtc.mPipe else y).mId w.drm.log
    rw [hid]
    obtain ⟨p', hp', -⟩ := hjoin.wellFormed.parts
    have hself : (s.entered crtc w).mDisplays w.disp.mId = some w.disp := Function.update_self ..
    have hfreeBefore : ¬ s.Holds y.mId := by
      rintro ⟨devId, disp, c, hdisp, hc, z, hz, hzid⟩
      refine hfree' ⟨devId, disp, c, ?_, hc, z, hz, hzid⟩
      have hne : devId ≠ w.disp.mId := by
        rintro rfl
        exact absurd (hnone.symm.trans hdisp) (by simp)
      exact (Function.update_of_ne hne ..).trans hdisp
    have huntaken : ∀ z ∈ s.mPlanes, takes crtc.mPipe z = true → z.mId ≠ y.mId := by
      intro z hz ht he
      exact hfree' ⟨_, w.disp, p'.comp, hself, hp'.comp, z.bindToPipe crtc.mPipe,
        (hjoin.held _ hp'.comp _).2 ⟨z, hz, ht, rfl⟩, he⟩
    refine DrmPlane.alone_dark (hjoin.beside y.alone (y.alone_good _) fun z hz ht x hx => ?_)
      (h.dark y hy hfreeBefore)
    obtain rfl : x = y := by simpa [DrmPlane.alone, HdiDrmComposition.allPlanes] using hx
    exact huntaken z hz ht

/-- **A turn of discovery** that suits its connector and takes planes nobody holds keeps the
displays side by side. -/
theorem discoverDisplay_joins (h : s.SideBySide mEncoders) (hsuits : Suits mEncoders s (con, a))
    (hoff : Unheld mEncoders s (con, a)) :
    Post (discoverDisplay mEncoders (con, a)) s (fun _ s' => s'.SideBySide mEncoders)
      (fun e _ => e = .diverges) := by
  cases hoffer : con.offer mEncoders s.mCrtcs with
  | none => exact post_of_ok (discoverDisplay_none hoffer) h
  | some crtc =>
      have hinit := (drmDisplayInit_outcome (w := s.world { mConnector := con, mCrtc := crtc }) a).and
        (post_self _ _)
      have hrest := discoverDisplay_post h.sound hoffer
        (Q := fun _ s' => s'.drm.Sound ∧ (s'.mPlanes.map DrmPlane.mId).Nodup ∧ Coexist s'.session ∧
          (∀ slot, AllScannedOut slot s'.session) ∧
          ∀ p ∈ s'.mPlanes, ¬ s'.Holds p.mId → Dark p.mId s'.drm.log)
        (E := fun e _ => e = .diverges) (hinit.mono ?_ fun e _ he => he.1.1)
      · refine ((discoverDisplay_suits h.sound h.up hsuits).and hrest).mono ?_ (fun _ _ he => he.1)
        rintro ret s' ⟨⟨hsound, -, hup, -⟩, hdrm, hnodup, hcoexist, hscan, hdark⟩
        exact ⟨hsound, hup, hdrm, hnodup, hcoexist, hscan, hdark⟩
      · rintro ret w ⟨⟨id, ids, hid, hiff, hup⟩, hrun⟩
        obtain ⟨-, hinits⟩ := hsuits crtc hoffer id ids hid
        obtain rfl : ret = .success := hiff.2 hinits
        obtain ⟨hnone, heq⟩ := emplace_new h.sound hid hinits (hup rfl)
        have htaken := hoff crtc hoffer
        have hnew : (s.world { mConnector := con, mCrtc := crtc }).disp.New :=
          ⟨rfl, rfl, fun _ => rfl, fun _ => rfl, rfl⟩
        obtain ⟨v, p, ret, hprimed, happ⟩ := drmDisplayInit_primed hnew h.drm h.nodup
          (fun p hp ht => h.dark p hp (htaken p hp ht)) hrun
        rw [heq]
        exact h.entered ((hup rfl).mId ▸ hnone) htaken (hprimed.joins happ)

end

/-- A device before discovery: nothing has been shown on its planes. -/
structure Unused (drm : Drm) (mPlanes : List DrmPlane) : Prop where
  sound : drm.Sound
  nodup : (mPlanes.map DrmPlane.mId).Nodup
  dark : ∀ p ∈ mPlanes, Dark p.mId drm.log

/-- Before discovery there is nothing to be kept apart. -/
theorem Unused.sideBySide {res : List (Option Nat)} {mCrtcs : List DrmCrtc}
    (hcrtcs : mCrtcs.Perm (findAllCrtc 0 [] res)) {drm : Drm} {mPlanes : List DrmPlane}
    (hunused : Unused drm mPlanes) (layerIds displayIds : IdPool) (mEncoders : List DrmEncoder) :
    Discovery.SideBySide mEncoders { drm, layerIds, displayIds, mPlanes, mCrtcs } := by
  refine ⟨⟨?_, by simp⟩, ⟨by simp, by simp⟩, hunused.sound, hunused.nodup, ⟨?_, ?_⟩, ?_,
    fun p hp _ => hunused.dark p hp⟩
  · exact (hcrtcs.map DrmCrtc.mId).nodup_iff.2 (findAllCrtc_nodup res 0 [] List.nodup_nil)
  · exact fun _ _ h => absurd h (by simp [Discovery.session])
  · exact fun _ _ _ _ _ _ _ h => absurd h (by simp [Discovery.session])
  · exact fun _ _ _ h => absurd h (by simp [Discovery.session])

/-- **The run of discovery.** -/
theorem discovery_sideBySide {res : List (Option Nat)} {mCrtcs : List DrmCrtc}
    (hcrtcs : mCrtcs.Perm (findAllCrtc 0 [] res)) {drm : Drm} {mPlanes : List DrmPlane}
    (hunused : Unused drm mPlanes) {layerIds displayIds : IdPool} {mEncoders : List DrmEncoder}
    {mConnectors : List (DrmConnector × InitAnswers)}
    (hall : Meets (discoverDisplay mEncoders)
      (fun s x => Suits mEncoders s x ∧ Unheld mEncoders s x)
      { drm, layerIds, displayIds, mPlanes, mCrtcs } mConnectors) :
    Post (run (discoverDisplay mEncoders) mConnectors)
      { drm, layerIds, displayIds, mPlanes, mCrtcs }
      (fun _ s => s.SideBySide mEncoders) (fun e _ => e = .diverges) :=
  run_post (fun _ _ h hx => discoverDisplay_joins h hx.1 hx.2)
    (hunused.sideBySide hcrtcs _ _ _) hall

/-! ## Sessions -/

section
variable {res : List (Option Nat)} {mCrtcs : List DrmCrtc}
  (hcrtcs : mCrtcs.Perm (findAllCrtc 0 [] res)) {drm : Drm} {mPlanes : List DrmPlane}
  (hunused : Unused drm mPlanes) {layerIds displayIds : IdPool} {mEncoders : List DrmEncoder}
  {mConnectors : List (DrmConnector × InitAnswers)}
  (hall : Meets (discoverDisplay mEncoders) (fun s x => Suits mEncoders s x ∧ Unheld mEncoders s x)
    { drm, layerIds, displayIds, mPlanes, mCrtcs } mConnectors)

include hcrtcs hunused hall

/-- **Displays stay side by side.** After a discovery in which every connector suits and
takes planes nobody holds, no run of calls, addressed to the displays in any order and with
any answers of the kernel, makes two displays own one object or hold one plane, or leaves a
display that is not well-formed. -/
theorem session_coexists (calls : List Call) :
    Post (run (discoverDisplay mEncoders) mConnectors)
      { drm, layerIds, displayIds, mPlanes, mCrtcs }
      (fun _ s => Post (run sessionStep calls) s.session (fun _ s' => Coexist s')
        (fun _ s' => Coexist s'))
      (fun e _ => e = .diverges) :=
  (discovery_sideBySide hcrtcs hunused hall).mono
    (fun _ _ h => run_invariant (fun _ call h => h.step call) h.coexist calls) (fun _ _ he => he)

end

/-! ## Two displays -/

theorem twoCrtcs_unused : Unused twoCrtcs.drm twoCrtcs.mPlanes where
  sound := (smallDisplay_fresh (by decide : [40].Nodup)).sound
  nodup := by decide
  dark := fun _ _ => ⟨trivial, by simp [twoCrtcs, smallDisplay, NeverAsked, commits]⟩

theorem twoConnectors_meet :
    Meets (discoverDisplay twoEncoders)
      (fun s x => Suits twoEncoders s x ∧ Unheld twoEncoders s x) twoCrtcs twoConnectors := by
  have hunheld : Meets (discoverDisplay twoEncoders) (Unheld twoEncoders) twoCrtcs twoConnectors := by
    rw [twoConnectors]
    refine ⟨?_, ?_⟩
    · rintro crtc - p - - ⟨devId, disp, c, hdisp, -⟩
      exact absurd hdisp (by simp [twoCrtcs])
    · rw [firstFound_eq]
      refine ⟨fun crtc hoffer p hp ht => ?_, ?_⟩
      · obtain rfl := Option.some.inj (firstFound_offer.symm.trans hoffer)
        rintro ⟨devId, disp, c, hdisp, hc, y, hy, hid⟩
        have hids : firstFound.displayIds.mIdSets = {0} := by decide +kernel
        obtain rfl : devId = 0 := by
          have hused := (firstFound_sound.used devId disp hdisp).1
          rw [hids] at hused
          exact Finset.mem_singleton.1 hused
        have hfree : ∀ disp ∈ firstFound.mDisplays 0, ∀ c ∈ disp.mComposer, ∀ y ∈ c.allPlanes,
            ∀ p ∈ firstFound.mPlanes, takes 1 p = true → y.mId ≠ p.mId := by decide +kernel
        exact hfree disp hdisp c hc y hy p hp ht hid
      · split <;> trivial
  exact twoConnectors_suit.and hunheld

/-- One frame on each of two displays. -/
def twoFrames : List Call := [
  .display 0 (.commit (frame (some 3) (some 3) (some 24))),
  .display 1 (.commit (frame (some 4) (some 4) (some 26)))]

theorem twoFrames_run :
    ∃ rets s rets' s', run (discoverDisplay twoEncoders) twoConnectors twoCrtcs = .ok rets s ∧
      Meets sessionStep (fun s call => call.Spares .primary s) s.session twoFrames ∧
      run sessionStep twoFrames s.session = .ok rets' s' ∧
      (s'.mHdiDisplays 0).isSome ∧ (s'.mHdiDisplays 1).isSome := by
  have hret : returns (run (discoverDisplay twoEncoders) twoConnectors) twoCrtcs (fun _ s =>
      decide (Meets sessionStep (fun s call => call.Spares .primary s) s.session twoFrames) &&
      returns (run sessionStep twoFrames) s.session (fun _ s' =>
        (s'.mHdiDisplays 0).isSome && (s'.mHdiDisplays 1).isSome)) = true := by
    decide +kernel
  obtain ⟨rets, s, hrun, hret⟩ := returns_iff.1 hret
  obtain ⟨hmeets, hret⟩ := Bool.and_eq_true_iff.1 hret
  obtain ⟨rets', s', hrun', hsome⟩ := returns_iff.1 hret
  exact ⟨rets, s, rets', s', hrun, of_decide_eq_true hmeets, hrun', Bool.and_eq_true_iff.1 hsome⟩

/-- Two displays come through a frame on each. -/
theorem session_coexists_two :
    ∃ rets s rets' s', run (discoverDisplay twoEncoders) twoConnectors twoCrtcs = .ok rets s ∧
      run sessionStep twoFrames s.session = .ok rets' s' ∧ Coexist s' ∧
      (s'.mHdiDisplays 0).isSome ∧ (s'.mHdiDisplays 1).isSome := by
  obtain ⟨rets, s, rets', s', hrun, -, hrun', hsome⟩ := twoFrames_run
  have hcrtcs : twoCrtcs.mCrtcs.Perm (findAllCrtc 0 [] [some 33, some 34]) := List.Perm.refl _
  have hpost := session_coexists hcrtcs twoCrtcs_unused
    twoConnectors_meet twoFrames
  exact ⟨rets, s, rets', s', hrun, hrun', (hpost.of_ok hrun).of_ok hrun', hsome⟩

end QemuHal
