import QemuHal.Frame.Steady
import QemuHal.Frame.Run
import QemuHal.Drm.Sharing

/-!
# Bringing a display up

`DrmDisplay::Init` reads off its arguments and the state before it whether it succeeds:
the first frame it pushes cannot stop it.
-/

namespace QemuHal

open Exec

/-! ## The first frame -/

/-- No frame has been committed yet, and no cursor is set. -/
structure Booting (w : World) : Prop where
  comp : ∃ c, w.disp.mComposer = some c ∧ c.mCompLayers = [.client] ∧ c.mCursorLayers = [] ∧
    c.mLastGemBuffer = none ∧ c.mLastCursorGemBuffer = none
  client : ∃ l, w.disp.mClientLayer = some l

theorem Booting.setDrm {w : World} (h : Booting w) (d : Drm) : Booting (w.setDrm d) :=
  ⟨h.comp, h.client⟩

theorem applyPlane_booting {w : World} (h : Booting w) {l : HdiLayer} {buf : HdiLayerBuffer}
    (hl : w.disp.mClientLayer = some l) (hbuf : l.mHdiBuffer = some buf)
    (hlast : l.lastBuffer_ = none) (a : PlaneAnswers) (drmPlane : DrmPlane) (pset : AtomicReq) :
    Post (applyPlane a .client drmPlane pset) w (fun _ w' => Booting w') (fun _ _ => False) := by
  have hclient : w.layerAt .client = some l := hl
  unfold applyPlane applyLayer
  rw [post_bind]
  refine post_of_ok (derefLayer_of hclient) ?_
  rw [post_bind]
  refine post_of_ok (derefBuffer_of hbuf) ?_
  rcases setPlaneProperties .primary a l buf drmPlane pset with ⟨ok, pset'⟩
  cases ok with
  | false => exact h
  | true =>
      dsimp only
      -- the new object becomes the current one, and there is none to destroy
      obtain ⟨c, hc, hcomp, hcursor, hlastGem, hlastCursor⟩ := h.comp
      have hgem : ∃ l' d, getGemBuffer a .client w =
            .ok w.drm.nextGem ((w.setDrm d).setLayer .client l') ∧
          d.gems w.drm.nextGem = some (w.drm.newGemBuffer buf a.prime) := by
        refine ⟨{ l with lastBuffer_ := l.mCurrentBuffer, mCurrentBuffer := some w.drm.nextGem },
          (w.drm.newGem buf a.prime).2, ?_, ?_⟩
        · unfold getGemBuffer
          rw [bind_of_ok (derefLayer_of hclient), bind_of_ok (derefBuffer_of hbuf)]
          simp only [HdiLayer.getGemBuffer, hlast]
          rfl
        · rw [Drm.newGem_gems, Function.update_self]
      obtain ⟨l', d, hget, hgems⟩ := hgem
      rw [post_bind]
      refine post_of_ok hget ?_
      rw [post_bind]
      refine post_of_ok (theComposition_of (c := c) ?_) ?_
      · simpa using hc
      unfold setTheComposition
      rw [post_bind, post_modify, post_bind]
      unfold derefGem
      rw [post_bind, post_get]
      simp only [World.setComposition_drm, World.setLayer_drm, World.setDrm_drm, hgems]
      exact ⟨⟨_, rfl, hcomp, hcursor, hlastGem, hlastCursor⟩, l', rfl⟩

theorem updateMode_booting {w : World} (h : Booting w) (a : FrameAnswers) (pset : AtomicReq) :
    Post (updateMode a pset) w (fun _ w' => Booting w') (fun _ _ => False) := by
  unfold updateMode
  rw [post_bind, post_get]
  dsimp only
  split
  · have hblock : Post (getModeBlockFromId w.disp.mCrtc.mActiveModeId a.createPropertyBlob) w
        (fun _ w' => Booting w') (fun _ _ => False) := by
      unfold getModeBlockFromId
      rw [post_bind, post_get]
      dsimp only
      split
      · split
        · exact h
        · exact h.setDrm _
      · exact h
    rw [post_bind]
    apply hblock.mono
    · intro blob w' h'
      cases blob <;> exact h'
    · exact fun _ _ he => he
  · exact h

theorem commitFrame_booting {w : World} (h : Booting w) (a : FrameAnswers) (pset : AtomicReq) :
    Post (commitFrame a pset) w (fun _ _ => True) (fun _ _ => False) := by
  obtain ⟨c, hc, hcomp, hcursor, hlastGem, hlastCursor⟩ := h.comp
  obtain ⟨l, hl⟩ := h.client
  unfold commitFrame
  simp only [post_bind, post_get]
  rcases w.drm.atomicCommit pset a.atomicCommit with ⟨fence, d⟩
  rw [post_set]
  cases fence with
  | none => trivial
  | some crtcOutFence =>
      have hclient : (w.setDrm d).layerAt .client = some l := hl
      simp only [post_bind]
      refine post_of_ok (theComposition_of (c := c) hc) ?_
      rw [hcomp, hcursor]
      simp only [setReleaseFences, post_bind, post_pure, post_modify]
      refine post_of_ok (derefLayer_of hclient) ?_
      -- neither slot remembers a buffer, so there is nothing to release
      have hprimary : ∀ w' : World, w'.disp.mComposer = some c →
          releaseLast .primary a.release w' =
            .ok () (w'.setComposition (c.setLastGem .primary (c.currentGem .primary))) := by
        intro w' hw'
        unfold releaseLast
        rw [bind_of_ok (theComposition_of hw'), get_bind]
        simp only [HdiDrmComposition.lastGem, hlastGem]
        rfl
      refine post_of_ok (hprimary _ hc) ?_
      unfold releaseLast
      rw [post_bind]
      refine post_of_ok (theComposition_of rfl) ?_
      rw [post_bind, post_get]
      simp only [HdiDrmComposition.lastGem, HdiDrmComposition.setLastGem, hlastCursor]
      trivial

/-- **The first frame cannot fault**, whatever the kernel answers. -/
theorem apply_booting {w : World} (h : Booting w) {l : HdiLayer} {buf : HdiLayerBuffer}
    (hl : w.disp.mClientLayer = some l) (hbuf : l.mHdiBuffer = some buf)
    (hlast : l.lastBuffer_ = none) (a : FrameAnswers) :
    Post (apply a) w (fun _ _ => True) (fun _ _ => False) := by
  obtain ⟨c, hc, hcomp, hcursor, -, -⟩ := h.comp
  unfold apply
  rw [post_bind]
  refine post_of_ok (theComposition_of hc) ?_
  split
  · trivial
  · split
    · trivial
    · rw [post_bind, post_get]
      dsimp only
      rcases drmModeAtomicAddProperty (fun _ => a.outFencePtr) []
        ⟨.crtc w.disp.mCrtc.mId, .outFencePtr, 0⟩ with ⟨ok, pset⟩
      cases ok with
      | false => trivial
      | true =>
          have hplanes : Post (applyPlanes a.plane 0 c.mCompLayers c.mPlanes pset) w
              (fun _ w' => Booting w') (fun _ _ => False) := by
            rw [hcomp]
            cases c.mPlanes with
            | nil => exact h
            | cons drmPlane mPlanes =>
                unfold applyPlanes
                rw [post_bind]
                apply (applyPlane_booting h hl hbuf hlast (a.plane 0) drmPlane pset).mono
                · rintro ⟨ret, pset'⟩ w' h'
                  show Post (if ret ≠ .success then _ else _) w' _ _
                  split
                  · exact h'
                  · cases mPlanes <;> exact h'
                · exact fun _ _ he => he
          have hcursors : ∀ w', Booting w' → ∀ pset, Post (applyCursorPart a pset) w'
              (fun _ w'' => Booting w'') (fun _ _ => False) := by
            intro w' h' pset
            obtain ⟨c', hc', hcomp', hcursor', hlastGem', hlastCursor'⟩ := h'.comp
            have hnone : ∀ w'', Booting w'' → Post (do
                let c ← theComposition
                applyCursors a.cursor c.mCursorPlanes 0 c.mCursorLayers pset) w''
                  (fun _ w''' => Booting w''') (fun _ _ => False) := by
              intro w'' h''
              obtain ⟨c'', hc'', -, hcursor'', -, -⟩ := h''.comp
              rw [post_bind]
              refine post_of_ok (theComposition_of hc'') ?_
              rw [hcursor'']
              exact h''
            unfold applyCursorPart checkbootCompleted
            rw [post_bind, post_bind]
            refine post_of_ok (theComposition_of hc') ?_
            split
            · exact hnone w' h'
            · split
              · unfold setTheComposition
                rw [post_bind, post_modify]
                apply hnone
                exact ⟨⟨_, rfl, hcomp', hcursor', hlastGem', hlastCursor'⟩, h'.client⟩
              · exact h'
          dsimp only
          rw [post_bind]
          apply hplanes.mono
          · rintro ⟨ret, pset'⟩ w' h'
            dsimp only
            rw [post_bind]
            apply (hcursors w' h' pset').mono
            · intro pset'' w'' h''
              rw [post_bind]
              apply (updateMode_booting h'' a pset'').mono
              · rintro ⟨ok, modeBlock, pset'''⟩ w''' h'''
                have hend : ∀ (ret : DispStatus) w, Post (do destroyModeBlock modeBlock; return ret) w
                    (fun _ _ => True) (fun _ _ => False) := by
                  intro ret w
                  cases modeBlock <;> trivial
                show Post (if ok = true then _ else _) w''' _ _
                split
                · rw [post_bind]
                  exact (commitFrame_booting h''' a pset''').mono (fun ret w _ => hend ret w)
                    (fun _ _ he => he)
                · exact hend _ w'''
              · exact fun _ _ he => he
            · exact fun _ _ he => he
          · exact fun _ _ he => he

/-! ## `Init` -/

/-- The mode `ChosePreferenceMode` sets, after the conversion to the parameter of
`SetDisplayMode` and back. -/
def DrmConnector.initialMode (c : DrmConnector) : Int :=
  toInt32 ((if c.mPreferenceId = invalidModeId then 0 else c.mPreferenceId) % 2 ^ 32).toNat

/-- The first frame has a mode to be shown in and memory. -/
def World.PushesFirstFrame (w : World) (id : Int) (a : InitAnswers) : Prop :=
  ∃ mode, w.disp.mConnector.getModeFromId id = some mode ∧ (w.drm.allocMem mode a.allocMem).1 ≠ none

/-- What `Init` needs of the display, once it has the id `id`. -/
structure World.Inits (w : World) (a : InitAnswers) (id : Nat) : Prop where
  valid : id ≠ invalidDisplayId
  gfx : a.gfxInit = true
  plane : ∃ p ∈ w.planes, takes w.disp.mCrtc.mPipe p = true ∧ p.mType = .primary
  unbound : w.disp.mCrtc.canBind = true
  mode : 0 ≤ w.disp.mConnector.initialMode
  frame : w.PushesFirstFrame w.disp.mConnector.initialMode a

/-- The display `Init` has brought up. -/
structure World.Up (w : World) (id : Nat) (ids : IdPool) (w' : World) : Prop where
  displayIds : w'.displayIds = ids
  mId : w'.disp.mId = id
  mComposer : w'.disp.mComposer ≠ none
  mConnector : w'.disp.mConnector = w.disp.mConnector
  mCrtc : w'.disp.mCrtc =
    (({ w.disp.mCrtc with mDisplayId := id } : DrmCrtc).setActivieMode
      w.disp.mConnector.initialMode).2

theorem pushFirstFrame_outcome {w : World} {c : HdiDrmComposition} (hc : w.disp.mComposer = some c)
    (hcursor : c.mCursorLayers = []) (hlastGem : c.mLastGemBuffer = none)
    (hlastCursor : c.mLastCursorGemBuffer = none) (hclient : w.disp.mClientLayer = some {})
    (a : InitAnswers) :
    Post (pushFirstFrame a) w
      (fun ret w' => (ret = .success ↔ w.PushesFirstFrame w.disp.mCrtc.mActiveModeId a) ∧
        Steady w w')
      (fun _ _ => False) := by
  unfold pushFirstFrame World.PushesFirstFrame
  rw [post_bind, post_get]
  cases hmode : w.disp.mConnector.getModeFromId w.disp.mCrtc.mActiveModeId with
  | none => exact ⟨by simp, Steady.refl w⟩
  | some mode =>
      dsimp only
      rcases halloc : w.drm.allocMem mode a.allocMem with ⟨buffer, d⟩
      cases buffer with
      | none =>
          refine ⟨?_, Steady.refl w⟩
          simp [halloc]
      | some buffer =>
          dsimp only
          rw [post_bind]
          refine post_of_ok (derefLayer_of (p := .client) hclient) ?_
          have hset : ({} : HdiLayer).setLayerBuffer d (some buffer) (-1) a.dup =
              (.success, { mHdiBuffer := some (HdiLayerBuffer.new d buffer a.dup.buffer).1 },
                (HdiLayerBuffer.new d buffer a.dup.buffer).2) := rfl
          rw [hset]
          simp only [post_bind, post_set, post_pure]
          refine post_of_ok (setLayers_nil (c := c) ?_) ?_
          · simpa using hc
          have hprimed : Booting (w.primed c d buffer a.dup) :=
            ⟨⟨_, rfl, rfl, hcursor, hlastGem, hlastCursor⟩, _, rfl⟩
          have hsteady : Steady w (w.primed c d buffer a.dup) := by
            refine (Steady.setDrm_setLayer (p := .client) hclient
              (HdiLayerBuffer.new d buffer a.dup.buffer).2
              { mHdiBuffer := some (HdiLayerBuffer.new d buffer a.dup.buffer).1 } rfl).trans ?_
            exact Steady.setComposition _ { c with mCompLayers := [.client] }
          apply ((apply_booting hprimed rfl rfl rfl a.firstFrame).and
            (isSteady_apply a.firstFrame (w.primed c d buffer a.dup))).mono
          · intro ret w' happ
            refine ⟨?_, hsteady.trans happ.2⟩
            simp [halloc]
          · exact fun _ _ he => he.1

theorem chosePreferenceMode_outcome {w : World} {c : HdiDrmComposition}
    (hc : w.disp.mComposer = some c) (hcursor : c.mCursorLayers = [])
    (hlastGem : c.mLastGemBuffer = none) (hlastCursor : c.mLastCursorGemBuffer = none)
    (hclient : w.disp.mClientLayer = some {}) (a : InitAnswers) :
    Post (chosePreferenceMode a) w
      (fun ret w' =>
        (ret = .success ↔ 0 ≤ w.disp.mConnector.initialMode ∧
          w.PushesFirstFrame w.disp.mConnector.initialMode a) ∧
        (0 ≤ w.disp.mConnector.initialMode → Steady { w with disp := { w.disp with
          mCrtc := (w.disp.mCrtc.setActivieMode w.disp.mConnector.initialMode).2 } } w'))
      (fun _ _ => False) := by
  unfold chosePreferenceMode setDisplayMode
  simp only [post_bind, post_get, post_set, post_pure]
  by_cases hmode : 0 ≤ w.disp.mConnector.initialMode
  · have hset : w.disp.mCrtc.setActivieMode w.disp.mConnector.initialMode =
        (.success, { w.disp.mCrtc with
          mNeedModeSet := if w.disp.mCrtc.mActiveModeId ≠ w.disp.mConnector.initialMode then true
            else w.disp.mCrtc.mNeedModeSet
          mActiveModeId := w.disp.mConnector.initialMode }) := by
      unfold DrmCrtc.setActivieMode
      rw [if_neg (by omega)]
    have hset' := hset
    unfold DrmConnector.initialMode at hset'
    rw [hset']
    simp only [ne_eq, not_true_eq_false, if_false]
    apply (pushFirstFrame_outcome (c := c) ?_ hcursor hlastGem hlastCursor ?_ a).mono
    · rintro ret w' ⟨hret, hsteady⟩
      refine ⟨hret.trans (and_iff_right hmode).symm, fun _ => ?_⟩
      rw [hset]
      exact hsteady
    · exact fun _ _ he => he
    · exact hc
    · exact hclient
  · have hset : (w.disp.mCrtc.setActivieMode w.disp.mConnector.initialMode).1 = .paramErr := by
      unfold DrmCrtc.setActivieMode
      rw [if_pos (by omega)]
    unfold DrmConnector.initialMode at hset
    rw [hset]
    exact ⟨⟨fun h => absurd h (by simp), fun h => absurd h.1 hmode⟩, fun h => absurd h hmode⟩

/-- **`Init` succeeds exactly when it has what it needs**, and brings the display up. It
can only fail to return when the search for an id never ends. -/
theorem drmDisplayInit_outcome {w : World} (a : InitAnswers) :
    Post (drmDisplayInit a) w
      (fun ret w' => ∃ id ids, w.displayIds.getIdleId invalidDisplayId = some (id, ids) ∧
        (ret = .success ↔ w.Inits a id) ∧ (ret = .success → w.Up id ids w'))
      (fun e _ => e = .diverges ∧ w.displayIds.getIdleId invalidDisplayId = none) := by
  have hfail : ∀ {id : Nat} {ids : IdPool} {w' : World},
      w.displayIds.getIdleId invalidDisplayId = some (id, ids) → ¬ w.Inits a id →
      ∃ id ids, w.displayIds.getIdleId invalidDisplayId = some (id, ids) ∧
        (DispStatus.failure = .success ↔ w.Inits a id) ∧
        (DispStatus.failure = .success → w.Up id ids w') :=
    fun hid hno => ⟨_, _, hid, ⟨fun h => absurd h (by simp), fun h => absurd h hno⟩,
      fun h => absurd h (by simp)⟩
  unfold drmDisplayInit hdiDisplayInit
  simp only [post_bind, post_get]
  cases hid : w.displayIds.getIdleId invalidDisplayId with
  | none => exact ⟨rfl, rfl⟩
  | some found =>
      obtain ⟨id, ids⟩ := found
      rw [hid] at hfail
      dsimp only
      by_cases hinv : id = invalidDisplayId
      · rw [if_pos hinv]
        exact hfail rfl fun h => h.valid hinv
      · rw [if_neg hinv]
        simp only [post_bind, post_set, post_pure, ne_eq, not_true_eq_false, if_false]
        cases hgfx : a.gfxInit with
        | false => exact hfail rfl fun h => absurd (hgfx.symm.trans h.gfx) (by simp)
        | true =>
            simp only [Bool.not_true, Bool.false_eq_true, if_false, post_bind, post_get]
            rcases hinit : HdiDrmComposition.init w.disp.mCrtc.mPipe w.planes with ⟨ret, c, planes⟩
            have hprim : ret = .success ↔
                ∃ p ∈ w.planes, takes w.disp.mCrtc.mPipe p = true ∧ p.mType = .primary := by
              rw [← init_success, hinit]
            dsimp only
            rw [post_set]
            by_cases hret : ret = .success
            · have hspec : c.InitSpec w.planes := HdiDrmComposition.init_spec (hret ▸ hinit)
              have hempty := hspec.empty
              rw [if_neg (not_not.2 hret)]
              simp only [setTheComposition, post_bind, post_modify, post_get, post_set]
              show Post (if (w.disp.mCrtc.bindToDisplay id).1 ≠ .success then pure .failure
                else chosePreferenceMode a) { w with
                  displayIds := ids
                  planes
                  disp := { w.disp with
                    mId := id
                    mClientLayer := some {}
                    mCursorLayer := some {}
                    mComposer := some c
                    mCrtc := (w.disp.mCrtc.bindToDisplay id).2 } } _ _
              by_cases hbind : w.disp.mCrtc.canBind = true
              · have hbound : w.disp.mCrtc.bindToDisplay id =
                    (.success, { w.disp.mCrtc with mDisplayId := id }) := by
                  unfold DrmCrtc.bindToDisplay
                  rw [if_neg]
                  exact not_not.2 (of_decide_eq_true hbind)
                rw [hbound, if_neg (not_not.2 rfl)]
                apply (chosePreferenceMode_outcome (c := c) rfl ?_ ?_ ?_ rfl a).mono
                · rintro ret' w' ⟨hret', hsteady⟩
                  refine ⟨id, ids, rfl, hret'.trans ⟨fun h => ?_, fun h => ⟨h.mode, h.frame⟩⟩,
                    fun hs => ?_⟩
                  · exact ⟨hinv, hgfx, hprim.1 hret, hbind, h.1, h.2⟩
                  · have h := hsteady (hret'.1 hs).1
                    constructor
                    · rw [h.world]
                    · rw [h.disp]
                    · exact h.composed (by simp)
                    · rw [h.disp]
                    · rw [h.disp]
                · exact fun _ _ he => he.elim
                all_goals rw [hempty]
              · have hbound : (w.disp.mCrtc.bindToDisplay id).1 = .failure := by
                  unfold DrmCrtc.bindToDisplay
                  rw [if_pos]
                  exact fun hfree => hbind (decide_eq_true hfree)
                rw [hbound, if_pos (by simp)]
                exact hfail rfl fun h => hbind h.unbound
            · rw [if_pos hret]
              exact hfail rfl fun h => hret (hprim.2 h.plane)

end QemuHal
