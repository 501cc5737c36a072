import QemuHal.Core.Discovery
import QemuHal.Core.Presentation

/-!
# Null pointers on the way to a frame

`DiscoveryDisplay` keeps a display whatever its `Init` returned, and neither
`PrepareDisplayLayers` nor `Commit` looks at the pointers it follows: the composer, the
buffer of a cursor layer, the buffer of the client layer. `nulls_iff` says when they are
there.
-/

namespace QemuHal

open Exec

/-! ## The law -/

/-- The fault is that a null pointer is followed. -/
def Fault.isNull : Fault → Bool
  | .nullComposer | .nullLayer | .nullLayerBuffer => true
  | .danglingLayer | .danglingGem | .danglingLastGem | .danglingLastCursorGem | .diverges => false

/-- These layers have a buffer if they are cursor layers. -/
def World.CursorsFilled (w : World) (ns : List Nat) : Prop :=
  ∀ n ∈ ns, ∀ l ∈ w.disp.layers n, l.mCompositionType = .cursor → l.mHdiBuffer ≠ none

instance (w : World) (ns : List Nat) : Decidable (w.CursorsFilled ns) :=
  inferInstanceAs (Decidable (∀ n ∈ ns, ∀ l ∈ w.disp.layers n, _ → _))

/-- The client layer has a buffer if the composition has taken it over. -/
def World.ClientFilled (w : World) (c : HdiDrmComposition) : Prop :=
  c.mCompLayers ≠ [] → ∀ l ∈ w.disp.mClientLayer, l.mHdiBuffer ≠ none

instance (w : World) (c : HdiDrmComposition) : Decidable (w.ClientFilled c) :=
  inferInstanceAs (Decidable (_ → ∀ l ∈ w.disp.mClientLayer, _))

/-- What a frame follows pointers to is there. -/
def Provided (w : World) : Op → Prop
  | .prepareDisplayLayers _ => w.disp.mComposer ≠ none ∧ w.CursorsFilled w.visible
  | .commit a => ∃ c ∈ w.disp.mComposer, a.begins = true → w.ClientFilled c
  | _ => True

/-- The display a call is addressed to, if there is one, has what a frame needs. -/
def Furnished (s : HdiSession) : Call → Prop
  | .display devId op => ∀ disp ∈ s.find devId, Provided (s.world disp) op
  | _ => True

/-- The operation works on a frame. -/
def Op.ofFrame : Op → Bool
  | .prepareDisplayLayers _ | .commit _ => true
  | _ => false

/-- `PrepareDisplayLayers` and `Commit` follow no null pointer, and where there is one they
return an error. -/
def NullLaw (s : HdiSession) : Call → Prop
  | .display devId op => op.ofFrame = true →
      Post (sessionStep (.display devId op)) s
        (fun r _ => Furnished s (.display devId op) ∨ r.ret ≠ .success)
        (fun e _ => e.isNull = false)
  | _ => True

/-! ## What `Init` leaves behind -/

/-- The parts of a display with a composer, whether or not `Init` came to its end. -/
structure Parts.Fitted (p : Parts) : Prop where
  planes : p.comp.mPlanes ≠ []
  compLayers : p.comp.mCompLayers = [] ∨ p.comp.mCompLayers = [.client]
  cursorLayers : p.comp.mCursorLayers = [] ∨ p.comp.mCursorLayers = [.cursor]
  cursorBuffer : p.comp.mCursorLayers ≠ [] → (p.layer .cursor).mHdiBuffer ≠ none

/-- A display has no composer, or all it takes to have one. -/
structure Equipped (w : World) : Prop where
  noneOwned : w.NoneOwned
  parts : w.disp.mComposer ≠ none → ∃ p : Parts, p.Of w ∧ p.Fitted

theorem Parts.Fitted.calm {p p' : Parts} (h : p.Fitted) (hc : p.Calm p') : p'.Fitted where
  planes := by
    rw [hc.comp]
    exact h.planes
  compLayers := by
    rcases hc.compLayers with heq | heq
    · rw [heq]
      exact h.compLayers
    · exact Or.inr heq
  cursorLayers := by
    rcases hc.cursorLayers with heq | ⟨heq, -⟩
    · rw [heq]
      exact h.cursorLayers
    · exact Or.inr heq
  cursorBuffer := by
    intro hne
    rcases hc.cursorLayers with heq | ⟨-, hbuf⟩
    · rw [heq] at hne
      exact (hc.layer .cursor).buffer (h.cursorBuffer hne)
    · exact hbuf

theorem Equipped.calm {w w' : World} (h : Equipped w) (hc : Calm w w')
    (hcomp : w.disp.mComposer = none → w'.disp.mComposer = none) : Equipped w' where
  noneOwned := hc.noneOwned h.noneOwned
  parts := by
    intro hsome
    obtain ⟨p, hp, hfit⟩ := h.parts fun hnone => hsome (hcomp hnone)
    obtain ⟨p', hp', hcalm⟩ := hc.parts p hp
    exact ⟨p', hp', hfit.calm hcalm⟩

/-! ## A frame whose layers have buffers -/

/-- The layers in `ps` have buffers, and the composition has no others. -/
structure Parts.Stocked (p : Parts) (ps : List LayerRef) : Prop where
  fitted : p.Fitted
  compLayers : p.comp.mCompLayers ⊆ ps
  cursorLayers : p.comp.mCursorLayers ⊆ ps
  buffer : ∀ s : Slot, s.layer ∈ ps → (p.layer s).mHdiBuffer ≠ none

structure Stocked (ps : List LayerRef) (w : World) : Prop where
  noneOwned : w.NoneOwned
  parts : ∃ p : Parts, p.Of w ∧ p.Stocked ps

theorem Stocked.equipped {ps : List LayerRef} {w : World} (h : Stocked ps w) : Equipped w := by
  obtain ⟨hnone, p, hp, hstock⟩ := h
  exact ⟨hnone, fun _ => ⟨p, hp, hstock.fitted⟩⟩

/-- Where the layers in `ps` have buffers, the program follows no null pointer. -/
def NullFree (ps : List LayerRef) {α : Type} (m : Hal α) : Prop :=
  ∀ w, Stocked ps w → Post m w (fun _ w' => Stocked ps w') (fun e _ => e.isNull = false)

section
variable {α β : Type} {ps : List LayerRef} {w : World}

theorem NullFree.pure (a : α) : NullFree ps (pure a : Hal α) := fun _ h => h

theorem NullFree.bind {m : Hal α} {f : α → Hal β} (hm : NullFree ps m)
    (hf : ∀ a, NullFree ps (f a)) : NullFree ps (m >>= f) := by
  intro w h
  rw [post_bind]
  apply (hm w h).mono
  · exact fun a w' h' => hf a w' h'
  · exact fun _ _ he => he

/-- The rule for reading the composition. -/
theorem NullFree.composition {f : HdiDrmComposition → Hal β}
    (hf : ∀ c, (∀ q ∈ c.mCompLayers, q = .client ∧ q ∈ ps) →
      (∀ q ∈ c.mCursorLayers, q = .cursor ∧ q ∈ ps) → NullFree ps (f c)) :
    NullFree ps (theComposition >>= f) := by
  intro w h
  obtain ⟨-, p, hp, hstock⟩ := id h
  rw [post_bind]
  refine post_of_ok (theComposition_of hp.comp) ?_
  apply hf _ ?_ ?_ w h
  · intro q hq
    refine ⟨?_, hstock.compLayers hq⟩
    rcases hstock.fitted.compLayers with hc | hc
    · exact absurd hq (by simp [hc])
    · simpa [hc] using hq
  · intro q hq
    refine ⟨?_, hstock.cursorLayers hq⟩
    rcases hstock.fitted.cursorLayers with hc | hc
    · exact absurd hq (by simp [hc])
    · simpa [hc] using hq

theorem Stocked.setDrm (h : Stocked ps w) (d : Drm) : Stocked ps (w.setDrm d) := by
  obtain ⟨hnone, p, hp, hstock⟩ := h
  exact ⟨hnone, p, ⟨hp.comp, by simpa using hp.layer⟩, hstock⟩

/-- The composition may change but for its layers and planes. -/
theorem Stocked.setComposition (h : Stocked ps w) {c c' : HdiDrmComposition}
    (hc : w.disp.mComposer = some c) (hplanes : c'.mPlanes = c.mPlanes)
    (hcomp : c'.mCompLayers = c.mCompLayers) (hcursor : c'.mCursorLayers = c.mCursorLayers) :
    Stocked ps (w.setComposition c') := by
  obtain ⟨hnone, p, hp, hstock⟩ := h
  obtain rfl := Option.some.inj (hc.symm.trans hp.comp)
  refine ⟨hnone, ⟨c', p.layer⟩, ⟨rfl, by simpa using hp.layer⟩, ⟨?_, ?_, ?_, hstock.buffer⟩⟩
  · constructor
    · rw [hplanes]
      exact hstock.fitted.planes
    · rw [hcomp]
      exact hstock.fitted.compLayers
    · rw [hcursor]
      exact hstock.fitted.cursorLayers
    · intro hne
      rw [hcursor] at hne
      exact hstock.fitted.cursorBuffer hne
  · rw [hcomp]
    exact hstock.compLayers
  · rw [hcursor]
    exact hstock.cursorLayers

theorem Stocked.setLayer (h : Stocked ps w) {s : Slot} {l l' : HdiLayer}
    (hl : w.layerAt s.layer = some l) (hbuf : l'.mHdiBuffer = l.mHdiBuffer) :
    Stocked ps (w.setLayer s.layer l') := by
  obtain ⟨hnone, p, hp, hstock⟩ := h
  obtain rfl := Option.some.inj (hl.symm.trans (hp.layer s))
  have hother : ∀ t : Slot, (Function.update p.layer s l' t).mHdiBuffer = (p.layer t).mHdiBuffer := by
    intro t
    by_cases ht : t = s
    · subst ht
      rw [Function.update_self, hbuf]
    · rw [Function.update_of_ne ht]
  refine ⟨?_, ⟨p.comp, Function.update p.layer s l'⟩, ⟨by simpa using hp.comp, fun t => ?_⟩, ?_⟩
  · cases s <;> exact hnone
  · show _ = some (Function.update p.layer s l' t)
    rw [World.layerAt_setLayer]
    by_cases ht : t = s
    · subst ht
      rw [if_pos rfl, Function.update_self]
    · have hne : t.layer ≠ s.layer := by
        cases s <;> cases t <;> simp_all [Slot.layer]
      rw [if_neg hne, Function.update_of_ne ht]
      exact hp.layer t
  · refine ⟨⟨hstock.fitted.planes, hstock.fitted.compLayers, hstock.fitted.cursorLayers, ?_⟩,
      hstock.compLayers, hstock.cursorLayers, ?_⟩
    · intro hne
      rw [hother]
      exact hstock.fitted.cursorBuffer hne
    · intro t ht
      rw [hother]
      exact hstock.buffer t ht

/-! ### One layer on one plane -/

theorem nullFree_applyLayer {s : Slot} (hs : s.layer ∈ ps) (a : PlaneAnswers)
    (drmPlane : DrmPlane) (pset : AtomicReq) :
    NullFree ps (applyLayer s a s.layer drmPlane pset) := by
  intro w h
  obtain ⟨hnone, p, hp, hstock⟩ := id h
  obtain ⟨buf, hbuf⟩ := Option.ne_none_iff_exists'.1 (hstock.buffer s hs)
  unfold applyLayer
  rw [post_bind]
  refine post_of_ok (derefLayer_of (hp.layer s)) ?_
  rw [post_bind]
  refine post_of_ok (derefBuffer_of hbuf) ?_
  rcases setPlaneProperties s a (p.layer s) buf drmPlane pset with ⟨ok, pset'⟩
  cases ok with
  | false => exact h
  | true =>
      dsimp only
      -- `GetGemBuffer` changes the objects of the layer, not its buffer
      have hset : Stocked ps ((w.setDrm ((p.layer s).getGemBuffer w.drm buf a).2.2).setLayer
          s.layer ((p.layer s).getGemBuffer w.drm buf a).2.1) :=
        (h.setDrm _).setLayer (l := p.layer s) (by simpa using hp.layer s) rfl
      have hget : getGemBuffer a s.layer w = .ok w.drm.nextGem
          ((w.setDrm ((p.layer s).getGemBuffer w.drm buf a).2.2).setLayer s.layer
            ((p.layer s).getGemBuffer w.drm buf a).2.1) := by
        unfold getGemBuffer
        rw [bind_of_ok (derefLayer_of (hp.layer s)), bind_of_ok (derefBuffer_of hbuf)]
        rfl
      rw [post_bind]
      refine post_of_ok hget ?_
      generalize (w.setDrm ((p.layer s).getGemBuffer w.drm buf a).2.2).setLayer s.layer
        ((p.layer s).getGemBuffer w.drm buf a).2.1 = w' at hset
      obtain ⟨-, p', hp', -⟩ := id hset
      rw [post_bind]
      refine post_of_ok (theComposition_of hp'.comp) ?_
      have hcurrent : Stocked ps
          (w'.setComposition (p'.comp.setCurrentGem s (some w.drm.nextGem))) := by
        apply hset.setComposition hp'.comp <;> cases s <;> rfl
      unfold setTheComposition derefGem
      simp only [post_bind, post_modify, post_get]
      split
      · exact hcurrent
      · rfl

/-! ### The loops -/

theorem nullFree_applyPlanes (a : Nat → PlaneAnswers) (mCompLayers : List LayerRef)
    (hlayers : ∀ q ∈ mCompLayers, q = .client ∧ q ∈ ps) :
    ∀ i mPlanes pset, NullFree ps (applyPlanes a i mCompLayers mPlanes pset) := by
  induction mCompLayers with
  | nil => exact fun _ _ _ => NullFree.pure _
  | cons q mCompLayers ih =>
      intro i mPlanes pset
      obtain ⟨rfl, hq⟩ := hlayers q List.mem_cons_self
      cases mPlanes with
      | nil => exact NullFree.pure _
      | cons drmPlane mPlanes =>
          apply (nullFree_applyLayer (s := .primary) hq (a i) drmPlane pset).bind
          rintro ⟨ret, pset'⟩
          show NullFree ps (if ret ≠ .success then _ else _)
          split
          · exact NullFree.pure _
          · exact ih (fun q' hq' => hlayers q' (List.mem_cons_of_mem _ hq')) _ _ _

theorem nullFree_applyCursorPlanes (a : Nat → PlaneAnswers) (hcursor : LayerRef.cursor ∈ ps)
    (mCursorPlanes : List DrmPlane) :
    ∀ j pset, NullFree ps (applyCursorPlanes a .cursor j mCursorPlanes pset) := by
  induction mCursorPlanes with
  | nil => exact fun _ _ => NullFree.pure _
  | cons drmPlane mCursorPlanes ih =>
      intro j pset
      apply (nullFree_applyLayer (s := .cursor) hcursor (a j) drmPlane pset).bind
      rintro ⟨ret, pset'⟩
      show NullFree ps (if ret ≠ .success then _ else _)
      split
      · exact NullFree.pure _
      · exact ih _ _

theorem nullFree_applyCursors (a : Nat → Nat → PlaneAnswers) (mCursorPlanes : List DrmPlane)
    (mCursorLayers : List LayerRef) (hlayers : ∀ q ∈ mCursorLayers, q = .cursor ∧ q ∈ ps) :
    ∀ i pset, NullFree ps (applyCursors a mCursorPlanes i mCursorLayers pset) := by
  induction mCursorLayers with
  | nil => exact fun _ _ => NullFree.pure _
  | cons q mCursorLayers ih =>
      intro i pset
      obtain ⟨rfl, hq⟩ := hlayers q List.mem_cons_self
      apply (nullFree_applyCursorPlanes (a i) hq mCursorPlanes 0 pset).bind
      rintro ⟨ret, pset'⟩
      exact ih (fun q' hq' => hlayers q' (List.mem_cons_of_mem _ hq')) _ _

theorem nullFree_checkbootCompleted (completed : Bool) :
    NullFree ps (checkbootCompleted completed) := by
  intro w h
  obtain ⟨-, p, hp, -⟩ := id h
  unfold checkbootCompleted
  rw [post_bind]
  refine post_of_ok (theComposition_of hp.comp) ?_
  split
  · exact h
  · split
    · exact h.setComposition hp.comp rfl rfl rfl
    · exact h

theorem nullFree_applyCursorPart (a : FrameAnswers) (pset : AtomicReq) :
    NullFree ps (applyCursorPart a pset) := by
  apply (nullFree_checkbootCompleted a.bootCompleted).bind
  intro completed
  split
  · apply NullFree.composition
    intro c _ hcursor
    exact nullFree_applyCursors a.cursor c.mCursorPlanes c.mCursorLayers hcursor 0 pset
  · exact NullFree.pure _

/-! ### The mode and the commit -/

theorem nullFree_updateMode (a : FrameAnswers) (pset : AtomicReq) :
    NullFree ps (updateMode a pset) := by
  intro w h
  unfold updateMode
  rw [post_bind, post_get]
  dsimp only
  split
  · rw [post_bind]
    have hblock : Post (getModeBlockFromId w.disp.mCrtc.mActiveModeId a.createPropertyBlob) w
        (fun _ w' => Stocked ps w') (fun e _ => e.isNull = false) := by
      unfold getModeBlockFromId
      rw [post_bind, post_get]
      dsimp only
      split
      · split
        · exact h
        · exact h.setDrm _
      · exact h
    apply hblock.mono
    · intro blob w' h'
      cases blob <;> exact h'
    · exact fun _ _ he => he
  · exact h

theorem nullFree_setReleaseFences (fd : Int) (qs : List LayerRef)
    (hqs : ∀ q ∈ qs, ∃ s : Slot, q = s.layer) : NullFree ps (setReleaseFences fd qs) := by
  induction qs with
  | nil => exact NullFree.pure _
  | cons q qs ih =>
      intro w h
      obtain ⟨-, p, hp, -⟩ := id h
      obtain ⟨s, rfl⟩ := hqs q List.mem_cons_self
      unfold setReleaseFences
      rw [post_bind]
      refine post_of_ok (derefLayer_of (hp.layer s)) ?_
      rw [post_bind, post_modify]
      apply ih fun q' hq' => hqs q' (List.mem_cons_of_mem _ hq')
      exact h.setLayer (hp.layer s) rfl

theorem nullFree_releaseLast (s : Slot) (a : DropAnswers) : NullFree ps (releaseLast s a) := by
  intro w h
  obtain ⟨-, p, hp, -⟩ := id h
  have hset : ∀ w' : World, Stocked ps w' → w'.disp.mComposer = some p.comp →
      Stocked ps (w'.setComposition (p.comp.setLastGem s (p.comp.currentGem s))) := by
    intro w' h' hc
    apply h'.setComposition hc <;> cases s <;> rfl
  unfold releaseLast
  rw [post_bind]
  refine post_of_ok (theComposition_of hp.comp) ?_
  rw [post_bind, post_get]
  split
  · exact hset w h hp.comp
  · split
    · cases s <;> rfl
    · exact hset _ (h.setDrm _) hp.comp

theorem nullFree_commitFrame (a : FrameAnswers) (pset : AtomicReq) :
    NullFree ps (commitFrame a pset) := by
  intro w h
  unfold commitFrame
  simp only [post_bind, post_get]
  rcases w.drm.atomicCommit pset a.atomicCommit with ⟨fence, d⟩
  rw [post_set]
  cases fence with
  | none => exact h.setDrm d
  | some crtcOutFence =>
      have hrest : NullFree ps (do
          let c ← theComposition
          setReleaseFences crtcOutFence c.mCompLayers
          setReleaseFences crtcOutFence c.mCursorLayers
          releaseLast .primary a.release
          releaseLast .cursor a.releaseCursor
          return DispStatus.success) := by
        apply NullFree.composition
        intro c hcomp hcursor
        apply (nullFree_setReleaseFences crtcOutFence c.mCompLayers
          fun q hq => ⟨.primary, (hcomp q hq).1⟩).bind
        intro _
        apply (nullFree_setReleaseFences crtcOutFence c.mCursorLayers
          fun q hq => ⟨.cursor, (hcursor q hq).1⟩).bind
        intro _
        apply (nullFree_releaseLast .primary a.release).bind
        intro _
        exact (nullFree_releaseLast .cursor a.releaseCursor).bind fun _ => NullFree.pure _
      exact hrest (w.setDrm d) (h.setDrm d)

/-- **A frame whose layers have buffers follows no null pointer.** -/
theorem nullFree_apply (a : FrameAnswers) : NullFree ps (apply a) := by
  apply NullFree.composition
  intro c hcomp _
  split
  · exact NullFree.pure _
  · split
    · exact NullFree.pure _
    · intro w h
      rw [post_bind, post_get]
      dsimp only
      rcases drmModeAtomicAddProperty (fun _ => a.outFencePtr) []
        ⟨.crtc w.disp.mCrtc.mId, .outFencePtr, 0⟩ with ⟨ok, pset⟩
      cases ok with
      | false => exact h
      | true =>
          have hframe : NullFree ps (do
              let planes ← applyPlanes a.plane 0 c.mCompLayers c.mPlanes pset
              let pset ← applyCursorPart a planes.2
              let mode ← updateMode a pset
              let ret ← if mode.1 then commitFrame a mode.2.2 else pure .failure
              destroyModeBlock mode.2.1
              return ret) := by
            apply (nullFree_applyPlanes a.plane c.mCompLayers hcomp 0 c.mPlanes pset).bind
            rintro ⟨ret, pset'⟩
            apply (nullFree_applyCursorPart a pset').bind
            intro pset''
            apply (nullFree_updateMode a pset'').bind
            rintro ⟨ok, modeBlock, pset'''⟩
            have hend : ∀ ret : DispStatus,
                NullFree ps (do destroyModeBlock modeBlock; return ret) := by
              intro ret
              cases modeBlock with
              | none => exact NullFree.pure _
              | some blob => exact fun w h => h.setDrm _
            show NullFree ps (if ok = true then _ else _)
            split
            · exact (nullFree_commitFrame a _).bind hend
            · exact (NullFree.pure _).bind hend
          exact hframe w h

end

/-! ## `Commit` -/

section
variable {w : World}

/-- A request that is not begun. -/
theorem apply_unbegun {c : HdiDrmComposition} (hc : w.disp.mComposer = some c) {a : FrameAnswers}
    (hbegins : a.begins = false) : ∃ ret, apply a w = .ok ret w := by
  unfold apply
  rw [bind_of_ok (theComposition_of hc)]
  split
  · exact ⟨_, rfl⟩
  · cases halloc : a.atomicAlloc with
    | false => exact ⟨_, rfl⟩
    | true =>
        have hfence : a.outFencePtr = false := by
          simpa [FrameAnswers.begins, halloc] using hbegins
        rw [if_neg (by simp), get_bind]
        simp only [drmModeAtomicAddProperty, hfence, Bool.false_eq_true, if_false]
        exact ⟨_, rfl⟩

/-- A request that is begun for a client layer without a buffer. -/
theorem apply_noBuffer {p : Parts} (hp : p.Of w) (hfit : p.Fitted) {a : FrameAnswers}
    (hbegins : a.begins = true) (hne : p.comp.mCompLayers ≠ [])
    (hbuf : (p.layer .primary).mHdiBuffer = none) :
    ∃ w', apply a w = .error .nullLayerBuffer w' := by
  have hcomp : p.comp.mCompLayers = [.client] := hfit.compLayers.resolve_left hne
  obtain ⟨drmPlane, mPlanes, hplanes⟩ := List.exists_cons_of_ne_nil hfit.planes
  obtain ⟨halloc, hfence⟩ : a.atomicAlloc = true ∧ a.outFencePtr = true := by
    simpa [FrameAnswers.begins] using hbegins
  have hclient : w.layerAt .client = some (p.layer .primary) := hp.layer .primary
  have hlayer : ∀ pset, applyPlanes a.plane 0 p.comp.mCompLayers p.comp.mPlanes pset w =
      .error .nullLayerBuffer w := by
    intro pset
    rw [hcomp, hplanes]
    have hone : applyPlane (a.plane 0) .client drmPlane pset w = .error .nullLayerBuffer w := by
      unfold applyPlane applyLayer
      rw [bind_of_ok (derefLayer_of hclient)]
      unfold derefBuffer
      rw [hbuf]
      rfl
    show EStateM.bind (applyPlane (a.plane 0) .client drmPlane pset) _ w = _
    unfold EStateM.bind
    rw [hone]
  refine ⟨w, ?_⟩
  unfold apply
  rw [bind_of_ok (theComposition_of hp.comp), if_neg (by simp [hcomp, hplanes]),
    if_neg (by simp [halloc]), get_bind]
  simp only [drmModeAtomicAddProperty, hfence, if_true]
  show EStateM.bind (applyPlanes a.plane 0 p.comp.mCompLayers p.comp.mPlanes _) _ w = _
  unfold EStateM.bind
  rw [hlayer]

theorem Equipped.popped {p : Parts} (h : Equipped w) (hp : p.Of w) :
    Equipped (w.setLayer .client (p.layer .primary).getReleaseFenceFd.2) where
  noneOwned := h.noneOwned
  parts := by
    intro _
    obtain ⟨p', hp', hfit⟩ := h.parts (by simp [hp.comp])
    obtain rfl := hp.unique hp'
    exact ⟨p.popped, hp.popped, hfit.planes, hfit.compLayers, hfit.cursorLayers, hfit.cursorBuffer⟩

/-- The frame of a `Commit` that is provided for. -/
theorem composerCommit_provided {p : Parts} (h : Equipped w) (hp : p.Of w) {a : FrameAnswers}
    (hbuf : a.begins = true → p.comp.mCompLayers ≠ [] → (p.layer .primary).mHdiBuffer ≠ none) :
    Post (composerCommit a) w (fun _ w' => Equipped w' ∧ ∃ p' : Parts, p'.Of w')
      (fun e _ => e.isNull = false) := by
  have happly : Post (apply a) w (fun _ w' => Equipped w' ∧ ∃ p' : Parts, p'.Of w')
      (fun e _ => e.isNull = false) := by
    cases hbegins : a.begins with
    | false =>
        obtain ⟨ret, heq⟩ := apply_unbegun hp.comp hbegins
        exact post_of_ok heq ⟨h, p, hp⟩
    | true =>
        obtain ⟨p', hp', hfit⟩ := h.parts (by simp [hp.comp])
        obtain rfl := hp.unique hp'
        have hstock : p.Stocked (p.comp.mCompLayers ++ p.comp.mCursorLayers) := by
          refine ⟨hfit, List.subset_append_left _ _, List.subset_append_right _ _, fun s hs => ?_⟩
          rcases List.mem_append.1 hs with hs | hs
          · rcases hfit.compLayers with hc | hc
            · exact absurd hs (by simp [hc])
            · cases s with
              | primary => exact hbuf hbegins (by simp [hc])
              | cursor => exact absurd hs (by simp [hc, Slot.layer])
          · rcases hfit.cursorLayers with hc | hc
            · exact absurd hs (by simp [hc])
            · cases s with
              | primary => exact absurd hs (by simp [hc, Slot.layer])
              | cursor => exact hfit.cursorBuffer (by simp [hc])
        apply (nullFree_apply a w ⟨h.noneOwned, p, hp, hstock⟩).mono
        · intro ret w' h'
          obtain ⟨-, p', hp', -⟩ := id h'
          exact ⟨h'.equipped, p', hp'⟩
        · exact fun _ _ he => he
  unfold composerCommit
  rw [post_bind]
  refine post_of_ok (theComposition_of hp.comp) ?_
  rw [post_bind]
  apply happly.mono
  · intro ret w' h'
    split <;> exact h'
  · exact fun _ _ he => he

/-- **`Commit` follows a null pointer exactly when it is not provided for.** -/
theorem commit_nulls (h : Equipped w) (a : FrameAnswers) :
    Post (commit a) w (fun _ w' => Provided w (.commit a) ∧ Equipped w')
      (fun e _ => e.isNull = false ↔ Provided w (.commit a)) := by
  unfold commit
  rw [post_bind]
  cases hc : w.disp.mComposer with
  | none =>
      have hno : ¬ Provided w (.commit a) := by
        rintro ⟨c, hmem, -⟩
        exact absurd (hc.symm.trans hmem) (by simp)
      unfold composerCommit theComposition
      simp only [post_bind, post_get, hc]
      exact ⟨fun hf => absurd hf (by simp [Fault.isNull]), fun hp => absurd hp hno⟩
  | some c =>
      obtain ⟨p, hp, hfit⟩ := h.parts (by simp [hc])
      have hclient : w.disp.mClientLayer = some (p.layer .primary) := hp.layer .primary
      have hiff : Provided w (.commit a) ↔ (a.begins = true → p.comp.mCompLayers ≠ [] →
          (p.layer .primary).mHdiBuffer ≠ none) := by
        unfold Provided World.ClientFilled
        simp [hp.comp, hclient]
      by_cases hprov : Provided w (.commit a)
      · apply (composerCommit_provided h hp (hiff.1 hprov)).mono
        · rintro _ w' ⟨h', p', hp'⟩
          unfold popReleaseFence
          rw [post_bind, post_bind]
          refine post_of_ok (derefLayer_of (p := .client) (hp'.layer .primary)) ?_
          exact ⟨hprov, h'.popped hp'⟩
        · exact fun e _ he => ⟨fun _ => hprov, fun _ => he⟩
      · rw [hiff] at hprov
        push Not at hprov
        obtain ⟨hbegins, hne, hbuf⟩ := hprov
        obtain ⟨w', happly⟩ := apply_noBuffer hp hfit hbegins hne hbuf
        unfold composerCommit
        rw [post_bind]
        refine post_of_ok (theComposition_of hp.comp) ?_
        rw [post_bind]
        unfold Post
        rw [happly, hiff]
        exact ⟨fun hf => absurd hf (by simp [Fault.isNull]), fun hall => absurd hbuf (hall hbegins hne)⟩

end

/-! ## `PrepareDisplayLayers` -/

section
variable {w : World}

/-- What the loops of `PrepareDisplayLayers` look at in a layer. -/
def HdiLayer.looks (l : HdiLayer) : CompositionType × Option HdiLayerBuffer :=
  (l.mCompositionType, l.mHdiBuffer)

theorem World.CursorsFilled.of_looks {w' : World} {ns : List Nat}
    (h : ∀ n ∈ ns, (w'.disp.layers n).map HdiLayer.looks = (w.disp.layers n).map HdiLayer.looks)
    (hfill : w.CursorsFilled ns) : w'.CursorsFilled ns := by
  intro n hn l hl htype
  have hn' := h n hn
  rw [Option.mem_def.1 hl, Option.map_some] at hn'
  obtain ⟨l₀, hl₀, heq⟩ := Option.map_eq_some_iff.1 hn'.symm
  have htype₀ : l₀.mCompositionType = l.mCompositionType := congrArg Prod.fst heq
  have hbuf₀ : l₀.mHdiBuffer = l.mHdiBuffer := congrArg Prod.snd heq
  rw [← hbuf₀]
  exact hfill n hn l₀ hl₀ (htype₀.trans htype)

theorem World.CursorsFilled.congr {w' : World} {ns : List Nat}
    (h : ∀ n ∈ ns, (w'.disp.layers n).map HdiLayer.looks =
      (w.disp.layers n).map HdiLayer.looks) : w'.CursorsFilled ns ↔ w.CursorsFilled ns :=
  ⟨fun hfill => hfill.of_looks fun n hn => (h n hn).symm, fun hfill => hfill.of_looks h⟩

/-- The composer and the cursor layer are there. -/
structure HasCursor (w : World) : Prop where
  composer : ∃ c, w.disp.mComposer = some c
  cursor : ∃ l, w.disp.mCursorLayer = some l

/-- A cursor layer is handed over when it has a buffer. -/
theorem takeCursor_filled (h : HasCursor w) {l : HdiLayer} {buf : HdiLayerBuffer}
    (hbuf : l.mHdiBuffer = some buf) (a : DupAnswers) :
    Post (takeCursor l a) w (fun _ w' => HasCursor w' ∧ w'.disp.layers = w.disp.layers)
      (fun _ _ => False) := by
  obtain ⟨⟨c, hc⟩, cursor, hcursor⟩ := h
  unfold takeCursor setCursorLayer
  rw [post_bind]
  refine post_of_ok (derefBuffer_of hbuf) ?_
  rw [post_bind]
  refine post_of_ok (derefLayer_of (p := .cursor) hcursor) ?_
  simp only [post_bind, post_get, post_set]
  refine post_of_ok (theComposition_of (c := c) ?_) ?_
  · exact hc
  · exact ⟨⟨⟨_, rfl⟩, ⟨_, rfl⟩⟩, rfl⟩

/-- The loop ends exactly when every cursor layer it goes over has a buffer. -/
theorem collectChanges_nulls (a : Nat → DupAnswers) (ns : List Nat) (hnodup : ns.Nodup) :
    ∀ (i : Nat) (w : World), HasCursor w → (∀ n ∈ ns, w.disp.layers n ≠ none) →
      Post (collectChanges a i ns) w (fun _ _ => w.CursorsFilled ns)
        (fun e _ => e = .nullLayerBuffer ∧ ¬ w.CursorsFilled ns) := by
  induction ns with
  | nil => exact fun _ _ _ _ n hn => absurd hn List.not_mem_nil
  | cons n ns ih =>
      intro i w h hlive
      obtain ⟨hnew, hnodup⟩ := List.nodup_cons.1 hnodup
      obtain ⟨l, hl, hderef⟩ := derefLayer_live (hlive n List.mem_cons_self)
      have hcons : w.CursorsFilled (n :: ns) ↔
          (l.mCompositionType = .cursor → l.mHdiBuffer ≠ none) ∧ w.CursorsFilled ns := by
        unfold World.CursorsFilled
        simp [hl]
      -- the rest of the loop, once this layer is dealt with
      have hrest : (l.mCompositionType = .cursor → l.mHdiBuffer ≠ none) →
          ∀ w', HasCursor w' → (∀ m, m ≠ n → w'.disp.layers m = w.disp.layers m) →
          Post (collectChanges a (i + 1) ns) w' (fun _ _ => w.CursorsFilled (n :: ns))
            (fun e _ => e = .nullLayerBuffer ∧ ¬ w.CursorsFilled (n :: ns)) := by
        intro hn w' h' hkept
        have hsame : ∀ m ∈ ns, w'.disp.layers m = w.disp.layers m :=
          fun m hm => hkept m fun heq => hnew (heq ▸ hm)
        have hiff : w'.CursorsFilled ns ↔ w.CursorsFilled (n :: ns) := by
          rw [hcons, and_iff_right hn]
          exact World.CursorsFilled.congr fun m hm => by rw [hsame m hm]
        rw [← hiff]
        apply ih hnodup (i + 1) w' h'
        intro m hm
        rw [hsame m hm]
        exact hlive m (List.mem_cons_of_mem n hm)
      have hretype : (l.mCompositionType = .cursor → l.mHdiBuffer ≠ none) →
          ∀ w', HasCursor w' → w'.disp.layers = w.disp.layers → Post (do
            if l.mDeviceSelect ≠ l.mCompositionType then
              modify (·.setLayer (.created n) (l.setLayerCompositionType l.mDeviceSelect))
              modify fun w =>
                { w with disp := { w.disp with mChangeLayers := w.disp.mChangeLayers ++ [n] } }
            collectChanges a (i + 1) ns : Hal Unit) w'
            (fun _ _ => w.CursorsFilled (n :: ns))
            (fun e _ => e = .nullLayerBuffer ∧ ¬ w.CursorsFilled (n :: ns)) := by
        intro hn w' h' hlayers
        dsimp only
        split
        · simp only [post_bind, post_modify]
          apply hrest hn
          · exact ⟨h'.composer, h'.cursor⟩
          · intro m hm
            rw [← hlayers]
            exact Function.update_of_ne hm _ _
        · apply hrest hn w' h'
          intro m _
          rw [hlayers]
      unfold collectChanges
      rw [post_bind]
      refine post_of_ok hderef ?_
      dsimp only
      split
      · next htype =>
          rw [post_bind]
          cases hbuf : l.mHdiBuffer with
          | none =>
              have hno : ¬ w.CursorsFilled (n :: ns) := fun hfill => (hcons.1 hfill).1 htype hbuf
              unfold takeCursor derefBuffer
              rw [hbuf]
              exact ⟨rfl, hno⟩
          | some buf =>
              apply (takeCursor_filled h hbuf (a i)).mono
              · rintro _ w' ⟨h', hlayers⟩
                exact hretype (by simp [hbuf]) w' h' hlayers
              · exact fun _ _ he => he.elim
      · next htype => exact hretype (fun heq => absurd heq htype) w h rfl

theorem looks_setDeviceSelect {w : World} {n : Nat} {l : HdiLayer}
    (hl : w.disp.layers n = some l) (m : Nat) :
    ((w.setLayer (.created n) (l.setDeviceSelect .client)).disp.layers m).map HdiLayer.looks =
      (w.disp.layers m).map HdiLayer.looks := by
  simp only [World.setLayer, Function.update_apply]
  split
  · next hm =>
      subst hm
      rw [hl]
      rfl
  · rfl

/-- The selection of devices changes no type and no buffer, and keeps what setting one device
keeps. -/
theorem selectDevices_post {I : World → Prop}
    (hset : ∀ w n l, I w → w.disp.layers n = some l →
      I (w.setLayer (.created n) (l.setDeviceSelect .client))) (ns : List Nat) :
    ∀ w : World, I w → (∀ n ∈ ns, w.disp.layers n ≠ none) →
      Post (selectDevices (ns.map .created)) w
        (fun _ w' => I w' ∧
          ∀ n, (w'.disp.layers n).map HdiLayer.looks = (w.disp.layers n).map HdiLayer.looks)
        (fun _ _ => False) := by
  induction ns with
  | nil => exact fun w h _ => ⟨h, fun _ => rfl⟩
  | cons n ns ih =>
      intro w h hlive
      obtain ⟨l, hl, hderef⟩ := derefLayer_live (hlive n List.mem_cons_self)
      rw [List.map_cons]
      unfold selectDevices
      rw [post_bind]
      refine post_of_ok hderef ?_
      dsimp only
      split
      · rw [post_bind, post_modify]
        have hlooks := looks_setDeviceSelect hl
        apply (ih _ (hset w n l h hl) ?_).mono
        · rintro _ w' ⟨h', hsame⟩
          exact ⟨h', fun m => (hsame m).trans (hlooks m)⟩
        · exact fun _ _ he => he
        · intro m hm hdead
          have hm' := hlooks m
          rw [hdead, Option.map_none] at hm'
          exact hlive m (List.mem_cons_of_mem n hm) (Option.map_eq_none_iff.1 hm'.symm)
      · exact ih w h fun m hm => hlive m (List.mem_cons_of_mem n hm)

/-- **`PrepareDisplayLayers` follows a null pointer exactly when it is not provided for.** -/
theorem prepareDisplayLayers_nulls (h : Equipped w) (hreg : Registered w)
    (a : Nat → DupAnswers) :
    Post (prepareDisplayLayers a) w (fun _ _ => Provided w (.prepareDisplayLayers a))
      (fun e _ => e.isNull = true ∧ ¬ Provided w (.prepareDisplayLayers a)) := by
  have hlive : ∀ n ∈ w.visible, w.disp.layers n ≠ none :=
    fun n hn => hreg.live_of_listed n (List.mem_of_mem_filter hn)
  let cleared : World := { w with disp := { w.disp with mChangeLayers := [] } }
  have hvisible : visibleLayers w.disp.mLayers cleared = .ok w.visible cleared :=
    visibleLayers_eq (w := cleared) w.disp.mLayers hreg.live_of_listed
  unfold prepareDisplayLayers
  simp only [post_bind, post_modify, post_get]
  refine post_of_ok hvisible ?_
  cases hc : w.disp.mComposer with
  | none =>
      have hnone : cleared.disp.mComposer = none := hc
      unfold theComposition
      simp only [post_bind, post_get, hnone]
      exact ⟨rfl, fun hp => hp.1 hc⟩
  | some c =>
      obtain ⟨p, hp, -⟩ := h.parts (by simp [hc])
      have hhas : HasCursor cleared := ⟨⟨c, hc⟩, _, hp.layer .cursor⟩
      have hiff : Provided w (.prepareDisplayLayers a) ↔ w.CursorsFilled w.visible := by
        unfold Provided
        simp [hc]
      rw [hiff]
      refine post_of_ok (theComposition_of (w := cleared) hc) ?_
      unfold setLayers
      simp only [post_bind]
      have hselect : ∀ v n l, HasCursor v → v.disp.layers n = some l →
          HasCursor (v.setLayer (.created n) (l.setDeviceSelect .client)) :=
        fun _ _ _ hv _ => ⟨hv.composer, hv.cursor⟩
      apply (selectDevices_post hselect w.visible cleared hhas hlive).mono
      · rintro _ w₁ ⟨⟨⟨c₁, hc₁⟩, hcursor⟩, hsame⟩
        refine post_of_ok (theComposition_of hc₁) ?_
        unfold setTheComposition
        simp only [post_modify, post_pure]
        have hfill : (w₁.setComposition { c₁ with mCompLayers := [.client] }).CursorsFilled
            w.visible ↔ w.CursorsFilled w.visible :=
          World.CursorsFilled.congr fun n _ => hsame n
        have hhas₁ : HasCursor (w₁.setComposition { c₁ with mCompLayers := [.client] }) :=
          ⟨⟨_, rfl⟩, hcursor⟩
        rw [← hfill]
        apply (collectChanges_nulls a w.visible (hreg.listed.nodup.filter _) 0 _ hhas₁ ?_).mono
        · exact fun _ _ hw => hw
        · rintro e _ ⟨rfl, hno⟩
          exact ⟨rfl, hno⟩
        · intro n hn hdead
          have hn' := hsame n
          have hdead' : w₁.disp.layers n = none := hdead
          rw [hdead', Option.map_none] at hn'
          exact hlive n hn (Option.map_eq_none_iff.1 hn'.symm)
      · exact fun _ _ he => he.elim

end

/-! ## Every operation -/

section
variable {w : World}

theorem isSteady_popReleaseFence (p : LayerRef) : IsSteady (popReleaseFence p) := by
  intro w
  unfold popReleaseFence
  rw [post_bind]
  apply derefLayer_post
  · intro l hl
    obtain ⟨fences, heq⟩ := l.getReleaseFenceFd_layer
    rw [post_bind, post_modify]
    exact Steady.setLayer hl _ (by rw [heq]; rfl)
  · exact fun _ _ => trivial

theorem isSteady_commit (a : FrameAnswers) : IsSteady (commit a) := by
  have hcompose : IsSteady (composerCommit a) := by
    apply isSteady_theComposition.bind
    intro c
    apply (isSteady_apply a).bind
    intro ret
    split <;> exact IsSteady.pure _
  apply hcompose.bind
  intro ret
  exact (isSteady_popReleaseFence .client).bind fun _ => IsSteady.pure _

theorem Shelved.registersTo {w' : World} (hs : Shelved w w') (h : Registered w) :
    RegistersTo w .success w' where
  registered := h.shelved hs
  keys := by
    intro id n hid
    rw [hs.mLayersMap] at hid
    exact Or.inl ⟨n, hid⟩
  used := by rw [hs.layerIds]
  failed := fun hne => absurd rfl hne

/-- What any operation does to the registry of all displays. -/
theorem step_registersTo (h : Registered w) (op : Op) :
    Post (step op) w (fun _ w' => RegistersTo w .success w') (fun _ _ => True) := by
  have hregistry : ∀ op : RegistryOp,
      Post (step op.op) w (fun _ w' => RegistersTo w .success w') (fun _ _ => True) := by
    intro op
    apply (step_registers h op).mono
    · exact fun _ _ hr => ⟨hr.registered, hr.keys, hr.used, fun hne => absurd rfl hne⟩
    · exact fun _ _ _ => trivial
  cases op with
  | createLayer i l => exact hregistry (.createLayer i l)
  | destroyLayer id a => exact hregistry (.destroyLayer id a)
  | setLayerZorder id z => exact hregistry (.setLayerZorder id z)
  | prepareDisplayLayers a =>
      show Post (_ <$> prepareDisplayLayers a) w _ _
      rw [post_map]
      apply (prepareDisplayLayers_post h a).mono
      · exact fun _ w' hs => hs.1.registersTo h
      · exact fun _ _ _ => trivial
  | commit a =>
      show Post (commit a >>= _) w _ _
      rw [post_bind]
      apply (isSteady_commit a w).mono
      · rintro ⟨ret, fd⟩ w' hs
        exact (Shelved.of_steady (hs.trans (Steady.setDrm w' _))).1.registersTo h
      · exact fun _ _ _ => trivial
  | getDisplayCompChange arrays =>
      show Post (getDisplayCompChange arrays >>= _) w _ _
      rw [post_bind]
      unfold getDisplayCompChange
      rw [post_bind, post_get]
      cases arrays with
      | false => exact (Shelved.refl w).registersTo h
      | true =>
          show Post (readChanges w.disp.mChangeLayers >>= _) w _ _
          rw [post_bind]
          apply (readChanges_post w.disp.mChangeLayers).mono
          · rintro changes w' ⟨rfl, -⟩
            exact (Shelved.refl w').registersTo h
          · exact fun _ _ _ => trivial
  | _ =>
      apply (isShelved_step h rfl (by simp)).mono
      · exact fun _ w' hs => hs.1.registersTo h
      · exact fun _ _ _ => trivial

/-- Only `Init` makes a composer. -/
theorem step_composerless (h : Registered w) {op : Op} (hop : op.ofFrame = false)
    (hnone : w.disp.mComposer = none) :
    Post (step op) w (fun _ w' => w'.disp.mComposer = none) (fun _ _ => True) := by
  by_cases htype : ∃ id type, op = .setLayerCompositionType id type
  · obtain ⟨id, type, rfl⟩ := htype
    show Post (_ <$> callLayerFunction id _) w _ _
    rw [post_map]
    apply (callLayerFunction_cases id _).mono
    · rintro _ w' (rfl | ⟨n, l, hl, rfl⟩)
      · exact hnone
      · simpa using hnone
    · exact fun _ _ _ => trivial
  · have hcommit : ∀ a, op ≠ .commit a := by
      rintro a rfl
      exact absurd hop (by simp [Op.ofFrame])
    have hprep : ∀ a, op ≠ .prepareDisplayLayers a := by
      rintro a rfl
      exact absurd hop (by simp [Op.ofFrame])
    apply (keepsTypes_beside h hcommit hprep fun id type heq => htype ⟨id, type, heq⟩).mono
    · intro _ w' hk
      cases hc : w'.disp.mComposer with
      | none => rfl
      | some c =>
          obtain ⟨c₀, hc₀, -⟩ := hk.cursorLayers c hc
          exact absurd (hnone.symm.trans hc₀) (by simp)
    · exact fun _ _ _ => trivial

/-- **One operation** that is provided for leaves the display as `Init` might have. -/
theorem step_equipped (h : Equipped w) (hreg : Registered w) {op : Op} (hprov : Provided w op) :
    Post (step op) w (fun _ w' => Equipped w') (fun _ _ => True) := by
  by_cases hcommit : ∃ a, op = .commit a
  · obtain ⟨a, rfl⟩ := hcommit
    show Post (commit a >>= _) w _ _
    rw [post_bind]
    apply (commit_nulls h a).mono
    · rintro ⟨ret, fd⟩ w' ⟨-, h'⟩
      exact h'.calm (Calm.handOver w' fd) id
    · exact fun _ _ _ => trivial
  · have hcalm := isCalm_step op (fun a heq => hcommit ⟨a, heq⟩) w h.noneOwned
    by_cases hnone : w.disp.mComposer = none
    · have hop : op.ofFrame = false := by
        cases op with
        | prepareDisplayLayers a => exact absurd hnone hprov.1
        | commit a => exact absurd ⟨a, rfl⟩ hcommit
        | _ => rfl
      apply (hcalm.and (step_composerless hreg hop hnone)).mono
      · exact fun _ w' hw => h.calm hw.1 fun _ => hw.2
      · exact fun _ _ _ => trivial
    · apply hcalm.mono
      · exact fun _ w' hc => h.calm hc fun heq => absurd heq hnone
      · exact fun _ _ _ => trivial

/-- **One operation on a frame** follows a null pointer exactly when it is not provided for. -/
theorem step_nulls (h : Equipped w) (hreg : Registered w) {op : Op} (hop : op.ofFrame = true) :
    Post (step op) w (fun _ _ => Provided w op) (fun e _ => e.isNull = false ↔ Provided w op) := by
  cases op with
  | prepareDisplayLayers a =>
      show Post (_ <$> prepareDisplayLayers a) w _ _
      rw [post_map]
      apply (prepareDisplayLayers_nulls h hreg a).mono
      · exact fun _ _ hprov => hprov
      · rintro e w' ⟨hnull, hno⟩
        rw [hnull]
        exact ⟨fun hf => absurd hf (by simp), fun hprov => absurd hprov hno⟩
  | commit a =>
      show Post (commit a >>= _) w _ _
      rw [post_bind]
      apply (commit_nulls h a).mono
      · exact fun _ _ hprov => hprov.1
      · exact fun _ _ he => he
  | _ => exact absurd hop (by simp [Op.ofFrame])

end

/-! ## Discovery -/

/-- The session over what `DiscoveryDisplay` returns. -/
def Discovery.session (s : Discovery) : HdiSession where
  drm := s.drm
  layerIds := s.layerIds
  displayIds := s.displayIds
  planes := s.mPlanes
  mHdiDisplays := s.mDisplays

/-- A display without layers. -/
structure HdiDisplay.Bare (disp : HdiDisplay) : Prop where
  layers : ∀ n, disp.layers n = none
  mLayersMap : ∀ id, disp.mLayersMap id = none
  mLayers : disp.mLayers = []

section
variable {w : World}

theorem HdiDisplay.Bare.noneOwned (h : w.disp.Bare) : w.NoneOwned :=
  fun n l hl => absurd ((h.layers n).symm.trans hl) (by simp)

theorem HdiDisplay.Bare.steady {w' : World} (h : w.disp.Bare) (hs : Steady w w') :
    w'.disp.Bare where
  layers := by
    intro n
    have hn := hs.filed n
    rw [h.layers n, Option.map_none] at hn
    exact Option.map_eq_none_iff.1 hn
  mLayersMap := by
    intro id
    rw [hs.disp]
    exact h.mLayersMap id
  mLayers := by
    rw [hs.disp]
    exact h.mLayers

theorem Equipped.congr {w' : World} (h : Equipped w) (hdisp : w'.disp = w.disp) : Equipped w' where
  noneOwned := by
    unfold World.NoneOwned
    rw [hdisp]
    exact h.noneOwned
  parts := by
    rw [hdisp]
    intro hsome
    obtain ⟨p, hp, hfit⟩ := h.parts hsome
    refine ⟨p, ⟨?_, fun s => ?_⟩, hfit⟩
    · rw [hdisp]
      exact hp.comp
    · have hl := hp.layer s
      cases s with
      | primary =>
          show w'.disp.mClientLayer = _
          rw [hdisp]
          exact hl
      | cursor =>
          show w'.disp.mCursorLayer = _
          rw [hdisp]
          exact hl

/-- A display whose composer has just been made. -/
structure Composed (w : World) (c : HdiDrmComposition) : Prop where
  mComposer : w.disp.mComposer = some c
  client : w.disp.mClientLayer = some {}
  cursor : w.disp.mCursorLayer = some {}
  planes : c.mPlanes ≠ []
  compLayers : c.mCompLayers = []
  cursorLayers : c.mCursorLayers = []
  bare : w.disp.Bare

theorem Composed.equipped {c : HdiDrmComposition} (h : Composed w c) : Equipped w where
  noneOwned := h.bare.noneOwned
  parts := by
    intro _
    refine ⟨⟨c, fun _ => {}⟩, ⟨h.mComposer, fun s => ?_⟩, h.planes, Or.inl h.compLayers,
      Or.inl h.cursorLayers, fun hne => absurd h.cursorLayers hne⟩
    cases s with
    | primary => exact h.client
    | cursor => exact h.cursor

/-- The first frame, whether or not it is pushed. -/
theorem pushFirstFrame_equipped {c : HdiDrmComposition} (h : Composed w c) (a : InitAnswers) :
    Post (pushFirstFrame a) w (fun _ w' => Equipped w' ∧ w'.disp.Bare) (fun _ _ => True) := by
  unfold pushFirstFrame
  rw [post_bind, post_get]
  split
  · exact ⟨h.equipped, h.bare⟩
  · next mode _ =>
      rcases w.drm.allocMem mode a.allocMem with ⟨buffer, d⟩
      cases buffer with
      | none => exact ⟨h.equipped, h.bare⟩
      | some buffer =>
          dsimp only
          rw [post_bind]
          refine post_of_ok (derefLayer_of (p := .client) h.client) ?_
          have hset : ({} : HdiLayer).setLayerBuffer d (some buffer) (-1) a.dup =
              (.success, { mHdiBuffer := some (HdiLayerBuffer.new d buffer a.dup.buffer).1 },
                (HdiLayerBuffer.new d buffer a.dup.buffer).2) := rfl
          rw [hset]
          simp only [post_bind, post_set, post_pure]
          refine post_of_ok (setLayers_nil h.mComposer) ?_
          have hbare : (w.primed c d buffer a.dup).disp.Bare :=
            ⟨h.bare.layers, h.bare.mLayersMap, h.bare.mLayers⟩
          have hstock : (c.primedParts (HdiLayerBuffer.new d buffer a.dup.buffer).1).Stocked
              [.client] := by
            refine ⟨⟨h.planes, Or.inr rfl, Or.inl h.cursorLayers, fun hne => absurd h.cursorLayers hne⟩,
              List.Subset.refl _, ?_, fun s hs => ?_⟩
            · show c.mCursorLayers ⊆ _
              rw [h.cursorLayers]
              exact List.nil_subset _
            · cases s with
              | primary => exact Option.some_ne_none _
              | cursor => exact absurd hs (by simp [Slot.layer])
          have hstart : Stocked [.client] (w.primed c d buffer a.dup) :=
            ⟨hbare.noneOwned, _, primedParts_of c d buffer a.dup h.cursor, hstock⟩
          apply ((nullFree_apply a.firstFrame _ hstart).and
            (isSteady_apply a.firstFrame (w.primed c d buffer a.dup))).mono
          · rintro ret w' ⟨h', hs⟩
            exact ⟨h'.equipped, hbare.steady hs⟩
          · exact fun _ _ _ => trivial

theorem chosePreferenceMode_equipped {c : HdiDrmComposition} (h : Composed w c)
    (a : InitAnswers) :
    Post (chosePreferenceMode a) w (fun _ w' => Equipped w' ∧ w'.disp.Bare) (fun _ _ => True) := by
  have hset : ∀ mCrtc : DrmCrtc, Composed { w with disp := { w.disp with mCrtc } } c :=
    fun mCrtc => ⟨h.mComposer, h.client, h.cursor, h.planes, h.compLayers, h.cursorLayers,
      ⟨h.bare.layers, h.bare.mLayersMap, h.bare.mLayers⟩⟩
  unfold chosePreferenceMode setDisplayMode
  simp only [post_bind, post_get, post_set, post_pure]
  show Post (if (w.disp.mCrtc.setActivieMode w.disp.mConnector.initialMode).1 ≠ .success then
    pure .failure else pushFirstFrame a) { w with disp := { w.disp with
      mCrtc := (w.disp.mCrtc.setActivieMode w.disp.mConnector.initialMode).2 } } _ _
  split
  · exact ⟨(hset _).equipped, (hset _).bare⟩
  · exact pushFirstFrame_equipped (hset _) a

/-- **`Init`**, wherever it stops. -/
theorem drmDisplayInit_equipped (hbare : w.disp.Bare) (hnone : w.disp.mComposer = none)
    (a : InitAnswers) :
    Post (drmDisplayInit a) w (fun _ w' => Equipped w' ∧ w'.disp.Bare) (fun _ _ => True) := by
  have hempty : ∀ w' : World, w'.disp.Bare → w'.disp.mComposer = none →
      Equipped w' ∧ w'.disp.Bare := fun w' hb hn =>
    ⟨⟨hb.noneOwned, fun hsome => absurd hn hsome⟩, hb⟩
  unfold drmDisplayInit hdiDisplayInit
  simp only [post_bind, post_get]
  cases w.displayIds.getIdleId invalidDisplayId with
  | none => trivial
  | some found =>
      obtain ⟨id, ids⟩ := found
      dsimp only
      by_cases hinv : id = invalidDisplayId
      · rw [if_pos hinv]
        exact hempty _ ⟨hbare.layers, hbare.mLayersMap, hbare.mLayers⟩ hnone
      · rw [if_neg hinv]
        simp only [post_bind, post_set, post_pure, ne_eq, not_true_eq_false, if_false]
        split
        · exact hempty _ ⟨hbare.layers, hbare.mLayersMap, hbare.mLayers⟩ hnone
        · simp only [post_bind, post_get]
          rcases hinit : HdiDrmComposition.init w.disp.mCrtc.mPipe w.planes with ⟨ret, c, planes⟩
          dsimp only
          rw [post_set]
          by_cases hret : ret = .success
          · have hspec : c.InitSpec w.planes := HdiDrmComposition.init_spec (hret ▸ hinit)
            have hc := hspec.empty
            rw [if_neg (not_not.2 hret)]
            simp only [setTheComposition, post_bind, post_modify, post_get, post_set]
            have hcomposed : ∀ mCrtc : DrmCrtc, Composed { w with
                displayIds := ids
                planes
                disp := { w.disp with
                  mId := id
                  mClientLayer := some {}
                  mCursorLayer := some {}
                  mComposer := some c
                  mCrtc } } c := by
              intro mCrtc
              refine ⟨rfl, rfl, rfl, hspec.nonempty, ?_, ?_,
                ⟨hbare.layers, hbare.mLayersMap, hbare.mLayers⟩⟩
              · rw [hc]
              · rw [hc]
            show Post (if (w.disp.mCrtc.bindToDisplay id).1 ≠ .success then pure .failure
              else chosePreferenceMode a) { w with
                displayIds := ids
                planes
                disp := { w.disp with
                  mId := id
                  mClientLayer := some {}
                  mCursorLayer := some {}
                  mComposer := some c
                  mCrtc := (w.disp.mCrtc.bindToDisplay id).2 } } _ _
            split
            · exact ⟨(hcomposed _).equipped, (hcomposed _).bare⟩
            · exact chosePreferenceMode_equipped (hcomposed _) a
          · rw [if_pos hret]
            exact hempty _ ⟨hbare.layers, hbare.mLayersMap, hbare.mLayers⟩ hnone

end

/-- Every display handed out is one that `Init` has left behind. -/
def Discovery.Handed (s : Discovery) : Prop :=
  ∀ devId disp, s.mDisplays devId = some disp →
    Equipped (s.session.world disp) ∧ disp.Bare

theorem Discovery.Handed.emplace {s : Discovery} (h : s.Handed) {w : World} (hw : Equipped w)
    (hbare : w.disp.Bare) : (s.emplace w).Handed := by
  intro devId disp hdisp
  unfold Discovery.emplace at hdisp
  dsimp only [Discovery.setCrtc] at hdisp
  split at hdisp
  · simp only [Function.update_apply] at hdisp
    split at hdisp
    · obtain rfl := Option.some.inj hdisp
      exact ⟨hw.congr rfl, hbare⟩
    · obtain ⟨hold, hb⟩ := h devId disp hdisp
      exact ⟨hold.congr rfl, hb⟩
  · obtain ⟨hold, hb⟩ := h devId disp hdisp
    exact ⟨hold.congr rfl, hb⟩

theorem discoverDisplay_handed (mEncoders : List DrmEncoder) {s : Discovery} (h : s.Handed)
    (x : DrmConnector × InitAnswers) :
    Post (discoverDisplay mEncoders x) s (fun _ s' => s'.Handed) (fun _ _ => True) := by
  unfold Post discoverDisplay
  cases x.1.pickIdleCrtcId mEncoders s.mCrtcs with
  | none => exact h
  | some crtcId =>
      dsimp only
      cases s.mCrtcs.find? fun c => c.mId = crtcId with
      | none => exact h
      | some mCrtc =>
          have hinit := drmDisplayInit_equipped (w := s.world { mConnector := x.1, mCrtc })
            ⟨fun _ => rfl, fun _ => rfl, rfl⟩ rfl x.2
          dsimp only
          cases hrun : drmDisplayInit x.2 (s.world { mConnector := x.1, mCrtc }) with
          | ok ret w =>
              obtain ⟨hw, hbare⟩ := hinit.of_ok hrun
              exact h.emplace hw hbare
          | error e w => trivial

/-! ## Runs -/

/-- What holds of a session along a run that is provided for. -/
structure Manned (s : HdiSession) : Prop where
  registers : Registers s
  equipped : ∀ devId disp, s.mHdiDisplays devId = some disp → Equipped (s.world disp)

theorem Discovery.Handed.manned {s : Discovery} (h : s.Handed) : Manned s.session where
  registers := by
    apply HdiSession.NoLayers.registers
    intro devId disp hdisp
    obtain ⟨-, hb⟩ := h devId disp hdisp
    exact ⟨hb.layers, hb.mLayersMap, hb.mLayers⟩
  equipped := fun devId disp hdisp => (h devId disp hdisp).1

section
variable {s : HdiSession}

theorem Manned.step (h : Manned s) {call : Call} (hcall : Furnished s call) :
    Post (sessionStep call) s (fun _ s' => Manned s') (fun _ _ => True) := by
  have hworker : ∀ devId member,
      Post (callVsyncWorker devId member) s (fun _ s' => Manned s') (fun _ _ => True) := by
    intro devId member
    apply callVsyncWorker_post
    · exact fun _ => h
    · exact fun _ _ => ⟨⟨fun d disp hd => (h.registers.display d disp hd).grow rfl (fun _ hid => hid),
        h.registers.apart⟩, fun d disp hd => (h.equipped d disp hd).congr rfl⟩
  cases call with
  | regDisplayVBlankCallback devId cb =>
      exact hworker devId fun v => v.reqesterVBlankCb (some cb)
  | setDisplayVsyncEnabled devId enabled => exact hworker devId fun v => v.enableVsync enabled
  | display devId op =>
      apply callDisplayFunction_post
      · exact fun _ => h
      · intro disp hfind
        have hdisp := (find_some hfind).1
        have hreg := h.registers.display devId disp hdisp
        apply ((step_equipped (h.equipped devId disp hdisp) hreg (hcall disp hfind)).and
          (step_registersTo hreg op)).mono
        · rintro r w ⟨hw, hto⟩
          refine ⟨h.registers.store hdisp hto, fun devId' disp' hd' => ?_⟩
          simp only [HdiSession.store, Function.update_apply] at hd'
          split at hd'
          · obtain rfl := Option.some.inj hd'
            exact hw.congr rfl
          · exact (h.equipped devId' disp' hd').congr rfl
        · exact fun _ _ _ => trivial

/-- **One call** obeys the law exactly when it is provided for. -/
theorem nullLaw_iff (h : Manned s) (call : Call) : NullLaw s call ↔ Furnished s call := by
  cases call with
  | regDisplayVBlankCallback devId cb => exact Iff.rfl
  | setDisplayVsyncEnabled devId enabled => exact Iff.rfl
  | display devId op =>
      cases hop : op.ofFrame with
      | false =>
          have hall : ∀ w, Provided w op := by
            intro w
            cases op with
            | prepareDisplayLayers a => exact absurd hop (by simp [Op.ofFrame])
            | commit a => exact absurd hop (by simp [Op.ofFrame])
            | _ => trivial
          exact iff_of_true (fun htrue => absurd (hop.symm.trans htrue) (by simp))
            (fun disp _ => hall _)
      | true =>
          have hstep : ∀ disp, s.find devId = some disp →
              Post (step op) (s.world disp) (fun _ _ => Provided (s.world disp) op)
                (fun e _ => e.isNull = false ↔ Provided (s.world disp) op) := by
            intro disp hfind
            have hdisp := (find_some hfind).1
            exact step_nulls (h.equipped devId disp hdisp) (h.registers.display devId disp hdisp) hop
          have hfurnished : ∀ disp, s.find devId = some disp →
              (Furnished s (.display devId op) ↔ Provided (s.world disp) op) := by
            intro disp hfind
            constructor
            · exact fun hall => hall disp hfind
            · rintro hprov disp' hfind'
              obtain rfl := Option.some.inj (hfind.symm.trans hfind')
              exact hprov
          constructor
          · intro hlaw disp hfind
            have hlaw' := hlaw hop
            cases hm : step op (s.world disp) with
            | ok r w => exact (hstep disp hfind).of_ok hm
            | error e w =>
                have herr : sessionStep (.display devId op) s = .error e (s.store devId w) := by
                  show callDisplayFunction devId (step op) s = _
                  unfold callDisplayFunction
                  rw [hfind]
                  dsimp only
                  rw [hm]
                exact ((hstep disp hfind).of_error hm).1 (hlaw'.of_error herr)
          · intro hfurn _
            apply callDisplayFunction_post
            · exact fun _ => Or.inl hfurn
            · intro disp hfind
              apply (hstep disp hfind).mono
              · exact fun _ _ _ => Or.inl hfurn
              · exact fun e _ he => he.2 (hfurn disp hfind)

end

/-- **Runs.** Whatever displays discovery hands out, and however their `Init` ended: no
`PrepareDisplayLayers` and no `Commit` of a run follows a null pointer exactly when each is
provided for. -/
theorem nulls_iff (drm : Drm) (layerIds displayIds : IdPool) (mPlanes : List DrmPlane)
    (mCrtcs : List DrmCrtc) (mEncoders : List DrmEncoder)
    (mConnectors : List (DrmConnector × InitAnswers)) :
    Post (run (discoverDisplay mEncoders) mConnectors)
      { drm, layerIds, displayIds, mPlanes, mCrtcs }
      (fun _ d => ∀ calls : List Call,
        Meets sessionStep NullLaw d.session calls ↔ Meets sessionStep Furnished d.session calls)
      (fun _ _ => True) := by
  have hstart : Discovery.Handed { drm, layerIds, displayIds, mPlanes, mCrtcs } :=
    fun devId disp hdisp => absurd hdisp (by simp)
  apply (run_invariant (fun s x (h : s.Handed) => discoverDisplay_handed mEncoders h x)
    hstart mConnectors).mono
  · intro _ d hd calls
    apply meets_congr (I := Manned)
    · intro s call h hlaw
      exact h.step ((nullLaw_iff h call).1 hlaw)
    · exact fun s call h => nullLaw_iff h call
    · exact hd.manned
  · exact fun _ _ _ => trivial

/-- The law is broken when a run of calls ends with a null pointer that a frame follows. -/
theorem not_meets_nullLaw {s : HdiSession} {calls : List Call} {devId : Nat} {op : Op}
    (hop : op.ofFrame = true)
    (hrun : returns (run sessionStep calls) s
      (fun _ s' => faults (sessionStep (.display devId op)) s' Fault.isNull) = true) :
    ¬ Meets sessionStep NullLaw s (calls ++ [.display devId op]) := by
  intro hmeets
  obtain ⟨rets, s', hcalls, hfault⟩ := returns_iff.1 hrun
  obtain ⟨e, s'', hstep, hnull⟩ := faults_iff.1 hfault
  have hlaw : NullLaw s' (.display devId op) := hmeets.of_run hcalls
  exact absurd (((hlaw hop).of_error hstep).symm.trans hnull) (by simp)

/-- **Null pointers are followed.** `HdiGfxComposition::Init` fails, the display is handed
out without a composer, and a frame is prepared; or a cursor layer is visible before it has
been given a buffer. -/
theorem nulls_followed :
    ¬ Post (run (discoverDisplay [⟨32, 33, 1⟩])
        [(connectorOn 31 32, { smallInit with gfxInit := false })]) oneCrtc
        (fun _ d => ∀ calls, Meets sessionStep NullLaw d.session calls) (fun _ _ => True) ∧
      ¬ Post (run (discoverDisplay [⟨32, 33, 1⟩]) [(connectorOn 31 32, smallInit)]) oneCrtc
        (fun _ d => ∀ calls, Meets sessionStep NullLaw d.session calls) (fun _ _ => True) := by
  have hbroken : ∀ (a : InitAnswers) (calls : List Call),
      returns (run (discoverDisplay [⟨32, 33, 1⟩]) [(connectorOn 31 32, a)]) oneCrtc
        (fun _ d => returns (run sessionStep calls) d.session
          (fun _ s => faults (sessionStep (.display 0 (.prepareDisplayLayers fun _ => {}))) s
            Fault.isNull)) = true →
      ¬ Post (run (discoverDisplay [⟨32, 33, 1⟩]) [(connectorOn 31 32, a)]) oneCrtc
        (fun _ d => ∀ calls, Meets sessionStep NullLaw d.session calls) (fun _ _ => True) := by
    intro a calls hrun hpost
    obtain ⟨rets, d, hdiscovered, hcalls⟩ := returns_iff.1 hrun
    exact not_meets_nullLaw rfl hcalls (hpost.of_ok hdiscovered _)
  constructor
  · apply hbroken _ []
    decide +kernel
  · apply hbroken _ [.display 0 (.createLayer false false),
      .display 0 (.setLayerCompositionType 0 .cursor)]
    decide +kernel

end QemuHal
