import QemuHal.Frame.Requested

/-!
# Where the framebuffers of a frame come from

A `DrmGemBuffer` imports the buffer of its layer and makes a framebuffer on it. Read off the
log, every framebuffer a frame makes comes from the dma-buf that the duplicate in its layer's
buffer object denotes when the frame begins.
-/

namespace QemuHal

open Exec

/-! ## The record of framebuffers -/

/-- A framebuffer the HAL made, the object it was made for, and the dma-buf this had imported. -/
structure Built where
  gem : Nat
  fb : Nat
  source : Option Nat
deriving DecidableEq, Repr

/-- The dma-buf imported last for the object. -/
def importedFor (gem : Nat) : List DrmCall → Option Nat
  | [] => none
  | .primeFDToHandle g dmaBuf _ :: log => if g = gem then some dmaBuf else importedFor gem log
  | _ :: log => importedFor gem log

/-- The framebuffers made so far, newest first. -/
def builtFbs : List DrmCall → List Built
  | [] => []
  | .addFB2 gem fb :: log => ⟨gem, fb, importedFor gem log⟩ :: builtFbs log
  | _ :: log => builtFbs log

/-- The framebuffers made between two states. -/
def newBuilt (w w' : World) : List Built := newer (builtFbs w.drm.log) (builtFbs w'.drm.log)

/-- The slot an object made in the last frame belongs to: the client layer's buffer is got
once in a frame and remembered, every other one is the cursor layer's. -/
def World.slotOf (w : World) (gem : Nat) : Slot :=
  match w.disp.mComposer with
  | some c => if c.mCurrentGemBuffer = some gem then .primary else .cursor
  | none => .cursor

theorem World.slotOf_congr {w w' : World} (h : w'.disp.mComposer = w.disp.mComposer) (gem : Nat) :
    w'.slotOf gem = w.slotOf gem := by
  unfold slotOf
  rw [h]

theorem forgets_builtFbs : Forgets builtFbs := by
  intro call log hback
  cases call <;> first | rfl | exact absurd hback (by simp [DrmCall.givesBack])

/-- What a frame has built so far, each from the dma-buf the buffer of its slot denoted in
the state `w` before the frame. -/
def BuiltFrom (w : World) (p : Parts) (gem : Option Nat) (es : List Built) : Prop :=
  ∀ e ∈ es, ∃ s : Slot, (s = .primary ↔ gem = some e.gem) ∧
    ∃ buf ∈ (p.layer s).mHdiBuffer, ∃ b, e.source = some b ∧ w.drm.dmaBufAt buf.mFd = some b

theorem Drm.addFB2_log (d : Drm) (gem handle : Nat) (width height : Int) (format : FbFormat)
    (pitch : Int) (answer : Option Nat) :
    (d.addFB2 gem handle width height format pitch answer).2.log = d.log ∨
      ∃ fb, (d.addFB2 gem handle width height format pitch answer).2.log =
        .addFB2 gem fb :: d.log := by
  unfold addFB2
  split
  · exact Or.inr ⟨_, rfl⟩
  · exact Or.inl rfl

/-- A new object builds at most one framebuffer, from what its buffer's duplicate denotes. -/
theorem Drm.newGem_builtFbs (d : Drm) (hdl : HdiLayerBuffer) (a : ImportAnswers) :
    ∃ es, builtFbs (d.newGem hdl a).2.log = es ++ builtFbs d.log ∧
      ∀ e ∈ es, e.gem = d.nextGem ∧ ∃ b, e.source = some b ∧ d.dmaBufAt hdl.mFd = some b := by
  show ∃ es, builtFbs (DrmGemBuffer.init { d with nextGem := d.nextGem + 1 } d.nextGem hdl a).2.log =
    es ++ builtFbs d.log ∧ _
  unfold DrmGemBuffer.init
  split
  · exact ⟨[], rfl, by simp⟩
  · -- a successful import is the newest call of its object
    have himport := primeFDToHandle_cases { d with nextGem := d.nextGem + 1 } d.nextGem hdl.mFd
      a.handle
    generalize primeFDToHandle { d with nextGem := d.nextGem + 1 } d.nextGem hdl.mFd a.handle = r
      at himport
    obtain ⟨handle, d'⟩ := r
    have hlog : (handle = none ∧ d'.log = d.log) ∨ ∃ b h, handle = some h ∧
        d.dmaBufAt hdl.mFd = some b ∧ d'.log = .primeFDToHandle d.nextGem b h :: d.log := by
      rcases himport with ⟨-, heq⟩ | ⟨b, h, hb, -, ⟨-, heq⟩ | ⟨-, -, -, heq⟩⟩
      · obtain ⟨rfl, rfl⟩ := Prod.mk.inj heq
        exact Or.inl ⟨rfl, rfl⟩
      · obtain ⟨rfl, rfl⟩ := Prod.mk.inj heq
        exact Or.inr ⟨b, h, rfl, hb, rfl⟩
      · obtain ⟨rfl, rfl⟩ := Prod.mk.inj heq
        exact Or.inr ⟨b, h, rfl, hb, rfl⟩
    rcases hlog with ⟨rfl, hlog⟩ | ⟨b, h, rfl, hb, hlog⟩
    · exact ⟨[], congrArg builtFbs hlog, by simp⟩
    · have hbefore : builtFbs d'.log = builtFbs d.log := by
        rw [hlog]
        rfl
      have himported : importedFor d.nextGem d'.log = some b := by
        rw [hlog]
        exact if_pos rfl
      have hadd := d'.addFB2_log d.nextGem h hdl.mWidth hdl.mHeight .xrgb8888 hdl.mStride a.fb
      dsimp only
      generalize d'.addFB2 d.nextGem h hdl.mWidth hdl.mHeight .xrgb8888 hdl.mStride a.fb = r at hadd
      obtain ⟨fb, d''⟩ := r
      rcases hadd with hlog' | ⟨n, hlog'⟩
      · refine ⟨[], ?_, by simp⟩
        cases fb <;> exact (congrArg builtFbs hlog').trans hbefore
      · refine ⟨[⟨d.nextGem, n, importedFor d.nextGem d'.log⟩], ?_, by
          simpa using ⟨b, himported, hb⟩⟩
        cases fb <;> exact (congrArg builtFbs hlog').trans (congrArg (List.cons _) hbefore)

/-! ## The loops -/

theorem World.rotate_builtFbs {w : World} {s : Slot} {p : Parts} {buf : HdiLayerBuffer}
    {a : PlaneAnswers} : builtFbs (w.rotate s p buf a).drm.log =
      builtFbs (w.drm.newGem buf a.prime).2.log := by
  rw [rotate_drm, Drm.destroyOwned_record forgets_builtFbs]

/-- What has been built while the loops run. -/
def BuiltAlong (w₀ : World) (p₀ : Parts) (w : World) (p : Parts) : Prop :=
  ∃ es, builtFbs w.drm.log = es ++ builtFbs w₀.drm.log ∧
    BuiltFrom w₀ p₀ (p.comp.currentGem .primary) es

/-- A rotation of the client layer's slot, the only one. -/
theorem BuiltAlong.first {w₀ w : World} {p₀ p : Parts} (h : Along w₀ p₀ w p)
    (hnone : builtFbs w.drm.log = builtFbs w₀.drm.log) {buf : HdiLayerBuffer}
    (hbuf : (p.layer .primary).mHdiBuffer = some buf) (a : PlaneAnswers) :
    BuiltAlong w₀ p₀ (w.rotate .primary p buf a) (p.rotate .primary w.drm.nextGem) := by
  obtain ⟨es, heq, hes⟩ := w.drm.newGem_builtFbs buf a.prime
  refine ⟨es, ?_, fun e he => ?_⟩
  · rw [World.rotate_builtFbs, heq, hnone]
  · obtain ⟨hgem, b, hsource, hb⟩ := hes e he
    refine ⟨.primary, iff_of_true rfl (by rw [hgem]; rfl), buf, ?_, b, hsource, ?_⟩
    · rw [← h.mHdiBuffer]
      exact hbuf
    · rw [← hb]
      unfold Drm.dmaBufAt
      rw [h.fds]

/-- A rotation of the cursor layer's slot. -/
theorem BuiltAlong.cursor {w₀ w : World} {p₀ p : Parts} (h : Along w₀ p₀ w p)
    (hbuilt : BuiltAlong w₀ p₀ w p) {buf : HdiLayerBuffer}
    (hbuf : (p.layer .cursor).mHdiBuffer = some buf) (a : PlaneAnswers) :
    BuiltAlong w₀ p₀ (w.rotate .cursor p buf a) (p.rotate .cursor w.drm.nextGem) := by
  obtain ⟨es, heq, hes⟩ := w.drm.newGem_builtFbs buf a.prime
  obtain ⟨es₀, heq₀, hes₀⟩ := hbuilt
  refine ⟨es ++ es₀, ?_, fun e he => ?_⟩
  · rw [World.rotate_builtFbs, heq, heq₀, List.append_assoc]
  · have hcurrent : (p.rotate .cursor w.drm.nextGem).comp.currentGem .primary =
        p.comp.currentGem .primary := rfl
    rw [hcurrent]
    rcases List.mem_append.1 he with he | he
    · -- the client layer's object is live, and the new one was not
      obtain ⟨hgem, b, hsource, hb⟩ := hes e he
      refine ⟨.cursor, iff_of_false (by simp) fun hsame => ?_, buf, ?_, b, hsource, ?_⟩
      · have hgood := h.wf.good h.of
        rw [hgem, hgood.pointer] at hsame
        exact hgood.live .primary _ (Or.inl hsame) (h.wf.sound.unallocated _ (le_refl _))
      · rw [← h.mHdiBuffer]
        exact hbuf
      · rw [← hb]
        unfold Drm.dmaBufAt
        rw [h.fds]
    · exact hes₀ e he

theorem Parts.Of.blocked {w : World} {p : Parts} (h : p.Of w) (block : Option Nat) :
    p.Of (w.blocked block) := by
  cases block with
  | none => exact h
  | some blob => exact (Neutral.createBlob (w := w) blob).of h

theorem BuiltAlong.blocked {w₀ w : World} {p₀ p : Parts} (h : BuiltAlong w₀ p₀ w p)
    (block : Option Nat) : BuiltAlong w₀ p₀ (w.blocked block) p := by
  cases block with
  | none => exact h
  | some blob => exact h

/-! ## The frame -/

/-- Every framebuffer a frame makes comes from the dma-buf that its layer's buffer denotes. -/
def FrameBuilds (w : World) (p : Parts) (w' : World) : Prop :=
  ∀ e ∈ newBuilt w w', ∃ buf ∈ (p.layer (w'.slotOf e.gem)).mHdiBuffer, ∃ b,
    e.source = some b ∧ w.drm.dmaBufAt buf.mFd = some b

theorem BuiltFrom.frameBuilds {w w' : World} {p : Parts} {c : HdiDrmComposition} {es : List Built}
    (h : BuiltFrom w p c.mCurrentGemBuffer es) (hc : w'.disp.mComposer = some c)
    (hes : builtFbs w'.drm.log = es ++ builtFbs w.drm.log) : FrameBuilds w p w' := by
  intro e he
  have hnew : newBuilt w w' = es := by
    unfold newBuilt
    rw [hes]
    exact newer_append _ _
  rw [hnew] at he
  obtain ⟨s, hs, hsource⟩ := h e he
  have hslot : w'.slotOf e.gem = s := by
    unfold World.slotOf
    rw [hc]
    dsimp only
    split
    · next hgem => exact (hs.2 hgem).symm
    · next hgem =>
        cases s with
        | primary => exact absurd (hs.1 rfl) hgem
        | cursor => rfl
  rw [hslot]
  exact hsource

theorem FrameBuilds.congr {w w' w'' : World} {p : Parts} (h : FrameBuilds w p w')
    (hlog : builtFbs w''.drm.log = builtFbs w'.drm.log)
    (hslot : ∀ gem, w''.slotOf gem = w'.slotOf gem) : FrameBuilds w p w'' := by
  unfold FrameBuilds newBuilt
  rw [hlog]
  simp only [hslot]
  exact h

/-- The releases build nothing and leave the current objects where they are. -/
theorem FrameBuilds.releases {w w' : World} {p p' : Parts} {a : FrameAnswers}
    (h : FrameBuilds w p w') (hp : p'.Of w') :
    Post (do releaseLast .primary a.release; releaseLast .cursor a.releaseCursor) w'
      (fun _ w'' => FrameBuilds w p w'') (fun _ w'' => FrameBuilds w p w'') := by
  have hreleased : ∀ {w' : World} {p' : Parts} (s : Slot) (b : DropAnswers), p'.Of w' →
      FrameBuilds w p w' → FrameBuilds w p (w'.released p' s b) := by
    intro w' p' s b hp' h
    refine h.congr (Drm.released_record forgets_builtFbs _ _ _ _) fun gem => ?_
    have hcomp : w'.disp.mComposer = some p'.comp := hp'.comp
    unfold World.slotOf
    rw [hcomp]
    cases s <;> rfl
  rw [post_bind]
  refine releaseLast_post hp (fun _ => ?_) (fun _ => h)
  exact releaseLast_post (hp.released _ _)
    (fun _ => hreleased _ _ (hp.released _ _) (hreleased _ _ hp h))
    (fun _ => hreleased _ _ hp h)

/-- **The framebuffers of a frame.** -/
theorem apply_builds {w : World} {p : Parts} (h : WellFormed w) (hp : p.Of w)
    (a : FrameAnswers) :
    Post (apply a) w (fun _ w' => FrameBuilds w p w') (fun _ w' => FrameBuilds w p w') := by
  -- the client layer's slot is rotated once, and nothing is built before that
  have hprimary : LoopInv w p a .primary fun n _ w' p' _ =>
      (n ≠ 0 → builtFbs w'.drm.log = builtFbs w.drm.log) ∧ BuiltAlong w p w' p' := by
    constructor
    · intro j drmPlane w' p' buf req halong hbuf _ _ hJ
      exact ⟨fun hn => absurd rfl hn, BuiltAlong.first halong (hJ.1 one_ne_zero) hbuf _⟩
    · intro n C j drmPlane w' p' buf req halong hbuf _ hcount _ hJ
      have hone := p.rotations_primary_le w.drm a
      exact ⟨fun hn => absurd hn (by omega),
        BuiltAlong.first halong (hJ.1 (Nat.succ_ne_zero n)) hbuf _⟩
  have hcursor : LoopInv w p a .cursor fun _ _ w' p' _ => BuiltAlong w p w' p' :=
    ⟨fun halong hbuf _ _ hJ => hJ.cursor halong hbuf _,
      fun halong hbuf _ _ _ hJ => hJ.cursor halong hbuf _⟩
  have hdone : ∀ {w' : World} {p' : Parts}, p'.Of w' → BuiltAlong w p w' p' → FrameBuilds w p w' := by
    rintro w' p' hp' ⟨es, heq, hes⟩
    exact hes.frameBuilds hp'.comp heq
  refine apply_post_requested h hp hprimary hcursor ?_ ?_ ⟨fun _ => rfl, [], rfl, by simp [BuiltFrom]⟩ ?_ ?_ ?_ ?_
  · exact fun _ hJ => hJ
  · exact fun _ _ hQ => hQ.congr rfl fun _ => rfl
  · exact fun _ _ _ _ hJ => hJ.2
  · intro _ e he
    rw [newBuilt, newer_self] at he
    exact absurd he (by simp)
  · intro w' p' req halong hJ _ _
    exact hdone (halong.of.blocked _) (hJ.blocked _)
  · intro w' p' pset halong hJ _ _
    have hwf : WellFormed (w'.blocked (w.modeBlock a)) := by
      rcases w'.blocked_cases p' (w.modeBlock a) with heq | hn
      · rw [heq]
        exact halong.wf
      · exact halong.wf.neutral halong.of hn
    have hof := halong.of.blocked (w.modeBlock a)
    have hbuilt := hdone hof (hJ.blocked (w.modeBlock a))
    refine commitFrame_post hwf hof (fun _ => ?_) fun n _ => ?_
    · exact hbuilt.congr rfl fun _ => rfl
    · apply FrameBuilds.releases _ ((hof.committed pset n).fenced n)
      apply hbuilt.congr
      · rw [World.fenced_drm]
        rfl
      · intro gem
        have hcomp := ((hof.committed pset n).fenced n).comp
        exact World.slotOf_congr (hcomp.trans hof.comp.symm) gem

end QemuHal
