import QemuHal.Frame.Scanout

/-!
# A display beside another one

The displays of a process share the DRM file and nothing else: each owns its
`DrmGemBuffer` objects and holds its planes. What one of them does leaves the others
in order, as long as they have no object and no plane in common with it. `Beside`
says that a display has come through all another one did; every operation keeps it.
-/

namespace QemuHal

open Exec FlipChain

/-- All planes of a display. -/
def HdiDrmComposition.allPlanes (c : HdiDrmComposition) : List DrmPlane :=
  c.mPlanes ++ c.mCursorPlanes

theorem HdiDrmComposition.mem_allPlanes {c : HdiDrmComposition} {s : Slot} {x : DrmPlane}
    (h : x ∈ c.slotPlanes s) : x ∈ c.allPlanes := by
  cases s with
  | primary => exact List.mem_append_left _ (List.mem_of_mem_take h)
  | cursor => exact List.mem_append_right _ h

namespace Parts

/-- Two displays own no object and hold no plane in common. -/
structure Apart (p o : Parts) : Prop where
  objects : ∀ s t b, (p.layer s).Owns b → ¬ (o.layer t).Owns b
  planes : ∀ x ∈ p.comp.allPlanes, ∀ y ∈ o.comp.allPlanes, x.mId ≠ y.mId

theorem Apart.symm {p o : Parts} (h : p.Apart o) : o.Apart p :=
  ⟨fun s t b hb hb' => h.objects t s b hb' hb, fun x hx y hy => (h.planes y hy x hx).symm⟩

/-- A display that owns no more and holds no more is still apart. -/
theorem Apart.mono {p p' o : Parts} (h : p.Apart o)
    (howns : ∀ s b, (p'.layer s).Owns b → (p.layer s).Owns b)
    (hplanes : p'.comp.allPlanes = p.comp.allPlanes) : p'.Apart o :=
  ⟨fun s t b hb => h.objects s t b (howns s b hb), by rw [hplanes]; exact h.planes⟩

/-- What is good of the parts is so over any state with the same objects. -/
theorem Good.shared {p : Parts} {d d' : Drm} (h : p.Good d) (hgems : d'.gems = d.gems)
    (hnext : d'.nextGem = d.nextGem) : p.Good d' := by
  refine ⟨h.compLayers, h.cursorLayers, h.planes, h.distinctPlanes, h.clientBuffer,
    h.cursorBuffer, h.pointer, ?_, h.apart, h.disjoint, ?_⟩
  · rw [hgems]
    exact h.live
  · rw [hgems, hnext]
    exact h.remembered

/-- The request asks for nothing on the planes of the display. -/
def Unasked (o : Parts) (req : AtomicReq) : Prop :=
  ∀ y ∈ o.comp.allPlanes, req.values (.plane y.mId) .fbId = []

theorem Unasked.slot {o : Parts} {req : AtomicReq} (h : o.Unasked req) {s : Slot} {q : Nat}
    (hq : q ∈ o.comp.planeIds s) : req.values (.plane q) .fbId = [] := by
  obtain ⟨y, hy, rfl⟩ := List.mem_map.1 hq
  exact h y (HdiDrmComposition.mem_allPlanes hy)

end Parts

/-- No commit has asked for a framebuffer on the plane. -/
def NeverAsked (q : Nat) (log : List DrmCall) : Prop :=
  ∀ c ∈ commits log, c.pset.values (.plane q) .fbId = []

/-- The display `o`, as it was at `d₀`, is in order beside the display with the parts `p`
in `w`: what was scanned out on its planes still is, and planes that were dark are. -/
structure Beside (o : Parts) (d₀ : Drm) (w : World) (p : Parts) : Prop where
  apart : p.Apart o
  good : o.Good w.drm
  scan : ∀ s, Scanout o d₀ s [] → Scanout o w.drm s []
  dark : ∀ y ∈ o.comp.allPlanes, NeverAsked y.mId d₀.log → NeverAsked y.mId w.drm.log

namespace Beside

variable {o p p' : Parts} {d₀ : Drm} {w w' : World}

theorem refl (hapart : p.Apart o) (hgood : o.Good w.drm) : Beside o w.drm w p :=
  ⟨hapart, hgood, fun _ h => h, fun _ _ h => h⟩

/-- An object of the bystander has a number that is given out. -/
theorem allocated (h : Beside o d₀ w p) (hd : w.drm.Sound) {s : Slot} {b : Nat}
    (hb : (o.layer s).Owns b) : b < w.drm.nextGem := by
  by_contra hle
  exact h.good.live s b hb (hd.unallocated b (by omega))

/-! ## What a step may touch -/

/-- A step that commits nothing and touches objects of its own display only. -/
theorem keep (h : Beside o d₀ w p) (hd : w.drm.Sound) (hp : p.Good w.drm)
    (hapart : p'.Apart o) (hnext : w.drm.nextGem ≤ w'.drm.nextGem)
    (hgems : ∀ b, b < w.drm.nextGem → (∀ s, ¬ (p.layer s).Owns b) →
      w'.drm.gems b = w.drm.gems b)
    (hcommits : commits w'.drm.log = commits w.drm.log)
    (hkept : ∀ q, FbKept q w.drm.log →
      (∀ s b, (p.layer s).Owns b → w.drm.fbOf b ≠ 0 → shownFb q w.drm.log ≠ w.drm.fbOf b) →
      FbKept q w'.drm.log) : Beside o d₀ w' p' := by
  have hsame : ∀ s b, (o.layer s).Owns b → w'.drm.gems b = w.drm.gems b := fun s b hb =>
    hgems b (h.allocated hd hb) fun t hb' => h.apart.objects t s b hb' hb
  have hdark : ∀ q, NeverAsked q w.drm.log → NeverAsked q w'.drm.log := by
    intro q hq
    unfold NeverAsked
    rwa [hcommits]
  refine ⟨hapart, ?_, fun s hs => ?_, fun y hy h₀ => hdark _ (h.dark y hy h₀)⟩
  · refine ⟨h.good.compLayers, h.good.cursorLayers, h.good.planes, h.good.distinctPlanes,
      h.good.clientBuffer, h.good.cursorBuffer, h.good.pointer, fun s b hb => ?_, h.good.apart,
      h.good.disjoint, fun s b hb => ?_⟩
    · rw [hsame s b hb]
      exact h.good.live s b hb
    · obtain ⟨hlt, hown⟩ := h.good.remembered s b hb
      refine ⟨by omega, fun hne => ?_⟩
      by_cases howned : ∃ t, (p.layer t).Owns b
      · -- an object of the acting display is live, so it was no remembered one of ours
        obtain ⟨t, ht⟩ := howned
        exact absurd (hown (hp.live t b ht)) (h.apart.objects t s b ht)
      · rw [hgems b hlt fun t ht => howned ⟨t, ht⟩] at hne
        exact hown hne
  · have hscan := h.scan s hs
    have hchain : o.chain w'.drm s [] = o.chain w.drm s [] := by
      refine Parts.chain_congr rfl rfl rfl rfl (fun b hb => ?_) hcommits fun _ _ => rfl
      unfold Drm.fbOf
      rw [hsame s b hb]
    refine ⟨hchain ▸ hscan.inv, fun q hq => ?_, fun q hq => (hscan.exist q hq).congr hcommits⟩
    refine hkept q (hscan.kept q hq) fun t b hb hfb he => ?_
    obtain ⟨b', hb', he'⟩ := hscan.shown_owned hq (by rw [he]; exact_mod_cast hfb)
    obtain rfl := hd.fbOf_inj hfb (by exact_mod_cast he.symm.trans he')
    exact h.apart.objects t s b hb hb'

/-- A step that touches no object and commits nothing. -/
theorem still (h : Beside o d₀ w p) (hapart : p'.Apart o) (hgems : w'.drm.gems = w.drm.gems)
    (hnext : w'.drm.nextGem = w.drm.nextGem) (hcommits : commits w'.drm.log = commits w.drm.log)
    (hkept : ∀ q, FbKept q w.drm.log → FbKept q w'.drm.log) : Beside o d₀ w' p' := by
  have hdark : ∀ q, NeverAsked q w.drm.log → NeverAsked q w'.drm.log := by
    intro q hq
    unfold NeverAsked
    rwa [hcommits]
  refine ⟨hapart, ?_, fun s hs => (h.scan s hs).congr ?_ rfl hcommits hkept,
    fun y hy h₀ => hdark _ (h.dark y hy h₀)⟩
  · exact h.good.shared hgems hnext
  · refine Parts.chain_congr rfl rfl rfl rfl (fun b _ => ?_) hcommits fun _ _ => rfl
    unfold Drm.fbOf
    rw [hgems]

/-- A request that asks nothing of the bystander's planes is committed, or refused. -/
theorem commit {pset : AtomicReq} {fence : Option Int} (h : Beside o d₀ w p)
    (hreq : o.Unasked pset) (hapart : p'.Apart o) (hnext : w'.drm.nextGem = w.drm.nextGem)
    (hgems : w'.drm.gems = w.drm.gems)
    (hlog : w'.drm.log = .atomicCommit pset (w.drm.fbs.map Prod.fst) fence :: w.drm.log) :
    Beside o d₀ w' p' := by
  have hcommits : commits w'.drm.log =
      ⟨pset, w.drm.fbs.map Prod.fst, fence⟩ :: commits w.drm.log := by
    rw [hlog]
    rfl
  have hshown : ∀ s, ∀ q ∈ o.comp.planeIds s, shownFb q w'.drm.log = shownFb q w.drm.log := by
    intro s q hq
    unfold shownFb
    rw [hcommits]
    cases fence with
    | none => rfl
    | some n =>
        rw [carriedFb, AtomicReq.lookup, hreq.slot hq]
        rfl
  have hdark : ∀ y ∈ o.comp.allPlanes, NeverAsked y.mId w.drm.log → NeverAsked y.mId w'.drm.log := by
    intro y hy h₀ c hc
    rw [hcommits] at hc
    rcases List.mem_cons.1 hc with rfl | hc
    · exact hreq y hy
    · exact h₀ c hc
  refine ⟨hapart, h.good.shared hgems hnext, fun s hs => ?_,
    fun y hy h₀ => hdark y hy (h.dark y hy h₀)⟩
  · have hscan := h.scan s hs
    have hchain : o.chain w'.drm s [] = o.chain w.drm s [] := by
      have hfb : ∀ b, w'.drm.fbOf b = w.drm.fbOf b := by
        intro b
        unfold Drm.fbOf
        rw [hgems]
      simp only [Parts.chain, hfb, Chain.mk.injEq, true_and, and_true]
      funext q
      split
      · next hq => exact hshown s q hq
      · rfl
    refine ⟨hchain ▸ hscan.inv, fun q hq => ?_, fun q hq c hc => ?_⟩
    · rw [hlog]
      exact hscan.kept q hq
    · rw [hcommits] at hc
      rcases List.mem_cons.1 hc with rfl | hc
      · rw [hreq.slot hq]
        intro fb hfb
        exact absurd hfb (by simp)
      · exact hscan.exist q hq c hc

/-! ## The steps of a frame -/

theorem rotate {s : Slot} {buf : HdiLayerBuffer} {a : PlaneAnswers} (h : Beside o d₀ w p)
    (hd : w.drm.Sound) (hp : p.Good w.drm) :
    Beside o d₀ (w.rotate s p buf a) (p.rotate s w.drm.nextGem) := by
  refine h.keep hd hp ⟨fun t u b hb hb' => ?_, ?_⟩ ?_ (fun b hlt hno => ?_) World.rotate_commits
    fun q hk hs => hk.rotate hd hp fun b hb => hs s b (Or.inr hb)
  · rcases Parts.rotate_owns hb with ⟨-, rfl⟩ | ⟨hb, -⟩
    · exact h.good.ne_next hd hb' rfl
    · exact h.apart.objects t u b hb hb'
  · have hplanes : (p.rotate s w.drm.nextGem).comp.allPlanes = p.comp.allPlanes := by
      cases s <;> rfl
    rw [hplanes]
    exact h.apart.planes
  · rw [World.rotate_nextGem]
    omega
  · rw [World.rotate_gems, if_neg fun hl => hno s (Or.inr hl), if_neg (by omega)]

theorem neutral (h : Beside o d₀ w p) (hn : Neutral w p w' p') : Beside o d₀ w' p' := by
  obtain ⟨log, hdrm, hcommits, hkept⟩ := hn.gems
  obtain ⟨b, rfl⟩ := hn.parts
  refine h.still (h.apart.mono (fun _ _ hb => hb) rfl) ?_ ?_ ?_ fun q hk => ?_
  · rw [hdrm]
  · rw [hdrm]
  · rw [hdrm]
    exact hcommits
  · rw [hdrm]
    exact (hkept q).2 hk

theorem released {s : Slot} {a : DropAnswers} (h : Beside o d₀ w p) (hd : w.drm.Sound)
    (hp : p.Good w.drm) : Beside o d₀ (w.released p s a) (p.released s) := by
  obtain ⟨-, -, hnext, hcommits, -⟩ := w.drm.released_frame p s a
  refine h.keep hd hp (h.apart.mono (fun _ _ hb => hb) ?_) hnext.ge (fun b _ hno => ?_) hcommits
    fun q hk hs => Drm.released_kept a hk fun gem hl hlive =>
      hs s gem ((hp.remembered s gem hl).2 hlive)
  · cases s <;> rfl
  · show (w.drm.released p s a).gems b = _
    rcases w.drm.released_cases p s a with heq | ⟨gem, g, hl, hg, heq⟩
    · rw [heq]
    · obtain ⟨g', d', hspec, heq'⟩ := w.drm.releaseBuffer_spec gem g a
      have hne : b ≠ gem := by
        rintro rfl
        exact hno s ((hp.remembered s b hl).2 (by rw [hg]; simp))
      rw [heq, heq']
      exact Function.update_of_ne hne _ _

theorem fenced (h : Beside o d₀ w p) (n : Int) : Beside o d₀ (w.fenced p n) (p.fenced n) := by
  refine ⟨h.apart.mono (fun s b hb => ?_) rfl, ?_, ?_, ?_⟩
  · obtain ⟨fences, hl⟩ := p.fenced_layer n s
    unfold HdiLayer.Owns at hb ⊢
    rwa [hl] at hb
  all_goals rw [World.fenced_drm]
  · exact h.good
  · exact h.scan
  · exact h.dark

theorem popped (h : Beside o d₀ w p) :
    Beside o d₀ (w.setLayer .client (p.layer .primary).getReleaseFenceFd.2) p.popped := by
  refine ⟨h.apart.mono (fun s b hb => ?_) rfl, ?_, ?_, ?_⟩
  · obtain ⟨fences, hl⟩ := p.popped_layer s
    unfold HdiLayer.Owns at hb ⊢
    rwa [hl] at hb
  all_goals rw [World.setLayer_drm]
  · exact h.good
  · exact h.scan
  · exact h.dark

theorem calm (h : Beside o d₀ w p) (hc : Calm w w') (hcalm : p.Calm p') :
    Beside o d₀ w' p' := by
  obtain ⟨fds, hdrm⟩ := hc.drm
  refine h.still (h.apart.mono (fun s b hb => ?_) ?_) ?_ ?_ ?_ fun q hk => ?_
  · unfold HdiLayer.Owns at hb ⊢
    rwa [(hcalm.layer s).current, (hcalm.layer s).last] at hb
  · rw [hcalm.comp]
    rfl
  all_goals rw [hdrm]
  exact hk

end Beside

/-! ## A frame -/

/-- The display `o` is in order beside the display of `w`. -/
def World.BesideOf (o : Parts) (d₀ : Drm) (w : World) : Prop := ∃ p : Parts, p.Of w ∧ Beside o d₀ w p

section
variable {o p : Parts} {d₀ : Drm} {w : World}

/-- What the loops of a frame keep of the bystander. -/
def UndisturbedBy (o : Parts) (d₀ : Drm) (w : World) (p : Parts) (req : AtomicReq) : Prop :=
  Beside o d₀ w p ∧ o.Unasked req

theorem undisturbed_loopInv {p₀ : Parts} {w₀ : World} {a : FrameAnswers} {s : Slot}
    (hapart : p₀.Apart o) :
    LoopInv w₀ p₀ a s fun _ _ w p req => UndisturbedBy o d₀ w p req where
  rotate := fun halong _ _ _ h => ⟨h.1.rotate halong.wf.sound (halong.wf.good halong.of), h.2⟩
  carry := by
    intro n C j drmPlane w p buf req halong _ hmem _ _ h
    refine ⟨h.1.rotate halong.wf.sound (halong.wf.good halong.of), fun y hy => ?_⟩
    have hne : drmPlane.mId ≠ y.mId :=
      hapart.planes drmPlane (HdiDrmComposition.mem_allPlanes hmem) y hy
    rw [values_cons, if_neg, h.2 y hy]
    simp [fbEntry, hne]

/-- The two releases. -/
theorem BesideOf.releases (h : WellFormed w) (hp : p.Of w) (hb : Beside o d₀ w p)
    (a : FrameAnswers) :
    Post (do releaseLast .primary a.release; releaseLast .cursor a.releaseCursor) w
      (fun _ w' => w'.BesideOf o d₀) (fun _ w' => w'.BesideOf o d₀) := by
  have h₁ := h.released hp .primary a.release
  have hp₁ := hp.released .primary a.release
  have hb₁ := hb.released (s := .primary) (a := a.release) h.sound (h.good hp)
  rw [post_bind]
  refine releaseLast_post hp (fun _ => ?_) (fun _ => ⟨p, hp, hb⟩)
  refine releaseLast_post hp₁ (fun _ => ?_) (fun _ => ⟨_, hp₁, hb₁⟩)
  exact ⟨_, hp₁.released _ _, hb₁.released h₁.sound (h₁.good hp₁)⟩

/-- **A frame of one display leaves the other one in order**, however it ends. -/
theorem BesideOf.apply (h : WellFormed w) (hp : p.Of w) (hb : Beside o d₀ w p)
    (a : FrameAnswers) :
    Post (QemuHal.apply a) w (fun _ w' => w'.BesideOf o d₀) (fun _ w' => w'.BesideOf o d₀) := by
  have hloop : ∀ s, LoopInv w p a s fun _ _ w p req => UndisturbedBy o d₀ w p req :=
    fun _ => undisturbed_loopInv hb.apart
  refine apply_post h hp (hloop .primary) (hloop .cursor) (fun halong hn hu => ?_) ?_
    ⟨hb, fun _ _ => rfl⟩ (fun _ _ _ _ hu => hu) (fun _ => ⟨p, hp, hb⟩)
    (fun w' p' req halong hu _ _ => ⟨p', halong.of, hu.1⟩) ?_
  · exact ⟨hu.1.neutral hn, hu.2⟩
  · rintro w' blob ⟨p', hp', hb'⟩
    exact ⟨p', (Neutral.destroyBlob blob).of hp', hb'.neutral (Neutral.destroyBlob blob)⟩
  · intro w' p' pset halong hu _
    have hreq : o.Unasked pset := by
      intro y hy
      rw [← AtomicReq.values_fbEntries]
      exact hu.2 y hy
    refine commitFrame_post halong.wf halong.of (fun _ => ?_) fun n _ => ?_
    · exact ⟨p', halong.of.refused pset, hu.1.commit hreq hu.1.apart rfl rfl rfl⟩
    · have hcommitted : Beside o d₀ (w'.committed pset n) p' :=
        hu.1.commit hreq hu.1.apart rfl rfl rfl
      exact BesideOf.releases ((halong.wf.committed pset n).fenced (halong.of.committed pset n) n)
        ((halong.of.committed pset n).fenced n) (hcommitted.fenced n) a

/-! ## The planes of a display -/

/-- The display has these planes. -/
def World.HasPlanes (w : World) (planes : List DrmPlane) : Prop :=
  ∃ p : Parts, p.Of w ∧ p.comp.allPlanes = planes

/-- A frame keeps the planes of its display, however it ends. -/
theorem hasPlanes_apply (h : WellFormed w) (hp : p.Of w) (a : FrameAnswers) :
    Post (QemuHal.apply a) w (fun _ w' => w'.HasPlanes p.comp.allPlanes)
      (fun _ w' => w'.HasPlanes p.comp.allPlanes) := by
  have htriv : ∀ s, LoopInv w p a s fun _ _ _ _ _ => True :=
    fun _ => ⟨fun _ _ _ _ _ => trivial, fun _ _ _ _ _ _ => trivial⟩
  have hsame : ∀ {w' p'}, Along w p w' p' → p'.comp.allPlanes = p.comp.allPlanes := by
    intro w' p' halong
    rw [halong.comp]
    rfl
  have hslot : ∀ (p' : Parts) (s : Slot), (p'.released s).comp.allPlanes = p'.comp.allPlanes := by
    intro p' s
    cases s <;> rfl
  refine apply_post h hp (htriv .primary) (htriv .cursor) (fun _ _ _ => trivial) ?_ trivial
    (fun _ _ _ _ _ => trivial) (fun _ => ⟨p, hp, rfl⟩)
    (fun w' p' _ halong _ _ _ => ⟨p', halong.of, hsame halong⟩) ?_
  · rintro w' blob ⟨p', hp', hplanes⟩
    exact ⟨p', (Neutral.destroyBlob blob).of hp', hplanes⟩
  · intro w' p' pset halong _ _
    have hplanes := hsame halong
    refine commitFrame_post halong.wf halong.of
      (fun _ => ⟨p', halong.of.refused pset, hplanes⟩) fun n _ => ?_
    have hof := (halong.of.committed pset n).fenced n
    rw [post_bind]
    refine releaseLast_post hof (fun _ => ?_) (fun _ => ⟨_, hof, hplanes⟩)
    refine releaseLast_post (hof.released _ _) (fun _ => ⟨_, (hof.released _ _).released _ _, ?_⟩)
      (fun _ => ⟨_, hof.released _ _, ?_⟩)
    · rw [hslot, hslot]
      exact hplanes
    · rw [hslot]
      exact hplanes

/-! ## An operation -/

/-- An operation leaves its own display well-formed, however it ends. -/
theorem WellFormed.step_ends (h : WellFormed w) (op : Op) :
    Post (QemuHal.step op) w (fun _ w' => WellFormed w') (fun _ w' => WellFormed w') := by
  have hstep : Post (QemuHal.step op) w (fun _ w' => WellFormed w' ∧ True)
      (fun _ w' => WellFormed w') := by
    apply step_post h trivial
    · exact fun _ _ _ => trivial
    · exact fun _ _ _ => trivial
    · exact fun _ _ _ hwf _ => hwf
    · exact fun a _ => (h.apply a).mono (fun _ _ _ => trivial) (fun _ _ hw => hw.1)
  exact hstep.mono (fun _ _ hw => hw.1) (fun _ _ hw => hw)

/-- An operation keeps the planes of its display. -/
theorem hasPlanes_step {planes : List DrmPlane} (h : WellFormed w) (hw : w.HasPlanes planes)
    (op : Op) : Post (QemuHal.step op) w (fun _ w' => w'.HasPlanes planes) (fun _ _ => True) := by
  have hstep : Post (QemuHal.step op) w (fun _ w' => WellFormed w' ∧ w'.HasPlanes planes)
      (fun _ _ => True) := by
    refine step_post h hw ?_ ?_ (fun _ _ _ _ _ => trivial) ?_
    · rintro w w' - hc ⟨p, hp, hplanes⟩
      obtain ⟨p', hp', hcalm⟩ := hc.parts p hp
      refine ⟨p', hp', ?_⟩
      rw [hcalm.comp]
      exact hplanes
    · rintro w p - hp ⟨p', hp', hplanes⟩
      obtain rfl := hp.unique hp'
      exact ⟨p.popped, hp.popped, hplanes⟩
    · rintro a rfl
      obtain ⟨p, hp, rfl⟩ := hw
      exact (hasPlanes_apply h hp a).mono (fun _ _ hw' => hw') (fun _ _ _ => trivial)
  exact hstep.mono (fun _ _ hw' => hw'.2) (fun _ _ _ => trivial)

/-- **An operation of one display leaves the other one in order**, however it ends. -/
theorem BesideOf.step (h : WellFormed w) (hb : w.BesideOf o d₀) (op : Op) :
    Post (QemuHal.step op) w (fun _ w' => WellFormed w' ∧ w'.BesideOf o d₀)
      (fun _ w' => w'.BesideOf o d₀) := by
  refine step_post h hb ?_ ?_ (fun _ _ _ _ hb => hb) ?_
  · rintro w w' - hc ⟨p, hp, hb⟩
    obtain ⟨p', hp', hcalm⟩ := hc.parts p hp
    exact ⟨p', hp', hb.calm hc hcalm⟩
  · rintro w p - hp ⟨p', hp', hb⟩
    obtain rfl := hp.unique hp'
    exact ⟨p.popped, hp.popped, hb.popped⟩
  · rintro a rfl
    obtain ⟨p, hp, hb⟩ := hb
    exact BesideOf.apply h hp hb a

end

end QemuHal
