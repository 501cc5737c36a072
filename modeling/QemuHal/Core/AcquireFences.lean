import QemuHal.Core.BufferRefs
import QemuHal.Frame.InFences

/-!
# The fence a buffer came with

`SetLayerBuffer` renews the fence of a layer only when it is given one, so a buffer without a
fence is committed with the fence of a buffer before it. `PrepareDisplayLayers` hands the
buffer of a cursor layer over without its fence.
-/

namespace QemuHal

open Exec

/-! ## The law -/

/-- What is put on a plane beside the framebuffers `fbs`, for a buffer passed with the fence
`fence`: a duplicate of that fence of the HAL's own. -/
def PutWith (d : Drm) (fence : Option File) (fbs fences : List Int) : Prop :=
  (∀ fd ∈ fences, ∃ file ∈ fence, d.fds fd = some ⟨file, true⟩) ∧
    (fbs ≠ [] → (fences = [] ↔ fence = none))

instance (d : Drm) (fence : Option File) (fbs fences : List Int) :
    Decidable (PutWith d fence fbs fences) :=
  inferInstanceAs (Decidable (_ ∧ _))

/-- The planes a frame puts the buffer of the slot on. -/
def World.slotPlanes (w : World) (t : Slot) : List DrmPlane :=
  match w.disp.mComposer with
  | some comp => comp.slotPlanes t
  | none => []

/-- Every plane waits for the fence passed with the buffer it is given. -/
def FencesPut (s : World × (LayerRef → Passed)) (w' : World) : Prop :=
  ∀ c ∈ newCommits s.1 w', ∀ t : Slot, ∀ q ∈ s.1.slotPlanes t,
    PutWith s.1.drm (s.2 t.layer).fence (c.pset.values (.plane q.mId) .fbId)
      (c.pset.values (.plane q.mId) .inFenceFd)

instance (s : World × (LayerRef → Passed)) (w' : World) : Decidable (FencesPut s w') :=
  inferInstanceAs (Decidable (∀ c ∈ newCommits s.1 w', _))

/-- The descriptors of the HAL over an operation: what is held is open and has one holder,
what is given up is closed, and nothing else is. -/
structure Custody (op : Op) (w w' : World) : Prop where
  one : ∀ k k' fd, w'.Holds k fd → w'.Holds k' fd → k = k'
  live : ∀ k fd, w'.Holds k fd → w'.drm.Ours fd
  closed : ∀ k fd, w.Holds k fd → (∀ k', ¬ w'.Holds k' fd) → ¬ w'.drm.Ours fd
  kept : ∀ p m fd, ¬ op.Touches p → w.Holds (.layer p m) fd →
    w'.Holds (.layer p m) fd ∧ w'.drm.fds fd = w.drm.fds fd
  others : (∀ fd file, op ≠ .clientFd fd file) → ∀ fd, w.drm.fds fd ≠ none →
    (∀ k, ¬ w.Holds k fd) → w'.drm.fds fd = w.drm.fds fd

/-- A commit waits for the fences of its buffers, also when it stops on a fault, and every
operation closes what it gives up. -/
def OwnFences (s : World × (LayerRef → Passed)) (op : Op) : Prop :=
  (∀ a, op = .commit a →
    Post (step op) s.1 (fun _ w' => FencesPut s w') (fun _ w' => FencesPut s w')) ∧
    Post (step op) s.1 (fun _ w' => Custody op s.1 w') (fun _ _ => True)

/-- The client has the fence open and the kernel duplicates it; where there is none, the
layer has none to keep. -/
def FenceRenewed (d : Drm) (l : HdiLayer) (hdl : BufferHandle) (fence : Int) (a : DupAnswers) :
    Prop :=
  if fence > -1 then
    (∃ e ∈ d.fds fence, e.hal = false) ∧
      ∃ n ∈ a.fence, 0 ≤ n ∧ (l.bufferDrm d hdl a.buffer).fds n = none
  else l.mAcquireFence < 0

instance (d : Drm) (l : HdiLayer) (hdl : BufferHandle) (fence : Int) (a : DupAnswers) :
    Decidable (FenceRenewed d l hdl fence a) :=
  inferInstanceAs (Decidable (ite _ _ _))

/-- Whether the fence of each slot's layer was renewed with its last buffer. The cursor layer
is given its buffer without the fence, so there is nothing to renew if that buffer had none. -/
def noteRenewed (s : World × (LayerRef → Passed)) (renewed : Slot → Bool) : Op → Slot → Bool
  | .setDisplayClientBuffer (some hdl) fence a =>
      Function.update renewed .primary
        (decide (∀ l ∈ s.1.disp.mClientLayer, FenceRenewed s.1.drm l hdl fence a))
  | .prepareDisplayLayers _ =>
      match s.1.cursorTaken with
      | some n => Function.update renewed .cursor (decide ((s.2 (.created n)).fence = none))
      | none => renewed
  | _ => renewed

/-- The frame comes to the loop of the slot. -/
def World.enters (w : World) (a : FrameAnswers) : Slot → Bool
  | .primary => a.begins
  | .cursor =>
      match w.disp.mComposer with
      | some comp =>
          a.begins && (comp.isAnimationEnd_ || a.bootCompleted) &&
            decide (comp.mCursorLayers ≠ [])
      | none => false

/-- The fences follow the buffers: each slot that a frame puts on planes had its fence renewed
with its buffer, and a plane that is to wait can. -/
def FencesFollow (s : (World × (LayerRef → Passed)) × (Slot → Bool)) : Op → Prop
  | .commit a => ∀ t : Slot, s.1.1.enters a t = true → s.2 t = true ∧
      ((s.1.2 t.layer).fence ≠ none → ∀ q ∈ s.1.1.slotPlanes t, q.mPropFenceInId ≠ 0)
  | _ => True

instance (s : (World × (LayerRef → Passed)) × (Slot → Bool)) :
    (op : Op) → Decidable (FencesFollow s op)
  | .commit a => inferInstanceAs (Decidable (∀ t : Slot, s.1.1.enters a t = true → _))
  | .createLayer .. | .destroyLayer .. | .setLayerZorder .. | .setLayerBuffer ..
  | .setLayerCompositionType .. | .setLayerVisible .. | .setLayerRegion ..
  | .setDisplayClientBuffer .. | .prepareDisplayLayers .. | .setDisplayMode ..
  | .getDisplayCompChange .. | .getDisplayReleaseFence .. | .clientFd .. => .isTrue trivial

/-! ## The fence of a layer -/

/-- The layer has a duplicate of the fence `file`, or no fence. -/
def World.FenceFrom (w : World) (p : LayerRef) (file : Option File) : Prop :=
  ∀ l ∈ w.layerAt p,
    match file with
    | some file => 0 ≤ l.mAcquireFence ∧ w.drm.fds l.mAcquireFence = some ⟨file, true⟩
    | none => l.mAcquireFence < 0

section
variable {spare : Int → Prop} {w w' : World} {p : LayerRef} {l : HdiLayer}

/-- A layer that is left alone has the fence it had. -/
theorem World.FenceFrom.untouched {file : Option File} (hf : w.FenceFrom p file)
    (hu : Untouched p w w') : w'.FenceFrom p file := by
  intro l' hl'
  have hdeeds := hu.deeds
  rw [Option.mem_def.1 hl', Option.map_some] at hdeeds
  obtain ⟨l, hl, heq⟩ := Option.map_eq_some_iff.1 hdeeds.symm
  have hfence : l'.mAcquireFence = l.mAcquireFence := (congrArg Prod.snd heq).symm
  have hbefore := hf l hl
  rw [hfence]
  cases file with
  | none => exact hbefore
  | some file =>
      obtain ⟨hpos, hentry⟩ := hbefore
      refine ⟨hpos, ?_⟩
      rw [hu.entry .acquireFence _ ((World.holds_layer hl _ _).2 ⟨hpos, rfl⟩)]
      exact hentry

theorem Drm.renew_granted {d : Drm} {fd n old : Int} {e : FdEntry} (he : d.fds fd = some e)
    (hpos : 0 ≤ n) (hfree : d.fds n = none) : (d.renew fd (some n) old).1 = n := by
  unfold renew dup
  rw [he]
  dsimp only
  rw [if_pos ⟨hpos, hfree⟩]

/-- A layer that is given a buffer has the fence given with it. -/
theorem Tenants.setLayerBuffer_fence (h : Tenants spare w) (hl : w.layerAt p = some l)
    {hdl : BufferHandle} {fence : Int} {a : DupAnswers}
    (hrenewed : FenceRenewed w.drm l hdl fence a) :
    ((w.setDrm (l.setLayerBuffer w.drm (some hdl) fence a).2.2).setLayer p
      (l.setLayerBuffer w.drm (some hdl) fence a).2.1).FenceFrom p
        (w.drm.passed hdl fence).fence := by
  unfold FenceRenewed at hrenewed
  rw [World.setLayerBuffer_eq]
  unfold Drm.passed
  dsimp only
  split
  · next hfence =>
      rw [if_pos hfence] at hrenewed
      obtain ⟨⟨⟨file, hal⟩, he, rfl⟩, n, hn, hpos, hfree⟩ := hrenewed
      obtain ⟨hbuffer, -⟩ := h.rebuffer hl hdl a.buffer
      set w₁ := w.rebuffer p l hdl a.buffer with hw₁
      have hl₁ : w₁.layerAt p = some (l.rebuffered w.drm hdl a.buffer) :=
        World.rebuffer_layerAt w p l hdl a.buffer
      have hdrm₁ : w₁.drm = l.bufferDrm w.drm hdl a.buffer := World.rebuffer_drm w p l hdl a.buffer
      -- the client's number denotes what it did before the buffer was renewed
      have he₁ : w₁.drm.fds fence = some ⟨file, false⟩ :=
        (hbuffer.others fence (Or.inr ⟨file, he⟩)).trans he
      have hnumber : (w₁.drm.renew fence a.fence l.mAcquireFence).1 = n := by
        rw [Option.mem_def.1 hn]
        rw [← hdrm₁] at hfree
        exact Drm.renew_granted he₁ hpos hfree
      have hspec := hbuffer.tenants.renewed hl₁ .acquireFence fence a.fence
      have hn' : 0 ≤ (w₁.drm.renew fence a.fence l.mAcquireFence).1 := hnumber ▸ hpos
      obtain ⟨e, hfrom, hentry⟩ := hspec.entry hn'
      obtain rfl := Option.some.inj (he₁.symm.trans hfrom)
      intro l' hl'
      rw [World.refence_layerAt] at hl'
      obtain rfl := Option.some.inj hl'
      rw [he]
      refine ⟨hn', ?_⟩
      rw [World.refence_drm]
      exact hentry
  · next hfence =>
      rw [if_neg hfence] at hrenewed
      intro l' hl'
      rw [World.rebuffer_layerAt] at hl'
      obtain rfl := Option.some.inj hl'
      exact hrenewed

end

/-! ## Custody -/

section
variable {spare : Int → Prop} {op : Op} {w w' : World}

/-- Descriptors with one holder each, before and after, are in custody in between. -/
theorem Tenants.custody (h : Tenants spare w) (h' : Tenants spare w')
    (huntouched : ∀ p, ¬ op.Touches p → Untouched p w w')
    (hothers : (∀ fd file, op ≠ .clientFd fd file) → ∀ fd,
      spare fd ∨ (∃ file, w.drm.fds fd = some ⟨file, false⟩) → w'.drm.fds fd = w.drm.fds fd) :
    Custody op w w' where
  one := fun _ _ _ hk hk' => h'.sole.sole hk hk'
  live := fun _ _ hk => h'.sole.owned hk
  closed := by
    intro k fd hk hnone hours
    rcases h'.sole.accounted hours with hspare | ⟨k', hk'⟩
    · exact (h.sole.kept hspare).2 k hk
    · exact hnone k' hk'
  kept := by
    intro p m fd hp hheld
    have hsame := huntouched p hp
    exact ⟨(World.holds_of_deeds hsame.deeds m fd).2 hheld, hsame.entry m fd hheld⟩
  others := by
    intro hop fd hopen hnone
    apply hothers hop
    obtain ⟨⟨file, hal⟩, he⟩ := Option.ne_none_iff_exists'.1 hopen
    cases hal with
    | false => exact Or.inr ⟨file, he⟩
    | true =>
        rcases h.sole.accounted ⟨_, he, rfl⟩ with hspare | ⟨k, hk⟩
        · exact Or.inl hspare
        · exact absurd hk (hnone k)

/-- **Every operation** closes what it gives up, and nothing else. -/
theorem step_custody (hwf : WellFormed w) (hreg : Registered w) (h : Tenants spare w) (op : Op) :
    Post (step op) w (fun _ w' => Custody op w w') (fun _ _ => True) := by
  by_cases hop : ∃ fd file, op = .clientFd fd file
  · obtain ⟨fd, file, rfl⟩ := hop
    obtain ⟨htenants, huntouched⟩ := h.clientFd fd file
    exact h.custody htenants (fun p _ => huntouched p) fun hno => absurd rfl (hno fd file)
  · push Not at hop
    apply (handled_step hwf hreg h hop).mono
    · exact fun _ w' hw => h.custody hw.tenants hw.untouched fun _ => hw.others
    · exact fun _ _ _ => trivial

end

/-! ## One operation -/

/-- What holds along every run: where the fence was renewed, the layer has the one passed with
its buffer; and the cursor layer never has one. -/
structure Fenced (s : (World × (LayerRef → Passed)) × (Slot → Bool)) : Prop where
  wf : WellFormed s.1.1
  registered : Registered s.1.1
  tenants : ∃ spare, Tenants spare s.1.1
  slots : ∀ t : Slot, s.2 t = true → s.1.1.FenceFrom t.layer (s.1.2 t.layer).fence
  cursor : s.1.1.FenceFrom .cursor none

section
variable {s : (World × (LayerRef → Passed)) × (Slot → Bool)}

/-- A slot keeps its mark until its layer is given a buffer. -/
theorem noteRenewed_slot {s : World × (LayerRef → Passed)} {renewed : Slot → Bool} {op : Op}
    {t : Slot} (hop : ¬ op.Hands s.1 t) : noteRenewed s renewed op t = renewed t := by
  cases op with
  | setDisplayClientBuffer buffer fence a =>
      cases buffer with
      | none => rfl
      | some hdl =>
          refine Function.update_of_ne ?_ _ _
          rintro rfl
          exact hop (by simp [Op.Hands])
  | prepareDisplayLayers a =>
      unfold noteRenewed
      dsimp only
      cases htaken : s.1.cursorTaken with
      | none => rfl
      | some n =>
          refine Function.update_of_ne ?_ _ _
          rintro rfl
          exact hop (by simp [Op.Hands, htaken])
  | _ => rfl

/-- The cursor layer is given a buffer without a fence. -/
theorem Fenced.cursor_after (hs : Fenced s) {a : Nat → DupAnswers} {n : Nat} {seen : List Nat}
    {w' : World} (hafter : CursorAfter a n seen s.1.1 w') : w'.FenceFrom .cursor none := by
  intro c hc
  obtain ⟨c₀, hc₀, heq⟩ := hafter.fence c hc
  have hbefore : c₀.mAcquireFence < 0 := hs.cursor c₀ hc₀
  exact lt_of_eq_of_lt heq hbefore

theorem Fenced.cursor_step (hs : Fenced s) (op : Op) :
    Post (step op) s.1.1 (fun _ w' => w'.FenceFrom .cursor none) (fun _ _ => True) := by
  obtain ⟨spare, ht⟩ := hs.tenants
  have hstep := @slot_step s.1.1 s.1.2 spare (fun w' p _ => p = .cursor → w'.FenceFrom .cursor none)
    hs.wf hs.registered ht op .cursor ?_ ?_ ?_
  · exact hstep.mono (fun _ _ hw => hw rfl) (fun _ _ _ => trivial)
  · exact fun w' _ hu _ _ => hs.cursor.untouched hu
  · exact fun hno => absurd hno (by simp)
  · exact fun _ a n _ _ w' hafter _ => hs.cursor_after hafter

theorem Fenced.slot (hs : Fenced s) (op : Op) (t : Slot) :
    Post (step op) s.1.1 (fun _ w' => noteRenewed s.1 s.2 op t = true →
      w'.FenceFrom t.layer (notePassed s.1.1 s.1.2 op t.layer).fence) (fun _ _ => True) := by
  obtain ⟨spare, ht⟩ := hs.tenants
  apply @slot_step s.1.1 s.1.2 spare
    (fun w' p passed => noteRenewed s.1 s.2 op t = true → w'.FenceFrom p passed.fence)
    hs.wf hs.registered ht
  · intro w' _ hu hhands hrenewed
    rw [noteRenewed_slot hhands] at hrenewed
    exact (hs.slots t hrenewed).untouched hu
  · rintro rfl hdl fence a rfl l hl hrenewed
    have hall : ∀ l ∈ s.1.1.disp.mClientLayer, FenceRenewed s.1.1.drm l hdl fence a := by
      simpa [noteRenewed] using hrenewed
    exact ht.setLayerBuffer_fence hl (hall l hl)
  · rintro rfl a n rfl hlast w' hafter hrenewed
    have hnone : (s.1.2 (.created n)).fence = none := by
      simpa [noteRenewed, hlast] using hrenewed
    rw [hnone]
    exact hs.cursor_after hafter

theorem Fenced.step (hs : Fenced s) (op : Op) :
    Post (noting noteRenewed (noting notePassed step) op) s (fun _ s' => Fenced s')
      (fun _ _ => True) := by
  obtain ⟨spare, ht⟩ := hs.tenants
  rw [post_noting, post_noting]
  have hslots := (hs.slot op .primary).and ((hs.slot op .cursor).and (hs.cursor_step op))
  apply ((hs.wf.step op).and ((step_registered hs.wf hs.registered op).and
    ((tenants_step hs.wf hs.registered ht op).and hslots))).mono
  · rintro _ w' ⟨hwf, hreg, ⟨ht', -⟩, hprimary, hcursor, hnone⟩
    refine ⟨hwf, hreg, ⟨spare, ht'⟩, fun t => ?_, hnone⟩
    cases t with
    | primary => exact hprimary
    | cursor => exact hcursor
  · exact fun _ _ _ => trivial

theorem World.enters_of {w : World} {p : Parts} (hp : p.Of w) (a : FrameAnswers) (t : Slot) :
    w.enters a t = p.enters a t := by
  cases t with
  | primary => rfl
  | cursor =>
      unfold World.enters Parts.enters
      rw [hp.comp]

/-- A frame that does not come to a slot asks nothing of its planes. -/
theorem Committed.skipped {w : World} {p : Parts} (hgood : p.Good w.drm) {a : FrameAnswers}
    {c : Commit} (hc : Committed w p a c) {t : Slot} (henters : ¬ p.enters a t = true)
    {q : DrmPlane} (hq : q ∈ p.comp.slotPlanes t) :
    c.pset.values (.plane q.mId) .fbId = [] ∧ c.pset.values (.plane q.mId) .inFenceFd = [] := by
  constructor
  · apply List.eq_nil_iff_forall_not_mem.2
    intro fb hfb
    obtain ⟨x, hx, -⟩ := (hc.asked t).source _ (List.mem_map_of_mem hq) fb hfb
    obtain ⟨buf, -, hent, -⟩ := Parts.mem_carried.1 hx
    exact henters hent
  · apply List.eq_nil_iff_forall_not_mem.2
    intro fd hfd
    rw [← AtomicReq.values_otherEntries _ _ (by simp), hc.entries, mem_values] at hfd
    have hentry := World.requested_plane hgood hq hfd
    obtain ⟨buf, -, hent, -⟩ := Parts.mem_entries.1 hentry
    exact henters hent

/-- The fences of a request are those passed with the buffers. -/
theorem Fenced.puts (hs : Fenced s) {p : Parts} (hp : p.Of s.1.1) {a : FrameAnswers}
    (hop : FencesFollow s (.commit a)) {w' : World}
    (hc : ∀ c ∈ newCommits s.1.1 w', Committed s.1.1 p a c) : FencesPut s.1 w' := by
  intro c hmem t q hq
  have hgood := hs.wf.good hp
  have hplanes : s.1.1.slotPlanes t = p.comp.slotPlanes t := by
    unfold World.slotPlanes
    rw [hp.comp]
  have hplane : q ∈ p.comp.slotPlanes t := hplanes ▸ hq
  by_cases henters : p.enters a t = true
  swap
  · obtain ⟨hfbs, hfences⟩ := (hc c hmem).skipped hgood henters hplane
    rw [hfbs, hfences]
    exact ⟨by simp, fun hno => absurd rfl hno⟩
  obtain ⟨hrenewed, hprops⟩ := hop t ((World.enters_of hp a t).trans henters)
  have hslot := hs.slots t hrenewed (p.layer t) (hp.layer t)
  cases hfence : (s.1.2 t.layer).fence with
  | none =>
      rw [hfence] at hslot
      have hempty : c.pset.values (.plane q.mId) .inFenceFd = [] := by
        apply List.eq_nil_iff_forall_not_mem.2
        intro fd hfd
        have hpos := ((hc c hmem).inFence hgood hplane hfd).1
        exact absurd hslot (by omega)
      rw [hempty]
      exact ⟨by simp, fun _ => by simp⟩
  | some file =>
      rw [hfence] at hslot
      obtain ⟨hpos, hentry⟩ := hslot
      refine ⟨fun fd hfd => ⟨file, rfl, ?_⟩, fun hfb => iff_of_false ?_ (by simp)⟩
      · rw [((hc c hmem).inFence hgood hplane hfd).2]
        exact hentry
      · have hprop : q.mPropFenceInId ≠ 0 := hprops (by simp [hfence]) q hq
        exact List.ne_nil_of_mem ((hc c hmem).fenced hgood hplane hprop hfb hpos)

theorem Fenced.own (hs : Fenced s) {op : Op} (hop : FencesFollow s op) : OwnFences s.1 op := by
  obtain ⟨spare, ht⟩ := hs.tenants
  refine ⟨?_, step_custody hs.wf hs.registered ht op⟩
  rintro a rfl
  obtain ⟨p, hp, -⟩ := hs.wf.parts
  exact (step_commit_committed hs.wf hp a).mono (fun _ w' hc => hs.puts hp hop hc)
    (fun _ w' hc => hs.puts hp hop hc)

end

/-! ## Runs -/

/-- After `Init` the only buffer is that of the first frame, which has no fence. -/
theorem Started.fenced {w : World} (h : Started w) :
    Fenced ((w, w.passedAtBoot), fun _ => true) := by
  have htracked := initialised_tracked h.initialised
  obtain ⟨htenants, hboot⟩ := h.tenants
  have hminus : ∀ t : Slot, ∀ l ∈ w.layerAt t.layer, l.mAcquireFence = -1 := by
    intro t l hl
    cases t with
    | primary => exact (hboot.client l hl).1
    | cursor => exact (hboot.cursor l hl).1
  have hbare : ∀ t : Slot, w.FenceFrom t.layer none := by
    intro t l hl
    rw [hminus t l hl]
    show (-1 : Int) < 0
    decide
  refine ⟨htracked.wf, htracked.registered, htenants, fun t _ => ?_, hbare .cursor⟩
  have hnone : (w.passedAtBoot t.layer).fence = none := by
    cases t with
    | primary =>
        show (w.passedAtBoot .client).fence = none
        unfold World.passedAtBoot
        dsimp only
        split <;> rfl
    | cursor => rfl
  show w.FenceFrom t.layer (w.passedAtBoot t.layer).fence
  rw [hnone]
  exact hbare t

/-- **Runs.** Where the fences follow the buffers, every commit waits for a buffer with the
fence passed with it and for no other, and every descriptor is closed once. -/
theorem ownFences_of_follow {w : World} (h : Started w) {ops : List Op}
    (hops : Meets (noting noteRenewed (noting notePassed step)) FencesFollow
      ((w, w.passedAtBoot), fun _ => true) ops) :
    Meets (noting notePassed step) OwnFences (w, w.passedAtBoot) ops := by
  have hown : Meets (noting noteRenewed (noting notePassed step)) (fun s op => OwnFences s.1 op)
      ((w, w.passedAtBoot), fun _ => true) ops := by
    apply meets_imp (I := Fenced) _ _ h.fenced hops
    · exact fun s op hs _ => hs.step op
    · exact fun s op hs hop => hs.own hop
  exact meets_noting.1 hown

/-- The client shows a buffer with the fence `syncFile 7` and, after a frame, another one
with the fence under `fence`. -/
def fencedThen (fence : Int) : List Op :=
  [.clientFd 50 (some (.dmaBuf 200)), .clientFd 60 (some (.syncFile 7)),
    .clientFd 61 (some (.syncFile 8)),
    .setDisplayClientBuffer (some ⟨50, 640, 480, 2560, 20, 0⟩) 60
      { buffer := some 51, fence := some 62 },
    .commit (frame (some 2) (some 2) (some 21)),
    .setDisplayClientBuffer (some ⟨50, 640, 480, 2560, 20, 0⟩) fence
      { buffer := some 52, fence := some 63 }]

/-- The second buffer, which has no fence, is replaced before the next frame by one that has. -/
theorem ownFences_renewed :
    Meets (noting notePassed step) OwnFences (smallBoot [], (smallBoot []).passedAtBoot)
      (fencedThen (-1) ++
        [.setDisplayClientBuffer (some ⟨50, 640, 480, 2560, 20, 0⟩) 61
          { buffer := some 53, fence := some 63 },
        .commit (frame (some 3) (some 3) (some 22))]) := by
  have hboot : Started (smallBoot []) := smallBoot_started (by decide) (by decide +kernel)
  exact ownFences_of_follow hboot (by decide +kernel)

/-- **A buffer without a fence is committed with the fence of the buffer before it.** -/
theorem ownFences_inherited :
    Started (smallBoot []) ∧
      ¬ Meets (noting notePassed step) OwnFences (smallBoot [], (smallBoot []).passedAtBoot)
        (fencedThen (-1) ++ [.commit (frame (some 3) (some 3) (some 22))]) := by
  refine ⟨smallBoot_started (by decide) (by decide +kernel), fun hmeets => ?_⟩
  have hrun : returns (run (noting notePassed step) (fencedThen (-1)))
      (smallBoot [], (smallBoot []).passedAtBoot) (fun _ s =>
        returns (step (.commit (frame (some 3) (some 3) (some 22)))) s.1
          (fun _ w' => decide (¬ FencesPut s w'))) = true := by
    decide +kernel
  obtain ⟨rets, s, hrun, hcommit⟩ := returns_iff.1 hrun
  obtain ⟨r, w', hstep, hbad⟩ := returns_iff.1 hcommit
  exact of_decide_eq_true hbad (((hmeets.of_run hrun).1 _ rfl).of_ok hstep)

end QemuHal
