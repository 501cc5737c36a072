import QemuHal.Frame.Scanout

/-!
# What requests ask for

Properties of every request committed so far, read off the framebuffers it put on
the planes of a slot and the framebuffers that existed then. `requests_apply` is
the frame rule for them.
-/

namespace QemuHal

open Exec

/-- Every request committed so far meets `R` on the planes of the slot. -/
def SlotRequests (R : List Int → List Nat → Prop) (s : Slot) (w : World) : Prop :=
  ∃ p : Parts, p.Of w ∧ ∀ q ∈ p.comp.planeIds s, RequestsMeet R q w.drm.log

section
variable {R : List Int → List Nat → Prop} {s : Slot}

theorem SlotRequests.congr {w w' : World} {p' : Parts} (h : SlotRequests R s w)
    (hp' : p'.Of w') (hcommits : commits w'.drm.log = commits w.drm.log)
    (hplanes : ∀ p : Parts, p.Of w → p'.comp.slotPlanes s = p.comp.slotPlanes s) :
    SlotRequests R s w' := by
  obtain ⟨p, hp, hmeet⟩ := h
  refine ⟨p', hp', ?_⟩
  unfold RequestsMeet HdiDrmComposition.planeIds
  rw [hcommits, hplanes p hp]
  exact hmeet

theorem SlotRequests.calm {w w' : World} (hc : Calm w w') (h : SlotRequests R s w) :
    SlotRequests R s w' := by
  obtain ⟨p, hp, -⟩ := id h
  obtain ⟨p', hp', hcalm⟩ := hc.parts p hp
  obtain ⟨fds, hdrm⟩ := hc.drm
  refine h.congr hp' (by rw [hdrm]) fun p₁ hp₁ => ?_
  obtain rfl := hp.unique hp₁
  rw [hcalm.comp]
  cases s <;> rfl

theorem SlotRequests.popped {w : World} {p : Parts} (hp : p.Of w) (h : SlotRequests R s w) :
    SlotRequests R s (w.setLayer .client (p.layer .primary).getReleaseFenceFd.2) := by
  refine h.congr hp.popped (by simp) fun p₁ hp₁ => ?_
  obtain rfl := hp.unique hp₁
  rfl

/-- A release leaves the requests alone. -/
theorem SlotRequests.released {w : World} {p : Parts} (hp : p.Of w) (h : SlotRequests R s w)
    (t : Slot) (a : DropAnswers) : SlotRequests R s (w.released p t a) := by
  refine h.congr (hp.released t a) (w.drm.released_frame p t a).2.2.2.1 fun p₁ hp₁ => ?_
  obtain rfl := hp.unique hp₁
  cases t <;> cases s <;> rfl

theorem SlotRequests.releases {w : World} {p : Parts} (hp : p.Of w) (h : SlotRequests R s w)
    (a : FrameAnswers) :
    Post (do releaseLast .primary a.release; releaseLast .cursor a.releaseCursor) w
      (fun _ w' => SlotRequests R s w') (fun _ w' => SlotRequests R s w') := by
  rw [post_bind]
  refine releaseLast_post hp (fun _ => ?_) (fun _ => h)
  exact releaseLast_post (hp.released _ _)
    (fun _ => (h.released hp _ _).released (hp.released _ _) _ _) (fun _ => h.released hp _ _)

/-- **The rule for requests.** `J` is what the loops keep of the request they build. -/
theorem requests_apply {w₀ : World} {p₀ : Parts} {a : FrameAnswers}
    (h : WellFormed w₀) (hp : p₀.Of w₀)
    {J : Nat → List (Nat × DrmPlane) → World → Parts → AtomicReq → Prop}
    (own : LoopInv w₀ p₀ a s J)
    (other : ∀ t n C, s ≠ t → LoopInv w₀ p₀ a t fun _ _ => J n C)
    (hneutral : ∀ {n C w p w' p' req}, Along w₀ p₀ w p → Neutral w p w' p' →
      J n C w p req → J n C w' p' req)
    (start : J (p₀.rotations w₀.drm a s) (p₀.carried w₀.drm a s) w₀ p₀ [])
    (done : ∀ w p req, Along w₀ p₀ w p → J 0 [] w p req → ∀ q ∈ p.comp.planeIds s,
      R (req.values (.plane q) .fbId) (w.drm.fbs.map Prod.fst))
    (hR : SlotRequests R s w₀) :
    Post (apply a) w₀ (fun _ w' => SlotRequests R s w') (fun _ w' => SlotRequests R s w') := by
  obtain ⟨p₁, hp₁, hmeet⟩ := hR
  obtain rfl := hp.unique hp₁
  have hids : ∀ w p, Along w₀ p₀ w p → p.comp.planeIds s = p₀.comp.planeIds s := by
    intro w p halong
    unfold HdiDrmComposition.planeIds
    rw [halong.slotPlanes]
  have hbefore : ∀ w p, Along w₀ p₀ w p → ∀ q ∈ p.comp.planeIds s,
      RequestsMeet R q w.drm.log := by
    intro w p halong q hq
    unfold RequestsMeet
    rw [halong.commits]
    exact hmeet q (hids w p halong ▸ hq)
  refine apply_post_slot h hp own other hneutral ?_ start ⟨p₀, hp, hmeet⟩
    (fun w p req halong _ => ⟨p, halong.of, hbefore w p halong⟩) ?_
  · intro w blob hw
    obtain ⟨p, hp, -⟩ := id hw
    refine hw.congr ((Neutral.destroyBlob blob).of hp) rfl fun p' hp' => ?_
    obtain rfl := hp.unique hp'
    rfl
  · intro w p pset halong hJ _
    have hafter : ∀ fence : Option Int, ∀ q ∈ p.comp.planeIds s,
        RequestsMeet R q
          (.atomicCommit pset (w.drm.fbs.map Prod.fst) fence :: w.drm.log) := by
      intro fence q hq c hc
      rcases List.mem_cons.1 hc with rfl | hc
      · have := done w p _ halong hJ q hq
        rwa [AtomicReq.values_fbEntries] at this
      · exact hbefore w p halong q hq c hc
    refine commitFrame_post halong.wf halong.of
      (fun _ => ⟨p, halong.of.refused pset, hafter none⟩) fun n _ => ?_
    refine SlotRequests.releases ((halong.of.committed pset n).fenced n) ⟨_,
      (halong.of.committed pset n).fenced n, ?_⟩ a
    rw [World.fenced_drm]
    exact hafter (some n)

end

/-! ## Framebuffer ids -/

/-- `AddFB2` succeeds for every framebuffer the frame puts on a plane of the slot. -/
def Parts.Names (p : Parts) (d : Drm) (a : FrameAnswers) (s : Slot) : Prop :=
  ∀ x ∈ p.carried d a s, (a.slot s x.1).prime.fb ≠ none

instance (p : Parts) (d : Drm) (a : FrameAnswers) (s : Slot) : Decidable (p.Names d a s) :=
  inferInstanceAs (Decidable (∀ x ∈ p.carried d a s, _))

theorem Parts.rotate_planeIds (p : Parts) (s t : Slot) (gem : Nat) :
    (p.rotate t gem).comp.planeIds s = p.comp.planeIds s := by
  cases t <;> cases s <;> rfl

theorem Neutral.planeIds {w w' : World} {p p' : Parts} (h : Neutral w p w' p') (s : Slot) :
    p'.comp.planeIds s = p.comp.planeIds s := by
  obtain ⟨b, hparts⟩ := h.parts
  rw [hparts]
  cases s <;> rfl

/-- No request of a frame that names its framebuffers asks for framebuffer `0`. -/
theorem SlotRequests.apply_named {w : World} {p : Parts} {a : FrameAnswers} {s : Slot}
    (h : WellFormed w) (hp : p.Of w) (hnames : p.Names w.drm a s)
    (hR : SlotRequests AllNamed s w) :
    Post (QemuHal.apply a) w (fun _ w' => SlotRequests AllNamed s w')
      (fun _ w' => SlotRequests AllNamed s w') := by
  refine requests_apply (s := s) h hp
    (J := fun _ C _ p req => (∀ x ∈ C, (a.slot s x.1).prime.fb ≠ none) ∧
      ∀ q ∈ p.comp.planeIds s, 0 ∉ req.values (.plane q) .fbId)
    ⟨?_, ?_⟩ (fun t n C hne => ⟨?_, ?_⟩) ?_ ⟨hnames, by simp⟩
    (fun _ _ _ _ hJ => hJ.2) hR
  · intro j drmPlane w p buf req _ _ _ _ hJ
    rw [Parts.rotate_planeIds]
    exact hJ
  · intro n C j drmPlane w p buf req halong _ _ _ himp hJ
    rw [Parts.rotate_planeIds]
    refine ⟨fun x hx => hJ.1 x (List.mem_cons_of_mem _ hx), fun q hq => ?_⟩
    have hvalid : (w.drm.newGemBuffer buf (a.slot s j).prime).isValid = true := by
      rw [Drm.newGemBuffer_isValid halong.wf.sound, himp]
    have hfb : (w.drm.newGemBuffer buf (a.slot s j).prime).mFdId ≠ 0 := by
      rw [ne_eq, Drm.newGemBuffer_mFdId hvalid]
      exact hJ.1 (j, drmPlane) List.mem_cons_self
    rw [values_cons]
    split
    · rw [List.mem_cons, not_or]
      refine ⟨fun h0 => hfb (Int.ofNat_eq_zero.1 ?_), hJ.2 q hq⟩
      exact h0.symm
    · exact hJ.2 q hq
  · intro j drmPlane w p buf req _ _ _ _ hJ
    rw [Parts.rotate_planeIds]
    exact hJ
  · intro n' C' j drmPlane w p buf req halong _ hmem _ _ hJ
    rw [Parts.rotate_planeIds]
    refine ⟨hJ.1, fun q hq => ?_⟩
    rw [Parts.values_put_other (halong.wf.good halong.of) hne (by rwa [halong.slotPlanes]) hq]
    exact hJ.2 q hq
  · intro n C w p w' p' req _ hn hJ
    rw [hn.planeIds]
    exact hJ

/-- The request has on the primary plane what the client layer holds now, if the
slot has been rotated, and nothing if it is still to be. -/
structure AskedOnce (n : Nat) (w : World) (p : Parts) (req : AtomicReq) : Prop where
  bound : n ≤ 1
  empty : n = 1 → ∀ q ∈ p.comp.planeIds .primary, req.values (.plane q) .fbId = []
  held : ∀ q ∈ p.comp.planeIds .primary, ∀ fb ∈ req.values (.plane q) .fbId,
    ∃ b, (p.layer .primary).mCurrentBuffer = some b ∧ fb = w.drm.fbOf b

namespace AskedOnce

variable {w₀ : World} {p₀ : Parts} {a : FrameAnswers}

theorem loopInv : LoopInv w₀ p₀ a .primary fun n _ => AskedOnce n where
  rotate := by
    intro j drmPlane w p buf req _ _ _ _ h
    refine ⟨by omega, fun h0 => absurd h0 (by omega), fun q hq fb hfb => ?_⟩
    rw [Parts.rotate_planeIds] at hq
    rw [h.empty rfl q hq] at hfb
    exact absurd hfb (by simp)
  carry := by
    intro n C j drmPlane w p buf req halong _ _ _ _ h
    have hn : n = 0 := by
      have := h.bound
      omega
    have hgood := halong.wf.good halong.of
    have hlast : (p.layer .primary).lastBuffer_ ≠ some w.drm.nextGem :=
      fun he => hgood.ne_next halong.wf.sound (Or.inr he) rfl
    refine ⟨by omega, fun h0 => absurd h0 (by omega), fun q hq fb hfb => ?_⟩
    rw [Parts.rotate_planeIds] at hq
    rw [values_cons, h.empty (by omega) q hq] at hfb
    split at hfb
    · obtain rfl := List.mem_singleton.1 hfb
      refine ⟨w.drm.nextGem, by simp [Parts.rotate], ?_⟩
      rw [World.rotate_fbOf_next hlast]
      rfl
    · exact absurd hfb (by simp)

/-- A rotation of the other slot, whose framebuffer may go to one of its planes. -/
theorem other {w : World} {p : Parts} {t : Slot} {buf : HdiLayerBuffer} {b : PlaneAnswers}
    {req req' : AtomicReq} {n : Nat} (halong : Along w₀ p₀ w p) (hne : Slot.primary ≠ t)
    (hreq : ∀ q ∈ p.comp.planeIds .primary,
      req'.values (.plane q) .fbId = req.values (.plane q) .fbId)
    (h : AskedOnce n w p req) :
    AskedOnce n (w.rotate t p buf b) (p.rotate t w.drm.nextGem) req' := by
  have hgood := halong.wf.good halong.of
  refine ⟨h.bound, fun hn q hq => ?_, fun q hq fb hfb => ?_⟩
  · rw [Parts.rotate_planeIds] at hq
    rw [hreq q hq]
    exact h.empty hn q hq
  · rw [Parts.rotate_planeIds] at hq
    rw [hreq q hq] at hfb
    obtain ⟨k, hk, rfl⟩ := h.held q hq fb hfb
    refine ⟨k, by simpa [Parts.rotate, Function.update_of_ne hne] using hk, ?_⟩
    rw [World.rotate_fbOf (fun he => hne (hgood.disjoint _ _ k (Or.inl hk) (Or.inr he)))
      (hgood.ne_next halong.wf.sound (Or.inl hk))]

theorem loopInv_other {t : Slot} {n : Nat} (hne : Slot.primary ≠ t) :
    LoopInv w₀ p₀ a t fun _ _ => AskedOnce n where
  rotate := fun halong _ _ _ h => h.other halong hne fun _ _ => rfl
  carry := fun halong _ hmem _ _ h => h.other halong hne fun q hq =>
    Parts.values_put_other (halong.wf.good halong.of) hne (by rwa [halong.slotPlanes]) hq

theorem neutral {w w' : World} {p p' : Parts} {n : Nat} {req : AtomicReq}
    (hn : Neutral w p w' p') (h : AskedOnce n w p req) : AskedOnce n w' p' req := by
  obtain ⟨log, hdrm, -, -⟩ := hn.gems
  have hids := hn.planeIds .primary
  obtain ⟨b, hparts⟩ := hn.parts
  refine ⟨h.bound, fun h1 q hq => h.empty h1 q (hids ▸ hq), fun q hq fb hfb => ?_⟩
  obtain ⟨k, hk, rfl⟩ := h.held q (hids ▸ hq) fb hfb
  refine ⟨k, by rw [hparts]; exact hk, ?_⟩
  unfold Drm.fbOf
  rw [hdrm]

end AskedOnce

/-- On the primary plane every request asks for a framebuffer that exists: the slot
is rotated at most once before the request is committed. -/
theorem SlotRequests.apply_exist {w : World} {p : Parts} {a : FrameAnswers}
    (h : WellFormed w) (hp : p.Of w)
    (hR : SlotRequests AllExist .primary w) :
    Post (QemuHal.apply a) w (fun _ w' => SlotRequests AllExist .primary w')
      (fun _ w' => SlotRequests AllExist .primary w') := by
  refine requests_apply (s := .primary) h hp AskedOnce.loopInv
    (fun _ _ _ hne => AskedOnce.loopInv_other hne) (fun _ hn hJ => hJ.neutral hn)
    ⟨p.rotations_primary_le w.drm a, fun _ _ _ => rfl, by simp⟩ ?_ hR
  intro w p req halong hJ q hq fb hfb hne
  obtain ⟨b, hb, rfl⟩ := hJ.held q hq fb hfb
  simpa using halong.wf.sound.fbOf_exists (by exact_mod_cast hne)

end QemuHal
