import QemuHal.Frame.Run
import QemuHal.Lib.FlipChain

/-!
# Scanout

A slot of a display is a flip chain: its layer owns the two buffers made last, the
composition remembers a pointer to the buffer to release next, and the slot's
planes show framebuffers. `Scanout` says that this chain keeps its invariant and
that no framebuffer was removed while a plane of the slot carried it.
`scanout_apply` carries it through a frame whose answers keep the buffers in use
alive.
-/

namespace QemuHal

open Exec FlipChain

/-- The ids of the planes of a slot. -/
def HdiDrmComposition.planeIds (c : HdiDrmComposition) (s : Slot) : List Nat :=
  (c.slotPlanes s).map DrmPlane.mId

/-! ## A slot as a flip chain -/

namespace Parts

def chain (p : Parts) (d : Drm) (s : Slot) (req : AtomicReq) : Chain Nat Nat Int where
  current := (p.layer s).mCurrentBuffer.map fun b => (b, (d.fbOf b : Int))
  last := (p.layer s).lastBuffer_.map fun b => (b, (d.fbOf b : Int))
  remembered := p.comp.lastGem s
  shown := fun q => if q ∈ p.comp.planeIds s then shownFb q d.log else 0
  request := fun q => if q ∈ p.comp.planeIds s then req.values (.plane q) .fbId else []

theorem chain_current {p : Parts} {d : Drm} {s : Slot} {req : AtomicReq} {b : Nat} {f : Int} :
    (p.chain d s req).current = some (b, f) ↔
      (p.layer s).mCurrentBuffer = some b ∧ f = d.fbOf b := by
  simp only [chain, Option.map_eq_some_iff, Prod.mk.injEq]
  constructor
  · rintro ⟨b', hb, rfl, rfl⟩
    exact ⟨hb, rfl⟩
  · rintro ⟨hb, rfl⟩
    exact ⟨b, hb, rfl, rfl⟩

theorem chain_last {p : Parts} {d : Drm} {s : Slot} {req : AtomicReq} {b : Nat} {f : Int} :
    (p.chain d s req).last = some (b, f) ↔
      (p.layer s).lastBuffer_ = some b ∧ f = d.fbOf b := by
  simp only [chain, Option.map_eq_some_iff, Prod.mk.injEq]
  constructor
  · rintro ⟨b', hb, rfl, rfl⟩
    exact ⟨hb, rfl⟩
  · rintro ⟨hb, rfl⟩
    exact ⟨b, hb, rfl, rfl⟩

/-- The chain holds what the layer owns. -/
theorem chain_holds {p : Parts} {d : Drm} {s : Slot} {req : AtomicReq} {b : Nat} {f : Int} :
    (p.chain d s req).Holds b f ↔ (p.layer s).Owns b ∧ f = d.fbOf b := by
  unfold Chain.Holds HdiLayer.Owns
  rw [chain_current, chain_last, or_and_right]

/-- The chain depends on the slot's own pointers, framebuffers and planes only. -/
theorem chain_congr {p p' : Parts} {d d' : Drm} {s : Slot} {req req' : AtomicReq}
    (hcur : (p'.layer s).mCurrentBuffer = (p.layer s).mCurrentBuffer)
    (hlast : (p'.layer s).lastBuffer_ = (p.layer s).lastBuffer_)
    (hrem : p'.comp.lastGem s = p.comp.lastGem s)
    (hplanes : p'.comp.slotPlanes s = p.comp.slotPlanes s)
    (hfb : ∀ b, (p.layer s).Owns b → d'.fbOf b = d.fbOf b)
    (hcommits : commits d'.log = commits d.log)
    (hreq : ∀ q ∈ p.comp.planeIds s,
      req'.values (.plane q) .fbId = req.values (.plane q) .fbId) :
    p'.chain d' s req' = p.chain d s req := by
  have hids : p'.comp.planeIds s = p.comp.planeIds s := by
    unfold HdiDrmComposition.planeIds
    rw [hplanes]
  simp only [chain, hcur, hlast, hrem, hids, shownFb, hcommits, Chain.mk.injEq, true_and]
  refine ⟨?_, ?_, ?_⟩
  · refine Option.map_congr fun b hb => ?_
    rw [hfb b (Or.inl hb)]
  · refine Option.map_congr fun b hb => ?_
    rw [hfb b (Or.inr hb)]
  · funext q
    split
    · next hq => exact hreq q hq
    · rfl

/-- The request is the only part of the chain that depends on the request. -/
theorem chain_discard (p : Parts) (d : Drm) (s : Slot) (req : AtomicReq) :
    (p.chain d s req).discard = p.chain d s [] := by
  simp [chain, Chain.discard]

end Parts

/-! ## The framebuffer of an object -/

theorem World.rotate_fbOf {w : World} {s : Slot} {p : Parts} {buf : HdiLayerBuffer}
    {a : PlaneAnswers} {b : Nat} (hlast : (p.layer s).lastBuffer_ ≠ some b)
    (hnext : b ≠ w.drm.nextGem) : (w.rotate s p buf a).drm.fbOf b = w.drm.fbOf b := by
  unfold Drm.fbOf
  rw [World.rotate_gems, if_neg hlast, if_neg hnext]

theorem World.rotate_fbOf_next {w : World} {s : Slot} {p : Parts} {buf : HdiLayerBuffer}
    {a : PlaneAnswers} (hlast : (p.layer s).lastBuffer_ ≠ some w.drm.nextGem) :
    (w.rotate s p buf a).drm.fbOf w.drm.nextGem = (w.drm.newGemBuffer buf a.prime).mFdId := by
  unfold Drm.fbOf
  rw [World.rotate_gems, if_neg hlast, if_pos rfl]

theorem Drm.newGem_fbOf {d : Drm} {hdl : HdiLayerBuffer} {a : ImportAnswers} {b : Nat}
    (hnext : b ≠ d.nextGem) : (d.newGem hdl a).2.fbOf b = d.fbOf b := by
  unfold Drm.fbOf
  rw [Drm.newGem_gems, Function.update_of_ne hnext]

/-- A new framebuffer is none that an object already holds. -/
theorem Drm.newGemBuffer_fresh {d : Drm} (h : d.Sound) {hdl : HdiLayerBuffer}
    {a : ImportAnswers} (hne : (d.newGemBuffer hdl a).mFdId ≠ 0) (b : Nat) :
    d.fbOf b ≠ (d.newGemBuffer hdl a).mFdId := by
  intro he
  rcases d.newGem_fbs hdl a with ⟨hz, -⟩ | ⟨-, hfresh, -⟩
  · exact hne hz
  · exact hfresh (he ▸ h.fbOf_exists (he ▸ hne))

/-! ## Rotations -/

section
variable {w : World} {p : Parts} {s t : Slot} {buf : HdiLayerBuffer} {a : PlaneAnswers}
  {req : AtomicReq}

/-- Rotating a slot rotates its chain. -/
theorem Parts.chain_rotate (hd : w.drm.Sound) (h : p.Good w.drm) :
    (p.rotate s w.drm.nextGem).chain (w.rotate s p buf a).drm s req =
      (p.chain w.drm s req).rotate w.drm.nextGem (w.drm.newGemBuffer buf a.prime).mFdId := by
  have hlast : (p.layer s).lastBuffer_ ≠ some w.drm.nextGem :=
    fun he => h.ne_next hd (Or.inr he) rfl
  have hids : (p.rotate s w.drm.nextGem).comp.planeIds s = p.comp.planeIds s := by
    cases s <;> rfl
  simp only [chain, Chain.rotate, hids, shownFb, World.rotate_commits, Chain.mk.injEq, and_true]
  refine ⟨?_, ?_, ?_⟩
  · simp only [Parts.rotate, Function.update_self, Option.map_some]
    rw [World.rotate_fbOf_next hlast]
  · simp only [Parts.rotate, Function.update_self]
    refine Option.map_congr fun b hb => ?_
    rw [World.rotate_fbOf (fun he => h.apart s b hb he) (h.ne_next hd (Or.inl hb))]
  · simp [Parts.rotate]

/-- Rotating the other slot leaves it alone. -/
theorem Parts.chain_rotate_other (hd : w.drm.Sound) (h : p.Good w.drm) (hne : s ≠ t) :
    (p.rotate t w.drm.nextGem).chain (w.rotate t p buf a).drm s req = p.chain w.drm s req := by
  have hlayer : (p.rotate t w.drm.nextGem).layer s = p.layer s := by
    unfold Parts.rotate
    exact Function.update_of_ne hne _ _
  refine chain_congr (by rw [hlayer]) (by rw [hlayer]) (by simp [Parts.rotate]) ?_ ?_
    World.rotate_commits (fun _ _ => rfl)
  · cases t <;> cases s <;> rfl
  · intro b hb
    exact World.rotate_fbOf (fun he => hne (h.disjoint s t b hb (Or.inr he))) (h.ne_next hd hb)

/-- The framebuffer put on a plane of the slot. -/
theorem Parts.chain_put {d : Drm} {drmPlane : DrmPlane} {g : DrmGemBuffer}
    (hmem : drmPlane ∈ p.comp.slotPlanes s) :
    p.chain d s (fbEntry drmPlane g :: req) = (p.chain d s req).put drmPlane.mId g.mFdId := by
  have hid : drmPlane.mId ∈ p.comp.planeIds s := List.mem_map_of_mem hmem
  simp only [chain, Chain.put, Chain.mk.injEq, true_and]
  funext q
  rw [values_cons, Function.update_apply]
  simp only [fbEntry, and_true, DrmObj.plane.injEq]
  by_cases hq : q = drmPlane.mId
  · subst hq
    simp [hid]
  · rw [if_neg (Ne.symm hq), if_neg hq]

/-- The planes of the two slots are different ones. -/
theorem Parts.Good.slots_apart {d : Drm} (h : p.Good d) (hne : s ≠ t) {x y : DrmPlane}
    (hx : x ∈ p.comp.slotPlanes s) (hy : y ∈ p.comp.slotPlanes t) : x.mId ≠ y.mId := by
  have hnodup := h.distinctPlanes
  rw [List.map_append, List.nodup_append] at hnodup
  cases s <;> cases t
  · exact absurd rfl hne
  · exact hnodup.2.2 x.mId (List.mem_map_of_mem (List.mem_of_mem_take hx)) y.mId
      (List.mem_map_of_mem hy)
  · exact (hnodup.2.2 y.mId (List.mem_map_of_mem (List.mem_of_mem_take hy)) x.mId
      (List.mem_map_of_mem hx)).symm
  · exact absurd rfl hne

theorem Parts.Good.planeIds_nodup {d : Drm} (h : p.Good d) (s : Slot) :
    ((p.comp.slotPlanes s).map DrmPlane.mId).Nodup := by
  have hnodup := h.distinctPlanes
  rw [List.map_append, List.nodup_append] at hnodup
  cases s with
  | primary => exact hnodup.1.sublist ((List.take_sublist 1 _).map _)
  | cursor => exact hnodup.2.1

/-- A framebuffer put on a plane of the other slot. -/
theorem Parts.values_put_other {d : Drm} {drmPlane : DrmPlane} {g : DrmGemBuffer}
    (h : p.Good d) (hne : s ≠ t) (hmem : drmPlane ∈ p.comp.slotPlanes t) {q : Nat}
    (hq : q ∈ p.comp.planeIds s) :
    AtomicReq.values (fbEntry drmPlane g :: req) (.plane q) .fbId =
      req.values (.plane q) .fbId := by
  obtain ⟨x, hx, rfl⟩ := List.mem_map.1 hq
  have hdisj : drmPlane.mId ≠ x.mId := (h.slots_apart hne hx hmem).symm
  rw [values_cons, if_neg]
  simp [fbEntry, hdisj]

theorem Parts.chain_put_other {d : Drm} {drmPlane : DrmPlane} {g : DrmGemBuffer}
    (h : p.Good d) (hne : s ≠ t) (hmem : drmPlane ∈ p.comp.slotPlanes t) :
    p.chain d s (fbEntry drmPlane g :: req) = p.chain d s req :=
  chain_congr rfl rfl rfl rfl (fun _ _ => rfl) rfl fun _ hq => values_put_other h hne hmem hq

end

/-! ## The invariant -/

/-- The framebuffers on the planes of a slot are looked after: the slot's chain is in
order, none was removed while a plane carried it, and none was requested that did
not exist. -/
structure Scanout (p : Parts) (d : Drm) (s : Slot) (req : AtomicReq) : Prop where
  inv : (p.chain d s req).Inv
  kept : ∀ q ∈ p.comp.planeIds s, FbKept q d.log
  exist : ∀ q ∈ p.comp.planeIds s, RequestsMeet AllExist q d.log

theorem RequestsMeet.congr {R : List Int → List Nat → Prop} {q : Nat}
    {log log' : List DrmCall} (h : RequestsMeet R q log)
    (hcommits : commits log' = commits log) : RequestsMeet R q log' := by
  unfold RequestsMeet
  rw [hcommits]
  exact h

/-- What leaves the slot's chain as it is keeps the invariant. -/
theorem Scanout.congr {p p' : Parts} {d d' : Drm} {s : Slot} {req req' : AtomicReq}
    (h : Scanout p d s req) (hchain : p'.chain d' s req' = p.chain d s req)
    (hplanes : p'.comp.slotPlanes s = p.comp.slotPlanes s)
    (hcommits : commits d'.log = commits d.log)
    (hkept : ∀ q, FbKept q d.log → FbKept q d'.log) : Scanout p' d' s req' := by
  have hids : p'.comp.planeIds s = p.comp.planeIds s := by
    unfold HdiDrmComposition.planeIds
    rw [hplanes]
  refine ⟨hchain ▸ h.inv, ?_, ?_⟩
  · rw [hids]
    exact fun q hq => hkept q (h.kept q hq)
  · rw [hids]
    exact fun q hq => (h.exist q hq).congr hcommits

/-- What a plane of the slot shows is held by the slot. -/
theorem Scanout.shown_owned {p : Parts} {d : Drm} {s : Slot} {req : AtomicReq}
    (h : Scanout p d s req) {q : Nat} (hq : q ∈ p.comp.planeIds s)
    (hne : shownFb q d.log ≠ 0) :
    ∃ b, (p.layer s).Owns b ∧ shownFb q d.log = d.fbOf b := by
  have hshown : (p.chain d s req).shown q = shownFb q d.log := if_pos hq
  obtain ⟨b, hb⟩ := h.inv.shown q (by rwa [hshown])
  rw [Parts.chain_holds, hshown] at hb
  exact ⟨b, hb⟩

/-- No plane of the slot shows a framebuffer of an object of the other slot. -/
theorem Scanout.shown_other {p : Parts} {d : Drm} {s t : Slot} {req : AtomicReq}
    (h : Scanout p d s req) (hd : d.Sound) (hgood : p.Good d) (hne : s ≠ t) {b : Nat}
    (hb : (p.layer t).Owns b) (hfb : d.fbOf b ≠ 0) {q : Nat} (hq : q ∈ p.comp.planeIds s) :
    shownFb q d.log ≠ d.fbOf b := by
  intro he
  obtain ⟨b', hb', he'⟩ := h.shown_owned hq (by rw [he]; exact_mod_cast hfb)
  have hsame : d.fbOf b = d.fbOf b' := by exact_mod_cast he.symm.trans he'
  obtain rfl := hd.fbOf_inj hfb hsame
  exact hne (hgood.disjoint s t b hb' hb)

theorem FbKept.rotate {w : World} {p : Parts} {t : Slot} {buf : HdiLayerBuffer}
    {a : PlaneAnswers} {q : Nat} (hk : FbKept q w.drm.log) (hd : w.drm.Sound)
    (hgood : p.Good w.drm)
    (hs : ∀ b, (p.layer t).lastBuffer_ = some b → w.drm.fbOf b ≠ 0 →
      shownFb q w.drm.log ≠ w.drm.fbOf b) : FbKept q (w.rotate t p buf a).drm.log := by
  rw [World.rotate_drm]
  refine Drm.destroyOwned_kept _ ((Drm.newGem_kept _ _ _ q).2 hk) fun b hb hne => ?_
  have hnext := hgood.ne_next hd (Or.inr hb)
  rw [Drm.newGem_fbOf hnext] at hne ⊢
  unfold shownFb
  rw [Drm.newGem_commits]
  exact hs b hb hne

section
variable {w : World} {p : Parts} {s : Slot} {req : AtomicReq}

theorem Parts.not_holds_next (hd : w.drm.Sound) (h : p.Good w.drm) (f : Int) :
    ¬ (p.chain w.drm s req).Holds w.drm.nextGem f :=
  fun hh => h.ne_next hd (Parts.chain_holds.1 hh).1 rfl

theorem Parts.not_holds_new (hd : w.drm.Sound) {buf : HdiLayerBuffer} {a : ImportAnswers}
    (hne : ((w.drm.newGemBuffer buf a).mFdId : Int) ≠ 0) (b : Nat) :
    ¬ (p.chain w.drm s req).Holds b (w.drm.newGemBuffer buf a).mFdId := by
  intro hh
  have he := (Parts.chain_holds.1 hh).2
  exact Drm.newGemBuffer_fresh hd (by exact_mod_cast hne) b (by exact_mod_cast he.symm)

theorem Scanout.kept_rotate (h : Scanout p w.drm s req) (hd : w.drm.Sound)
    (hgood : p.Good w.drm) (hspare : (p.chain w.drm s req).Spare) {buf : HdiLayerBuffer}
    {a : PlaneAnswers} : ∀ q ∈ p.comp.planeIds s, FbKept q (w.rotate s p buf a).drm.log := by
  refine fun q hq => (h.kept q hq).rotate hd hgood fun b hb hne => ?_
  have := ((hspare b _ (Parts.chain_last.2 ⟨hb, rfl⟩)).2 (by exact_mod_cast hne) q).1
  rwa [show (p.chain w.drm s req).shown q = shownFb q w.drm.log from if_pos hq] at this

end

/-! ## While a request is built -/

/-- The state of a slot's chain in a frame: it can be rotated `n` times more, and the
planes that get a framebuffer have it or are in `C`. -/
structure Underway (w₀ : World) (p₀ : Parts) (a : FrameAnswers) (s : Slot) (n : Nat)
    (C : List (Nat × DrmPlane)) (w : World) (p : Parts) (req : AtomicReq) : Prop where
  scan : Scanout p w.drm s req
  ready : (p.chain w.drm s req).Ready n
  since : Chain.Since (p₀.chain w₀.drm s []) (p.chain w.drm s req)
  carried : ∀ x ∈ p₀.carried w₀.drm a s,
    x ∈ C ∨ req.values (.plane x.2.mId) .fbId ≠ []

namespace Underway

variable {w₀ w : World} {p₀ p : Parts} {a : FrameAnswers} {s t : Slot} {n : Nat}
  {C : List (Nat × DrmPlane)} {req : AtomicReq}

theorem congr {w' : World} {p' : Parts} {req' : AtomicReq} (h : Underway w₀ p₀ a s n C w p req)
    (hchain : p'.chain w'.drm s req' = p.chain w.drm s req)
    (hplanes : p'.comp.slotPlanes s = p.comp.slotPlanes s)
    (hcommits : commits w'.drm.log = commits w.drm.log)
    (hkept : ∀ q ∈ p.comp.planeIds s, FbKept q w.drm.log → FbKept q w'.drm.log)
    (hreq : ∀ q, req.values (.plane q) .fbId ≠ [] → req'.values (.plane q) .fbId ≠ []) :
    Underway w₀ p₀ a s n C w' p' req' := by
  have hids : p'.comp.planeIds s = p.comp.planeIds s := by
    unfold HdiDrmComposition.planeIds
    rw [hplanes]
  refine ⟨⟨hchain ▸ h.scan.inv, ?_, ?_⟩, hchain ▸ h.ready, hchain ▸ h.since,
    fun x hx => (h.carried x hx).imp id (hreq _)⟩
  · rw [hids]
    exact fun q hq => hkept q hq (h.scan.kept q hq)
  · rw [hids]
    exact fun q hq => (h.scan.exist q hq).congr hcommits

theorem neutral {w' : World} {p' : Parts} (h : Underway w₀ p₀ a s n C w p req)
    (hn : Neutral w p w' p') : Underway w₀ p₀ a s n C w' p' req := by
  obtain ⟨log, hdrm, hcommits, hkept⟩ := hn.gems
  obtain ⟨b, hparts⟩ := hn.parts
  have hlog : w'.drm.log = log := by rw [hdrm]
  have hfb : ∀ b, w'.drm.fbOf b = w.drm.fbOf b := by
    intro b
    unfold Drm.fbOf
    rw [hdrm]
  refine h.congr (Parts.chain_congr ?_ ?_ ?_ ?_ (fun b _ => hfb b) (by rw [hlog, hcommits])
    fun _ _ => rfl) ?_ (by rw [hlog, hcommits]) (fun q _ hk => ?_) (fun _ hq => hq)
  · rw [hparts]
  · rw [hparts]
  · rw [hparts]
    cases s <;> rfl
  · rw [hparts]
    cases s <;> rfl
  · rw [hparts]
    cases s <;> rfl
  · rw [hlog]
    exact (hkept q).2 hk

/-- The other slot is rotated, and its framebuffer may be put on one of its planes. -/
theorem other {buf : HdiLayerBuffer} {b : PlaneAnswers} {x : List PropValue}
    (h : Underway w₀ p₀ a s n C w p req) (halong : Along w₀ p₀ w p) (hne : s ≠ t)
    (hx : x = [] ∨ ∃ drmPlane ∈ p.comp.slotPlanes t, ∃ g, x = [fbEntry drmPlane g]) :
    Underway w₀ p₀ a s n C (w.rotate t p buf b) (p.rotate t w.drm.nextGem) (x ++ req) := by
  have hgood := halong.wf.good halong.of
  have hd := halong.wf.sound
  have hgood' := hgood.rotate hd t buf b
  have hslot : ∀ s, (p.rotate t w.drm.nextGem).comp.slotPlanes s = p.comp.slotPlanes s := by
    intro s
    cases t <;> cases s <;> rfl
  have hchain : (p.rotate t w.drm.nextGem).chain (w.rotate t p buf b).drm s (x ++ req) =
      p.chain w.drm s req := by
    rcases hx with rfl | ⟨drmPlane, hmem, g, rfl⟩
    · exact Parts.chain_rotate_other hd hgood hne
    · exact (Parts.chain_put_other hgood' hne (by rwa [hslot])).trans
        (Parts.chain_rotate_other hd hgood hne)
  refine h.congr hchain (hslot s) World.rotate_commits (fun q hq hk => ?_) (fun q hq => ?_)
  · exact hk.rotate hd hgood fun b hb hfb =>
      h.scan.shown_other hd hgood hne (Or.inr hb) hfb hq
  · rcases hx with rfl | ⟨drmPlane, hmem, g, rfl⟩
    · exact hq
    · rw [List.singleton_append, values_cons]
      split
      · simp
      · exact hq

/-- The slot is rotated for nothing. -/
theorem rotate {buf : HdiLayerBuffer} {b : PlaneAnswers} (h : Underway w₀ p₀ a s 1 [] w p req)
    (halong : Along w₀ p₀ w p) :
    Underway w₀ p₀ a s 0 [] (w.rotate s p buf b) (p.rotate s w.drm.nextGem) req := by
  have hgood := halong.wf.good halong.of
  have hd := halong.wf.sound
  have hspare := h.ready.first (Nat.le_refl 1)
  have hnew : ∀ f, ¬ (p.chain w.drm s req).Holds w.drm.nextGem f :=
    Parts.not_holds_next hd hgood
  have hids : (p.rotate s w.drm.nextGem).comp.planeIds s = p.comp.planeIds s := by
    cases s <;> rfl
  have hchain : (p.rotate s w.drm.nextGem).chain (w.rotate s p buf b).drm s req = _ :=
    Parts.chain_rotate hd hgood
  refine ⟨⟨?_, ?_, ?_⟩, ⟨by omega, fun hn => by omega, fun hn => by omega⟩, ?_, h.carried⟩
  · rw [hchain]
    exact Chain.rotate_inv h.scan.inv hspare hnew (Parts.not_holds_new hd)
  · rw [hids]
    exact h.scan.kept_rotate hd hgood hspare
  · rw [hids]
    exact fun q hq => (h.scan.exist q hq).congr World.rotate_commits
  · rw [hchain]
    exact h.since.rotate h.scan.inv hnew

/-- The slot is rotated, and its framebuffer put on one of its planes. -/
theorem carry {buf : HdiLayerBuffer} {b : PlaneAnswers} {j : Nat} {drmPlane : DrmPlane}
    (h : Underway w₀ p₀ a s (n + 1) ((j, drmPlane) :: C) w p req)
    (halong : Along w₀ p₀ w p) (hmem : drmPlane ∈ p.comp.slotPlanes s) :
    Underway w₀ p₀ a s n C (w.rotate s p buf b) (p.rotate s w.drm.nextGem)
      (fbEntry drmPlane (w.drm.newGemBuffer buf b.prime) :: req) := by
  have hgood := halong.wf.good halong.of
  have hd := halong.wf.sound
  have hspare := h.ready.first (by omega)
  have hnew : ∀ f, ¬ (p.chain w.drm s req).Holds w.drm.nextGem f :=
    Parts.not_holds_next hd hgood
  have hslot : (p.rotate s w.drm.nextGem).comp.slotPlanes s = p.comp.slotPlanes s := by
    cases s <;> rfl
  have hids : (p.rotate s w.drm.nextGem).comp.planeIds s = p.comp.planeIds s := by
    cases s <;> rfl
  have hchain : (p.rotate s w.drm.nextGem).chain (w.rotate s p buf b).drm s
      (fbEntry drmPlane (w.drm.newGemBuffer buf b.prime) :: req) =
      ((p.chain w.drm s req).rotate w.drm.nextGem
        (w.drm.newGemBuffer buf b.prime).mFdId).put drmPlane.mId
        (w.drm.newGemBuffer buf b.prime).mFdId := by
    rw [Parts.chain_put (by rwa [hslot]), Parts.chain_rotate hd hgood]
  obtain ⟨hinv, hready⟩ := h.ready.turn h.scan.inv hnew (Parts.not_holds_new hd) drmPlane.mId
  refine ⟨⟨?_, ?_, ?_⟩, ?_, ?_, ?_⟩
  · rw [hchain]
    exact hinv
  · rw [hids]
    exact h.scan.kept_rotate hd hgood hspare
  · rw [hids]
    exact fun q hq => (h.scan.exist q hq).congr World.rotate_commits
  · rw [hchain]
    exact hready
  · rw [hchain]
    exact (h.since.rotate h.scan.inv hnew).put _ _
  · intro x hx
    rcases h.carried x hx with hC | hreq
    · rcases List.mem_cons.1 hC with rfl | hC
      · exact Or.inr (by simp [values_cons, fbEntry])
      · exact Or.inl hC
    · refine Or.inr ?_
      rw [values_cons]
      split
      · simp
      · exact hreq

end Underway

/-! ## The commit -/

section
variable {w : World} {p : Parts} {s t : Slot} {pset : AtomicReq}

/-- A request that only asks for existing framebuffers. -/
theorem Scanout.exist_commit (h : Scanout p w.drm s pset.fbEntries) (hd : w.drm.Sound)
    (fence : Option Int) {q : Nat} (hq : q ∈ p.comp.planeIds s) :
    RequestsMeet AllExist q (.atomicCommit pset (w.drm.fbs.map Prod.fst) fence :: w.drm.log) := by
  intro c hc fb hfb hne
  rcases List.mem_cons.1 hc with rfl | hc
  · have hreq : fb ∈ (p.chain w.drm s pset.fbEntries).request q := by
      simp only [Parts.chain, if_pos hq, AtomicReq.values_fbEntries]
      exact hfb
    obtain ⟨b, hb, -⟩ := h.inv.request q fb hreq hne
    obtain rfl := (Parts.chain_holds.1 hb).2
    simpa using hd.fbOf_exists (by exact_mod_cast hne)
  · exact h.exist q hq c hc fb hfb hne

theorem Scanout.refused (h : Scanout p w.drm s pset.fbEntries) (hd : w.drm.Sound) :
    Scanout p (w.refused pset).drm s [] := by
  refine ⟨?_, h.kept, fun q hq => h.exist_commit hd none hq⟩
  have hchain : p.chain (w.refused pset).drm s [] = (p.chain w.drm s pset.fbEntries).discard := by
    rw [Parts.chain_discard]
    rfl
  rw [hchain]
  exact Chain.discard_inv h.inv

theorem Parts.chain_committed (n : Int) :
    p.chain (w.committed pset n).drm s [] = (p.chain w.drm s pset.fbEntries).accept := by
  simp only [chain, Chain.accept, Chain.mk.injEq]
  refine ⟨rfl, rfl, trivial, ?_, ?_⟩
  · funext q
    by_cases hq : q ∈ p.comp.planeIds s
    · simp only [if_pos hq, AtomicReq.values_fbEntries]
      rfl
    · simp [hq]
  · funext q
    simp

theorem Scanout.committed (h : Scanout p w.drm s pset.fbEntries) (hd : w.drm.Sound)
    (hrep : (p.chain w.drm s pset.fbEntries).Replaced) (n : Int) :
    Scanout p (w.committed pset n).drm s [] ∧
      (p.chain (w.committed pset n).drm s []).Hidden := by
  rw [Parts.chain_committed]
  obtain ⟨hinv, hhidden⟩ := Chain.accept_inv h.inv hrep
  refine ⟨⟨?_, h.kept, fun q hq => h.exist_commit hd (some n) hq⟩, hhidden⟩
  rw [Parts.chain_committed]
  exact hinv

theorem Parts.chain_fenced (d : Drm) (n : Int) (req : AtomicReq) :
    (p.fenced n).chain d s req = p.chain d s req := by
  obtain ⟨fences, hl⟩ := p.fenced_layer n s
  exact chain_congr (by rw [hl]) (by rw [hl]) rfl rfl (fun _ _ => rfl) rfl (fun _ _ => rfl)

theorem Scanout.fenced (h : Scanout p w.drm s []) (n : Int) :
    Scanout (p.fenced n) (w.fenced p n).drm s [] := by
  rw [World.fenced_drm]
  exact h.congr (Parts.chain_fenced _ n _) rfl rfl (fun _ => id)

end

/-! ## The releases -/

section
variable {w : World} {p : Parts} {s t : Slot} {a : DropAnswers}

/-- A release takes the framebuffer of the remembered object, or leaves it. -/
theorem Drm.released_fbOf (d : Drm) (p : Parts) (s : Slot) (a : DropAnswers) (b : Nat) :
    (d.released p s a).fbOf b = d.fbOf b ∨
      (p.comp.lastGem s = some b ∧ (d.released p s a).fbOf b = 0) := by
  rcases d.released_cases p s a with heq | ⟨gem, g, hl, hg, heq⟩
  · rw [heq]
    exact Or.inl rfl
  · obtain ⟨g', d', hs, heq'⟩ := d.releaseBuffer_spec gem g a
    rw [heq, heq']
    by_cases hb : b = gem
    · subst hb
      have hnew : Drm.fbOf { d' with gems := Function.update d.gems b (some g') } b = g'.mFdId := by
        simp [Drm.fbOf]
      rw [hnew, Drm.fbOf_eq hg]
      rcases hs.fbs with ⟨hsame, -⟩ | ⟨hz, -⟩
      · exact Or.inl hsame
      · exact Or.inr ⟨hl, hz⟩
    · left
      simp [Drm.fbOf, Function.update_of_ne hb]

theorem Drm.released_kept {d : Drm} {p : Parts} {s : Slot} {q : Nat} (a : DropAnswers)
    (hk : FbKept q d.log)
    (hs : ∀ gem, p.comp.lastGem s = some gem → d.gems gem ≠ none → d.fbOf gem ≠ 0 →
      shownFb q d.log ≠ d.fbOf gem) : FbKept q (d.released p s a).log := by
  rcases d.released_cases p s a with heq | ⟨gem, g, hl, hg, heq⟩
  · rwa [heq]
  · obtain ⟨g', d', hspec, heq'⟩ := d.releaseBuffer_spec gem g a
    rw [heq, heq']
    refine hspec.kept q hk fun hne => ?_
    have := hs gem hl (by rw [hg]; simp)
    rw [Drm.fbOf_eq hg] at this
    exact this hne

/-- Releasing a slot releases its chain and remembers the current buffer. -/
theorem Parts.chain_released (hgood : p.Good w.drm) :
    ∃ c, (c = p.chain w.drm s [] ∨ ∃ gem f, p.comp.lastGem s = some gem ∧
        (f = 0 ∨ f = (w.drm.fbOf gem : Int)) ∧ c = (p.chain w.drm s []).release gem f) ∧
      (p.released s).chain (w.released p s a).drm s [] = c.remember := by
  have hids : (p.released s).comp.planeIds s = p.comp.planeIds s := by
    cases s <;> rfl
  have hcommits : commits (w.released p s a).drm.log = commits w.drm.log :=
    (w.drm.released_frame p s a).2.2.2.1
  have hptr : (p.released s).comp.lastGem s = (p.layer s).mCurrentBuffer := by
    rw [← hgood.pointer s]
    simp [Parts.released]
  have hfst : ∀ o : Option Nat, ∀ f : Nat → Int,
      (o.map fun b => (b, f b)).map Prod.fst = o := by
    intro o f
    cases o <;> rfl
  by_cases hfb : ∀ b, (w.released p s a).drm.fbOf b = w.drm.fbOf b
  · refine ⟨_, Or.inl rfl, ?_⟩
    simp only [chain, Chain.remember, hids, shownFb, hcommits, hptr, hfb, hfst]
    rfl
  · -- the object that lost its framebuffer is the remembered one
    obtain ⟨gem, hne⟩ := not_forall.1 hfb
    obtain ⟨hl, hz⟩ := (w.drm.released_fbOf p s a gem).resolve_left hne
    have hother : ∀ b, b ≠ gem → (w.released p s a).drm.fbOf b = w.drm.fbOf b := by
      intro b hb
      refine (w.drm.released_fbOf p s a b).resolve_right ?_
      rintro ⟨hl', -⟩
      exact hb (Option.some.inj (hl'.symm.trans hl))
    have hzero : (w.released p s a).drm.fbOf gem = 0 := hz
    have hrelabel : ∀ o : Option Nat,
        (o.map fun b => (b, ((w.released p s a).drm.fbOf b : Int))) =
          Chain.relabel gem 0 (o.map fun b => (b, (w.drm.fbOf b : Int))) := by
      intro o
      cases o with
      | none => rfl
      | some b =>
          by_cases hb : b = gem
          · subst hb
            simp [Chain.relabel, hzero]
          · simp [Chain.relabel, hb, hother b hb]
    refine ⟨_, Or.inr ⟨gem, 0, hl, Or.inl rfl, rfl⟩, ?_⟩
    simp only [chain, Chain.remember, Chain.release, hids, shownFb, hcommits, hptr, hrelabel,
      Chain.mk.injEq, and_true]
    refine ⟨rfl, rfl, ?_⟩
    rw [← hrelabel]
    exact (hfst _ _).symm

/-- The release of a slot whose remembered buffer is hidden. -/
theorem Scanout.released (h : Scanout p w.drm s [])
    (hhidden : (p.chain w.drm s []).Hidden) (hgood : p.Good w.drm) :
    Scanout (p.released s) (w.released p s a).drm s [] := by
  have hids : (p.released s).comp.planeIds s = p.comp.planeIds s := by
    cases s <;> rfl
  have hreq : ∀ q, (p.chain w.drm s []).request q = [] := by
    intro q
    simp [Parts.chain]
  refine ⟨?_, ?_, ?_⟩
  · obtain ⟨c, hc, heq⟩ := Parts.chain_released (w := w) (s := s) (a := a) hgood
    rw [heq]
    rcases hc with rfl | ⟨gem, f, hl, hf, rfl⟩
    · exact Chain.remember_inv h.inv hreq
    · refine Chain.remember_inv (Chain.release_inv h.inv hhidden hl ?_ hf) hreq
      obtain ⟨f₀, hh⟩ := h.inv.remembered gem hl
      rw [(Parts.chain_holds.1 hh).2] at hh
      exact hh
  · rw [hids]
    refine fun q hq => Drm.released_kept a (h.kept q hq) fun gem hl hlive hne => ?_
    have howns := (hgood.remembered s gem hl).2 hlive
    have := hhidden gem _ hl (Parts.chain_holds.2 ⟨howns, rfl⟩) (by exact_mod_cast hne) q
    rwa [show (p.chain w.drm s []).shown q = shownFb q w.drm.log from if_pos hq] at this
  · rw [hids]
    exact fun q hq => (h.exist q hq).congr (w.drm.released_frame p s a).2.2.2.1

/-- The release of the other slot. -/
theorem Parts.chain_released_other (hgood : p.Good w.drm) (hne : s ≠ t) :
    (p.released t).chain (w.released p t a).drm s [] = p.chain w.drm s [] := by
  refine chain_congr rfl rfl ?_ ?_ (fun b hb => ?_) (w.drm.released_frame p t a).2.2.2.1
    (fun _ _ => rfl)
  · simp [Parts.released, hne]
  · cases t <;> cases s <;> rfl
  · refine (w.drm.released_fbOf p t a b).resolve_right ?_
    rintro ⟨hl, -⟩
    exact hne (hgood.disjoint s t b hb ((hgood.remembered t b hl).2 (hgood.live s b hb)))

theorem Scanout.released_other (h : Scanout p w.drm s []) (hd : w.drm.Sound)
    (hgood : p.Good w.drm) (hne : s ≠ t) :
    Scanout (p.released t) (w.released p t a).drm s [] := by
  have hids : (p.released t).comp.planeIds s = p.comp.planeIds s := by
    cases t <;> cases s <;> rfl
  refine ⟨?_, ?_, ?_⟩
  · rw [Parts.chain_released_other hgood hne]
    exact h.inv
  · rw [hids]
    exact fun q hq => Drm.released_kept a (h.kept q hq) fun gem hl hlive hfb =>
      h.shown_other hd hgood hne ((hgood.remembered t gem hl).2 hlive) hfb hq
  · rw [hids]
    exact fun q hq => (h.exist q hq).congr (w.drm.released_frame p t a).2.2.2.1

/-- The pointer a slot remembers does not dangle. -/
theorem Scanout.not_dangles {req : AtomicReq} (h : Scanout p w.drm s req)
    (hgood : p.Good w.drm) : ¬ p.Dangles w.drm s := by
  rintro ⟨gem, hl, hdead⟩
  obtain ⟨f, hh⟩ := h.inv.remembered gem hl
  exact hgood.live s gem (Parts.chain_holds.1 hh).1 hdead

end

/-! ## What a frame has to respect -/

/-- The objects of a slot that a frame destroys when it rotates the slot at most
twice. -/
def Parts.doomed (p : Parts) (d : Drm) (a : FrameAnswers) (s : Slot) : List Nat :=
  (if 1 ≤ p.rotations d a s then (p.layer s).lastBuffer_.toList else []) ++
    (if 2 ≤ p.rotations d a s then (p.layer s).mCurrentBuffer.toList else [])

/-- A plane of the slot shows the framebuffer of the object `b`. -/
def Parts.ShownOn (p : Parts) (d : Drm) (s : Slot) (b q : Nat) : Prop :=
  q ∈ p.comp.planeIds s ∧ shownFb q d.log ≠ 0 ∧ shownFb q d.log = d.fbOf b

/-- **The frame spares the slot**: it destroys no buffer that is remembered or shown,
none of the request it builds, and when the request is accepted, it puts a new
framebuffer on every plane that shows the remembered one. -/
structure Parts.Spares (p : Parts) (w : World) (a : FrameAnswers) (s : Slot) : Prop where
  rotations : p.rotations w.drm a s ≤ 2
  doomed : ∀ b ∈ p.doomed w.drm a s,
    p.comp.lastGem s ≠ some b ∧ ∀ q ∈ p.comp.planeIds s, ¬ p.ShownOn w.drm s b q
  replaced : w.accepts a = true → ∀ b ∈ p.comp.lastGem s, ∀ q ∈ p.comp.planeIds s,
    p.ShownOn w.drm s b q → q ∈ (p.carried w.drm a s).map fun x => x.2.mId

instance (p : Parts) (d : Drm) (s : Slot) (b q : Nat) : Decidable (p.ShownOn d s b q) :=
  inferInstanceAs (Decidable (_ ∧ _ ∧ _))

instance (p : Parts) (w : World) (a : FrameAnswers) (s : Slot) : Decidable (p.Spares w a s) :=
  decidable_of_iff
    (p.rotations w.drm a s ≤ 2 ∧
      (∀ b ∈ p.doomed w.drm a s,
        p.comp.lastGem s ≠ some b ∧ ∀ q ∈ p.comp.planeIds s, ¬ p.ShownOn w.drm s b q) ∧
      (w.accepts a = true → ∀ b ∈ p.comp.lastGem s, ∀ q ∈ p.comp.planeIds s,
        p.ShownOn w.drm s b q → q ∈ (p.carried w.drm a s).map fun x => x.2.mId))
    ⟨fun h => ⟨h.1, h.2.1, h.2.2⟩, fun h => ⟨h.1, h.2, h.3⟩⟩

section
variable {w : World} {p : Parts} {a : FrameAnswers} {s t : Slot}

theorem Parts.Spares.not_shown {b q : Nat} (h : p.Spares w a s) (hb : b ∈ p.doomed w.drm a s) :
    ¬ p.ShownOn w.drm s b q :=
  fun hs => (h.doomed b hb).2 q hs.1 hs

theorem Parts.chain_shown_eq {d : Drm} {req : AtomicReq} {b q : Nat} (hne : d.fbOf b ≠ 0)
    (h : (p.chain d s req).shown q = d.fbOf b) : p.ShownOn d s b q := by
  simp only [chain] at h
  split at h
  · next hq => exact ⟨hq, by rw [h]; exact_mod_cast hne, h⟩
  · exact absurd h.symm (by exact_mod_cast hne)

theorem Parts.Spares.start (h : p.Spares w a s) (hs : Scanout p w.drm s []) :
    Underway w p a s (p.rotations w.drm a s) (p.carried w.drm a s) w p [] := by
  refine ⟨hs, ⟨h.rotations, fun hn => ?_, fun hn => ⟨?_, ?_⟩⟩, Chain.Since.refl _,
    fun x hx => Or.inl hx⟩
  · intro b f hl
    obtain ⟨hlast, rfl⟩ := Parts.chain_last.1 hl
    have hb : b ∈ p.doomed w.drm a s := by
      simp [Parts.doomed, hn, hlast]
    refine ⟨(h.doomed b hb).1, fun hne q => ⟨fun hq => ?_, by simp [Parts.chain]⟩⟩
    exact h.not_shown hb (Parts.chain_shown_eq (by exact_mod_cast hne) hq)
  · intro b f hc
    obtain ⟨hcur, rfl⟩ := Parts.chain_current.1 hc
    have hb : b ∈ p.doomed w.drm a s := by
      simp [Parts.doomed, hn, hcur]
    refine ⟨(h.doomed b hb).1, fun hne q hq => ?_⟩
    exact h.not_shown hb (Parts.chain_shown_eq (by exact_mod_cast hne) hq)
  · intro q
    simp [Parts.chain]

theorem Underway.loopInv {w₀ : World} {p₀ : Parts} :
    LoopInv w₀ p₀ a s (Underway w₀ p₀ a s) where
  rotate := fun halong _ _ _ h => h.rotate halong
  carry := fun halong _ hmem _ _ h => h.carry halong (by rwa [halong.slotPlanes])

theorem Underway.loopInv_other {w₀ : World} {p₀ : Parts} {n : Nat} {C : List (Nat × DrmPlane)}
    (hne : s ≠ t) : LoopInv w₀ p₀ a t fun _ _ => Underway w₀ p₀ a s n C where
  rotate := fun halong _ _ _ h => h.other halong hne (x := []) (Or.inl rfl)
  carry := fun halong _ hmem _ _ h =>
    h.other halong hne (x := [_]) (Or.inr ⟨_, by rwa [halong.slotPlanes], _, rfl⟩)

/-- The request of a frame that spares the slot replaces the remembered buffer. -/
theorem Parts.Spares.replaced_chain {w₀ : World} {p₀ : Parts} {req : AtomicReq}
    (h : p₀.Spares w₀ a s) (hacc : w₀.accepts a = true)
    (hu : Underway w₀ p₀ a s 0 [] w p req) (halong : Along w₀ p₀ w p) :
    (p.chain w.drm s req).Replaced := by
  refine hu.since.replaced fun b f hr hh hf q hq => ?_
  obtain ⟨-, rfl⟩ := Parts.chain_holds.1 hh
  have hshown := Parts.chain_shown_eq (by exact_mod_cast hf) hq
  obtain ⟨x, hx, rfl⟩ := List.mem_map.1 (h.replaced hacc b hr q hshown.1 hshown)
  have hids : p.comp.planeIds s = p₀.comp.planeIds s := by
    unfold HdiDrmComposition.planeIds
    rw [halong.slotPlanes]
  simp only [Parts.chain, hids, if_pos hshown.1]
  exact (hu.carried x hx).resolve_left (by simp)

/-- What a frame leaves of the slot. -/
def ScannedOut (s : Slot) (w : World) : Prop := ∃ p : Parts, p.Of w ∧ Scanout p w.drm s []

theorem Scanout.discard {d : Drm} {req : AtomicReq} (h : Scanout p d s req) :
    Scanout p d s [] := by
  refine ⟨?_, h.kept, h.exist⟩
  rw [← Parts.chain_discard p d s req]
  exact Chain.discard_inv h.inv

theorem ScannedOut.quiet (h : ScannedOut s w) (blob : Nat) :
    ScannedOut s (w.setDrm { w.drm with log := .destroyPropertyBlob blob :: w.drm.log }) := by
  obtain ⟨p, hp, hs⟩ := h
  refine ⟨p, (Neutral.destroyBlob blob).of hp, hs.congr ?_ rfl rfl fun _ => id⟩
  exact Parts.chain_congr rfl rfl rfl rfl (fun _ _ => rfl) rfl (fun _ _ => rfl)

/-- The two releases, once the slot's remembered buffer is hidden. -/
theorem ScannedOut.releases (h : WellFormed w) (hp : p.Of w) (hs : Scanout p w.drm s [])
    (hhidden : (p.chain w.drm s []).Hidden) :
    Post (do releaseLast .primary a.release; releaseLast .cursor a.releaseCursor) w
      (fun _ w' => ScannedOut s w')
      (fun e w' => (∃ t, t ≠ s ∧ e = Slot.danglingLast t) ∧ ScannedOut s w') := by
  have hgood := h.good hp
  have h₁ := h.released hp .primary a.release
  have hp₁ := hp.released .primary a.release
  have hgood₁ := h₁.good hp₁
  rw [post_bind]
  cases s with
  | primary =>
      refine releaseLast_post hp (fun _ => ?_) (fun hd => absurd hd (hs.not_dangles hgood))
      have hs₁ := hs.released (a := a.release) hhidden hgood
      refine releaseLast_post hp₁ (fun _ => ?_) (fun _ => ⟨⟨.cursor, by simp, rfl⟩, _, hp₁, hs₁⟩)
      exact ⟨_, hp₁.released _ _, hs₁.released_other h₁.sound hgood₁ (by simp)⟩
  | cursor =>
      refine releaseLast_post hp (fun _ => ?_) (fun _ => ⟨⟨.primary, by simp, rfl⟩, _, hp, hs⟩)
      have hs₁ := hs.released_other (t := .primary) (a := a.release) h.sound hgood (by simp)
      have hhidden₁ : ((p.released .primary).chain (w.released p .primary a.release).drm
          .cursor []).Hidden := by
        rw [Parts.chain_released_other hgood (by simp)]
        exact hhidden
      refine releaseLast_post hp₁ (fun _ => ?_)
        (fun hd => absurd hd (hs₁.not_dangles hgood₁))
      exact ⟨_, hp₁.released _ _, hs₁.released hhidden₁ hgood₁⟩

/-- **A frame that spares a slot keeps its scanout.** Only a dangling pointer of the
other slot can stop it. -/
theorem ScannedOut.apply (h : WellFormed w) (hp : p.Of w) (hs : Scanout p w.drm s [])
    (hspares : p.Spares w a s) :
    Post (QemuHal.apply a) w (fun _ w' => ScannedOut s w')
      (fun e w' => (∃ t, t ≠ s ∧ e = Slot.danglingLast t) ∧ ScannedOut s w') := by
  have hstart := hspares.start hs
  have hcommit : ∀ w' p' pset, Along w p w' p' → Underway w p a s 0 [] w' p' pset.fbEntries →
      w.commits a = true → Post (commitFrame a pset) w' (fun _ w'' => ScannedOut s w'')
        (fun e w'' => (∃ t, t ≠ s ∧ e = Slot.danglingLast t) ∧ ScannedOut s w'') := by
    intro w' p' pset halong hu hcommits
    have hd := halong.wf.sound
    refine commitFrame_post halong.wf halong.of
      (fun _ => ⟨p', halong.of.refused pset, hu.scan.refused hd⟩) fun n hn => ?_
    have hacc : w.accepts a = true := by
      rw [World.accepts_iff]
      refine ⟨hcommits, n, ?_⟩
      unfold FrameAnswers.grants at hn ⊢
      rwa [halong.fds] at hn
    obtain ⟨hscan, hhidden⟩ := hu.scan.committed hd (hspares.replaced_chain hacc hu halong) n
    refine ScannedOut.releases ((halong.wf.committed pset n).fenced (halong.of.committed pset n) n)
      ((halong.of.committed pset n).fenced n) (hscan.fenced n) ?_
    rw [World.granted, World.fenced_drm, Parts.chain_fenced]
    exact hhidden
  exact apply_post_slot h hp Underway.loopInv (fun _ _ _ hne => Underway.loopInv_other hne)
    (fun _ hn hu => hu.neutral hn) (fun w' blob hq => hq.quiet blob) hstart ⟨p, hp, hs⟩
    (fun w' p' req halong hu => ⟨p', halong.of, hu.scan.discard⟩) hcommit

end

end QemuHal
