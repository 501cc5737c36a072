import QemuHal.Common.Scanout
import QemuHal.Core.Tenancy

/-!
# Who holds a descriptor of the common HAL

A layer holds the duplicate in its buffer object, the duplicate of its acquire fence and its
release fence. Every descriptor of the HAL has one of these for its holder. An operation that
composes no frame changes what the layers it works on hold, and no release fence of a client
layer.
-/

namespace QemuHal.Common.Frame

open Exec Tenure

/-! ## Holders -/

/-- The members of a layer that hold a descriptor. -/
inductive Member where
  | buffer
  | acquireFence
  | releaseFence
deriving DecidableEq, Repr

def HdiDrmLayer.fdOf (l : HdiDrmLayer) : Member → Int
  | .buffer =>
      match l.mHdiBuffer with
      | some buf => buf.mFd
      | none => -1
  | .acquireFence => l.mAcquireFence
  | .releaseFence => l.mReleaseFence

/-- The layers of a display. -/
inductive LayerName where
  | client
  | created (layerId : Nat)
deriving DecidableEq, Repr

def DrmDisplay.layer (disp : DrmDisplay) : LayerName → Option HdiDrmLayer
  | .client => some disp.mClientLayer
  | .created id => disp.mLayersMap id

structure Holder where
  devId : Nat
  layer : LayerName
  member : Member
deriving DecidableEq, Repr

def DrmDisplay.Holds (disp : DrmDisplay) (p : LayerName) (m : Member) (fd : Int) : Prop :=
  0 ≤ fd ∧ ∃ l, disp.layer p = some l ∧ l.fdOf m = fd

def Session.Holds (s : Session) (k : Holder) (fd : Int) : Prop :=
  ∃ disp, s.mHdiDisplays k.devId = some disp ∧ disp.Holds k.layer k.member fd

/-- Every descriptor of the HAL but the spare ones has one holder. -/
structure Tenants (spare : Int → Prop) (s : Session) : Prop where
  sole : Sole (fun e : FdEntry => e.hal = true) spare s.Holds s.drm.fds
  numbered : ∀ fd < 0, s.drm.fds fd = none
  layers : ∀ devId disp, s.mHdiDisplays devId = some disp →
    disp.mCompLayers = [] ∨ disp.mCompLayers = [.client]

section
variable {s : Session} {devId : Nat} {w w' w'' : World} {spare : Int → Prop}

theorem DrmDisplay.holds_layer {disp : DrmDisplay} {p : LayerName} {l : HdiDrmLayer}
    (hl : disp.layer p = some l) (m : Member) (fd : Int) :
    disp.Holds p m fd ↔ 0 ≤ fd ∧ l.fdOf m = fd := by
  constructor
  · rintro ⟨hpos, l', hl', hfd⟩
    rw [hl] at hl'
    cases hl'
    exact ⟨hpos, hfd⟩
  · exact fun ⟨hpos, hfd⟩ => ⟨hpos, l, hl, hfd⟩

theorem Session.holds_self (s : Session) (devId : Nat) (w : World) (p : LayerName) (m : Member)
    (fd : Int) : (s.store devId w).Holds ⟨devId, p, m⟩ fd ↔ w.disp.Holds p m fd := by
  unfold Session.Holds
  rw [s.store_self]
  constructor
  · rintro ⟨disp, hdisp, hheld⟩
    cases hdisp
    exact hheld
  · exact fun hheld => ⟨w.disp, rfl, hheld⟩

theorem Session.holds_other {k : Holder} (hk : k.devId ≠ devId) (fd : Int) :
    (s.store devId w).Holds k fd ↔ s.Holds k fd := by
  unfold Session.Holds
  rw [s.store_other hk]

/-- Layers with the same buffer and fences hold the same. -/
def HdiDrmLayer.deeds (l : HdiDrmLayer) : Option HdiLayerBuffer × Int × Int :=
  (l.mHdiBuffer, l.mAcquireFence, l.mReleaseFence)

theorem HdiDrmLayer.fdOf_congr {l l' : HdiDrmLayer} (h : l'.deeds = l.deeds) (m : Member) :
    l'.fdOf m = l.fdOf m := by
  obtain ⟨hbuf, hfences⟩ := Prod.mk.inj h
  obtain ⟨hacquire, hrelease⟩ := Prod.mk.inj hfences
  cases m with
  | buffer =>
      unfold fdOf
      rw [hbuf]
  | acquireFence => exact hacquire
  | releaseFence => exact hrelease

theorem DrmDisplay.holds_congr {disp disp' : DrmDisplay} {p : LayerName}
    (h : (disp'.layer p).map HdiDrmLayer.deeds = (disp.layer p).map HdiDrmLayer.deeds) (m : Member)
    (fd : Int) : disp'.Holds p m fd ↔ disp.Holds p m fd := by
  have hone : ∀ {x y : DrmDisplay},
      (x.layer p).map HdiDrmLayer.deeds = (y.layer p).map HdiDrmLayer.deeds →
      x.Holds p m fd → y.Holds p m fd := by
    rintro x y heq ⟨hpos, l, hl, hfd⟩
    rw [hl, Option.map_some] at heq
    obtain ⟨l', hl', hdeeds⟩ := Option.map_eq_some_iff.1 heq.symm
    exact ⟨hpos, l', hl', (HdiDrmLayer.fdOf_congr hdeeds m).trans hfd⟩
  exact ⟨hone h, hone h.symm⟩

/-! ## What an operation leaves alone -/

/-- An operation of display `devId` that does not concern the holders `P` and leaves the
descriptors `spare` to nobody. -/
structure Handled (s : Session) (devId : Nat) (spare : Int → Prop) (P : Holder → Prop)
    (w w' : World) : Prop where
  tenants : Tenants spare (s.store devId w')
  others : ∀ k, P k → ∀ fd, (s.store devId w).Holds k fd →
    (s.store devId w').Holds k fd ∧ w'.drm.fds fd = w.drm.fds fd
  client : ∀ fd file, w.drm.fds fd = some ⟨file, false⟩ → w'.drm.fds fd = some ⟨file, false⟩

namespace Handled

variable {P : Holder → Prop}

theorem refl (h : Tenants spare (s.store devId w)) : Handled s devId spare P w w :=
  ⟨h, fun _ _ _ hheld => ⟨hheld, rfl⟩, fun _ _ hfd => hfd⟩

theorem trans {spare' : Int → Prop} (h : Handled s devId spare P w w')
    (h' : Handled s devId spare' P w' w'') : Handled s devId spare' P w w'' where
  tenants := h'.tenants
  others := by
    intro k hk fd hheld
    obtain ⟨hheld', hfd⟩ := h.others k hk fd hheld
    obtain ⟨hheld'', hfd'⟩ := h'.others k hk fd hheld'
    exact ⟨hheld'', hfd'.trans hfd⟩
  client := fun fd file hfd => h'.client fd file (h.client fd file hfd)

theorem mono {P' : Holder → Prop} (h : Handled s devId spare P w w') (hP : ∀ k, P' k → P k) :
    Handled s devId spare P' w w' :=
  ⟨h.tenants, fun k hk => h.others k (hP k hk), h.client⟩

end Handled

/-- The layers of a display hold the same, and the table is the same. -/
structure World.Level (w w' : World) : Prop where
  fds : w'.drm.fds = w.drm.fds
  layers : ∀ p, (w'.disp.layer p).map HdiDrmLayer.deeds = (w.disp.layer p).map HdiDrmLayer.deeds
  comp : w'.disp.mCompLayers = w.disp.mCompLayers

theorem World.Level.refl (w : World) : w.Level w := ⟨rfl, fun _ => rfl, rfl⟩

theorem World.Level.trans (h : w.Level w') (h' : w'.Level w'') : w.Level w'' :=
  ⟨h'.fds.trans h.fds, fun p => (h'.layers p).trans (h.layers p), h'.comp.trans h.comp⟩

theorem Session.holds_congr
    (h : ∀ p m fd, w'.disp.Holds p m fd ↔ w.disp.Holds p m fd) (k : Holder) (fd : Int) :
    (s.store devId w').Holds k fd ↔ (s.store devId w).Holds k fd := by
  obtain ⟨e, p, m⟩ := k
  by_cases he : e = devId
  · rw [he, s.holds_self, s.holds_self]
    exact h p m fd
  · rw [s.holds_other he, s.holds_other he]

theorem Tenants.comp (h : Tenants spare (s.store devId w)) :
    w.disp.mCompLayers = [] ∨ w.disp.mCompLayers = [.client] :=
  h.layers devId w.disp (s.store_self ..)

theorem Tenants.closed (h : Tenants spare (s.store devId w)) {fd : Int} (hneg : fd < 0) :
    w.drm.fds fd = none := h.numbered fd hneg

theorem Tenants.layers_store (h : Tenants spare (s.store devId w))
    (hcomp : w'.disp.mCompLayers = [] ∨ w'.disp.mCompLayers = [.client]) {e : Nat}
    {disp : DrmDisplay} (hdisp : (s.store devId w').mHdiDisplays e = some disp) :
    disp.mCompLayers = [] ∨ disp.mCompLayers = [.client] := by
  by_cases he : e = devId
  · rw [he, s.store_self] at hdisp
    cases hdisp
    exact hcomp
  · rw [s.store_other he] at hdisp
    exact h.layers e disp (by rw [s.store_other he]; exact hdisp)

/-- The layers hold the same, and the table may have other entries of the client. -/
theorem Tenants.congr (h : Tenants spare (s.store devId w))
    (hholds : ∀ p m fd, w'.disp.Holds p m fd ↔ w.disp.Holds p m fd)
    (hours : ∀ fd, Ours (fun e : FdEntry => e.hal = true) w'.drm.fds fd ↔
      Ours (fun e : FdEntry => e.hal = true) w.drm.fds fd)
    (hneg : ∀ fd < 0, w'.drm.fds fd = none)
    (hcomp : w'.disp.mCompLayers = [] ∨ w'.disp.mCompLayers = [.client]) :
    Tenants spare (s.store devId w') :=
  ⟨h.sole.congr (Session.holds_congr hholds) hours, hneg, fun _ _ => h.layers_store hcomp⟩

/-- The layers hold the same, and the table is the same. -/
theorem Tenants.rehold (h : Tenants spare (s.store devId w)) (hfds : w'.drm.fds = w.drm.fds)
    (hholds : ∀ p m fd, w'.disp.Holds p m fd ↔ w.disp.Holds p m fd)
    (hcomp : w'.disp.mCompLayers = [] ∨ w'.disp.mCompLayers = [.client]) {P : Holder → Prop} :
    Handled s devId spare P w w' where
  tenants := by
    refine h.congr hholds (fun fd => by rw [hfds]) ?_ hcomp
    rw [hfds]
    exact h.numbered
  others := fun k _ fd hheld => ⟨(Session.holds_congr hholds k fd).2 hheld, by rw [hfds]⟩
  client := fun fd file hfd => by rw [hfds]; exact hfd

theorem World.Level.handled (hl : w.Level w') (h : Tenants spare (s.store devId w))
    {P : Holder → Prop} : Handled s devId spare P w w' := by
  refine h.rehold hl.fds (fun p m fd => DrmDisplay.holds_congr (hl.layers p) m fd) ?_
  rw [hl.comp]
  exact h.comp

/-- Descriptors are opened that nobody holds. -/
theorem Tenants.strayed (h : Tenants spare (s.store devId w)) {new : Int → Prop}
    (hopened : ∀ r, new r → 0 ≤ r ∧ w.drm.fds r = none ∧ ∃ file, w'.drm.fds r = some ⟨file, true⟩)
    (hothers : ∀ r, ¬ new r → w'.drm.fds r = w.drm.fds r)
    (hholds : ∀ p m fd, w'.disp.Holds p m fd ↔ w.disp.Holds p m fd)
    (hcomp : w'.disp.mCompLayers = [] ∨ w'.disp.mCompLayers = [.client]) {P : Holder → Prop} :
    Handled s devId (fun r => spare r ∨ new r) P w w' := by
  have hfresh : ∀ r, new r → ¬ Ours (fun e : FdEntry => e.hal = true) w.drm.fds r := by
    rintro r hnew ⟨e, he, -⟩
    exact absurd (he.symm.trans (hopened r hnew).2.1) (by simp)
  have htaken : ∀ r, new r → Ours (fun e : FdEntry => e.hal = true) w'.drm.fds r := by
    intro r hnew
    obtain ⟨-, -, file, he⟩ := hopened r hnew
    exact ⟨_, he, rfl⟩
  have hopen : ∀ r e, w.drm.fds r = some e → w'.drm.fds r = some e := by
    intro r e he
    rw [hothers r, he]
    intro hnew
    exact absurd (he.symm.trans (hopened r hnew).2.1) (by simp)
  have hall : ∀ k fd, (s.store devId w').Holds k fd ↔ (s.store devId w).Holds k fd :=
    fun k fd => Session.holds_congr hholds k fd
  refine ⟨⟨?_, fun r hr => ?_, fun _ _ => h.layers_store hcomp⟩, fun k _ r hheld => ?_,
    fun r file hr => hopen r _ hr⟩
  · exact (h.sole.stray hfresh htaken hothers).congr hall fun _ => Iff.rfl
  · show w'.drm.fds r = none
    rw [hothers r fun hnew => by have := (hopened r hnew).1; omega]
    exact h.closed hr
  · obtain ⟨e, he, -⟩ := h.sole.owned hheld
    exact ⟨(hall k r).2 hheld, (hopen r e he).trans he.symm⟩

/-! ## A member changes what it holds -/

/-- The number `old` is closed, and `new` is one of ours that was free. -/
structure Swapped (fds fds' : Int → Option FdEntry) (old new : Int) : Prop where
  taken : new = -1 ∨ (0 ≤ new ∧ fds new = none ∧ ∃ file, fds' new = some ⟨file, true⟩)
  closed : 0 ≤ old → fds' old = none
  frame : ∀ r, (0 ≤ new → r ≠ new) → (0 ≤ old → r ≠ old) → fds' r = fds r

theorem Swapped.of_renewed {d : Drm} {fd old n : Int} {answer : Option Int}
    {fds : Int → Option FdEntry} (h : d.Renewed fd answer old n fds) : Swapped d.fds fds old n where
  taken := by
    rcases h.number with hminus | ⟨-, hpos, hfree, e, -, he⟩
    · exact Or.inl hminus
    · exact Or.inr ⟨hpos, hfree, e.file, he⟩
  closed := h.closed
  frame := h.frame

/-- A layer of the display and the descriptors are replaced. -/
def World.put (w : World) (p : LayerName) (l : HdiDrmLayer) (drm : Drm) : World :=
  match p with
  | .client => (w.setDrm drm).setClient l
  | .created id => (w.setDrm drm).setLayer id (some l)

@[simp] theorem World.put_drm (w : World) (p : LayerName) (l : HdiDrmLayer) (drm : Drm) :
    (w.put p l drm).drm = drm := by
  cases p <;> rfl

theorem World.put_layer (w : World) (p : LayerName) (l : HdiDrmLayer) (drm : Drm) (q : LayerName) :
    (w.put p l drm).disp.layer q = if q = p then some l else w.disp.layer q := by
  cases p with
  | client => cases q <;> rfl
  | created id =>
      cases q with
      | client => rfl
      | created id' =>
          show Function.update w.disp.mLayersMap id (some l) id' = _
          rw [Function.update_apply]
          simp only [LayerName.created.injEq]
          rfl

theorem World.put_comp (w : World) (p : LayerName) (l : HdiDrmLayer) (drm : Drm) :
    (w.put p l drm).disp.mCompLayers = w.disp.mCompLayers := by
  cases p <;> rfl

theorem World.put_put (w : World) (p : LayerName) (l l' : HdiDrmLayer) (drm drm' : Drm) :
    (w.put p l drm).put p l' drm' = w.put p l' drm' := by
  cases p with
  | client => rfl
  | created id => simp [World.put, World.setLayer, World.setDrm]

/-- What a layer holds is open and ours. -/
theorem Tenants.ours (h : Tenants spare (s.store devId w)) {p : LayerName} {l : HdiDrmLayer}
    (hl : w.disp.layer p = some l) {m : Member} (hpos : 0 ≤ l.fdOf m) :
    ∃ file, w.drm.fds (l.fdOf m) = some ⟨file, true⟩ := by
  have hheld := (s.holds_self devId w p m _).2 ((DrmDisplay.holds_layer hl m _).2 ⟨hpos, rfl⟩)
  obtain ⟨⟨file, hal⟩, he, hours⟩ := h.sole.owned hheld
  cases hours
  exact ⟨file, he⟩

/-- To the holders, a member that changes what it holds takes a turn. -/
theorem Swapped.turn {p : LayerName} {l l' : HdiDrmLayer} {m : Member} {drm : Drm}
    (hx : Swapped w.drm.fds drm.fds (l.fdOf m) (l'.fdOf m)) (hl : w.disp.layer p = some l)
    (hothers : ∀ m', m' ≠ m → l'.fdOf m' = l.fdOf m') :
    Turn (fun e : FdEntry => e.hal = true) ⟨devId, p, m⟩ (s.store devId w).Holds
      (s.store devId (w.put p l' drm)).Holds w.drm.fds drm.fds := by
  have hl' : (w.put p l' drm).disp.layer p = some l' := by rw [w.put_layer, if_pos rfl]
  have hold : ∀ r, (s.store devId w).Holds ⟨devId, p, m⟩ r ↔ 0 ≤ r ∧ l.fdOf m = r :=
    fun r => (s.holds_self devId w p m r).trans (DrmDisplay.holds_layer hl m r)
  have hnew : ∀ r, (s.store devId (w.put p l' drm)).Holds ⟨devId, p, m⟩ r ↔ 0 ≤ r ∧ l'.fdOf m = r :=
    fun r => (s.holds_self devId _ p m r).trans (DrmDisplay.holds_layer hl' m r)
  constructor
  · rintro ⟨e, q, m'⟩ hk r
    by_cases he : e = devId
    · rw [he, s.holds_self, s.holds_self]
      by_cases hq : q = p
      · subst hq
        have hm' : m' ≠ m := by
          rintro rfl
          exact hk (by rw [he])
        rw [DrmDisplay.holds_layer hl', DrmDisplay.holds_layer hl, hothers m' hm']
      · unfold DrmDisplay.Holds
        rw [w.put_layer, if_neg hq]
    · rw [s.holds_other he, s.holds_other he]
  · intro r hheld
    obtain ⟨hpos, rfl⟩ := (hnew r).1 hheld
    rcases hx.taken with hminus | ⟨-, hfree, -⟩
    · omega
    · rintro ⟨e, he, -⟩
      exact absurd (he.symm.trans hfree) (by simp)
  · intro r hheld
    obtain ⟨hpos, rfl⟩ := (hnew r).1 hheld
    rcases hx.taken with hminus | ⟨-, -, file, he⟩
    · omega
    · exact ⟨_, he, rfl⟩
  · intro r hheld
    obtain ⟨hpos, rfl⟩ := (hold r).1 hheld
    rintro ⟨e, he, -⟩
    exact absurd (he.symm.trans (hx.closed hpos)) (by simp)
  · intro r hno hno'
    apply hx.frame
    · rintro hpos rfl
      exact hno' ((hnew _).2 ⟨hpos, rfl⟩)
    · rintro hpos rfl
      exact hno ((hold _).2 ⟨hpos, rfl⟩)

/-- **One member of one layer** changes what it holds, and nothing else is touched. -/
theorem Tenants.exchange (h : Tenants spare (s.store devId w)) {p : LayerName} {l l' : HdiDrmLayer}
    (hl : w.disp.layer p = some l) {m : Member} {drm : Drm}
    (hx : Swapped w.drm.fds drm.fds (l.fdOf m) (l'.fdOf m))
    (hothers : ∀ m', m' ≠ m → l'.fdOf m' = l.fdOf m') :
    Handled s devId spare (· ≠ ⟨devId, p, m⟩) w (w.put p l' drm) := by
  have hturn : Turn _ _ (s.store devId w).Holds (s.store devId (w.put p l' drm)).Holds _ _ :=
    hx.turn hl hothers
  -- what is not ours is neither the number taken nor the one closed
  have hframe : ∀ r, (0 ≤ l.fdOf m → r ≠ l.fdOf m) → (∃ e, w.drm.fds r = some e) →
      drm.fds r = w.drm.fds r := by
    rintro r hr ⟨e, he⟩
    refine hx.frame r (fun hpos hne => ?_) hr
    rcases hx.taken with hminus | ⟨-, hfree, -⟩
    · omega
    · rw [hne, hfree] at he
      exact absurd he (by simp)
  refine ⟨⟨?_, fun r hneg => ?_, fun e disp hdisp => ?_⟩, fun k hk r hheld => ?_, fun r file hr => ?_⟩
  · have hdrm : (s.store devId (w.put p l' drm)).drm = drm := w.put_drm p l' drm
    rw [hdrm]
    exact h.sole.turn hturn
  · show (w.put p l' drm).drm.fds r = none
    rw [w.put_drm, hx.frame r (by omega) (by omega)]
    exact h.numbered r hneg
  · refine h.layers_store ?_ hdisp
    rw [w.put_comp]
    exact h.comp
  · rw [w.put_drm]
    exact h.sole.other hturn hk hheld
  · rw [w.put_drm, hframe r ?_ ⟨_, hr⟩, hr]
    rintro hpos rfl
    obtain ⟨file', he⟩ := h.ours hl hpos
    rw [hr] at he
    exact absurd he (by simp)

/-! ## The newest fence of a CRTC -/

/-- The request asks for a fence of the CRTC. -/
def fenced (pset : AtomicReq) (crtc : Nat) : Bool :=
  pset.any fun e => decide (e.obj = .crtc crtc ∧ e.prop = .outFencePtr)

/-- The fence of the newest frame of the CRTC that was accepted. -/
def newestFence (crtc : Nat) : List DrmCall → Option Nat
  | [] => none
  | .atomicCommit pset _ (some _) :: log =>
      if fenced pset crtc then some log.length else newestFence crtc log
  | _ :: log => newestFence crtc log

/-- Calls were made, but no commits. -/
def Grown (d d' : Drm) : Prop := ∃ log, d'.log = log ++ d.log ∧ commits log = []

theorem Grown.refl (d : Drm) : Grown d d := ⟨[], rfl, rfl⟩

theorem commits_append (log log' : List DrmCall) : commits (log ++ log') = commits log ++ commits log' := by
  induction log with
  | nil => rfl
  | cons call log ih =>
      rw [List.cons_append]
      cases call <;> simp [commits, ih]

theorem Grown.trans {d d' d'' : Drm} (h : Grown d d') (h' : Grown d' d'') : Grown d d'' := by
  obtain ⟨log, heq, hnone⟩ := h
  obtain ⟨log', heq', hnone'⟩ := h'
  refine ⟨log' ++ log, by rw [heq', heq, List.append_assoc], ?_⟩
  rw [commits_append, hnone, hnone']
  rfl

theorem newestFence_append {log : List DrmCall} (h : commits log = []) (log' : List DrmCall) (c : Nat) :
    newestFence c (log ++ log') = newestFence c log' := by
  induction log with
  | nil => rfl
  | cons call log ih =>
      rw [List.cons_append]
      cases call with
      | atomicCommit pset fbs fence => exact absurd h (by simp [commits])
      | primeFDToHandle | addFB2 | rmFB | gemClose | gemDestroyed | createPropertyBlob
      | destroyPropertyBlob => exact ih h

theorem Grown.newest {d d' : Drm} (h : Grown d d') (c : Nat) :
    newestFence c d'.log = newestFence c d.log := by
  obtain ⟨log, heq, hnone⟩ := h
  rw [heq]
  exact newestFence_append hnone d.log c

/-- One call that is no commit. -/
theorem Grown.push {d d' : Drm} {call : DrmCall} (h : d'.log = call :: d.log)
    (hcall : commits [call] = []) : Grown d d' := ⟨[call], h, hcall⟩

theorem newGem_grown (d : Drm) (hdl : HdiLayerBuffer) (a : ImportAnswers) (format : FbFormat) :
    Grown d (d.newGem hdl a format).2 := by
  have hprime : ∀ (d : Drm) (gem : Nat) (fd : Int) (answer : Option Nat),
      Grown d (d.primeFDToHandle gem fd answer).2 := by
    intro d gem fd answer
    unfold Drm.primeFDToHandle
    split
    · split
      · exact .push rfl rfl
      · exact .push rfl rfl
    · exact .refl d
  have hadd : ∀ (d : Drm) (gem handle : Nat) (width height pitch : Int) (answer : Option Nat),
      Grown d (d.addFB2 gem handle width height format pitch answer).2 := by
    intro d gem handle width height pitch answer
    unfold Drm.addFB2
    split
    · exact .push rfl rfl
    · exact .refl d
  have hinit : ∀ (d : Drm) (gem : Nat), Grown d (DrmGemBuffer.init d gem hdl a format).2 := by
    intro d gem
    unfold DrmGemBuffer.init
    split
    · exact .refl d
    · have h := hprime d gem hdl.mFd a.handle
      cases hp : d.primeFDToHandle gem hdl.mFd a.handle with
      | mk handle d₁ =>
          rw [hp] at h
          cases handle with
          | none => exact h
          | some handle =>
              have h' := hadd d₁ gem handle hdl.mWidth hdl.mHeight hdl.mStride a.fb
              dsimp only
              cases ha : d₁.addFB2 gem handle hdl.mWidth hdl.mHeight format hdl.mStride a.fb with
              | mk fb d₂ =>
                  rw [ha] at h'
                  cases fb <;> exact h.trans h'
  exact hinit { d with nextGem := d.nextGem + 1 } d.nextGem

theorem destroyOwned_grown (d : Drm) (p : Option Nat) (a : DropAnswers) :
    Grown d (d.destroyOwned p a) := by
  have hfb : ∀ (d : Drm) (gem : Nat) (g : DrmGemBuffer) (ok : Bool), Grown d (d.dropFb gem g ok).2 := by
    intro d gem g ok
    unfold Drm.dropFb
    split
    · exact .push rfl rfl
    · exact .refl d
  have hhandle : ∀ (d : Drm) (gem : Nat) (g : DrmGemBuffer) (ok : Bool),
      Grown d (d.dropHandle gem g ok).2 := by
    intro d gem g ok
    unfold Drm.dropHandle
    split
    · exact .push rfl rfl
    · exact .refl d
  cases p with
  | none => exact .refl d
  | some gem =>
      unfold Drm.destroyOwned Drm.destroyGem
      dsimp only
      cases d.gems gem with
      | none => exact .refl d
      | some g => exact ((hfb d gem g a.rmFB).trans (hhandle _ gem _ a.gemClose)).trans (.push rfl rfl)

/-- A layer the client created has no release fence. -/
def DrmDisplay.Bare (disp : DrmDisplay) : Prop :=
  ∀ id l, disp.mLayersMap id = some l → l.mReleaseFence = -1

/-- Nothing changes that has to do with the release fences. -/
structure World.Calm (w w' : World) : Prop where
  crtc : w'.disp.mCrtc = w.disp.mCrtc
  release : w'.disp.mClientLayer.mReleaseFence = w.disp.mClientLayer.mReleaseFence
  newest : ∀ c, newestFence c w'.drm.log = newestFence c w.drm.log
  bare : w.disp.Bare → w'.disp.Bare
  comp : w.disp.mCompLayers = [.client] → w'.disp.mCompLayers = [.client]

theorem World.Calm.refl (w : World) : w.Calm w := ⟨rfl, rfl, fun _ => rfl, id, id⟩

theorem World.Calm.trans (h : w.Calm w') (h' : w'.Calm w'') : w.Calm w'' :=
  ⟨h'.crtc.trans h.crtc, h'.release.trans h.release, fun c => (h'.newest c).trans (h.newest c),
    fun hb => h'.bare (h.bare hb), fun hc => h'.comp (h.comp hc)⟩

theorem World.Calm.put {p : LayerName} {l l' : HdiDrmLayer} {drm : Drm} (hl : w.disp.layer p = some l)
    (hrelease : l'.mReleaseFence = l.mReleaseFence)
    (hnewest : ∀ c, newestFence c drm.log = newestFence c w.drm.log) : w.Calm (w.put p l' drm) := by
  cases p with
  | client =>
      cases hl
      exact ⟨rfl, hrelease, hnewest, id, id⟩
  | created id =>
      refine ⟨rfl, rfl, hnewest, fun hb id' x hx => ?_, fun hc => hc⟩
      have hx' : Function.update w.disp.mLayersMap id (some l') id' = some x := hx
      rw [Function.update_apply] at hx'
      split at hx'
      · cases hx'
        exact hrelease.trans (hb id l hl)
      · exact hb id' x hx'

/-! ## The operations without a frame -/

/-- The release fence of a client layer. -/
def Holder.IsRelease (k : Holder) : Prop := k.layer = .client ∧ k.member = .releaseFence

/-- The operation concerns no release fence. -/
structure Unfenced (s : Session) (devId : Nat) (spare : Int → Prop) (w w' : World) : Prop where
  handled : Handled s devId spare Holder.IsRelease w w'
  calm : w.Calm w'

namespace Unfenced

theorem refl (h : Tenants spare (s.store devId w)) : Unfenced s devId spare w w :=
  ⟨.refl h, .refl w⟩

theorem trans {spare' : Int → Prop} (h : Unfenced s devId spare w w')
    (h' : Unfenced s devId spare' w' w'') : Unfenced s devId spare' w w'' :=
  ⟨h.handled.trans h'.handled, h.calm.trans h'.calm⟩

end Unfenced

/-- Files are opened that stay open. -/
theorem Tenants.opens (h : Tenants spare (s.store devId w)) {l : List Int} (ho : w.Opens l w') :
    Unfenced s devId (fun fd => spare fd ∨ fd ∈ l) w w' := by
  obtain ⟨fds, statics, mBrightnessLevel, rfl⟩ := ho.rest
  refine ⟨h.strayed ho.opened ho.others (fun p m fd => DrmDisplay.holds_congr ?_ m fd) h.comp,
    ⟨rfl, rfl, fun _ => rfl, id, id⟩⟩
  cases p <;> rfl

/-- The buffer or the acquire fence of a layer is renewed. -/
theorem Tenants.renew (h : Tenants spare (s.store devId w)) {p : LayerName} {l l' : HdiDrmLayer}
    (hl : w.disp.layer p = some l) {m : Member} (hm : m ≠ .releaseFence) (fd : Int)
    (answer : Option Int) (hfd : l'.fdOf m = (w.drm.renew fd answer (l.fdOf m)).1)
    (hothers : ∀ m', m' ≠ m → l'.fdOf m' = l.fdOf m') :
    Unfenced s devId spare w (w.put p l' (w.drm.renew fd answer (l.fdOf m)).2) := by
  have hnone : 0 ≤ l.fdOf m → w.drm.fds (l.fdOf m) ≠ none := by
    intro hpos
    obtain ⟨file, he⟩ := h.ours hl hpos
    simp [he]
  have hx := Swapped.of_renewed (w.drm.renew_spec fd answer hnone)
  rw [← hfd] at hx
  refine ⟨(h.exchange hl hx hothers).mono ?_, .put hl (hothers _ hm.symm) fun c => ?_⟩
  · rintro k ⟨-, hk⟩ rfl
    exact hm hk
  · obtain ⟨fds, hdup⟩ := w.drm.dup_frame fd answer
    unfold Drm.renew
    rw [hdup]
    split <;> rfl

/-- **`SetLayerBuffer`** renews the buffer, then the acquire fence. -/
theorem Tenants.setLayerBuffer (h : Tenants spare (s.store devId w)) {p : LayerName}
    {l : HdiDrmLayer} (hl : w.disp.layer p = some l) (buffer : Option BufferHandle) (fence : Int)
    (a : DupAnswers) :
    Unfenced s devId spare w (w.put p (l.setLayerBuffer w.drm buffer fence a).2.1
      (l.setLayerBuffer w.drm buffer fence a).2.2) := by
  cases buffer with
  | none =>
      have hcalm : w.Calm (w.put p l w.drm) := .put hl rfl fun _ => rfl
      have hlevel : w.Level (w.put p l w.drm) := by
        refine ⟨by rw [w.put_drm], fun q => ?_, w.put_comp p l w.drm⟩
        rw [w.put_layer]
        split
        · next hq => rw [hq, hl]
        · rfl
      exact ⟨hlevel.handled h, hcalm⟩
  | some hdl =>
      set drm := (w.drm.renew hdl.fd a.buffer (l.fdOf .buffer)).2 with hdrm
      set l₁ : HdiDrmLayer := { l with mHdiBuffer := some (HdiLayerBuffer.new w.drm hdl a.buffer).1 }
        with hl₁
      set l₂ : HdiDrmLayer := { l₁ with mAcquireFence := (drm.renew fence a.fence l.mAcquireFence).1 }
        with hl₂
      have heq : l.setLayerBuffer w.drm (some hdl) fence a =
          (.success, l₂, (drm.renew fence a.fence l.mAcquireFence).2) := by
        rw [hl₂, hl₁, hdrm]
        unfold HdiDrmLayer.setLayerBuffer Drm.renew HdiDrmLayer.fdOf
        cases l.mHdiBuffer <;> rfl
      have hbuffer : Unfenced s devId spare w (w.put p l₁ drm) := by
        refine h.renew hl (m := .buffer) (by simp) hdl.fd a.buffer rfl fun m hm => ?_
        cases m with
        | buffer => exact absurd rfl hm
        | acquireFence => rfl
        | releaseFence => rfl
      have hat : (w.put p l₁ drm).disp.layer p = some l₁ := by rw [w.put_layer, if_pos rfl]
      have hfence : Unfenced s devId spare (w.put p l₁ drm) ((w.put p l₁ drm).put p l₂
          ((w.put p l₁ drm).drm.renew fence a.fence l₁.mAcquireFence).2) := by
        refine hbuffer.handled.tenants.renew hat (m := .acquireFence) (by simp) fence a.fence ?_
          fun m hm => ?_
        · rw [w.put_drm]
          rfl
        · cases m with
          | buffer => rfl
          | acquireFence => exact absurd rfl hm
          | releaseFence => rfl
      rw [w.put_drm, w.put_put] at hfence
      rw [heq]
      exact hbuffer.trans hfence

/-- A descriptor is duplicated for the client. -/
theorem Tenants.handOut (h : Tenants spare (s.store devId w)) (fd : Int) (answer : Option Int) :
    Post (handOut fd answer) w (fun _ w' => Unfenced s devId spare w w') (fun _ _ => False) := by
  unfold Frame.handOut
  simp only [post_bind, post_get, post_set, post_pure]
  rcases w.drm.dup_cases fd answer with heq | ⟨e, n, he, -, hpos, hfree, heq⟩
  · have hnone : w.drm.handOver (-1) = w.drm := Drm.handOver_none (h.closed (by decide))
    rw [heq]
    dsimp only
    rw [hnone]
    exact .refl h
  · rw [heq]
    set d := ({ w.drm with fds := Function.update w.drm.fds n (some { e with hal := true }) } :
      Drm).handOver n with hd
    have hn : d.fds n = some ⟨e.file, false⟩ := by simp [hd, Drm.handOver]
    have hother : ∀ r, r ≠ n → d.fds r = w.drm.fds r := by
      intro r hr
      simp [hd, Drm.handOver, Function.update_of_ne hr]
    have hopen : ∀ r x, w.drm.fds r = some x → d.fds r = some x := by
      intro r x hx
      rw [hother r, hx]
      rintro rfl
      rw [hfree] at hx
      exact absurd hx (by simp)
    have hnot : ¬ Ours (fun e : FdEntry => e.hal = true) d.fds n ∧
        ¬ Ours (fun e : FdEntry => e.hal = true) w.drm.fds n := by
      constructor
      · rintro ⟨x, hx, hours⟩
        rw [hn] at hx
        cases hx
        exact absurd hours (by simp)
      · rintro ⟨x, hx, -⟩
        rw [hfree] at hx
        exact absurd hx (by simp)
    refine ⟨⟨h.congr (fun _ _ _ => Iff.rfl) (fun r => ?_) (fun r hr => ?_) h.comp, fun k _ r hheld => ?_,
      fun r file hr => hopen r _ hr⟩, ⟨rfl, rfl, fun c => ?_, id, id⟩⟩
    · by_cases hr : r = n
      · rw [hr]
        exact iff_of_false hnot.1 hnot.2
      · exact ⟨fun hx => hx.congr (hother r hr).symm, fun hx => hx.congr (hother r hr)⟩
    · show d.fds r = none
      rw [hother r (by omega)]
      exact h.numbered r hr
    · obtain ⟨x, hx, -⟩ := h.sole.owned hheld
      exact ⟨hheld, (hopen r x hx).trans hx.symm⟩
    · rfl

/-- What the client is given of the fences of created layers is nothing. -/
theorem Tenants.releaseFences (mLayers : List Nat) (a : List (Option Int)) : ∀ w : World,
    Tenants spare (s.store devId w) → Post (releaseFences mLayers a) w
      (fun fds w' => Unfenced s devId spare w w' ∧ (w.disp.Bare → ∀ fd ∈ fds, fd = -1))
      (fun _ _ => False) := by
  induction mLayers generalizing a with
  | nil =>
      intro w h
      cases a <;> exact ⟨.refl h, fun _ => by simp⟩
  | cons id mLayers ih =>
      intro w h
      cases a with
      | nil => exact ⟨.refl h, fun _ => by simp⟩
      | cons answer a =>
          unfold Frame.releaseFences
          rw [post_bind, post_get]
          cases hl : w.disp.mLayersMap id with
          | none => exact ih a w h
          | some l =>
              dsimp only
              rw [post_bind]
              have hminus : w.disp.Bare → ∀ answer, w.drm.dup l.mReleaseFence answer = (-1, w.drm) := by
                intro hb answer
                rw [hb id l hl]
                unfold Drm.dup
                rw [h.closed (by decide)]
              have hret : Post (Frame.handOut l.mReleaseFence answer) w
                  (fun fd _ => w.disp.Bare → fd = -1) (fun _ _ => False) := by
                unfold Frame.handOut
                simp only [post_bind, post_get, post_set, post_pure]
                intro hb
                rw [hminus hb]
              refine ((h.handOut l.mReleaseFence answer).and hret).mono ?_ (fun _ _ he => he.1)
              rintro fd w₁ ⟨h₁, hfd⟩
              rw [post_bind]
              refine (ih a w₁ h₁.handled.tenants).mono ?_ (fun _ _ he => he)
              rintro fds w₂ ⟨h₂, hfds⟩
              refine ⟨h₁.trans h₂, fun hb x hx => ?_⟩
              rcases List.mem_cons.1 hx with rfl | hx
              · exact hfd hb
              · exact hfds (h₁.calm.bare hb) x hx

/-- The layer without its descriptors. -/
def HdiDrmLayer.emptied (l : HdiDrmLayer) : HdiDrmLayer :=
  { l with mHdiBuffer := none, mAcquireFence := -1, mReleaseFence := -1 }

theorem HdiDrmLayer.emptied_fdOf (l : HdiDrmLayer) (m : Member) : l.emptied.fdOf m = -1 := by
  cases m <;> rfl

/-- The table once the buffer, the release fence and the acquire fence are closed. -/
def HdiDrmLayer.closeAll (l : HdiDrmLayer) (d : Drm) : Drm :=
  (((d.renew 0 none (l.fdOf .buffer)).2.renew 0 none l.mReleaseFence).2.renew 0 none
    l.mAcquireFence).2

/-- `~HdiDrmLayer` closes what the layer holds and commits nothing. -/
theorem HdiDrmLayer.destroy_closes (l : HdiDrmLayer) (d : Drm) (last current : DropAnswers) :
    (l.destroy d last current).fds = (l.closeAll d).fds ∧ Grown d (l.destroy d last current) := by
  have hgems : Grown d ((d.destroyOwned l.mLastBuffer last).destroyOwned l.mCurrentBuffer current) :=
    (destroyOwned_grown _ _ _).trans (destroyOwned_grown _ _ _)
  have hfds : ((d.destroyOwned l.mLastBuffer last).destroyOwned l.mCurrentBuffer current).fds =
      d.fds := by
    rw [(Drm.destroyOwned_frame _ _ _).1, (Drm.destroyOwned_frame _ _ _).1]
  have hclose : ∀ (d : Drm) (fd : Int), (if 0 ≤ fd then d.close fd else d).log = d.log := by
    intro d fd
    split <;> rfl
  unfold destroy closeAll
  rw [Drm.renew_none, Drm.renew_none, Drm.renew_none]
  dsimp only
  constructor
  · apply Drm.closing_fds
    apply Drm.closing_fds
    rw [← Drm.closing_fds hfds]
    unfold fdOf HdiLayerBuffer.destroy
    cases l.mHdiBuffer <;> rfl
  · refine hgems.trans ⟨[], ?_, rfl⟩
    rw [hclose, hclose]
    unfold HdiLayerBuffer.destroy
    cases l.mHdiBuffer with
    | none => rfl
    | some buf => exact hclose _ _

/-- A layer gives up what it holds. -/
theorem Tenants.emptied (h : Tenants spare (s.store devId w)) {p : LayerName} {l : HdiDrmLayer}
    (hl : w.disp.layer p = some l) (hp : p ≠ .client) :
    Handled s devId spare Holder.IsRelease w (w.put p l.emptied (l.closeAll w.drm)) := by
  have hexchange : ∀ {w : World} {l : HdiDrmLayer} (l' : HdiDrmLayer) (m : Member),
      Tenants spare (s.store devId w) →
      w.disp.layer p = some l → l'.fdOf m = -1 → (∀ m', m' ≠ m → l'.fdOf m' = l.fdOf m') →
      Handled s devId spare Holder.IsRelease w (w.put p l' (w.drm.renew 0 none (l.fdOf m)).2) := by
    intro w l l' m h hl hfd hothers
    have hnone : 0 ≤ l.fdOf m → w.drm.fds (l.fdOf m) ≠ none := by
      intro hpos
      obtain ⟨file, he⟩ := h.ours hl hpos
      simp [he]
    have hx := Swapped.of_renewed (w.drm.renew_spec 0 none hnone)
    have hminus : (w.drm.renew 0 none (l.fdOf m)).1 = l'.fdOf m := by
      rw [Drm.renew_none, hfd]
    rw [hminus] at hx
    refine (h.exchange hl hx hothers).mono ?_
    rintro k ⟨hk, -⟩ rfl
    exact hp hk
  have hat : ∀ (w : World) (l : HdiDrmLayer) (d : Drm), (w.put p l d).disp.layer p = some l := by
    intro w l d
    rw [w.put_layer, if_pos rfl]
  have hbuffer := hexchange { l with mHdiBuffer := none } .buffer h hl rfl fun m hm => by
    cases m with
    | buffer => exact absurd rfl hm
    | acquireFence => rfl
    | releaseFence => rfl
  have hrelease := hexchange { l with mHdiBuffer := none, mReleaseFence := -1 } .releaseFence
    hbuffer.tenants (hat _ _ _) rfl fun m hm => by
      cases m with
      | buffer => rfl
      | acquireFence => rfl
      | releaseFence => exact absurd rfl hm
  have hacquire := hexchange l.emptied .acquireFence hrelease.tenants (hat _ _ _) rfl
    fun m hm => by
      cases m with
      | buffer => rfl
      | acquireFence => exact absurd rfl hm
      | releaseFence => rfl
  simp only [World.put_put, World.put_drm] at hrelease hacquire
  exact (hbuffer.trans hrelease).trans hacquire

/-- A layer that holds nothing is put in the map or taken out of it. -/
theorem Tenants.setLayer (h : Tenants spare (s.store devId w)) {id : Nat}
    {x : Option HdiDrmLayer} (hold : ∀ l, w.disp.mLayersMap id = some l → ∀ m, l.fdOf m = -1)
    (hnew : ∀ l, x = some l → ∀ m, l.fdOf m = -1) {P : Holder → Prop} :
    Handled s devId spare P w (w.setLayer id x) := by
  have hfds : (w.setLayer id x).drm.fds = w.drm.fds := rfl
  refine h.rehold hfds (fun p m fd => ?_) h.comp
  have hempty : ∀ {disp : DrmDisplay}, (∀ l, disp.mLayersMap id = some l → ∀ m, l.fdOf m = -1) →
      ¬ disp.Holds (.created id) m fd := by
    rintro disp hall ⟨hpos, l, hl, hfd⟩
    have hminus := hall l hl m
    omega
  have hself : (w.setLayer id x).disp.mLayersMap id = x := Function.update_self ..
  cases p with
  | client => exact Iff.rfl
  | created id' =>
      by_cases hid : id' = id
      · rw [hid]
        refine iff_of_false (hempty fun l hl => hnew l ?_) (hempty hold)
        rw [← hl, hself]
      · have hother : (w.setLayer id x).disp.layer (.created id') = w.disp.layer (.created id') :=
          Function.update_of_ne hid ..
        unfold DrmDisplay.Holds
        rw [hother]

theorem World.Calm.setLayer {id : Nat} {x : Option HdiDrmLayer}
    (hx : ∀ l, x = some l → l.mReleaseFence = -1) : w.Calm (w.setLayer id x) := by
  refine ⟨rfl, rfl, fun _ => rfl, fun hb id' l hl => ?_, fun hc => hc⟩
  have hl' : Function.update w.disp.mLayersMap id x id' = some l := hl
  rw [Function.update_apply] at hl'
  split at hl'
  · exact hx l hl'
  · exact hb id' l hl'

theorem Tenants.closeLayer (h : Tenants spare (s.store devId w)) (layerId : Nat)
    (last current : DropAnswers) :
    Post (closeLayer layerId last current) w (fun _ w' => Unfenced s devId spare w w')
      (fun _ _ => False) := by
  unfold Frame.closeLayer
  rw [post_bind, post_get]
  cases hl : w.disp.mLayersMap layerId with
  | none => exact .refl h
  | some l =>
      obtain ⟨hfds, hgrown⟩ := l.destroy_closes w.drm last current
      have hlayer : w.disp.layer (.created layerId) = some l := hl
      have hempty := h.emptied hlayer (by simp)
      set w₁ := w.put (.created layerId) l.emptied (l.closeAll w.drm) with hw₁
      have hgone : Handled s devId spare Holder.IsRelease w₁ (w₁.setLayer layerId none) := by
        refine hempty.tenants.setLayer (fun x hx m => ?_) (by simp)
        have hself : w₁.disp.mLayersMap layerId = some l.emptied := Function.update_self ..
        rw [hself] at hx
        cases hx
        exact l.emptied_fdOf m
      have hlevel : (w₁.setLayer layerId none).Level
          ((w.setDrm (l.destroy w.drm last current)).setLayer layerId none) := by
        have hmap : (w₁.setLayer layerId none).disp = ((w.setDrm (l.destroy w.drm last current)).setLayer
            layerId none).disp := by
          simp [hw₁, World.put, World.setLayer, World.setDrm]
        exact ⟨hfds, fun p => by rw [hmap], by rw [hmap]⟩
      refine ⟨(hempty.trans hgone).trans (hlevel.handled hgone.tenants), ?_⟩
      have hdrm : w.Calm (w.setDrm (l.destroy w.drm last current)) :=
        ⟨rfl, rfl, hgrown.newest, id, id⟩
      exact hdrm.trans (.setLayer (by simp))

theorem Tenants.createLayer (h : Tenants spare (s.store devId w)) (layerId : Option Nat) :
    Post (createLayer layerId) w (fun _ w' => Unfenced s devId spare w w') (fun _ _ => False) := by
  unfold Frame.createLayer
  cases layerId with
  | none => exact .refl h
  | some id =>
      rw [post_bind, post_modify, post_pure]
      cases hl : w.disp.mLayersMap id with
      | some l =>
          rw [if_neg (by simp)]
          exact .refl h
      | none =>
          show Unfenced s devId spare w (w.setLayer id (some {}))
          refine ⟨h.setLayer (fun l hl' => ?_) (fun l hl' m => ?_), .setLayer fun l hl' => ?_⟩
          · rw [hl] at hl'
            exact absurd hl' (by simp)
          · cases hl'
            cases m <;> rfl
          · cases hl'
            rfl

/-- `SetLayers` and the z-order of the client layer. -/
theorem Tenants.setLayers (h : Tenants spare (s.store devId w)) (mZorder : Nat) :
    Unfenced s devId spare w { w with
      disp := { w.disp with
        mClientLayer := { w.disp.mClientLayer with mZorder }
        mCompLayers := [.client] } } := by
  set w' : World := { w with
    disp := { w.disp with
      mClientLayer := { w.disp.mClientLayer with mZorder }
      mCompLayers := [.client] } }
  have hfds : w'.drm.fds = w.drm.fds := rfl
  refine ⟨h.rehold hfds (fun p m fd => DrmDisplay.holds_congr ?_ m fd) (Or.inr rfl),
    ⟨rfl, rfl, fun _ => rfl, id, fun _ => rfl⟩⟩
  cases p <;> rfl

end

end QemuHal.Common.Frame
