import QemuHal.Lib.Tenure
import QemuHal.Core.Fences
import QemuHal.Core.Nulls

/-!
# Who holds a descriptor

A layer holds the duplicate in its buffer object and the duplicate of its acquire fence, and
the client layer the release fences queued in it. Every descriptor of the HAL is held by one
of these, but for those nobody held when the display was brought up. An operation changes
what the layers it works on hold and no other descriptor of a layer.
-/

namespace QemuHal

open Exec Tenure

/-! ## Holders -/

/-- The two members of a layer that hold a descriptor. -/
inductive Member where
  | buffer
  | acquireFence
deriving DecidableEq, Repr

def HdiLayer.fdOf (l : HdiLayer) : Member → Int
  | .buffer =>
      match l.mHdiBuffer with
      | some buf => buf.mFd
      | none => -1
  | .acquireFence => l.mAcquireFence

/-- What can hold a descriptor: a member of a layer, or the place of a fence in the queue of
the client layer. -/
inductive Holder where
  | layer (p : LayerRef) (m : Member)
  | releaseFence (fd : Int)
deriving DecidableEq, Repr

def World.Holds (w : World) : Holder → Int → Prop
  | .layer p m, fd => 0 ≤ fd ∧ ∃ l ∈ w.layerAt p, l.fdOf m = fd
  | .releaseFence n, fd => n = fd ∧ ∃ l ∈ w.disp.mClientLayer, fd ∈ l.releaseFences_

/-- The descriptor is open and the HAL's. -/
def Drm.Ours (d : Drm) (fd : Int) : Prop := Tenure.Ours (fun e : FdEntry => e.hal = true) d.fds fd

theorem World.holds_layer {w : World} {p : LayerRef} {l : HdiLayer} (hl : w.layerAt p = some l)
    (m : Member) (fd : Int) : w.Holds (.layer p m) fd ↔ 0 ≤ fd ∧ l.fdOf m = fd := by
  constructor
  · rintro ⟨hpos, l', hl', hfd⟩
    obtain rfl := Option.some.inj (hl.symm.trans hl')
    exact ⟨hpos, hfd⟩
  · rintro ⟨hpos, hfd⟩
    exact ⟨hpos, l, hl, hfd⟩

/-- Every descriptor of the HAL but the spare ones has one holder. -/
structure Tenants (spare : Int → Prop) (w : World) : Prop where
  sole : Sole (fun e : FdEntry => e.hal = true) spare w.Holds w.drm.fds
  numbered : ∀ fd < 0, w.drm.fds fd = none
  queue : ∀ l ∈ w.disp.mClientLayer, l.releaseFences_.Nodup
  idle : ∀ n, ∀ l ∈ w.disp.layers n, l.releaseFences_ = []

/-! ## Layers an operation does not work on -/

/-- What a layer has to do with descriptors, its queue apart. -/
def HdiLayer.deeds (l : HdiLayer) : Option HdiLayerBuffer × Int := (l.mHdiBuffer, l.mAcquireFence)

theorem HdiLayer.fdOf_congr {l l' : HdiLayer} (h : l'.deeds = l.deeds) (m : Member) :
    l'.fdOf m = l.fdOf m := by
  have hbuf : l'.mHdiBuffer = l.mHdiBuffer := congrArg Prod.fst h
  have hfence : l'.mAcquireFence = l.mAcquireFence := congrArg Prod.snd h
  cases m with
  | buffer =>
      unfold fdOf
      rw [hbuf]
  | acquireFence => exact hfence

/-- The layer has the same buffer and fence, and their descriptors denote the same. -/
structure Untouched (p : LayerRef) (w w' : World) : Prop where
  deeds : (w'.layerAt p).map HdiLayer.deeds = (w.layerAt p).map HdiLayer.deeds
  entry : ∀ m fd, w.Holds (.layer p m) fd → w'.drm.fds fd = w.drm.fds fd

theorem Untouched.refl (p : LayerRef) (w : World) : Untouched p w w := ⟨rfl, fun _ _ _ => rfl⟩

theorem World.holds_of_deeds {p : LayerRef} {w w' : World}
    (h : (w'.layerAt p).map HdiLayer.deeds = (w.layerAt p).map HdiLayer.deeds) (m : Member)
    (fd : Int) : w'.Holds (.layer p m) fd ↔ w.Holds (.layer p m) fd := by
  have hone : ∀ {v v' : World},
      (v'.layerAt p).map HdiLayer.deeds = (v.layerAt p).map HdiLayer.deeds →
      v'.Holds (.layer p m) fd → v.Holds (.layer p m) fd := by
    rintro v v' heq ⟨hpos, l', hl', hfd⟩
    rw [Option.mem_def.1 hl', Option.map_some] at heq
    obtain ⟨l, hl, hdeeds⟩ := Option.map_eq_some_iff.1 heq.symm
    exact ⟨hpos, l, hl, (HdiLayer.fdOf_congr hdeeds m).trans hfd⟩
  exact ⟨hone h, hone h.symm⟩

theorem Untouched.trans {p : LayerRef} {w w' w'' : World} (h : Untouched p w w')
    (h' : Untouched p w' w'') : Untouched p w w'' where
  deeds := h'.deeds.trans h.deeds
  entry := by
    intro m fd hfd
    exact (h'.entry m fd ((World.holds_of_deeds h.deeds m fd).2 hfd)).trans (h.entry m fd hfd)

/-- An operation of the HAL on the layers `touched`. -/
structure Handled (spare : Int → Prop) (touched : LayerRef → Prop) (w w' : World) : Prop where
  tenants : Tenants spare w'
  untouched : ∀ p, ¬ touched p → Untouched p w w'
  others : ∀ fd, spare fd ∨ (∃ file, w.drm.fds fd = some ⟨file, false⟩) →
    w'.drm.fds fd = w.drm.fds fd

namespace Handled

variable {spare : Int → Prop} {touched touched' : LayerRef → Prop} {w w' w'' : World}

theorem refl (h : Tenants spare w) : Handled spare touched w w :=
  ⟨h, fun p _ => Untouched.refl p w, fun _ _ => rfl⟩

theorem trans (h : Handled spare touched w w') (h' : Handled spare touched w' w'') :
    Handled spare touched w w'' where
  tenants := h'.tenants
  untouched := fun p hp => (h.untouched p hp).trans (h'.untouched p hp)
  others := by
    intro fd hfd
    have hsame := h.others fd hfd
    refine (h'.others fd ?_).trans hsame
    rcases hfd with hspare | ⟨file, hfile⟩
    · exact Or.inl hspare
    · exact Or.inr ⟨file, hsame.trans hfile⟩

theorem mono (h : Handled spare touched w w') (ht : ∀ p, touched p → touched' p) :
    Handled spare touched' w w' :=
  ⟨h.tenants, fun p hp => h.untouched p fun hp' => hp (ht p hp'), h.others⟩

end Handled

section
variable {spare : Int → Prop} {touched : LayerRef → Prop} {w w' : World}

/-- A queue of the client layer in one state is the queue in the other. -/
theorem World.queue_of (h : (w'.disp.mClientLayer).map HdiLayer.releaseFences_ =
    (w.disp.mClientLayer).map HdiLayer.releaseFences_) :
    ∀ l' ∈ w'.disp.mClientLayer, ∃ l ∈ w.disp.mClientLayer,
      l.releaseFences_ = l'.releaseFences_ := by
  intro l' hl'
  rw [Option.mem_def.1 hl', Option.map_some] at h
  exact Option.map_eq_some_iff.1 h.symm

theorem World.holds_queue (h : (w'.disp.mClientLayer).map HdiLayer.releaseFences_ =
    (w.disp.mClientLayer).map HdiLayer.releaseFences_) (n fd : Int) :
    w'.Holds (.releaseFence n) fd ↔ w.Holds (.releaseFence n) fd := by
  constructor
  · rintro ⟨hn, l', hl', hfd⟩
    obtain ⟨l, hl, heq⟩ := queue_of h l' hl'
    exact ⟨hn, l, hl, heq ▸ hfd⟩
  · rintro ⟨hn, l, hl, hfd⟩
    obtain ⟨l', hl', heq⟩ := queue_of h.symm l hl
    exact ⟨hn, l', hl', heq ▸ hfd⟩

/-- Replacing a layer by one with the same queue. -/
theorem World.queue_setLayer {p : LayerRef} {l : HdiLayer} (hl : w.layerAt p = some l)
    {l' : HdiLayer} (hfences : l'.releaseFences_ = l.releaseFences_) :
    ((w.setLayer p l').disp.mClientLayer).map HdiLayer.releaseFences_ =
      (w.disp.mClientLayer).map HdiLayer.releaseFences_ := by
  cases p with
  | client =>
      have hl : w.disp.mClientLayer = some l := hl
      simp [World.setLayer, hl, hfences]
  | cursor => rfl
  | created n => rfl

theorem Tenants.idle_setLayer (h : Tenants spare w) {p : LayerRef} {l : HdiLayer}
    (hl : w.layerAt p = some l) {l' : HdiLayer} (hfences : l'.releaseFences_ = l.releaseFences_) :
    ∀ n, ∀ k ∈ (w.setLayer p l').disp.layers n, k.releaseFences_ = [] := by
  intro n k hk
  cases p with
  | client => exact h.idle n k hk
  | cursor => exact h.idle n k hk
  | created m =>
      simp only [World.setLayer, Function.update_apply, Option.mem_def] at hk
      split at hk
      · obtain rfl := Option.some.inj hk
        rw [hfences]
        exact h.idle m l hl
      · exact h.idle n k hk

/-- Nothing that has to do with descriptors changes. -/
theorem Tenants.same (h : Tenants spare w) (hfds : w'.drm.fds = w.drm.fds)
    (hdeeds : ∀ p, (w'.layerAt p).map HdiLayer.deeds = (w.layerAt p).map HdiLayer.deeds)
    (hclient : (w'.disp.mClientLayer).map HdiLayer.releaseFences_ =
      (w.disp.mClientLayer).map HdiLayer.releaseFences_)
    (hidle : ∀ n, ∀ l ∈ w'.disp.layers n, l.releaseFences_ = []) :
    Handled spare touched w w' := by
  refine ⟨⟨?_, ?_, ?_, hidle⟩, fun p _ => ⟨hdeeds p, fun _ fd _ => by rw [hfds]⟩,
    fun fd _ => by rw [hfds]⟩
  · rw [hfds]
    apply h.sole.congr _ fun _ => Iff.rfl
    rintro (⟨p, m⟩ | n) fd
    · exact World.holds_of_deeds (hdeeds p) m fd
    · exact World.holds_queue hclient n fd
  · rw [hfds]
    exact h.numbered
  · intro l' hl'
    obtain ⟨l, hl, heq⟩ := World.queue_of hclient l' hl'
    rw [← heq]
    exact h.queue l hl

/-- A layer gets other fields, but the same buffer, fence and queue. -/
theorem Tenants.setSame (h : Tenants spare w) {p : LayerRef} {l : HdiLayer}
    (hl : w.layerAt p = some l) {l' : HdiLayer} (hdeeds : l'.deeds = l.deeds)
    (hfences : l'.releaseFences_ = l.releaseFences_) :
    Handled spare touched w (w.setLayer p l') := by
  refine h.same (by simp) (fun q => ?_) (World.queue_setLayer hl hfences)
    (h.idle_setLayer hl hfences)
  rw [World.layerAt_setLayer]
  split
  · next hq => rw [hq, hl, Option.map_some, Option.map_some, hdeeds]
  · rfl

/-- The containers and the composition have nothing to do with descriptors. -/
theorem Tenants.congr (h : Tenants spare w) (hlayers : ∀ p, w'.layerAt p = w.layerAt p)
    (hdrm : w'.drm.fds = w.drm.fds) : Handled spare touched w w' := by
  refine h.same hdrm (fun p => by rw [hlayers]) ?_ fun n l hl => ?_
  · have hclient : w'.disp.mClientLayer = w.disp.mClientLayer := hlayers .client
    rw [hclient]
  · have hn : w'.disp.layers n = w.disp.layers n := hlayers (.created n)
    rw [hn] at hl
    exact h.idle n l hl

end

/-! ## A member takes a duplicate and closes what it held -/

/-- Duplicate `fd`, then close `old`. -/
def Drm.renew (d : Drm) (fd : Int) (answer : Option Int) (old : Int) : Int × Drm :=
  ((d.dup fd answer).1,
    if 0 ≤ old then (d.dup fd answer).2.close old else (d.dup fd answer).2)

/-- A `dup` fails, or gives out a free number that denotes what the other does. -/
theorem Drm.dup_cases (d : Drm) (fd : Int) (answer : Option Int) :
    d.dup fd answer = (-1, d) ∨ ∃ e n, d.fds fd = some e ∧ answer = some n ∧ 0 ≤ n ∧
      d.fds n = none ∧ d.dup fd answer =
        (n, { d with fds := Function.update d.fds n (some { e with hal := true }) }) := by
  unfold dup
  split
  · next e n he =>
      split
      · next hfree => exact Or.inr ⟨e, n, he, rfl, hfree.1, hfree.2, rfl⟩
      · exact Or.inl rfl
  · exact Or.inl rfl

/-- What `renew` does to the table: the number it gives out was free and denotes what the
other does, the old one is closed, and every other number is as it was. -/
structure Drm.Renewed (d : Drm) (fd : Int) (answer : Option Int) (old : Int) (n : Int)
    (fds : Int → Option FdEntry) : Prop where
  number : n = -1 ∨ answer = some n ∧ 0 ≤ n ∧ d.fds n = none ∧
    ∃ e, d.fds fd = some e ∧ fds n = some { e with hal := true }
  closed : 0 ≤ old → fds old = none
  frame : ∀ r, (0 ≤ n → r ≠ n) → (0 ≤ old → r ≠ old) → fds r = d.fds r

theorem Drm.renew_spec (d : Drm) (fd : Int) (answer : Option Int) {old : Int}
    (hold : 0 ≤ old → d.fds old ≠ none) :
    d.Renewed fd answer old (d.renew fd answer old).1 (d.renew fd answer old).2.fds := by
  unfold renew
  rcases d.dup_cases fd answer with heq | ⟨e, n, he, ha, hpos, hfree, heq⟩
  · rw [heq]
    refine ⟨Or.inl rfl, fun ho => ?_, fun r hr hro => ?_⟩
    · simp [ho, close]
    · dsimp only
      split
      · next ho => exact d.close_fds (hro ho).symm
      · rfl
  · rw [heq]
    have hne : 0 ≤ old → n ≠ old := by
      rintro ho rfl
      exact hold ho hfree
    set d' : Drm := { d with fds := Function.update d.fds n (some { e with hal := true }) } with hd'
    have hnew : d'.fds n = some { e with hal := true } := by simp [hd']
    refine ⟨Or.inr ⟨ha, hpos, hfree, e, he, ?_⟩, fun ho => ?_, fun r hr hro => ?_⟩
    · dsimp only
      split
      · next ho => rw [Drm.close_fds _ (hne ho).symm, hnew]
      · exact hnew
    · simp [ho, close]
    · have hother : d'.fds r = d.fds r := Function.update_of_ne (hr hpos) _ _
      dsimp only
      split
      · next ho => rw [Drm.close_fds _ (hro ho).symm, hother]
      · exact hother

section
variable {spare : Int → Prop} {touched : LayerRef → Prop} {w : World}

/-- What is spare or the client's is open and held by nobody. -/
theorem Tenants.others_apart (h : Tenants spare w) {fd : Int}
    (hfd : spare fd ∨ ∃ file, w.drm.fds fd = some ⟨file, false⟩) (k : Holder) :
    w.drm.fds fd ≠ none ∧ ¬ w.Holds k fd := by
  rcases hfd with hspare | ⟨file, hfile⟩
  · obtain ⟨⟨e, he, -⟩, hnone⟩ := h.sole.kept hspare
    exact ⟨by simp [he], hnone k⟩
  · refine ⟨by simp [hfile], fun hk => ?_⟩
    obtain ⟨e, he, hours⟩ := h.sole.owned hk
    obtain rfl := Option.some.inj (hfile.symm.trans he)
    exact absurd hours (by simp)

/-- What a layer holds is open. -/
theorem Tenants.open_of {p : LayerRef} {l : HdiLayer} (h : Tenants spare w)
    (hl : w.layerAt p = some l) {m : Member} (hpos : 0 ≤ l.fdOf m) :
    w.drm.Ours (l.fdOf m) := h.sole.owned ((World.holds_layer hl m _).2 ⟨hpos, rfl⟩)

theorem Tenants.ne_none {p : LayerRef} {l : HdiLayer} (h : Tenants spare w)
    (hl : w.layerAt p = some l) {m : Member} (hpos : 0 ≤ l.fdOf m) :
    w.drm.fds (l.fdOf m) ≠ none := by
  obtain ⟨e, he, -⟩ := h.open_of hl hpos
  rw [he]
  simp

theorem Tenants.renewed (h : Tenants spare w) {p : LayerRef} {l : HdiLayer}
    (hl : w.layerAt p = some l) (m : Member) (fd : Int) (answer : Option Int) :
    w.drm.Renewed fd answer (l.fdOf m) (w.drm.renew fd answer (l.fdOf m)).1
      (w.drm.renew fd answer (l.fdOf m)).2.fds :=
  w.drm.renew_spec fd answer fun hpos => h.ne_none hl hpos

/-- To the holders, renewing a member is a turn of the one that is renewed. -/
theorem Tenants.renew_turn (h : Tenants spare w) {p : LayerRef} {l l' : HdiLayer}
    (hl : w.layerAt p = some l) (m : Member) (fd : Int) (answer : Option Int)
    (hm : l'.fdOf m = (w.drm.renew fd answer (l.fdOf m)).1)
    (hothers : ∀ m', m' ≠ m → l'.fdOf m' = l.fdOf m')
    (hfences : l'.releaseFences_ = l.releaseFences_) :
    Turn (fun e : FdEntry => e.hal = true) (.layer p m) w.Holds
      ((w.setDrm (w.drm.renew fd answer (l.fdOf m)).2).setLayer p l').Holds w.drm.fds
      (w.drm.renew fd answer (l.fdOf m)).2.fds := by
  have hr := h.renewed hl m fd answer
  rw [← hm] at hr
  set d := (w.drm.renew fd answer (l.fdOf m)).2
  have hl' : ((w.setDrm d).setLayer p l').layerAt p = some l' := by simp
  constructor
  · intro k hk r
    rcases k with ⟨q, m'⟩ | n
    · by_cases hq : q = p
      · subst hq
        have hm' : m' ≠ m := fun heq => hk (heq ▸ rfl)
        rw [World.holds_layer hl', World.holds_layer hl, hothers m' hm']
      · show (_ ∧ ∃ l ∈ ((w.setDrm d).setLayer p l').layerAt q, _) ↔ (_ ∧ ∃ l ∈ w.layerAt q, _)
        rw [World.layerAt_setLayer, if_neg hq, World.setDrm_layerAt]
    · exact World.holds_queue (@World.queue_setLayer (w.setDrm d) p l hl l' hfences) n r
  · intro r hnew
    obtain ⟨hpos, rfl⟩ := (World.holds_layer hl' m r).1 hnew
    rcases hr.number with hminus | ⟨-, -, hfree, -⟩
    · omega
    · rintro ⟨e, he, -⟩
      exact absurd (he.symm.trans hfree) (by simp)
  · intro r hnew
    obtain ⟨hpos, rfl⟩ := (World.holds_layer hl' m r).1 hnew
    rcases hr.number with hminus | ⟨-, -, -, e, -, he⟩
    · omega
    · exact ⟨_, he, rfl⟩
  · intro r hheld
    obtain ⟨hpos, rfl⟩ := (World.holds_layer hl m r).1 hheld
    rintro ⟨e, he, -⟩
    exact absurd (he.symm.trans (hr.closed hpos)) (by simp)
  · intro r hold hnew
    apply hr.frame
    · rintro hpos rfl
      exact hnew ((World.holds_layer hl' m _).2 ⟨hpos, rfl⟩)
    · rintro hpos rfl
      exact hold ((World.holds_layer hl m _).2 ⟨hpos, rfl⟩)

/-- What is spare or the client's is neither the number given out nor the one closed. -/
theorem Tenants.renew_others (h : Tenants spare w) {p : LayerRef} {l : HdiLayer}
    (hl : w.layerAt p = some l) (m : Member) (fd : Int) (answer : Option Int) {r : Int}
    (hfd : spare r ∨ ∃ file, w.drm.fds r = some ⟨file, false⟩) :
    (w.drm.renew fd answer (l.fdOf m)).2.fds r = w.drm.fds r := by
  have hr := h.renewed hl m fd answer
  have hopen : w.drm.fds r ≠ none ∧ ¬ w.Holds (.layer p m) r := h.others_apart hfd _
  apply hr.frame
  · rintro hpos rfl
    rcases hr.number with hminus | ⟨-, -, hfree, -⟩
    · omega
    · exact hopen.1 hfree
  · rintro hpos rfl
    exact hopen.2 ((World.holds_layer hl m _).2 ⟨hpos, rfl⟩)

/-- **One member of one layer** is renewed, and nothing else is touched. -/
theorem Tenants.renew (h : Tenants spare w) {p : LayerRef} {l l' : HdiLayer}
    (hl : w.layerAt p = some l) (m : Member) (fd : Int) (answer : Option Int)
    (hm : l'.fdOf m = (w.drm.renew fd answer (l.fdOf m)).1)
    (hothers : ∀ m', m' ≠ m → l'.fdOf m' = l.fdOf m')
    (hfences : l'.releaseFences_ = l.releaseFences_) :
    Handled spare (· = p) w ((w.setDrm (w.drm.renew fd answer (l.fdOf m)).2).setLayer p l') ∧
      ∀ k, k ≠ .layer p m → ∀ r, w.Holds k r →
        (w.drm.renew fd answer (l.fdOf m)).2.fds r = w.drm.fds r := by
  have hturn := h.renew_turn hl m fd answer hm hothers hfences
  have hspared : ∀ r, spare r ∨ (∃ file, w.drm.fds r = some ⟨file, false⟩) →
      (w.drm.renew fd answer (l.fdOf m)).2.fds r = w.drm.fds r :=
    fun r hfd => h.renew_others hl m fd answer hfd
  set d := (w.drm.renew fd answer (l.fdOf m)).2
  set w' := (w.setDrm d).setLayer p l' with hw'
  have hdrm : w'.drm = d := by simp [hw']
  have hl' : w'.layerAt p = some l' := by simp [hw']
  have hkept : ∀ k, k ≠ .layer p m → ∀ r, w.Holds k r → d.fds r = w.drm.fds r :=
    fun k hk r hheld => (h.sole.other hturn hk hheld).2
  refine ⟨⟨⟨?_, fun r hneg => ?_, fun k' hk' => ?_, ?_⟩, fun q hq => ⟨?_, ?_⟩, ?_⟩, hkept⟩
  · rw [hdrm]
    exact h.sole.turn hturn
  · rw [hdrm]
    by_cases hold : w.Holds (.layer p m) r
    · exact absurd ((World.holds_layer hl m r).1 hold).1 (by omega)
    · rw [hturn.frame hold fun hnew => absurd ((World.holds_layer hl' m r).1 hnew).1 (by omega)]
      exact h.numbered r hneg
  · obtain ⟨k, hk, heq⟩ :=
      World.queue_of (@World.queue_setLayer (w.setDrm d) p l hl l' hfences) k' hk'
    rw [← heq]
    exact h.queue k hk
  · have hdisp : w'.disp = (w.setLayer p l').disp := by cases p <;> rfl
    rw [hdisp]
    exact h.idle_setLayer hl hfences
  · rw [hw', World.layerAt_setLayer, if_neg hq, World.setDrm_layerAt]
  · intro m' r hheld
    rw [hdrm]
    apply hkept _ _ r hheld
    intro heq
    exact hq (Holder.layer.inj heq).1
  · rw [hdrm]
    exact hspared

/-! ## `SetLayerBuffer` -/

/-- The layer with a new buffer object. -/
def HdiLayer.rebuffered (d : Drm) (l : HdiLayer) (hdl : BufferHandle) (answer : Option Int) :
    HdiLayer := { l with mHdiBuffer := some (HdiLayerBuffer.new d hdl answer).1 }

/-- The descriptors once the new buffer object has its duplicate and the old one is gone. -/
def HdiLayer.bufferDrm (d : Drm) (l : HdiLayer) (hdl : BufferHandle) (answer : Option Int) :
    Drm := (d.renew hdl.fd answer (l.fdOf .buffer)).2

/-- The layer with a new fence. -/
def HdiLayer.refenced (d : Drm) (l : HdiLayer) (fence : Int) (answer : Option Int) : HdiLayer :=
  { l with mAcquireFence := (d.renew fence answer l.mAcquireFence).1 }

/-- The buffer is renewed, and the fence only when there is a new one. -/
theorem HdiLayer.setLayerBuffer_eq (d : Drm) (l : HdiLayer) (hdl : BufferHandle) (fence : Int)
    (a : DupAnswers) :
    l.setLayerBuffer d (some hdl) fence a =
      if fence > -1 then
        (.success, (l.rebuffered d hdl a.buffer).refenced (l.bufferDrm d hdl a.buffer) fence a.fence,
          ((l.bufferDrm d hdl a.buffer).renew fence a.fence l.mAcquireFence).2)
      else (.success, l.rebuffered d hdl a.buffer, l.bufferDrm d hdl a.buffer) := by
  unfold setLayerBuffer refenced bufferDrm Drm.renew fdOf
  cases l.mHdiBuffer <;> rfl

/-- The state once the buffer of the layer is renewed. -/
def World.rebuffer (w : World) (p : LayerRef) (l : HdiLayer) (hdl : BufferHandle)
    (answer : Option Int) : World :=
  (w.setDrm (l.bufferDrm w.drm hdl answer)).setLayer p (l.rebuffered w.drm hdl answer)

/-- The state once the fence of the layer is renewed. -/
def World.refence (w : World) (p : LayerRef) (l : HdiLayer) (fence : Int) (answer : Option Int) :
    World :=
  (w.setDrm (w.drm.renew fence answer l.mAcquireFence).2).setLayer p (l.refenced w.drm fence answer)

@[simp] theorem World.rebuffer_drm (w : World) (p : LayerRef) (l : HdiLayer) (hdl : BufferHandle)
    (answer : Option Int) : (w.rebuffer p l hdl answer).drm = l.bufferDrm w.drm hdl answer := by
  simp [rebuffer]

@[simp] theorem World.rebuffer_layerAt (w : World) (p : LayerRef) (l : HdiLayer)
    (hdl : BufferHandle) (answer : Option Int) :
    (w.rebuffer p l hdl answer).layerAt p = some (l.rebuffered w.drm hdl answer) := by
  simp [rebuffer]

@[simp] theorem World.refence_drm (w : World) (p : LayerRef) (l : HdiLayer) (fence : Int)
    (answer : Option Int) : (w.refence p l fence answer).drm =
      (w.drm.renew fence answer l.mAcquireFence).2 := by
  simp [refence]

@[simp] theorem World.refence_layerAt (w : World) (p : LayerRef) (l : HdiLayer) (fence : Int)
    (answer : Option Int) :
    (w.refence p l fence answer).layerAt p = some (l.refenced w.drm fence answer) := by
  simp [refence]

theorem World.setLayer_again (w : World) (d d' : Drm) (p : LayerRef) (l l' : HdiLayer) :
    (((w.setDrm d).setLayer p l).setDrm d').setLayer p l' = (w.setDrm d').setLayer p l' := by
  cases p <;> simp [World.setLayer, World.setDrm]

theorem World.setLayerBuffer_eq (w : World) (p : LayerRef) (l : HdiLayer) (hdl : BufferHandle)
    (fence : Int) (a : DupAnswers) :
    (w.setDrm (l.setLayerBuffer w.drm (some hdl) fence a).2.2).setLayer p
        (l.setLayerBuffer w.drm (some hdl) fence a).2.1 =
      if fence > -1 then (w.rebuffer p l hdl a.buffer).refence p (l.rebuffered w.drm hdl a.buffer)
        fence a.fence
      else w.rebuffer p l hdl a.buffer := by
  rw [HdiLayer.setLayerBuffer_eq]
  split
  · unfold refence
    rw [rebuffer_drm, rebuffer, setLayer_again]
    rfl
  · rfl

/-- The buffer of the layer is renewed. -/
theorem Tenants.rebuffer (h : Tenants spare w) {p : LayerRef} {l : HdiLayer}
    (hl : w.layerAt p = some l) (hdl : BufferHandle) (answer : Option Int) :
    Handled spare (· = p) w (w.rebuffer p l hdl answer) ∧
      ∀ k, k ≠ .layer p .buffer → ∀ r, w.Holds k r →
        (l.bufferDrm w.drm hdl answer).fds r = w.drm.fds r := by
  have hfd : (l.rebuffered w.drm hdl answer).fdOf .buffer =
      (w.drm.renew hdl.fd answer (l.fdOf .buffer)).1 := rfl
  apply h.renew hl .buffer hdl.fd answer hfd
  · intro m hm
    cases m with
    | buffer => exact absurd rfl hm
    | acquireFence => rfl
  · rfl

/-- The fence of the layer is renewed. -/
theorem Tenants.refence (h : Tenants spare w) {p : LayerRef} {l : HdiLayer}
    (hl : w.layerAt p = some l) (fence : Int) (answer : Option Int) :
    Handled spare (· = p) w (w.refence p l fence answer) ∧
      ∀ k, k ≠ .layer p .acquireFence → ∀ r, w.Holds k r →
        (w.drm.renew fence answer l.mAcquireFence).2.fds r = w.drm.fds r := by
  have hfd : (l.refenced w.drm fence answer).fdOf .acquireFence =
      (w.drm.renew fence answer (l.fdOf .acquireFence)).1 := rfl
  apply h.renew hl .acquireFence fence answer hfd
  · intro m hm
    cases m with
    | buffer => rfl
    | acquireFence => exact absurd rfl hm
  · rfl

/-- **`SetLayerBuffer`** works on its layer only. -/
theorem Tenants.setLayerBuffer (h : Tenants spare w) {p : LayerRef} {l : HdiLayer}
    (hl : w.layerAt p = some l) (buffer : Option BufferHandle) (fence : Int) (a : DupAnswers) :
    Handled spare (· = p) w ((w.setDrm (l.setLayerBuffer w.drm buffer fence a).2.2).setLayer p
      (l.setLayerBuffer w.drm buffer fence a).2.1) := by
  cases buffer with
  | none => exact @Tenants.setSame _ _ (w.setDrm w.drm) h p l hl l rfl rfl
  | some hdl =>
      have hbuffer := (h.rebuffer hl hdl a.buffer).1
      rw [World.setLayerBuffer_eq]
      split
      · exact hbuffer.trans
          (hbuffer.tenants.refence (World.rebuffer_layerAt w p l hdl a.buffer) fence a.fence).1
      · exact hbuffer

/-- A duplicate denotes what the number it was made from did. -/
theorem Drm.Renewed.entry {d : Drm} {fd old n : Int} {answer : Option Int}
    {fds : Int → Option FdEntry} (h : d.Renewed fd answer old n fds) (hpos : 0 ≤ n) :
    ∃ e, d.fds fd = some e ∧ fds n = some { e with hal := true } := by
  rcases h.number with rfl | ⟨-, -, -, hentry⟩
  · omega
  · exact hentry

/-- A number that is not given out is closed or as it was. -/
theorem Drm.Renewed.stray {d : Drm} {fd old n : Int} {answer : Option Int}
    {fds : Int → Option FdEntry} (h : d.Renewed fd answer old n fds) {r : Int}
    (hr : answer ≠ some r) : fds r = none ∨ fds r = d.fds r := by
  have hnew : 0 ≤ n → r ≠ n := by
    rintro hpos rfl
    rcases h.number with hminus | ⟨ha, -, -, -⟩
    · omega
    · exact hr ha
  by_cases hold : 0 ≤ old ∧ r = old
  · exact Or.inl (hold.2 ▸ h.closed hold.1)
  · exact Or.inr (h.frame r hnew fun hpos heq => hold ⟨hpos, heq⟩)

end

/-! ## Operations of one display -/

/-- The operation works on the layers `touched` when it returns. -/
def Handles (spare : Int → Prop) (touched : LayerRef → Prop) {α : Type} (m : Hal α) : Prop :=
  ∀ w, Tenants spare w → Post m w (fun _ w' => Handled spare touched w w') (fun _ _ => True)

section
variable {spare : Int → Prop} {touched : LayerRef → Prop} {w : World} {α β : Type}

theorem Handles.pure (a : α) : Handles spare touched (pure a : Hal α) := fun _ h => Handled.refl h

theorem Handles.bind {m : Hal α} {f : α → Hal β} (hm : Handles spare touched m)
    (hf : ∀ a, Handles spare touched (f a)) : Handles spare touched (m >>= f) := by
  intro w h
  rw [post_bind]
  apply (hm w h).mono
  · intro a w' hw
    exact (hf a w' hw.tenants).mono (fun _ _ hw' => hw.trans hw') (fun _ _ _ => trivial)
  · exact fun _ _ _ => trivial

theorem handles_derefLayer (p : LayerRef) : Handles spare touched (derefLayer p) :=
  fun _ h => derefLayer_post (fun _ _ => Handled.refl h) (fun _ _ => trivial)

/-! ### The layers `CreateLayer` makes -/

/-- A layer the client created, not the client or the cursor layer of the display. -/
def LayerRef.IsCreated : LayerRef → Prop
  | .created _ => True
  | _ => False

/-- A new layer holds nothing. -/
theorem Tenants.created (h : Tenants spare w) (hreg : Registered w) (id : Nat) (ids : IdPool) :
    Handled spare LayerRef.IsCreated w (w.created id ids) := by
  have hnew : w.disp.layers w.disp.nextLayer = none := hreg.fresh _ (le_refl _)
  have hat : ∀ p l, (w.created id ids).layerAt p = some l →
      w.layerAt p = some l ∨ (p = .created w.disp.nextLayer ∧ l = { mId := id }) := by
    rintro (_ | _ | n) l hl
    · exact Or.inl hl
    · exact Or.inl hl
    · have hl : Function.update w.disp.layers w.disp.nextLayer (some { mId := id }) n = some l := hl
      rw [Function.update_apply] at hl
      split at hl
      · next hn => exact Or.inr ⟨by rw [hn], (Option.some.inj hl).symm⟩
      · exact Or.inl hl
  have hkept : ∀ p l, w.layerAt p = some l → (w.created id ids).layerAt p = some l := by
    rintro (_ | _ | n) l hl
    · exact hl
    · exact hl
    · have hne : n ≠ w.disp.nextLayer := by
        rintro rfl
        exact absurd (hl.symm.trans hnew) (by simp)
      show Function.update w.disp.layers w.disp.nextLayer (some { mId := id }) n = some l
      rw [Function.update_of_ne hne]
      exact hl
  refine ⟨⟨h.sole.congr ?_ (fun _ => Iff.rfl), h.numbered, h.queue, fun n l hl => ?_⟩, ?_,
    fun _ _ => rfl⟩
  · rintro (⟨p, m⟩ | n) fd
    · constructor
      · rintro ⟨hpos, l, hl, hfd⟩
        rcases hat p l hl with hl | ⟨-, rfl⟩
        · exact ⟨hpos, l, hl, hfd⟩
        · -- its members are `-1`
          cases m with
          | buffer =>
              have hfd : (-1 : Int) = fd := hfd
              omega
          | acquireFence =>
              have hfd : (-1 : Int) = fd := hfd
              omega
      · rintro ⟨hpos, l, hl, hfd⟩
        exact ⟨hpos, l, hkept p l hl, hfd⟩
    · exact Iff.rfl
  · rcases hat (.created n) l hl with hl | ⟨-, rfl⟩
    · exact h.idle n l hl
    · rfl
  · rintro (_ | _ | n) hp
    · exact ⟨rfl, fun _ _ _ => rfl⟩
    · exact ⟨rfl, fun _ _ _ => rfl⟩
    · exact absurd trivial hp

theorem handled_createLayer (hreg : Registered w) (h : Tenants spare w) (i l : Bool) :
    Post (createLayer i l) w (fun _ w' => Handled spare LayerRef.IsCreated w w')
      (fun _ _ => True) := by
  rcases createLayer_cases hreg i l with ⟨ret, heq⟩ | ⟨layerIds, heq, -⟩ |
    ⟨id, layerIds, heq, -⟩ | heq
  · exact post_of_ok heq (Handled.refl h)
  · exact post_of_ok heq (h.congr (fun p => by cases p <;> rfl) rfl)
  · exact post_of_ok heq (h.created hreg id layerIds)
  · unfold Post
    rw [heq]
    trivial

/-- The layer without what it held. -/
def HdiLayer.emptied (l : HdiLayer) : HdiLayer :=
  { l with mHdiBuffer := none, mAcquireFence := -1 }

/-- Closing what a layer holds. -/
def HdiLayer.closeAll (d : Drm) (l : HdiLayer) : Drm :=
  ((d.renew 0 none (l.fdOf .buffer)).2.renew 0 none l.mAcquireFence).2

theorem Drm.renew_none (d : Drm) (fd old : Int) :
    d.renew fd none old = (-1, if 0 ≤ old then d.close old else d) := by
  have hdup : d.dup fd none = (-1, d) := by
    unfold dup
    split <;> simp_all
  unfold renew
  rw [hdup]

theorem Drm.closing_fds {d d' : Drm} (h : d.fds = d'.fds) (old : Int) :
    (if 0 ≤ old then d.close old else d).fds = (if 0 ≤ old then d'.close old else d').fds := by
  split
  · simp only [close, h]
  · exact h

/-- `~HdiDrmLayer` closes what the layer holds and no other descriptor. -/
theorem HdiLayer.destroy_fds (l : HdiLayer) (d : Drm) (a : DestroyAnswers) :
    (l.destroy d a).fds = (l.closeAll d).fds := by
  have howned : ((d.destroyOwned l.lastBuffer_ a.last).destroyOwned l.mCurrentBuffer a.current).fds =
      d.fds := by
    rw [(Drm.destroyOwned_frame _ _ _).1, (Drm.destroyOwned_frame _ _ _).1]
  unfold destroy closeAll
  rw [Drm.renew_none, Drm.renew_none]
  dsimp only
  apply Drm.closing_fds
  rw [← Drm.closing_fds howned]
  unfold fdOf HdiLayerBuffer.destroy
  cases l.mHdiBuffer <;> rfl

/-- A layer gives up both descriptors. -/
theorem Tenants.emptied (h : Tenants spare w) {p : LayerRef} {l : HdiLayer}
    (hl : w.layerAt p = some l) :
    Handled spare (· = p) w ((w.setDrm (l.closeAll w.drm)).setLayer p l.emptied) := by
  have hnone : ∀ (d : Drm) (old : Int), (d.renew 0 none old).1 = -1 := by
    intro d old
    rw [Drm.renew_none]
  have hbuffer : Handled spare (· = p) w ((w.setDrm (w.drm.renew 0 none (l.fdOf .buffer)).2).setLayer
      p { l with mHdiBuffer := none }) := by
    have hfd : HdiLayer.fdOf { l with mHdiBuffer := none } .buffer =
        (w.drm.renew 0 none (l.fdOf .buffer)).1 := (hnone _ _).symm
    refine (h.renew hl .buffer 0 none hfd (fun m hm => ?_) rfl).1
    cases m with
    | buffer => exact absurd rfl hm
    | acquireFence => rfl
  set w₁ := (w.setDrm (w.drm.renew 0 none (l.fdOf .buffer)).2).setLayer p
    { l with mHdiBuffer := none } with hw₁
  have hl₁ : w₁.layerAt p = some { l with mHdiBuffer := none } := by simp [hw₁]
  have hdrm : w₁.drm = (w.drm.renew 0 none (l.fdOf .buffer)).2 := by simp [hw₁]
  have hfence : Handled spare (· = p) w₁ ((w₁.setDrm (w₁.drm.renew 0 none l.mAcquireFence).2).setLayer
      p l.emptied) := by
    have hfd : l.emptied.fdOf .acquireFence = (w₁.drm.renew 0 none l.mAcquireFence).1 :=
      (hnone _ _).symm
    refine (hbuffer.tenants.renew hl₁ .acquireFence 0 none hfd (fun m hm => ?_) rfl).1
    cases m with
    | buffer => rfl
    | acquireFence => exact absurd rfl hm
  rw [hdrm, hw₁, World.setLayer_again, ← hw₁] at hfence
  exact hbuffer.trans hfence

/-- A layer that is destroyed gives up what it held. -/
theorem handled_destroyLayer (h : Tenants spare w) (layerId : Nat) (a : DestroyAnswers) :
    Post (destroyLayer layerId a) w (fun _ w' => Handled spare LayerRef.IsCreated w w')
      (fun _ _ => True) := by
  unfold destroyLayer
  rw [post_bind, post_get]
  cases w.disp.mLayersMap layerId with
  | none => exact Handled.refl h
  | some n =>
      dsimp only
      rw [post_bind]
      apply derefLayer_post
      · intro l hl
        have hempty := h.emptied hl
        simp only [post_bind, post_set, post_pure]
        set w₁ := (w.setDrm (l.closeAll w.drm)).setLayer (.created n) l.emptied with hw₁
        set w₂ : World := { w with
          drm := l.destroy w.drm a
          disp := { w.disp with
            mLayers := eraseLayer w.zorderOf n w.disp.mLayers
            mLayersMap := Function.update w.disp.mLayersMap layerId none
            layers := Function.update w.disp.layers n none } } with hw₂
        have hfds : w₂.drm.fds = w₁.drm.fds := l.destroy_fds w.drm a
        have hother : ∀ p, p ≠ .created n → w₂.layerAt p = w₁.layerAt p := by
          intro p hp
          rw [hw₁, World.layerAt_setLayer, if_neg hp, World.setDrm_layerAt]
          rcases p with _ | _ | m
          · rfl
          · rfl
          · have hm : m ≠ n := fun heq => hp (heq ▸ rfl)
            exact Function.update_of_ne hm _ _
        have hgone : w₂.layerAt (.created n) = none := Function.update_self _ _ _
        have hleft : w₁.layerAt (.created n) = some l.emptied := by simp [hw₁]
        have hholds : ∀ k fd, w₂.Holds k fd ↔ w₁.Holds k fd := by
          rintro (⟨p, m⟩ | k) fd
          · by_cases hp : p = .created n
            · subst hp
              rw [World.holds_layer hleft]
              constructor
              · rintro ⟨-, k, hk, -⟩
                exact absurd (hgone.symm.trans hk) (by simp)
              · rintro ⟨hpos, hfd⟩
                have hminus : l.emptied.fdOf m = -1 := by cases m <;> rfl
                omega
            · show (_ ∧ ∃ l ∈ w₂.layerAt p, _) ↔ (_ ∧ ∃ l ∈ w₁.layerAt p, _)
              rw [hother p hp]
          · exact Iff.rfl
        have herased : Handled spare LayerRef.IsCreated w₁ w₂ := by
          refine ⟨⟨?_, ?_, hempty.tenants.queue, fun m k hk => ?_⟩, fun p hp => ⟨?_, fun m fd _ => ?_⟩,
            fun fd _ => ?_⟩
          · rw [hfds]
            exact hempty.tenants.sole.congr hholds fun _ => Iff.rfl
          · rw [hfds]
            exact hempty.tenants.numbered
          · have hk : w₂.layerAt (.created m) = some k := hk
            by_cases hm : m = n
            · rw [hm, hgone] at hk
              exact absurd hk (by simp)
            · rw [hother _ fun heq => hm (LayerRef.created.inj heq)] at hk
              exact hempty.tenants.idle m k hk
          · rw [hother p]
            rintro rfl
            exact hp trivial
          · rw [hfds]
          · rw [hfds]
        exact (hempty.mono fun p hp => hp ▸ trivial).trans herased
      · exact fun _ _ => trivial

/-! ### The other operations on layers -/

theorem handled_setLayerZorder (hreg : Registered w) (h : Tenants spare w) (layerId zorder : Nat) :
    Post (setLayerZorder layerId zorder) w (fun _ w' => Handled spare touched w w')
      (fun _ _ => True) := by
  rcases setLayerZorder_cases hreg layerId zorder with ⟨ret, heq⟩ | ⟨n, l, -, hl, heq⟩
  · exact post_of_ok heq (Handled.refl h)
  · have hl : w.layerAt (.created n) = some l := hl
    have hset : Handled spare touched w (w.setLayer (.created n) (l.setLayerZorder zorder)) :=
      h.setSame hl rfl rfl
    exact post_of_ok heq (hset.trans (hset.tenants.congr (fun p => by cases p <;> rfl) rfl))

/-- A function of a layer that sets one of its other fields. -/
theorem handles_callLayerFunction (layerId : Nat)
    {f : Drm → HdiLayer → DispStatus × HdiLayer × Drm}
    (hf : ∀ d l, (f d l).2.1.deeds = l.deeds ∧
      (f d l).2.1.releaseFences_ = l.releaseFences_ ∧ (f d l).2.2 = d) :
    Handles spare touched (callLayerFunction layerId f) := by
  intro w h
  apply (callLayerFunction_cases layerId f).mono
  · rintro _ w' (rfl | ⟨n, l, hl, rfl⟩)
    · exact Handled.refl h
    · obtain ⟨hdeeds, hfences, hdrm⟩ := hf w.drm l
      rw [hdrm]
      exact @Tenants.setSame _ _ (w.setDrm w.drm) h (.created n) l hl _ hdeeds hfences
  · exact fun _ _ _ => trivial

theorem handles_setLayerBuffer (layerId : Nat) (buffer : Option BufferHandle) (fence : Int)
    (a : DupAnswers) : Handles spare LayerRef.IsCreated
      (callLayerFunction layerId fun d l => l.setLayerBuffer d buffer fence a) := by
  intro w h
  apply (callLayerFunction_cases layerId _).mono
  · rintro _ w' (rfl | ⟨n, l, hl, rfl⟩)
    · exact Handled.refl h
    · have hl : w.layerAt (.created n) = some l := hl
      exact (h.setLayerBuffer hl buffer fence a).mono fun p hp => hp ▸ trivial
  · exact fun _ _ _ => trivial

theorem handles_setDisplayClientBuffer (buffer : Option BufferHandle) (fence : Int)
    (a : DupAnswers) :
    Handles spare (· = .client) (setDisplayClientBuffer buffer fence a) := by
  intro w h
  unfold setDisplayClientBuffer
  rw [post_bind]
  apply derefLayer_post
  · exact fun l hl => h.setLayerBuffer hl buffer fence a
  · exact fun _ _ => trivial

end

end QemuHal
