import QemuHal.Drm.Handles

/-!
# Framebuffers and what they hold

What a framebuffer holds, when the constructor of a `DrmGemBuffer` makes one, and which one
its destructor removes, each as an equation. `Unseen` is a change that neither the objects nor
the screen notice.
-/

namespace QemuHal

namespace Drm

/-- What the framebuffer with the id `fb` holds. -/
def content (d : Drm) (fb : Int) : Option Framebuffer :=
  (d.fbs.find? fun e => decide ((e.1 : Int) = fb)).map Prod.snd

/-- What the framebuffer of a new object would hold, if the kernel makes one. -/
def makes (d : Drm) (hdl : HdiLayerBuffer) (a : ImportAnswers)
    (format : FbFormat := .xrgb8888) : Option Framebuffer :=
  if d.drmFd < 0 then none
  else
    match d.dmaBufAt hdl.mFd, a.handle, a.fb with
    | some b, some _, some _ => some ⟨b, hdl.mWidth, hdl.mHeight, format, hdl.mStride⟩
    | _, _, _ => none

/-- The framebuffer the destructor removes; `0` when it removes none. -/
def drops (d : Drm) (p : Option Nat) (a : DropAnswers) : Nat :=
  match p with
  | none => 0
  | some gem => if a.rmFB = true ∧ d.fbOf gem ∈ d.fbs.map Prod.fst then d.fbOf gem else 0

/-- No framebuffer has been removed while a plane showed it. -/
def Kept (d : Drm) : Prop := ∀ q, FbKept q d.log

/-- The open handles have different numbers. -/
def Keyed (d : Drm) : Prop := (d.handles.map Prod.fst).Nodup

theorem content_cons {d d' : Drm} {fb : Nat} {f : Framebuffer} (h : d'.fbs = (fb, f) :: d.fbs)
    (g : Int) : d'.content g = if g = fb then some f else d.content g := by
  unfold content
  rw [h, List.find?_cons]
  by_cases hg : g = fb
  · rw [if_pos hg, decide_eq_true hg.symm]
    rfl
  · rw [if_neg hg, decide_eq_false (Ne.symm hg)]

theorem content_eq_none {d : Drm} {fb : Nat} (h : fb ∉ d.fbs.map Prod.fst) : d.content fb = none := by
  unfold content
  rw [Option.map_eq_none_iff, List.find?_eq_none]
  intro e he hfb
  have heq : (e.1 : Int) = fb := of_decide_eq_true hfb
  exact h (List.mem_map.2 ⟨e, he, by omega⟩)

/-! ## The constructor -/

theorem dmaBufOf_handleOf {d : Drm} (hkeys : d.Keyed) {b handle : Nat}
    (h : d.handleOf b = some handle) : d.dmaBufOf handle = some b := by
  obtain ⟨e, he, hbuf, hhandle⟩ := handleOf_eq_some h
  obtain ⟨x, hx⟩ := Option.ne_none_iff_exists'.1 (dmaBufOf_isSome h)
  obtain ⟨e', he', hsnd⟩ := Option.map_eq_some_iff.1 hx
  have hfst : e'.1 = handle := of_decide_eq_true (List.find?_some he' :)
  have hee : e' = e := List.inj_on_of_nodup_map hkeys (List.mem_of_find?_eq_some he') he
    (hfst.trans hhandle.symm)
  rw [hx, ← hsnd, hee, hbuf]

/-- `drmModeAddFB2` on an open handle. -/
theorem addFB2_open {d : Drm} {handle b : Nat} (hopen : d.dmaBufOf handle = some b) (gem fb : Nat)
    (w h : Int) (format : FbFormat) (p : Int) :
    ∃ fb', d.addFB2 gem handle w h format p (some fb) =
        (some fb', { d with
          fbs := (fb', ⟨b, w, h, format, p⟩) :: d.fbs
          log := .addFB2 gem fb' :: d.log }) ∧
      fb' ≠ 0 := by
  unfold addFB2
  rw [hopen]
  exact ⟨_, rfl, freshId_ne_zero _ _⟩

/-- The import of the constructor: the handle is open on the dma-buf. -/
theorem primeFDToHandle_open {d : Drm} (hpos : ∀ e ∈ d.handles, e.1 ≠ 0) (hkeys : d.Keyed)
    {fd : Int} {b : Nat} (hb : d.dmaBufAt fd = some b) (gem handle : Nat) :
    ∃ h d', d.primeFDToHandle gem fd (some handle) = (some h, d') ∧ h ≠ 0 ∧
      d'.dmaBufOf h = some b ∧ d'.fbs = d.fbs := by
  rcases d.primeFDToHandle_cases gem fd (some handle) with ⟨hno, -⟩ | ⟨b', h, hb', -, hcase⟩
  · rw [hb] at hno
    exact absurd hno (by simp)
  · obtain rfl : b = b' := Option.some.inj (hb.symm.trans hb')
    rcases hcase with ⟨hof, heq⟩ | ⟨-, hne, -, heq⟩
    · exact ⟨h, _, heq, handleOf_ne_zero hpos hof, dmaBufOf_handleOf hkeys hof, rfl⟩
    · exact ⟨h, _, heq, hne, by simp [dmaBufOf], rfl⟩

/-- The constructor makes a framebuffer on the dma-buf the descriptor denotes. -/
theorem newGem_some {d : Drm} (hd : d.Sound) (hkeys : d.Keyed) {hdl : HdiLayerBuffer}
    {a : ImportAnswers} {format : FbFormat} {c : Framebuffer} (h : d.makes hdl a format = some c) :
    (d.newGemBuffer hdl a format).mGemHandle ≠ 0 ∧ (d.newGemBuffer hdl a format).mFdId ≠ 0 ∧
      (d.newGem hdl a format).2.fbs = ((d.newGemBuffer hdl a format).mFdId, c) :: d.fbs := by
  unfold makes at h
  split at h
  · exact absurd h (by simp)
  · next hfd =>
      split at h
      · next b handle fb hb hhandle hfb =>
          cases h
          obtain ⟨h₁, d₁, hprime, hne, hopen, hfbs⟩ := primeFDToHandle_open (d := { d with
            nextGem := d.nextGem + 1 }) hd.handles hkeys hb d.nextGem handle
          obtain ⟨fb', hadd, hne'⟩ :=
            addFB2_open hopen d.nextGem fb hdl.mWidth hdl.mHeight format hdl.mStride
          have hinit : DrmGemBuffer.init { d with nextGem := d.nextGem + 1 } d.nextGem hdl a format =
              ({ mGemHandle := h₁, mFdId := fb' }, { d₁ with
                fbs := (fb', ⟨b, hdl.mWidth, hdl.mHeight, format, hdl.mStride⟩) :: d₁.fbs
                log := .addFB2 d.nextGem fb' :: d₁.log }) := by
            unfold DrmGemBuffer.init
            rw [if_neg hfd, hhandle, hfb, hprime]
            dsimp only
            rw [hadd]
          have hnew : (d.newGem hdl a format).2.fbs =
            (DrmGemBuffer.init { d with nextGem := d.nextGem + 1 } d.nextGem hdl a format).2.fbs := rfl
          unfold newGemBuffer
          rw [hnew, hinit]
          exact ⟨hne, hne', by rw [hfbs]⟩
      · exact absurd h (by simp)

/-- The constructor makes no framebuffer. -/
theorem newGem_none {d : Drm} {hdl : HdiLayerBuffer} {a : ImportAnswers} {format : FbFormat}
    (h : d.makes hdl a format = none) :
    (d.newGemBuffer hdl a format).mFdId = 0 ∧ (d.newGem hdl a format).2.fbs = d.fbs := by
  rcases d.newGem_fbs hdl a format with hz | ⟨hne, -, f, -⟩
  · exact hz
  · exfalso
    apply hne
    unfold newGemBuffer DrmGemBuffer.init
    unfold makes at h
    by_cases hfd : d.drmFd < 0
    · rw [if_pos hfd]
    · rw [if_neg hfd] at h ⊢
      rcases primeFDToHandle_cases { d with nextGem := d.nextGem + 1 } d.nextGem hdl.mFd a.handle with
        ⟨-, heq⟩ | ⟨b, handle, hb, hyes, -⟩
      · rw [heq]
      · have hb' : d.dmaBufAt hdl.mFd = some b := hb
        rw [hb, Option.isSome_some, Bool.true_and] at hyes
        obtain ⟨handle', hhandle⟩ := Option.isSome_iff_exists.1 hyes
        rw [hb', hhandle] at h
        have hfb : a.fb = none := by
          cases hfb : a.fb with
          | none => rfl
          | some fb =>
              rw [hfb] at h
              exact absurd h (by simp)
        split
        · rfl
        · next d₁ _ =>
            have hadd : ∀ handle, d₁.addFB2 d.nextGem handle hdl.mWidth hdl.mHeight format
                hdl.mStride none = (none, d₁) := by
              intro handle
              unfold addFB2
              split
              · next hno => exact absurd hno (by simp)
              · rfl
            rw [hfb, hadd]

/-- A new framebuffer is none that exists, so no object holds it. -/
theorem Sound.newGem_fresh {d : Drm} (hd : d.Sound) {hdl : HdiLayerBuffer} {a : ImportAnswers}
    {format : FbFormat}
    (hne : (d.newGemBuffer hdl a format).mFdId ≠ 0) :
    d.content (d.newGemBuffer hdl a format).mFdId = none ∧
      ∀ gem, d.fbOf gem ≠ (d.newGemBuffer hdl a format).mFdId := by
  rcases d.newGem_fbs hdl a format with ⟨hz, -⟩ | ⟨-, hfresh, -⟩
  · exact absurd hz hne
  · refine ⟨content_eq_none hfresh, fun gem he => hfresh ?_⟩
    rw [← he] at hne ⊢
    exact hd.fbOf_exists hne

theorem newGem_fbOf_other {d : Drm} {hdl : HdiLayerBuffer} {a : ImportAnswers} {format : FbFormat}
    {gem : Nat}
    (hgem : gem ≠ d.nextGem) : (d.newGem hdl a format).2.fbOf gem = d.fbOf gem := by
  unfold fbOf
  rw [newGem_gems, Function.update_of_ne hgem]

theorem Keyed.newGem {d : Drm} (h : d.Keyed) (hdl : HdiLayerBuffer) (a : ImportAnswers)
    (format : FbFormat := .xrgb8888) :
    (d.newGem hdl a format).2.Keyed := by
  have heq : (d.newGem hdl a format).2.handles =
      (DrmGemBuffer.init { d with nextGem := d.nextGem + 1 } d.nextGem hdl a format).2.handles := rfl
  unfold Keyed
  rw [heq]
  rcases DrmGemBuffer.init_handles { d with nextGem := d.nextGem + 1 } d.nextGem hdl a format with
    ⟨-, -, hhandles, -⟩ | ⟨b, -, -, -, ⟨-, hhandles⟩ | ⟨-, -, hfresh, hhandles⟩⟩
  · rw [hhandles]
    exact h
  · rw [hhandles]
    exact h
  · rw [hhandles, List.map_cons]
    exact List.nodup_cons.2 ⟨hfresh, h⟩

/-! ## The destructor -/

/-- The two halves of the destructor. -/
structure Dropped (d d' : Drm) (gone : Nat) : Prop where
  content : ∀ g : Int, g ≠ 0 → d'.content g = if g = gone then none else d.content g
  keyed : d.Keyed → d'.Keyed
  kept : ∀ q, FbKept q d'.log ↔ FbKept q d.log ∧ (gone ≠ 0 → shownFb q d.log ≠ gone)

theorem dropFb_dropped (d : Drm) (gem : Nat) (g : DrmGemBuffer) (ok : Bool) :
    Dropped d (d.dropFb gem g ok).2
      (if ok = true ∧ g.mFdId ∈ d.fbs.map Prod.fst then g.mFdId else 0) := by
  unfold dropFb
  by_cases hne : g.mFdId ≠ 0
  · rw [if_pos hne]
    by_cases hrem : ok = true ∧ g.mFdId ∈ d.fbs.map Prod.fst
    · have hrem' : (ok && decide (g.mFdId ∈ d.fbs.map Prod.fst)) = true := by
        rw [hrem.1, decide_eq_true hrem.2]
        rfl
      rw [if_pos hrem]
      refine ⟨fun x hx => ?_, fun hk => hk, fun q => ?_⟩
      · simp only [rmFB, hrem', if_true, content]
        rw [List.find?_filter]
        by_cases hxg : x = g.mFdId
        · rw [if_pos hxg, Option.map_eq_none_iff, List.find?_eq_none]
          intro e _ he
          simp only [decide_eq_true_eq] at he
          omega
        · rw [if_neg hxg]
          congr 2
          funext e
          by_cases he : (e.1 : Int) = x
          · have hne' : e.1 ≠ g.mFdId := by omega
            simp [he, hne']
          · simp [he]
      · simp only [rmFB, hrem', FbKept]
        exact ⟨fun hk => ⟨hk.2, fun _ => hk.1⟩, fun hk => ⟨hk.2 hne, hk.1⟩⟩
    · have hrem' : (ok && decide (g.mFdId ∈ d.fbs.map Prod.fst)) = false := by
        rw [← Bool.not_eq_true, Bool.and_eq_true, decide_eq_true_eq]
        exact hrem
      rw [if_neg hrem]
      refine ⟨fun x hx => ?_, fun hk => hk, fun q => ?_⟩
      · rw [if_neg (by simpa using hx)]
        simp only [rmFB, hrem', content]
        rfl
      · simp only [rmFB, hrem', FbKept]
        simp
  · rw [if_neg hne]
    have hzero : (if ok = true ∧ g.mFdId ∈ d.fbs.map Prod.fst then g.mFdId else 0) = 0 := by
      split
      · exact not_not.1 hne
      · rfl
    rw [hzero]
    exact ⟨fun x hx => by rw [if_neg (by simpa using hx)], fun hk => hk, fun q => by simp⟩

theorem dropHandle_keyed {d : Drm} (h : d.Keyed) (gem : Nat) (g : DrmGemBuffer) (ok : Bool) :
    (d.dropHandle gem g ok).2.Keyed := by
  unfold dropHandle gemClose Keyed
  split
  · dsimp only
    split
    · exact (List.filter_sublist.map Prod.fst).nodup h
    · exact h
  · exact h

theorem destroyOwned_dropped (d : Drm) (p : Option Nat) (a : DropAnswers) :
    Dropped d (d.destroyOwned p a) (d.drops p a) := by
  have hnone : Dropped d d 0 :=
    ⟨fun x hx => by rw [if_neg (by simpa using hx)], fun hk => hk, fun q => by simp⟩
  cases p with
  | none => exact hnone
  | some gem =>
      unfold destroyOwned drops
      dsimp only
      unfold destroyGem fbOf
      cases hg : d.gems gem with
      | none =>
          dsimp only
          rw [ite_self]
          exact hnone
      | some g =>
          dsimp only
          have hfirst := d.dropFb_dropped gem g a.rmFB
          obtain ⟨-, ⟨handles, log, hframe⟩, -, -, hkept⟩ :=
            (d.dropFb gem g a.rmFB).2.dropHandle_spec gem (d.dropFb gem g a.rmFB).1 a.gemClose
          refine ⟨fun x hx => ?_, fun hk => ?_, fun q => ?_⟩
          · rw [← hfirst.content x hx]
            unfold content
            dsimp only
            rw [hframe]
          · exact dropHandle_keyed (hfirst.keyed hk) gem _ a.gemClose
          · exact (hkept q).trans (hfirst.kept q)

theorem destroyOwned_fbOf (d : Drm) (p : Option Nat) (a : DropAnswers) (k : Nat) :
    (d.destroyOwned p a).fbOf k = if p = some k then 0 else d.fbOf k := by
  unfold fbOf
  rw [destroyOwned_gems]
  by_cases hp : p = some k
  · rw [if_pos hp, if_pos hp]
  · rw [if_neg hp, if_neg hp]

/-- An object whose framebuffer exists loses it just when the kernel agrees. -/
theorem Sound.drops_eq {d : Drm} (h : d.Sound) (gem : Nat) (a : DropAnswers) :
    d.drops (some gem) a = if a.rmFB then d.fbOf gem else 0 := by
  unfold drops
  dsimp only
  by_cases hne : d.fbOf gem = 0
  · rw [hne, ite_self, ite_self]
  · simp [h.fbOf_exists hne]

/-! ## What nobody sees -/

/-- The objects and the screen are as they were. -/
structure Unseen (d d' : Drm) : Prop where
  gems : d'.gems = d.gems
  nextGem : d'.nextGem = d.nextGem
  handles : d'.handles = d.handles
  fbs : d'.fbs = d.fbs
  shown : ∀ q, shownFb q d'.log = shownFb q d.log
  kept : ∀ q, FbKept q d'.log ↔ FbKept q d.log

namespace Unseen

variable {d d' d'' : Drm}

theorem refl (d : Drm) : Unseen d d := ⟨rfl, rfl, rfl, rfl, fun _ => rfl, fun _ => Iff.rfl⟩

theorem trans (h : Unseen d d') (h' : Unseen d' d'') : Unseen d d'' where
  gems := h'.gems.trans h.gems
  nextGem := h'.nextGem.trans h.nextGem
  handles := h'.handles.trans h.handles
  fbs := h'.fbs.trans h.fbs
  shown q := (h'.shown q).trans (h.shown q)
  kept q := (h'.kept q).trans (h.kept q)

/-- Only the descriptor table changes. -/
theorem setFds (h : ∃ fds, d' = { d with fds := fds }) : Unseen d d' := by
  obtain ⟨fds, rfl⟩ := h
  exact ⟨rfl, rfl, rfl, rfl, fun _ => rfl, fun _ => Iff.rfl⟩

theorem sound (h : Unseen d d') (hd : d.Sound) : d'.Sound where
  unallocated := by
    rw [h.gems, h.nextGem]
    exact hd.unallocated
  handles := by
    rw [h.handles]
    exact hd.handles
  fbExists := by
    rw [h.gems, h.fbs]
    exact hd.fbExists
  fbUnique := by
    rw [h.gems]
    exact hd.fbUnique

theorem keyed (h : Unseen d d') (hd : d.Keyed) : d'.Keyed := by
  unfold Keyed
  rw [h.handles]
  exact hd

theorem fbOf (h : Unseen d d') (gem : Nat) : d'.fbOf gem = d.fbOf gem := by
  unfold Drm.fbOf
  rw [h.gems]

theorem content (h : Unseen d d') (fb : Int) : d'.content fb = d.content fb := by
  unfold Drm.content
  rw [h.fbs]

end Unseen

end Drm

end QemuHal
