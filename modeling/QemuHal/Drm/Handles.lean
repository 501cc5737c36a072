import QemuHal.Drm.Heap
import QemuHal.Lib.Custody

/-!
# GEM handles

The record of calls read as a record of custody: an import takes a handle out for the
`DrmGemBuffer` it is made for, `GEM_CLOSE` gives it back, a destroyed object leaves.
`Owned` is the state in which every open handle has one owner. It survives an import that
opens a handle, a release, and a destructor whose `GEM_CLOSE` is accepted.
-/

namespace QemuHal

open Custody

def custody : List DrmCall → List (Entry Nat Nat)
  | [] => []
  | .primeFDToHandle gem _ handle :: log => .take gem handle :: custody log
  | .gemClose gem handle ok :: log => .give gem handle ok :: custody log
  | .gemDestroyed gem :: log => .leave gem :: custody log
  | .addFB2 .. :: log | .rmFB .. :: log | .createPropertyBlob .. :: log
  | .destroyPropertyBlob .. :: log | .atomicCommit .. :: log => custody log

namespace Drm

/-- The handle of the object `gem`; `0` when it has none or is destroyed. -/
def handleAt (d : Drm) (gem : Nat) : Nat :=
  match d.gems gem with
  | some g => g.mGemHandle
  | none => 0

theorem handleAt_eq {d : Drm} {gem : Nat} {g : DrmGemBuffer} (h : d.gems gem = some g) :
    d.handleAt gem = g.mGemHandle := by simp [handleAt, h]

/-- Every open handle has one owner, an object that remembers it, and the record of
calls says so. -/
structure Owned (d : Drm) : Prop where
  sole : Sole (custody d.log)
  held : ∀ handle gem, gem ∈ holders handle (custody d.log) ↔
    handle ≠ 0 ∧ d.handleAt gem = handle
  opened : ∀ handle, isOut handle (custody d.log) = true ↔ handle ∈ d.handles.map Prod.fst
  distinct : ∀ e ∈ d.handles, ∀ e' ∈ d.handles, e.2 = e'.2 → e = e'

namespace Owned

variable {d : Drm}

/-- Calls that are no business of the handles. -/
theorem congr (h : d.Owned) {d' : Drm} (hlog : custody d'.log = custody d.log)
    (hgems : ∀ gem, d'.handleAt gem = d.handleAt gem) (hhandles : d'.handles = d.handles) :
    d'.Owned where
  sole := by
    rw [hlog]
    exact h.sole
  held := by
    intro handle gem
    rw [hlog, hgems]
    exact h.held handle gem
  opened := by
    rw [hlog, hhandles]
    exact h.opened
  distinct := by
    rw [hhandles]
    exact h.distinct

theorem holds (h : d.Owned) {gem : Nat} (hne : d.handleAt gem ≠ 0) :
    gem ∈ holders (d.handleAt gem) (custody d.log) := (h.held _ gem).2 ⟨hne, rfl⟩

theorem handle_open (h : d.Owned) {gem : Nat} (hne : d.handleAt gem ≠ 0) :
    d.handleAt gem ∈ d.handles.map Prod.fst :=
  (h.opened _).1 (h.sole.out _ gem (h.holds hne))

theorem setFds (h : d.Owned) (fds : Int → Option FdEntry) : Drm.Owned { d with fds := fds } :=
  h.congr rfl (fun _ => rfl) rfl

end Owned

end Drm

/-! ## The import -/

/-- What `drmModeAddFB2` leaves alone. -/
theorem Drm.addFB2_handles (d : Drm) (gem handle : Nat) (w h : Int) (format : FbFormat) (p : Int)
    (answer : Option Nat) :
    (d.addFB2 gem handle w h format p answer).2.handles = d.handles ∧
      custody (d.addFB2 gem handle w h format p answer).2.log = custody d.log := by
  unfold addFB2
  split <;> exact ⟨rfl, rfl⟩

/-- What `Init` does to the handles: nothing when the import fails; otherwise it takes the
handle that is open on the dma-buf, or opens one. -/
theorem DrmGemBuffer.init_handles (d : Drm) (gem : Nat) (hdl : HdiLayerBuffer)
    (a : ImportAnswers) (format : FbFormat := .xrgb8888) :
    (d.imports hdl a = false ∧ (init d gem hdl a format).1.mGemHandle = 0 ∧
      (init d gem hdl a format).2.handles = d.handles ∧
      custody (init d gem hdl a format).2.log = custody d.log) ∨
    ∃ b, d.imports hdl a = true ∧ d.dmaBufAt hdl.mFd = some b ∧
      custody (init d gem hdl a format).2.log =
        .take gem (init d gem hdl a format).1.mGemHandle :: custody d.log ∧
      ((d.handleOf b = some (init d gem hdl a format).1.mGemHandle ∧
          (init d gem hdl a format).2.handles = d.handles) ∨
        (d.handleOf b = none ∧ (init d gem hdl a format).1.mGemHandle ≠ 0 ∧
          (init d gem hdl a format).1.mGemHandle ∉ d.handles.map Prod.fst ∧
          (init d gem hdl a format).2.handles =
            ((init d gem hdl a format).1.mGemHandle, b) :: d.handles)) := by
  by_cases hfd : d.drmFd < 0
  · left
    have himp : d.imports hdl a = false := by simp [Drm.imports, hfd]
    have hinit : init d gem hdl a format = ({}, d) := by rw [init, if_pos hfd]
    rw [hinit]
    exact ⟨himp, rfl, rfl, rfl⟩
  · have hfd' : 0 ≤ d.drmFd := by omega
    simp only [init, if_neg hfd]
    rcases d.primeFDToHandle_cases gem hdl.mFd a.handle with
      ⟨hno, heq⟩ | ⟨b, handle, hb, hyes, hcase⟩
    · left
      have himp : d.imports hdl a = false := by simpa [Drm.imports, hfd'] using hno
      rw [heq]
      exact ⟨himp, rfl, rfl, rfl⟩
    · right
      have himp : d.imports hdl a = true := by simpa [Drm.imports, hfd'] using hyes
      obtain ⟨d₁, heq, hlog, hhandles⟩ : ∃ d₁,
          d.primeFDToHandle gem hdl.mFd a.handle = (some handle, d₁) ∧
          custody d₁.log = .take gem handle :: custody d.log ∧
          ((d.handleOf b = some handle ∧ d₁.handles = d.handles) ∨
            (d.handleOf b = none ∧ handle ≠ 0 ∧ handle ∉ d.handles.map Prod.fst ∧
              d₁.handles = (handle, b) :: d.handles)) := by
        rcases hcase with ⟨hh, heq⟩ | ⟨hh, hne, hfresh, heq⟩
        · exact ⟨_, heq, rfl, Or.inl ⟨hh, rfl⟩⟩
        · exact ⟨_, heq, rfl, Or.inr ⟨hh, hne, hfresh, rfl⟩⟩
      obtain ⟨hkept, hrecord⟩ :=
        d₁.addFB2_handles gem handle hdl.mWidth hdl.mHeight format hdl.mStride a.fb
      rw [← hrecord] at hlog
      rw [← hkept] at hhandles
      rw [heq]
      dsimp only
      rcases hadd : d₁.addFB2 gem handle hdl.mWidth hdl.mHeight format hdl.mStride a.fb with ⟨fb, d₂⟩
      rw [hadd] at hlog hhandles
      cases fb with
      | none => exact ⟨b, himp, hb, hlog, hhandles⟩
      | some fb => exact ⟨b, himp, hb, hlog, hhandles⟩

namespace Drm

theorem newGem_handleAt (d : Drm) (hdl : HdiLayerBuffer) (a : ImportAnswers) (gem : Nat)
    {format : FbFormat} :
    (d.newGem hdl a format).2.handleAt gem =
      if gem = d.nextGem then (d.newGemBuffer hdl a format).mGemHandle else d.handleAt gem := by
  unfold handleAt
  rw [newGem_gems]
  by_cases hgem : gem = d.nextGem
  · rw [hgem, Function.update_self, if_pos rfl]
  · rw [Function.update_of_ne hgem, if_neg hgem]

theorem handleOf_eq_some {d : Drm} {b handle : Nat} (h : d.handleOf b = some handle) :
    ∃ e ∈ d.handles, e.2 = b ∧ e.1 = handle := by
  obtain ⟨e, he, hfst⟩ := Option.map_eq_some_iff.1 h
  have hsnd := List.find?_some he
  exact ⟨e, List.mem_of_find?_eq_some he, of_decide_eq_true hsnd, hfst⟩

theorem handleOf_ne_none {d : Drm} {b : Nat} (h : d.handleOf b ≠ none) :
    ∃ e ∈ d.handles, e.2 = b := by
  obtain ⟨handle, hhandle⟩ := Option.ne_none_iff_exists'.1 h
  obtain ⟨e, he, heq, -⟩ := handleOf_eq_some hhandle
  exact ⟨e, he, heq⟩

theorem handleOf_of_mem {d : Drm} {e : Nat × Nat} (he : e ∈ d.handles) :
    d.handleOf e.2 ≠ none := by
  unfold handleOf
  simp only [ne_eq, Option.map_eq_none_iff, List.find?_eq_none, not_forall]
  exact ⟨e, he, by simp⟩

/-- A handle open after an import was open before, or is the imported dma-buf's. -/
theorem mem_newGem_handles (d : Drm) {hdl : HdiLayerBuffer} {a : ImportAnswers} {format : FbFormat}
    {e : Nat × Nat}    (he : e ∈ (d.newGem hdl a format).2.handles) :
    e ∈ d.handles ∨ (d.imports hdl a = true ∧ d.dmaBufAt hdl.mFd = some e.2) := by
  rcases DrmGemBuffer.init_handles { d with nextGem := d.nextGem + 1 } d.nextGem hdl a format with
    ⟨-, -, hhandles, -⟩ | ⟨b, himp, hb, -, ⟨-, hhandles⟩ | ⟨-, -, -, hhandles⟩⟩
  · left
    have hhandles : (d.newGem hdl a format).2.handles = d.handles := hhandles
    rwa [hhandles] at he
  · left
    have hhandles : (d.newGem hdl a format).2.handles = d.handles := hhandles
    rwa [hhandles] at he
  · have hhandles : (d.newGem hdl a format).2.handles = _ := hhandles
    rw [hhandles] at he
    rcases List.mem_cons.1 he with rfl | he
    · exact Or.inr ⟨himp, hb⟩
    · exact Or.inl he

/-- An import of a dma-buf that no handle is open on. -/
theorem Owned.newGem {d : Drm} (h : d.Owned) (hd : d.Sound) {hdl : HdiLayerBuffer}
    {a : ImportAnswers} {format : FbFormat}
    (hnew : d.imports hdl a = true → ∀ b ∈ d.dmaBufAt hdl.mFd, d.handleOf b = none) :
    (d.newGem hdl a format).2.Owned := by
  have hnext : d.handleAt d.nextGem = 0 := by
    simp [handleAt, hd.unallocated d.nextGem (Nat.le_refl _)]
  rcases DrmGemBuffer.init_handles { d with nextGem := d.nextGem + 1 } d.nextGem hdl a format with
    ⟨-, hzero, hhandles, hlog⟩ | ⟨b, himp, hb, hlog, hcase⟩
  · refine h.congr hlog (fun gem => ?_) hhandles
    rw [newGem_handleAt]
    split
    · next he => rw [he, hnext]; exact hzero
    · rfl
  · have hnone : d.handleOf b = none := hnew himp b hb
    rcases hcase with ⟨hsome, -⟩ | ⟨-, hne, hfresh, hhandles⟩
    · exact absurd (hsome.symm.trans hnone) (by simp)
    · set handle := (d.newGemBuffer hdl a format).mGemHandle with hhandle
      have hlog : custody (d.newGem hdl a format).2.log = .take d.nextGem handle :: custody d.log := hlog
      have hhandles : (d.newGem hdl a format).2.handles = (handle, b) :: d.handles := hhandles
      have hin : isOut handle (custody d.log) = false := by
        rw [← Bool.not_eq_true, h.opened]
        exact hfresh
      have hbuf : ∀ e ∈ d.handles, e.2 ≠ b := by
        rintro e he rfl
        exact handleOf_of_mem he hnone
      constructor
      · rw [hlog]
        exact h.sole.take d.nextGem hin
      · intro x gem
        rw [hlog, newGem_handleAt]
        by_cases hx : handle = x
        · subst hx
          simp only [holders, if_true, List.mem_cons]
          by_cases hgem : gem = d.nextGem
          · rw [if_pos hgem]
            exact ⟨fun _ => ⟨hne, hhandle.symm⟩, fun _ => Or.inl hgem⟩
          · rw [if_neg hgem, h.held]
            exact ⟨fun hg => hg.resolve_left hgem, Or.inr⟩
        · simp only [holders, if_neg hx]
          rw [h.held]
          by_cases hgem : gem = d.nextGem
          · subst hgem
            rw [if_pos rfl, hnext]
            constructor
            · rintro ⟨hx0, he⟩
              exact absurd he.symm hx0
            · rintro ⟨-, he⟩
              exact absurd he hx
          · rw [if_neg hgem]
      · intro x
        rw [hlog, hhandles]
        simp only [isOut, Bool.or_eq_true, decide_eq_true_eq, List.map_cons, List.mem_cons]
        rw [h.opened, eq_comm]
      · rw [hhandles]
        intro e he e' he' heq
        rcases List.mem_cons.1 he with rfl | he
        · rcases List.mem_cons.1 he' with rfl | he'
          · rfl
          · exact absurd heq.symm (hbuf e' he')
        · rcases List.mem_cons.1 he' with rfl | he'
          · exact absurd heq (hbuf e he)
          · exact h.distinct e he e' he' heq

end Drm

/-! ## Giving back -/

namespace Drm

/-- A handle is given back by its owner, who forgets it when the kernel takes it. -/
theorem Owned.give {d d' : Drm} (h : d.Owned) {gem : Nat} (hne : d.handleAt gem ≠ 0)
    (done : Bool) (hlog : custody d'.log = .give gem (d.handleAt gem) done :: custody d.log)
    (hgems : ∀ k, d'.handleAt k = if k = gem ∧ done = true then 0 else d.handleAt k)
    (hhandles : d'.handles =
      if done then d.handles.filter (fun e => decide (e.1 ≠ d.handleAt gem)) else d.handles) :
    d'.Owned := by
  have hmine := h.holds hne
  cases done with
  | false =>
      simp only [Bool.false_eq_true, and_false, if_false] at hgems hhandles
      constructor
      · rw [hlog]
        exact h.sole.give hmine false
      · intro handle k
        rw [hlog, hgems]
        exact h.held handle k
      · intro handle
        rw [hlog, hhandles]
        exact h.opened handle
      · rw [hhandles]
        exact h.distinct
  | true =>
      simp only [and_true, if_true] at hgems hhandles
      constructor
      · rw [hlog]
        exact h.sole.give hmine true
      · intro handle k
        rw [hlog, hgems]
        by_cases hx : d.handleAt gem = handle
        · subst hx
          simp only [holders, if_true, List.mem_filter, decide_eq_true_eq, h.held]
          by_cases hk : k = gem
          · simp [hk, Ne.symm hne]
          · rw [if_neg hk]
            exact and_iff_left hk
        · simp only [holders, if_neg hx, h.held]
          by_cases hk : k = gem
          · subst hk
            rw [if_pos rfl]
            constructor
            · rintro ⟨-, he⟩
              exact absurd he hx
            · rintro ⟨hne', he⟩
              exact absurd he.symm hne'
          · rw [if_neg hk]
      · intro handle
        rw [hlog, hhandles]
        simp only [isOut, Bool.and_eq_true, Bool.not_eq_true', decide_eq_false_iff_not, h.opened,
          List.mem_map, List.mem_filter, decide_eq_true_eq]
        constructor
        · rintro ⟨hx, e, he, rfl⟩
          exact ⟨e, ⟨he, Ne.symm hx⟩, rfl⟩
        · rintro ⟨e, ⟨he, hx⟩, rfl⟩
          exact ⟨Ne.symm hx, e, he, rfl⟩
      · rw [hhandles]
        intro e he e' he' heq
        exact h.distinct e (List.mem_filter.1 he).1 e' (List.mem_filter.1 he').1 heq

/-- An object without a handle is destroyed. -/
theorem Owned.leave {d d' : Drm} (h : d.Owned) {gem : Nat} (hzero : d.handleAt gem = 0)
    (hlog : custody d'.log = .leave gem :: custody d.log)
    (hgems : ∀ k, d'.handleAt k = d.handleAt k) (hhandles : d'.handles = d.handles) :
    d'.Owned := by
  have hfree : ∀ handle, gem ∉ holders handle (custody d.log) := by
    intro handle hmem
    obtain ⟨hne, he⟩ := (h.held handle gem).1 hmem
    exact hne (he.symm.trans hzero)
  constructor
  · rw [hlog]
    exact h.sole.leave hfree
  · intro handle k
    rw [hlog, hgems]
    simp only [holders, List.mem_filter, decide_eq_true_eq]
    constructor
    · rintro ⟨hk, -⟩
      exact (h.held handle k).1 hk
    · intro hk
      refine ⟨(h.held handle k).2 hk, ?_⟩
      rintro rfl
      exact hk.1 (hk.2.symm.trans hzero)
  · intro handle
    rw [hlog, hhandles]
    exact h.opened handle
  · rw [hhandles]
    exact h.distinct

/-- The kernel takes the handle of the object back. -/
def closes (d : Drm) (gem : Nat) (a : DropAnswers) : Bool :=
  a.gemClose && decide (d.handleAt gem ∈ d.handles.map Prod.fst)

/-- What the first half of giving back leaves alone. -/
theorem dropFb_handles (d : Drm) (gem : Nat) (g : DrmGemBuffer) (ok : Bool) :
    (d.dropFb gem g ok).1.mGemHandle = g.mGemHandle ∧
      (d.dropFb gem g ok).2.handles = d.handles ∧
      custody (d.dropFb gem g ok).2.log = custody d.log := by
  refine ⟨(d.dropFb_spec gem g ok).2, ?_, ?_⟩
  · unfold dropFb
    split <;> rfl
  · unfold dropFb
    split <;> rfl

theorem releaseBuffer_handleAt {d : Drm} {gem : Nat} {g : DrmGemBuffer}
    (hg : d.gems gem = some g) (a : DropAnswers) (k : Nat) :
    (d.releaseBuffer gem g a).handleAt k =
      if k = gem ∧ d.closes gem a = true then 0 else d.handleAt k := by
  obtain ⟨hhandle, hhandles, -⟩ := d.dropFb_handles gem g a.rmFB
  have hat : d.handleAt gem = g.mGemHandle := handleAt_eq hg
  obtain ⟨handles, fbs, log, hframe⟩ := (d.drop_spec gem g a).frame
  have hgems : (d.releaseBuffer gem g a).gems = Function.update d.gems gem (some
      ((d.dropFb gem g a.rmFB).2.dropHandle gem (d.dropFb gem g a.rmFB).1 a.gemClose).1) := by
    simp only [releaseBuffer]
    rw [hframe]
  unfold handleAt
  rw [hgems]
  by_cases hk : k = gem
  · subst hk
    rw [Function.update_self]
    dsimp only
    unfold dropHandle
    by_cases hne : (d.dropFb k g a.rmFB).1.mGemHandle ≠ 0
    · rw [if_pos hne, hhandle]
      unfold closes gemClose
      rw [hhandles, hat]
      dsimp only
      split
      · next hc => simp [hc]
      · next hc => rw [if_neg (by simpa using hc), hg, hhandle]
    · rw [if_neg hne, hhandle, hg]
      rw [hhandle, not_not] at hne
      rw [hne]
      split
      · rfl
      · exact hne.symm
  · rw [Function.update_of_ne hk, if_neg (fun hc => hk hc.1)]

/-- What `releaseBuffer` does to the record and to the open handles. -/
theorem releaseBuffer_handles {d : Drm} {gem : Nat} {g : DrmGemBuffer}
    (hg : d.gems gem = some g) (a : DropAnswers) :
    (d.handleAt gem = 0 ∧ (d.releaseBuffer gem g a).handles = d.handles ∧
      custody (d.releaseBuffer gem g a).log = custody d.log) ∨
    (d.handleAt gem ≠ 0 ∧
      (d.releaseBuffer gem g a).handles =
        (if d.closes gem a then d.handles.filter (fun e => decide (e.1 ≠ d.handleAt gem))
          else d.handles) ∧
      custody (d.releaseBuffer gem g a).log =
        .give gem (d.handleAt gem) (d.closes gem a) :: custody d.log) := by
  obtain ⟨hhandle, hhandles, hlog⟩ := d.dropFb_handles gem g a.rmFB
  have hat : d.handleAt gem = g.mGemHandle := handleAt_eq hg
  have hrel : (d.releaseBuffer gem g a).handles = ((d.dropFb gem g a.rmFB).2.dropHandle gem
        (d.dropFb gem g a.rmFB).1 a.gemClose).2.handles ∧
      (d.releaseBuffer gem g a).log = ((d.dropFb gem g a.rmFB).2.dropHandle gem
        (d.dropFb gem g a.rmFB).1 a.gemClose).2.log := ⟨rfl, rfl⟩
  rw [hrel.1, hrel.2]
  unfold dropHandle
  by_cases hne : (d.dropFb gem g a.rmFB).1.mGemHandle ≠ 0
  · right
    rw [if_pos hne]
    rw [hhandle] at hne
    unfold closes gemClose
    rw [hat]
    dsimp only
    rw [hhandle, hhandles]
    refine ⟨hne, rfl, ?_⟩
    rw [custody, hlog]
  · left
    rw [if_neg hne]
    rw [hhandle, not_not] at hne
    exact ⟨hat.trans hne, hhandles, hlog⟩

theorem Owned.releaseBuffer {d : Drm} (h : d.Owned) {gem : Nat} {g : DrmGemBuffer}
    (hg : d.gems gem = some g) (a : DropAnswers) : (d.releaseBuffer gem g a).Owned := by
  rcases releaseBuffer_handles hg a with ⟨hzero, hhandles, hlog⟩ | ⟨hne, hhandles, hlog⟩
  · refine h.congr hlog (fun k => ?_) hhandles
    rw [releaseBuffer_handleAt hg]
    split
    · next hk => rw [hk.1, hzero]
    · rfl
  · exact h.give hne _ hlog (releaseBuffer_handleAt hg a) hhandles

/-- The destructor gives back what `releaseBuffer` does, and the object is gone. -/
theorem destroyGem_eq {d : Drm} {gem : Nat} {g : DrmGemBuffer} (hg : d.gems gem = some g)
    (a : DropAnswers) :
    d.destroyGem gem a = { d.releaseBuffer gem g a with
      gems := Function.update (d.releaseBuffer gem g a).gems gem none
      log := .gemDestroyed gem :: (d.releaseBuffer gem g a).log } := by
  simp [destroyGem, Drm.releaseBuffer, hg]

theorem destroyOwned_handleAt (d : Drm) (p : Option Nat) (a : DropAnswers) (k : Nat) :
    (d.destroyOwned p a).handleAt k = if p = some k then 0 else d.handleAt k := by
  unfold handleAt
  rw [destroyOwned_gems]
  by_cases hk : p = some k
  · rw [if_pos hk, if_pos hk]
  · rw [if_neg hk, if_neg hk]

/-- The release of an object whose `GEM_CLOSE` succeeds. -/
theorem Owned.closes {d : Drm} (h : d.Owned) {gem : Nat} {a : DropAnswers}
    (hne : d.handleAt gem ≠ 0) (hclose : a.gemClose = true) : d.closes gem a = true := by
  have hopen := h.handle_open hne
  simp [Drm.closes, hclose, hopen]

/-- The destructor of an object whose handle, if it has one, the kernel takes back. -/
theorem Owned.destroyOwned {d : Drm} (h : d.Owned) (p : Option Nat) (a : DropAnswers)
    (hclose : ∀ gem ∈ p, d.handleAt gem ≠ 0 → a.gemClose = true) :
    (d.destroyOwned p a).Owned := by
  cases p with
  | none => exact h
  | some gem =>
      cases hg : d.gems gem with
      | none => simpa [Drm.destroyOwned, destroyGem, hg] using h
      | some g =>
          have hempty : (d.releaseBuffer gem g a).handleAt gem = 0 := by
            rw [releaseBuffer_handleAt hg]
            by_cases hne : d.handleAt gem = 0
            · rw [hne, ite_self]
            · rw [if_pos ⟨rfl, h.closes hne (hclose gem rfl hne)⟩]
          have heq : d.destroyOwned (some gem) a = _ := destroyGem_eq hg a
          rw [heq]
          refine (h.releaseBuffer hg a).leave hempty rfl (fun k => ?_) rfl
          by_cases hk : k = gem
          · subst hk
            rw [hempty]
            simp [handleAt]
          · simp [handleAt, Function.update_of_ne hk]

/-- What is still open once it is gone. -/
theorem Owned.mem_destroyOwned {d : Drm} (h : d.Owned) {p : Option Nat} {a : DropAnswers}
    (hclose : ∀ gem ∈ p, d.handleAt gem ≠ 0 → a.gemClose = true) {e : Nat × Nat} :
    e ∈ (d.destroyOwned p a).handles ↔
      e ∈ d.handles ∧ ∀ gem ∈ p, d.handleAt gem ≠ 0 → e.1 ≠ d.handleAt gem := by
  cases p with
  | none => simp [Drm.destroyOwned]
  | some gem =>
      simp only [Option.mem_def, Option.some.injEq, forall_eq']
      cases hg : d.gems gem with
      | none => simp [Drm.destroyOwned, destroyGem, hg, handleAt]
      | some g =>
          have heq : (d.destroyOwned (some gem) a).handles = (d.releaseBuffer gem g a).handles := by
            show (d.destroyGem gem a).handles = _
            rw [destroyGem_eq hg]
          rw [heq]
          rcases releaseBuffer_handles hg a with ⟨hzero, hhandles, -⟩ | ⟨hne, hhandles, -⟩
          · rw [hhandles]
            exact ⟨fun he => ⟨he, fun hne => absurd hzero hne⟩, fun he => he.1⟩
          · rw [hhandles, h.closes hne (hclose gem rfl hne)]
            simp [hne]

end Drm

end QemuHal
