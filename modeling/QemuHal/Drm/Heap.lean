import QemuHal.Drm.GemBuffer

/-!
# The heap of `DrmGemBuffer` objects

What the constructor, `releaseBuffer` and the destructor do to the heap, to the
kernel's framebuffers and to the record of calls. `Sound` is the invariant of the
heap: every framebuffer id an object holds exists in the kernel and is held by no
other object.
-/

namespace QemuHal

namespace Drm

structure Sound (d : Drm) : Prop where
  unallocated : ∀ gem, d.nextGem ≤ gem → d.gems gem = none
  handles : ∀ e ∈ d.handles, e.1 ≠ 0
  fbExists : ∀ gem g, d.gems gem = some g → g.mFdId ≠ 0 → g.mFdId ∈ d.fbs.map Prod.fst
  fbUnique : ∀ gem gem' g g', d.gems gem = some g → d.gems gem' = some g' →
    g.mFdId ≠ 0 → g.mFdId = g'.mFdId → gem = gem'

/-- The framebuffer id of the object `gem`; `0` when it holds none or is destroyed. -/
def fbOf (d : Drm) (gem : Nat) : Nat :=
  match d.gems gem with
  | some g => g.mFdId
  | none => 0

theorem fbOf_eq {d : Drm} {gem : Nat} {g : DrmGemBuffer} (h : d.gems gem = some g) :
    d.fbOf gem = g.mFdId := by simp [fbOf, h]

theorem Sound.fbOf_exists {d : Drm} (h : d.Sound) {gem : Nat} (hf : d.fbOf gem ≠ 0) :
    d.fbOf gem ∈ d.fbs.map Prod.fst := by
  unfold fbOf at hf ⊢
  cases hg : d.gems gem with
  | none => simp [hg] at hf
  | some g =>
      simp only [hg] at hf ⊢
      exact h.fbExists gem g hg hf

theorem Sound.fbOf_inj {d : Drm} (h : d.Sound) {gem gem' : Nat} (hf : d.fbOf gem ≠ 0)
    (he : d.fbOf gem = d.fbOf gem') : gem = gem' := by
  unfold fbOf at hf he
  cases hg : d.gems gem with
  | none => simp [hg] at hf
  | some g =>
      cases hg' : d.gems gem' with
      | none => simp [hg, hg'] at hf he; exact absurd he hf
      | some g' =>
          simp only [hg, hg'] at hf he
          exact h.fbUnique gem gem' g g' hg hg' hf he

theorem Sound.setFds {d : Drm} (h : d.Sound) (fds : Int → Option FdEntry) :
    Drm.Sound { d with fds := fds } :=
  ⟨h.unallocated, h.handles, h.fbExists, h.fbUnique⟩

end Drm

/-! ## The constructor -/

/-- The PRIME import of the constructor succeeds. -/
def Drm.imports (d : Drm) (hdl : HdiLayerBuffer) (a : ImportAnswers) : Bool :=
  decide (0 ≤ d.drmFd) && (d.dmaBufAt hdl.mFd).isSome && a.handle.isSome

/-- What `Init` can do. -/
structure DrmGemBuffer.InitSpec (d : Drm) (hdl : HdiLayerBuffer) (a : ImportAnswers)
    (g : DrmGemBuffer) (d' : Drm) : Prop where
  frame : ∃ handles fbs log, d' = { d with handles := handles, fbs := fbs, log := log }
  fbs : (g.mFdId = 0 ∧ d'.fbs = d.fbs) ∨
    (g.mFdId ≠ 0 ∧ g.mFdId ∉ d.fbs.map Prod.fst ∧ ∃ f, d'.fbs = (g.mFdId, f) :: d.fbs)
  handles : (∀ e ∈ d.handles, e.1 ≠ 0) → ∀ e ∈ d'.handles, e.1 ≠ 0
  commits : commits d'.log = commits d.log
  kept : ∀ q, FbKept q d'.log ↔ FbKept q d.log
  valid : (∀ e ∈ d.handles, e.1 ≠ 0) → g.isValid = d.imports hdl a
  fbId : g.isValid = true → (g.mFdId = 0 ↔ a.fb = none)

theorem Drm.dmaBufOf_isSome {d : Drm} {b h : Nat} (hb : d.handleOf b = some h) :
    d.dmaBufOf h ≠ none := by
  obtain ⟨e, he, rfl⟩ := Option.map_eq_some_iff.1 hb
  unfold dmaBufOf
  simp only [ne_eq, Option.map_eq_none_iff, List.find?_eq_none, not_forall]
  exact ⟨e, List.mem_of_find?_eq_some he, by simp⟩

theorem Drm.handleOf_ne_zero {d : Drm} {b h : Nat} (hpos : ∀ e ∈ d.handles, e.1 ≠ 0)
    (hb : d.handleOf b = some h) : h ≠ 0 := by
  obtain ⟨e, he, rfl⟩ := Option.map_eq_some_iff.1 hb
  exact hpos e (List.mem_of_find?_eq_some he)

/-- What `drmPrimeFDToHandle` can do. -/
theorem Drm.primeFDToHandle_cases (d : Drm) (gem : Nat) (fd : Int) (answer : Option Nat) :
    (((d.dmaBufAt fd).isSome && answer.isSome) = false ∧
      d.primeFDToHandle gem fd answer = (none, d)) ∨
    ∃ b h, d.dmaBufAt fd = some b ∧ ((d.dmaBufAt fd).isSome && answer.isSome) = true ∧
      ((d.handleOf b = some h ∧ d.primeFDToHandle gem fd answer =
          (some h, { d with log := .primeFDToHandle gem b h :: d.log })) ∨
        (d.handleOf b = none ∧ h ≠ 0 ∧ h ∉ d.handles.map Prod.fst ∧
          d.primeFDToHandle gem fd answer =
          (some h, { d with
            handles := (h, b) :: d.handles
            log := .primeFDToHandle gem b h :: d.log }))) := by
  unfold primeFDToHandle
  cases hb : d.dmaBufAt fd with
  | none => exact Or.inl ⟨rfl, rfl⟩
  | some b =>
      cases answer with
      | none => exact Or.inl ⟨rfl, rfl⟩
      | some h =>
          refine Or.inr ?_
          cases hh : d.handleOf b with
          | some h₀ => exact ⟨b, h₀, rfl, rfl, Or.inl ⟨hh, by simp [hh]⟩⟩
          | none =>
              exact ⟨b, freshId (d.handles.map Prod.fst) h, rfl, rfl,
                Or.inr ⟨hh, freshId_ne_zero _ _, freshId_not_mem _ _, by simp [hh]⟩⟩

/-- What `drmModeAddFB2` on an open handle can do. -/
theorem Drm.addFB2_cases (d : Drm) (gem handle : Nat) (w h : Int) (format : FbFormat) (p : Int)
    (answer : Option Nat) (hopen : d.dmaBufOf handle ≠ none) :
    (answer = none ∧ d.addFB2 gem handle w h format p answer = (none, d)) ∨
    ∃ fb f, answer ≠ none ∧ fb ≠ 0 ∧ fb ∉ d.fbs.map Prod.fst ∧
      d.dmaBufOf handle = some f.dmaBuf ∧
      d.addFB2 gem handle w h format p answer =
        (some fb, { d with fbs := (fb, f) :: d.fbs, log := .addFB2 gem fb :: d.log }) := by
  unfold addFB2
  cases hb : d.dmaBufOf handle with
  | none => exact absurd hb hopen
  | some b =>
      cases answer with
      | none => exact Or.inl ⟨rfl, rfl⟩
      | some fb =>
          exact Or.inr ⟨freshId (d.fbs.map Prod.fst) fb, ⟨b, w, h, format, p⟩, by simp,
            freshId_ne_zero _ _, freshId_not_mem _ _, rfl, rfl⟩

theorem DrmGemBuffer.init_spec (d : Drm) (gem : Nat) (hdl : HdiLayerBuffer)
    (a : ImportAnswers) (format : FbFormat := .xrgb8888) :
    InitSpec d hdl a (init d gem hdl a format).1 (init d gem hdl a format).2 := by
  by_cases hfd : d.drmFd < 0
  · have himp : d.imports hdl a = false := by simp [Drm.imports, hfd]
    simp only [init, if_pos hfd]
    exact ⟨⟨_, _, _, rfl⟩, Or.inl ⟨rfl, rfl⟩, id, rfl, fun _ => Iff.rfl,
      fun _ => by rw [himp]; rfl, by simp [isValid]⟩
  · have hfd' : 0 ≤ d.drmFd := by omega
    simp only [init, if_neg hfd]
    rcases d.primeFDToHandle_cases gem hdl.mFd a.handle with
      ⟨hno, heq⟩ | ⟨b, h, hb, hyes, hcase⟩
    · have himp : d.imports hdl a = false := by
        simpa [Drm.imports, hfd'] using hno
      rw [heq]
      exact ⟨⟨_, _, _, rfl⟩, Or.inl ⟨rfl, rfl⟩, id, rfl, fun _ => Iff.rfl,
        fun _ => by rw [himp]; rfl, by simp [isValid]⟩
    · have himp : d.imports hdl a = true := by
        simpa [Drm.imports, hfd'] using hyes
      -- both kinds of import leave an open handle `h` and only log the import
      obtain ⟨d₁, heq, hopen, hframe, hfbs, hlog, hhandles, hpos⟩ : ∃ d₁,
          d.primeFDToHandle gem hdl.mFd a.handle = (some h, d₁) ∧ d₁.dmaBufOf h ≠ none ∧
          (∃ handles log, d₁ = { d with handles := handles, log := log }) ∧
          d₁.fbs = d.fbs ∧ d₁.log = .primeFDToHandle gem b h :: d.log ∧
          ((∀ e ∈ d.handles, e.1 ≠ 0) → ∀ e ∈ d₁.handles, e.1 ≠ 0) ∧
          ((∀ e ∈ d.handles, e.1 ≠ 0) → h ≠ 0) := by
        rcases hcase with ⟨hh, heq⟩ | ⟨hh, hne, hfresh, heq⟩
        · exact ⟨_, heq, Drm.dmaBufOf_isSome hh, ⟨_, _, rfl⟩, rfl, rfl, id,
            fun hp => Drm.handleOf_ne_zero hp hh⟩
        · refine ⟨_, heq, by simp [Drm.dmaBufOf], ⟨_, _, rfl⟩, rfl, rfl, ?_, fun _ => hne⟩
          intro hp e he
          rcases List.mem_cons.1 he with rfl | he
          · exact hne
          · exact hp e he
      rw [heq]
      obtain ⟨handles, log, hd₁⟩ := hframe
      rcases d₁.addFB2_cases gem h hdl.mWidth hdl.mHeight format hdl.mStride a.fb hopen with
        ⟨hnone, hadd⟩ | ⟨fb, f, hsome, hne, hfresh, -, hadd⟩
      · simp only [hadd]
        refine ⟨⟨handles, d₁.fbs, log, by simp [hd₁]⟩, Or.inl ⟨rfl, hfbs⟩, hhandles, ?_, ?_, ?_, ?_⟩
        · rw [hlog]
          rfl
        · intro q
          rw [hlog]
          rfl
        · intro hp
          simp [isValid, himp, hpos hp]
        · intro _
          simp [hnone]
      · simp only [hadd]
        refine ⟨⟨handles, _, _, by rw [hd₁]⟩, Or.inr ⟨hne, hfbs ▸ hfresh, f, by simp [hfbs]⟩,
          hhandles, ?_, ?_, ?_, ?_⟩
        · rw [hlog]
          rfl
        · intro q
          rw [hlog]
          rfl
        · intro hp
          simp [isValid, himp, hpos hp]
        · intro _
          simp [hsome, hne]

namespace Drm

theorem newGem_fst (d : Drm) (hdl : HdiLayerBuffer) (a : ImportAnswers)
    {format : FbFormat} :
    (d.newGem hdl a format).1 = d.nextGem := rfl

/-- The object `newGem` makes. -/
def newGemBuffer (d : Drm) (hdl : HdiLayerBuffer) (a : ImportAnswers)
    (format : FbFormat := .xrgb8888) : DrmGemBuffer :=
  (DrmGemBuffer.init { d with nextGem := d.nextGem + 1 } d.nextGem hdl a format).1

theorem newGem_gems (d : Drm) (hdl : HdiLayerBuffer) (a : ImportAnswers)
    {format : FbFormat} :
    (d.newGem hdl a format).2.gems =
      Function.update d.gems d.nextGem (some (d.newGemBuffer hdl a format)) := by
  obtain ⟨_, _, _, h⟩ := (DrmGemBuffer.init_spec
    { d with nextGem := d.nextGem + 1 } d.nextGem hdl a format).frame
  simp only [newGem, newGemBuffer, h]

theorem newGem_nextGem (d : Drm) (hdl : HdiLayerBuffer) (a : ImportAnswers)
    {format : FbFormat} :
    (d.newGem hdl a format).2.nextGem = d.nextGem + 1 := by
  obtain ⟨_, _, _, h⟩ := (DrmGemBuffer.init_spec
    { d with nextGem := d.nextGem + 1 } d.nextGem hdl a format).frame
  simp only [newGem, h]

theorem newGem_fds (d : Drm) (hdl : HdiLayerBuffer) (a : ImportAnswers)
    {format : FbFormat} :
    (d.newGem hdl a format).2.fds = d.fds ∧ (d.newGem hdl a format).2.drmFd = d.drmFd := by
  obtain ⟨_, _, _, h⟩ := (DrmGemBuffer.init_spec
    { d with nextGem := d.nextGem + 1 } d.nextGem hdl a format).frame
  simp only [newGem, h, and_self]

theorem newGem_commits (d : Drm) (hdl : HdiLayerBuffer) (a : ImportAnswers)
    {format : FbFormat} :
    commits (d.newGem hdl a format).2.log = commits d.log :=
  (DrmGemBuffer.init_spec { d with nextGem := d.nextGem + 1 } d.nextGem hdl a format).commits

theorem newGem_kept (d : Drm) (hdl : HdiLayerBuffer) (a : ImportAnswers) (q : Nat)
    {format : FbFormat} :
    FbKept q (d.newGem hdl a format).2.log ↔ FbKept q d.log :=
  (DrmGemBuffer.init_spec { d with nextGem := d.nextGem + 1 } d.nextGem hdl a format).kept q

theorem newGemBuffer_isValid {d : Drm} (h : d.Sound) (hdl : HdiLayerBuffer)
    (a : ImportAnswers) (format : FbFormat := .xrgb8888) :
    (d.newGemBuffer hdl a format).isValid = d.imports hdl a :=
  (DrmGemBuffer.init_spec { d with nextGem := d.nextGem + 1 } d.nextGem hdl a format).valid h.handles

theorem newGemBuffer_mFdId {d : Drm} {hdl : HdiLayerBuffer} {a : ImportAnswers} {format : FbFormat}
    (h : (d.newGemBuffer hdl a format).isValid = true) :
    (d.newGemBuffer hdl a format).mFdId = 0 ↔ a.fb = none :=
  (DrmGemBuffer.init_spec { d with nextGem := d.nextGem + 1 } d.nextGem hdl a format).fbId h

/-- A new object holds no framebuffer, or one that did not exist. -/
theorem newGem_fbs (d : Drm) (hdl : HdiLayerBuffer) (a : ImportAnswers)
    (format : FbFormat := .xrgb8888) :
    ((d.newGemBuffer hdl a format).mFdId = 0 ∧ (d.newGem hdl a format).2.fbs = d.fbs) ∨
    ((d.newGemBuffer hdl a format).mFdId ≠ 0 ∧ (d.newGemBuffer hdl a format).mFdId ∉ d.fbs.map Prod.fst ∧
      ∃ f, (d.newGem hdl a format).2.fbs = ((d.newGemBuffer hdl a format).mFdId, f) :: d.fbs) :=
  (DrmGemBuffer.init_spec { d with nextGem := d.nextGem + 1 } d.nextGem hdl a format).fbs

theorem Sound.newGem {d : Drm} (h : d.Sound) (hdl : HdiLayerBuffer) (a : ImportAnswers)
    (format : FbFormat := .xrgb8888) :
    (d.newGem hdl a format).2.Sound := by
  have hsub : ∀ fb ∈ d.fbs.map Prod.fst, fb ∈ (d.newGem hdl a format).2.fbs.map Prod.fst := by
    intro fb hfb
    rcases d.newGem_fbs hdl a format with ⟨-, hfbs⟩ | ⟨-, -, f, hfbs⟩ <;> rw [hfbs]
    · exact hfb
    · exact List.mem_cons_of_mem _ hfb
  -- the new object shares its framebuffer with no other
  have hnew : ∀ gem g, d.gems gem = some g → (d.newGemBuffer hdl a format).mFdId ≠ 0 →
      (d.newGemBuffer hdl a format).mFdId ≠ g.mFdId := by
    intro gem g hg hne he
    rcases d.newGem_fbs hdl a format with ⟨hz, -⟩ | ⟨-, hfresh, -⟩
    · exact hne hz
    · exact hfresh (he ▸ h.fbExists gem g hg (he ▸ hne))
  refine ⟨?_, ?_, ?_, ?_⟩
  · intro gem hgem
    rw [newGem_nextGem] at hgem
    rw [newGem_gems, Function.update_of_ne (by omega)]
    exact h.unallocated gem (by omega)
  · exact (DrmGemBuffer.init_spec { d with nextGem := d.nextGem + 1 } d.nextGem hdl a format).handles
      h.handles
  · intro gem g hg hne
    rw [newGem_gems, Function.update_apply] at hg
    split at hg
    · obtain rfl := Option.some.inj hg
      rcases d.newGem_fbs hdl a format with ⟨hz, -⟩ | ⟨-, -, f, hfbs⟩
      · exact absurd hz hne
      · rw [hfbs]
        exact List.mem_cons_self
    · exact hsub _ (h.fbExists gem g hg hne)
  · intro gem gem' g g' hg hg' hne he
    rw [newGem_gems, Function.update_apply] at hg hg'
    split at hg <;> split at hg'
    · next h₁ h₂ => rw [h₁, h₂]
    · obtain rfl := Option.some.inj hg
      exact absurd he (hnew gem' g' hg' hne)
    · obtain rfl := Option.some.inj hg'
      exact absurd he.symm (hnew gem g hg (he ▸ hne))
    · exact h.fbUnique gem gem' g g' hg hg' hne he

end Drm

/-! ## Giving back -/

/-- What the two halves of `releaseBuffer` and of the destructor do together. -/
structure DrmGemBuffer.DropSpec (d : Drm) (g : DrmGemBuffer) (g' : DrmGemBuffer) (d' : Drm) :
    Prop where
  frame : ∃ handles fbs log, d' = { d with handles := handles, fbs := fbs, log := log }
  fbs : (g'.mFdId = g.mFdId ∧ d'.fbs = d.fbs) ∨
    (g'.mFdId = 0 ∧ d'.fbs = d.fbs.filter fun e => decide (e.1 ≠ g.mFdId))
  handles : ∀ e ∈ d'.handles, e ∈ d.handles
  commits : commits d'.log = commits d.log
  kept : ∀ q, FbKept q d.log → (g.mFdId ≠ 0 → shownFb q d.log ≠ g.mFdId) → FbKept q d'.log

namespace Drm

theorem dropFb_spec (d : Drm) (gem : Nat) (g : DrmGemBuffer) (ok : Bool) :
    DrmGemBuffer.DropSpec d g (d.dropFb gem g ok).1 (d.dropFb gem g ok).2 ∧
      (d.dropFb gem g ok).1.mGemHandle = g.mGemHandle := by
  unfold dropFb
  by_cases hne : g.mFdId ≠ 0
  · rw [if_pos hne]
    cases hrem : (d.rmFB gem g.mFdId ok).1 with
    | true =>
        have hrem' : (ok && decide (g.mFdId ∈ d.fbs.map Prod.fst)) = true := hrem
        refine ⟨⟨⟨d.handles, _, _, rfl⟩, Or.inr ⟨by simp [hrem], ?_⟩, fun e he => he,
          ?_, fun q hk hs => ?_⟩, by simp [hrem]⟩
        · simp [rmFB, hrem']
        · simp [rmFB, commits]
        · simp only [rmFB, hrem', FbKept]
          exact ⟨hs hne, hk⟩
    | false =>
        have hrem' : (ok && decide (g.mFdId ∈ d.fbs.map Prod.fst)) = false := hrem
        refine ⟨⟨⟨d.handles, _, _, rfl⟩, Or.inl ⟨by simp [hrem], ?_⟩, fun e he => he,
          ?_, fun q hk hs => ?_⟩, by simp [hrem]⟩
        · simp [rmFB, hrem']
        · simp [rmFB, commits]
        · simp only [rmFB, hrem', FbKept]
          exact hk
  · rw [if_neg hne]
    exact ⟨⟨⟨_, _, _, rfl⟩, Or.inl ⟨rfl, rfl⟩, fun e he => he, rfl,
      fun _ hk _ => hk⟩, rfl⟩

theorem dropHandle_spec (d : Drm) (gem : Nat) (g : DrmGemBuffer) (ok : Bool) :
    (d.dropHandle gem g ok).1.mFdId = g.mFdId ∧
    (∃ handles log, (d.dropHandle gem g ok).2 = { d with handles := handles, log := log }) ∧
    (∀ e ∈ (d.dropHandle gem g ok).2.handles, e ∈ d.handles) ∧
    commits (d.dropHandle gem g ok).2.log = commits d.log ∧
    (∀ q, FbKept q (d.dropHandle gem g ok).2.log ↔ FbKept q d.log) := by
  unfold dropHandle
  by_cases hne : g.mGemHandle ≠ 0
  · rw [if_pos hne]
    refine ⟨?_, ⟨_, _, rfl⟩, ?_, ?_, fun q => ?_⟩
    · show (if (d.gemClose gem g.mGemHandle ok).1 then { g with mGemHandle := 0 } else g).mFdId =
        g.mFdId
      split <;> rfl
    · intro e he
      simp only [gemClose] at he
      split at he
      · exact (List.mem_filter.1 he).1
      · exact he
    · simp [gemClose, commits]
    · simp [gemClose, FbKept]
  · rw [if_neg hne]
    exact ⟨rfl, ⟨_, _, rfl⟩, fun e he => he, rfl, fun _ => Iff.rfl⟩

/-- Both halves, in order. -/
theorem drop_spec (d : Drm) (gem : Nat) (g : DrmGemBuffer) (a : DropAnswers) :
    DrmGemBuffer.DropSpec d g
      ((d.dropFb gem g a.rmFB).2.dropHandle gem (d.dropFb gem g a.rmFB).1 a.gemClose).1
      ((d.dropFb gem g a.rmFB).2.dropHandle gem (d.dropFb gem g a.rmFB).1 a.gemClose).2 := by
  obtain ⟨⟨⟨h₁, f₁, l₁, hf⟩, hfbs, hhand, hcommits, hkept⟩, -⟩ := d.dropFb_spec gem g a.rmFB
  obtain ⟨hfd, ⟨h₂, l₂, hh⟩, hhand', hcommits', hkept'⟩ :=
    (d.dropFb gem g a.rmFB).2.dropHandle_spec gem (d.dropFb gem g a.rmFB).1 a.gemClose
  refine ⟨⟨h₂, f₁, l₂, by rw [hh, hf]⟩, ?_, fun e he => hhand e (hhand' e he), ?_,
    fun q hk hs => (hkept' q).2 (hkept q hk hs)⟩
  · have hsame : ((d.dropFb gem g a.rmFB).2.dropHandle gem (d.dropFb gem g a.rmFB).1
        a.gemClose).2.fbs = (d.dropFb gem g a.rmFB).2.fbs := by rw [hh]
    rw [hfd, hsame]
    exact hfbs
  · rw [hcommits', hcommits]

/-- What `releaseBuffer` does to a live object. -/
theorem releaseBuffer_spec (d : Drm) (gem : Nat) (g : DrmGemBuffer) (a : DropAnswers) :
    ∃ g' d', DrmGemBuffer.DropSpec d g g' d' ∧
      d.releaseBuffer gem g a = { d' with gems := Function.update d.gems gem (some g') } := by
  have hspec := d.drop_spec gem g a
  obtain ⟨_, _, _, hf⟩ := hspec.frame
  refine ⟨_, _, hspec, ?_⟩
  simp only [releaseBuffer]
  rw [hf]

/-- What the destructor does to a live object. -/
theorem destroyGem_spec {d : Drm} {gem : Nat} {g : DrmGemBuffer} (hg : d.gems gem = some g)
    (a : DropAnswers) :
    ∃ g' d', DrmGemBuffer.DropSpec d g g' d' ∧
      d.destroyGem gem a =
        { d' with
          gems := Function.update d.gems gem none
          log := .gemDestroyed gem :: d'.log } := by
  have hspec := d.drop_spec gem g a
  obtain ⟨_, _, _, hf⟩ := hspec.frame
  refine ⟨_, _, hspec, ?_⟩
  simp only [destroyGem, hg]
  rw [hf]

/-- Giving back the framebuffer of `gem` leaves a sound heap, whether the object
stays with what is left to it or goes. -/
theorem Sound.drop {d d' : Drm} (h : d.Sound) {gem : Nat} {g g' : DrmGemBuffer}
    (hg : d.gems gem = some g) (hs : DrmGemBuffer.DropSpec d g g' d')
    {x : Option DrmGemBuffer} (hx : x = none ∨ x = some g') (log : List DrmCall) :
    Drm.Sound { d' with gems := Function.update d.gems gem x, log := log } := by
  obtain ⟨_, _, _, hf⟩ := hs.frame
  have hlt : gem < d.nextGem := by
    by_contra hle
    rw [h.unallocated gem (by omega)] at hg
    exact absurd hg (by simp)
  -- a framebuffer held afterwards was held by the same object before, and still exists
  have hheld : ∀ k y, Function.update d.gems gem x k = some y → y.mFdId ≠ 0 →
      (∃ y₀, d.gems k = some y₀ ∧ y.mFdId = y₀.mFdId) ∧ y.mFdId ∈ d'.fbs.map Prod.fst := by
    intro k y hy hne
    rw [Function.update_apply] at hy
    split at hy
    · next hk =>
        subst hk
        rcases hx with rfl | rfl
        · simp at hy
        · obtain rfl := Option.some.inj hy
          rcases hs.fbs with ⟨hsame, hfbs⟩ | ⟨hz, -⟩
          · rw [hsame, hfbs]
            exact ⟨⟨g, hg, rfl⟩, h.fbExists k g hg (hsame ▸ hne)⟩
          · exact absurd hz hne
    · next hk =>
        refine ⟨⟨y, hy, rfl⟩, ?_⟩
        have hmem := h.fbExists k y hy hne
        rcases hs.fbs with ⟨-, hfbs⟩ | ⟨-, hfbs⟩
        · rwa [hfbs]
        · have hother : y.mFdId ≠ g.mFdId := fun he => hk (h.fbUnique k gem y g hy hg hne he)
          rw [hfbs]
          obtain ⟨e, he, heq⟩ := List.mem_map.1 hmem
          exact List.mem_map.2 ⟨e, List.mem_filter.2 ⟨he, by simpa [heq] using hother⟩, heq⟩
  refine ⟨?_, fun e he => h.handles e (hs.handles e he), ?_, ?_⟩
  · intro k hk
    have hk' : d.nextGem ≤ k := by
      rw [hf] at hk
      exact hk
    show Function.update d.gems gem x k = none
    rw [Function.update_of_ne (by omega)]
    exact h.unallocated k hk'
  · exact fun k y hy hne => (hheld k y hy hne).2
  · intro k k' y y' hy hy' hne he
    obtain ⟨⟨y₀, hy₀, e₀⟩, -⟩ := hheld k y hy hne
    obtain ⟨⟨y₁, hy₁, e₁⟩, -⟩ := hheld k' y' hy' (he ▸ hne)
    exact h.fbUnique k k' y₀ y₁ hy₀ hy₁ (e₀ ▸ hne) (e₀ ▸ e₁ ▸ he)

theorem Sound.releaseBuffer {d : Drm} (h : d.Sound) {gem : Nat} {g : DrmGemBuffer}
    (hg : d.gems gem = some g) (a : DropAnswers) : (d.releaseBuffer gem g a).Sound := by
  obtain ⟨g', d', hs, heq⟩ := d.releaseBuffer_spec gem g a
  rw [heq]
  exact h.drop hg hs (Or.inr rfl) d'.log

theorem Sound.destroyGem {d : Drm} (h : d.Sound) (gem : Nat) (a : DropAnswers) :
    (d.destroyGem gem a).Sound := by
  cases hg : d.gems gem with
  | none => simpa [Drm.destroyGem, hg] using h
  | some g =>
      obtain ⟨g', d', hs, heq⟩ := d.destroyGem_spec hg a
      rw [heq]
      exact h.drop hg hs (Or.inl rfl) _

theorem Sound.destroyOwned {d : Drm} (h : d.Sound) (p : Option Nat) (a : DropAnswers) :
    (d.destroyOwned p a).Sound := by
  cases p with
  | none => exact h
  | some gem => exact h.destroyGem gem a

/-! ### What the destructor leaves alone -/

theorem destroyOwned_frame (d : Drm) (p : Option Nat) (a : DropAnswers) :
    (d.destroyOwned p a).fds = d.fds ∧ (d.destroyOwned p a).drmFd = d.drmFd ∧
      (d.destroyOwned p a).nextGem = d.nextGem ∧
      commits (d.destroyOwned p a).log = commits d.log := by
  cases p with
  | none => exact ⟨rfl, rfl, rfl, rfl⟩
  | some gem =>
      cases hg : d.gems gem with
      | none => simp [destroyOwned, destroyGem, hg]
      | some g =>
          obtain ⟨g', d', hs, heq⟩ := d.destroyGem_spec hg a
          obtain ⟨_, _, _, hf⟩ := hs.frame
          simp only [destroyOwned, heq]
          refine ⟨by rw [hf], by rw [hf], by rw [hf], ?_⟩
          simp only [commits]
          exact hs.commits

theorem destroyOwned_gems (d : Drm) (p : Option Nat) (a : DropAnswers) (k : Nat) :
    (d.destroyOwned p a).gems k = if p = some k then none else d.gems k := by
  cases p with
  | none => rfl
  | some gem =>
      cases hg : d.gems gem with
      | none =>
          simp only [destroyOwned, destroyGem, hg, Option.some.injEq]
          split
          · next h => rw [← h, hg]
          · rfl
      | some g =>
          obtain ⟨g', d', -, heq⟩ := d.destroyGem_spec hg a
          simp only [destroyOwned, heq, Function.update_apply, Option.some.injEq, eq_comm]

theorem destroyOwned_kept {d : Drm} {p : Option Nat} (a : DropAnswers) {q : Nat}
    (hk : FbKept q d.log)
    (hs : ∀ gem, p = some gem → d.fbOf gem ≠ 0 → shownFb q d.log ≠ d.fbOf gem) :
    FbKept q (d.destroyOwned p a).log := by
  cases p with
  | none => exact hk
  | some gem =>
      cases hg : d.gems gem with
      | none => simpa [destroyOwned, destroyGem, hg] using hk
      | some g =>
          obtain ⟨g', d', hspec, heq⟩ := d.destroyGem_spec hg a
          simp only [destroyOwned, heq, FbKept]
          refine hspec.kept q hk fun hne => ?_
          have := hs gem rfl
          rw [fbOf_eq hg] at this
          exact this hne

end Drm

end QemuHal
