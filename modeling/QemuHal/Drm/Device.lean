import QemuHal.Drm.Kernel

/-!
# The DRM file and the `DrmGemBuffer` objects on it

`Drm` is what all displays share: the process's descriptor table, the handles and
framebuffers of the DRM file, and the heap of `DrmGemBuffer` objects. A
`DrmGemBuffer *` is the serial number of its allocation, so a pointer to a
destroyed object never denotes a later one.
-/

namespace QemuHal

structure DrmGemBuffer where
  mGemHandle : Nat := 0
  mFdId : Nat := 0
deriving DecidableEq, Repr

/-- The `DRM_FORMAT_*` codes the HALs give to `drmModeAddFB2`; `invalid` is `0`. -/
inductive FbFormat where
  | xrgb8888 | xbgr8888 | abgr8888 | rgb888 | rgb565 | bgrx4444 | bgra4444 | rgba4444 | rgbx4444
  | bgrx5551 | bgra5551 | bgrx8888 | argb8888 | nv12 | nv21 | yuv420 | yvu420 | nv16 | nv61
  | yuv422 | yvu422 | invalid
deriving DecidableEq, Repr

/-- A framebuffer object of the kernel. -/
structure Framebuffer where
  dmaBuf : Nat
  width : Int
  height : Int
  format : FbFormat
  pitch : Int
deriving DecidableEq, Repr

structure Drm where
  /-- `DrmDevice::GetDrmFd()`. -/
  drmFd : Int
  fds : Int → Option FdEntry
  /-- The open GEM handles, each with the dma-buf it was imported from. -/
  handles : List (Nat × Nat)
  /-- The framebuffers, by their ids. -/
  fbs : List (Nat × Framebuffer)
  gems : Nat → Option DrmGemBuffer
  nextGem : Nat
  log : List DrmCall

namespace Drm

/-! ## Descriptors -/

/-- `dup`, the kernel choosing the number `answer`. -/
def dup (d : Drm) (fd : Int) (answer : Option Int) : Int × Drm :=
  match d.fds fd, answer with
  | some e, some n =>
      if 0 ≤ n ∧ d.fds n = none then
        (n, { d with fds := Function.update d.fds n (some { e with hal := true }) })
      else (-1, d)
  | _, _ => (-1, d)

def close (d : Drm) (fd : Int) : Drm :=
  { d with fds := Function.update d.fds fd none }

/-- `open` of a file; the number is `-1` when it fails. -/
def openNode (d : Drm) (node : Node) (answer : Option Int) : Int × Drm :=
  match answer with
  | some fd =>
      if 0 ≤ fd ∧ d.fds fd = none then
        (fd, { d with fds := Function.update d.fds fd (some ⟨.node node, true⟩) })
      else (-1, d)
  | none => (-1, d)

/-- The dma-buf a descriptor number denotes. -/
def dmaBufAt (d : Drm) (fd : Int) : Option Nat :=
  match d.fds fd with
  | some ⟨.dmaBuf id, _⟩ => some id
  | _ => none

/-! ## GEM handles and framebuffers -/

/-- A number the kernel gives out: the one asked for, or the next free one when
that is `0` or in use. -/
def freshId (used : List Nat) (n : Nat) : Nat :=
  if n = 0 ∨ n ∈ used then used.foldr max 0 + 1 else n

theorem freshId_ne_zero (used : List Nat) (n : Nat) : freshId used n ≠ 0 := by
  unfold freshId
  split
  · omega
  · next h => exact fun h0 => h (Or.inl h0)

theorem freshId_not_mem (used : List Nat) (n : Nat) : freshId used n ∉ used := by
  have hmax : ∀ m ∈ used, m ≤ used.foldr max 0 := by
    intro m hm
    induction used with
    | nil => simp at hm
    | cons x xs ih =>
        rcases List.mem_cons.1 hm with rfl | hm
        · exact Nat.le_max_left _ _
        · exact Nat.le_trans (ih hm) (Nat.le_max_right _ _)
  unfold freshId
  split
  · intro hmem
    have := hmax _ hmem
    omega
  · next h => exact fun hmem => h (Or.inr hmem)

def dmaBufOf (d : Drm) (handle : Nat) : Option Nat :=
  (d.handles.find? fun e => decide (e.1 = handle)).map Prod.snd

def handleOf (d : Drm) (dmaBuf : Nat) : Option Nat :=
  (d.handles.find? fun e => decide (e.2 = dmaBuf)).map Prod.fst

/-- `drmPrimeFDToHandle`. A dma-buf that already has an open handle gets that
handle again; otherwise the kernel opens a handle, `h` unless it is taken. -/
def primeFDToHandle (d : Drm) (gem : Nat) (fd : Int) (answer : Option Nat) :
    Option Nat × Drm :=
  match d.dmaBufAt fd, answer with
  | some b, some h =>
      match d.handleOf b with
      | some h₀ => (some h₀, { d with log := .primeFDToHandle gem b h₀ :: d.log })
      | none =>
          let h := freshId (d.handles.map Prod.fst) h
          (some h, { d with
            handles := (h, b) :: d.handles
            log := .primeFDToHandle gem b h :: d.log })
  | _, _ => (none, d)

/-- `drmModeAddFB2` on the first plane's handle; the id is `fb` unless it is
taken. -/
def addFB2 (d : Drm) (gem handle : Nat) (width height : Int) (format : FbFormat) (pitch : Int)
    (answer : Option Nat) : Option Nat × Drm :=
  match d.dmaBufOf handle, answer with
  | some b, some fb =>
      let fb := freshId (d.fbs.map Prod.fst) fb
      (some fb, { d with
        fbs := (fb, ⟨b, width, height, format, pitch⟩) :: d.fbs
        log := .addFB2 gem fb :: d.log })
  | _, _ => (none, d)

/-- `drmModeRmFB`; the call succeeds when the framebuffer exists and `ok`. -/
def rmFB (d : Drm) (gem fb : Nat) (ok : Bool) : Bool × Drm :=
  let removed := ok && decide (fb ∈ d.fbs.map Prod.fst)
  (removed, { d with
    fbs := if removed then d.fbs.filter (fun e => decide (e.1 ≠ fb)) else d.fbs
    log := .rmFB gem fb removed :: d.log })

/-- `DRM_IOCTL_GEM_CLOSE`; the call succeeds when the handle is open and `ok`. -/
def gemClose (d : Drm) (gem handle : Nat) (ok : Bool) : Bool × Drm :=
  let closed := ok && decide (handle ∈ d.handles.map Prod.fst)
  (closed, { d with
    handles := if closed then d.handles.filter (fun e => decide (e.1 ≠ handle)) else d.handles
    log := .gemClose gem handle closed :: d.log })

/-- `drmModeAtomicCommit` of a request with an `OUT_FENCE_PTR`: when the kernel
accepts it, it installs a fence descriptor under the free number `answer`. The
request takes effect as a whole or not at all. -/
def atomicCommit (d : Drm) (pset : AtomicReq) (answer : Option Int) : Option Int × Drm :=
  match answer with
  | some n =>
      if 0 ≤ n ∧ d.fds n = none then
        (some n, { d with
          fds := Function.update d.fds n (some ⟨.outFence d.log.length, true⟩)
          log := .atomicCommit pset (d.fbs.map Prod.fst) (some n) :: d.log })
      else (none, { d with log := .atomicCommit pset (d.fbs.map Prod.fst) none :: d.log })
  | none => (none, { d with log := .atomicCommit pset (d.fbs.map Prod.fst) none :: d.log })

/-! ## Frame lemmas -/

/-- `dup` changes the descriptor table only. -/
theorem dup_frame (d : Drm) (fd : Int) (answer : Option Int) :
    ∃ fds, (d.dup fd answer).2 = { d with fds := fds } := by
  unfold dup
  split
  · split
    · exact ⟨_, rfl⟩
    · exact ⟨d.fds, rfl⟩
  · exact ⟨d.fds, rfl⟩

theorem openNode_cases (d : Drm) (node : Node) (answer : Option Int) :
    d.openNode node answer = (-1, d) ∨ ∃ fd, 0 ≤ fd ∧ d.fds fd = none ∧ d.openNode node answer =
      (fd, { d with fds := Function.update d.fds fd (some ⟨.node node, true⟩) }) := by
  unfold openNode
  cases answer with
  | none => exact Or.inl rfl
  | some fd =>
      dsimp only
      split
      · next h => exact Or.inr ⟨fd, h.1, h.2, rfl⟩
      · exact Or.inl rfl

/-- The number `dup` gives out denotes what the old one does; a `dup` that fails gives
out `-1`. -/
theorem dup_dmaBufAt (d : Drm) (fd : Int) (answer : Option Int) :
    (d.dup fd answer = (-1, d)) ∨
      (0 ≤ (d.dup fd answer).1 ∧ d.fds (d.dup fd answer).1 = none ∧
        (d.dup fd answer).2.dmaBufAt (d.dup fd answer).1 = d.dmaBufAt fd) := by
  unfold dup
  split
  · next e n he =>
      split
      · next hfree =>
          refine Or.inr ⟨hfree.1, hfree.2, ?_⟩
          dsimp only [dmaBufAt]
          rw [Function.update_self, he]
          cases e with
          | mk file hal => cases file <;> rfl
      · exact Or.inl rfl
  · exact Or.inl rfl

end Drm

end QemuHal
