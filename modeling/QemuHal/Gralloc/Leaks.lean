import QemuHal.Gralloc.Lifetime

/-!
# Leaks of an allocation

`GbmAllocMem` creates a `gbm_bo`, its dumb buffer, a descriptor and a handle.
`leakFree_iff` says when every exit gives back what it should.
-/

namespace QemuHal

open Exec

/-- What the allocator has created and not released. -/
def GrallocWorld.resources (g : GrallocWorld) : List GbmBo × List UInt32 × List Int × Nat :=
  (g.bos, g.dumbs, g.fds, g.priBuffers)

/-- What a finished allocation leaves behind: a success the returned handle and its
descriptor, a failure nothing. -/
def LeavesOnly (g : GrallocWorld) (r : HdfStatus × Option PriBufferHandle)
    (g' : GrallocWorld) : Prop :=
  g'.lock = false ∧
    ((∃ handle, r = (.success, some handle) ∧
        g'.resources = (g.bos, g.dumbs, handle.fd :: g.fds, g.priBuffers + 1)) ∨
      (r.1 ≠ .success ∧ r.2 = none ∧ g'.resources = g.resources))

/-- The allocation is free of leaks if it returns. -/
def LeakFree (g : GrallocWorld) (info : AllocInfo) (a : AllocAnswers) : Prop :=
  Post (gbmAllocMem info a) g (LeavesOnly g) (fun _ _ => True)

/-- The request `GbmAllocMem` makes of the kernel for a format it supports. -/
def AllocInfo.createDumb (info : AllocInfo) (drmFmt : DrmFormat) : Option CreateDumb :=
  (getFormatInfo drmFmt).map (QemuHal.createDumb info.width info.height drmFmt)

/-- Where the allocation gets as far as `CREATE_DUMB`, it succeeds, and so does the
`DESTROY_DUMB` that follows on every path. -/
def CleansUp (g : GrallocWorld) (info : AllocInfo) (a : AllocAnswers) : Prop :=
  g.gbmDevice ≠ none → a.calloc = true →
    ∀ drmFmt req, convertFormatToDrm info.format = some drmFmt →
      info.createDumb drmFmt = some req →
      (a.createDumb req).isSome = true ∧ a.destroyDumb = true

/-! ## The two halves of an allocation -/

/-- `GbmAllocMem` from the export of the descriptor on. -/
def exportBo (info : AllocInfo) (a : AllocAnswers) (bo : GbmBo) :
    Gralloc (HdfStatus × Option PriBufferHandle) := do
  let fd ← gbmBoGetFd a.primeFd
  if fd < 0 then do
    gbmBoDestroy bo a.destroyDumb
    grallocUnlock
    pure (.errBadFd, none)
  else if ¬ a.malloc then do
    closeFd fd
    gbmBoDestroy bo a.destroyDumb
    grallocUnlock
    pure (.failure, none)
  else do
    modify fun g => { g with priBuffers := g.priBuffers + 1 }
    if ¬ a.memset then do
      closeFd fd
      gbmBoDestroy bo a.destroyDumb
      modify fun g => { g with priBuffers := g.priBuffers - 1 }
      grallocUnlock
      pure (.failure, none)
    else do
      gbmBoDestroy bo a.destroyDumb
      grallocUnlock
      pure (.success, some (initBufferHandle bo fd info))

/-- The world in which `CREATE_DUMB` is called. -/
def GrallocWorld.locked (g : GrallocWorld) (m : GrallocManager) : GrallocWorld :=
  { g with grallocManager := some m, lock := true }

section
variable {g : GrallocWorld} {info : AllocInfo} {a : AllocAnswers} {drmFmt : DrmFormat}

/-- An allocation that does not get to `CREATE_DUMB`. -/
theorem gbmAllocMem_early (hlock : g.lock = false)
    (h : convertFormatToDrm info.format = none ∨ g.gbmDevice = none ∨ a.calloc = false) :
    LeakFree g info a := by
  unfold LeakFree gbmAllocMem
  cases hfmt : convertFormatToDrm info.format with
  | none => exact ⟨hlock, Or.inr ⟨by simp, rfl, rfl⟩⟩
  | some drmFmt =>
      obtain ⟨fmtInfo, hinfo⟩ := Option.isSome_iff_exists.1 (getFormatInfo_isSome drmFmt)
      simp only [post_bind]
      refine (grallocLock_post hlock).mono ?_ (fun _ _ h => h.elim)
      rintro - _ rfl
      refine (getGrallocManager_post _ a.mallocManager).mono ?_ (fun _ _ h => h.elim)
      rintro m _ ⟨rfl, hdevice, -⟩
      replace hdevice : m.bind (·.gbmDevice) = g.gbmDevice := hdevice
      cases m with
      | none => exact ⟨rfl, Or.inr ⟨by simp, rfl, rfl⟩⟩
      | some m =>
          simp only [post_bind, gbmBoCreate, hinfo]
          cases hcalloc : a.calloc with
          | false => exact ⟨rfl, Or.inr ⟨by simp, rfl, rfl⟩⟩
          | true =>
              have hnone : m.gbmDevice = none := by
                have hopen : m.gbmDevice = g.gbmDevice := hdevice
                rcases h with h | h | h
                · rw [hfmt] at h
                  exact absurd h (by simp)
                · rw [hopen, h]
                · rw [hcalloc] at h
                  exact absurd h (by simp)
              rw [hnone]
              simp

/-- An allocation that gets to `CREATE_DUMB`. -/
theorem gbmAllocMem_reaches (hlock : g.lock = false) {gbm : GbmDevice}
    (hgbm : g.gbmDevice = some gbm) (hcalloc : a.calloc = true) {fmtInfo : FormatInfo}
    (hfmt : convertFormatToDrm info.format = some drmFmt)
    (hinfo : getFormatInfo drmFmt = some fmtInfo) :
    ∃ m, gbmAllocMem info a g =
      (do
        let bo : GbmBo :=
          { gbm, width := info.width, height := info.height, format := drmFmt }
        match a.createDumb (createDumb info.width info.height drmFmt fmtInfo) with
        | none => do
            modify fun g => { g with bos := bo :: g.bos }
            grallocUnlock
            pure (.devErrNoMemory, none)
        | some dumb => do
            let bo := bo.initGbmBo dumb
            modify fun g => { g with bos := bo :: g.bos, dumbs := dumb.handle :: g.dumbs }
            exportBo info a bo : Gralloc _) (g.locked m) := by
  obtain ⟨m, hm, hopen⟩ : ∃ m, g.grallocManager = some m ∧ m.gbmDevice = some gbm := by
    unfold GrallocWorld.gbmDevice at hgbm
    obtain ⟨m, hm, hopen⟩ := Option.bind_eq_some_iff.1 hgbm
    exact ⟨m, hm, hopen⟩
  refine ⟨m, ?_⟩
  have hlocked : grallocLock g = .ok ⟨⟩ (g.locked m) := by
    unfold grallocLock GrallocWorld.locked
    rw [get_bind, hlock, ← hm]
    rfl
  have hget : getGrallocManager a.mallocManager (g.locked m) = .ok (some m) (g.locked m) := rfl
  unfold gbmAllocMem
  rw [hfmt]
  dsimp only
  rw [bind_of_ok hlocked, bind_of_ok hget]
  dsimp only
  unfold gbmBoCreate
  rw [hinfo, hcalloc, hopen]
  cases hans : a.createDumb (createDumb info.width info.height drmFmt fmtInfo) with
  | none =>
      simp only [hans]
      rfl
  | some dumb =>
      simp only [hans]
      rfl

/-- Nothing is left over when `DESTROY_DUMB` succeeds. -/
theorem exportBo_leavesOnly (m : GrallocManager) (bo : GbmBo) (hdestroy : a.destroyDumb = true)
    {E : GrallocFault → GrallocWorld → Prop} :
    Post (exportBo info a bo)
      { g.locked m with bos := bo :: g.bos, dumbs := bo.handle :: g.dumbs } (LeavesOnly g) E := by
  unfold exportBo gbmBoGetFd gbmBoDestroy closeFd grallocUnlock
  rw [hdestroy]
  cases a.primeFd with
  | none =>
      simp only [post_bind, post_pure, post_modify, if_true, if_pos (show (-1 : Int) < 0 by decide)]
      exact ⟨rfl, Or.inr ⟨by simp, rfl, by simp [GrallocWorld.resources, GrallocWorld.locked]⟩⟩
  | some fd =>
      have hfd : ¬ ((fd : Int) < 0) := by omega
      simp only [post_bind, post_pure, post_modify, if_true, if_neg hfd]
      split
      · simp only [post_bind, post_pure, post_modify]
        exact ⟨rfl, Or.inr ⟨by simp, rfl, by simp [GrallocWorld.resources, GrallocWorld.locked]⟩⟩
      · simp only [post_bind, post_modify]
        split
        · simp only [post_bind, post_pure, post_modify]
          exact ⟨rfl, Or.inr ⟨by simp, rfl, by simp [GrallocWorld.resources, GrallocWorld.locked]⟩⟩
        · simp only [post_bind, post_pure, post_modify]
          exact ⟨rfl, Or.inl ⟨_, rfl, by
            simp [GrallocWorld.resources, GrallocWorld.locked, initBufferHandle]⟩⟩

/-- The structure stays when `DESTROY_DUMB` fails. -/
theorem exportBo_bos (t : GrallocWorld) (bo : GbmBo) (hdestroy : a.destroyDumb = false) :
    Post (exportBo info a bo) t (fun _ g' => g'.bos = t.bos) (fun _ _ => False) := by
  unfold exportBo gbmBoGetFd gbmBoDestroy closeFd grallocUnlock
  rw [hdestroy]
  simp only [Bool.false_eq_true, if_false]
  cases a.primeFd with
  | none => simp
  | some fd =>
      have hfd : ¬ ((fd : Int) < 0) := by omega
      simp only [post_bind, post_pure, post_modify, if_neg hfd]
      split
      · simp
      · simp only [post_bind, post_modify]
        split <;> simp

end

/-- A finished allocation that left a structure behind is not free of leaks. -/
theorem not_leavesOnly {g g' : GrallocWorld} {r : HdfStatus × Option PriBufferHandle} {bo : GbmBo}
    (h : g'.bos = bo :: g.bos) : ¬ LeavesOnly g r g' := by
  have hbos : bo :: g.bos ≠ g.bos := List.cons_ne_self bo g.bos
  rintro ⟨-, ⟨_, -, hres⟩ | ⟨-, -, hres⟩⟩
  · exact hbos (h.symm.trans (congrArg Prod.fst hres))
  · exact hbos (h.symm.trans (congrArg Prod.fst hres))

/-- **Leaks of an allocation.** An allocation releases the lock and leaves behind what it
returned and nothing else exactly when a `CREATE_DUMB` it gets to succeeds and the
`DESTROY_DUMB` after it does. -/
theorem leakFree_iff {g : GrallocWorld} (hlock : g.lock = false) (info : AllocInfo)
    (a : AllocAnswers) : LeakFree g info a ↔ CleansUp g info a := by
  by_cases hearly : convertFormatToDrm info.format = none ∨ g.gbmDevice = none ∨ a.calloc = false
  · refine ⟨fun _ hopen hcalloc drmFmt req hfmt _ => ?_, fun _ => gbmAllocMem_early hlock hearly⟩
    rcases hearly with h | h | h
    · rw [hfmt] at h
      exact absurd h (by simp)
    · exact absurd h hopen
    · rw [hcalloc] at h
      exact absurd h (by simp)
  · rw [not_or, not_or] at hearly
    obtain ⟨hfmt, hopen, hcalloc⟩ := hearly
    obtain ⟨drmFmt, hfmt⟩ := Option.ne_none_iff_exists'.1 hfmt
    obtain ⟨gbm, hgbm⟩ := Option.ne_none_iff_exists'.1 hopen
    obtain ⟨fmtInfo, hinfo⟩ := Option.isSome_iff_exists.1 (getFormatInfo_isSome drmFmt)
    rw [Bool.not_eq_false] at hcalloc
    have hreq : info.createDumb drmFmt =
        some (createDumb info.width info.height drmFmt fmtInfo) := by
      rw [AllocInfo.createDumb, hinfo]
      rfl
    have hclean : CleansUp g info a ↔
        (a.createDumb (createDumb info.width info.height drmFmt fmtInfo)).isSome = true ∧
          a.destroyDumb = true := by
      constructor
      · intro h
        exact h hopen hcalloc drmFmt _ hfmt hreq
      · rintro h - - drmFmt' req hfmt' hreq'
        obtain rfl := Option.some.inj (hfmt.symm.trans hfmt')
        obtain rfl := Option.some.inj (hreq.symm.trans hreq')
        exact h
    obtain ⟨m, heval⟩ := gbmAllocMem_reaches hlock hgbm hcalloc hfmt hinfo
    rw [hclean]
    unfold LeakFree Post
    rw [heval]
    show Post _ (g.locked m) _ _ ↔ _
    cases hans : a.createDumb (createDumb info.width info.height drmFmt fmtInfo) with
    | none =>
        -- the structure is dropped, not freed
        simp only [post_bind, post_modify, post_pure, grallocUnlock]
        refine ⟨fun h => absurd h (not_leavesOnly rfl), fun h => by simp at h⟩
    | some dumb =>
        simp only [post_bind, post_modify]
        cases hdestroy : a.destroyDumb with
        | true => exact ⟨fun _ => ⟨rfl, rfl⟩, fun _ => exportBo_leavesOnly m _ hdestroy⟩
        | false =>
            refine ⟨fun h => ?_, fun h => by simp at h⟩
            obtain ⟨r, g', hok, hbos⟩ := (exportBo_bos _ _ hdestroy).exists_ok
            exact absurd (h.of_ok hok) (not_leavesOnly hbos)

/-- An allocator after its first object was created. -/
def openGralloc : GrallocWorld where
  grallocManager := some { gbmDevice := some ⟨5⟩, drmFd := 5, referCount := 1 }
  objects := [⟨0, true⟩]
  nextObject := 1
  fds := [5]

def rgba64 : AllocInfo := { width := 64, height := 64, usage := 0, format := .rgba8888 }

theorem leakFree_open : LeakFree openGralloc rgba64
    { createDumb := fun _ => some { handle := 1, pitch := 256, size := 16384 }
      primeFd := some 6 } :=
  (leakFree_iff rfl rgba64 _).2 fun _ _ _ _ _ _ => ⟨rfl, rfl⟩

/-- A refused `CREATE_DUMB` leaves the `gbm_bo` allocated. -/
theorem not_leakFree_refused :
    ¬ LeakFree openGralloc rgba64 { createDumb := fun _ => none, primeFd := none } := by
  intro h
  have hrun : returns (gbmAllocMem rgba64 { createDumb := fun _ => none, primeFd := none })
      openGralloc (fun _ g' => decide (g'.bos.length = 1)) = true := by decide
  obtain ⟨r, g', hok, hlen⟩ := returns_iff.1 hrun
  obtain ⟨-, ⟨_, -, hres⟩ | ⟨-, -, hres⟩⟩ := h.of_ok hok
  · simp [GrallocWorld.resources] at hres
    simp [hres.1, openGralloc] at hlen
  · simp [GrallocWorld.resources] at hres
    simp [hres.1, openGralloc] at hlen

end QemuHal
