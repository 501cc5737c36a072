import QemuHal.Gralloc.Allocator
import QemuHal.Lib.AddressSpace

/-!
# `GbmMmap`, `GbmUnmap` and `GbmFreeMem`

A buffer handle remembers its mapping in `virAddr`, which is null when there is none.
`GbmMmap` stores what `mmap` returns before it looks at it, so that a failure leaves
`MAP_FAILED` there, which the other functions take for an address.
-/

namespace QemuHal.Mapping

open Exec AddressSpace

/-! ## The process -/

/-- Who had a region made. -/
inductive Maker where
  | handle
  | others
deriving DecidableEq, Repr

/-- The fields of a buffer handle that these functions use; `reserve` are its reserved
descriptors. -/
structure MapHandle where
  fd : Int
  reserve : List Int := []
  size : Int32
  virAddr : Nat := 0
deriving DecidableEq, Repr

def nullptr : Nat := 0

/-- `MAP_FAILED`. -/
def mapFailed : Nat := 2 ^ 64 - 1

namespace MapHandle

/-- `size` as a `size_t`. -/
def length (h : MapHandle) : Nat := (h.size.toInt % 2 ^ 64).toNat

end MapHandle

/-- `files` says which file a descriptor is open on. `handle` is gone once it is freed. -/
structure MapWorld where
  handle : Option MapHandle
  space : List (Region Nat Maker) := []
  files : Int → Option Nat

inductive MapFault where
  | useAfterFree
deriving DecidableEq, Repr

abbrev MapM := EStateM MapFault MapWorld

/-- What `mmap` makes, if it does not fail. -/
def MapWorld.mmapRegion (w : MapWorld) (length : Nat) (fd : Int) (answer : Option Nat) :
    Option (Region Nat Maker) :=
  (w.files fd).bind fun file => place w.space length file .handle answer

def mmap (length : Nat) (fd : Int) (answer : Option Nat) : MapM Nat := do
  match (← get).mmapRegion length fd answer with
  | none => pure mapFailed
  | some r => do
      modify fun w => { w with space := r :: w.space }
      pure r.addr

/-- `munmap` may fail, and always does for an address inside a page or no length. -/
def MunmapFails (addr length : Nat) (done : Bool) : Prop :=
  ¬ pageSize ∣ addr ∨ length = 0 ∨ done = false

instance (addr length : Nat) (done : Bool) : Decidable (MunmapFails addr length done) :=
  inferInstanceAs (Decidable (_ ∨ _ ∨ _))

def munmap (addr length : Nat) (done : Bool) : MapM Int :=
  if MunmapFails addr length done then pure (-1)
  else do
    modify fun w =>
      { w with space := unmap w.space addr (addr + Rounding.roundUp length pageSize) }
    pure 0

def closeDescriptor (fd : Int) : MapM Unit :=
  modify fun w => { w with files := fun d => if d = fd then none else w.files d }

/-! ## `display_gralloc_gbm.cpp` -/

inductive BufferPtr where
  | null
  | handle
deriving DecidableEq, Repr

/-- The handle a pointer that is not null points to. -/
def derefHandle : MapM MapHandle := do
  match (← get).handle with
  | none => throw .useAfterFree
  | some h => pure h

def storeHandle (h : MapHandle) : MapM Unit := modify fun w => { w with handle := some h }

/-- `GbmMmap`. A failed `mmap` is logged. -/
def gbmMmap (buffer : BufferPtr) (answer : Option Nat) : MapM Nat :=
  match buffer with
  | .null => pure nullptr
  | .handle => do
      let h ← derefHandle
      if h.virAddr ≠ nullptr then pure h.virAddr
      else do
        let virAddr ← mmap h.length h.fd answer
        storeHandle { h with virAddr }
        pure virAddr

/-- `GbmUnmap`. -/
def gbmUnmap (buffer : BufferPtr) (done : Bool) : MapM HdfStatus :=
  match buffer with
  | .null => pure .failure
  | .handle => do
      let h ← derefHandle
      if h.virAddr = nullptr then pure .errInvalidParam
      else do
        let ret ← munmap h.virAddr h.length done
        if ret ≠ 0 then pure .failure
        else do
          storeHandle { h with virAddr := nullptr }
          pure .success

/-- The loop over the reserved descriptors: those that are open are closed. -/
def closeReserve : List Int → MapM (List Int)
  | [] => pure []
  | fd :: fds => do
      let fd ← if 0 ≤ fd then do closeDescriptor fd; pure (-1) else pure fd
      let fds ← closeReserve fds
      pure (fd :: fds)

/-- `CloseBufferHandle`. -/
def closeBufferHandle (buffer : BufferPtr) : MapM Unit :=
  match buffer with
  | .null => pure ()
  | .handle => do
      let h ← derefHandle
      if 0 ≤ h.fd then do
        closeDescriptor h.fd
        storeHandle { h with fd := -1 }
      let h ← derefHandle
      let reserve ← closeReserve h.reserve
      storeHandle { h with reserve }

/-- `GbmFreeMem`. A failed unmap is logged. -/
def gbmFreeMem (buffer : BufferPtr) (done : Bool) : MapM Unit :=
  match buffer with
  | .null => pure ()
  | .handle => do
      let h ← derefHandle
      if h.virAddr ≠ nullptr then do
        let _ ← gbmUnmap .handle done
      closeBufferHandle .handle
      modify fun w => { w with handle := none }

/-! ## The law -/

/-- A call on the handle, with what the kernel answers to the system call it may make. -/
inductive MapCall where
  | mmap (answer : Option Nat)
  | unmap (done : Bool)
deriving DecidableEq, Repr

def mapStep : MapCall → MapM Unit
  | .mmap answer => do
      let _ ← gbmMmap .handle answer
  | .unmap done => do
      let _ ← gbmUnmap .handle done

/-- The region is a mapping of the whole buffer of the handle, at its `virAddr`. -/
structure Shows (w : MapWorld) (h : MapHandle) (r : Region Nat Maker) : Prop where
  addr : r.addr = h.virAddr
  file : w.files h.fd = some r.file
  offset : r.offset = 0
  length : r.length = h.length

/-- The mappings made through the handle that are in place. -/
def MapWorld.ours (w : MapWorld) : List (Region Nat Maker) :=
  w.space.filter (·.owner = .handle)

/-- `virAddr` is null or the address of a mapping in place, and at most one mapping made
through the handle is in place. -/
structure MapState (w : MapWorld) : Prop where
  shown : ∀ h, w.handle = some h → h.virAddr = nullptr ∨ ∃ r ∈ w.space, Shows w h r
  ours : w.ours.length ≤ 1

/-- The call has `mmap` called, and it fails. -/
def MmapFails (w : MapWorld) (answer : Option Nat) : Prop :=
  ∃ h, w.handle = some h ∧ h.virAddr = nullptr ∧ w.mmapRegion h.length h.fd answer = none

/-- What a call has to do. -/
def Mapped (w : MapWorld) : MapCall → Prop
  | .mmap answer =>
      Post (gbmMmap .handle answer) w
        (fun virAddr w' => MapState w' ∧ (virAddr = nullptr ↔ MmapFails w answer))
        (fun _ _ => False)
  | .unmap done =>
      Post (gbmUnmap .handle done) w (fun _ w' => MapState w') (fun _ _ => False)

/-- The free has `munmap` called, and it fails. -/
def FreeFails (w : MapWorld) (done : Bool) : Prop :=
  ∃ h, w.handle = some h ∧ h.virAddr ≠ nullptr ∧ MunmapFails h.virAddr h.length done

/-- What the free has to do. -/
def Freed (w : MapWorld) (done : Bool) : Prop :=
  Post (gbmFreeMem .handle done) w
    (fun _ w' => w'.handle = none ∧ (w'.ours = [] ∨ FreeFails w done)) (fun _ _ => False)

/-- The law of a session: calls on one handle, and its free. -/
structure SessionLaw (w : MapWorld) (calls : List MapCall) (done : Bool) : Prop where
  steps : Meets mapStep Mapped w calls
  free : Post (run mapStep calls) w (fun _ w' => Freed w' done) (fun _ _ => False)

/-- An `mmap` that is called does not fail. -/
def Placed (w : MapWorld) : MapCall → Prop
  | .mmap answer => ¬ MmapFails w answer
  | .unmap _ => True

/-! ## What a call does -/

/-- The handle has no mapping. -/
structure Unmapped (w : MapWorld) (h : MapHandle) : Prop where
  handle : w.handle = some h
  virAddr : h.virAddr = nullptr
  ours : w.ours = []

/-- The handle has one mapping, and `virAddr` is its address. -/
structure MappedAt (w : MapWorld) (h : MapHandle) (r : Region Nat Maker) : Prop where
  handle : w.handle = some h
  shows : Shows w h r
  ours : w.ours = [r]
  usable : 0 < r.addr ∧ pageSize ∣ r.addr ∧ 0 < r.length

/-- What holds between the calls of a lawful session. -/
def Settled (w : MapWorld) : Prop := ∃ h, Unmapped w h ∨ ∃ r, MappedAt w h r

theorem mem_ours {w : MapWorld} {r : Region Nat Maker} :
    r ∈ w.ours ↔ r ∈ w.space ∧ r.owner = .handle := by
  simp [MapWorld.ours]

theorem MappedAt.virAddr_ne {w : MapWorld} {h : MapHandle} {r : Region Nat Maker}
    (hr : MappedAt w h r) : h.virAddr ≠ nullptr := by
  have hpos := hr.usable.1
  rw [hr.shows.addr] at hpos
  exact Nat.ne_of_gt hpos

theorem Settled.mapState {w : MapWorld} (h : Settled w) : MapState w := by
  rcases h with ⟨h, hnone | ⟨r, hr⟩⟩
  · refine ⟨fun h' hh => ?_, by simp [hnone.ours]⟩
    rw [hnone.handle] at hh
    cases hh
    exact Or.inl hnone.virAddr
  · refine ⟨fun h' hh => ?_, by simp [hr.ours]⟩
    rw [hr.handle] at hh
    cases hh
    have hmem : r ∈ w.ours := by simp [hr.ours]
    exact Or.inr ⟨r, (mem_ours.1 hmem).1, hr.shows⟩

section
variable {w : MapWorld} {h : MapHandle}

/-- The state a successful `GbmMmap` of an unmapped handle leaves. -/
def MapWorld.mapped (w : MapWorld) (h : MapHandle) (r : Region Nat Maker) : MapWorld :=
  { w with handle := some { h with virAddr := r.addr }, space := r :: w.space }

/-- The state a failed one leaves. -/
def MapWorld.poisoned (w : MapWorld) (h : MapHandle) : MapWorld :=
  { w with handle := some { h with virAddr := mapFailed } }

theorem derefHandle_ok (hh : w.handle = some h) : derefHandle w = .ok h w := by
  unfold derefHandle
  rw [get_bind]
  simp only [hh]
  rfl

theorem mmap_of_some {length : Nat} {fd : Int} {answer : Option Nat} {r : Region Nat Maker}
    (hr : w.mmapRegion length fd answer = some r) :
    mmap length fd answer w = .ok r.addr { w with space := r :: w.space } := by
  unfold mmap
  rw [get_bind]
  simp only [hr]
  rfl

theorem mmap_of_none {length : Nat} {fd : Int} {answer : Option Nat}
    (hr : w.mmapRegion length fd answer = none) : mmap length fd answer w = .ok mapFailed w := by
  unfold mmap
  rw [get_bind]
  simp only [hr]
  rfl

/-- A handle whose `virAddr` is not null is not mapped again. -/
theorem gbmMmap_of_virAddr (hh : w.handle = some h) (hv : h.virAddr ≠ nullptr)
    (answer : Option Nat) : gbmMmap .handle answer w = .ok h.virAddr w := by
  unfold gbmMmap
  dsimp only
  rw [bind_of_ok (derefHandle_ok hh), if_pos hv]
  rfl

theorem gbmMmap_of_some (hh : w.handle = some h) (hv : h.virAddr = nullptr)
    {answer : Option Nat} {r : Region Nat Maker}
    (hr : w.mmapRegion h.length h.fd answer = some r) :
    gbmMmap .handle answer w = .ok r.addr (w.mapped h r) := by
  unfold gbmMmap
  dsimp only
  rw [bind_of_ok (derefHandle_ok hh), if_neg (not_not_intro hv), bind_of_ok (mmap_of_some hr)]
  rfl

/-- A failure is stored like an address. -/
theorem gbmMmap_of_none (hh : w.handle = some h) (hv : h.virAddr = nullptr)
    {answer : Option Nat} (hr : w.mmapRegion h.length h.fd answer = none) :
    gbmMmap .handle answer w = .ok mapFailed (w.poisoned h) := by
  unfold gbmMmap
  dsimp only
  rw [bind_of_ok (derefHandle_ok hh), if_neg (not_not_intro hv), bind_of_ok (mmap_of_none hr)]
  rfl

theorem gbmUnmap_of_null (hh : w.handle = some h) (hv : h.virAddr = nullptr) (done : Bool) :
    gbmUnmap .handle done w = .ok .errInvalidParam w := by
  unfold gbmUnmap
  dsimp only
  rw [bind_of_ok (derefHandle_ok hh), if_pos hv]
  rfl

theorem gbmUnmap_of_fails (hh : w.handle = some h) (hv : h.virAddr ≠ nullptr) {done : Bool}
    (hf : MunmapFails h.virAddr h.length done) :
    gbmUnmap .handle done w = .ok .failure w := by
  unfold gbmUnmap munmap
  dsimp only
  rw [bind_of_ok (derefHandle_ok hh), if_neg hv, if_pos hf]
  rfl

/-- The state a successful `GbmUnmap` leaves. -/
def MapWorld.unmapped (w : MapWorld) (h : MapHandle) : MapWorld :=
  { w with
    handle := some { h with virAddr := nullptr }
    space := unmap w.space h.virAddr (h.virAddr + Rounding.roundUp h.length pageSize) }

theorem gbmUnmap_of_done (hh : w.handle = some h) (hv : h.virAddr ≠ nullptr) {done : Bool}
    (hf : ¬ MunmapFails h.virAddr h.length done) :
    gbmUnmap .handle done w = .ok .success (w.unmapped h) := by
  unfold gbmUnmap munmap
  dsimp only
  rw [bind_of_ok (derefHandle_ok hh), if_neg hv, if_neg hf]
  rfl

/-- What `mmap` makes is a mapping of the whole buffer. -/
theorem mappedAt_mapped (hnone : Unmapped w h) {answer : Option Nat} {r : Region Nat Maker}
    (hr : w.mmapRegion h.length h.fd answer = some r) :
    MappedAt (w.mapped h r) { h with virAddr := r.addr } r := by
  obtain ⟨file, hfile, hplace⟩ := Option.bind_eq_some_iff.1 hr
  obtain ⟨⟨hlen, hpos, hpage, -, -⟩, hr⟩ := place_eq_some hplace
  have howner : r.owner = .handle := by rw [hr]
  have hlength : r.length = h.length := by rw [hr]
  refine ⟨rfl, ⟨rfl, ?_, by rw [hr], hlength⟩, ?_, hpos, hpage, by omega⟩
  · show w.files h.fd = some r.file
    rw [hfile, hr]
  · have hours : w.space.filter (·.owner = .handle) = [] := hnone.ours
    simp [MapWorld.ours, MapWorld.mapped, howner, hours]

/-- A successful unmap of the one mapping leaves none. -/
theorem unmapped_unmapped {r : Region Nat Maker} (hr : MappedAt w h r) :
    Unmapped (w.unmapped h) { h with virAddr := nullptr } := by
  refine ⟨rfl, rfl, ?_⟩
  have hmem : r ∈ w.ours := by simp [hr.ours]
  have hsole : ∀ q ∈ w.space, q.owner = r.owner → q = r := by
    intro q hq howner
    rw [(mem_ours.1 hmem).2] at howner
    have hq' : q ∈ w.ours := mem_ours.2 ⟨hq, howner⟩
    simpa [hr.ours] using hq'
  have hspace : (w.unmapped h).space = unmap w.space r.addr r.stop := by
    rw [Region.stop, hr.shows.addr, hr.shows.length]
    rfl
  rw [List.eq_nil_iff_forall_not_mem]
  intro q hq
  obtain ⟨hq, howner⟩ := mem_ours.1 hq
  rw [hspace] at hq
  exact owner_of_mem_unmap hr.usable.2.2 hsole hq (howner.trans (mem_ours.1 hmem).2.symm)

end

/-! ## Steps and sessions -/

/-- A lawful session stays settled as long as every `mmap` it calls succeeds. -/
theorem mapStep_settled {w : MapWorld} (hw : Settled w) {call : MapCall} (hc : Placed w call) :
    Post (mapStep call) w (fun _ w' => Settled w') (fun _ _ => False) := by
  cases call with
  | mmap answer =>
      rcases hw with ⟨h, hnone | ⟨r, hr⟩⟩
      · cases hp : w.mmapRegion h.length h.fd answer with
        | none => exact absurd ⟨h, hnone.handle, hnone.virAddr, hp⟩ hc
        | some r =>
            refine post_of_ok (map_of_ok (gbmMmap_of_some hnone.handle hnone.virAddr hp) _) ?_
            exact ⟨_, Or.inr ⟨r, mappedAt_mapped hnone hp⟩⟩
      · exact post_of_ok (map_of_ok (gbmMmap_of_virAddr hr.handle hr.virAddr_ne answer) _)
          ⟨h, Or.inr ⟨r, hr⟩⟩
  | unmap done =>
      rcases hw with ⟨h, hnone | ⟨r, hr⟩⟩
      · exact post_of_ok (map_of_ok (gbmUnmap_of_null hnone.handle hnone.virAddr done) _)
          ⟨h, Or.inl hnone⟩
      · by_cases hf : MunmapFails h.virAddr h.length done
        · exact post_of_ok (map_of_ok (gbmUnmap_of_fails hr.handle hr.virAddr_ne hf) _)
            ⟨h, Or.inr ⟨r, hr⟩⟩
        · exact post_of_ok (map_of_ok (gbmUnmap_of_done hr.handle hr.virAddr_ne hf) _)
            ⟨_, Or.inl (unmapped_unmapped hr)⟩

/-- In a settled process a call does what it has to exactly when it meets the condition. -/
theorem mapped_iff {w : MapWorld} (hw : Settled w) (call : MapCall) :
    Mapped w call ↔ Placed w call := by
  constructor
  · intro hm
    cases call with
    | unmap done => trivial
    | mmap answer =>
        rintro ⟨h, hh, hv, hp⟩
        have hpost := (post_iff_of_ok (gbmMmap_of_none hh hv hp)).1 hm
        -- the failure is not told from an address
        have hnull : mapFailed = nullptr := hpost.2.2 ⟨h, hh, hv, hp⟩
        exact absurd hnull (by decide)
  · intro hc
    have hsettled := (mapStep_settled hw hc)
    cases call with
    | unmap done => exact (post_map.1 hsettled).mono (fun _ _ h => h.mapState) (fun _ _ h => h)
    | mmap answer =>
        refine ((post_map.1 hsettled).and (post_self _ _)).mono ?_ (fun _ _ h => h.1)
        rintro virAddr w' ⟨hw', hok⟩
        refine ⟨hw'.mapState, ?_⟩
        have hno : ¬ MmapFails w answer := hc
        simp only [hno, iff_false]
        rcases hw with ⟨h, hnone | ⟨r, hr⟩⟩
        · cases hp : w.mmapRegion h.length h.fd answer with
          | none => exact absurd ⟨h, hnone.handle, hnone.virAddr, hp⟩ hc
          | some r =>
              rw [gbmMmap_of_some hnone.handle hnone.virAddr hp] at hok
              cases hok
              exact Nat.ne_of_gt (mappedAt_mapped hnone hp).usable.1
        · rw [gbmMmap_of_virAddr hr.handle hr.virAddr_ne] at hok
          cases hok
          exact hr.virAddr_ne

theorem closeReserve_post (fds : List Int) (w : MapWorld) :
    Post (closeReserve fds) w (fun _ w' => w'.space = w.space) (fun _ _ => False) := by
  induction fds generalizing w with
  | nil => rfl
  | cons fd fds ih =>
      unfold closeReserve closeDescriptor
      split
      · simp only [post_bind, post_modify, post_pure]
        exact ih _
      · simp only [post_bind, post_pure]
        exact ih w

/-- Closing a handle leaves the mappings alone. -/
theorem closeBufferHandle_post {w : MapWorld} {h : MapHandle} (hh : w.handle = some h) :
    Post (closeBufferHandle .handle) w (fun _ w' => w'.space = w.space) (fun _ _ => False) := by
  unfold closeBufferHandle
  dsimp only
  rw [post_bind, post_iff_of_ok (derefHandle_ok hh)]
  have hrest : ∀ {t : MapWorld} {k : MapHandle}, t.handle = some k → t.space = w.space →
      Post (do let h ← derefHandle; let reserve ← closeReserve h.reserve;
               storeHandle { h with reserve }) t
        (fun _ w' => w'.space = w.space) (fun _ _ => False) := by
    intro t k ht hspace
    rw [post_bind, post_iff_of_ok (derefHandle_ok ht), post_bind]
    refine (closeReserve_post k.reserve t).mono ?_ (fun _ _ h => h)
    intro reserve t' ht'
    exact ht'.trans hspace
  split
  · rw [post_bind, closeDescriptor, post_modify, post_bind, storeHandle, post_modify]
    exact hrest rfl rfl
  · exact hrest hh rfl

/-- The free of a settled handle leaves no mapping, unless `munmap` fails. -/
theorem freed_of_settled {w : MapWorld} (hw : Settled w) (done : Bool) : Freed w done := by
  have hclose : ∀ {t : MapWorld} {k : MapHandle}, t.handle = some k →
      (t.ours = [] ∨ FreeFails w done) →
      Post (do closeBufferHandle .handle; modify fun w => { w with handle := none }) t
        (fun _ w' => w'.handle = none ∧ (w'.ours = [] ∨ FreeFails w done))
        (fun _ _ => False) := by
    intro t k ht hours
    rw [post_bind]
    refine (closeBufferHandle_post ht).mono ?_ (fun _ _ h => h)
    intro _ t' hspace
    refine ⟨rfl, hours.imp_left fun hnone => ?_⟩
    show t'.space.filter (·.owner = .handle) = []
    rw [hspace]
    exact hnone
  unfold Freed gbmFreeMem
  dsimp only
  rcases hw with ⟨h, hnone | ⟨r, hr⟩⟩
  · rw [post_bind, post_iff_of_ok (derefHandle_ok hnone.handle),
      if_neg (not_not_intro hnone.virAddr)]
    exact hclose hnone.handle (Or.inl hnone.ours)
  · rw [post_bind, post_iff_of_ok (derefHandle_ok hr.handle), if_pos hr.virAddr_ne, post_bind]
    by_cases hf : MunmapFails h.virAddr h.length done
    · rw [post_iff_of_ok (gbmUnmap_of_fails hr.handle hr.virAddr_ne hf)]
      exact hclose hr.handle (Or.inr ⟨h, hr.handle, hr.virAddr_ne, hf⟩)
    · rw [post_iff_of_ok (gbmUnmap_of_done hr.handle hr.virAddr_ne hf)]
      exact hclose rfl (Or.inl (unmapped_unmapped hr).ours)

/-- A process in which a handle was allocated and not mapped yet. -/
structure Allocated (w : MapWorld) : Prop where
  handle : ∃ h, w.handle = some h ∧ h.virAddr = nullptr
  ours : w.ours = []

/-- **Mapping state of a buffer handle.** A session on a freshly allocated handle keeps the
law exactly when no `mmap` it calls fails. -/
theorem session_iff {w : MapWorld} (hw : Allocated w) (calls : List MapCall) (done : Bool) :
    SessionLaw w calls done ↔ Meets mapStep Placed w calls := by
  obtain ⟨h, hh, hv⟩ := hw.handle
  have hsettled : Settled w := ⟨h, Or.inl ⟨hh, hv, hw.ours⟩⟩
  have hiff : Meets mapStep Mapped w calls ↔ Meets mapStep Placed w calls := by
    refine meets_congr (I := Settled) (fun w call hw hm => ?_) (fun w call hw => mapped_iff hw call)
      hsettled calls
    exact (mapStep_settled hw ((mapped_iff hw call).1 hm)).mono (fun _ _ h => h)
      (fun _ _ _ => trivial)
  constructor
  · intro hlaw
    exact hiff.1 hlaw.steps
  · intro hplaced
    refine ⟨hiff.2 hplaced, ?_⟩
    exact (run_post (fun w call hw hc => mapStep_settled hw hc) hsettled hplaced).mono
      (fun _ _ hw' => freed_of_settled hw' done) (fun _ _ h => h)

/-- A handle on file `7`. -/
theorem session_mapped :
    SessionLaw ⟨some { fd := 3, size := 4096 }, [], fun d => if d = 3 then some 7 else none⟩
      [.mmap (some 65536), .mmap none, .unmap true] true := by
  refine (session_iff ⟨⟨_, rfl, rfl⟩, rfl⟩ _ _).2 ⟨?_, ?_, trivial, trivial⟩
  · rintro ⟨h, hh, -, hp⟩
    cases hh
    revert hp
    decide
  · rintro ⟨h, hh, hv, -⟩
    cases hh
    revert hv
    decide

/-- After a failed `mmap` no call changes anything any more: `GbmMmap` goes on returning
`MAP_FAILED`, and every `GbmUnmap` fails. -/
theorem poisoned_run {w : MapWorld} {h : MapHandle} (hh : w.handle = some h)
    (hv : h.virAddr = mapFailed) (calls : List MapCall) :
    Post (run mapStep calls) w (fun _ w' => w' = w) (fun _ _ => False) := by
  have hne : h.virAddr ≠ nullptr := by
    rw [hv]
    decide
  have hf : ∀ done, MunmapFails h.virAddr h.length done := by
    intro done
    rw [hv]
    exact Or.inl (by decide)
  refine run_invariant (I := fun w' => w' = w) ?_ rfl calls
  rintro w' call rfl
  cases call with
  | mmap answer => exact post_of_ok (map_of_ok (gbmMmap_of_virAddr hh hne answer) _) rfl
  | unmap done => exact post_of_ok (map_of_ok (gbmUnmap_of_fails hh hne (hf done)) _) rfl

/-- One `mmap` fails, and `GbmMmap` returns an address. -/
theorem mmap_poisons :
    ¬ SessionLaw ⟨some { fd := 3, size := 4096 }, [], fun d => if d = 3 then some 7 else none⟩
      [.mmap none] true := by
  intro hlaw
  have hmapped := hlaw.steps.1
  have hsettled : Settled ⟨some { fd := 3, size := 4096 }, [],
      fun d => if d = 3 then some 7 else none⟩ := ⟨_, Or.inl ⟨rfl, rfl, rfl⟩⟩
  exact (mapped_iff hsettled _).1 hmapped ⟨_, rfl, rfl, rfl⟩

end QemuHal.Mapping
