import QemuHal.Gralloc.Allocator

/-!
# `DmaBufferSync`

The retry loop around `DMA_BUF_IOCTL_SYNC`. It compares the result of `ioctl`, which
is `0` or `-1`, with negated error numbers, so it never sees a result to stop at.
-/

namespace QemuHal

/-- How one `ioctl` ends; a failure sets `errno`. -/
inductive IoctlOutcome where
  | ok
  | fail (errno : Int)
deriving DecidableEq, Repr

def eintr : Int := 4

def eagain : Int := 11

namespace IoctlOutcome

/-- What `ioctl` returns. -/
def ret : IoctlOutcome → Int
  | .ok => 0
  | .fail _ => -1

/-- The call was interrupted or has to be made again. -/
def Transient (o : IoctlOutcome) : Prop := o = .fail eagain ∨ o = .fail eintr

instance (o : IoctlOutcome) : Decidable o.Transient := inferInstanceAs (Decidable (_ ∨ _))

end IoctlOutcome

/-- The flags of `dma_buf_sync`. -/
inductive SyncFlag where
  | write
  | read
  | start
  | stop
deriving DecidableEq, Repr

/-- The fields of a buffer handle the synchronisation reads; of `usage` the two CPU bits. -/
structure SyncHandle where
  fd : Int
  cpuWrite : Bool
  cpuRead : Bool
deriving DecidableEq, Repr

/-- An `ioctl` that was issued. -/
structure SyncCall where
  fd : Int
  flags : List SyncFlag
deriving DecidableEq, Repr

def syncFlags (handle : SyncHandle) (start : Bool) : List SyncFlag :=
  (if handle.cpuWrite then [.write] else []) ++ (if handle.cpuRead then [.read] else []) ++
    [if start then .start else .stop]

/-- The `do … while` loop from the outcome number `i` on: the number of calls issued and
the last result. `retry--` reads the counter before it is counted down. -/
def syncLoop (outcome : Nat → IoctlOutcome) : Nat → Nat → Nat × Int
  | 0, i => (1, (outcome i).ret)
  | retry + 1, i =>
      let ret := (outcome i).ret
      if ret ≠ -eagain ∧ ret ≠ -eintr then
        let (calls, ret) := syncLoop outcome retry (i + 1)
        (calls + 1, ret)
      else (1, ret)

/-- `DmaBufferSync`: the status and the calls issued, for the outcomes the kernel answers
with and the result of `memset_s`. -/
def dmaBufferSync (handle : SyncHandle) (start memset : Bool) (outcome : Nat → IoctlOutcome) :
    HdfStatus × List SyncCall :=
  if ¬ memset then (.errInvalidParam, [])
  else
    let (calls, ret) := syncLoop outcome 6 0
    (if ret < 0 then .errDeviceBusy else .success,
      List.replicate calls ⟨handle.fd, syncFlags handle start⟩)

def gbmInvalidateCache (handle : SyncHandle) (memset : Bool) (outcome : Nat → IoctlOutcome) :
    HdfStatus × List SyncCall :=
  dmaBufferSync handle true memset outcome

def gbmFlushCache (handle : SyncHandle) (memset : Bool) (outcome : Nat → IoctlOutcome) :
    HdfStatus × List SyncCall :=
  dmaBufferSync handle false memset outcome

/-! ## The loop -/

/-- No result of `ioctl` is a negated error number the loop looks for. -/
theorem ret_ne (o : IoctlOutcome) : o.ret ≠ -eagain ∧ o.ret ≠ -eintr := by
  cases o with
  | ok => decide
  | fail errno => constructor <;> simp [IoctlOutcome.ret, eagain, eintr]

/-- The loop uses up its tries, whatever the outcomes. -/
theorem syncLoop_eq (outcome : Nat → IoctlOutcome) (retry i : Nat) :
    syncLoop outcome retry i = (retry + 1, (outcome (i + retry)).ret) := by
  induction retry generalizing i with
  | zero => rfl
  | succ retry ih =>
      rw [syncLoop, if_pos (ret_ne _), ih]
      have hidx : i + 1 + retry = i + (retry + 1) := by omega
      rw [hidx]

theorem dmaBufferSync_eq (handle : SyncHandle) (start : Bool) (outcome : Nat → IoctlOutcome) :
    dmaBufferSync handle start true outcome =
      (if (outcome 6).ret < 0 then .errDeviceBusy else .success,
        List.replicate 7 ⟨handle.fd, syncFlags handle start⟩) := by
  unfold dmaBufferSync
  rw [syncLoop_eq]
  rfl

/-! ## The protocol -/

/-- The number of tries. -/
def syncTries : Nat := 7

/-- What a synchronisation with these outcomes should do. -/
structure SyncProtocol (outcome : Nat → IoctlOutcome) (r : HdfStatus × List SyncCall) :
    Prop where
  bounded : r.2.length ≤ syncTries
  again : ∀ i, i + 1 < r.2.length → (outcome i).Transient
  retried : ∀ i, i < r.2.length → (outcome i).Transient → i + 1 < syncTries →
    i + 1 < r.2.length
  done : ∀ i, i + 1 < r.2.length → outcome i ≠ .ok
  status : r.1 = .success ↔ ∃ i, r.2.length = i + 1 ∧ outcome i = .ok

/-- **Retries of a synchronisation.** A synchronisation follows its protocol exactly when
`memset_s` fails or the first six outcomes all ask for another try. `GbmInvalidateCache`
and `GbmFlushCache` are the two values of `start`. -/
theorem syncProtocol_iff (handle : SyncHandle) (start memset : Bool)
    (outcome : Nat → IoctlOutcome) :
    SyncProtocol outcome (dmaBufferSync handle start memset outcome) ↔
      (memset = true → ∀ i < 6, (outcome i).Transient) := by
  cases memset with
  | false =>
      -- nothing is issued
      refine ⟨fun _ h => absurd h (by simp), fun _ => ?_⟩
      constructor <;> simp [dmaBufferSync]
  | true =>
      rw [dmaBufferSync_eq]
      constructor
      · intro h _ i hi
        apply h.again i
        rw [List.length_replicate]
        omega
      · intro h
        refine ⟨by simp [syncTries], ?_, ?_, ?_, ?_⟩
        · intro i hi
          rw [List.length_replicate] at hi
          exact h rfl i (by omega)
        · intro i _ _ htries
          rwa [List.length_replicate]
        · intro i hi hok
          rw [List.length_replicate] at hi
          have htransient := h rfl i (by omega)
          rw [hok] at htransient
          rcases htransient with htr | htr <;> cases htr
        · rw [List.length_replicate]
          cases hlast : outcome 6 with
          | ok => simp [IoctlOutcome.ret, hlast]
          | fail errno => simp [IoctlOutcome.ret, hlast]

/-- A synchronisation that succeeds at once is issued seven times. -/
theorem syncProtocol_not_success :
    ¬ SyncProtocol (fun _ => .ok) (gbmFlushCache ⟨5, true, true⟩ true fun _ => .ok) := by
  intro h
  exact h.done 0 (by decide) rfl

end QemuHal
