import QemuHal.Lib.Exec

/-!
# The vsync worker

`DrmVsyncWorker` runs a thread that waits until vsync is enabled, and leaves when
`mRunning` is false. `Init` creates the thread before it sets `mRunning`, so the thread
may look too early. `workerKept_iff` says which interleavings keep it alive.
-/

namespace QemuHal

open Exec

/-! ## The object -/

/-- A `VsyncCallBack`: the function and its argument. -/
structure VsyncCallBack where
  mVBlankCb : Nat
  mData : Nat
deriving DecidableEq, Repr

structure DrmVsyncWorker where
  mDrmFd : Int := 0
  mEnable : Bool := false
  mCallBack : Option VsyncCallBack := none
  mRunning : Bool := false
deriving DecidableEq, Repr

namespace DrmVsyncWorker

def enableVsync (v : DrmVsyncWorker) (enable : Bool) : DrmVsyncWorker :=
  { v with mEnable := enable }

def reqesterVBlankCb (v : DrmVsyncWorker) (cb : Option VsyncCallBack) : DrmVsyncWorker :=
  match cb with
  | none => v
  | some cb => { v with mCallBack := some cb }

end DrmVsyncWorker

/-! ## The two threads -/

/-- What the creating thread does next. -/
inductive InitPc where
  | checkFd
  | createThread
  | setRunning
  | returned
deriving DecidableEq, Repr

/-- What the worker does next. It holds `mMutex` while it evaluates the predicate of
the wait and while it reads the value it returns. -/
inductive WorkPc where
  | absent
  | lock
  | testEnable
  | testRunning
  | asleep
  | readRunning
  | waitVBlank
  | callBack
  | left
deriving DecidableEq, Repr

/-- The worker, with the threads that use it. `delivered` are the callbacks made. -/
structure VsyncThreads where
  fd : Int
  worker : DrmVsyncWorker := {}
  init : InitPc := .checkFd
  work : WorkPc := .absent
  destroyed : Bool := false
  delivered : List VsyncCallBack := []
deriving DecidableEq, Repr

namespace VsyncThreads

/-- `mMutex` is held. -/
def locked (s : VsyncThreads) : Bool :=
  match s.work with
  | .testEnable | .testRunning | .readRunning => true
  | _ => false

/-- Other threads get hold of the object once `Init` has returned. -/
def usable (s : VsyncThreads) : Bool := decide (s.init = .returned) && !s.destroyed

end VsyncThreads

inductive VsyncAct where
  /-- The creating thread takes a step of `Init`. -/
  | init
  /-- The worker takes a step of `WorkThread`. -/
  | work
  | enableVsync (enable : Bool)
  | reqesterVBlankCb (cb : Option VsyncCallBack)
  /-- The destructor clears `mRunning`. -/
  | destroy
deriving DecidableEq, Repr

/-- The step cannot be taken in this state. -/
inductive NotNow where
  | notNow
deriving DecidableEq, Repr

/-- A step of `Init`. -/
def initStep : EStateM NotNow VsyncThreads Unit := do
  let s ← get
  match s.init with
  | .checkFd =>
      if s.fd < 0 then set { s with init := .returned }
      else set { s with worker := { s.worker with mDrmFd := s.fd }, init := .createThread }
  | .createThread => set { s with init := .setRunning, work := .lock }
  | .setRunning => set { s with worker := { s.worker with mRunning := true }, init := .returned }
  | .returned => throw .notNow

/-- A step of `WorkThread`. A sleeping thread may wake up at any time; it takes the
mutex again and evaluates the predicate. -/
def workStep : EStateM NotNow VsyncThreads Unit := do
  let s ← get
  match s.work with
  | .absent | .left => throw .notNow
  | .lock => set { s with work := .testEnable }
  | .testEnable =>
      set { s with work := if s.worker.mEnable then .readRunning else .testRunning }
  | .testRunning =>
      set { s with work := if s.worker.mRunning then .asleep else .readRunning }
  | .asleep => set { s with work := .testEnable }
  | .readRunning => set { s with work := if s.worker.mRunning then .waitVBlank else .left }
  | .waitVBlank => set { s with work := .callBack }
  | .callBack =>
      set { s with
        delivered := s.worker.mCallBack.toList ++ s.delivered
        work := .lock }

/-- One atomic step. -/
def vsyncStep : VsyncAct → EStateM NotNow VsyncThreads Unit
  | .init => initStep
  | .work => workStep
  | .enableVsync enable => do
      let s ← get
      if s.usable && !s.locked then set { s with worker := s.worker.enableVsync enable }
      else throw .notNow
  | .reqesterVBlankCb cb => do
      let s ← get
      if s.usable then set { s with worker := s.worker.reqesterVBlankCb cb }
      else throw .notNow
  | .destroy => do
      let s ← get
      if s.usable && !s.locked then
        set { s with worker := { s.worker with mRunning := false }, destroyed := true }
      else throw .notNow

/-! ## The law -/

/-- The worker leaves only after the destructor has cleared `mRunning`, and an enabled
vsync finds it alive before. -/
structure VsyncThreads.Kept (s : VsyncThreads) : Prop where
  left : s.work = .left → s.destroyed = true
  served : s.destroyed = false → s.worker.mEnable = true → s.work ≠ .absent ∧ s.work ≠ .left

/-- A step leads to a state in which the worker is kept. -/
def KeepsWorker (s : VsyncThreads) (act : VsyncAct) : Prop :=
  Post (vsyncStep act) s (fun _ s' => s'.Kept) (fun _ _ => True)

/-- The worker reads the value it returns only once `Init` has stored it, and vsync is
enabled only if `Init` got a descriptor. -/
def VsyncAct.Timely (s : VsyncThreads) : VsyncAct → Prop
  | .work => s.work = .readRunning → s.init = .returned
  | .enableVsync enable => s.usable = true → enable = true → 0 ≤ s.fd
  | _ => True

instance (s : VsyncThreads) (act : VsyncAct) : Decidable (act.Timely s) := by
  cases act <;> unfold VsyncAct.Timely <;> infer_instance

/-! ## The invariant -/

/-- How the threads stand as long as the worker has been kept. -/
structure VsyncThreads.Ordered (s : VsyncThreads) : Prop where
  kept : s.Kept
  absent : s.work = .absent ↔ s.init = .checkFd ∨ s.init = .createThread ∨ s.fd < 0
  running : s.worker.mRunning = true ↔ s.init = .returned ∧ 0 ≤ s.fd ∧ s.destroyed = false
  early : s.init ≠ .returned → s.destroyed = false ∧ s.worker.mEnable = false
  valid : s.init = .createThread ∨ s.init = .setRunning → 0 ≤ s.fd

theorem ordered_start (fd : Int) : VsyncThreads.Ordered { fd } where
  kept := ⟨by simp, by simp⟩
  absent := by simp
  running := by simp
  early := by simp
  valid := by simp

namespace VsyncThreads

variable {s : VsyncThreads}

theorem usable_iff : s.usable = true ↔ s.init = .returned ∧ s.destroyed = false := by
  simp [usable]

/-- Before `Init` returns, nothing has been set. -/
theorem Ordered.before (h : s.Ordered) (hpc : s.init ≠ .returned) :
    s.worker.mRunning = false ∧ s.worker.mEnable = false ∧ s.destroyed = false := by
  obtain ⟨hdestroyed, henable⟩ := h.early hpc
  refine ⟨?_, henable, hdestroyed⟩
  rw [← Bool.not_eq_true, h.running]
  exact fun hrun => hpc hrun.1

theorem ordered_init (h : s.Ordered) :
    Post initStep s (fun _ s' => s'.Ordered) (fun _ _ => True) := by
  unfold initStep
  rw [post_bind, post_get]
  cases hpc : s.init with
  | checkFd =>
      obtain ⟨hrunning, henable, hdestroyed⟩ := h.before (by simp [hpc])
      have habsent : s.work = .absent := h.absent.2 (Or.inl hpc)
      dsimp only
      split
      · next hfd =>
          have hneg : ¬ 0 ≤ s.fd := by omega
          constructor
          · constructor <;> simp [habsent, henable]
          · simp [habsent, hfd]
          · simp [hrunning, hneg]
          · simp
          · simp
      · next hfd =>
          constructor
          · constructor <;> simp [habsent, henable]
          · simp [habsent]
          · simp [hrunning]
          · simp [henable, hdestroyed]
          · simpa using hfd
  | createThread =>
      obtain ⟨hrunning, henable, hdestroyed⟩ := h.before (by simp [hpc])
      have hfd := h.valid (Or.inl hpc)
      constructor
      · constructor <;> simp [henable]
      · simpa using hfd
      · simp [hrunning]
      · simp [henable, hdestroyed]
      · exact fun _ => hfd
  | setRunning =>
      obtain ⟨hrunning, henable, hdestroyed⟩ := h.before (by simp [hpc])
      constructor
      · constructor
        · exact h.kept.left
        · simp [henable]
      · have habsent := h.absent
        simp only [hpc] at habsent
        simpa using habsent
      · simpa [hdestroyed] using h.valid (Or.inr hpc)
      · simp
      · simp
  | returned => trivial

theorem ordered_work (h : s.Ordered) (ht : VsyncAct.Timely s .work) :
    Post workStep s (fun _ s' => s'.Ordered) (fun _ _ => True) := by
  -- a step that neither leaves nor comes to be
  have hstay : ∀ pc delivered, s.work ≠ .absent → pc ≠ .absent → pc ≠ .left →
      VsyncThreads.Ordered { s with work := pc, delivered := delivered } := by
    intro pc delivered hne habsent hleft
    constructor
    · constructor
      · exact fun hpc => absurd hpc hleft
      · exact fun _ _ => ⟨habsent, hleft⟩
    · have habs := h.absent
      simp only [hne, habsent] at habs ⊢
      exact habs
    · exact h.running
    · exact h.early
    · exact h.valid
  unfold workStep
  rw [post_bind, post_get]
  cases hpc : s.work with
  | absent | left => trivial
  | lock | asleep | waitVBlank | callBack =>
      exact hstay _ _ (by simp [hpc]) (by simp) (by simp)
  | testEnable | testRunning =>
      refine hstay _ _ (by simp [hpc]) ?_ ?_ <;> split <;> simp
  | readRunning =>
      cases hrun : s.worker.mRunning with
      | true => exact hstay _ _ (by simp [hpc]) (by simp) (by simp)
      | false =>
          -- `Init` has returned, so it was the destructor that cleared `mRunning`
          have hreturned := ht hpc
          have habs := h.absent
          have hrunning := h.running
          simp only [hpc, hreturned, hrun] at habs hrunning
          have hfd : 0 ≤ s.fd := by simpa using habs
          have hdestroyed : s.destroyed = true := by simpa [hfd] using hrunning
          constructor
          · constructor <;> simp [hdestroyed]
          · simpa [hreturned] using hfd
          · simp [hrun, hdestroyed]
          · simp [hreturned]
          · simp [hreturned]

theorem ordered_step (h : s.Ordered) {act : VsyncAct} (ht : act.Timely s) :
    Post (vsyncStep act) s (fun _ s' => s'.Ordered) (fun _ _ => True) := by
  cases act with
  | init => exact ordered_init h
  | work => exact ordered_work h ht
  | enableVsync enable =>
      simp only [vsyncStep, post_bind, post_get]
      split
      · next hfree =>
          obtain ⟨husable, -⟩ := Bool.and_eq_true_iff.1 hfree
          obtain ⟨hreturned, hdestroyed⟩ := usable_iff.1 husable
          constructor
          · constructor
            · exact h.kept.left
            · intro _ henable
              have habs := h.absent
              constructor
              · intro hpc
                have hfd := ht husable henable
                simp only [hreturned] at habs
                have hneg : s.fd < 0 := by simpa using habs.1 hpc
                omega
              · intro hpc
                rw [h.kept.left hpc] at hdestroyed
                exact absurd hdestroyed (by simp)
          · exact h.absent
          · exact h.running
          · exact fun hpc => absurd hreturned hpc
          · exact h.valid
      · trivial
  | reqesterVBlankCb cb =>
      simp only [vsyncStep, post_bind, post_get]
      split
      · cases cb with
        | none => exact h
        | some cb => exact ⟨⟨h.kept.left, h.kept.served⟩, h.absent, h.running, h.early, h.valid⟩
      · trivial
  | destroy =>
      simp only [vsyncStep, post_bind, post_get]
      split
      · next hfree =>
          obtain ⟨husable, -⟩ := Bool.and_eq_true_iff.1 hfree
          obtain ⟨hreturned, -⟩ := usable_iff.1 husable
          constructor
          · constructor <;> simp
          · exact h.absent
          · simp
          · exact fun hpc => absurd hreturned hpc
          · exact h.valid
      · trivial

/-- In an ordered state a step keeps the worker exactly when it is timely. -/
theorem keepsWorker_iff (h : s.Ordered) (act : VsyncAct) :
    KeepsWorker s act ↔ act.Timely s := by
  constructor
  · intro hkept
    cases act with
    | init | reqesterVBlankCb | destroy => trivial
    | work =>
        intro hpc
        by_contra hreturned
        obtain ⟨hrunning, -, hdestroyed⟩ := h.before hreturned
        have hok : vsyncStep .work s = .ok () { s with work := .left } := by
          show workStep s = _
          unfold workStep
          rw [get_bind, hpc]
          dsimp only
          rw [hrunning]
          rfl
        have hleft := (hkept.of_ok hok).left rfl
        rw [hdestroyed] at hleft
        exact absurd hleft (by simp)
    | enableVsync enable =>
        rintro husable rfl
        obtain ⟨hreturned, hdestroyed⟩ := usable_iff.1 husable
        by_contra hfd
        have habsent : s.work = .absent := h.absent.2 (Or.inr (Or.inr (by omega)))
        simp only [KeepsWorker, vsyncStep, post_bind, post_get] at hkept
        rw [if_pos (by simp [husable, locked, habsent])] at hkept
        exact ((post_set.1 hkept).served hdestroyed rfl).1 habsent
  · intro ht
    exact (ordered_step h ht).mono (fun _ _ h' => h'.kept) (fun _ _ _ => trivial)

end VsyncThreads

/-- **The vsync worker.** Every step of an interleaving keeps the worker exactly when
every step is timely. -/
theorem workerKept_iff (fd : Int) (acts : List VsyncAct) :
    Meets vsyncStep KeepsWorker { fd } acts ↔
      Meets vsyncStep (fun s act => act.Timely s) { fd } acts := by
  apply meets_congr (I := VsyncThreads.Ordered)
  · intro s act h hkept
    exact VsyncThreads.ordered_step h ((VsyncThreads.keepsWorker_iff h act).1 hkept)
  · intro s act h
    exact VsyncThreads.keepsWorker_iff h act
  · exact ordered_start fd

/-- The thread runs ahead of the line that sets `mRunning`, and leaves. -/
def earlyThread : List VsyncAct := [.init, .init, .work, .work, .work, .work]

theorem earlyThread_leaves : ¬ Meets vsyncStep KeepsWorker { fd := 5 } earlyThread := by
  rintro ⟨-, -, -, -, -, hleft, -⟩
  exact absurd (hleft.left rfl) (by decide)

end QemuHal
