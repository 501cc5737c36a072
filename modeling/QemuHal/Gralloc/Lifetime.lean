import QemuHal.Gralloc.Allocator

/-!
# Lifetime of the gbm device

The VDI objects of the process share one manager. Its counter goes up only when an
initialisation succeeds and down with every destructor; `deviceLaw_iff` says for
which runs the device is open exactly as long as an initialised object lives.
-/

namespace QemuHal

open Exec

/-! ## Objects -/

namespace GrallocWorld

/-- The gbm device of the process. -/
def gbmDevice (g : GrallocWorld) : Option GbmDevice := g.grallocManager.bind (·.gbmDevice)

/-- The object is alive and its `GbmGrallocInitialize` succeeded. -/
def Initialised (g : GrallocWorld) (id : Nat) : Prop := ⟨id, true⟩ ∈ g.objects

/-- Some object other than `id` is alive and initialised. -/
def OtherInitialised (g : GrallocWorld) (id : Nat) : Prop :=
  ∃ o ∈ g.objects, o.id ≠ id ∧ o.initialised = true

instance (g : GrallocWorld) (id : Nat) : Decidable (g.Initialised id) :=
  inferInstanceAs (Decidable (_ ∈ _))

instance (g : GrallocWorld) (id : Nat) : Decidable (g.OtherInitialised id) :=
  inferInstanceAs (Decidable (∃ o ∈ g.objects, _))

end GrallocWorld

inductive VdiOp where
  | create (a : OpenAnswers)
  | destroy (id : Nat) (malloc : Bool)
  | allocMem (id : Nat) (info : AllocInfo) (a : AllocAnswers)

/-- The constructor: a failed initialisation is logged and the object stays. -/
def createDisplayBufferVdi (a : OpenAnswers) : Gralloc Unit := do
  let ret ← gbmGrallocInitialize a
  modify fun g =>
    { g with
      objects := ⟨g.nextObject, ret = .success⟩ :: g.objects
      nextObject := g.nextObject + 1 }

/-- The destructor of a live object. -/
def destroyDisplayBufferVdi (id : Nat) (malloc : Bool) : Gralloc Unit := do
  if (← get).objects.any (·.id = id) then do
    let _ ← gbmGrallocUninitialize malloc
    modify fun g => { g with objects := g.objects.filter (·.id ≠ id) }

/-- One call of a client. A call on an object that is not alive is none. -/
def vdiStep : VdiOp → Gralloc Unit
  | .create a => createDisplayBufferVdi a
  | .destroy id malloc => destroyDisplayBufferVdi id malloc
  | .allocMem id info a => do
      if (← get).objects.any (·.id = id) then do
        let _ ← gbmAllocMem info a

/-! ## What the allocator does to the device -/

/-- The counter the next `GetGrallocManager` finds. -/
def GrallocWorld.referCount (g : GrallocWorld) : Int32 :=
  (g.grallocManager.map (·.referCount)).getD 0

/-- Between two worlds the objects are the same, and the lock is left free. -/
structure SameObjects (g g' : GrallocWorld) : Prop where
  objects : g'.objects = g.objects
  nextObject : g'.nextObject = g.nextObject
  lock : g'.lock = false

theorem getGrallocManager_post (g : GrallocWorld) (malloc : Bool) :
    Post (getGrallocManager malloc) g
      (fun m g' => g' = { g with grallocManager := m } ∧ m.bind (·.gbmDevice) = g.gbmDevice ∧
        (m.map (·.referCount)).getD 0 = g.referCount) (fun _ _ => False) := by
  unfold getGrallocManager GrallocWorld.gbmDevice GrallocWorld.referCount
  simp only [post_bind, post_get]
  cases hm : g.grallocManager with
  | some m => exact ⟨by rw [← hm], rfl, rfl⟩
  | none =>
      cases malloc with
      | true => exact ⟨rfl, rfl, rfl⟩
      | false => exact ⟨by simp [← hm], rfl, rfl⟩

theorem grallocLock_post {g : GrallocWorld} (hlock : g.lock = false) :
    Post grallocLock g (fun _ g' => g' = { g with lock := true }) (fun _ _ => False) := by
  unfold grallocLock
  simp [hlock]

/-- `InitGbmDevice` opens a closed device or fails, and leaves an open one alone. -/
theorem initGbmDevice_post {g : GrallocWorld} {m : GrallocManager}
    (hm : g.grallocManager = some m) (a : OpenAnswers) :
    Post (initGbmDevice m a) g
      (fun ret g' => ∃ m' fds, g' = { g with grallocManager := some m', fds } ∧
        (m'.gbmDevice.isSome ↔ ret = .success) ∧ (m.gbmDevice.isSome → ret = .success))
      (fun _ _ => False) := by
  have hsame : g = { g with grallocManager := some m, fds := g.fds } := by rw [← hm]
  unfold initGbmDevice
  split
  · next h => exact ⟨m, g.fds, hsame, by simpa [Option.isSome_iff_ne_none] using h, fun _ => rfl⟩
  · next h =>
      have hnone : m.gbmDevice = none := by simpa using h
      split
      · exact ⟨m, g.fds, hsame, by simp [hnone], by simp [hnone]⟩
      · split
        · exact ⟨m, g.fds, hsame, by simp [hnone], by simp [hnone]⟩
        · split
          · exact ⟨{ m with drmFd := -1 }, g.fds, rfl, by simp [hnone], by simp [hnone]⟩
          · exact ⟨_, _, rfl, by simp, fun _ => rfl⟩

/-- `GbmGrallocInitialize` succeeds with an open device or fails without one. -/
theorem gbmGrallocInitialize_post {g : GrallocWorld} (hlock : g.lock = false)
    (a : OpenAnswers) :
    Post (gbmGrallocInitialize a) g
      (fun ret g' => SameObjects g g' ∧ (g'.gbmDevice.isSome ↔ ret = .success) ∧
        (g.gbmDevice.isSome → ret = .success)) (fun _ _ => False) := by
  unfold gbmGrallocInitialize
  simp only [post_bind]
  refine (grallocLock_post hlock).mono ?_ (fun _ _ h => h)
  rintro - _ rfl
  refine (getGrallocManager_post _ a.malloc).mono ?_ (fun _ _ h => h)
  rintro m _ ⟨rfl, hdevice, -⟩
  replace hdevice : m.bind (·.gbmDevice) = g.gbmDevice := hdevice
  rw [← hdevice]
  cases m with
  | none =>
      simp only [grallocUnlock, post_bind, post_modify, post_pure]
      exact ⟨⟨rfl, rfl, rfl⟩, by simp [GrallocWorld.gbmDevice], by simp⟩
  | some m =>
      simp only [post_bind]
      refine (initGbmDevice_post rfl a).mono ?_ (fun _ _ h => h)
      rintro ret _ ⟨m', fds, rfl, hret, hopen⟩
      split
      · next hfail =>
          simp only [grallocUnlock, post_bind, post_modify, post_pure]
          exact ⟨⟨rfl, rfl, rfl⟩, hret, hopen⟩
      · next hsucc =>
          simp only [grallocUnlock, post_bind, post_modify, post_pure]
          have hret' : ret = .success := by simpa using hsucc
          exact ⟨⟨rfl, rfl, rfl⟩, by simpa [GrallocWorld.gbmDevice, hret'] using hret,
            fun _ => trivial⟩

/-- `GbmGrallocUninitialize` closes the device when the counter drops below zero. -/
theorem gbmGrallocUninitialize_post {g : GrallocWorld} (hlock : g.lock = false)
    (malloc : Bool) :
    Post ( gbmGrallocUninitialize malloc) g
      (fun _ g' => SameObjects g g' ∧
        g'.gbmDevice = if g.referCount - 1 < 0 then none else g.gbmDevice)
      (fun _ _ => False) := by
  unfold gbmGrallocUninitialize
  simp only [post_bind]
  refine (grallocLock_post hlock).mono ?_ (fun _ _ h => h)
  rintro - _ rfl
  refine (getGrallocManager_post _ malloc).mono ?_ (fun _ _ h => h)
  rintro m _ ⟨rfl, hdevice, hcount⟩
  replace hdevice : m.bind (·.gbmDevice) = g.gbmDevice := hdevice
  replace hcount : (m.map (·.referCount)).getD 0 = g.referCount := hcount
  rw [← hdevice, ← hcount]
  cases m with
  | none =>
      simp only [grallocUnlock, post_bind, post_modify, post_pure]
      exact ⟨⟨rfl, rfl, rfl⟩, by simp [GrallocWorld.gbmDevice]⟩
  | some m =>
      simp only [post_bind, post_modify]
      split
      · next hneg =>
          simp only [deInitGbmDevice, grallocUnlock, post_bind, post_modify, post_pure]
          exact ⟨⟨rfl, rfl, rfl⟩, (if_pos hneg).symm⟩
      · next hneg =>
          simp only [grallocUnlock, post_bind, post_modify, post_pure]
          exact ⟨⟨rfl, rfl, rfl⟩, (if_neg hneg).symm⟩

/-- The allocator's calls on buffer objects leave the manager and the objects alone. -/
def SameManager (g g' : GrallocWorld) : Prop :=
  g'.grallocManager = g.grallocManager ∧ g'.objects = g.objects ∧
    g'.nextObject = g.nextObject

theorem gbmBoCreate_post (g : GrallocWorld) (gbm : Option GbmDevice) (width height : UInt32)
    (format : DrmFormat) (calloc : Bool) (answer : CreateDumb → Option DumbBuffer) :
    Post (gbmBoCreate gbm width height format calloc answer) g
      (fun _ g' => SameManager g g') (fun e _ => e = .nullDevice ∧ gbm = none) := by
  have hsame : SameManager g g := ⟨rfl, rfl, rfl⟩
  unfold gbmBoCreate
  split
  · exact hsame
  · split
    · exact hsame
    · split
      · exact ⟨rfl, rfl⟩
      · dsimp only
        split
        · simp only [post_bind, post_modify, post_pure]
          exact ⟨rfl, rfl, rfl⟩
        · simp only [post_bind, post_modify, post_pure]
          exact ⟨rfl, rfl, rfl⟩

theorem SameManager.trans {g g' g'' : GrallocWorld} (h : SameManager g g')
    (h' : SameManager g' g'') : SameManager g g'' :=
  ⟨h'.1.trans h.1, h'.2.1.trans h.2.1, h'.2.2.trans h.2.2⟩

/-- The end of every failure path: the buffer object is destroyed and the lock released. -/
theorem abandon_post {g g' : GrallocWorld} (h : SameManager g g') (bo : GbmBo)
    (destroyDumb : Bool) (ret : HdfStatus × Option PriBufferHandle)
    {E : GrallocFault → GrallocWorld → Prop} :
    Post (do gbmBoDestroy bo destroyDumb; grallocUnlock; pure ret) g'
      (fun _ t => SameManager g t ∧ t.lock = false) E := by
  unfold gbmBoDestroy grallocUnlock
  split
  · simp only [post_bind, post_modify, post_pure]
    exact ⟨h.trans ⟨rfl, rfl, rfl⟩, trivial⟩
  · simp only [post_bind, post_modify, post_pure]
    exact ⟨h.trans ⟨rfl, rfl, rfl⟩, trivial⟩

theorem gbmBoGetFd_post (g : GrallocWorld) (answer : Option Nat)
    {E : GrallocFault → GrallocWorld → Prop} :
    Post (gbmBoGetFd answer) g (fun _ g' => SameManager g g') E := by
  unfold gbmBoGetFd
  split <;> exact ⟨rfl, rfl, rfl⟩

/-- `GbmAllocMem` leaves the device alone, and can only fault without one. -/
theorem gbmAllocMem_post {g : GrallocWorld} (hlock : g.lock = false) (info : AllocInfo)
    (a : AllocAnswers) :
    Post (gbmAllocMem info a) g
      (fun _ g' => SameObjects g g' ∧ g'.gbmDevice = g.gbmDevice)
      (fun e _ => e = .nullDevice ∧ g.gbmDevice = none) := by
  unfold gbmAllocMem
  split
  · exact ⟨⟨rfl, rfl, hlock⟩, rfl⟩
  · simp only [post_bind]
    refine (grallocLock_post hlock).mono ?_ (fun _ _ h => h.elim)
    rintro - _ rfl
    refine (getGrallocManager_post _ a.mallocManager).mono ?_ (fun _ _ h => h.elim)
    rintro m _ ⟨rfl, hdevice, -⟩
    replace hdevice : m.bind (·.gbmDevice) = g.gbmDevice := hdevice
    have hframe : ∀ t : GrallocWorld,
        SameManager { g with grallocManager := m, lock := true } t ∧ t.lock = false →
        SameObjects g t ∧ t.gbmDevice = g.gbmDevice := by
      rintro t ⟨⟨hm, hobjects, hnext⟩, hfree⟩
      exact ⟨⟨hobjects, hnext, hfree⟩, by rw [← hdevice, GrallocWorld.gbmDevice, hm]⟩
    cases m with
    | none => exact hframe _ ⟨⟨rfl, rfl, rfl⟩, rfl⟩
    | some m =>
        simp only [post_bind]
        refine (gbmBoCreate_post _ _ _ _ _ _ _).mono ?_ (fun _ _ h => ⟨h.1, hdevice.symm.trans h.2⟩)
        intro bo t h
        cases bo with
        | none =>
            simp only [grallocUnlock, post_bind, post_modify, post_pure]
            exact hframe _ ⟨h, rfl⟩
        | some bo =>
            simp only [post_bind (f := fun fd : Int => _)]
            refine (gbmBoGetFd_post _ _).mono (fun fd t' h' => ?_) (fun _ _ h => h)
            replace h := h.trans h'
            -- every path ends in destroying the buffer object and releasing the lock
            have hend : ∀ {u : GrallocWorld} {ret}, SameManager t' u →
                Post (do gbmBoDestroy bo a.destroyDumb; grallocUnlock; pure ret) u
                  (fun _ g' => SameObjects g g' ∧ g'.gbmDevice = g.gbmDevice)
                  (fun e _ => e = .nullDevice ∧ g.gbmDevice = none) :=
              fun hu => (abandon_post (h.trans hu) _ _ _).mono (fun _ _ => hframe _)
                (fun _ _ h => h)
            split
            · exact hend ⟨rfl, rfl, rfl⟩
            · split
              · rw [post_bind, closeFd, post_modify]
                exact hend ⟨rfl, rfl, rfl⟩
              · rw [post_bind, post_modify]
                split
                · rw [post_bind, closeFd, post_modify]
                  simp only [gbmBoDestroy, grallocUnlock]
                  split <;> exact hframe _ ⟨h.trans ⟨rfl, rfl, rfl⟩, rfl⟩
                · exact hend ⟨rfl, rfl, rfl⟩

/-! ## The law -/

/-- The device is open exactly when an initialised object lives. -/
def DeviceLaw (g : GrallocWorld) : Prop :=
  g.gbmDevice.isSome ↔ ∃ o ∈ g.objects, o.initialised = true

instance (g : GrallocWorld) : Decidable (DeviceLaw g) :=
  inferInstanceAs (Decidable (_ ↔ ∃ o ∈ g.objects, _))

/-- The call keeps the law, does not touch the device under another initialised object,
and faults only where an allocation goes through an object that is not initialised. -/
def Lawful (g : GrallocWorld) (op : VdiOp) : Prop :=
  Post (vdiStep op) g
    (fun _ g' => DeviceLaw g' ∧
      ∀ id malloc, op = .destroy id malloc → g.OtherInitialised id → g'.gbmDevice = g.gbmDevice)
    (fun e _ => e = .nullDevice ∧ ∃ id info a, op = .allocMem id info a ∧ ¬ g.Initialised id)

/-- A destructor that meets an open device finds the counter used up exactly when no
initialised object is left. -/
def Counted (g : GrallocWorld) : VdiOp → Prop
  | .destroy id _ =>
      (∃ o ∈ g.objects, o.id = id) → g.gbmDevice.isSome →
        (g.referCount - 1 < 0 ↔ ¬ g.OtherInitialised id)
  | _ => True

/-- What holds between the calls of a lawful run. -/
structure Settled (g : GrallocWorld) : Prop where
  law : DeviceLaw g
  lock : g.lock = false

theorem create_post {g : GrallocWorld} (h : Settled g) (a : OpenAnswers) :
    Post (createDisplayBufferVdi a) g (fun _ g' => Settled g') (fun _ _ => False) := by
  unfold createDisplayBufferVdi
  simp only [post_bind, post_modify]
  refine (gbmGrallocInitialize_post h.lock a).mono ?_ (fun _ _ h => h)
  rintro ret g' ⟨hsame, hret, hopen⟩
  refine ⟨?_, hsame.lock⟩
  show g'.gbmDevice.isSome ↔ ∃ o ∈ _ :: g'.objects, o.initialised = true
  rw [hret, hsame.objects]
  constructor
  · intro hsucc
    exact ⟨_, List.mem_cons_self, by simpa using hsucc⟩
  · rintro ⟨o, ho, hinit⟩
    rcases List.mem_cons.1 ho with rfl | hold
    · simpa using hinit
    · exact hopen (h.law.2 ⟨o, hold, hinit⟩)

theorem any_id {objects : List DisplayBufferVdiImpl} {id : Nat} :
    objects.any (·.id = id) = true ↔ ∃ o ∈ objects, o.id = id := by
  simp

/-- The destructor of a live object closes the device when it uses up the counter. -/
theorem destroy_ok {g : GrallocWorld} (hlock : g.lock = false) {id : Nat}
    (hlive : ∃ o ∈ g.objects, o.id = id) (malloc : Bool) :
    ∃ u g', destroyDisplayBufferVdi id malloc g = .ok u g' ∧ g'.lock = false ∧
      g'.gbmDevice = (if g.referCount - 1 < 0 then none else g.gbmDevice) ∧
      ((∃ o ∈ g'.objects, o.initialised = true) ↔ g.OtherInitialised id) := by
  have hpost : Post (destroyDisplayBufferVdi id malloc) g
      (fun _ g' => g'.lock = false ∧
        g'.gbmDevice = (if g.referCount - 1 < 0 then none else g.gbmDevice) ∧
        ((∃ o ∈ g'.objects, o.initialised = true) ↔ g.OtherInitialised id))
      (fun _ _ => False) := by
    unfold destroyDisplayBufferVdi
    simp only [post_bind, post_get]
    rw [if_pos (any_id.2 hlive)]
    simp only [post_bind, post_modify]
    refine ( gbmGrallocUninitialize_post hlock malloc).mono ?_ (fun _ _ h => h)
    rintro - g' ⟨hsame, hdevice⟩
    refine ⟨hsame.lock, hdevice, ?_⟩
    simp only [hsame.objects, List.mem_filter, GrallocWorld.OtherInitialised, decide_eq_true_eq,
      and_assoc]
  exact hpost.exists_ok

theorem destroy_dead {g : GrallocWorld} {id : Nat} (hdead : ¬ ∃ o ∈ g.objects, o.id = id)
    (malloc : Bool) : ∃ u, destroyDisplayBufferVdi id malloc g = .ok u g := by
  unfold destroyDisplayBufferVdi
  rw [get_bind, if_neg (mt any_id.1 hdead)]
  exact ⟨_, rfl⟩

/-- The destructor is lawful exactly when the counter is right. -/
theorem lawful_destroy {g : GrallocWorld} (h : Settled g) (id : Nat) (malloc : Bool) :
    Lawful g (.destroy id malloc) ↔ Counted g (.destroy id malloc) := by
  by_cases hlive : ∃ o ∈ g.objects, o.id = id
  · obtain ⟨u, g', hok, -, hdevice, hrest⟩ := destroy_ok h.lock hlive malloc
    have hlaw : Lawful g (.destroy id malloc) ↔ DeviceLaw g' ∧
        (g.OtherInitialised id → g'.gbmDevice = g.gbmDevice) := by
      rw [Lawful, vdiStep, post_iff_of_ok hok]
      exact and_congr_right fun _ => ⟨fun hall => hall id malloc rfl, fun hother _ _ heq => by
        cases heq
        exact hother⟩
    rw [hlaw, DeviceLaw, hrest, hdevice]
    unfold Counted
    have hother : g.OtherInitialised id → g.gbmDevice.isSome = true := by
      rintro ⟨o, ho, -, hinit⟩
      exact h.law.2 ⟨o, ho, hinit⟩
    by_cases hneg : g.referCount - 1 < 0
    · simp only [if_pos hneg]
      constructor
      · rintro ⟨hlaw, -⟩ - -
        simpa [hneg] using hlaw
      · intro hcount
        have hnone : ¬ g.OtherInitialised id := fun ho => (hcount hlive (hother ho)).1 hneg ho
        exact ⟨by simpa using hnone, fun ho => absurd ho hnone⟩
    · simp only [if_neg hneg]
      constructor
      · rintro ⟨hlaw, -⟩ - hopen
        simpa [hneg] using hlaw.1 hopen
      · intro hcount
        refine ⟨⟨fun hopen => ?_, hother⟩, fun _ => trivial⟩
        by_contra hnone
        exact hneg ((hcount hlive hopen).2 hnone)
  · obtain ⟨u, hok⟩ := destroy_dead hlive malloc
    rw [Lawful, vdiStep, post_iff_of_ok hok]
    exact ⟨fun _ hlive' => absurd hlive' hlive, fun _ => ⟨h.law, fun _ _ _ _ => rfl⟩⟩

theorem allocMem_lawful {g : GrallocWorld} (h : Settled g) (id : Nat) (info : AllocInfo)
    (a : AllocAnswers) : Lawful g (.allocMem id info a) := by
  unfold Lawful vdiStep
  simp only [post_bind, post_get]
  split
  · simp only [post_bind, post_pure]
    refine (gbmAllocMem_post h.lock info a).mono ?_ ?_
    · rintro - g' ⟨hsame, hdevice⟩
      exact ⟨by rw [DeviceLaw, hdevice, hsame.objects]; exact h.law, fun _ _ heq => by cases heq⟩
    · rintro e - ⟨rfl, hnone⟩
      refine ⟨rfl, id, info, a, rfl, fun hinit => ?_⟩
      have hopen : g.gbmDevice.isSome = true := h.law.2 ⟨_, hinit, rfl⟩
      simp [hnone] at hopen
  · exact ⟨h.law, fun _ _ heq => by cases heq⟩

/-- One call is lawful exactly when it meets the condition on the counter. -/
theorem lawful_iff {g : GrallocWorld} (h : Settled g) (op : VdiOp) :
    Lawful g op ↔ Counted g op := by
  cases op with
  | create a =>
      refine ⟨fun _ => trivial, fun _ => (create_post h a).mono ?_ (fun _ _ h => h.elim)⟩
      intro _ g' h'
      exact ⟨h'.law, fun _ _ heq => by cases heq⟩
  | destroy id malloc => exact lawful_destroy h id malloc
  | allocMem id info a => exact ⟨fun _ => trivial, fun _ => allocMem_lawful h id info a⟩

/-- No call leaves the lock taken. -/
theorem vdiStep_lock {g : GrallocWorld} (hlock : g.lock = false) (op : VdiOp) :
    Post (vdiStep op) g (fun _ g' => g'.lock = false) (fun _ _ => True) := by
  cases op with
  | create a =>
      simp only [vdiStep, createDisplayBufferVdi, post_bind, post_modify]
      exact (gbmGrallocInitialize_post hlock a).mono (fun _ _ h => h.1.lock) (fun _ _ h => h.elim)
  | destroy id malloc =>
      by_cases hlive : ∃ o ∈ g.objects, o.id = id
      · obtain ⟨u, g', hok, hfree, -⟩ := destroy_ok hlock hlive malloc
        exact post_of_ok hok hfree
      · obtain ⟨u, hok⟩ := destroy_dead hlive malloc
        exact post_of_ok hok hlock
  | allocMem id info a =>
      simp only [vdiStep, post_bind, post_get]
      split
      · simp only [post_bind, post_pure]
        exact (gbmAllocMem_post hlock info a).mono (fun _ _ h => h.1.lock) (fun _ _ _ => trivial)
      · exact hlock

/-- **Lifetime of the gbm device.** From the start of the process, every call of a run is
lawful exactly when every destructor that meets an open device finds the counter used up
just when no initialised object is left. -/
theorem deviceLaw_iff (ops : List VdiOp) :
    Meets vdiStep Lawful {} ops ↔ Meets vdiStep Counted {} ops := by
  refine meets_congr (I := Settled) (fun g op h hlaw => ?_) (fun g op h => lawful_iff h op)
    ⟨by simp [DeviceLaw, GrallocWorld.gbmDevice], rfl⟩ ops
  exact (hlaw.and (vdiStep_lock h.lock op)).mono (fun _ _ h => ⟨h.1.1, h.2⟩)
    (fun _ _ _ => trivial)

/-- An object whose initialisation succeeds is created and destroyed: the device stays
open. -/
theorem device_leaked :
    ¬ Meets vdiStep Lawful {} [.create { openFd := 5 }, .destroy 0 true] := by
  intro h
  have hend := run_post (I := DeviceLaw) (E := fun _ _ => True)
    (fun _ _ _ hlaw => hlaw.mono (fun _ _ h => h.1) (fun _ _ _ => trivial)) (by decide) h
  have hrun : returns (run vdiStep [.create { openFd := 5 }, .destroy 0 true]) {}
      (fun _ g' => !decide (DeviceLaw g')) = true := by decide
  obtain ⟨_, g', hok, hopen⟩ := returns_iff.1 hrun
  simp [hend.of_ok hok] at hopen

end QemuHal
