import QemuHal.Drm.VsyncWorker
import Mathlib.Algebra.Group.Int.Defs

/-!
# What the vblank callback is told

The loop of `WorkThread` hands the result of `drmWaitVBlank` to the callback. A wait that
fails leaves the old sequence number and a negative value that is read as a time.
`vblank_iff` says when every call of the callback tells the truth.
-/

namespace QemuHal

open Exec

/-! ## Waiting for a vblank -/

structure VBlankReply where
  sequence : UInt32
  tval_sec : Int
  tval_usec : Int
deriving DecidableEq, Repr

/-- The time of the reply in nanoseconds. -/
def VBlankReply.ns (r : VBlankReply) : Int := r.tval_sec * 1000000000 + r.tval_usec * 1000

/-- What `drmWaitVBlank` returns and what it leaves in its argument. -/
structure VBlankAnswer where
  ret : Int
  reply : VBlankReply
deriving DecidableEq, Repr

/-- `WaitNextVBlank`: the value returned and `sq`. The second check of `ret` is never
reached with a negative value. -/
def waitNextVBlank (a : VBlankAnswer) (sq : UInt32) : Nat × UInt32 :=
  if a.ret < 0 then ((a.ret % 2 ^ 64).toNat, sq)
  else ((a.reply.ns % 2 ^ 64).toNat, a.reply.sequence)

/-! ## The loop -/

/-- What the threads have done, as far as the callback is concerned. -/
inductive VsyncEvent where
  | waited (a : VBlankAnswer)
  | invoked (cb : VsyncCallBack) (sequence : UInt32) (ns : Nat)
  | enabled (enable : Bool)
deriving DecidableEq, Repr

/-- `VsyncCallBack::Vsync`; the function `0` is the null pointer. -/
def VsyncCallBack.vsync (cb : VsyncCallBack) (sequence : UInt32) (ns : Nat) : List VsyncEvent :=
  if cb.mVBlankCb = 0 then [] else [.invoked cb sequence ns]

/-- The threads with the two variables of `WorkThread`. `log` is newest first. -/
structure VsyncLoop where
  threads : VsyncThreads
  seq : UInt32 := 0
  time : Nat := 0
  log : List VsyncEvent := []
deriving DecidableEq, Repr

namespace VsyncLoop

/-- What a step that takes the threads to `t` does to the variables and the log. `a` answers
the wait, if the step makes one. -/
def advance (s : VsyncLoop) (a : VBlankAnswer) (t : VsyncThreads) : VsyncAct → VsyncLoop
  | .work =>
      match s.threads.work with
      | .waitVBlank =>
          let (time, seq) := waitNextVBlank a s.seq
          { threads := t, seq, time, log := .waited a :: s.log }
      | .callBack =>
          match s.threads.worker.mCallBack with
          | some cb => { s with threads := t, log := cb.vsync s.seq s.time ++ s.log }
          | none => { s with threads := t }
      | .absent | .lock | .testEnable | .testRunning | .asleep | .readRunning | .left =>
          { s with threads := t }
  | .enableVsync enable => { s with threads := t, log := .enabled enable :: s.log }
  | .init | .reqesterVBlankCb _ | .destroy => { s with threads := t }

end VsyncLoop

/-- One atomic step, with the answer to `drmWaitVBlank`. -/
def loopStep (x : VsyncAct × VBlankAnswer) : EStateM NotNow VsyncLoop Unit := fun s =>
  match vsyncStep x.1 s.threads with
  | .ok _ t => .ok () (s.advance x.2 t x.1)
  | .error e _ => .error e s

/-! ## The law -/

/-- The replies of the waits that have succeeded since the last call of the callback. -/
def freshReplies : List VsyncEvent → List VBlankReply
  | [] => []
  | .waited a :: log => if a.ret < 0 then freshReplies log else a.reply :: freshReplies log
  | .invoked .. :: _ => []
  | .enabled _ :: log => freshReplies log

/-- Every call of the callback carries a reply that is fresh. -/
def Truthful : List VsyncEvent → Prop
  | [] => True
  | .invoked _ sequence ns :: log =>
      (∃ r ∈ freshReplies log, r.sequence = sequence ∧ r.ns = ns) ∧ Truthful log
  | .waited _ :: log | .enabled _ :: log => Truthful log

/-- The times of the kernel, newest first. -/
def kernelTimes : List VsyncEvent → List Int
  | [] => []
  | .waited a :: log => if a.ret < 0 then kernelTimes log else a.reply.ns :: kernelTimes log
  | .invoked .. :: log | .enabled _ :: log => kernelTimes log

/-- The times the callback has been told, newest first. -/
def toldTimes : List VsyncEvent → List Int
  | [] => []
  | .invoked _ _ ns :: log => ns :: toldTimes log
  | .waited _ :: log | .enabled _ :: log => toldTimes log

/-- How often the callback has been called since vsync was disabled; `none` unless it is
disabled. -/
def sinceDisabled : List VsyncEvent → Option Nat
  | [] => none
  | .enabled true :: _ => none
  | .enabled false :: log => some ((sinceDisabled log).getD 0)
  | .invoked .. :: log => (sinceDisabled log).map (· + 1)
  | .waited _ :: log => sinceDisabled log

structure VBlankLaw (log : List VsyncEvent) : Prop where
  truthful : Truthful log
  ordered : (kernelTimes log).Pairwise (· ≥ ·) → (toldTimes log).Pairwise (· ≥ ·)
  quiet : ∀ n ∈ sinceDisabled log, n ≤ 1

/-- A step leads to a state in which the callback has been told the truth. -/
def TellsTruth (s : VsyncLoop) (x : VsyncAct × VBlankAnswer) : Prop :=
  Post (loopStep x) s (fun _ s' => VBlankLaw s'.log) (fun _ _ => True)

/-! ## The condition -/

/-- The outcome of the last wait. -/
def lastAnswer : List VsyncEvent → Option VBlankAnswer
  | [] => none
  | .waited a :: _ => some a
  | .invoked .. :: log | .enabled _ :: log => lastAnswer log

/-- The wait has succeeded, with a time that 64 bits can hold. -/
def VBlankAnswer.Sound (a : VBlankAnswer) : Prop :=
  0 ≤ a.ret ∧ 0 ≤ a.reply.ns ∧ a.reply.ns < 2 ^ 64

instance (a : VBlankAnswer) : Decidable a.Sound := inferInstanceAs (Decidable (_ ∧ _ ∧ _))

/-- The next step of the worker calls the callback. -/
def VsyncLoop.calls (s : VsyncLoop) : Bool :=
  match s.threads.work, s.threads.worker.mCallBack with
  | .callBack, some cb => decide (cb.mVBlankCb ≠ 0)
  | _, _ => false

/-- The callback is called after a sound wait only. -/
def CallsSoundly (s : VsyncLoop) (x : VsyncAct × VBlankAnswer) : Prop :=
  x.1 = .work → s.calls = true → ∃ a ∈ lastAnswer s.log, a.Sound

instance (s : VsyncLoop) (x : VsyncAct × VBlankAnswer) : Decidable (CallsSoundly s x) :=
  inferInstanceAs (Decidable (_ → _ → ∃ a ∈ lastAnswer s.log, a.Sound))

/-- The answers of libdrm: a wait that fails returns `-1`, and one that succeeds has the time
of a 64-bit clock. -/
def VBlankAnswer.OfLibdrm (a : VBlankAnswer) : Prop :=
  a.ret = -1 ∨ a.Sound

/-! ## The invariant -/

/-- The threads while vsync is disabled, with `n` calls of the callback since then. -/
structure VsyncThreads.Disabled (t : VsyncThreads) (n : Nat) : Prop where
  enable : t.worker.mEnable = false
  init : t.init = .returned
  le : n ≤ 1
  underway : t.work = .waitVBlank ∨ t.work = .callBack → n = 0
  leaving : t.work = .readRunning → t.worker.mRunning = false

/-- The last wait has succeeded and the callback has yet to be told. -/
structure VsyncLoop.Pending (s : VsyncLoop) (r : VBlankReply) : Prop where
  fresh : r ∈ freshReplies s.log
  times : ∃ times, kernelTimes s.log = r.ns :: times ∧ (toldTimes s.log).Sublist times
  seq : s.seq = r.sequence
  time : s.time = (r.ns % 2 ^ 64).toNat

structure VsyncLoop.Told (s : VsyncLoop) : Prop where
  truthful : Truthful s.log
  told : (toldTimes s.log).Sublist (kernelTimes s.log)
  answered : s.threads.work = .callBack → ∃ a, lastAnswer s.log = some a ∧
    (a.ret < 0 → s.time = (a.ret % 2 ^ 64).toNat) ∧ (0 ≤ a.ret → s.Pending a.reply)
  disabled : ∀ n ∈ sinceDisabled s.log, s.threads.Disabled n

namespace VsyncLoop

variable {s : VsyncLoop}

theorem Told.law (h : s.Told) : VBlankLaw s.log where
  truthful := h.truthful
  ordered := fun hkernel => hkernel.sublist h.told
  quiet := fun n hn => (h.disabled n hn).le

theorem told_start (fd : Int) : Told { threads := { fd } } where
  truthful := trivial
  told := List.Sublist.refl _
  answered := fun hpc => absurd hpc (by simp)
  disabled := fun n hn => absurd hn (by simp [sinceDisabled])

/-- A step of the threads that the callback does not notice. -/
theorem Told.threads (h : s.Told) {t : VsyncThreads} (hwork : t.work ≠ .callBack)
    (hdisabled : ∀ n, s.threads.Disabled n → t.Disabled n) : Told { s with threads := t } where
  truthful := h.truthful
  told := h.told
  answered := fun hpc => absurd hpc hwork
  disabled := fun n hn => hdisabled n (h.disabled n hn)

/-- The worker stays where it is. -/
theorem Told.aside (h : s.Told) {t : VsyncThreads} (hwork : t.work = s.threads.work)
    (hdisabled : ∀ n, s.threads.Disabled n → t.Disabled n) : Told { s with threads := t } where
  truthful := h.truthful
  told := h.told
  answered := by
    intro hpc
    obtain ⟨a, ha, hfail, hok⟩ := h.answered (hwork.symm.trans hpc)
    refine ⟨a, ha, hfail, fun hret => ?_⟩
    obtain ⟨hfresh, htimes, hseq, htime⟩ := hok hret
    exact ⟨hfresh, htimes, hseq, htime⟩
  disabled := fun n hn => hdisabled n (h.disabled n hn)

theorem post_loopStep {x : VsyncAct × VBlankAnswer} {Q : Unit → VsyncLoop → Prop}
    {E : NotNow → VsyncLoop → Prop}
    (h : Post (vsyncStep x.1) s.threads (fun _ t => Q () (s.advance x.2 t x.1))
      (fun e _ => E e s)) : Post (loopStep x) s Q E := by
  unfold Post loopStep
  unfold Post at h
  cases hm : vsyncStep x.1 s.threads with
  | ok u t =>
      rw [hm] at h
      exact h
  | error e t =>
      rw [hm] at h
      exact h

/-! ### Steps of the worker -/

theorem told_init (h : s.Told) (a : VBlankAnswer) :
    Post initStep s.threads (fun _ t => (s.advance a t .init).Told) (fun _ _ => True) := by
  have hbusy : ∀ n, s.threads.init ≠ .returned → ¬ s.threads.Disabled n :=
    fun n hpc hd => hpc hd.init
  unfold initStep
  rw [post_bind, post_get]
  cases hpc : s.threads.init with
  | checkFd =>
      dsimp only
      split
      · exact h.aside rfl fun n hd => absurd hd (hbusy n (by simp [hpc]))
      · exact h.aside rfl fun n hd => absurd hd (hbusy n (by simp [hpc]))
  | createThread =>
      exact h.threads (by simp) fun n hd => absurd hd (hbusy n (by simp [hpc]))
  | setRunning => exact h.aside rfl fun n hd => absurd hd (hbusy n (by simp [hpc]))
  | returned => trivial

/-- The wait ends, well or badly. -/
theorem Told.waited (h : s.Told) (a : VBlankAnswer) (hpc : s.threads.work = .waitVBlank)
    {t : VsyncThreads} (ht : t = { s.threads with work := .callBack }) :
    (s.advance a t .work).Told := by
  have hadvance : s.advance a t .work =
      { threads := t, seq := (waitNextVBlank a s.seq).2, time := (waitNextVBlank a s.seq).1,
        log := .waited a :: s.log } := by
    unfold advance
    rw [hpc]
  have hdisabled : ∀ n ∈ sinceDisabled s.log, t.Disabled n := by
    intro n hn
    have hd := h.disabled n hn
    rw [ht]
    exact ⟨hd.enable, hd.init, hd.le, fun _ => hd.underway (Or.inl hpc), fun hne => absurd hne (by simp)⟩
  rw [hadvance]
  by_cases hret : a.ret < 0
  · have hwait : waitNextVBlank a s.seq = ((a.ret % 2 ^ 64).toNat, s.seq) := if_pos hret
    rw [hwait]
    refine ⟨h.truthful, ?_, fun _ => ⟨a, rfl, fun _ => rfl, fun hok => absurd hok (by omega)⟩,
      hdisabled⟩
    simp only [toldTimes, kernelTimes, if_pos hret]
    exact h.told
  · have hwait : waitNextVBlank a s.seq = ((a.reply.ns % 2 ^ 64).toNat, a.reply.sequence) :=
      if_neg hret
    rw [hwait]
    refine ⟨h.truthful, ?_, fun _ => ⟨a, rfl, fun hfail => absurd hfail hret, fun _ => ?_⟩,
      hdisabled⟩
    · simp only [toldTimes, kernelTimes, if_neg hret]
      exact h.told.cons _
    · constructor
      · simp [freshReplies, hret]
      · exact ⟨kernelTimes s.log, by simp [kernelTimes, hret], h.told⟩
      · rfl
      · rfl

/-- The callback is called after a sound wait. -/
theorem Told.invoked (h : s.Told) (hpc : s.threads.work = .callBack) {a : VBlankAnswer}
    (ha : lastAnswer s.log = some a) (hsound : a.Sound) (cb : VsyncCallBack) {t : VsyncThreads}
    (ht : t = { s.threads with work := .lock, delivered := t.delivered }) :
    Told { s with threads := t, log := .invoked cb s.seq s.time :: s.log } := by
  obtain ⟨hret, hpos, hlt⟩ := hsound
  obtain ⟨a', ha', -, hok⟩ := h.answered hpc
  obtain rfl := Option.some.inj (ha.symm.trans ha')
  obtain ⟨hfresh, ⟨times, hkernel, htold⟩, hseq, htime⟩ := hok hret
  -- the time fits, so nothing is cut off
  have hns : a.reply.ns = (s.time : Int) := by
    rw [htime, Int.emod_eq_of_lt hpos hlt, Int.toNat_of_nonneg hpos]
  constructor
  · exact ⟨⟨a.reply, hfresh, hseq.symm, hns⟩, h.truthful⟩
  · simp only [toldTimes, kernelTimes, hkernel, ← hns]
    exact htold.cons_cons _
  · intro hcall
    rw [ht] at hcall
    exact absurd hcall (by simp)
  · intro n hn
    obtain ⟨m, hm, rfl⟩ := Option.map_eq_some_iff.1 hn
    have hd := h.disabled m hm
    have hzero := hd.underway (Or.inr hpc)
    rw [ht]
    exact ⟨hd.enable, hd.init, by omega, fun hpc' => absurd hpc' (by simp),
      fun hpc' => absurd hpc' (by simp)⟩

theorem told_work (h : s.Told) (a : VBlankAnswer) (hcalls : CallsSoundly s (.work, a)) :
    Post workStep s.threads (fun _ t => (s.advance a t .work).Told) (fun _ _ => True) := by
  unfold workStep
  rw [post_bind, post_get]
  -- a step that only moves the worker
  have hmove : ∀ pc, s.threads.work ≠ .waitVBlank → s.threads.work ≠ .callBack → pc ≠ .callBack →
      (∀ n, s.threads.Disabled n → VsyncThreads.Disabled { s.threads with work := pc } n) →
      (s.advance a { s.threads with work := pc } .work).Told := by
    intro pc hwait hcall hpc hdisabled
    have hadvance : s.advance a { s.threads with work := pc } .work =
        { s with threads := { s.threads with work := pc } } := by
      unfold advance
      cases hw : s.threads.work <;> simp_all
    rw [hadvance]
    exact h.threads hpc hdisabled
  cases hpc : s.threads.work with
  | absent | left => trivial
  | lock | asleep =>
      apply hmove _ (by simp [hpc]) (by simp [hpc]) (by simp)
      exact fun n hd => ⟨hd.enable, hd.init, hd.le, by simp, by simp⟩
  | testEnable =>
      apply hmove _ (by simp [hpc]) (by simp [hpc])
      · split <;> simp
      · intro n hd
        rw [hd.enable]
        exact ⟨hd.enable, hd.init, hd.le, by simp, by simp⟩
  | testRunning =>
      apply hmove _ (by simp [hpc]) (by simp [hpc])
      · split <;> simp
      · intro n hd
        cases hrun : s.threads.worker.mRunning with
        | true => exact ⟨hd.enable, hd.init, hd.le, by simp, by simp⟩
        | false => exact ⟨hd.enable, hd.init, hd.le, by simp, fun _ => hrun⟩
  | readRunning =>
      apply hmove _ (by simp [hpc]) (by simp [hpc])
      · split <;> simp
      · intro n hd
        rw [hd.leaving hpc]
        exact ⟨hd.enable, hd.init, hd.le, by simp, by simp⟩
  | waitVBlank => exact h.waited a hpc rfl
  | callBack =>
      have hlock : ∀ n delivered, s.threads.Disabled n →
          VsyncThreads.Disabled { s.threads with work := .lock, delivered := delivered } n :=
        fun n delivered hd => ⟨hd.enable, hd.init, hd.le, by simp, by simp⟩
      show (s.advance a { s.threads with
        delivered := s.threads.worker.mCallBack.toList ++ s.threads.delivered
        work := .lock } .work).Told
      unfold advance
      rw [hpc]
      cases hcb : s.threads.worker.mCallBack with
      | none => exact h.threads (by simp) fun n hd => hlock n _ hd
      | some cb =>
          dsimp only
          by_cases hnull : cb.mVBlankCb = 0
          · have hvsync : cb.vsync s.seq s.time = [] := if_pos hnull
            rw [hvsync]
            exact h.threads (by simp) fun n hd => hlock n _ hd
          · have hvsync : cb.vsync s.seq s.time = [.invoked cb s.seq s.time] := if_neg hnull
            rw [hvsync]
            obtain ⟨last, hlast, hsound⟩ := hcalls rfl (by simp [calls, hpc, hcb, hnull])
            exact h.invoked hpc hlast hsound cb rfl

/-- **One step.** -/
theorem told_step (h : s.Told) {x : VsyncAct × VBlankAnswer} (hcalls : CallsSoundly s x) :
    Post (loopStep x) s (fun _ s' => s'.Told) (fun _ _ => True) := by
  obtain ⟨act, a⟩ := x
  apply post_loopStep
  cases act with
  | init => exact told_init h a
  | work => exact told_work h a hcalls
  | enableVsync enable =>
      simp only [vsyncStep, post_bind, post_get]
      split
      · next hfree =>
          obtain ⟨husable, hlocked⟩ := Bool.and_eq_true_iff.1 hfree
          obtain ⟨hreturned, -⟩ := VsyncThreads.usable_iff.1 husable
          have hunlocked : s.threads.work ≠ .readRunning := by
            intro hpc
            simp [VsyncThreads.locked, hpc] at hlocked
          refine ⟨h.truthful, h.told, fun hpc => ?_, fun n hn => ?_⟩
          · obtain ⟨last, hlast, hfail, hok⟩ := h.answered hpc
            refine ⟨last, hlast, hfail, fun hret => ?_⟩
            obtain ⟨hfresh, htimes, hseq, htime⟩ := hok hret
            exact ⟨hfresh, htimes, hseq, htime⟩
          cases enable with
          | true => exact absurd hn (by simp [advance, sinceDisabled])
          | false =>
              obtain rfl := Option.some.inj hn
              refine ⟨rfl, hreturned, ?_, fun hpc => ?_, fun hpc => absurd hpc hunlocked⟩
              · cases hold : sinceDisabled s.log with
                | none => simp
                | some n => exact (h.disabled n hold).le
              · cases hold : sinceDisabled s.log with
                | none => rfl
                | some n => exact (h.disabled n hold).underway hpc
      · trivial
  | reqesterVBlankCb cb =>
      simp only [vsyncStep, post_bind, post_get]
      split
      · refine h.aside rfl fun n hd => ?_
        cases cb with
        | none => exact hd
        | some cb => exact ⟨hd.enable, hd.init, hd.le, hd.underway, hd.leaving⟩
      · trivial
  | destroy =>
      simp only [vsyncStep, post_bind, post_get]
      split
      · exact h.aside rfl fun n hd => ⟨hd.enable, hd.init, hd.le, hd.underway, fun _ => rfl⟩
      · trivial

end VsyncLoop

/-! ## Runs -/

namespace VsyncLoop

variable {s : VsyncLoop}

/-- A step that calls the callback. -/
theorem loopStep_calls {a : VBlankAnswer} (hcalls : s.calls = true) :
    ∃ cb t, loopStep (.work, a) s =
      .ok () { s with threads := t, log := .invoked cb s.seq s.time :: s.log } := by
  unfold calls at hcalls
  split at hcalls
  · next cb hpc hcb =>
      have hnull : cb.mVBlankCb ≠ 0 := of_decide_eq_true hcalls
      have hvsync : cb.vsync s.seq s.time = [.invoked cb s.seq s.time] := if_neg hnull
      have hwork : vsyncStep .work s.threads = .ok () { s.threads with
          delivered := s.threads.worker.mCallBack.toList ++ s.threads.delivered
          work := .lock } := by
        show workStep s.threads = _
        unfold workStep
        rw [get_bind, hpc]
        rfl
      refine ⟨cb, { s.threads with
        delivered := s.threads.worker.mCallBack.toList ++ s.threads.delivered
        work := .lock }, ?_⟩
      unfold loopStep
      rw [hwork]
      unfold advance
      dsimp only
      rw [hpc, hcb]
      dsimp only
      rw [hvsync]
      rfl
  · exact absurd hcalls (by simp)

/-- What libdrm answers when a wait fails is never the time of a vblank. -/
theorem callsSoundly_of_law (h : s.Told) {x : VsyncAct × VBlankAnswer} (hlaw : TellsTruth s x)
    (hlib : ∀ a ∈ lastAnswer s.log, a.OfLibdrm) : CallsSoundly s x := by
  obtain ⟨act, a⟩ := x
  rintro rfl hcalls
  obtain ⟨cb, t, hstep⟩ := loopStep_calls (a := a) hcalls
  obtain ⟨⟨r, -, -, hns⟩, -⟩ := (hlaw.of_ok hstep).truthful
  have hpc : s.threads.work = .callBack := by
    unfold calls at hcalls
    split at hcalls
    · next hpc _ => exact hpc
    · exact absurd hcalls (by simp)
  obtain ⟨last, hlast, hfail, -⟩ := h.answered hpc
  refine ⟨last, hlast, ?_⟩
  rcases hlib last hlast with hret | hsound
  · have htime : s.time = 2 ^ 64 - 1 := by
      rw [hfail (by omega), hret]
      decide
    unfold VBlankReply.ns at hns
    rw [htime] at hns
    omega
  · exact hsound

theorem lastAnswer_step (x : VsyncAct × VBlankAnswer) :
    Post (loopStep x) s (fun _ s' => ∀ a ∈ lastAnswer s'.log, a ∈ lastAnswer s.log ∨ a = x.2)
      (fun _ _ => True) := by
  apply post_loopStep
  apply (post_self (vsyncStep x.1) s.threads).mono
  · intro _ t _ a ha
    unfold advance at ha
    split at ha
    · split at ha
      · exact Or.inr (Option.some.inj ha).symm
      · split at ha
        · next cb _ =>
            unfold VsyncCallBack.vsync at ha
            split at ha
            · exact Or.inl ha
            · exact Or.inl ha
        · exact Or.inl ha
      all_goals exact Or.inl ha
    all_goals exact Or.inl ha
  · exact fun _ _ _ => trivial

end VsyncLoop

/-- **The vblank callback.** A run of the threads tells the callback the truth when every call
comes after a wait that has succeeded; and with the answers of libdrm it does so only then. -/
theorem vblank_iff (fd : Int) (acts : List (VsyncAct × VBlankAnswer)) :
    (Meets loopStep CallsSoundly { threads := { fd } } acts →
      Meets loopStep TellsTruth { threads := { fd } } acts) ∧
    ((∀ x ∈ acts, x.2.OfLibdrm) → Meets loopStep TellsTruth { threads := { fd } } acts →
      Meets loopStep CallsSoundly { threads := { fd } } acts) := by
  constructor
  · intro hcalls
    refine meets_imp (I := VsyncLoop.Told) ?_ ?_ (VsyncLoop.told_start fd) hcalls
    · exact fun s x h hx => VsyncLoop.told_step h hx
    · intro s x h hx
      exact (VsyncLoop.told_step h hx).mono (fun _ _ h' => h'.law) (fun _ _ _ => trivial)
  · intro hlib hlaw
    let I : VsyncLoop → Prop := fun s => s.Told ∧ ∀ a ∈ lastAnswer s.log, a.OfLibdrm
    have hstart : I { threads := { fd } } :=
      ⟨VsyncLoop.told_start fd, fun a ha => absurd ha (by simp [lastAnswer])⟩
    refine meets_imp (I := I) ?_ ?_ hstart (hlaw.and_mem hlib)
    · rintro s x ⟨h, hlast⟩ ⟨hx, hxlib⟩
      have hsound := VsyncLoop.callsSoundly_of_law h hx hlast
      apply ((VsyncLoop.told_step h hsound).and (VsyncLoop.lastAnswer_step x)).mono
      · rintro _ s' ⟨h', hold⟩
        refine ⟨h', fun a ha => ?_⟩
        rcases hold a ha with hmem | rfl
        · exact hlast a hmem
        · exact hxlib
      · exact fun _ _ _ => trivial
    · rintro s x ⟨h, hlast⟩ ⟨hx, -⟩
      exact VsyncLoop.callsSoundly_of_law h hx hlast

/-- The thread is started, vsync enabled and a callback registered, and the worker comes
round to the wait. -/
def underway : List (VsyncAct × VBlankAnswer) :=
  [.init, .init, .init, .reqesterVBlankCb (some ⟨1, 0⟩), .enableVsync true, .work, .work,
    .work].map fun act => (act, ⟨0, ⟨0, 0, 0⟩⟩)

/-- A vblank that is reported. -/
theorem vblank_underway :
    Meets loopStep TellsTruth { threads := { fd := 5 } }
      (underway ++ [(.work, ⟨0, ⟨7, 3, 250⟩⟩), (.work, ⟨0, ⟨0, 0, 0⟩⟩)]) :=
  (vblank_iff 5 _).1 (by decide)

/-- **A wait that fails is reported as a vblank.** -/
theorem vblank_failed :
    ¬ Meets loopStep TellsTruth { threads := { fd := 5 } }
      (underway ++ [(.work, ⟨-1, ⟨0, 0, 0⟩⟩), (.work, ⟨0, ⟨0, 0, 0⟩⟩)]) := by
  rintro ⟨-, -, -, -, -, -, -, -, -, hlaw, -⟩
  obtain ⟨⟨r, hfresh, -⟩, -⟩ := VBlankLaw.truthful hlaw
  exact List.not_mem_nil hfresh

end QemuHal
