import QemuHal.Mpp.Encoder

/-!
# Resource discipline of the encoder

Almost every call is followed by an early return. `discipline_iff` says for which answers
each function gives back all it has acquired and does not return.
-/

namespace QemuHal.Mpp

open Exec Checked Ledger

/-! ## The law -/

/-- The reference structure of a GOP is not one of the objects the law is about. -/
def Handle.Counted (h : Handle) : Prop := h ≠ .refCfg

/-- What a call acquires it releases once, unless it returns it. A call that never returns
owes nothing. -/
def Disciplined {α : Type} (m : Enc α) (kept : α → List Handle) : Prop :=
  Post m {} (fun r s => Balanced Handle.Counted (kept r) s.log)
    (fun e s => e = .nullDeref → Balanced Handle.Counted [] s.log)

/-- What the context returned by `hal_mpp_ctx_create` keeps. -/
def keptBy (ctx : Option MpiEncTestData) : List Handle := (ctx.map MpiEncTestData.handles).getD []

/-! ## Creating a context -/

/-- Every call that `hal_mpp_ctx_create` makes to submit the settings succeeds. -/
def CreateAnswers.Submits (a : CreateAnswers) (env : MppEnv) (type : UInt32) : Prop :=
  a.control .setCfg = 0 ∧ a.control (.setSeiCfg seiModeOneFrame) = 0 ∧
    (AvcOrHevc type → a.control (.setHeaderMode headerModeEachIdr) = 0) ∧
    (mppEnvGetU32 env "gop_mode" 0 ≠ 0 → a.control .setRefCfg = 0)

/-- After `calloc`, every call that `hal_mpp_ctx_create` makes succeeds. -/
def CreateAnswers.Succeeds (a : CreateAnswers) (env : MppEnv) (cmd : MpiEncTestArgs) : Prop :=
  a.bufferGroupGetInternal = 0 ∧ a.bufferGet (fillCtx cmd).value.frameSize = 0 ∧
    a.mppCreate = 0 ∧ a.control (.setOutputTimeout mppPollBlock) = 0 ∧ a.mppInit cmd.type = 0 ∧
    a.encCfgInit = 0 ∧ a.Submits env cmd.type

section
variable {env : MppEnv} {p : MpiEncTestData} {a : CreateAnswers} {s : Call}

theorem setRates_post : Post (setRates p) s (fun _ s' => s'.log = s.log) (fun _ _ => False) := by
  unfold setRates compute mppEncCfgSet
  rw [post_ite]
  split <;> simp

theorem writeSettings_post :
    Post (writeSettings env p) s
      (fun q s' => s'.log = s.log ∧ q.handles = p.handles ∧ q.type = p.type ∧
        q.gopMode = p.gopMode) (fun _ _ => False) := by
  unfold writeSettings compute mppEncCfgSet
  simp only [post_bind, post_modifyGet, post_modify, post_pure]
  refine setRates_post.mono ?_ (fun _ _ h => h)
  intro _ s' hlog
  exact ⟨hlog, rfl, rfl, rfl⟩

/-- Only the reference structure is touched. -/
def SameBut (h : Handle) (log log' : List (Entry Handle)) : Prop :=
  ∀ x, x ≠ h → (x ∈ outstanding log' ↔ x ∈ outstanding log)

theorem setupRefCfg_post (hs : Proper s.log) (href : .refCfg ∉ outstanding s.log) :
    Post (setupRefCfg env 0 a) s
      (fun ret s' => Proper s'.log ∧ SameBut .refCfg s.log s'.log ∧
        (ret = 0 ↔ (mppEnvGetU32 env "gop_mode" 0 ≠ 0 → a.control .setRefCfg = 0)))
      (fun _ _ => False) := by
  have hsame : SameBut .refCfg s.log s.log := fun _ _ => Iff.rfl
  have hacq := hs.acquire href
  have hrel := hacq.release (r := .refCfg) (by simp)
  have hacqSame : SameBut .refCfg s.log (.acquire .refCfg :: s.log) := fun x hx => by simp [hx]
  have hrelSame : SameBut .refCfg s.log (.release .refCfg :: .acquire .refCfg :: s.log) :=
    fun x hx => by simp [hacq.mem_outstanding_release, hx]
  have hzero : Int32.toUInt32 0 = 0 := rfl
  unfold setupRefCfg setupRefCfg.initRefCfg acquire
  by_cases hgop : mppEnvGetU32 env "gop_mode" 0 = 0
  case pos => simp [hzero, hgop, hs, hsame]
  by_cases hinit : a.refCfgInit = 0 <;> by_cases hctl : a.control .setRefCfg = 0
  · simp [release, hzero, hgop, hinit, hctl, hrel, hrelSame]
  · simp [hzero, hgop, hinit, hctl, hacq, hacqSame]
  · simp [release, hzero, hgop, hinit, hctl, hs, hsame]
  · simp [hzero, hgop, hinit, hctl, hs, hsame]

theorem submitSettings_post (hs : Proper s.log) (href : .refCfg ∉ outstanding s.log)
    (hgop : p.gopMode = 0) :
    Post (submitSettings env p a) s
      (fun r s' => Proper s'.log ∧ SameBut .refCfg s.log s'.log ∧ r.2.handles = p.handles ∧
        (r.1 = 0 ↔ a.Submits env p.type)) (fun _ _ => False) := by
  have hsame : SameBut .refCfg s.log s.log := fun _ _ => Iff.rfl
  unfold submitSettings CreateAnswers.Submits
  by_cases hcfg : a.control .setCfg = 0
  case neg => simp [hcfg, hs, hsame]
  by_cases hsei : a.control (.setSeiCfg seiModeOneFrame) = 0
  case neg => simp [hcfg, hsei, hs, hsame, MpiEncTestData.handles]
  by_cases htype : AvcOrHevc p.type ∧ a.control (.setHeaderMode headerModeEachIdr) ≠ 0
  case pos => simp [hcfg, hsei, htype, hs, hsame, MpiEncTestData.handles]
  have hhdr : AvcOrHevc p.type → a.control (.setHeaderMode headerModeEachIdr) = 0 := by
    simpa using htype
  rw [if_neg (not_not_intro hcfg)]
  dsimp only
  rw [if_neg (not_not_intro hsei), if_neg htype, hgop]
  simp only [post_bind, post_pure]
  refine (setupRefCfg_post hs href).mono ?_ (fun _ _ h => h)
  rintro ret s' ⟨hproper, hlog, hret⟩
  refine ⟨hproper, hlog, rfl, ?_⟩
  rw [hret]
  exact ⟨fun h => ⟨hcfg, hsei, hhdr, h⟩, fun h => h.2.2.2⟩

theorem testMppEncCfgSetup_post (hs : Proper s.log) (href : .refCfg ∉ outstanding s.log)
    (hgop : p.gopMode = 0) :
    Post (testMppEncCfgSetup env p a) s
      (fun r s' => Proper s'.log ∧ SameBut .refCfg s.log s'.log ∧ r.2.handles = p.handles ∧
        (r.1 = 0 ↔ a.Submits env p.type)) (fun _ _ => False) := by
  unfold testMppEncCfgSetup
  rw [post_bind]
  refine writeSettings_post.mono ?_ (fun _ _ h => h)
  rintro q s₁ ⟨hlog, hhandles, htype, hq⟩
  rw [← hlog] at hs href
  refine (submitSettings_post (p := q) hs href (hq.trans hgop)).mono ?_ (fun _ _ h => h)
  rintro r s₂ ⟨hproper, hsame, hr, hret⟩
  rw [hlog] at hsame
  rw [htype] at hret
  exact ⟨hproper, hsame, hr.trans hhandles, hret⟩

/-- Of the objects the law is about, those of the list are outstanding. -/
structure Holding (hs : List Handle) (s : Call) : Prop where
  proper : Proper s.log
  nodup : hs.Nodup
  counted : ∀ h ∈ hs, h.Counted
  mem_iff : ∀ h, h.Counted → (h ∈ outstanding s.log ↔ h ∈ hs)

@[simp] theorem fillCtx_type (cmd : MpiEncTestArgs) : (fillCtx cmd).value.type = cmd.type := rfl

/-- With an argument and memory for the context, the context structure is outstanding when
`hal_mpp_ctx_create` returns, and a context that is returned holds it and all the rest. -/
theorem halMppCtxCreate_post {cmd : MpiEncTestArgs} (hcalloc : a.calloc = true) :
    Post (halMppCtxCreate env (some cmd) a) {}
      (fun r s => Proper s.log ∧ .data ∈ outstanding s.log ∧
        (∀ p, r = some p → Holding p.handles s) ∧
        (r.isSome = true ↔ a.Succeeds env cmd)) (fun _ _ => False) := by
  unfold halMppCtxCreate testCtxInit CreateAnswers.Succeeds acquire compute
  by_cases hgrp : a.bufferGroupGetInternal = 0
  case neg => simp [hcalloc, deref, hgrp, Proper, outstanding]
  by_cases hbuf : a.bufferGet (fillCtx cmd).value.frameSize = 0
  case neg => simp [hcalloc, deref, hgrp, hbuf, Proper, outstanding]
  by_cases hcreate : a.mppCreate = 0
  case neg => simp [hcalloc, deref, hgrp, hbuf, hcreate, Proper, outstanding]
  by_cases htimeout : a.control (.setOutputTimeout mppPollBlock) = 0
  case neg => simp [hcalloc, deref, hgrp, hbuf, hcreate, htimeout, Proper, outstanding]
  by_cases hinit : a.mppInit cmd.type = 0
  case neg => simp [hcalloc, deref, hgrp, hbuf, hcreate, htimeout, hinit, Proper, outstanding]
  by_cases hcfg : a.encCfgInit = 0
  case neg =>
    simp [hcalloc, deref, hgrp, hbuf, hcreate, htimeout, hinit, hcfg, Proper, outstanding]
  simp only [hcalloc, deref, hgrp, hbuf, hcreate, htimeout, hinit, hcfg, ne_eq, not_true_eq_false,
    Bool.true_eq_false, ↓reduceIte, post_bind, post_modify, post_modifyGet, post_pure, true_and,
    fillCtx_type]
  refine (testMppEncCfgSetup_post (by simp [Proper, outstanding]) (by simp [outstanding])
    rfl).mono ?_ (fun _ _ h => h)
  rintro ⟨ret, q⟩ s' ⟨hproper, hsame, hhandles, hret⟩
  have hdata : .data ∈ outstanding s'.log := (hsame .data (by decide)).2 (by simp [outstanding])
  dsimp only at hhandles hret ⊢
  by_cases hzero : ret = 0
  case neg =>
    have hno : ¬ a.Submits env cmd.type := fun h => hzero (hret.2 h)
    simp [hzero, hproper, hdata, hno]
  rw [if_neg (not_not_intro hzero), post_pure]
  refine ⟨hproper, hdata, ?_, by simpa using hret.1 hzero⟩
  rintro _ ⟨⟩
  have hlist : q.handles = [.ctx, .cfg, .pktBuf, .bufGrp, .data] := hhandles
  rw [hlist]
  refine ⟨hproper, by decide, ?_, fun h hcounted => ?_⟩
  · rintro h hh rfl
    exact absurd hh (by decide)
  · rw [hsame h hcounted]
    simp [outstanding, or_left_comm]

end

/-- A context is created cleanly when nothing is acquired or every call succeeds. -/
def CreateAnswers.Clean (a : CreateAnswers) (env : MppEnv) : Option MpiEncTestArgs → Prop
  | none => True
  | some cmd => a.calloc = false ∨ a.Succeeds env cmd

theorem create_disciplined_iff (env : MppEnv) (args : Option MpiEncTestArgs)
    (a : CreateAnswers) :
    Disciplined (halMppCtxCreate env args a) keptBy ↔ a.Clean env args := by
  cases args with
  | none =>
      simp [Disciplined, halMppCtxCreate, testCtxInit, deref, CreateAnswers.Clean, balanced_nil]
  | some cmd =>
      cases hcalloc : a.calloc with
      | false =>
          simp [Disciplined, halMppCtxCreate, testCtxInit, deref, CreateAnswers.Clean, hcalloc,
            balanced_nil]
      | true =>
          obtain ⟨r, s, hrun, hproper, hdata, hheld, hsome⟩ :=
            (@halMppCtxCreate_post env a cmd hcalloc).exists_ok
          unfold Disciplined
          rw [post_iff_of_ok hrun, hproper.balanced_iff]
          simp only [CreateAnswers.Clean, hcalloc, Bool.true_eq_false, false_or, ← hsome]
          cases r with
          | none =>
              simp only [Option.isSome_none, Bool.false_eq_true, iff_false]
              intro h
              simpa [keptBy] using h .data hdata (by simp [Handle.Counted])
          | some p =>
              simpa [keptBy] using fun h hh hcounted => ((hheld p rfl).mem_iff h hcounted).1 hh

/-! ## Deleting a context -/

section
variable {s : Call}

theorem release_holding {h : Option Handle} {hs : List Handle}
    (hold : Holding (h.toList ++ hs) s) :
    Post (release h) s (fun _ s' => Holding hs s') (fun _ _ => False) := by
  cases h with
  | none => exact hold
  | some h =>
      obtain ⟨hproper, hnodup, hcounted, hmem⟩ := hold
      have hh : h.Counted := hcounted h (by simp)
      have hfree : h ∉ hs := (List.nodup_cons.1 hnodup).1
      refine ⟨hproper.release ((hmem h hh).2 (by simp)), (List.nodup_cons.1 hnodup).2,
        fun x hx => hcounted x (by simp [hx]), fun x hx => ?_⟩
      rw [hproper.mem_outstanding_release, hmem x hx]
      constructor
      · rintro ⟨hne, hin⟩
        simpa [hne] using hin
      · intro hin
        exact ⟨fun he => hfree (he ▸ hin), by simp [hin]⟩

/-- Everything the context holds is given back. -/
theorem halMppCtxDelete_holding {p : MpiEncTestData} (hold : Holding p.handles s) :
    Post (halMppCtxDelete (some p)) s (fun _ s' => Holding [] s') (fun _ _ => False) := by
  unfold halMppCtxDelete testMppCtxCleanup
  simp only [post_bind]
  refine (release_holding hold).mono (fun _ s₁ h₁ => ?_) (fun _ _ h => h)
  refine (release_holding h₁).mono (fun _ s₂ h₂ => ?_) (fun _ _ h => h)
  refine (release_holding h₂).mono (fun _ s₃ h₃ => ?_) (fun _ _ h => h)
  refine (release_holding h₃).mono (fun _ s₄ h₄ => ?_) (fun _ _ h => h)
  exact release_holding (h := some .data) h₄

end

/-- Over the life of a context, what `hal_mpp_ctx_create` acquires is released once, under
the same condition. -/
theorem lifetime_disciplined (env : MppEnv) (args : Option MpiEncTestArgs) (a : CreateAnswers)
    (h : a.Clean env args) :
    Disciplined (do let ctx ← halMppCtxCreate env args a; halMppCtxDelete ctx) (fun _ => []) := by
  unfold Disciplined
  rw [post_bind]
  cases args with
  | none => simp [halMppCtxCreate, testCtxInit, deref, balanced_nil]
  | some cmd =>
      rcases h with hcalloc | hsucc
      · simp [halMppCtxCreate, testCtxInit, deref, hcalloc, balanced_nil]
      cases hcalloc : a.calloc with
      | false => simp [halMppCtxCreate, testCtxInit, deref, hcalloc, balanced_nil]
      | true =>
          refine (halMppCtxCreate_post hcalloc).mono ?_ (fun _ _ h => h.elim)
          rintro r s ⟨-, -, hheld, hsome⟩
          obtain ⟨p, rfl⟩ := Option.isSome_iff_exists.1 (hsome.2 hsucc)
          refine (halMppCtxDelete_holding (hheld p rfl)).mono ?_ (fun _ _ h => h.elim)
          intro _ s' hnone
          rw [hnone.proper.balanced_iff]
          exact fun x hx hcounted => (hnone.mem_iff x hcounted).1 hx

/-! ## The stream header -/

/-- The packet initialised is given back unless `memcpy_s` is called and fails. -/
def SpsAnswers.Clean (a : SpsAnswers) (bufSize : UInt64) : Option MpiEncTestData → Prop
  | none => True
  | some p =>
      a.packetInit = none ∨ (AvcOrHevc p.type ∧ a.control .getHdrSync ≠ 0) ∨
        bufSize < UInt64.ofNat a.output.length ∨ a.memcpyS = 0

theorem getSps_disciplined_iff (ctx : Option MpiEncTestData) (bufSize : UInt64)
    (a : SpsAnswers) :
    Disciplined (halMppGetSps ctx bufSize a) (fun _ => []) ↔ a.Clean bufSize ctx := by
  cases ctx with
  | none => simp [Disciplined, halMppGetSps, SpsAnswers.Clean, balanced_nil]
  | some p =>
      unfold Disciplined halMppGetSps SpsAnswers.Clean packetInitWithBuffer acquire release
      by_cases hhdr : AvcOrHevc p.type ∧ a.control .getHdrSync ≠ 0 <;>
      by_cases hlen : bufSize < UInt64.ofNat a.output.length <;>
      by_cases hcopy : a.memcpyS = 0 <;>
      cases a.packetInit <;>
        simp [hhdr, hlen, hcopy, balanced_nil, balanced_acquire, balanced_release, Handle.Counted]

/-! ## The frames -/

/-- The packets the loop is handed until it ends. -/
def handed : List PacketAnswer → UInt32 → List Nat
  | [], _ => []
  | x :: xs, eoi =>
      if x.ret < 0 then []
      else if x.ret ≠ 0 then [x.packet]
      else
        let eoi := if x.isPartition then x.isEoi else eoi
        x.packet :: if eoi ≠ 0 then [] else handed xs eoi

/-- What the loop ends with, if it ends: `0` at the end of the image, or an error. -/
def ending : List PacketAnswer → UInt32 → Option MppRet
  | [], _ => none
  | x :: xs, eoi =>
      if x.ret ≠ 0 then some x.ret
      else
        let eoi := if x.isPartition then x.isEoi else eoi
        if eoi ≠ 0 then some 0 else ending xs eoi

/-- The numbers of the packets that are held together. -/
def EncodeAnswers.held (a : EncodeAnswers) : List Nat :=
  a.packetInit.toList ++ handed a.encodeGetPacket 1

/-- The image is complete in one packet that fits the caller's buffer. -/
def EncodeAnswers.Copies (a : EncodeAnswers) (bufSize : UInt64) : Prop :=
  ending a.encodeGetPacket 1 = some 0 ∧
    UInt32.ofNat (handed a.encodeGetPacket 1).length = 1 ∧
    UInt64.ofNat a.output.length ≤ bufSize

/-- The frame is imported and initialised or neither, all packets are one, and `memcpy_s`
does not fail. -/
def EncodeAnswers.Clean (a : EncodeAnswers) (dmaFd : Int) (bufSize : UInt64) :
    Option MpiEncTestData → Prop
  | none => True
  | some p =>
      a.memsetS ≠ 0 ∨ a.bufferImport (p.importInfo dmaFd) ≠ 0 ∨
        (a.frameInit = 0 ∧
          (a.encodePutFrame (testMppFrameSetParam p (some .camBuf)) ≠ 0 ∨
            ending a.encodeGetPacket 1 = none ∨
            ((∀ x ∈ a.held, ∀ y ∈ a.held, x = y) ∧ (a.Copies bufSize → a.memcpyS = 0))))

section
variable {s : Call}

/-- Receiving a packet makes sure it is held. -/
theorem receive_post {id : Nat} (hs : Proper s.log) :
    Post (receive id) s
      (fun _ s' => Proper s'.log ∧
        ∀ h, h ∈ outstanding s'.log ↔ h ∈ outstanding s.log ∨ h = .packet id)
      (fun _ _ => False) := by
  unfold receive
  rw [post_modify]
  split
  · next hheld =>
      refine ⟨hs, fun h => ⟨Or.inl, ?_⟩⟩
      rintro (h | rfl)
      · exact h
      · exact hheld
  · next hfree => exact ⟨hs.acquire hfree, fun h => mem_outstanding_acquire.trans or_comm⟩

theorem fetch_post (xs : List PacketAnswer) (eoi : UInt32) (f : Fetched) (hs : Proper s.log) :
    Post (fetch xs eoi f) s
      (fun r s' => Proper s'.log ∧
        (∀ h, h ∈ outstanding s'.log ↔
          h ∈ outstanding s.log ∨ ∃ id ∈ handed xs eoi, h = .packet id) ∧
        ending xs eoi = some r.ret ∧
        r.packet = ((handed xs eoi).getLast?.map Handle.packet).or f.packet ∧
        (r.ret = 0 → r.packetNum = f.packetNum + UInt32.ofNat (handed xs eoi).length))
      (fun e _ => e = .blocked ∧ ending xs eoi = none) := by
  induction xs generalizing s eoi f with
  | nil => exact ⟨rfl, rfl⟩
  | cons x xs ih =>
      unfold fetch
      by_cases hneg : x.ret < 0
      · have hne : x.ret ≠ 0 := Int.ne_of_lt hneg
        simp [handed, ending, hneg, hne, hs]
      rw [if_neg hneg, post_bind]
      refine (receive_post hs).mono ?_ (fun _ _ h => h.elim)
      rintro - s₁ ⟨hproper, hout⟩
      by_cases hret : x.ret = 0
      case neg => simp [handed, ending, hneg, hret, hproper, hout]
      by_cases hend : (if x.isPartition then x.isEoi else eoi) = 0
      case neg => simp [handed, ending, hret, hend, hproper, hout]
      -- a partition that does not end the image: the loop goes on
      have hnum (n : Nat) : f.packetNum + 1 + UInt32.ofNat n =
          f.packetNum + UInt32.ofNat (n + 1) := by
        rw [UInt32.ofNat_add, UInt32.add_assoc, UInt32.add_comm 1]
        rfl
      have hhanded : handed (x :: xs) eoi = x.packet :: handed xs 0 := by
        simp [handed, hret, hend]
      have hrest : ending (x :: xs) eoi = ending xs 0 := by simp [ending, hret, hend]
      rw [hhanded, hrest]
      simp only [hret, hend]
      refine (ih 0 _ hproper).mono ?_ (fun _ _ h => h)
      rintro r s₂ ⟨hproper₂, hout₂, hending, hpacket, hcount⟩
      refine ⟨hproper₂, fun h => ?_, hending, ?_, fun hr => ?_⟩
      · rw [hout₂, hout]
        simp [or_assoc]
      · rw [hpacket]
        cases handed xs 0 with
        | nil => rfl
        | cons y ys => simp [List.getLast?_cons]
      · rw [hcount hr, hnum]
        rfl

theorem packetInitWithBuffer_post {x : Option Nat} {Q : Option Handle → Call → Prop}
    {E : Fault → Call → Prop} :
    Post (packetInitWithBuffer x) s Q E ↔ Q (x.map Handle.packet)
      { s with log := (x.toList.map fun id => .acquire (.packet id)) ++ s.log } := by
  cases x <;> exact Iff.rfl

/-- Of the packets held, only the last one is given back. -/
theorem giveBack_balanced_iff {held : List Nat} {E : Fault → Call → Prop}
    (hs : Proper s.log)
    (hout : ∀ h, h ∈ outstanding s.log ↔ h = .camBuf ∨ ∃ id ∈ held, h = .packet id) :
    Post (release (some .camBuf)) s
        (fun _ s₁ => Post (release (held.getLast?.map Handle.packet)) s₁
          (fun _ s₂ => Balanced Handle.Counted [] s₂.log) E) E ↔
      ∀ x ∈ held, ∀ y ∈ held, x = y := by
  have hcam := hs.release ((hout .camBuf).2 (Or.inl rfl))
  have houtCam : ∀ h, h ∈ outstanding (.release .camBuf :: s.log) ↔
      ∃ id ∈ held, h = .packet id := by
    intro h
    rw [hs.mem_outstanding_release, hout]
    constructor
    · rintro ⟨hne, rfl | hid⟩
      · exact absurd rfl hne
      · exact hid
    · rintro ⟨id, hid, rfl⟩
      exact ⟨by simp, Or.inr ⟨id, hid, rfl⟩⟩
  rcases List.eq_nil_or_concat held with rfl | ⟨init, z, rfl⟩
  · simp only [release, post_modify, post_pure, List.getLast?_nil, Option.map_none,
      hcam.balanced_iff, houtCam]
    simp
  · have hz := hcam.release ((houtCam (.packet z)).2 ⟨z, by simp, rfl⟩)
    simp only [release, post_modify, List.concat_eq_append,
      List.getLast?_append, List.getLast?_singleton, Option.some_or, Option.map_some,
      hz.balanced_iff, hcam.mem_outstanding_release, houtCam]
    constructor
    · intro h
      have hlast : ∀ x ∈ init ++ [z], x = z := by
        intro x hx
        by_contra hne
        have hnil := h (.packet x) ⟨by simpa using hne, x, hx, rfl⟩ (by simp [Handle.Counted])
        exact absurd hnil List.not_mem_nil
      intro x hx y hy
      exact (hlast x hx).trans (hlast y hy).symm
    · rintro h r ⟨hne, id, hid, rfl⟩ -
      exact absurd (congrArg Handle.packet (h id hid z (by simp))) hne

theorem deliver_balanced_iff {held : List Nat} {f : Fetched} {bufSize : UInt64}
    {a : EncodeAnswers} {E : Fault → Call → Prop} (hs : Proper s.log)
    (hout : ∀ h, h ∈ outstanding s.log ↔ h = .camBuf ∨ ∃ id ∈ held, h = .packet id)
    (hpacket : f.packet = held.getLast?.map Handle.packet) :
    Post (deliver f bufSize a) s (fun _ s' => Balanced Handle.Counted [] s'.log) E ↔
      (∀ x ∈ held, ∀ y ∈ held, x = y) ∧
        (f.ret = 0 ∧ f.packetNum = 1 ∧ UInt64.ofNat a.output.length ≤ bufSize →
          a.memcpyS = 0) := by
  have hleak : ¬ Balanced Handle.Counted [] s.log := by
    rw [hs.balanced_iff]
    exact fun h => List.not_mem_nil (h .camBuf ((hout _).2 (Or.inl rfl)) (by simp [Handle.Counted]))
  unfold deliver
  rw [hpacket]
  by_cases hret : f.ret = 0
  case neg => simp [hret, giveBack_balanced_iff hs hout]
  by_cases hnum : f.packetNum = 1
  case neg => simp [hret, hnum, giveBack_balanced_iff hs hout]
  by_cases hlen : bufSize < UInt64.ofNat a.output.length
  case pos =>
    have hlen' := UInt64.not_le.2 hlen
    simp [hret, hnum, hlen, hlen', giveBack_balanced_iff hs hout]
  have hlen' := UInt64.not_lt.1 hlen
  by_cases hcopy : a.memcpyS = 0
  · simp [hret, hnum, hlen, hlen', hcopy, giveBack_balanced_iff hs hout]
  · simp [hret, hnum, hlen, hlen', hcopy, hleak]

end

/-- The ledger when the loop starts. -/
def submittedLog (packet : Option Nat) : List (Entry Handle) :=
  .release .frame ::
    ((packet.toList.map fun id => .acquire (.packet id)) ++ [.acquire .frame, .acquire .camBuf])

theorem proper_submittedLog (packet : Option Nat) : Proper (submittedLog packet) := by
  cases packet <;> simp [submittedLog, Proper, outstanding]

theorem mem_outstanding_submittedLog {packet : Option Nat} {h : Handle} :
    h ∈ outstanding (submittedLog packet) ↔
      h = .camBuf ∨ ∃ id ∈ packet.toList, h = .packet id := by
  cases packet <;> simp [submittedLog, outstanding, or_comm]

/-- A frame that is not taken leaves nothing behind. -/
theorem unsubmitted_balanced {s : Call} {packet : Option Nat} {E : Fault → Call → Prop}
    (hs : s.log = submittedLog packet) :
    Post (release (some .camBuf)) s
      (fun _ s₁ => Post (release (packet.map Handle.packet)) s₁
        (fun _ s₂ => Balanced Handle.Counted [] s₂.log) E) E := by
  have hlast : packet.map Handle.packet = packet.toList.getLast?.map Handle.packet := by
    cases packet <;> rfl
  rw [hlast, giveBack_balanced_iff (hs ▸ proper_submittedLog packet)
    (by rw [hs]; exact fun _ => mem_outstanding_submittedLog)]
  cases packet <;> simp

/-- The loop, from the submitted frame on, and what follows it. -/
theorem fetch_deliver_balanced_iff {s : Call} {a : EncodeAnswers} {bufSize : UInt64}
    {frameCount : Int32} (hs : s.log = submittedLog a.packetInit) :
    Post (fetch a.encodeGetPacket 1
          { ret := 0, packet := a.packetInit.map .packet, packetNum := 0, frameCount }) s
        (fun f s₁ => Post (deliver f bufSize a) s₁
          (fun _ s₂ => Balanced Handle.Counted [] s₂.log)
          (fun e s₂ => e = .nullDeref → Balanced Handle.Counted [] s₂.log))
        (fun e s₁ => e = .nullDeref → Balanced Handle.Counted [] s₁.log) ↔
      ending a.encodeGetPacket 1 = none ∨
        ((∀ x ∈ a.held, ∀ y ∈ a.held, x = y) ∧ (a.Copies bufSize → a.memcpyS = 0)) := by
  have hpost := fetch_post a.encodeGetPacket 1
    { ret := 0, packet := a.packetInit.map .packet, packetNum := 0, frameCount }
    (s := s) (hs ▸ proper_submittedLog _)
  generalize hf : fetch a.encodeGetPacket 1
    { ret := 0, packet := a.packetInit.map .packet, packetNum := 0, frameCount } = m at hpost ⊢
  cases hrun : m s with
  | error e s₁ =>
      obtain ⟨rfl, hnone⟩ := hpost.of_error hrun
      simp [Post, hrun, hnone]
  | ok f s₁ =>
      obtain ⟨hproper, hout, hending, hpacket, hcount⟩ := hpost.of_ok hrun
      rw [post_iff_of_ok hrun]
      have hheld : ∀ h, h ∈ outstanding s₁.log ↔ h = .camBuf ∨ ∃ id ∈ a.held, h = .packet id := by
        intro h
        rw [hout, hs, mem_outstanding_submittedLog, or_assoc, EncodeAnswers.held]
        simp only [List.mem_append, or_and_right, exists_or]
      have hlast : f.packet = a.held.getLast?.map Handle.packet := by
        rw [hpacket, EncodeAnswers.held, List.getLast?_append]
        cases (handed a.encodeGetPacket 1).getLast? <;> cases a.packetInit <;> rfl
      have hcopies : (f.ret = 0 ∧ f.packetNum = 1 ∧ UInt64.ofNat a.output.length ≤ bufSize) ↔
          a.Copies bufSize := by
        unfold EncodeAnswers.Copies
        rw [hending, Option.some.injEq]
        refine and_congr_right fun hzero => ?_
        rw [hcount hzero, UInt32.zero_add]
      rw [deliver_balanced_iff hproper hheld hlast, hcopies, hending]
      simp

theorem encode_disciplined_iff (ctx : Option MpiEncTestData) (dmaFd : Int) (bufSize : UInt64)
    (a : EncodeAnswers) :
    Disciplined (halMppEncode ctx dmaFd bufSize a) (fun _ => []) ↔ a.Clean dmaFd bufSize ctx := by
  cases ctx with
  | none => simp [Disciplined, halMppEncode, EncodeAnswers.Clean, balanced_nil]
  | some p =>
      unfold Disciplined halMppEncode EncodeAnswers.Clean
      by_cases hmem : a.memsetS = 0
      case neg => simp [hmem, balanced_nil]
      by_cases himp : a.bufferImport (p.importInfo dmaFd) = 0
      case neg => simp [hmem, himp, balanced_nil]
      by_cases hframe : a.frameInit = 0
      case neg =>
        simp [hmem, himp, hframe, acquire, balanced_acquire, Handle.Counted]
      by_cases hput : a.encodePutFrame (testMppFrameSetParam p (some .camBuf)) = 0
      case neg =>
        simp only [hmem, himp, hframe, hput, acquire, ne_eq, not_true_eq_false,
          not_false_eq_true, ↓reduceIte, post_bind, post_modify, post_pure,
          packetInitWithBuffer_post, true_or, or_true, and_self, iff_true]
        exact unsubmitted_balanced rfl
      simp only [hmem, himp, hframe, hput, acquire, release, ne_eq, not_true_eq_false, ↓reduceIte,
        post_bind, post_modify, post_pure, packetInitWithBuffer_post, false_or, true_and]
      exact fetch_deliver_balanced_iff rfl

/-! ## The three functions -/

/-- A call of `hal_mpp_ctx_create` for which there is no buffer group. -/
def noBufferGroup : CreateAnswers where
  calloc := true
  bufferGroupGetInternal := mppNok
  bufferGet _ := 0
  mppCreate := 0
  mppInit _ := 0
  encCfgInit := 0
  refCfgInit := 0
  control _ := 0

end QemuHal.Mpp
