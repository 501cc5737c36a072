import QemuHal.Lib.Traverse
import QemuHal.Common.Hotplug
import QemuHal.Drm.Plane

/-!
# Picking a CRTC in the common HAL

An encoder starts from its current CRTC, or from one its mask is the bit of, and looks for
another only when that one is bound. What is allowed is an equality in the first search and
a bit test in the second, and for the current CRTC it is not asked; `picking_iff` says when
they agree.
-/

namespace QemuHal.Common.Picking

/-! ## `PickIdleCrtcId` -/

structure DrmCrtc extends Common.DrmCrtc where
  mDisplayId : Nat := invalidDisplayId
deriving DecidableEq, Repr

def DrmCrtc.canBind (crtc : DrmCrtc) : Bool := crtc.mDisplayId = invalidDisplayId

/-- `IdMapPtr<DrmCrtc>`: the entries in the order of its iteration, under their ids. -/
structure CrtcMap where
  entries : List DrmCrtc
  nodup : (entries.map fun c => c.mId).Nodup

def CrtcMap.find (crtcs : CrtcMap) (id : Nat) : Option DrmCrtc :=
  crtcs.entries.find? fun c => c.mId = id

structure DrmEncoder extends Common.DrmEncoder where
  mEncoderId : Nat
deriving DecidableEq, Repr

namespace DrmEncoder

/-- Where the search starts: the current CRTC, or the first one the mask is the bit of. -/
def start (e : DrmEncoder) (crtcs : CrtcMap) : Option DrmCrtc :=
  match crtcs.find e.mCrtcId with
  | some crtc => some crtc
  | none => crtcs.entries.find? fun posCrts => e.picks posCrts.toDrmCrtc

/-- `PickIdleCrtcId`; `none` is `DISPLAY_FAILURE`. -/
def pickIdleCrtcId (e : DrmEncoder) (crtcs : CrtcMap) : Option Nat :=
  match e.start crtcs with
  | none => none
  | some crtc =>
      let crtc := if !crtc.canBind then
          crtcs.entries.foldl (fun (crtc : Option DrmCrtc) (posCrts : DrmCrtc) =>
            if posCrts.canBind && crtcAllowed posCrts.mPipe e.mPossibleCrtcs then some posCrts
            else crtc) none
        else some crtc
      crtc.map fun crtc => crtc.mId

end DrmEncoder

structure DrmConnector where
  mEncoderId : Nat
  mPossibleEncoders : List Nat
deriving DecidableEq, Repr

namespace DrmConnector

def tryPickEncoder (encoders : Nat → Option DrmEncoder) (encoderId : Nat) (crtcs : CrtcMap) :
    Option Nat :=
  match encoders encoderId with
  | none => none
  | some encoder => encoder.pickIdleCrtcId crtcs

def pickIdleCrtcId (c : DrmConnector) (encoders : Nat → Option DrmEncoder) (crtcs : CrtcMap) :
    Option Nat :=
  match tryPickEncoder encoders c.mEncoderId crtcs with
  | some crtcId => some crtcId
  | none => c.mPossibleEncoders.findSome? fun encoder => tryPickEncoder encoders encoder crtcs

end DrmConnector

/-! ## The law -/

/-- The CRTC is allowed by the mask and not bound to a display. -/
def DrmEncoder.Idle (e : DrmEncoder) (crtc : DrmCrtc) : Prop :=
  crtc.canBind = true ∧ crtcAllowed crtc.mPipe e.mPossibleCrtcs = true

def DrmEncoder.HasIdle (e : DrmEncoder) (crtcs : CrtcMap) : Prop :=
  ∃ crtc ∈ crtcs.entries, e.Idle crtc

/-- An encoder picks an idle CRTC exactly when there is one. -/
structure DrmEncoder.PicksIdle (e : DrmEncoder) (crtcs : CrtcMap) : Prop where
  succeeds : (e.pickIdleCrtcId crtcs).isSome = true ↔ e.HasIdle crtcs
  idle : ∀ id ∈ e.pickIdleCrtcId crtcs, ∃ crtc ∈ crtcs.entries, crtc.mId = id ∧ e.Idle crtc

/-- The current encoder of a connector and its possible ones. -/
def DrmConnector.encoders (c : DrmConnector) (encoders : Nat → Option DrmEncoder) :
    List DrmEncoder := (c.mEncoderId :: c.mPossibleEncoders).filterMap encoders

/-- A connector picks a CRTC exactly when one of its encoders has an idle one. -/
def DrmConnector.PicksIdle (c : DrmConnector) (encoders : Nat → Option DrmEncoder)
    (crtcs : CrtcMap) : Prop :=
  (c.pickIdleCrtcId encoders crtcs).isSome = true ↔
    ∃ e ∈ c.encoders encoders, e.HasIdle crtcs

/-- The current CRTC is bound or allowed. If it is not known, the mask is the bit of a CRTC,
or nothing it allows is idle. -/
structure DrmEncoder.Agrees (e : DrmEncoder) (crtcs : CrtcMap) : Prop where
  known : ∀ crtc ∈ crtcs.find e.mCrtcId, crtc.canBind = true →
    crtcAllowed crtc.mPipe e.mPossibleCrtcs = true
  unknown : crtcs.find e.mCrtcId = none → e.HasIdle crtcs →
    ∃ crtc ∈ crtcs.entries, e.picks crtc.toDrmCrtc = true

/-- The current CRTC is not bound; or an idle CRTC is there to be found, and the current one is
known or the mask is the bit of a CRTC. -/
def DrmEncoder.Finds (e : DrmEncoder) (crtcs : CrtcMap) : Prop :=
  (∃ crtc ∈ crtcs.find e.mCrtcId, crtc.canBind = true) ∨
    e.HasIdle crtcs ∧ ((crtcs.find e.mCrtcId).isSome = true ∨
      ∃ crtc ∈ crtcs.entries, e.picks crtc.toDrmCrtc = true)

/-- No encoder of the connector has an unbound current CRTC while none has an idle one; and
if one has an idle one, some encoder finds a CRTC. -/
structure DrmConnector.Agrees (c : DrmConnector) (encoders : Nat → Option DrmEncoder)
    (crtcs : CrtcMap) : Prop where
  stray : ∀ e ∈ c.encoders encoders, ∀ crtc ∈ crtcs.find e.mCrtcId, crtc.canBind = true →
    ∃ e' ∈ c.encoders encoders, e'.HasIdle crtcs
  found : (∃ e ∈ c.encoders encoders, e.HasIdle crtcs) →
    ∃ e ∈ c.encoders encoders, e.Finds crtcs

/-! ## What an encoder picks -/

section
variable {e : DrmEncoder} {crtcs : CrtcMap}

theorem CrtcMap.find_mem {crtcs : CrtcMap} {id : Nat} {crtc : DrmCrtc}
    (h : crtcs.find id = some crtc) : crtc ∈ crtcs.entries :=
  List.mem_of_find?_eq_some h

/-- A CRTC whose bit is the mask is allowed by it. -/
theorem DrmEncoder.allowed_of_picks {crtc : DrmCrtc} (h : e.picks crtc.toDrmCrtc = true) :
    crtcAllowed crtc.mPipe e.mPossibleCrtcs = true := by
  have hmask : e.mPossibleCrtcs = 1 <<< crtc.mPipe := of_decide_eq_true h
  unfold crtcAllowed
  rw [hmask, decide_eq_true_eq, UInt32.and_self]
  intro hzero
  have hnat := congrArg UInt32.toNat hzero
  have hlt : crtc.mPipe.toNat % 32 < 32 := Nat.mod_lt _ (by decide)
  have hpow : 2 ^ (crtc.mPipe.toNat % 32) < 2 ^ 32 := Nat.pow_lt_pow_right (by decide) hlt
  rw [UInt32.toNat_shiftLeft, UInt32.toNat_one, Nat.one_shiftLeft, Nat.mod_eq_of_lt hpow] at hnat
  exact absurd hnat (Nat.two_pow_pos _).ne'

theorem DrmEncoder.start_mem {crtc : DrmCrtc} (h : e.start crtcs = some crtc) :
    crtc ∈ crtcs.entries := by
  unfold start at h
  split at h
  · next hfind =>
      obtain rfl := Option.some.inj h
      exact CrtcMap.find_mem hfind
  · exact List.mem_of_find?_eq_some h

/-- The search for another CRTC finds an idle one if there is one. -/
theorem DrmEncoder.search_spec (e : DrmEncoder) (crtcs : CrtcMap) :
    let found := (crtcs.entries.filter fun c =>
      c.canBind && crtcAllowed c.mPipe e.mPossibleCrtcs).getLast?
    (found.isSome = true ↔ e.HasIdle crtcs) ∧ ∀ crtc ∈ found, crtc ∈ crtcs.entries ∧ e.Idle crtc := by
  dsimp only
  refine ⟨?_, fun crtc hcrtc => ?_⟩
  · rw [List.getLast?_isSome, ne_eq, List.eq_nil_iff_forall_not_mem]
    simp [HasIdle, Idle]
  · have hmem := List.mem_of_getLast? hcrtc
    rw [List.mem_filter, Bool.and_eq_true] at hmem
    exact hmem

/-- **What an encoder picks.** -/
theorem DrmEncoder.pickIdleCrtcId_spec (e : DrmEncoder) (crtcs : CrtcMap) :
    match e.start crtcs with
    | none => e.pickIdleCrtcId crtcs = none
    | some crtc =>
        if crtc.canBind then e.pickIdleCrtcId crtcs = some crtc.mId
        else e.PicksIdle crtcs := by
  unfold pickIdleCrtcId
  cases hstart : e.start crtcs with
  | none => rfl
  | some crtc =>
      dsimp only
      by_cases hbind : crtc.canBind = true
      · simp [hbind]
      · obtain ⟨hsome, hidle⟩ := e.search_spec crtcs
        rw [if_neg hbind]
        have hpick : e.pickIdleCrtcId crtcs = ((crtcs.entries.filter fun c =>
            c.canBind && crtcAllowed c.mPipe e.mPossibleCrtcs).getLast?).map fun c => c.mId := by
          unfold pickIdleCrtcId
          rw [hstart]
          simp only [hbind, Bool.not_false, if_true]
          rw [Traverse.foldl_getLast]
        refine ⟨?_, fun id hid => ?_⟩
        · rw [hpick, Option.isSome_map, hsome]
        · rw [hpick, Option.mem_def, Option.map_eq_some_iff] at hid
          obtain ⟨found, hfound, rfl⟩ := hid
          exact ⟨found, (hidle found hfound).1, rfl, (hidle found hfound).2⟩

/-- An encoder that starts from an unbound CRTC picks that one. -/
theorem DrmEncoder.pick_of_canBind {crtc : DrmCrtc} (hstart : e.start crtcs = some crtc)
    (hbind : crtc.canBind = true) : e.pickIdleCrtcId crtcs = some crtc.mId := by
  have hspec := e.pickIdleCrtcId_spec crtcs
  rw [hstart] at hspec
  dsimp only at hspec
  rwa [if_pos hbind] at hspec

theorem DrmEncoder.picksIdle_of_bound {crtc : DrmCrtc} (hstart : e.start crtcs = some crtc)
    (hbound : ¬ crtc.canBind = true) : e.PicksIdle crtcs := by
  have hspec := e.pickIdleCrtcId_spec crtcs
  rw [hstart] at hspec
  dsimp only at hspec
  rwa [if_neg hbound] at hspec

theorem DrmEncoder.pick_none (hstart : e.start crtcs = none) :
    e.pickIdleCrtcId crtcs = none := by
  have hspec := e.pickIdleCrtcId_spec crtcs
  rwa [hstart] at hspec

theorem DrmEncoder.pick_isSome :
    (e.pickIdleCrtcId crtcs).isSome = true ↔
      ∃ crtc ∈ e.start crtcs, crtc.canBind = true ∨ e.HasIdle crtcs := by
  cases hstart : e.start crtcs with
  | none => simp [pick_none hstart]
  | some crtc =>
      simp only [Option.mem_some_iff, exists_eq_left']
      by_cases hbind : crtc.canBind = true
      · simp [pick_of_canBind hstart hbind, hbind]
      · rw [(picksIdle_of_bound hstart hbind).succeeds]
        exact (or_iff_right hbind).symm

/-- An encoder that starts from its current CRTC. -/
theorem DrmEncoder.start_of_find {crtc : DrmCrtc} (h : crtcs.find e.mCrtcId = some crtc) :
    e.start crtcs = some crtc := by
  unfold start
  rw [h]

theorem DrmEncoder.start_of_unknown (h : crtcs.find e.mCrtcId = none) :
    e.start crtcs = crtcs.entries.find? fun posCrts => e.picks posCrts.toDrmCrtc := by
  unfold start
  rw [h]

/-- A start that is not the current CRTC is allowed. -/
theorem DrmEncoder.idle_of_start {crtc : DrmCrtc} (hunknown : crtcs.find e.mCrtcId = none)
    (hstart : e.start crtcs = some crtc) (hbind : crtc.canBind = true) : e.Idle crtc := by
  rw [start_of_unknown hunknown] at hstart
  have hpicks := List.find?_some hstart
  exact ⟨hbind, allowed_of_picks hpicks⟩

/-- An encoder picks a CRTC exactly when it finds one. -/
theorem DrmEncoder.pick_isSome_iff : (e.pickIdleCrtcId crtcs).isSome = true ↔ e.Finds crtcs := by
  rw [pick_isSome]
  unfold Finds
  cases hknown : crtcs.find e.mCrtcId with
  | some current =>
      rw [start_of_find hknown]
      simp
  | none =>
      rw [start_of_unknown hknown]
      simp only [Option.mem_def, reduceCtorEq, false_and, exists_false, false_or,
        Option.isSome_none, Bool.false_eq_true]
      constructor
      · rintro ⟨crtc, hfind, hor⟩
        have hpicks := List.find?_some hfind
        have hmem := List.mem_of_find?_eq_some hfind
        refine ⟨?_, crtc, hmem, hpicks⟩
        rcases hor with hbind | hidle
        · exact ⟨crtc, hmem, hbind, allowed_of_picks hpicks⟩
        · exact hidle
      · rintro ⟨hidle, crtc, hmem, hpicks⟩
        have hsome : (crtcs.entries.find? fun posCrts => e.picks posCrts.toDrmCrtc).isSome = true :=
          List.find?_isSome.2 ⟨crtc, hmem, hpicks⟩
        obtain ⟨first, hfirst⟩ := Option.isSome_iff_exists.1 hsome
        exact ⟨first, hfirst, Or.inr hidle⟩

theorem DrmEncoder.PicksIdle.agrees (h : e.PicksIdle crtcs) : e.Agrees crtcs where
  known := by
    intro crtc hcrtc hbind
    have hpick := pick_of_canBind (start_of_find hcrtc) hbind
    obtain ⟨found, hfound, hid, hidle⟩ := h.idle crtc.mId hpick
    -- the id names one CRTC only
    obtain rfl : found = crtc :=
      List.inj_on_of_nodup_map crtcs.nodup hfound (CrtcMap.find_mem hcrtc) hid
    exact hidle.2
  unknown := by
    intro hunknown hidle
    obtain ⟨crtc, hcrtc, -⟩ := pick_isSome.1 (h.succeeds.2 hidle)
    rw [start_of_unknown hunknown] at hcrtc
    have hpicks := List.find?_some hcrtc
    exact ⟨crtc, List.mem_of_find?_eq_some hcrtc, hpicks⟩

theorem DrmEncoder.Agrees.picksIdle (h : e.Agrees crtcs) : e.PicksIdle crtcs := by
  cases hstart : e.start crtcs with
  | none =>
      have hunknown : crtcs.find e.mCrtcId = none := by
        by_contra hknown
        obtain ⟨crtc, hcrtc⟩ := Option.ne_none_iff_exists'.1 hknown
        exact absurd ((start_of_find hcrtc).symm.trans hstart) (by simp)
      refine ⟨?_, ?_⟩
      · rw [pick_none hstart]
        refine iff_of_false (by simp) fun hidle => ?_
        obtain ⟨crtc, hmem, hpicks⟩ := h.unknown hunknown hidle
        rw [start_of_unknown hunknown, List.find?_eq_none] at hstart
        exact hstart crtc hmem hpicks
      · rw [pick_none hstart]
        exact fun _ hid => absurd hid (by simp)
  | some crtc =>
      by_cases hbind : crtc.canBind = true
      swap
      · exact picksIdle_of_bound hstart hbind
      · have hidle : e.Idle crtc := by
          cases hknown : crtcs.find e.mCrtcId with
          | none => exact idle_of_start hknown hstart hbind
          | some current =>
              obtain rfl := Option.some.inj ((start_of_find hknown).symm.trans hstart)
              exact ⟨hbind, h.known _ hknown hbind⟩
        have hpick := pick_of_canBind hstart hbind
        have hmem := start_mem hstart
        refine ⟨?_, fun id hid => ⟨crtc, hmem, Option.some.inj (hpick.symm.trans hid), hidle⟩⟩
        rw [hpick]
        exact iff_of_true rfl ⟨crtc, hmem, hidle⟩

end

/-! ## What a connector picks -/

section
variable {c : DrmConnector} {encoders : Nat → Option DrmEncoder} {crtcs : CrtcMap}

/-- A connector succeeds with the first of its encoders that does. -/
theorem DrmConnector.pick_isSome :
    (c.pickIdleCrtcId encoders crtcs).isSome = true ↔
      ∃ e ∈ c.encoders encoders, (e.pickIdleCrtcId crtcs).isSome = true := by
  have hall : c.pickIdleCrtcId encoders crtcs = (c.mEncoderId :: c.mPossibleEncoders).findSome?
      fun id => tryPickEncoder encoders id crtcs := by
    unfold pickIdleCrtcId
    rw [List.findSome?_cons]
    cases tryPickEncoder encoders c.mEncoderId crtcs <;> rfl
  have htry : ∀ id, tryPickEncoder encoders id crtcs =
      (encoders id).bind fun e => e.pickIdleCrtcId crtcs := by
    intro id
    unfold tryPickEncoder
    cases encoders id <;> rfl
  rw [hall, List.findSome?_isSome_iff]
  unfold DrmConnector.encoders
  constructor
  · rintro ⟨id, hid, hsome⟩
    rw [htry] at hsome
    obtain ⟨crtcId, hpick⟩ := Option.isSome_iff_exists.1 hsome
    obtain ⟨e, he, hpick⟩ := Option.bind_eq_some_iff.1 hpick
    exact ⟨e, List.mem_filterMap.2 ⟨id, hid, he⟩, by rw [hpick]; rfl⟩
  · rintro ⟨e, he, hsome⟩
    obtain ⟨id, hid, he⟩ := List.mem_filterMap.1 he
    refine ⟨id, hid, ?_⟩
    rw [htry, he]
    exact hsome

theorem DrmConnector.picksIdle_iff :
    c.PicksIdle encoders crtcs ↔ c.Agrees encoders crtcs := by
  unfold PicksIdle
  rw [pick_isSome]
  constructor
  · intro h
    refine ⟨fun e he crtc hcrtc hbind => ?_, fun hidle => ?_⟩
    · exact h.1 ⟨e, he, DrmEncoder.pick_isSome_iff.2 (Or.inl ⟨crtc, hcrtc, hbind⟩)⟩
    · obtain ⟨e, he, hsucceeds⟩ := h.2 hidle
      exact ⟨e, he, DrmEncoder.pick_isSome_iff.1 hsucceeds⟩
  · intro h
    constructor
    · rintro ⟨e, he, hsucceeds⟩
      rcases DrmEncoder.pick_isSome_iff.1 hsucceeds with ⟨crtc, hcrtc, hbind⟩ | ⟨hidle, -⟩
      · exact h.stray e he crtc hcrtc hbind
      · exact ⟨e, he, hidle⟩
    · intro hidle
      obtain ⟨e, he, hfinds⟩ := h.found hidle
      exact ⟨e, he, DrmEncoder.pick_isSome_iff.2 hfinds⟩

/-- **Picking.** When an encoder picks an idle CRTC exactly if there is one, and when a
connector does. -/
theorem picking_iff (crtcs : CrtcMap) :
    (∀ e : DrmEncoder, e.PicksIdle crtcs ↔ e.Agrees crtcs) ∧
      ∀ (c : DrmConnector) (encoders : Nat → Option DrmEncoder),
        c.PicksIdle encoders crtcs ↔ c.Agrees encoders crtcs :=
  ⟨fun _ => ⟨DrmEncoder.PicksIdle.agrees, DrmEncoder.Agrees.picksIdle⟩,
    fun _ _ => DrmConnector.picksIdle_iff⟩

/-- Two CRTCs, both unbound. -/
def twoCrtcs : CrtcMap where
  entries := [{ mId := 33, mPipe := 0 }, { mId := 34, mPipe := 1 }]
  nodup := by decide

/-- **An encoder for either of two CRTCs** picks none of them when it has no current one. -/
theorem picking_multiBit :
    ¬ DrmEncoder.PicksIdle { mEncoderId := 32, mCrtcId := 0, mPossibleCrtcs := 3 } twoCrtcs := by
  intro h
  have hidle : DrmEncoder.HasIdle { mEncoderId := 32, mCrtcId := 0, mPossibleCrtcs := 3 } twoCrtcs :=
    ⟨{ mId := 33, mPipe := 0 }, List.mem_cons_self, by decide, by decide⟩
  exact absurd (h.succeeds.2 hidle) (by decide)

end

end QemuHal.Common.Picking
