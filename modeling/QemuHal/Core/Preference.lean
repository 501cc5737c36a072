import QemuHal.Core.Bringup
import QemuHal.Frame.Run

/-!
# The preferred mode

`InitModes` files the first twenty modes of a connector under their places in the list and
remembers the first preferred one it meets; `ChosePreferenceMode` makes that one active, or
mode `0` without asking whether there is one. `preference_iff` says for which lists the
display gets the mode the connector prefers.
-/

namespace QemuHal

open Exec

/-! ## `InitModes` -/

/-- `DM_SUPPORT_RESOLUTIONS`. -/
def dmSupportResolutions : Nat := 20

namespace DrmConnector

/-- `emplace` files a mode under an id that is not taken. -/
def emplaceMode (c : DrmConnector) (id : Int) (mode : DrmMode) : DrmConnector :=
  if c.mModes.any fun e => decide (e.1 = id) then c else { c with mModes := c.mModes ++ [(id, mode)] }

/-- The loop of `InitModes`, from place `i` on. -/
def initModesFrom (c : DrmConnector) (i : Nat) : List DrmMode → DrmConnector
  | [] => c
  | mode :: modes =>
      if c.mModes.length = dmSupportResolutions then c
      else
        let c := if c.mPreferenceId = invalidModeId ∧ mode.preferred = true then
            { c with mPreferenceId := i }
          else c
        initModesFrom (c.emplaceMode i mode) (i + 1) modes

/-- `InitModes`. -/
def initModes (c : DrmConnector) (modes : List DrmMode) : DrmConnector :=
  initModesFrom { c with mModes := [], mPreferenceId := invalidModeId } 0 modes

end DrmConnector

/-! ## The law -/

/-- The modes under their places in the list. -/
def numbered (modes : List DrmMode) : List (Int × DrmMode) :=
  modes.mapIdx fun i mode => ((i : Int), mode)

/-- The place of the first preferred mode. -/
def firstPreferred (modes : List DrmMode) : Option Nat := modes.findIdx? (·.preferred)

/-- The display whose connector reports these modes. -/
def World.reporting (w : World) (modes : List DrmMode) : World :=
  { w with disp := { w.disp with mConnector := w.disp.mConnector.initModes modes } }

/-- The active mode is the one reported at place `i`. -/
def World.Shows (w : World) (modes : List DrmMode) (i : Nat) : Prop :=
  w.disp.mCrtc.mActiveModeId = i ∧ w.disp.mConnector.getModeFromId i = modes[i]?

/-- The active mode is a filed one, or there was none to be had and none is recorded. -/
def World.ShowsSome (w : World) (ret : DispStatus) : Prop :=
  (w.disp.mConnector.getModeFromId w.disp.mCrtc.mActiveModeId).isSome ∨
    ret ≠ .success ∧ w.disp.mCrtc.mActiveModeId = invalidModeId

/-- What is asked of a display whose connector reports the modes. -/
structure PreferenceLaw (w : World) (a : InitAnswers) (modes : List DrmMode) : Prop where
  filed : ∃ n, (w.disp.mConnector.initModes modes).mModes = numbered (modes.take n)
  chosen : Post (chosePreferenceMode a) (w.reporting modes)
    (fun ret w' => (∀ i, firstPreferred modes = some i → w'.Shows modes i) ∧
      (firstPreferred modes = none → w'.ShowsSome ret)) (fun _ _ => False)

/-- Some mode is reported, and the first preferred one, if there is one, is not past the
modes that are filed. -/
def Preferable (modes : List DrmMode) : Prop :=
  modes ≠ [] ∧ ∀ i, firstPreferred modes = some i → i < dmSupportResolutions

/-! ## What is filed -/

@[simp] theorem length_numbered (modes : List DrmMode) : (numbered modes).length = modes.length := by
  simp [numbered]

theorem numbered_concat (modes : List DrmMode) (mode : DrmMode) :
    numbered (modes ++ [mode]) = numbered modes ++ [((modes.length : Int), mode)] := by
  simp [numbered, List.mapIdx_append]

/-- The ids given so far are below the next one. -/
theorem numbered_fresh (modes : List DrmMode) :
    (numbered modes).any (fun e => decide (e.1 = (modes.length : Int))) = false := by
  rw [List.any_eq_false]
  intro e he
  obtain ⟨i, hi, rfl⟩ := List.mem_mapIdx.1 he
  simp only [decide_eq_true_eq]
  omega

theorem find_numbered (modes : List DrmMode) (i : Nat) :
    ((numbered modes).find? fun e => decide (e.1 = (i : Int))).map Prod.snd = modes[i]? := by
  induction modes using List.reverseRecOn with
  | nil => simp [numbered]
  | append_singleton modes mode ih =>
      rw [numbered_concat, List.find?_append, Option.map_or, ih]
      by_cases hi : i < modes.length
      · rw [List.getElem?_append_left hi, List.getElem?_eq_getElem hi]
        rfl
      · rw [List.getElem?_append_right (Nat.le_of_not_lt hi),
          List.getElem?_eq_none (Nat.le_of_not_lt hi), Option.none_or]
        by_cases he : i = modes.length
        · simp [he]
        · have hne : (modes.length : Int) ≠ i := by omega
          have hsub : 1 ≤ i - modes.length := by omega
          rw [List.getElem?_eq_none (by simpa using hsub)]
          simp [hne]

/-- `mPreferenceId` once the modes have been gone through. -/
def preferenceOf (modes : List DrmMode) : Int :=
  match firstPreferred modes with
  | some i => i
  | none => invalidModeId

theorem preferenceOf_concat (modes : List DrmMode) (mode : DrmMode) :
    preferenceOf (modes ++ [mode]) =
      if preferenceOf modes = invalidModeId ∧ mode.preferred = true then (modes.length : Int)
      else preferenceOf modes := by
  unfold preferenceOf firstPreferred
  rw [List.findIdx?_append]
  cases hfirst : modes.findIdx? (·.preferred) with
  | some i =>
      have hvalid : ¬ ((i : Int) = invalidModeId) := by
        unfold invalidModeId
        omega
      simp [hvalid]
  | none => cases hmode : mode.preferred <;> simp [hmode]

/-- The loop keeps the list and the preferred id in step until twenty modes are filed. -/
theorem initModesFrom_eq {c : DrmConnector} {before : List DrmMode}
    (hmodes : c.mModes = numbered before) (hpref : c.mPreferenceId = preferenceOf before)
    (hlen : before.length ≤ dmSupportResolutions) (modes : List DrmMode) :
    c.initModesFrom before.length modes = { c with
      mModes := numbered ((before ++ modes).take dmSupportResolutions)
      mPreferenceId := preferenceOf ((before ++ modes).take dmSupportResolutions) } := by
  induction modes generalizing c before with
  | nil =>
      rw [List.append_nil, List.take_of_length_le hlen, ← hmodes, ← hpref]
      rfl
  | cons mode modes ih =>
      unfold DrmConnector.initModesFrom
      by_cases hfull : before.length = dmSupportResolutions
      · rw [if_pos (by rw [hmodes, length_numbered, hfull]), ← hfull, List.take_left, ← hmodes,
          ← hpref]
      · rw [if_neg (by rwa [hmodes, length_numbered])]
        have hsnoc : before ++ mode :: modes = (before ++ [mode]) ++ modes := by simp
        have hnext : (before ++ [mode]).length = before.length + 1 := by simp
        rw [hsnoc, ← hnext]
        have hfresh : ∀ c' : DrmConnector, c'.mModes = numbered before →
            c'.emplaceMode before.length mode = { c' with mModes := numbered (before ++ [mode]) } := by
          intro c' hc'
          unfold DrmConnector.emplaceMode
          rw [hc', numbered_fresh, numbered_concat]
          rfl
        have hlt : (before ++ [mode]).length ≤ dmSupportResolutions := by omega
        split
        · next hfirst =>
            dsimp only
            rw [hfresh { c with mPreferenceId := before.length } hmodes]
            refine ih rfl ?_ hlt
            rw [preferenceOf_concat, ← hpref, if_pos hfirst]
        · next hfirst =>
            dsimp only
            rw [hfresh _ hmodes]
            refine ih rfl ?_ hlt
            rw [preferenceOf_concat, ← hpref, if_neg hfirst]

theorem initModes_eq (c : DrmConnector) (modes : List DrmMode) :
    c.initModes modes = { c with
      mModes := numbered (modes.take dmSupportResolutions)
      mPreferenceId := preferenceOf (modes.take dmSupportResolutions) } :=
  @initModesFrom_eq _ [] rfl rfl (by decide) modes

theorem getModeFromId_initModes (c : DrmConnector) (modes : List DrmMode) (i : Nat) :
    (c.initModes modes).getModeFromId i = (modes.take dmSupportResolutions)[i]? := by
  rw [initModes_eq, DrmConnector.getModeFromId]
  exact find_numbered _ i

theorem firstPreferred_lt {modes : List DrmMode} {i : Nat} (h : firstPreferred modes = some i) :
    i < modes.length :=
  (List.findIdx?_eq_some_iff_getElem.1 h).1

/-- Cutting the list off behind its first preferred mode does not lose it. -/
theorem firstPreferred_take (modes : List DrmMode) (n : Nat) :
    firstPreferred (modes.take n) =
      (firstPreferred modes).bind (Option.guard fun i => decide (i < n)) := by
  unfold firstPreferred
  rw [List.findIdx?_take]

/-! ## What is chosen -/

/-- The mode made active: the first preferred one if it is filed, and `0` otherwise. -/
def chosenPlace (modes : List DrmMode) : Nat :=
  (firstPreferred (modes.take dmSupportResolutions)).getD 0

theorem initialMode_initModes (c : DrmConnector) (modes : List DrmMode) :
    (c.initModes modes).initialMode = chosenPlace modes := by
  rw [initModes_eq]
  unfold DrmConnector.initialMode preferenceOf chosenPlace
  dsimp only
  cases hfirst : firstPreferred (modes.take dmSupportResolutions) with
  | none => simp [toInt32]
  | some i =>
      have hlt := firstPreferred_lt hfirst
      rw [List.length_take, dmSupportResolutions] at hlt
      have hvalid : ¬ ((i : Int) = invalidModeId) := by
        unfold invalidModeId
        omega
      simp only [hvalid, if_false, Option.getD_some, toInt32]
      split <;> omega

/-- The display as the earlier steps of `Init` leave it. -/
structure Prepared (w : World) (c : HdiDrmComposition) : Prop where
  mComposer : w.disp.mComposer = some c
  cursorLayers : c.mCursorLayers = []
  lastGem : c.mLastGemBuffer = none
  lastCursor : c.mLastCursorGemBuffer = none
  client : w.disp.mClientLayer = some {}

/-- `ChosePreferenceMode` records the mode whether or not the first frame can be pushed. -/
theorem chosePreferenceMode_active {w : World} {c : HdiDrmComposition} (h : Prepared w c)
    (hmode : 0 ≤ w.disp.mConnector.initialMode) (a : InitAnswers) :
    Post (chosePreferenceMode a) w
      (fun _ w' => w'.disp.mConnector = w.disp.mConnector ∧
        w'.disp.mCrtc.mActiveModeId = w.disp.mConnector.initialMode)
      (fun _ _ => False) := by
  apply (chosePreferenceMode_outcome h.mComposer h.cursorLayers h.lastGem h.lastCursor
    h.client a).mono
  · rintro _ w' ⟨-, hsteady⟩
    rw [(hsteady hmode).disp]
    refine ⟨rfl, ?_⟩
    show (w.disp.mCrtc.setActivieMode w.disp.mConnector.initialMode).2.mActiveModeId = _
    unfold DrmCrtc.setActivieMode
    rw [if_neg (by omega)]
  · exact fun _ _ he => he

section
variable {w : World} {c : HdiDrmComposition} {modes : List DrmMode}

/-- What a display that reports the modes ends with. -/
theorem chosePreferenceMode_reporting (h : Prepared w c) (a : InitAnswers)
    (modes : List DrmMode) :
    Post (chosePreferenceMode a) (w.reporting modes)
      (fun _ w' => w'.disp.mCrtc.mActiveModeId = chosenPlace modes ∧
        ∀ i : Nat, w'.disp.mConnector.getModeFromId i = (modes.take dmSupportResolutions)[i]?)
      (fun _ _ => False) := by
  have hchosen : (w.reporting modes).disp.mConnector.initialMode = chosenPlace modes :=
    initialMode_initModes _ modes
  have hactive := chosePreferenceMode_active (w := w.reporting modes) (c := c)
    ⟨h.mComposer, h.cursorLayers, h.lastGem, h.lastCursor, h.client⟩
    (by rw [hchosen]; exact Int.natCast_nonneg _) a
  refine hactive.mono ?_ (fun _ _ he => he)
  rintro _ w' ⟨hcon, hmode⟩
  refine ⟨hmode.trans hchosen, fun i => ?_⟩
  rw [hcon]
  exact getModeFromId_initModes _ modes i

/-- A list without modes leaves mode `0` recorded, and a preferred mode that comes too late is
not filed. -/
theorem PreferenceLaw.preferable {a : InitAnswers} (h : Prepared w c)
    (hlaw : PreferenceLaw w a modes) : Preferable modes := by
  obtain ⟨ret, w', -, ⟨hmode, hget⟩, hsome, hnone⟩ :=
    ((chosePreferenceMode_reporting h a modes).and hlaw.chosen).mono (fun _ _ h => h)
      (fun _ _ h => h.1) |>.exists_ok
  cases hfirst : firstPreferred modes with
  | none =>
      refine ⟨?_, fun i hi => absurd (hfirst.symm.trans hi) (by simp)⟩
      rintro rfl
      rcases hnone hfirst with hfiled | ⟨-, hinvalid⟩
      · rw [hmode, hget] at hfiled
        simp at hfiled
      · rw [hmode] at hinvalid
        exact absurd hinvalid (by decide)
  | some i =>
      have hlt := firstPreferred_lt hfirst
      refine ⟨?_, ?_⟩
      · rintro rfl
        simp at hlt
      · intro j hj
        obtain rfl := Option.some.inj (hfirst.symm.trans hj)
        by_contra hlate
        -- its place is not filed, so it cannot be found under its id
        have hshown := (hsome i hfirst).2
        rw [hget, List.getElem?_eq_getElem hlt, List.getElem?_eq_none] at hshown
        · exact absurd hshown (by simp)
        · rw [List.length_take]
          omega

theorem Preferable.law (hmodes : Preferable modes) (h : Prepared w c) (a : InitAnswers) :
    PreferenceLaw w a modes := by
  obtain ⟨hne, hfirst⟩ := hmodes
  refine ⟨⟨dmSupportResolutions, by rw [initModes_eq]⟩,
    (chosePreferenceMode_reporting h a modes).mono ?_ (fun _ _ he => he)⟩
  rintro ret w' ⟨hmode, hget⟩
  constructor
  · intro i hi
    have hplace : chosenPlace modes = i := by
      rw [chosenPlace, firstPreferred_take, hi, Option.bind_some, Option.guard,
        if_pos (decide_eq_true (hfirst i hi))]
      rfl
    refine ⟨by rw [hmode, hplace], ?_⟩
    rw [hget, List.getElem?_take_of_lt (hfirst i hi)]
  · intro hnone
    have hplace : chosenPlace modes = 0 := by
      rw [chosenPlace, firstPreferred_take, hnone]
      rfl
    left
    rw [hmode, hplace, hget, List.getElem?_take_of_lt (by decide),
      List.getElem?_eq_getElem (List.length_pos_iff.2 hne)]
    rfl

/-- **The preferred mode is honoured** for the lists that report some mode and whose first
preferred one is not past the modes that are filed, and for no others. -/
theorem preference_iff (h : Prepared w c) (a : InitAnswers) (modes : List DrmMode) :
    PreferenceLaw w a modes ↔ Preferable modes :=
  ⟨fun hlaw => hlaw.preferable h, fun hmodes => hmodes.law h a⟩

end

/-- The small display before its mode is chosen. -/
def smallPrepared : World :=
  let w := smallDisplay []
  { w with disp := { w.disp with
      mClientLayer := some {}
      mCursorLayer := some {}
      mComposer := some (HdiDrmComposition.init w.disp.mCrtc.mPipe w.planes).2.1 } }

theorem smallPrepared_prepared :
    Prepared smallPrepared (HdiDrmComposition.init 0 (smallDisplay []).planes).2.1 :=
  ⟨rfl, rfl, rfl, rfl, rfl⟩

def plainMode : DrmMode := { hdisplay := 640, vdisplay := 480 }

def bestMode : DrmMode := { hdisplay := 1280, vdisplay := 720, preferred := true }

theorem preference_second : PreferenceLaw smallPrepared smallInit [plainMode, bestMode, bestMode] :=
  (preference_iff smallPrepared_prepared smallInit _).2
    ⟨by simp, fun i hi => by
      obtain rfl : 1 = i := Option.some.inj ((by decide : firstPreferred _ = some 1).symm.trans hi)
      decide⟩

/-- The preferred mode is the twenty-first. -/
theorem preference_late :
    ¬ PreferenceLaw smallPrepared smallInit (List.replicate 20 plainMode ++ [bestMode]) := by
  intro hlaw
  have hlt := (hlaw.preferable smallPrepared_prepared).2 20 (by decide)
  exact absurd hlt (by decide)

end QemuHal
