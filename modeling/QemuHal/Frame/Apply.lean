import QemuHal.Frame.Build

/-!
# A whole frame

`apply_post` is the rule for `Apply`: a property that survives the loops and
holds of the display when the request is committed is carried through the commit
and the two releases. `WellFormed.apply` is its first use.
-/

namespace QemuHal

open Exec

/-! ## The commit -/

def World.refused (w : World) (pset : AtomicReq) : World :=
  w.setDrm { w.drm with
    log := .atomicCommit pset (w.drm.fbs.map Prod.fst) none :: w.drm.log }

def World.committed (w : World) (pset : AtomicReq) (n : Int) : World :=
  w.setDrm { w.drm with
    fds := Function.update w.drm.fds n (some ⟨.outFence w.drm.log.length, true⟩)
    log := .atomicCommit pset (w.drm.fbs.map Prod.fst) (some n) :: w.drm.log }

/-- The answer of the atomic commit is an acceptance. -/
def FrameAnswers.grants (a : FrameAnswers) (d : Drm) (n : Int) : Prop :=
  a.atomicCommit = some n ∧ 0 ≤ n ∧ d.fds n = none

theorem atomicCommit_cases (d : Drm) (pset : AtomicReq) (a : FrameAnswers) :
    (∃ n, a.grants d n ∧ d.atomicCommit pset a.atomicCommit =
      (some n, { d with
        fds := Function.update d.fds n (some ⟨.outFence d.log.length, true⟩)
        log := .atomicCommit pset (d.fbs.map Prod.fst) (some n) :: d.log })) ∨
    ((∀ n, ¬ a.grants d n) ∧ d.atomicCommit pset a.atomicCommit =
      (none, { d with log := .atomicCommit pset (d.fbs.map Prod.fst) none :: d.log })) := by
  unfold FrameAnswers.grants Drm.atomicCommit
  cases a.atomicCommit with
  | none => exact Or.inr ⟨by simp, rfl⟩
  | some n =>
      by_cases h : 0 ≤ n ∧ d.fds n = none
      · exact Or.inl ⟨n, ⟨rfl, h⟩, by simp [h]⟩
      · refine Or.inr ⟨?_, by simp [h]⟩
        rintro m ⟨hm, hrest⟩
        exact h (Option.some.inj hm ▸ hrest)

/-! ## The release fences -/

/-- The layers once the fence of a commit is queued. -/
def Parts.fenced (p : Parts) (n : Int) : Parts where
  comp := p.comp
  layer := fun s =>
    if s = .primary ∨ p.comp.mCursorLayers ≠ [] then (p.layer s).setReleaseFence n
    else p.layer s

def World.fenced (w : World) (p : Parts) (n : Int) : World :=
  let w := w.setLayer .client ((p.layer .primary).setReleaseFence n)
  if p.comp.mCursorLayers = [] then w
  else w.setLayer .cursor ((p.layer .cursor).setReleaseFence n)

@[simp] theorem World.fenced_drm (w : World) (p : Parts) (n : Int) :
    (w.fenced p n).drm = w.drm := by
  unfold fenced
  split <;> rfl

theorem World.fenced_layers (w : World) (p : Parts) (n : Int) :
    (w.fenced p n).disp.layers = w.disp.layers := by
  unfold fenced
  split <;> rfl

theorem Parts.Of.fenced {w : World} {p : Parts} (h : p.Of w) (n : Int) :
    (p.fenced n).Of (w.fenced p n) := by
  unfold World.fenced
  split
  · next hc =>
      refine ⟨by simpa [Parts.fenced] using h.comp, fun s => ?_⟩
      cases s with
      | primary => simp [Parts.fenced, Slot.layer]
      | cursor =>
          have := h.layer .cursor
          simpa [Parts.fenced, Slot.layer, World.layerAt_setLayer, hc] using this
  · next hc =>
      refine ⟨by simpa [Parts.fenced] using h.comp, fun s => ?_⟩
      cases s <;> simp [Parts.fenced, Slot.layer, World.layerAt_setLayer, hc]

theorem Parts.fenced_layer (p : Parts) (n : Int) (s : Slot) :
    ∃ fences, (p.fenced n).layer s = { p.layer s with releaseFences_ := fences } := by
  unfold Parts.fenced
  dsimp only
  split
  · exact ⟨_, rfl⟩
  · exact ⟨(p.layer s).releaseFences_, rfl⟩

theorem setReleaseFences_eq {w : World} {p : Parts} (hp : p.Of w) (hgood : p.Good w.drm)
    (n : Int) :
    (do setReleaseFences n p.comp.mCompLayers
        setReleaseFences n p.comp.mCursorLayers : Hal Unit) w = .ok () (w.fenced p n) := by
  have hclient : derefLayer .client w = .ok (p.layer .primary) w :=
    derefLayer_of (hp.layer .primary)
  have hcursor : ∀ l, derefLayer .cursor (w.setLayer .client l) =
      .ok (p.layer .cursor) (w.setLayer .client l) := by
    intro l
    refine derefLayer_of ?_
    rw [World.layerAt_setLayer, if_neg (by simp)]
    exact hp.layer .cursor
  have hfirst : setReleaseFences n [.client] w =
      .ok () (w.setLayer .client ((p.layer .primary).setReleaseFence n)) := by
    unfold setReleaseFences
    rw [bind_of_ok hclient]
    rfl
  rw [hgood.compLayers, bind_of_ok hfirst]
  unfold World.fenced
  rcases hgood.cursorLayers with hc | hc
  · rw [hc]
    rfl
  · rw [hc]
    unfold setReleaseFences
    rw [bind_of_ok (hcursor _)]
    rfl

/-! ## The releases -/

/-- The pointer a slot remembers points to a destroyed object. -/
def Parts.Dangles (p : Parts) (d : Drm) (s : Slot) : Prop :=
  ∃ gem, p.comp.lastGem s = some gem ∧ d.gems gem = none

def Parts.released (p : Parts) (s : Slot) : Parts :=
  { p with comp := p.comp.setLastGem s (p.comp.currentGem s) }

/-- The remembered object of a slot gives its buffer back. -/
def Drm.released (d : Drm) (p : Parts) (s : Slot) (a : DropAnswers) : Drm :=
  match p.comp.lastGem s with
  | none => d
  | some gem =>
      match d.gems gem with
      | none => d
      | some g => d.releaseBuffer gem g a

def World.released (w : World) (p : Parts) (s : Slot) (a : DropAnswers) : World :=
  (w.setDrm (w.drm.released p s a)).setComposition
    (p.comp.setLastGem s (p.comp.currentGem s))

theorem releaseLast_post {w : World} {p : Parts} (hp : p.Of w) {s : Slot} {a : DropAnswers}
    {Q : Unit → World → Prop} {E : Fault → World → Prop}
    (hlive : ¬ p.Dangles w.drm s → Q () (w.released p s a))
    (hdead : p.Dangles w.drm s → E s.danglingLast w) : Post (releaseLast s a) w Q E := by
  unfold releaseLast
  rw [post_bind]
  refine post_of_ok (theComposition_of hp.comp) ?_
  simp only [post_bind, post_get]
  cases hlast : p.comp.lastGem s with
  | none =>
      have hno : ¬ p.Dangles w.drm s := by
        rintro ⟨gem, hg, -⟩
        rw [hlast] at hg
        exact absurd hg (by simp)
      have := hlive hno
      simp only [World.released, Drm.released, hlast] at this
      exact this
  | some gem =>
      dsimp only
      cases hg : w.drm.gems gem with
      | none => exact hdead ⟨gem, hlast, hg⟩
      | some g =>
          have hno : ¬ p.Dangles w.drm s := by
            rintro ⟨gem', hl', hg'⟩
            obtain rfl := Option.some.inj (hlast.symm.trans hl')
            rw [hg] at hg'
            exact absurd hg' (by simp)
          have := hlive hno
          simp only [World.released, Drm.released, hlast, hg] at this
          exact this

theorem Parts.Of.released {w : World} {p : Parts} (h : p.Of w) (s : Slot) (a : DropAnswers) :
    (p.released s).Of (w.released p s a) where
  comp := rfl
  layer := by
    intro s'
    simpa [World.released, Parts.released] using h.layer s'

theorem Drm.released_cases (d : Drm) (p : Parts) (s : Slot) (a : DropAnswers) :
    d.released p s a = d ∨ ∃ gem g, p.comp.lastGem s = some gem ∧ d.gems gem = some g ∧
      d.released p s a = d.releaseBuffer gem g a := by
  unfold released
  cases p.comp.lastGem s with
  | none => exact Or.inl rfl
  | some gem =>
      cases hg : d.gems gem with
      | none => simp [hg]
      | some g => exact Or.inr ⟨gem, g, rfl, hg, by simp [hg]⟩

theorem Drm.released_frame (d : Drm) (p : Parts) (s : Slot) (a : DropAnswers) :
    (d.released p s a).fds = d.fds ∧ (d.released p s a).drmFd = d.drmFd ∧
      (d.released p s a).nextGem = d.nextGem ∧
      commits (d.released p s a).log = commits d.log ∧
      (∀ k, (d.released p s a).gems k = none ↔ d.gems k = none) := by
  rcases d.released_cases p s a with heq | ⟨gem, g, -, hg, heq⟩
  · rw [heq]
    exact ⟨rfl, rfl, rfl, rfl, fun _ => Iff.rfl⟩
  · obtain ⟨g', d', hs, heq'⟩ := d.releaseBuffer_spec gem g a
    obtain ⟨_, _, _, hf⟩ := hs.frame
    rw [heq, heq']
    refine ⟨by rw [hf], by rw [hf], by rw [hf], hs.commits, fun k => ?_⟩
    simp only [Function.update_apply]
    split
    · next hk => simp [hk, hg]
    · exact Iff.rfl

theorem Drm.Sound.released {d : Drm} (h : d.Sound) (p : Parts) (s : Slot) (a : DropAnswers) :
    (d.released p s a).Sound := by
  rcases d.released_cases p s a with heq | ⟨gem, g, -, hg, heq⟩
  · rwa [heq]
  · rw [heq]
    exact h.releaseBuffer hg a

theorem WellFormed.released {w : World} {p : Parts} (h : WellFormed w) (hp : p.Of w)
    (s : Slot) (a : DropAnswers) : WellFormed (w.released p s a) := by
  obtain ⟨p', hp', hgood⟩ := h.parts
  obtain rfl := hp.unique hp'
  refine ⟨h.sound.released p s a, ⟨_, hp.released s a, ?_⟩, h.created⟩
  have hlive := (w.drm.released_frame p s a).2.2.2.2
  refine ⟨?_, ?_, ?_, ?_, hgood.clientBuffer, ?_, fun s' => ?_, ?_, hgood.apart, hgood.disjoint,
    fun s' b hb => ?_⟩
  · cases s <;> exact hgood.compLayers
  · cases s <;> exact hgood.cursorLayers
  · cases s <;> exact hgood.planes
  · cases s <;> exact hgood.distinctPlanes
  · cases s <;> exact hgood.cursorBuffer
  · simpa [Parts.released] using hgood.pointer s'
  · intro s' b hb hnone
    exact hgood.live s' b hb ((hlive b).1 hnone)
  · have hnext : (w.released p s a).drm.nextGem = w.drm.nextGem :=
      (w.drm.released_frame p s a).2.2.1
    rw [hnext]
    simp only [Parts.released, HdiDrmComposition.setLastGem_lastGem] at hb
    split at hb
    · next hs =>
        -- the pointer remembered from now on is the current one, which is owned
        subst hs
        rw [hgood.pointer] at hb
        have howns : (p.layer s').Owns b := Or.inl hb
        refine ⟨?_, fun _ => howns⟩
        by_contra hle
        exact hgood.live s' b howns (h.sound.unallocated b (by omega))
    · obtain ⟨hlt, hown⟩ := hgood.remembered s' b hb
      exact ⟨hlt, fun hne => hown fun hnone => hne ((hlive b).2 hnone)⟩

/-! ## Changes beside the objects -/

/-- The parts keep their composition and the objects the layers own. -/
theorem WellFormed.setParts {w w' : World} {p p' : Parts} (h : WellFormed w) (hp : p.Of w)
    (hp' : p'.Of w') (hsound : w'.drm.Sound) (hgems : w'.drm.gems = w.drm.gems)
    (hnext : w'.drm.nextGem = w.drm.nextGem)
    (hcomp : p'.comp = p.comp) (hlayers : w'.disp.layers = w.disp.layers)
    (hlayer : ∀ s, (p'.layer s).mCurrentBuffer = (p.layer s).mCurrentBuffer ∧
      (p'.layer s).lastBuffer_ = (p.layer s).lastBuffer_ ∧
      ((p.layer s).mHdiBuffer ≠ none → (p'.layer s).mHdiBuffer ≠ none)) : WellFormed w' := by
  obtain ⟨p₁, hp₁, hgood⟩ := h.parts
  obtain rfl := hp.unique hp₁
  have howns : ∀ s b, (p'.layer s).Owns b ↔ (p.layer s).Owns b := by
    intro s b
    unfold HdiLayer.Owns
    rw [(hlayer s).1, (hlayer s).2.1]
  refine ⟨hsound, ⟨p', hp', ?_⟩, hlayers ▸ h.created⟩
  refine ⟨hcomp ▸ hgood.compLayers, hcomp ▸ hgood.cursorLayers, hcomp ▸ hgood.planes,
    hcomp ▸ hgood.distinctPlanes, (hlayer _).2.2 hgood.clientBuffer, ?_, ?_, ?_, ?_, ?_, ?_⟩
  · intro hc
    exact (hlayer _).2.2 (hgood.cursorBuffer (hcomp ▸ hc))
  · intro s
    rw [hcomp, (hlayer s).1]
    exact hgood.pointer s
  · intro s b hb
    rw [hgems]
    exact hgood.live s b ((howns s b).1 hb)
  · intro s b hc hl
    rw [(hlayer s).1] at hc
    rw [(hlayer s).2.1] at hl
    exact hgood.apart s b hc hl
  · intro s s' b hb hb'
    exact hgood.disjoint s s' b ((howns s b).1 hb) ((howns s' b).1 hb')
  · intro s b hb
    rw [hcomp] at hb
    obtain ⟨hlt, hown⟩ := hgood.remembered s b hb
    rw [hnext, hgems]
    exact ⟨hlt, fun hne => (howns s b).2 (hown hne)⟩

theorem Parts.Of.refused {w : World} {p : Parts} (h : p.Of w) (pset : AtomicReq) :
    p.Of (w.refused pset) :=
  ⟨h.comp, by simpa [World.refused] using h.layer⟩

theorem WellFormed.refused {w : World} (h : WellFormed w) (pset : AtomicReq) :
    WellFormed (w.refused pset) := by
  obtain ⟨p, hp, -⟩ := h.parts
  refine h.setParts hp (hp.refused pset) ?_ rfl rfl rfl rfl fun s => ⟨rfl, rfl, id⟩
  exact ⟨h.sound.unallocated, h.sound.handles, h.sound.fbExists, h.sound.fbUnique⟩

theorem Parts.Of.committed {w : World} {p : Parts} (h : p.Of w) (pset : AtomicReq) (n : Int) :
    p.Of (w.committed pset n) :=
  ⟨h.comp, by simpa [World.committed] using h.layer⟩

theorem WellFormed.committed {w : World} (h : WellFormed w) (pset : AtomicReq) (n : Int) :
    WellFormed (w.committed pset n) := by
  obtain ⟨p, hp, -⟩ := h.parts
  refine h.setParts hp (hp.committed pset n) ?_ rfl rfl rfl rfl fun s => ⟨rfl, rfl, id⟩
  exact ⟨h.sound.unallocated, h.sound.handles, h.sound.fbExists, h.sound.fbUnique⟩

theorem WellFormed.fenced {w : World} {p : Parts} (h : WellFormed w) (hp : p.Of w) (n : Int) :
    WellFormed (w.fenced p n) := by
  refine h.setParts hp (hp.fenced n) (by simpa using h.sound) (by simp) (by simp) rfl
    (World.fenced_layers w p n) fun s => ?_
  obtain ⟨fences, hl⟩ := p.fenced_layer n s
  rw [hl]
  exact ⟨rfl, rfl, id⟩

/-! ## The rule -/

/-- The display when the fence of the commit `n` is queued. -/
def World.granted (w : World) (p : Parts) (pset : AtomicReq) (n : Int) : World :=
  (w.committed pset n).fenced p n

theorem commitFrame_post {w : World} {p : Parts} (h : WellFormed w) (hp : p.Of w)
    {a : FrameAnswers} {pset : AtomicReq} {Q : DispStatus → World → Prop}
    {E : Fault → World → Prop}
    (refuse : (∀ n, ¬ a.grants w.drm n) → Q .failure (w.refused pset))
    (accept : ∀ n, a.grants w.drm n →
      Post (do releaseLast .primary a.release; releaseLast .cursor a.releaseCursor)
        (w.granted p pset n) (fun _ w' => Q .success w') E) :
    Post (commitFrame a pset) w Q E := by
  unfold commitFrame
  simp only [post_bind, post_get, post_set]
  rcases atomicCommit_cases w.drm pset a with ⟨n, hn, heq⟩ | ⟨hno, heq⟩
  · rw [heq]
    have hp' := hp.committed pset n
    obtain ⟨p₁, hp₁, hgood⟩ := (h.committed pset n).parts
    obtain rfl := hp'.unique hp₁
    dsimp only
    rw [post_bind]
    refine post_of_ok (theComposition_of hp'.comp) ?_
    have hfences := setReleaseFences_eq hp' hgood n
    have hrest := accept n hn
    have key : Post ((do setReleaseFences n p.comp.mCompLayers
                         setReleaseFences n p.comp.mCursorLayers : Hal Unit) >>= fun _ => do
          releaseLast .primary a.release
          releaseLast .cursor a.releaseCursor)
        (w.committed pset n) (fun _ w' => Q .success w') E := by
      rw [post_bind]
      exact post_of_ok hfences hrest
    simp only [post_bind] at key
    simp only [post_bind, post_pure]
    exact key
  · rw [heq]
    exact refuse hno

theorem World.accepts_iff {w : World} {a : FrameAnswers} :
    w.accepts a = true ↔ w.commits a = true ∧ ∃ n, a.grants w.drm n := by
  unfold accepts FrameAnswers.grants
  rw [Bool.and_eq_true]
  refine and_congr_right fun _ => ?_
  cases a.atomicCommit with
  | none => simp
  | some n => simp

/-- The state once `UpdateMode` has made its block. -/
def World.blocked (w : World) : Option Nat → World
  | some blob => w.setDrm { w.drm with log := .createPropertyBlob blob :: w.drm.log }
  | none => w

/-- `UpdateMode` makes its block and adds its properties. -/
theorem updateMode_eq {w₀ w : World} {p₀ p : Parts} (h : Along w₀ p₀ w p)
    (a : FrameAnswers) (pset : AtomicReq) :
    updateMode a pset w = .ok (w₀.updatesMode a, w₀.modeBlock a, w₀.modeEntries a ++ pset)
      (w.blocked (w₀.modeBlock a)) := by
  have hcrtc := h.mCrtc
  have hconn := h.mConnector
  -- without a block nothing is set
  have hnone : w₀.modeBlock a = none → updateMode a pset w = .ok (true, none, pset) w →
      updateMode a pset w = .ok (w₀.updatesMode a, w₀.modeBlock a, w₀.modeEntries a ++ pset)
        (w.blocked (w₀.modeBlock a)) := by
    intro hn heq
    have hyes : w₀.updatesMode a = true := by simp [World.updatesMode, hn]
    rw [heq, hyes, World.modeEntries, hn]
    rfl
  by_cases hneed : w₀.disp.mCrtc.mNeedModeSet = true
  swap
  · refine hnone (by simp [World.modeBlock, hneed]) ?_
    unfold updateMode
    rw [get_bind, hcrtc, if_neg hneed]
    rfl
  -- the block is made for the active mode
  have hget : getModeBlockFromId w₀.disp.mCrtc.mActiveModeId a.createPropertyBlob w =
      .ok (w₀.modeBlock a) (w.blocked (w₀.modeBlock a)) := by
    unfold getModeBlockFromId World.modeBlock
    rw [get_bind, hconn, if_pos hneed]
    cases w₀.disp.mConnector.getModeFromId w₀.disp.mCrtc.mActiveModeId with
    | none => rfl
    | some mode =>
        cases a.createPropertyBlob with
        | none => rfl
        | some blob =>
            have hdrmFd := h.drmFd
            dsimp only
            by_cases hfd : w.drm.drmFd < 0
            · rw [if_pos hfd, if_pos (by omega)]
              rfl
            · rw [if_neg hfd, if_neg (by omega)]
              rfl
  have hrun : updateMode a pset w =
      (match w₀.modeBlock a with
        | none => .ok (true, none, pset) (w.blocked none)
        | some blob =>
            .ok ((addProperties a.modeProperty pset (w₀.modeProperties blob)).1, some blob,
              (addProperties a.modeProperty pset (w₀.modeProperties blob)).2)
              (w.blocked (some blob))) := by
    unfold updateMode
    rw [get_bind, hcrtc, if_pos hneed, bind_of_ok hget, hconn]
    cases w₀.modeBlock a <;> rfl
  cases hblock : w₀.modeBlock a with
  | none =>
      rw [hblock] at hrun
      rw [← hblock]
      exact hnone hblock hrun
  | some blob =>
      have hflag : w₀.updatesMode a =
          (addProperties a.modeProperty pset (w₀.modeProperties blob)).1 := by
        rw [addProperties_fst]
        simp [World.updatesMode, World.modeProperties, hblock, Bool.and_assoc]
      rw [hrun, hblock, World.modeEntries, hblock, hflag]
      dsimp only
      rw [addProperties_snd]

theorem World.modeProperties_ne_fbId (w : World) (blob : Nat) :
    ∀ e ∈ w.modeProperties blob, e.prop ≠ .fbId := by
  simp [World.modeProperties]

theorem World.otherEntries_mode (w : World) (a : FrameAnswers) (pset : AtomicReq) :
    AtomicReq.otherEntries (w.modeEntries a ++ pset) = w.modeEntries a ++ pset.otherEntries := by
  unfold World.modeEntries
  split
  · exact otherEntries_added (w.modeProperties_ne_fbId _)
  · rfl

theorem World.fbEntries_mode (w : World) (a : FrameAnswers) (pset : AtomicReq) :
    AtomicReq.fbEntries (w.modeEntries a ++ pset) = pset.fbEntries := by
  unfold World.modeEntries
  split
  · rw [← addProperties_snd]
    exact fbEntries_addProperties (w.modeProperties_ne_fbId _)
  · rfl

/-- Making a block is a step beside the loops. -/
theorem World.blocked_cases (w : World) (p : Parts) (block : Option Nat) :
    w.blocked block = w ∨ Neutral w p (w.blocked block) p := by
  cases block with
  | none => exact Or.inl rfl
  | some blob => exact Or.inr (Neutral.createBlob blob)

/-! ## The frame -/

/-- The boot animation is seen to be over. -/
def Parts.booted (p : Parts) : Parts := { p with comp := { p.comp with isAnimationEnd_ := true } }

def World.booted (w : World) (p : Parts) : World := w.setComposition p.booted.comp

/-- The cursor part: boot completion is noted and the cursor loop is run, when
there is a cursor layer. -/
theorem applyCursorPart_post {w₀ w : World} {p₀ p : Parts} {a : FrameAnswers}
    {J : Nat → List (Nat × DrmPlane) → World → Parts → AtomicReq → Prop}
    (hJ : LoopInv w₀ p₀ a .cursor J)
    (hbooted : ∀ {n C w p req}, Along w₀ p₀ w p → J n C w p req →
      J n C (w.booted p) p.booted req)
    (hgood : p₀.Good w₀.drm) (hbegins : a.begins = true)
    (h : Along w₀ p₀ w p) (hboot : p.comp.isAnimationEnd_ = p₀.comp.isAnimationEnd_)
    {pset : AtomicReq}
    (hinv : J (p₀.rotations w₀.drm a .cursor) (p₀.carried w₀.drm a .cursor) w p pset.fbEntries) :
    Post (applyCursorPart a pset) w
      (fun pset' w' => ∃ p', Along w₀ p₀ w' p' ∧ J 0 [] w' p' pset'.fbEntries ∧
        AtomicReq.otherEntries pset' =
          p₀.entries w₀.drm a w₀.disp.mCrtc.mId .cursor ++ pset.otherEntries)
      (fun _ _ => False) := by
  -- a slot the frame does not come to
  have hidle : p₀.enters a .cursor = false → ∀ w p, Along w₀ p₀ w p →
      J (p₀.rotations w₀.drm a .cursor) (p₀.carried w₀.drm a .cursor) w p pset.fbEntries →
      ∃ p', Along w₀ p₀ w p' ∧ J 0 [] w p' pset.fbEntries ∧ AtomicReq.otherEntries pset =
        p₀.entries w₀.drm a w₀.disp.mCrtc.mId .cursor ++ pset.otherEntries := by
    intro hent w p h hinv
    have hzero : p₀.rotations w₀.drm a .cursor = 0 ∧ p₀.carried w₀.drm a .cursor = [] ∧
        p₀.entries w₀.drm a w₀.disp.mCrtc.mId .cursor = [] := by
      unfold Parts.rotations Parts.carried Parts.entries
      rw [hent]
      cases (p₀.layer .cursor).mHdiBuffer <;> simp
    rw [hzero.1, hzero.2.1] at hinv
    refine ⟨p, h, hinv, ?_⟩
    rw [hzero.2.2, List.nil_append]
  -- the loop, once the boot is known to be completed
  have hloop : ∀ w p, Along w₀ p₀ w p →
      (p₀.comp.isAnimationEnd_ || a.bootCompleted) = true →
      J (p₀.rotations w₀.drm a .cursor) (p₀.carried w₀.drm a .cursor) w p pset.fbEntries →
      Post (do
          let c ← theComposition
          applyCursors a.cursor c.mCursorPlanes 0 c.mCursorLayers pset) w
        (fun pset' w' => ∃ p', Along w₀ p₀ w' p' ∧ J 0 [] w' p' pset'.fbEntries ∧
          AtomicReq.otherEntries pset' =
            p₀.entries w₀.drm a w₀.disp.mCrtc.mId .cursor ++ pset.otherEntries)
        (fun _ _ => False) := by
    intro w p h hdone hinv
    rw [post_bind]
    refine post_of_ok (theComposition_of h.of.comp) ?_
    rw [h.mCursorLayers]
    rcases hgood.cursorLayers with hc | hc
    · rw [hc, applyCursors]
      exact hidle (by simp [Parts.enters, hc]) w p h hinv
    · have hent : p₀.enters a .cursor = true := by simp [Parts.enters, hc, hbegins, hdone]
      cases hbuf : (p₀.layer .cursor).mHdiBuffer with
      | none => exact absurd hbuf (hgood.cursorBuffer (by simp [hc]))
      | some buf =>
          have hrot : p₀.rotations w₀.drm a .cursor = rotationsOn w₀.drm .cursor (a.slot .cursor)
              (p₀.layer .cursor) buf 0 (p₀.comp.slotPlanes .cursor) := by
            simp [Parts.rotations, hbuf, hent]
          have hcar : p₀.carried w₀.drm a .cursor = carriedOn w₀.drm .cursor (a.slot .cursor)
              (p₀.layer .cursor) buf 0 (p₀.comp.slotPlanes .cursor) := by
            simp [Parts.carried, hbuf, hent]
          have hentries : p₀.entries w₀.drm a w₀.disp.mCrtc.mId .cursor = entriesOn w₀.drm .cursor
              (a.slot .cursor) (p₀.layer .cursor) buf w₀.disp.mCrtc.mId 0
              (p₀.comp.slotPlanes .cursor) := by
            simp [Parts.entries, hbuf, hent]
          rw [hrot, hcar] at hinv
          have hplanes : p.comp.mCursorPlanes = p₀.comp.slotPlanes .cursor :=
            h.slotPlanes .cursor
          rw [hc, applyCursors, hplanes, post_bind, hentries]
          exact (applyCursorPlanes_post hJ hbuf (fun _ hx => hx) h
            (by rw [Nat.zero_add, ← hrot]) hinv).mono (fun r w' hr => hr) (fun _ _ hf => hf)
  unfold applyCursorPart
  rw [post_bind]
  unfold checkbootCompleted
  rw [post_bind]
  refine post_of_ok (theComposition_of h.of.comp) ?_
  by_cases hend : p.comp.isAnimationEnd_ = true
  · rw [if_pos hend]
    exact hloop w p h (by rw [← hboot, hend]; rfl) hinv
  · rw [if_neg hend]
    by_cases hdone : a.bootCompleted = true
    · rw [if_pos hdone]
      have hb : Neutral w p (w.booted p) p.booted := Neutral.booted
      simp only [setTheComposition, post_bind, post_modify, post_pure]
      exact hloop _ _ (h.neutral hb) (by simp [hdone]) (hbooted h hinv)
    · rw [if_neg hdone]
      simp only [post_pure]
      have hend' : p₀.comp.isAnimationEnd_ = false := by
        rw [← hboot]
        simpa using hend
      exact hidle (by simp [Parts.enters, hend', hdone]) w p h hinv

/-- A loop keeps what rotations keep. -/
theorem LoopInv.booting {w₀ : World} {p₀ : Parts} {a : FrameAnswers} {s : Slot}
    {J : Nat → List (Nat × DrmPlane) → World → Parts → AtomicReq → Prop}
    (hJ : LoopInv w₀ p₀ a s J) :
    LoopInv w₀ p₀ a s fun n C w p req =>
      J n C w p req ∧ p.comp.isAnimationEnd_ = p₀.comp.isAnimationEnd_ := by
  have hsame : ∀ (p : Parts) (gem : Nat),
      (p.rotate s gem).comp.isAnimationEnd_ = p.comp.isAnimationEnd_ := by
    intro p gem
    cases s <;> rfl
  constructor
  · intro j drmPlane w p buf req h hbuf hplane hcount hinv
    exact ⟨hJ.rotate h hbuf hplane hcount hinv.1, (hsame _ _).trans hinv.2⟩
  · intro n C j drmPlane w p buf req h hbuf hplane hcount himp hinv
    exact ⟨hJ.carry h hbuf hplane hcount himp hinv.1, (hsame _ _).trans hinv.2⟩

/-- **The frame rule, with the request.** `J₁` and `J₂` are kept by the two loops, `Q` is
what the commit, or the lack of one, leaves behind. The entries of the request beside its
framebuffers are those `World.requested` lists. -/
theorem apply_post_requested {w₀ : World} {p₀ : Parts} {a : FrameAnswers} (h : WellFormed w₀)
    (hp : p₀.Of w₀)
    {J₁ J₂ : Nat → List (Nat × DrmPlane) → World → Parts → AtomicReq → Prop}
    {Q : World → Prop} {E : Fault → World → Prop}
    (h₁ : LoopInv w₀ p₀ a .primary J₁) (h₂ : LoopInv w₀ p₀ a .cursor J₂)
    (hbooted : ∀ {n C w p req}, Along w₀ p₀ w p → J₂ n C w p req →
      J₂ n C (w.booted p) p.booted req)
    (hquiet : ∀ w blob, Q w →
      Q (w.setDrm { w.drm with log := .destroyPropertyBlob blob :: w.drm.log }))
    (start : J₁ (p₀.rotations w₀.drm a .primary) (p₀.carried w₀.drm a .primary) w₀ p₀ [])
    (turn : ∀ w p req, Along w₀ p₀ w p → J₁ 0 [] w p req →
      J₂ (p₀.rotations w₀.drm a .cursor) (p₀.carried w₀.drm a .cursor) w p req)
    (stop : a.begins = false → Q w₀)
    (abort : ∀ w p req, Along w₀ p₀ w p → J₂ 0 [] w p req → a.begins = true →
      w₀.updatesMode a = false → Q (w.blocked (w₀.modeBlock a)))
    (commit : ∀ w p pset, Along w₀ p₀ w p → J₂ 0 [] w p pset.fbEntries →
      pset.otherEntries = w₀.requested p₀ a → w₀.commits a = true →
      Post (commitFrame a pset) (w.blocked (w₀.modeBlock a)) (fun _ w' => Q w') E) :
    Post (apply a) w₀ (fun _ w' => Q w') E := by
  obtain ⟨p', hp', hgood⟩ := h.parts
  obtain rfl := hp.unique hp'
  have hblock : ∀ w, Q w → ∀ b, Post (destroyModeBlock b) w (fun _ w' => Q w') E := by
    intro w hQ b
    cases b with
    | none => exact hQ
    | some blob => exact hquiet w blob hQ
  unfold apply
  rw [post_bind]
  refine post_of_ok (theComposition_of hp.comp) ?_
  have hlen : ¬ p₀.comp.mPlanes.length < p₀.comp.mCompLayers.length := by
    rw [hgood.compLayers, List.length_singleton, Nat.lt_one_iff, List.length_eq_zero_iff]
    exact hgood.planes
  rw [if_neg hlen]
  by_cases halloc : a.atomicAlloc = true
  swap
  · rw [if_pos (by simpa using halloc)]
    exact stop (by simp [FrameAnswers.begins, halloc])
  rw [if_neg (by simpa using halloc)]
  rw [post_bind, post_get]
  by_cases hfence : a.outFencePtr = true
  swap
  · simp only [drmModeAtomicAddProperty, hfence]
    exact stop (by simp [FrameAnswers.begins, hfence])
  have hbegins : a.begins = true := by simp [FrameAnswers.begins, halloc, hfence]
  simp only [drmModeAtomicAddProperty, hfence, if_true]
  -- the client layer
  have hclient : Post (applyPlanes a.plane 0 p₀.comp.mCompLayers p₀.comp.mPlanes
        [⟨.crtc w₀.disp.mCrtc.mId, .outFencePtr, 0⟩]) w₀
      (fun r w' => ∃ p', Along w₀ p₀ w' p' ∧ (J₁ 0 [] w' p' r.2.fbEntries ∧
        p'.comp.isAnimationEnd_ = p₀.comp.isAnimationEnd_) ∧ AtomicReq.otherEntries r.2 =
          p₀.entries w₀.drm a w₀.disp.mCrtc.mId .primary ++
            [⟨.crtc w₀.disp.mCrtc.mId, .outFencePtr, 0⟩]) (fun _ _ => False) := by
    cases hbuf : (p₀.layer .primary).mHdiBuffer with
    | none => exact absurd hbuf hgood.clientBuffer
    | some buf =>
        have hent : p₀.enters a .primary = true := hbegins
        have hentries : p₀.entries w₀.drm a w₀.disp.mCrtc.mId .primary = entriesOn w₀.drm .primary
            (a.slot .primary) (p₀.layer .primary) buf w₀.disp.mCrtc.mId 0
            (p₀.comp.slotPlanes .primary) := by
          simp [Parts.entries, hbuf, hent]
        rw [hgood.compLayers, hentries]
        refine applyPlanes_post h₁.booting hbuf hgood.planes (Along.refl h hp) ?_ ⟨?_, rfl⟩
        · simp [Parts.rotations, hbuf, hent]
        simpa [Parts.rotations, Parts.carried, hbuf, hent, AtomicReq.fbEntries] using start
  rw [post_bind]
  refine hclient.mono ?_ (fun _ _ hf => hf.elim)
  rintro ⟨ret₁, pset₁⟩ w₁ ⟨p₁, halong₁, ⟨hJ₁, hboot⟩, hentries₁⟩
  dsimp only
  -- the cursor layer
  rw [post_bind]
  refine (applyCursorPart_post h₂ hbooted hgood hbegins halong₁ hboot
    (turn w₁ p₁ _ halong₁ hJ₁)).mono ?_ (fun _ _ hf => hf.elim)
  rintro pset₂ w₂ ⟨p₂, halong₂, hJ₂, hentries₂⟩
  -- the mode
  rw [post_bind]
  refine post_of_ok (updateMode_eq halong₂ a pset₂) ?_
  dsimp only
  cases hmode : w₀.updatesMode a with
  | false =>
      simp only [Bool.false_eq_true, if_false, post_bind, post_pure]
      exact hblock _ (abort w₂ p₂ _ halong₂ hJ₂ hbegins hmode) _
  | true =>
      have hcommits : w₀.commits a = true := by simp [World.commits, hbegins, hmode]
      have hentries : AtomicReq.otherEntries (w₀.modeEntries a ++ pset₂) = w₀.requested p₀ a := by
        rw [World.otherEntries_mode, hentries₂, hentries₁]
        rfl
      simp only [if_true, post_bind, post_pure]
      refine (commit w₂ p₂ _ halong₂ ?_ hentries hcommits).mono ?_ (fun _ _ hE => hE)
      · rw [World.fbEntries_mode]
        exact hJ₂
      · intro ret w' hQ
        exact hblock w' hQ _

/-- **The frame rule.** `J₁` and `J₂` are kept by the two loops, `Q` is what the
commit, or the lack of one, leaves behind. -/
theorem apply_post {w₀ : World} {p₀ : Parts} {a : FrameAnswers} (h : WellFormed w₀)
    (hp : p₀.Of w₀)
    {J₁ J₂ : Nat → List (Nat × DrmPlane) → World → Parts → AtomicReq → Prop}
    {Q : World → Prop} {E : Fault → World → Prop}
    (h₁ : LoopInv w₀ p₀ a .primary J₁) (h₂ : LoopInv w₀ p₀ a .cursor J₂)
    (hneutral : ∀ {n C w p w' p' req}, Along w₀ p₀ w p → Neutral w p w' p' →
      J₂ n C w p req → J₂ n C w' p' req)
    (hquiet : ∀ w blob, Q w →
      Q (w.setDrm { w.drm with log := .destroyPropertyBlob blob :: w.drm.log }))
    (start : J₁ (p₀.rotations w₀.drm a .primary) (p₀.carried w₀.drm a .primary) w₀ p₀ [])
    (turn : ∀ w p req, Along w₀ p₀ w p → J₁ 0 [] w p req →
      J₂ (p₀.rotations w₀.drm a .cursor) (p₀.carried w₀.drm a .cursor) w p req)
    (stop : a.begins = false → Q w₀)
    (abort : ∀ w p req, Along w₀ p₀ w p → J₂ 0 [] w p req → a.begins = true →
      w₀.updatesMode a = false → Q w)
    (commit : ∀ w p pset, Along w₀ p₀ w p → J₂ 0 [] w p pset.fbEntries →
      w₀.commits a = true → Post (commitFrame a pset) w (fun _ w' => Q w') E) :
    Post (apply a) w₀ (fun _ w' => Q w') E := by
  have hblocked : ∀ w p req, Along w₀ p₀ w p → J₂ 0 [] w p req →
      Along w₀ p₀ (w.blocked (w₀.modeBlock a)) p ∧ J₂ 0 [] (w.blocked (w₀.modeBlock a)) p req := by
    intro w p req halong hJ
    rcases w.blocked_cases p (w₀.modeBlock a) with hsame | hn
    · rw [hsame]
      exact ⟨halong, hJ⟩
    · exact ⟨halong.neutral hn, hneutral halong hn hJ⟩
  refine apply_post_requested h hp h₁ h₂ (fun halong hJ => hneutral halong Neutral.booted hJ)
    hquiet start turn stop ?_ ?_
  · intro w p req halong hJ hbegins hmode
    obtain ⟨halong', hJ'⟩ := hblocked w p req halong hJ
    exact abort _ p req halong' hJ' hbegins hmode
  · intro w p pset halong hJ _ hcommits
    obtain ⟨halong', hJ'⟩ := hblocked w p _ halong hJ
    exact commit _ p pset halong' hJ' hcommits

/-- The frame rule for one slot: `J` is kept by the slot's own loop and, at any
stage, by the loop of the other slot. -/
theorem apply_post_slot {w₀ : World} {p₀ : Parts} {a : FrameAnswers} {s : Slot}
    (h : WellFormed w₀) (hp : p₀.Of w₀)
    {J : Nat → List (Nat × DrmPlane) → World → Parts → AtomicReq → Prop}
    {Q : World → Prop} {E : Fault → World → Prop}
    (own : LoopInv w₀ p₀ a s J)
    (other : ∀ t n C, s ≠ t → LoopInv w₀ p₀ a t fun _ _ => J n C)
    (hneutral : ∀ {n C w p w' p' req}, Along w₀ p₀ w p → Neutral w p w' p' →
      J n C w p req → J n C w' p' req)
    (hquiet : ∀ w blob, Q w →
      Q (w.setDrm { w.drm with log := .destroyPropertyBlob blob :: w.drm.log }))
    (start : J (p₀.rotations w₀.drm a s) (p₀.carried w₀.drm a s) w₀ p₀ [])
    (stop : Q w₀)
    (abort : ∀ w p req, Along w₀ p₀ w p → J 0 [] w p req → Q w)
    (commit : ∀ w p pset, Along w₀ p₀ w p → J 0 [] w p pset.fbEntries →
      w₀.commits a = true → Post (commitFrame a pset) w (fun _ w' => Q w') E) :
    Post (apply a) w₀ (fun _ w' => Q w') E := by
  cases s with
  | primary =>
      exact apply_post h hp own (other .cursor 0 [] (by simp)) hneutral hquiet start
        (fun _ _ _ _ hJ => hJ) (fun _ => stop) (fun w p req ha hJ _ _ => abort w p req ha hJ)
        commit
  | cursor =>
      exact apply_post h hp (other .primary _ _ (by simp)) own hneutral hquiet start
        (fun _ _ _ _ hJ => hJ) (fun _ => stop) (fun w p req ha hJ _ _ => abort w p req ha hJ)
        commit

/-! ## Well-formedness -/

/-- `Apply` keeps a display well-formed. Only a dangling pointer can stop it. -/
theorem WellFormed.apply {w : World} (h : WellFormed w) (a : FrameAnswers) :
    Post (QemuHal.apply a) w (fun _ w' => WellFormed w')
      (fun e w' => WellFormed w' ∧ ∃ s : Slot, e = s.danglingLast) := by
  obtain ⟨p, hp, -⟩ := h.parts
  have htriv : ∀ s, LoopInv w p a s fun _ _ _ _ _ => True :=
    fun _ => ⟨fun _ _ _ _ _ => trivial, fun _ _ _ _ _ _ => trivial⟩
  refine apply_post h hp (htriv .primary) (htriv .cursor) (fun _ _ _ => trivial) ?_ trivial
    (fun _ _ _ _ _ => trivial) (fun _ => h) (fun w' p' _ h' _ _ _ => h'.wf) ?_
  · intro w' blob h'
    obtain ⟨p', hp', -⟩ := h'.parts
    exact h'.neutral hp' (Neutral.destroyBlob blob)
  · intro w' p' pset h' _ _
    refine commitFrame_post h'.wf h'.of (fun _ => h'.wf.refused pset) fun n _ => ?_
    have hof := (h'.of.committed pset n).fenced n
    have hwf := (h'.wf.committed pset n).fenced (h'.of.committed pset n) n
    rw [post_bind]
    refine releaseLast_post hof (fun _ => ?_) (fun _ => ⟨hwf, _, rfl⟩)
    exact releaseLast_post (hof.released _ _)
      (fun _ => (hwf.released hof _ _).released (hof.released _ _) _ _)
      (fun _ => ⟨hwf.released hof _ _, _, rfl⟩)

end QemuHal
