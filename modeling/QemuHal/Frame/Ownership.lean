import QemuHal.Drm.Handles
import QemuHal.Frame.Status

/-!
# Handle ownership

The kernel gives a dma-buf that is imported again the handle it has, and every
`DrmGemBuffer` closes its handle as if it were the only one to have it. A run whose frames
only import dma-bufs that no handle is open on, and destroy no object whose `GEM_CLOSE`
fails, closes every handle once, by its only owner.
-/

namespace QemuHal

open Exec Custody

/-! ## The law -/

/-- `GEM_CLOSE` was only issued on an open handle that no other live object held, and
every handle an import opened was closed once or is held by a live object. -/
def HandlesKept (w : World) : Prop := Kept (custody w.drm.log)

/-- The dma-buf the rotation `i` of the slot imports. -/
def Parts.imported (p : Parts) (d : Drm) (a : FrameAnswers) (s : Slot) (i : Nat) : Option Nat :=
  match (p.layer s).mHdiBuffer with
  | some buf =>
      if i < p.rotations d a s ∧ d.imports buf (a.slot s i).prime = true then d.dmaBufAt buf.mFd
      else none
  | none => none

/-- The objects a frame destroys when it rotates the slot at most twice, each with the
answers its destructor gets. -/
def Parts.discarded (p : Parts) (d : Drm) (a : FrameAnswers) (s : Slot) :
    List (Nat × DropAnswers) :=
  (if 1 ≤ p.rotations d a s then
    (p.layer s).lastBuffer_.toList.map fun gem => (gem, (a.slot s 0).drop) else []) ++
  (if 2 ≤ p.rotations d a s then
    (p.layer s).mCurrentBuffer.toList.map fun gem => (gem, (a.slot s 1).drop) else [])

/-- **Every import of the frame opens a handle**, and every object the frame destroys
gives its handle back. -/
structure Parts.OwnsApart (p : Parts) (d : Drm) (a : FrameAnswers) : Prop where
  client : ∀ b ∈ p.imported d a .primary 0, d.handleOf b = none
  /-- The client layer's object may have been destroyed before. -/
  cursor : ∀ b ∈ p.imported d a .cursor 0, p.imported d a .primary 0 ≠ some b ∧
    ∀ handle ∈ d.handleOf b, ∃ x ∈ p.discarded d a .primary, d.handleAt x.1 = handle
  again : p.imported d a .cursor 1 = none
  taken : ∀ s, ∀ x ∈ p.discarded d a s, d.handleAt x.1 ≠ 0 → x.2.gemClose = true

instance (p : Parts) (d : Drm) (a : FrameAnswers) : Decidable (p.OwnsApart d a) :=
  decidable_of_iff
    ((∀ b ∈ p.imported d a .primary 0, d.handleOf b = none) ∧
      (∀ b ∈ p.imported d a .cursor 0, p.imported d a .primary 0 ≠ some b ∧
        ∀ handle ∈ d.handleOf b, ∃ x ∈ p.discarded d a .primary, d.handleAt x.1 = handle) ∧
      p.imported d a .cursor 1 = none ∧
      ∀ s, ∀ x ∈ p.discarded d a s, d.handleAt x.1 ≠ 0 → x.2.gemClose = true)
    ⟨fun h => ⟨h.1, h.2.1, h.2.2.1, h.2.2.2⟩, fun h => ⟨h.1, h.2, h.3, h.4⟩⟩

/-- The frame keeps its handles apart and, when its request is accepted, releases no
object that is gone. -/
def Op.OwnsApart (w : World) : Op → Prop
  | .commit a => ∀ p ∈ w.parts, p.OwnsApart w.drm a ∧
      (w.accepts a = true → ∀ s, ¬ p.Strands w.drm a s)
  | _ => True

instance (w : World) : (op : Op) → Decidable (op.OwnsApart w)
  | .commit a => inferInstanceAs (Decidable (∀ p ∈ w.parts, p.OwnsApart w.drm a ∧ _))
  | .createLayer .. | .destroyLayer .. | .setLayerZorder .. | .setLayerBuffer ..
  | .setLayerCompositionType .. | .setLayerVisible .. | .setLayerRegion ..
  | .setDisplayClientBuffer .. | .setDisplayMode .. | .prepareDisplayLayers ..
  | .getDisplayCompChange .. | .getDisplayReleaseFence .. | .clientFd .. =>
      inferInstanceAs (Decidable True)

/-! ## A rotation -/

section
variable {w : World} {p : Parts} {s t : Slot} {buf : HdiLayerBuffer} {a : PlaneAnswers}

theorem World.rotate_handleAt (k : Nat) : (w.rotate s p buf a).drm.handleAt k =
    if (p.layer s).lastBuffer_ = some k then 0
    else if k = w.drm.nextGem then (w.drm.newGemBuffer buf a.prime).mGemHandle
    else w.drm.handleAt k := by
  rw [World.rotate_drm, Drm.destroyOwned_handleAt, Drm.newGem_handleAt]

theorem World.rotate_imports (buf' : HdiLayerBuffer) (b : ImportAnswers) :
    (w.rotate s p buf a).drm.imports buf' b = w.drm.imports buf' b := by
  have hfd : (w.rotate s p buf a).drm.drmFd = w.drm.drmFd := by
    rw [World.rotate_drm, ((w.drm.newGem buf a.prime).2.destroyOwned_frame _ _).2.1,
      (w.drm.newGem_fds buf a.prime).2]
  unfold Drm.imports Drm.dmaBufAt
  rw [hfd, World.rotate_fds]

theorem World.rotate_dmaBufAt (fd : Int) :
    (w.rotate s p buf a).drm.dmaBufAt fd = w.drm.dmaBufAt fd := by
  unfold Drm.dmaBufAt
  rw [World.rotate_fds]

/-- The handle of what the layer destroys is the one it had before the import. -/
theorem WellFormed.last_handleAt (h : WellFormed w) (hp : p.Of w) {gem : Nat}
    (hlast : (p.layer s).lastBuffer_ = some gem) :
    (w.drm.newGem buf a.prime).2.handleAt gem = w.drm.handleAt gem := by
  have hne := (h.good hp).ne_next h.sound (Or.inr hlast)
  rw [Drm.newGem_handleAt, if_neg hne]

/-- A rotation that opens a handle, if it imports, and gives back that of the object it
destroys. -/
theorem Drm.Owned.rotate (ho : w.drm.Owned) (h : WellFormed w) (hp : p.Of w)
    (hopens : w.drm.imports buf a.prime = true →
      ∀ b ∈ w.drm.dmaBufAt buf.mFd, w.drm.handleOf b = none)
    (htaken : ∀ gem ∈ (p.layer s).lastBuffer_, w.drm.handleAt gem ≠ 0 →
      a.drop.gemClose = true) : (w.rotate s p buf a).drm.Owned := by
  rw [World.rotate_drm]
  apply (ho.newGem h.sound hopens).destroyOwned
  intro gem hgem hne
  rw [h.last_handleAt hp hgem] at hne
  exact htaken gem hgem hne

/-- A handle that stays open through a rotation was open before, or is the new one. -/
theorem Drm.Owned.rotate_handleOf (ho : w.drm.Owned) (h : WellFormed w) (hp : p.Of w)
    (hopens : w.drm.imports buf a.prime = true →
      ∀ b ∈ w.drm.dmaBufAt buf.mFd, w.drm.handleOf b = none)
    (htaken : ∀ gem ∈ (p.layer s).lastBuffer_, w.drm.handleAt gem ≠ 0 →
      a.drop.gemClose = true) {b : Nat}
    (hother : w.drm.imports buf a.prime = true → w.drm.dmaBufAt buf.mFd ≠ some b)
    (hgone : ∀ handle ∈ w.drm.handleOf b, ∃ gem ∈ (p.layer s).lastBuffer_,
      w.drm.handleAt gem = handle) : (w.rotate s p buf a).drm.handleOf b = none := by
  have hafter : (w.drm.newGem buf a.prime).2.Owned := ho.newGem h.sound hopens
  have hclose : ∀ gem ∈ (p.layer s).lastBuffer_,
      (w.drm.newGem buf a.prime).2.handleAt gem ≠ 0 → a.drop.gemClose = true := by
    intro gem hgem hne
    rw [h.last_handleAt hp hgem] at hne
    exact htaken gem hgem hne
  by_contra hsome
  obtain ⟨e, he, rfl⟩ := Drm.handleOf_ne_none hsome
  rw [World.rotate_drm] at he
  obtain ⟨he, hkept⟩ := (hafter.mem_destroyOwned hclose).1 he
  rcases w.drm.mem_newGem_handles he with he | ⟨himp, hb⟩
  · -- the handle was open before, and its owner is the object the rotation destroys
    obtain ⟨handle, hhandle⟩ := Option.ne_none_iff_exists'.1 (Drm.handleOf_of_mem he)
    obtain ⟨gem, hgem, hat⟩ := hgone handle hhandle
    obtain ⟨e', he', heq, rfl⟩ := Drm.handleOf_eq_some hhandle
    obtain rfl := ho.distinct e he e' he' heq.symm
    have hne : w.drm.handleAt gem ≠ 0 := by
      rw [hat]
      exact h.sound.handles e he
    rw [← h.last_handleAt hp hgem] at hat hne
    exact hkept gem hgem hne hat.symm
  · exact hother himp hb

end

/-! ## The turns of a slot -/

/-- The next `n` rotations of the slot, made with the answers `a`, keep the handles apart. -/
structure Parts.Turns (p : Parts) (d : Drm) (s : Slot) (a : Nat → PlaneAnswers) (n : Nat) :
    Prop where
  bound : n ≤ 2
  opens : 1 ≤ n → ∀ buf ∈ (p.layer s).mHdiBuffer, d.imports buf (a 0).prime = true →
    ∀ b ∈ d.dmaBufAt buf.mFd, d.handleOf b = none
  again : 2 ≤ n → ∀ buf ∈ (p.layer s).mHdiBuffer, d.imports buf (a 1).prime = false
  last : 1 ≤ n → ∀ gem ∈ (p.layer s).lastBuffer_, d.handleAt gem ≠ 0 →
    (a 0).drop.gemClose = true
  current : 2 ≤ n → ∀ gem ∈ (p.layer s).mCurrentBuffer, d.handleAt gem ≠ 0 →
    (a 1).drop.gemClose = true

/-- One turn less. -/
theorem Parts.Turns.rotate {w : World} {p : Parts} {s : Slot} {a : Nat → PlaneAnswers} {n : Nat}
    {buf : HdiLayerBuffer} (ht : p.Turns w.drm s a (n + 1)) (ho : w.drm.Owned)
    (h : WellFormed w) (hp : p.Of w) (hbuf : (p.layer s).mHdiBuffer = some buf) :
    (w.rotate s p buf (a 0)).drm.Owned ∧
      (p.rotate s w.drm.nextGem).Turns (w.rotate s p buf (a 0)).drm s (fun i => a (i + 1)) n := by
  have hopens := ht.opens (by omega) buf hbuf
  have htaken := ht.last (by omega)
  have hlayer : (p.rotate s w.drm.nextGem).layer s = { p.layer s with
      lastBuffer_ := (p.layer s).mCurrentBuffer
      mCurrentBuffer := some w.drm.nextGem } := by simp [Parts.rotate]
  have hbound := ht.bound
  refine ⟨ho.rotate h hp hopens htaken, ?_⟩
  constructor
  · omega
  · intro hn buf' hbuf' himp
    rw [hlayer] at hbuf'
    rw [World.rotate_imports, ht.again (by omega) buf' hbuf'] at himp
    exact absurd himp (by simp)
  · intro hn
    omega
  · intro hn gem hgem hne
    rw [hlayer] at hgem
    have hgem : (p.layer s).mCurrentBuffer = some gem := hgem
    have hapart := (h.good hp).apart s gem hgem
    have hnext := (h.good hp).ne_next h.sound (Or.inl hgem)
    rw [World.rotate_handleAt, if_neg hapart, if_neg hnext] at hne
    exact ht.current (by omega) gem hgem hne
  · intro hn
    omega

/-- A change that the handles, the descriptors and the slot's layer do not see. -/
theorem Parts.Turns.congr {p p' : Parts} {d d' : Drm} {s : Slot} {a : Nat → PlaneAnswers}
    {n : Nat} (h : p.Turns d s a n) (hlayer : p'.layer s = p.layer s)
    (hd : d' = { d with log := d'.log }) : p'.Turns d' s a n := by
  have himp : ∀ buf b, d'.imports buf b = d.imports buf b := by
    intro buf b
    rw [hd]
    rfl
  have hbuf : ∀ fd, d'.dmaBufAt fd = d.dmaBufAt fd := by
    intro fd
    rw [hd]
    rfl
  have hof : ∀ b, d'.handleOf b = d.handleOf b := by
    intro b
    rw [hd]
    rfl
  have hat : ∀ gem, d'.handleAt gem = d.handleAt gem := by
    intro gem
    rw [hd]
    rfl
  constructor
  · exact h.bound
  · rw [hlayer]
    simpa only [himp, hbuf, hof] using h.opens
  · rw [hlayer]
    simpa only [himp] using h.again
  · rw [hlayer]
    simpa only [hat] using h.last
  · rw [hlayer]
    simpa only [hat] using h.current

/-! ## A frame that keeps its handles apart -/

theorem Drm.imports_dmaBufAt {d : Drm} {buf : HdiLayerBuffer} {a : ImportAnswers}
    (h : d.imports buf a = true) : ∃ b, d.dmaBufAt buf.mFd = some b := by
  unfold Drm.imports at h
  simp only [Bool.and_eq_true, Option.isSome_iff_exists] at h
  exact h.1.2

/-- Every rotation but the last of a loop has imported its buffer. -/
theorem rotationsOn_imports {d : Drm} {s : Slot} {a : Nat → PlaneAnswers} {l : HdiLayer}
    {buf : HdiLayerBuffer} {planes : List DrmPlane} :
    ∀ {j k : Nat}, k + 1 < rotationsOn d s a l buf j planes →
      d.imports buf (a (j + k)).prime = true := by
  induction planes with
  | nil => simp [rotationsOn]
  | cons drmPlane planes ih =>
      intro j k hk
      rw [rotationsOn] at hk
      by_cases hrot : rotatesOn s (a j) l buf drmPlane = true
      · rw [if_pos hrot] at hk
        by_cases hs : succeedsOn d s (a j) l buf drmPlane = true
        · rw [if_pos hs] at hk
          cases k with
          | zero =>
              have hcar := carriesOn_of_succeedsOn hs
              unfold carriesOn at hcar
              simp only [Bool.and_eq_true] at hcar
              exact hcar.1.2
          | succ k =>
              have himp := ih (show k + 1 < rotationsOn d s a l buf (j + 1) planes by omega)
              rwa [show j + (k + 1) = j + 1 + k by omega]
        · rw [if_neg hs] at hk
          omega
      · rw [if_neg hrot] at hk
        omega

section
variable {w : World} {p : Parts} {d : Drm} {a : FrameAnswers} {s : Slot} {buf : HdiLayerBuffer}

theorem Parts.imported_eq (hbuf : (p.layer s).mHdiBuffer = some buf) {i : Nat}
    (hi : i < p.rotations d a s) (himp : d.imports buf (a.slot s i).prime = true) :
    p.imported d a s i = d.dmaBufAt buf.mFd := by
  unfold imported
  rw [hbuf]
  exact if_pos ⟨hi, himp⟩

theorem Parts.mem_discarded {x : Nat × DropAnswers} : x ∈ p.discarded d a s ↔
    (1 ≤ p.rotations d a s ∧ (p.layer s).lastBuffer_ = some x.1 ∧ x.2 = (a.slot s 0).drop) ∨
    (2 ≤ p.rotations d a s ∧ (p.layer s).mCurrentBuffer = some x.1 ∧
      x.2 = (a.slot s 1).drop) := by
  have hone : ∀ (o : Option Nat) (b : DropAnswers),
      x ∈ o.toList.map (fun gem => (gem, b)) ↔ o = some x.1 ∧ x.2 = b := by
    intro o b
    cases o with
    | none => simp
    | some gem =>
        simp only [Option.toList_some, List.map_cons, List.map_nil, List.mem_singleton,
          Option.some.injEq, Prod.ext_iff]
        rw [@eq_comm _ x.1 gem]
  unfold discarded
  rw [List.mem_append]
  refine or_congr ?_ ?_
  · split
    · next hn => rw [hone, and_iff_right hn]
    · next hn => simp [hn]
  · split
    · next hn => rw [hone, and_iff_right hn]
    · next hn => simp [hn]

/-- The turns of a slot whose first import opens a handle. -/
theorem Parts.OwnsApart.turns (h : p.OwnsApart d a) {p' : Parts} {d' : Drm}
    (hlayer : p'.layer s = p.layer s) (himp : ∀ buf b, d'.imports buf b = d.imports buf b)
    (hbufs : ∀ fd, d'.dmaBufAt fd = d.dmaBufAt fd)
    (hat : ∀ gem, (p.layer s).Owns gem → d'.handleAt gem = d.handleAt gem)
    (hbound : p.rotations d a s ≤ 2)
    (hagain : 2 ≤ p.rotations d a s → p.imported d a s 1 = none)
    (hopens : ∀ b ∈ p.imported d a s 0, d'.handleOf b = none) :
    p'.Turns d' s (a.slot s) (p.rotations d a s) := by
  constructor
  · exact hbound
  · intro hn buf hbuf hi b hb
    rw [hlayer] at hbuf
    rw [himp] at hi
    rw [hbufs] at hb
    apply hopens
    rw [Parts.imported_eq hbuf (by omega) hi]
    exact hb
  · intro hn buf hbuf
    rw [hlayer] at hbuf
    rw [himp, ← Bool.not_eq_true]
    intro hi
    obtain ⟨b, hb⟩ := Drm.imports_dmaBufAt hi
    have hnone := hagain hn
    rw [Parts.imported_eq hbuf (by omega) hi, hb] at hnone
    exact absurd hnone (by simp)
  · intro hn gem hgem hne
    rw [hlayer] at hgem
    rw [hat gem (Or.inr hgem)] at hne
    exact h.taken s (gem, _) (Parts.mem_discarded.2 (Or.inl ⟨hn, hgem, rfl⟩)) hne
  · intro hn gem hgem hne
    rw [hlayer] at hgem
    rw [hat gem (Or.inl hgem)] at hne
    exact h.taken s (gem, _) (Parts.mem_discarded.2 (Or.inr ⟨hn, hgem, rfl⟩)) hne

/-- A third rotation would follow a second import. -/
theorem Parts.OwnsApart.rotations_cursor_le (h : p.OwnsApart d a) :
    p.rotations d a .cursor ≤ 2 := by
  by_contra hmany
  cases hbuf : (p.layer .cursor).mHdiBuffer with
  | none => simp [Parts.rotations, hbuf] at hmany
  | some buf =>
      have himp : d.imports buf (a.slot .cursor 1).prime = true := by
        have hrot : p.rotations d a .cursor ≤ rotationsOn d .cursor (a.slot .cursor)
            (p.layer .cursor) buf 0 (p.comp.slotPlanes .cursor) := by
          unfold Parts.rotations
          rw [hbuf]
          dsimp only
          split
          · exact Nat.le_refl _
          · exact Nat.zero_le _
        have := @rotationsOn_imports d .cursor (a.slot .cursor) (p.layer .cursor) buf
          (p.comp.slotPlanes .cursor) 0 1 (by omega)
        rwa [Nat.zero_add] at this
      obtain ⟨b, hb⟩ := Drm.imports_dmaBufAt himp
      have hnone := h.again
      rw [Parts.imported_eq hbuf (by omega) himp, hb] at hnone
      exact absurd hnone (by simp)

end

/-- The loop over the client layer has not rotated its slot yet, or has done so once. -/
def FirstTurn (w₀ : World) (p₀ : Parts) (a : FrameAnswers) (n : Nat) (w : World) (p : Parts) :
    Prop :=
  (n = p₀.rotations w₀.drm a .primary ∧ w = w₀ ∧ p = p₀) ∨
    (n = 0 ∧ 1 = p₀.rotations w₀.drm a .primary ∧
      ∃ buf, (p₀.layer .primary).mHdiBuffer = some buf ∧
        w = w₀.rotate .primary p₀ buf (a.plane 0) ∧ p = p₀.rotate .primary w₀.drm.nextGem)

theorem FirstTurn.loopInv {w₀ : World} {p₀ : Parts} {a : FrameAnswers} :
    LoopInv w₀ p₀ a .primary fun n _ w p _ => FirstTurn w₀ p₀ a n w p := by
  have hle := p₀.rotations_primary_le w₀.drm a
  constructor
  · intro j drmPlane w p buf req _ hbuf _ hcount h
    rcases h with ⟨hn, rfl, rfl⟩ | ⟨hn, -⟩
    · obtain rfl : j = 0 := by omega
      exact Or.inr ⟨rfl, hn, buf, hbuf, rfl, rfl⟩
    · omega
  · intro n C j drmPlane w p buf req _ hbuf _ hcount _ h
    rcases h with ⟨hn, rfl, rfl⟩ | ⟨hn, -⟩
    · obtain rfl : j = 0 := by omega
      exact Or.inr ⟨by omega, by omega, buf, hbuf, rfl, rfl⟩
    · omega

section
variable {w : World} {p : Parts} {a : FrameAnswers}

/-- The client layer's turn of a frame that keeps its handles apart. -/
theorem Parts.OwnsApart.turns_primary (h : p.OwnsApart w.drm a) :
    p.Turns w.drm .primary (a.slot .primary) (p.rotations w.drm a .primary) := by
  have hle := p.rotations_primary_le w.drm a
  exact h.turns rfl (fun _ _ => rfl) (fun _ => rfl) (fun _ _ => rfl) (by omega)
    (fun hn => by omega) h.client

/-- **The cursor's turns**, once the client layer has had its own. -/
theorem Parts.OwnsApart.turns_cursor (h : p.OwnsApart w.drm a) (hwf : WellFormed w)
    (hp : p.Of w) (ho : w.drm.Owned) {w' : World} {p' : Parts}
    (hfirst : FirstTurn w p a 0 w' p') :
    w'.drm.Owned ∧ p'.Turns w'.drm .cursor (a.slot .cursor) (p.rotations w.drm a .cursor) := by
  have hbound := h.rotations_cursor_le
  rcases hfirst with ⟨hnone, rfl, rfl⟩ | ⟨-, hone, buf, hbuf, rfl, rfl⟩
  · refine ⟨ho, h.turns rfl (fun _ _ => rfl) (fun _ => rfl) (fun _ _ => rfl) hbound
      (fun _ => h.again) fun b hb => ?_⟩
    -- nothing was destroyed, so no handle is open on the cursor's dma-buf
    by_contra hsome
    obtain ⟨handle, hhandle⟩ := Option.ne_none_iff_exists'.1 hsome
    obtain ⟨x, hx, -⟩ := (h.cursor b hb).2 handle hhandle
    rcases Parts.mem_discarded.1 hx with ⟨hn, -⟩ | ⟨hn, -⟩ <;> omega
  · have hturn := h.turns_primary
    have hopens := hturn.opens (by omega) buf hbuf
    have htaken := hturn.last (by omega)
    have hgood := hwf.good hp
    refine ⟨ho.rotate hwf hp hopens htaken, h.turns rfl (fun _ _ => World.rotate_imports _ _)
      (fun _ => World.rotate_dmaBufAt _) (fun gem hgem => ?_) hbound (fun _ => h.again)
      fun b hb => ?_⟩
    · have hlast : (p.layer .primary).lastBuffer_ ≠ some gem :=
        fun he => absurd (hgood.disjoint _ _ gem hgem (Or.inr he)) (by simp)
      rw [World.rotate_handleAt, if_neg hlast, if_neg (hgood.ne_next hwf.sound hgem)]
    · obtain ⟨hother, hgone⟩ := h.cursor b hb
      apply ho.rotate_handleOf hwf hp hopens htaken
      · intro himp hsame
        rw [Parts.imported_eq hbuf (by omega) himp] at hother
        exact hother hsame
      · intro handle hhandle
        obtain ⟨x, hx, hat⟩ := hgone handle hhandle
        rcases Parts.mem_discarded.1 hx with ⟨-, hgem, -⟩ | ⟨hn, -⟩
        · exact ⟨x.1, hgem, hat⟩
        · omega

/-- The turns of the cursor still to come. -/
theorem Parts.Turns.loopInv {w₀ : World} {p₀ : Parts} {s : Slot} :
    LoopInv w₀ p₀ a s fun n _ w p _ => w.drm.Owned ∧
      p.Turns w.drm s (fun i => a.slot s (p₀.rotations w₀.drm a s - n + i)) n := by
  have hturn : ∀ {n j : Nat} {w : World} {p : Parts} {buf : HdiLayerBuffer}, Along w₀ p₀ w p →
      (p.layer s).mHdiBuffer = some buf → j + (n + 1) = p₀.rotations w₀.drm a s →
      w.drm.Owned ∧ p.Turns w.drm s
        (fun i => a.slot s (p₀.rotations w₀.drm a s - (n + 1) + i)) (n + 1) →
      (w.rotate s p buf (a.slot s j)).drm.Owned ∧
        (p.rotate s w.drm.nextGem).Turns (w.rotate s p buf (a.slot s j)).drm s
          (fun i => a.slot s (p₀.rotations w₀.drm a s - n + i)) n := by
    rintro n j w p buf halong hbuf hcount ⟨ho, ht⟩
    have hj : p₀.rotations w₀.drm a s - (n + 1) = j := by omega
    have hj' : p₀.rotations w₀.drm a s - n = j + 1 := by omega
    rw [hj] at ht
    rw [hj']
    have hnext := ht.rotate ho halong.wf halong.of hbuf
    simp only [Nat.add_zero, Nat.add_assoc, Nat.add_comm 1] at hnext ⊢
    exact hnext
  constructor
  · intro j drmPlane w p buf req halong hbuf _ hcount h
    exact hturn halong hbuf hcount h
  · intro n C j drmPlane w p buf req halong hbuf _ hcount _ h
    exact hturn halong hbuf hcount h

theorem Drm.Owned.neutral {w' : World} {p' : Parts} (ho : w.drm.Owned)
    (hn : Neutral w p w' p') : w'.drm.Owned := by
  obtain ⟨log, hdrm, -, -⟩ := hn.gems
  have hlog : custody w'.drm.log = custody w.drm.log := by
    cases hn with
    | createBlob blob => rfl
    | destroyBlob blob => rfl
    | booted => rfl
  exact ho.congr hlog (fun gem => by rw [hdrm]; rfl) (by rw [hdrm])

theorem Drm.Owned.released {d : Drm} (ho : d.Owned) (s : Slot) (b : DropAnswers) :
    (d.released p s b).Owned := by
  rcases d.released_cases p s b with heq | ⟨gem, g, -, hg, heq⟩
  · rwa [heq]
  · rw [heq]
    exact ho.releaseBuffer hg b

theorem Drm.Owned.releases (ho : w.drm.Owned) (hp : p.Of w) :
    Post (do releaseLast .primary a.release; releaseLast .cursor a.releaseCursor) w
      (fun _ w' => w'.drm.Owned) (fun _ w' => w'.drm.Owned) := by
  have hfirst : (w.released p .primary a.release).drm.Owned := ho.released .primary a.release
  rw [post_bind]
  apply releaseLast_post hp
  · intro _
    apply releaseLast_post (hp.released _ _)
    · exact fun _ => hfirst.released .cursor a.releaseCursor
    · exact fun _ => hfirst
  · exact fun _ => ho

/-- **A frame that keeps its handles apart** leaves every open handle with one owner. -/
theorem Drm.Owned.apply (ho : w.drm.Owned) (h : WellFormed w) (hp : p.Of w)
    (hapart : p.OwnsApart w.drm a) :
    Post (QemuHal.apply a) w (fun _ w' => w'.drm.Owned) (fun _ w' => w'.drm.Owned) := by
  apply apply_post h hp FirstTurn.loopInv (Parts.Turns.loopInv (s := .cursor))
  · rintro n C w' p' w'' p'' req - hn ⟨ho', ht⟩
    obtain ⟨log, hdrm, -, -⟩ := hn.gems
    obtain ⟨b, hparts⟩ := hn.parts
    refine ⟨ho'.neutral hn, ht.congr ?_ ?_⟩
    · rw [hparts]
    · rw [hdrm]
  · exact fun w' blob ho' => ho'.congr rfl (fun _ => rfl) rfl
  · exact Or.inl ⟨rfl, rfl, rfl⟩
  · intro w' p' req _ hfirst
    simpa using hapart.turns_cursor h hp ho hfirst
  · exact fun _ => ho
  · exact fun w' p' req _ hJ _ _ => hJ.1
  · rintro w' p' pset halong ⟨ho', -⟩ -
    apply commitFrame_post halong.wf halong.of
    · exact fun _ => ho'.congr rfl (fun _ => rfl) rfl
    · intro n _
      apply Drm.Owned.releases
      · rw [World.granted, World.fenced_drm]
        exact ho'.congr rfl (fun _ => rfl) rfl
      · exact (halong.of.committed pset n).fenced n

end

/-! ## Runs -/

/-- Nothing but a dangling pointer of the frame stops `Commit`, and there is none. -/
theorem step_elsewhere {w : World} {op : Op} (h : WellFormed w) (hop : op.OwnsApart w) :
    Post (step op) w (fun _ _ => True) (fun e _ => e.Elsewhere) := by
  by_cases hcommit : ∃ a, op = .commit a
  · obtain ⟨a, rfl⟩ := hcommit
    obtain ⟨p, hp, -⟩ := h.parts
    obtain ⟨-, hlive⟩ := hop p (World.parts_of hp)
    show Post (commit a >>= _) w _ _
    rw [post_bind]
    apply (commit_recorded h hp a).mono
    · exact fun _ _ _ => trivial
    · rintro e w' ⟨hacc, s, hs⟩
      exact absurd hs (hlive hacc s)
  · have hno : ∀ a, op ≠ .commit a := fun a ha => hcommit ⟨a, ha⟩
    apply (isCalm_step op hno w h.noneOwned).mono
    · exact fun _ _ _ => trivial
    · exact fun e w' he => he.1

/-- **The step lemma.** -/
theorem Drm.Owned.step {w : World} {op : Op} (h : WellFormed w) (ho : w.drm.Owned)
    (hop : op.OwnsApart w) :
    Post (QemuHal.step op) w (fun _ w' => WellFormed w' ∧ w'.drm.Owned)
      (fun e w' => e.Elsewhere ∧ w'.drm.Owned) := by
  have hstep : Post (QemuHal.step op) w (fun _ w' => WellFormed w' ∧ w'.drm.Owned)
      (fun _ w' => w'.drm.Owned) := by
    apply step_post h ho
    · rintro w' w'' - hc ho'
      obtain ⟨fds, hdrm⟩ := hc.drm
      rw [hdrm]
      exact ho'.setFds fds
    · intro w' p' _ hp' ho'
      rwa [World.setLayer_drm]
    · exact fun e w' _ _ ho' => ho'
    · rintro a rfl
      obtain ⟨p, hp, -⟩ := h.parts
      exact ho.apply h hp (hop p (World.parts_of hp)).1
  apply (hstep.and (step_elsewhere h hop)).mono
  · exact fun _ _ hw => hw.1
  · exact fun _ _ hw => ⟨hw.2, hw.1⟩

/-- No handle is open on the buffer allocated for the first frame. -/
theorem allocMem_handleOf {d d' : Drm} {mode : DrmMode} {answer : Option (Int × Nat × Int)}
    {buffer : BufferHandle} (hfds : ∀ fd < 0, d.fds fd = none)
    (halloc : d.allocMem mode answer = (some buffer, d')) (dup : Option Int) :
    ∀ b ∈ (HdiLayerBuffer.new d' buffer dup).2.dmaBufAt (HdiLayerBuffer.new d' buffer dup).1.mFd,
      d.handleOf b = none := by
  unfold Drm.allocMem at halloc
  split at halloc
  · next fd dmaBuf stride =>
      split at halloc
      · next hfree =>
          obtain ⟨hbuffer, rfl⟩ := Prod.mk.inj halloc
          obtain rfl := Option.some.inj hbuffer
          intro b hb
          have hneg : d.fds (-1) = none := hfds _ (by decide)
          rcases Drm.dup_dmaBufAt { d with fds := Function.update d.fds fd (some
              ⟨.dmaBuf (Drm.freshId (d.handles.map Prod.snd) dmaBuf), true⟩) } fd dup with
            hdup | ⟨-, -, hdup⟩
          · simp only [HdiLayerBuffer.new, hdup, Drm.dmaBufAt,
              Function.update_of_ne (show (-1 : Int) ≠ fd by omega), hneg] at hb
            exact absurd hb (by simp)
          · have hb := hdup.symm.trans hb
            simp only [Drm.dmaBufAt, Function.update_self, Option.some.injEq] at hb
            by_contra hsome
            obtain ⟨e, he, heq⟩ := Drm.handleOf_ne_none hsome
            apply Drm.freshId_not_mem (d.handles.map Prod.snd) dmaBuf
            rw [hb, ← heq]
            exact List.mem_map_of_mem he
      · exact absurd halloc (by simp)
  · exact absurd halloc (by simp)

/-- The first frame imports its buffer and destroys nothing. -/
theorem Drm.Owned.init {w₀ w : World} {a : InitAnswers} (hfresh : Fresh w₀) (ho : w₀.drm.Owned)
    (hfds : ∀ fd < 0, w₀.drm.fds fd = none) (hinit : drmDisplayInit a w₀ = .ok .success w) :
    w.drm.Owned := by
  obtain ⟨w₁, c, mode, d, buffer, ret, hc, -, hdrm, hdisp, halloc, happ⟩ :=
    (drmDisplayInit_post w₀ a).of_ok hinit rfl
  have hfirst := allocMem_handleOf hfds halloc a.dup.buffer
  obtain ⟨fds, rfl⟩ := allocMem_frame halloc
  obtain ⟨fds', hframe⟩ := HdiLayerBuffer.new_frame { w₀.drm with fds := fds } buffer a.dup.buffer
  have hcursor : w₁.disp.mCursorLayer = some {} := by rw [hdisp]
  have hwf : WellFormed (w₁.primed c { w₀.drm with fds := fds } buffer a.dup) :=
    primed_wellFormed hfresh hc ⟨_, rfl⟩ hdisp
  have hp := primedParts_of c { w₀.drm with fds := fds } buffer a.dup hcursor
  generalize hbuf : (HdiLayerBuffer.new { w₀.drm with fds := fds } buffer a.dup.buffer).1 = buf
    at hp hfirst
  have hprimed : (w₁.primed c { w₀.drm with fds := fds } buffer a.dup).drm =
      { w₀.drm with fds := fds' } := hframe
  rw [hframe] at hfirst
  -- no layer owns an object yet, and there is no cursor layer
  have hnone : ∀ s, ((c.primedParts buf).layer s).lastBuffer_ = none ∧
      ((c.primedParts buf).layer s).mCurrentBuffer = none := by
    intro s
    cases s <;> exact ⟨rfl, rfl⟩
  have hnocursor : ∀ i, (c.primedParts buf).imported { w₀.drm with fds := fds' } a.firstFrame
      .cursor i = none := fun i => rfl
  have hapart : (c.primedParts buf).OwnsApart
      (w₁.primed c { w₀.drm with fds := fds } buffer a.dup).drm a.firstFrame := by
    rw [hprimed]
    constructor
    · intro b hb
      unfold Parts.imported at hb
      have hlayer : ((c.primedParts buf).layer .primary).mHdiBuffer = some buf := rfl
      rw [hlayer] at hb
      dsimp only at hb
      split at hb
      · exact hfirst b hb
      · exact absurd hb (by simp)
    · intro b hb
      rw [hnocursor] at hb
      exact absurd hb (by simp)
    · exact hnocursor 1
    · intro s x hx
      rcases Parts.mem_discarded.1 hx with ⟨-, hgem, -⟩ | ⟨-, hgem, -⟩
      · rw [(hnone s).1] at hgem
        exact absurd hgem (by simp)
      · rw [(hnone s).2] at hgem
        exact absurd hgem (by simp)
  have ho' : (w₁.primed c { w₀.drm with fds := fds } buffer a.dup).drm.Owned := by
    rw [hprimed]
    exact ho.setFds fds'
  exact (ho'.apply hwf hp hapart).of_ok happ

/-- **Handle ownership.** From an `Init` on a DRM file whose open handles have one owner
each, in a run whose frames keep their handles apart, every `GEM_CLOSE` is issued by the
only owner of an open handle, every handle is closed once or still owned, and no frame
releases an object that is gone. -/
theorem gemHandles_kept {w₀ w : World} {a : InitAnswers} (hfresh : Fresh w₀)
    (ho : w₀.drm.Owned) (hfds : ∀ fd < 0, w₀.drm.fds fd = none)
    (hinit : drmDisplayInit a w₀ = .ok .success w) {ops : List Op}
    (hops : Meets step (fun w op => op.OwnsApart w) w ops) :
    Post (run step ops) w (fun _ w' => HandlesKept w')
      (fun e w' => e.Elsewhere ∧ HandlesKept w') := by
  have hwf : WellFormed w := Initialised.wellFormed ⟨w₀, a, hfresh, hinit⟩
  have hrun : Post (run step ops) w (fun _ w' => WellFormed w' ∧ w'.drm.Owned)
      (fun e w' => e.Elsewhere ∧ w'.drm.Owned) :=
    run_post (I := fun w => WellFormed w ∧ w.drm.Owned) (fun _ _ hI hop => hI.2.step hI.1 hop)
      ⟨hwf, ho.init hfresh hfds hinit⟩ hops
  apply hrun.mono
  · exact fun _ _ hw => hw.2.sole.kept
  · exact fun _ _ hw => ⟨hw.1, hw.2.sole.kept⟩

theorem smallDisplay_owned (cursorPlanes : List Nat) :
    (smallDisplay cursorPlanes).drm.Owned where
  sole := Sole.nil
  held := by
    intro handle gem
    have hzero : (smallDisplay cursorPlanes).drm.handleAt gem = 0 := rfl
    rw [hzero]
    constructor
    · intro h
      exact absurd h (by simp [smallDisplay, custody, holders])
    · rintro ⟨hne, rfl⟩
      exact absurd rfl hne
  opened := by simp [smallDisplay, custody, isOut]
  distinct := by simp [smallDisplay]

/-- A frame of a buffer of its own. -/
theorem gemHandles_kept_newBuffer :
    ∃ rets w', run step
        [.clientFd 30 (some (.dmaBuf 101)),
          .setDisplayClientBuffer (some ⟨30, 640, 480, 2560, 20, 0⟩) (-1) { buffer := some 31 },
          .commit (frame (some 2) (some 2) (some 21))]
        (smallBoot []) = .ok rets w' ∧ HandlesKept w' := by
  have hret : returns (run step
      [.clientFd 30 (some (.dmaBuf 101)),
        .setDisplayClientBuffer (some ⟨30, 640, 480, 2560, 20, 0⟩) (-1) { buffer := some 31 },
        .commit (frame (some 2) (some 2) (some 21))])
      (smallBoot []) (fun _ _ => true) = true := by decide +kernel
  obtain ⟨rets, w', hrun, -⟩ := returns_iff.1 hret
  have hops : Meets step (fun w op => op.OwnsApart w) (smallBoot [])
      [.clientFd 30 (some (.dmaBuf 101)),
        .setDisplayClientBuffer (some ⟨30, 640, 480, 2560, 20, 0⟩) (-1) { buffer := some 31 },
        .commit (frame (some 2) (some 2) (some 21))] := by decide +kernel
  have hkept := gemHandles_kept (smallDisplay_fresh (by decide)) (smallDisplay_owned [])
    (fun _ _ => rfl) (smallBoot_eq (by decide +kernel)) hops
  exact ⟨rets, w', hrun, hkept.of_ok hrun⟩

/-- **A buffer committed twice loses its handle.** The new object gets the handle of the
first frame's, and the release after the commit closes it. -/
theorem gemHandles_shared :
    Initialised (smallBoot []) ∧
      ∃ rets w', run step [.commit (frame (some 2) (some 2) (some 21))] (smallBoot []) =
        .ok rets w' ∧ ¬ HandlesKept w' := by
  refine ⟨smallBoot_initialised (by decide) (by decide +kernel), ?_⟩
  have hrun : returns (run step [.commit (frame (some 2) (some 2) (some 21))]) (smallBoot [])
      (fun _ w' => !decide (Proper (custody w'.drm.log))) = true := by decide +kernel
  obtain ⟨rets, w', hok, hbad⟩ := returns_iff.1 hrun
  refine ⟨rets, w', hok, fun hkept => ?_⟩
  exact absurd hkept.1 (by simpa using hbad)

end QemuHal
