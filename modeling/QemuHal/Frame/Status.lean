import Mathlib.Data.Fintype.Basic
import QemuHal.Frame.Lifetime

/-!
# The status of a frame

What `Commit` tells its caller, against what was committed. `Apply` overwrites the
status of its two loops with that of `UpdateMode`, and `Commit` drops the status
of the composer, so the two agree only on frames in which nothing goes wrong.
`frameLaw_iff` says exactly which.
-/

namespace QemuHal

open Exec

/-! ## Failing calls -/

/-- The layer is applied to every plane with success. -/
def succeedsOnAll (d : Drm) (s : Slot) (a : Nat → PlaneAnswers) (l : HdiLayer)
    (buf : HdiLayerBuffer) : Nat → List DrmPlane → Bool
  | _, [] => true
  | j, drmPlane :: planes =>
      succeedsOn d s (a j) l buf drmPlane && succeedsOnAll d s a l buf (j + 1) planes

/-- A call of `ApplyPlane` (or `ApplyCursor`) in the loop of the slot fails. -/
def Parts.fails (p : Parts) (d : Drm) (a : FrameAnswers) (s : Slot) : Bool :=
  match (p.layer s).mHdiBuffer with
  | some buf =>
      p.enters a s && !succeedsOnAll d s (a.slot s) (p.layer s) buf 0 (p.comp.slotPlanes s)
  | none => false

theorem carriesOn_of_succeedsOn {d : Drm} {s : Slot} {a : PlaneAnswers} {l : HdiLayer}
    {buf : HdiLayerBuffer} {drmPlane : DrmPlane}
    (h : succeedsOn d s a l buf drmPlane = true) : carriesOn d s a l buf drmPlane = true := by
  unfold succeedsOn at h
  rw [Bool.and_eq_true] at h
  exact h.1

/-- A loop without a failure puts a framebuffer on every plane. -/
theorem carriedOn_covers {d : Drm} {s : Slot} {a : Nat → PlaneAnswers} {l : HdiLayer}
    {buf : HdiLayerBuffer} {planes : List DrmPlane} :
    ∀ {j : Nat}, succeedsOnAll d s a l buf j planes = true →
      ∀ drmPlane ∈ planes, ∃ i, (i, drmPlane) ∈ carriedOn d s a l buf j planes := by
  induction planes with
  | nil => simp
  | cons first planes ih =>
      intro j h drmPlane hmem
      rw [succeedsOnAll, Bool.and_eq_true] at h
      rw [carriedOn, if_pos (carriesOn_of_succeedsOn h.1), if_pos h.1]
      rcases List.mem_cons.1 hmem with rfl | hmem
      · exact ⟨j, List.mem_cons_self⟩
      · obtain ⟨i, hi⟩ := ih h.2 drmPlane hmem
        exact ⟨i, List.mem_cons_of_mem _ hi⟩

theorem carriedOn_mem {d : Drm} {s : Slot} {a : Nat → PlaneAnswers} {l : HdiLayer}
    {buf : HdiLayerBuffer} {planes : List DrmPlane} {x : Nat × DrmPlane} :
    ∀ {j : Nat}, x ∈ carriedOn d s a l buf j planes → x.2 ∈ planes := by
  induction planes with
  | nil => simp [carriedOn]
  | cons first planes ih =>
      intro j hx
      rw [carriedOn] at hx
      split at hx
      · rcases List.mem_cons.1 hx with rfl | hx
        · exact List.mem_cons_self
        · split at hx
          · exact List.mem_cons_of_mem _ (ih hx)
          · simp at hx
      · simp at hx

theorem Parts.carried_planeIds {p : Parts} {d : Drm} {a : FrameAnswers} {s : Slot}
    {x : Nat × DrmPlane} (hx : x ∈ p.carried d a s) : x.2.mId ∈ p.comp.planeIds s := by
  obtain ⟨buf, -, -, hon⟩ := Parts.mem_carried.1 hx
  exact List.mem_map_of_mem (carriedOn_mem hon)

/-! ## What a request asks for -/

/-- The remembered object of a slot is destroyed by the end of the loops. -/
def Parts.Strands (p : Parts) (d : Drm) (a : FrameAnswers) (s : Slot) : Prop :=
  ∃ b ∈ p.comp.lastGem s, d.gems b = none ∨ b ∈ p.doomed d a s

instance (p : Parts) (d : Drm) (a : FrameAnswers) (s : Slot) : Decidable (p.Strands d a s) :=
  inferInstanceAs (Decidable (∃ b ∈ p.comp.lastGem s, _))

/-- The request has an entry for each plane of the slot that got a framebuffer, except
for those of `C`, and no other. -/
structure Asked (p₀ : Parts) (d₀ : Drm) (a : FrameAnswers) (s : Slot)
    (C : List (Nat × DrmPlane)) (req : AtomicReq) : Prop where
  rest : ∀ x ∈ C, x ∈ p₀.carried d₀ a s
  put : ∀ x ∈ p₀.carried d₀ a s, x ∈ C ∨ ∃ fb ∈ req.values (.plane x.2.mId) .fbId,
    fb ≠ 0 ↔ (a.slot s x.1).prime.fb ≠ none
  source : ∀ q ∈ p₀.comp.planeIds s, ∀ fb ∈ req.values (.plane q) .fbId,
    ∃ x ∈ p₀.carried d₀ a s, x.2.mId = q ∧ (fb ≠ 0 ↔ (a.slot s x.1).prime.fb ≠ none)

/-- The remembered object is destroyed now or by one of the `n` rotations to come. -/
def Parts.StrandsIn (p : Parts) (d : Drm) (s : Slot) (n : Nat) : Prop :=
  ∃ b, p.comp.lastGem s = some b ∧
    (d.gems b = none ∨ (1 ≤ n ∧ (p.layer s).lastBuffer_ = some b) ∨
      (2 ≤ n ∧ (p.layer s).mCurrentBuffer = some b))

theorem Parts.strandsIn_rotations {p : Parts} {d : Drm} {a : FrameAnswers} {s : Slot} :
    p.StrandsIn d s (p.rotations d a s) ↔ p.Strands d a s := by
  unfold StrandsIn Strands doomed
  refine exists_congr fun b => and_congr_right fun _ => or_congr_right ?_
  rw [List.mem_append]
  refine or_congr ?_ ?_
  · by_cases hn : 1 ≤ p.rotations d a s <;> simp [hn]
  · by_cases hn : 2 ≤ p.rotations d a s <;> simp [hn]

theorem Parts.strandsIn_zero {p : Parts} {d : Drm} {s : Slot} :
    p.StrandsIn d s 0 ↔ p.Dangles d s := by
  unfold StrandsIn Dangles
  simp

/-- A rotation of the slot. -/
theorem Parts.Good.strandsIn_rotate {w : World} {p : Parts} (h : p.Good w.drm) {s : Slot}
    {n : Nat} {buf : HdiLayerBuffer} {a : PlaneAnswers} :
    (p.rotate s w.drm.nextGem).StrandsIn (w.rotate s p buf a).drm s n ↔
      p.StrandsIn w.drm s (n + 1) := by
  unfold Parts.StrandsIn
  have hlast : (p.rotate s w.drm.nextGem).comp.lastGem s = p.comp.lastGem s := by
    simp [Parts.rotate]
  rw [hlast]
  refine exists_congr fun b => and_congr_right fun hb => ?_
  have hlt := (h.remembered s b hb).1
  rw [World.rotate_gems, if_neg (show b ≠ w.drm.nextGem by omega)]
  simp only [Parts.rotate, Function.update_self]
  have hnew : some w.drm.nextGem ≠ some b := fun he => by
    have := Option.some.inj he
    omega
  by_cases hold : (p.layer s).lastBuffer_ = some b
  · simp [hold]
  · simp [hold, hnew]

/-- A rotation of the other slot. -/
theorem Parts.Good.strandsIn_rotate_other {w : World} {p : Parts} (h : p.Good w.drm)
    {s t : Slot} (hne : s ≠ t) {n : Nat} {buf : HdiLayerBuffer} {a : PlaneAnswers} :
    (p.rotate t w.drm.nextGem).StrandsIn (w.rotate t p buf a).drm s n ↔
      p.StrandsIn w.drm s n := by
  unfold Parts.StrandsIn
  have hlast : (p.rotate t w.drm.nextGem).comp.lastGem s = p.comp.lastGem s := by
    simp [Parts.rotate]
  rw [hlast]
  refine exists_congr fun b => and_congr_right fun hb => ?_
  obtain ⟨hlt, hown⟩ := h.remembered s b hb
  rw [World.rotate_gems, if_neg (show b ≠ w.drm.nextGem by omega)]
  simp only [Parts.rotate, Function.update_of_ne hne]
  by_cases hold : (p.layer t).lastBuffer_ = some b
  · -- an object the other slot owns is remembered by this one only when it is dead
    have hdead : w.drm.gems b = none := by
      by_contra hlive
      exact hne (h.disjoint s t b (hown hlive) (Or.inr hold))
    simp [hdead]
  · simp [hold]

/-- What the loops keep of a slot until the request is committed. -/
structure Staged (w₀ : World) (p₀ : Parts) (a : FrameAnswers) (s : Slot) (n : Nat)
    (C : List (Nat × DrmPlane)) (w : World) (p : Parts) (req : AtomicReq) : Prop where
  asked : Asked p₀ w₀.drm a s C req
  strands : p.StrandsIn w.drm s n ↔ p₀.Strands w₀.drm a s

namespace Staged

variable {w₀ : World} {p₀ : Parts} {a : FrameAnswers} {s t : Slot}

theorem start : Staged w₀ p₀ a s (p₀.rotations w₀.drm a s) (p₀.carried w₀.drm a s) w₀ p₀ [] where
  asked := ⟨fun _ hx => hx, fun _ hx => Or.inl hx, by simp⟩
  strands := Parts.strandsIn_rotations

/-- The slot's own loop. -/
theorem loopInv : LoopInv w₀ p₀ a s (Staged w₀ p₀ a s) := by
  constructor
  · intro j drmPlane w p buf req halong _ _ _ hJ
    refine ⟨hJ.asked, ?_⟩
    rw [(halong.wf.good halong.of).strandsIn_rotate]
    exact hJ.strands
  · intro n C j drmPlane w p buf req halong _ _ _ himp hJ
    have hcar : (j, drmPlane) ∈ p₀.carried w₀.drm a s := hJ.asked.rest _ List.mem_cons_self
    have hnew : (fbEntry drmPlane (w.drm.newGemBuffer buf (a.slot s j).prime)).value ≠ 0 ↔
        (a.slot s j).prime.fb ≠ none := by
      have hvalid : (w.drm.newGemBuffer buf (a.slot s j).prime).isValid = true := by
        rw [Drm.newGemBuffer_isValid halong.wf.sound, himp]
      dsimp only [fbEntry]
      rw [ne_eq, ne_eq, ← Drm.newGemBuffer_mFdId hvalid, Int.natCast_eq_zero]
    refine ⟨⟨fun x hx => hJ.asked.rest x (List.mem_cons_of_mem _ hx), fun x hx => ?_,
      fun q hq fb hfb => ?_⟩, ?_⟩
    · rw [values_cons]
      rcases hJ.asked.put x hx with hC | ⟨fb, hfb, hiff⟩
      · rcases List.mem_cons.1 hC with rfl | hC
        · right
          refine ⟨_, ?_, hnew⟩
          simp [fbEntry]
        · exact Or.inl hC
      · right
        refine ⟨fb, ?_, hiff⟩
        split
        · exact List.mem_cons_of_mem _ hfb
        · exact hfb
    · rw [values_cons] at hfb
      split at hfb
      · next hthis =>
          rcases List.mem_cons.1 hfb with rfl | hfb
          · have hid : drmPlane.mId = q := by simpa [fbEntry] using hthis
            exact ⟨(j, drmPlane), hcar, hid, hnew⟩
          · exact hJ.asked.source q hq fb hfb
      · exact hJ.asked.source q hq fb hfb
    · rw [(halong.wf.good halong.of).strandsIn_rotate]
      exact hJ.strands

/-- The loop of the other slot. -/
theorem loopInv_other (hne : s ≠ t) {n : Nat} {C : List (Nat × DrmPlane)} :
    LoopInv w₀ p₀ a t fun _ _ => Staged w₀ p₀ a s n C := by
  constructor
  · intro j drmPlane w p buf req halong _ _ _ hJ
    refine ⟨hJ.asked, ?_⟩
    rw [(halong.wf.good halong.of).strandsIn_rotate_other hne]
    exact hJ.strands
  · intro n' C' j drmPlane w p buf req halong _ hmem _ _ hJ
    have hids : p.comp.planeIds s = p₀.comp.planeIds s := by
      unfold HdiDrmComposition.planeIds
      rw [halong.slotPlanes]
    have hsame : ∀ q ∈ p₀.comp.planeIds s,
        AtomicReq.values (fbEntry drmPlane (w.drm.newGemBuffer buf (a.slot t j).prime) :: req)
          (.plane q) .fbId = req.values (.plane q) .fbId := fun q hq =>
      Parts.values_put_other (halong.wf.good halong.of) hne (by rwa [halong.slotPlanes])
        (by rwa [hids])
    refine ⟨⟨hJ.asked.rest, fun x hx => ?_, fun q hq fb hfb => ?_⟩, ?_⟩
    · refine (hJ.asked.put x hx).imp_right fun hput => ?_
      rw [hsame _ (p₀.carried_planeIds hx)]
      exact hput
    · rw [hsame q hq] at hfb
      exact hJ.asked.source q hq fb hfb
    · rw [(halong.wf.good halong.of).strandsIn_rotate_other hne]
      exact hJ.strands

theorem neutral {n : Nat} {C : List (Nat × DrmPlane)} {w w' : World} {p p' : Parts}
    {req : AtomicReq} (hn : Neutral w p w' p') (h : Staged w₀ p₀ a s n C w p req) :
    Staged w₀ p₀ a s n C w' p' req := by
  refine ⟨h.asked, Iff.trans ?_ h.strands⟩
  obtain ⟨b, hparts⟩ := hn.parts
  obtain ⟨log, hdrm, -, -⟩ := hn.gems
  rw [hparts, hdrm]
  cases s <;> exact Iff.rfl

/-- The loop of the client layer, before that of the cursor layer. -/
theorem primaryLoop : LoopInv w₀ p₀ a .primary fun n C w p req =>
    Staged w₀ p₀ a .primary n C w p req ∧ Staged w₀ p₀ a .cursor
      (p₀.rotations w₀.drm a .cursor) (p₀.carried w₀.drm a .cursor) w p req := by
  have hown : LoopInv w₀ p₀ a .primary (Staged w₀ p₀ a .primary) := loopInv
  have hother : LoopInv w₀ p₀ a .primary (fun _ _ => Staged w₀ p₀ a .cursor
      (p₀.rotations w₀.drm a .cursor) (p₀.carried w₀.drm a .cursor)) := loopInv_other (by simp)
  exact ⟨fun ha hb hm hc hJ => ⟨hown.rotate ha hb hm hc hJ.1, hother.rotate ha hb hm hc hJ.2⟩,
    fun ha hb hm hc hi hJ => ⟨hown.carry ha hb hm hc hi hJ.1,
      hother.carry (C := []) ha hb hm hc hi hJ.2⟩⟩

/-- The loop of the cursor layer, once that of the client layer is over. -/
theorem cursorLoop : LoopInv w₀ p₀ a .cursor fun n C w p req =>
    Staged w₀ p₀ a .primary 0 [] w p req ∧ Staged w₀ p₀ a .cursor n C w p req := by
  have hown : LoopInv w₀ p₀ a .cursor (Staged w₀ p₀ a .cursor) := loopInv
  have hother : LoopInv w₀ p₀ a .cursor (fun _ _ => Staged w₀ p₀ a .primary 0 []) :=
    loopInv_other (by simp)
  exact ⟨fun ha hb hm hc hJ => ⟨hother.rotate ha hb hm hc hJ.1, hown.rotate ha hb hm hc hJ.2⟩,
    fun ha hb hm hc hi hJ => ⟨hother.carry (C := []) ha hb hm hc hi hJ.1,
      hown.carry ha hb hm hc hi hJ.2⟩⟩

/-- After both loops every framebuffer is asked for. -/
theorem asked_all {w : World} {p : Parts} {pset : AtomicReq}
    (h : Staged w₀ p₀ a .primary 0 [] w p pset.fbEntries ∧
      Staged w₀ p₀ a .cursor 0 [] w p pset.fbEntries) (s : Slot) :
    Asked p₀ w₀.drm a s [] pset := by
  have hall : Asked p₀ w₀.drm a s [] pset.fbEntries := by
    cases s with
    | primary => exact h.1.asked
    | cursor => exact h.2.asked
  refine ⟨hall.rest, fun x hx => ?_, fun q hq fb hfb => ?_⟩
  · rw [← AtomicReq.values_fbEntries]
    exact hall.put x hx
  · rw [← AtomicReq.values_fbEntries] at hfb
    exact hall.source q hq fb hfb

end Staged

/-! ## What a frame records -/

/-- What `Commit` has done to the record of commits when it returns. -/
def Recorded (w : World) (p : Parts) (a : FrameAnswers) (w' : World) : Prop :=
  (w.commits a = false ∧ commits w'.drm.log = commits w.drm.log) ∨
    ∃ c, w.commits a = true ∧ commits w'.drm.log = c :: commits w.drm.log ∧
      (c.fence ≠ none ↔ w.accepts a = true) ∧
      (w.accepts a = true → ∀ s, ¬ p.Strands w.drm a s) ∧ ∀ s, Asked p w.drm a s [] c.pset

theorem Recorded.congr {w w' w'' : World} {p : Parts} {a : FrameAnswers}
    (h : Recorded w p a w') (hcommits : commits w''.drm.log = commits w'.drm.log) :
    Recorded w p a w'' := by
  unfold Recorded
  rw [hcommits]
  exact h

/-- The two releases of an accepted commit. -/
theorem releases_post {w : World} {p : Parts} (hp : p.Of w) (a : FrameAnswers)
    {Q : World → Prop} {E : Fault → World → Prop}
    (hlive : ∀ w', (∀ s, ¬ p.Dangles w.drm s) → commits w'.drm.log = commits w.drm.log → Q w')
    (hdead : ∀ e w', (∃ s, p.Dangles w.drm s) → E e w') :
    Post (do releaseLast .primary a.release; releaseLast .cursor a.releaseCursor) w
      (fun _ w' => Q w') E := by
  rw [post_bind]
  refine releaseLast_post hp (fun hprimary => ?_) (fun hd => hdead _ _ ⟨_, hd⟩)
  have hfirst := w.drm.released_frame p .primary a.release
  have hsame : (p.released .primary).Dangles (w.released p .primary a.release).drm .cursor ↔
      p.Dangles w.drm .cursor :=
    exists_congr fun gem => and_congr_right fun _ => hfirst.2.2.2.2 gem
  refine releaseLast_post (hp.released _ _) (fun hcursor => ?_)
    (fun hd => hdead _ _ ⟨.cursor, hsame.1 hd⟩)
  refine hlive _ (fun s => ?_) ?_
  · cases s with
    | primary => exact hprimary
    | cursor => exact fun hd => hcursor (hsame.2 hd)
  · have hsecond := (w.released p .primary a.release).drm.released_frame (p.released .primary)
      .cursor a.releaseCursor
    exact hsecond.2.2.2.1.trans hfirst.2.2.2.1

/-- **What `Commit` does**, in terms of what the answers decide: it returns success
unless it stops at a remembered object that is gone. -/
theorem commit_recorded {w : World} {p : Parts} (h : WellFormed w) (hp : p.Of w)
    (a : FrameAnswers) :
    Post (commit a) w (fun r w' => r.1 = .success ∧ Recorded w p a w')
      (fun _ _ => w.accepts a = true ∧ ∃ s, p.Strands w.drm a s) := by
  refine commit_post h (Q := fun _ w' => Recorded w p a w') ?_
  have hpop : ∀ w', Recorded w p a w' → ∀ p' : Parts, p'.Of w' → Recorded w p a
      (w'.setLayer .client (p'.layer .primary).getReleaseFenceFd.2) :=
    fun w' hR p' _ => hR.congr (by simp)
  refine (apply_post (Q := Recorded w p a) h hp Staged.primaryLoop Staged.cursorLoop
    (fun _ hn hJ => ⟨hJ.1.neutral hn, hJ.2.neutral hn⟩) (fun _ _ hQ => hQ.congr rfl)
    ⟨Staged.start, Staged.start⟩ (fun _ _ _ _ hJ => hJ) (fun hb => ?_)
    (fun w' p' req halong _ _ hmode => ?_) (fun w' p' pset halong hJ hcommits => ?_)).mono
    (fun _ w' hR => hpop w' hR) (fun _ _ hE => hE)
  · exact Or.inl ⟨by simp [World.commits, hb], rfl⟩
  · exact Or.inl ⟨by simp [World.commits, hmode], halong.commits⟩
  · have hgrants : ∀ n, a.grants w'.drm n ↔ a.grants w.drm n := by
      intro n
      unfold FrameAnswers.grants
      rw [halong.fds]
    have hasked : ∀ s, Asked p w.drm a s [] pset := Staged.asked_all hJ
    have hdangles : ∀ s, p'.Dangles w'.drm s ↔ p.Strands w.drm a s := by
      intro s
      rw [← Parts.strandsIn_zero]
      cases s with
      | primary => exact hJ.1.strands
      | cursor => exact hJ.2.strands
    refine commitFrame_post halong.wf halong.of (fun hno => ?_) fun n hn => ?_
    · have hrefused : ¬ w.accepts a = true := by
        rw [World.accepts_iff]
        rintro ⟨-, n, hn⟩
        exact hno n ((hgrants n).2 hn)
      refine Or.inr ⟨⟨pset, w'.drm.fbs.map Prod.fst, none⟩, hcommits, ?_, by simp [hrefused],
        fun hacc => absurd hacc hrefused, hasked⟩
      show _ :: commits w'.drm.log = _
      rw [halong.commits]
    · have hacc : w.accepts a = true := World.accepts_iff.2 ⟨hcommits, n, (hgrants n).1 hn⟩
      have hsame : ∀ s, (p'.fenced n).Dangles (w'.granted p' pset n).drm s ↔
          p'.Dangles w'.drm s := by
        intro s
        unfold World.granted
        rw [World.fenced_drm]
        exact Iff.rfl
      refine releases_post ((halong.of.committed pset n).fenced n) a (fun w'' hlive hlog => ?_)
        (fun _ _ hd => ⟨hacc, ?_⟩)
      · refine Or.inr ⟨⟨pset, w'.drm.fbs.map Prod.fst, some n⟩, hcommits, ?_, by simp [hacc],
          fun _ s hs => hlive s ((hsame s).2 ((hdangles s).2 hs)), hasked⟩
        rw [hlog, World.fenced_drm]
        show _ :: commits w'.drm.log = _
        rw [halong.commits]
      · obtain ⟨s, hs⟩ := hd
        exact ⟨s, (hdangles s).1 ((hsame s).1 hs)⟩

/-! ## The law of a frame -/

/-- `ApplyPlane`, `ApplyCursor` or `UpdateMode` fails in the frame. -/
def World.fails (w : World) (a : FrameAnswers) : Prop :=
  (∃ p ∈ w.parts, ∃ s, p.fails w.drm a s = true) ∨ (a.begins && !w.updatesMode a) = true

/-- The request puts a framebuffer on every plane of every layer of the frame. -/
def Commit.CarriesFrame (c : Commit) (w : World) (a : FrameAnswers) : Prop :=
  ∀ p ∈ w.parts, ∀ s, p.enters a s = true → ∀ q ∈ p.comp.planeIds s,
    c.pset.values (.plane q) .fbId ≠ [] ∧ 0 ∉ c.pset.values (.plane q) .fbId

/-- No partial frame is committed, and the caller of `Commit` is told whether the frame
was accepted as a whole. -/
structure FrameLaw (w : World) (a : FrameAnswers) (ret : DispStatus) (w' : World) : Prop where
  noPartial : w.fails a → commits w'.drm.log = commits w.drm.log
  status : ret = .success ↔ ∃ c, commits w'.drm.log = c :: commits w.drm.log ∧
    c.fence ≠ none ∧ c.CarriesFrame w a

/-- Nothing goes wrong in the frame: its request is accepted, no plane of its layers
fails, each of their framebuffers is created, and neither remembered object is gone. -/
def World.framesWhole (w : World) (a : FrameAnswers) : Prop :=
  w.accepts a = true ∧ ∀ p ∈ w.parts, ∀ s,
    p.fails w.drm a s = false ∧ p.Names w.drm a s ∧ ¬ p.Strands w.drm a s

instance : Fintype Slot where
  elems := {.primary, .cursor}
  complete := by
    intro s
    cases s <;> simp

instance (w : World) (a : FrameAnswers) : Decidable (w.fails a) :=
  inferInstanceAs (Decidable ((∃ p ∈ w.parts, ∃ s, p.fails w.drm a s = true) ∨ _))

instance (w : World) (a : FrameAnswers) : Decidable (w.framesWhole a) :=
  inferInstanceAs (Decidable (_ ∧ ∀ p ∈ w.parts, ∀ _, _))

theorem Parts.carried_covers {w : World} {p : Parts} (h : p.Good w.drm) {a : FrameAnswers}
    {s : Slot} (hent : p.enters a s = true) (hok : p.fails w.drm a s = false) :
    ∀ q ∈ p.comp.planeIds s, ∃ x ∈ p.carried w.drm a s, x.2.mId = q := by
  intro q hq
  obtain ⟨drmPlane, hmem, rfl⟩ := List.mem_map.1 hq
  have hbuf : (p.layer s).mHdiBuffer ≠ none := by
    cases s with
    | primary => exact h.clientBuffer
    | cursor =>
        simp only [Parts.enters, Bool.and_eq_true, decide_eq_true_eq] at hent
        exact h.cursorBuffer hent.2
  cases hb : (p.layer s).mHdiBuffer with
  | none => exact absurd hb hbuf
  | some buf =>
      simp only [Parts.fails, hb, hent, Bool.true_and, Bool.not_eq_false'] at hok
      obtain ⟨i, hi⟩ := carriedOn_covers hok drmPlane hmem
      exact ⟨(i, drmPlane), Parts.mem_carried.2 ⟨buf, hb, hent, hi⟩, rfl⟩

/-- A commit carries the frame when no plane fails and all framebuffers are created. -/
theorem carriesFrame_of {w : World} {p : Parts} {a : FrameAnswers} (hp : p.Of w)
    (hgood : p.Good w.drm) {c : Commit} (hasked : ∀ s, Asked p w.drm a s [] c.pset)
    (hok : ∀ s, p.fails w.drm a s = false ∧ p.Names w.drm a s) : c.CarriesFrame w a := by
  intro p' hp' s hent q hq
  obtain rfl : p = p' := Option.some.inj ((World.parts_of hp).symm.trans hp')
  obtain ⟨hfails, hnames⟩ := hok s
  constructor
  · obtain ⟨x, hx, rfl⟩ := p.carried_covers hgood hent hfails q hq
    obtain ⟨fb, hfb, -⟩ := ((hasked s).put x hx).resolve_left (by simp)
    exact List.ne_nil_of_mem hfb
  · intro hzero
    obtain ⟨x, hx, -, hiff⟩ := (hasked s).source q hq 0 hzero
    exact hiff.2 (hnames x hx) rfl

theorem names_of_carriesFrame {w : World} {p : Parts} {a : FrameAnswers} (hp : p.Of w)
    {c : Commit} (hasked : ∀ s, Asked p w.drm a s [] c.pset) (hc : c.CarriesFrame w a)
    (s : Slot) : p.Names w.drm a s := by
  intro x hx
  obtain ⟨buf, -, hent, -⟩ := Parts.mem_carried.1 hx
  obtain ⟨fb, hfb, hiff⟩ := ((hasked s).put x hx).resolve_left (by simp)
  obtain ⟨-, hzero⟩ := hc p (World.parts_of hp) s hent x.2.mId (p.carried_planeIds hx)
  refine hiff.1 ?_
  rintro rfl
  exact hzero hfb

theorem reached_wellFormed {w₀ w : World} (hw : Reached step w₀ w) (h₀ : Initialised w₀) :
    WellFormed w :=
  hw.invariant (E := fun _ _ => True) (fun _ op h => h.step op) h₀.wellFormed

/-- **Exactly the frames in which nothing goes wrong obey the law.** -/
theorem frameLaw_iff {w₀ w : World} (h₀ : Initialised w₀) (hw : Reached step w₀ w)
    (a : FrameAnswers) :
    Post (commit a) w (fun r w' => FrameLaw w a r.1 w') (fun _ _ => False) ↔
      w.framesWhole a := by
  have h := reached_wellFormed hw h₀
  obtain ⟨p, hp, hgood⟩ := id h.parts
  have hparts : ∀ p' ∈ w.parts, p' = p := fun p' hp' =>
    Option.some.inj (Option.mem_def.1 hp' ▸ World.parts_of hp)
  have hrecorded := commit_recorded h hp a
  constructor
  · intro hlaw
    obtain ⟨r, w', hrun, hlaw⟩ := hlaw.exists_ok
    obtain ⟨hret, hrec⟩ := hrecorded.of_ok hrun
    obtain ⟨c, hc, hfence, hcarries⟩ := hlaw.status.1 hret
    rcases hrec with ⟨-, hsame⟩ | ⟨c', -, hc', hacc, hstrands, hasked⟩
    · -- no commit was issued
      rw [hsame] at hc
      exact absurd hc.symm (List.cons_ne_self _ _)
    · obtain rfl : c = c' := (List.cons.inj (hc.symm.trans hc')).1
      have haccepted := hacc.1 hfence
      refine ⟨haccepted, fun p' hp' s => ?_⟩
      obtain rfl := hparts p' hp'
      refine ⟨?_, names_of_carriesFrame hp hasked hcarries s, hstrands haccepted s⟩
      by_contra hfails
      have hsame := hlaw.noPartial (Or.inl ⟨p', hp', s, by simpa using hfails⟩)
      rw [hsame] at hc
      exact absurd hc.symm (List.cons_ne_self _ _)
  · rintro ⟨haccepted, hwhole⟩
    have hcommits : w.commits a = true := (World.accepts_iff.1 haccepted).1
    refine hrecorded.mono ?_ ?_
    · rintro ⟨ret, fd⟩ w' ⟨hret, hrec⟩
      rcases hrec with ⟨hno, -⟩ | ⟨c, -, hc, hacc, -, hasked⟩
      · exact absurd hcommits (by simp [hno])
      · constructor
        · rintro (⟨p', hp', s, hfails⟩ | hmode)
          · exact absurd hfails (by simp [(hwhole p' hp' s).1])
          · unfold World.commits at hcommits
            simp_all
        · refine Iff.intro (fun _ => ⟨c, hc, hacc.2 haccepted, ?_⟩) (fun _ => hret)
          exact carriesFrame_of hp hgood hasked fun s =>
            ⟨(hwhole p (World.parts_of hp) s).1, (hwhole p (World.parts_of hp) s).2.1⟩
    · rintro e w' ⟨-, s, hs⟩
      exact (hwhole p (World.parts_of hp) s).2.2 hs

theorem frameLaw_accepted :
    Post (commit (frame (some 2) (some 2) (some 21))) (smallBoot [])
      (fun r w' => FrameLaw (smallBoot []) (frame (some 2) (some 2) (some 21)) r.1 w')
      (fun _ _ => False) := by
  have hinit : Initialised (smallBoot []) :=
    smallBoot_initialised (by decide) (by decide +kernel)
  exact (frameLaw_iff hinit ⟨[], [], rfl⟩ _).2 (by decide +kernel)

/-- **A frame without its layer is committed.** The client buffer cannot be imported,
`ApplyPlane` fails, and the empty request is committed all the same. -/
theorem frameLaw_partial :
    Initialised (smallBoot []) ∧ Reached step (smallBoot []) (smallBoot []) ∧
      ¬ Post (commit (frame none none (some 21))) (smallBoot [])
        (fun r w' => FrameLaw (smallBoot []) (frame none none (some 21)) r.1 w')
        (fun _ _ => False) := by
  refine ⟨smallBoot_initialised (by decide) (by decide +kernel), ⟨[], [], rfl⟩, ?_⟩
  have hfails : (smallBoot []).fails (frame none none (some 21)) := by decide +kernel
  have hret : returns (commit (frame none none (some 21))) (smallBoot [])
      (fun _ w' => !decide (commits w'.drm.log = commits (smallBoot []).drm.log)) = true := by
    decide +kernel
  obtain ⟨r, w', hrun, hdiffers⟩ := returns_iff.1 hret
  intro hlaw
  exact absurd ((hlaw.of_ok hrun).noPartial hfails) (by simpa using hdiffers)

end QemuHal
