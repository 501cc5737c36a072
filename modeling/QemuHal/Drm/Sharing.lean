import QemuHal.Lib.Traverse
import QemuHal.Drm.Composition

/-!
# Planes of several displays

The displays of a device take their planes one after another, when their
compositions are initialised. Pipe `0` is both a pipe and the mark of an idle
plane, so a plane taken for pipe `0` is up for the next display; `exclusive_iff`
says when this does no harm.
-/

namespace QemuHal

open Traverse

/-- The composition of one display, once `Init` has run. -/
structure PlaneHolder where
  pipe : UInt32
  ret : DispStatus
  comp : HdiDrmComposition

/-- The planes a display holds. A composition whose `Init` fails is dropped. -/
def PlaneHolder.planes (x : PlaneHolder) : List DrmPlane :=
  if x.ret = .success then x.comp.mPrimPlanes ++ x.comp.mOverlayPlanes ++ x.comp.mCursorPlanes
  else []

/-- The composition of the next display, over `DrmDevice::mPlanes`. -/
def initComposition (mPlanes : List DrmPlane) (pipe : UInt32) : PlaneHolder × List DrmPlane :=
  let (ret, comp, mPlanes) := HdiDrmComposition.init pipe mPlanes
  (⟨pipe, ret, comp⟩, mPlanes)

/-- The displays on these pipes, initialised in this order. -/
def initCompositions (mPlanes : List DrmPlane) (pipes : List UInt32) : List PlaneHolder :=
  (traverse initComposition mPlanes pipes).1

/-- No plane is held twice, and every plane is held on a pipe its mask allows. -/
structure Exclusive (xs : List PlaneHolder) : Prop where
  once : xs.Pairwise fun x y => ∀ p ∈ x.planes, ∀ q ∈ y.planes, p.mId ≠ q.mId
  allowed : ∀ x ∈ xs, ∀ p ∈ x.planes, crtcAllowed x.pipe p.mPossibleCrtcs = true

/-! ## One composition -/

/-- The planes `Init` takes. -/
def takes (pipe : UInt32) (p : DrmPlane) : Bool := p.isIdle && crtcAllowed pipe p.mPossibleCrtcs

theorem planeMatches_iff {pipe : UInt32} {type : PlaneType} {p : DrmPlane} :
    planeMatches pipe type p = true ↔ takes pipe p = true ∧ p.mType = type := by
  simp only [planeMatches, takes, Bool.and_eq_true, decide_eq_true_eq]
  rw [eq_comm (a := type)]

/-- The three searches bind every plane `Init` takes. -/
theorem init_mPlanes (pipe : UInt32) (mPlanes : List DrmPlane) :
    (HdiDrmComposition.init pipe mPlanes).2.2 =
      mPlanes.map fun p => if takes pipe p then p.bindToPipe pipe else p := by
  have hplanes : (HdiDrmComposition.init pipe mPlanes).2.2 =
      (getDrmPlane pipe .cursor (getDrmPlane pipe .overlay
        (getDrmPlane pipe .primary mPlanes).2).2).2 := by
    unfold HdiDrmComposition.init
    dsimp only
    split <;> rfl
  rw [hplanes, getDrmPlane_snd, getDrmPlane_snd, getDrmPlane_snd, List.map_map, List.map_map]
  refine List.map_congr_left fun p _ => ?_
  simp only [Function.comp_apply, planeMatches_iff]
  -- a plane is bound by the search for its own type only
  cases htype : p.mType <;> by_cases ht : takes pipe p = true <;>
    simp [ht, htype, DrmPlane.bindToPipe]

/-- A type's search finds the planes of that type, whatever earlier searches of the
same `Init` bound. -/
theorem getDrmPlane_mem_iff {pipe : UInt32} {type : PlaneType} {mPlanes : List DrmPlane}
    {g : DrmPlane → DrmPlane} (hsame : ∀ p, p.mType = type → g p = p)
    (htype : ∀ p, (g p).mType = p.mType) {q : DrmPlane} :
    q ∈ (getDrmPlane pipe type (mPlanes.map g)).1 ↔
      ∃ p ∈ mPlanes, takes pipe p = true ∧ p.mType = type ∧ q = p.bindToPipe pipe := by
  rw [getDrmPlane_fst]
  simp only [List.mem_map, List.mem_filter, planeMatches_iff]
  constructor
  · rintro ⟨_, ⟨⟨p, hp, rfl⟩, ht, hty⟩, rfl⟩
    rw [htype] at hty
    rw [hsame p hty] at ht ⊢
    exact ⟨p, hp, ht, hty, rfl⟩
  · rintro ⟨p, hp, ht, hty, rfl⟩
    exact ⟨p, ⟨⟨p, hp, hsame p hty⟩, ht, hty⟩, rfl⟩

section
variable {pipe : UInt32} {mPlanes : List DrmPlane} {q : DrmPlane}

theorem mem_primPlanes : q ∈ (HdiDrmComposition.init pipe mPlanes).2.1.mPrimPlanes ↔
    ∃ p ∈ mPlanes, takes pipe p = true ∧ p.mType = .primary ∧ q = p.bindToPipe pipe := by
  have h := @getDrmPlane_mem_iff pipe .primary mPlanes id (fun _ _ => rfl) (fun _ => rfl) q
  rw [List.map_id] at h
  rw [← h]
  unfold HdiDrmComposition.init
  dsimp only
  split <;> rfl

theorem mem_init_planes :
    q ∈ (HdiDrmComposition.init pipe mPlanes).2.1.mPrimPlanes ++
        (HdiDrmComposition.init pipe mPlanes).2.1.mOverlayPlanes ++
        (HdiDrmComposition.init pipe mPlanes).2.1.mCursorPlanes ↔
      ∃ p ∈ mPlanes, takes pipe p = true ∧ q = p.bindToPipe pipe := by
  have hover : q ∈ (HdiDrmComposition.init pipe mPlanes).2.1.mOverlayPlanes ↔
      ∃ p ∈ mPlanes, takes pipe p = true ∧ p.mType = .overlay ∧ q = p.bindToPipe pipe := by
    rw [← getDrmPlane_mem_iff (g := fun p =>
        if planeMatches pipe .primary p then p.bindToPipe pipe else p)
      (fun p hp => by simp [planeMatches_iff, hp]) (fun p => by split <;> rfl),
      ← getDrmPlane_snd]
    unfold HdiDrmComposition.init
    dsimp only
    split <;> rfl
  have hcur : q ∈ (HdiDrmComposition.init pipe mPlanes).2.1.mCursorPlanes ↔
      ∃ p ∈ mPlanes, takes pipe p = true ∧ p.mType = .cursor ∧ q = p.bindToPipe pipe := by
    rw [← getDrmPlane_mem_iff (g := (fun p =>
        if planeMatches pipe .overlay p then p.bindToPipe pipe else p) ∘ fun p =>
        if planeMatches pipe .primary p then p.bindToPipe pipe else p)
      (fun p hp => by simp [planeMatches_iff, hp])
      (fun p => by simp only [Function.comp_apply]; split <;> split <;> rfl),
      ← List.map_map, ← getDrmPlane_snd, ← getDrmPlane_snd]
    unfold HdiDrmComposition.init
    dsimp only
    split <;> rfl
  rw [List.mem_append, List.mem_append, mem_primPlanes, hover, hcur]
  constructor
  · rintro ((⟨p, hp, ht, -, rfl⟩ | ⟨p, hp, ht, -, rfl⟩) | ⟨p, hp, ht, -, rfl⟩) <;>
      exact ⟨p, hp, ht, rfl⟩
  · rintro ⟨p, hp, ht, rfl⟩
    cases htype : p.mType with
    | overlay => exact Or.inl (Or.inr ⟨p, hp, ht, htype, rfl⟩)
    | primary => exact Or.inl (Or.inl ⟨p, hp, ht, htype, rfl⟩)
    | cursor => exact Or.inr ⟨p, hp, ht, htype, rfl⟩

/-- `Init` succeeds when it finds a primary plane. -/
theorem init_success : (HdiDrmComposition.init pipe mPlanes).1 = .success ↔
    ∃ p ∈ mPlanes, takes pipe p = true ∧ p.mType = .primary := by
  have hlen : (HdiDrmComposition.init pipe mPlanes).1 = .success ↔
      (HdiDrmComposition.init pipe mPlanes).2.1.mPrimPlanes ≠ [] := by
    unfold HdiDrmComposition.init
    dsimp only
    split
    · next h => simp [List.length_eq_zero_iff.1 h]
    · next h => simpa [List.length_eq_zero_iff] using h
  rw [hlen]
  constructor
  · intro hne
    obtain ⟨q, hq⟩ := List.exists_mem_of_ne_nil _ hne
    obtain ⟨p, hp, ht, htype, -⟩ := mem_primPlanes.1 hq
    exact ⟨p, hp, ht, htype⟩
  · rintro ⟨p, hp, ht, htype⟩
    exact List.ne_nil_of_mem (mem_primPlanes.2 ⟨p, hp, ht, htype, rfl⟩)

end

/-! ## The planes left by earlier displays -/

/-- No earlier display on a pipe other than `0` may use the plane. -/
def Untaken (earlier : List UInt32) (p : DrmPlane) : Prop :=
  ∀ pipe ∈ earlier, pipe ≠ 0 → crtcAllowed pipe p.mPossibleCrtcs = false

theorem untaken_cons {pipe : UInt32} {earlier : List UInt32} {p : DrmPlane} :
    Untaken (pipe :: earlier) p ↔
      (pipe ≠ 0 → crtcAllowed pipe p.mPossibleCrtcs = false) ∧ Untaken earlier p := by
  simp [Untaken]

/-- What one more display makes of a plane. -/
theorem bind_isIdle {pipe : UInt32} {p : DrmPlane} :
    (if takes pipe p then p.bindToPipe pipe else p).isIdle = true ↔
      p.isIdle = true ∧ (pipe ≠ 0 → crtcAllowed pipe p.mPossibleCrtcs = false) := by
  unfold takes
  by_cases hidle : p.isIdle = true
  · cases hmask : crtcAllowed pipe p.mPossibleCrtcs with
    | false => simp [hidle]
    | true =>
        have hpipe : p.mPipe = 0 := by simpa [DrmPlane.isIdle] using hidle
        simp [DrmPlane.isIdle, DrmPlane.bindToPipe, hpipe]
  · simp [hidle]

/-- The device's planes after the displays `earlier`: the same planes, and a plane that
was idle still is when no display on a pipe other than `0` took it. -/
theorem after_planes (earlier : List UInt32) : ∀ mPlanes : List DrmPlane,
    ∃ g : DrmPlane → DrmPlane, after initComposition mPlanes earlier = mPlanes.map g ∧
      ∀ p, (g p).mId = p.mId ∧ (g p).mType = p.mType ∧
        (g p).mPossibleCrtcs = p.mPossibleCrtcs ∧
        ((g p).isIdle = true ↔ p.isIdle = true ∧ Untaken earlier p) := by
  induction earlier with
  | nil => exact fun mPlanes => ⟨id, by simp, fun p => by simp [Untaken]⟩
  | cons pipe earlier ih =>
      intro mPlanes
      obtain ⟨g, hafter, hg⟩ := ih (initComposition mPlanes pipe).2
      refine ⟨fun p => g (if takes pipe p then p.bindToPipe pipe else p), ?_, fun p => ?_⟩
      · rw [after_cons, hafter, show (initComposition mPlanes pipe).2 = _ from
          init_mPlanes pipe mPlanes, List.map_map]
        rfl
      · have hsame : (if takes pipe p then p.bindToPipe pipe else p).mId = p.mId ∧
            (if takes pipe p then p.bindToPipe pipe else p).mType = p.mType ∧
            (if takes pipe p then p.bindToPipe pipe else p).mPossibleCrtcs =
              p.mPossibleCrtcs := by
          split <;> exact ⟨rfl, rfl, rfl⟩
        obtain ⟨hid, htype, hmask, hidle⟩ := hg (if takes pipe p then p.bindToPipe pipe else p)
        refine ⟨hid.trans hsame.1, htype.trans hsame.2.1, hmask.trans hsame.2.2, ?_⟩
        rw [hidle, bind_isIdle, untaken_cons, and_assoc]
        unfold Untaken
        rw [hsame.2.2]

/-! ## Exclusivity -/

/-- The planes of a device as `FindAllPlane` makes them: distinct and idle. -/
structure Discovered (mPlanes : List DrmPlane) : Prop where
  distinct : (mPlanes.map DrmPlane.mId).Nodup
  idle : ∀ p ∈ mPlanes, p.mPipe = 0

/-- The display on `pipe`, initialised after the displays `earlier`, finds a primary
plane. -/
def FindsPrimary (mPlanes : List DrmPlane) (earlier : List UInt32) (pipe : UInt32) : Prop :=
  ∃ p ∈ mPlanes, p.mType = .primary ∧ crtcAllowed pipe p.mPossibleCrtcs = true ∧
    Untaken earlier p

/-- The planes held by a display. -/
theorem mem_planes {mPlanes : List DrmPlane} {earlier : List UInt32} {pipe : UInt32}
    {q : DrmPlane}
    (hq : q ∈ (initComposition (after initComposition mPlanes earlier) pipe).1.planes) :
    FindsPrimary mPlanes earlier pipe ∧ ∃ p ∈ mPlanes, p.mId = q.mId ∧
      p.mPossibleCrtcs = q.mPossibleCrtcs ∧ crtcAllowed pipe p.mPossibleCrtcs = true ∧
      Untaken earlier p := by
  obtain ⟨g, hafter, hg⟩ := after_planes earlier mPlanes
  rw [hafter] at hq
  have htakes : ∀ p, takes pipe (g p) = true →
      crtcAllowed pipe p.mPossibleCrtcs = true ∧ Untaken earlier p := by
    intro p ht
    unfold takes at ht
    rw [Bool.and_eq_true, (hg p).2.2.2, (hg p).2.2.1] at ht
    exact ⟨ht.2, ht.1.2⟩
  unfold PlaneHolder.planes at hq
  split at hq
  · next hret =>
      refine ⟨?_, ?_⟩
      · obtain ⟨_, hmem, ht, htype⟩ := init_success.1 hret
        obtain ⟨p, hp, rfl⟩ := List.mem_map.1 hmem
        obtain ⟨hmask, hfree⟩ := htakes p ht
        exact ⟨p, hp, (hg p).2.1 ▸ htype, hmask, hfree⟩
      · obtain ⟨_, hmem, ht, rfl⟩ := mem_init_planes.1 hq
        obtain ⟨p, hp, rfl⟩ := List.mem_map.1 hmem
        obtain ⟨hmask, hfree⟩ := htakes p ht
        exact ⟨p, hp, (hg p).1.symm, (hg p).2.2.1.symm, hmask, hfree⟩
  · exact absurd hq (by simp)

/-- A plane a successful display takes is among its planes. -/
theorem planes_of_untaken {mPlanes : List DrmPlane} (h : Discovered mPlanes)
    {earlier : List UInt32} {pipe : UInt32} (hfinds : FindsPrimary mPlanes earlier pipe)
    {p : DrmPlane} (hp : p ∈ mPlanes) (hmask : crtcAllowed pipe p.mPossibleCrtcs = true)
    (hfree : Untaken earlier p) :
    ∃ q ∈ (initComposition (after initComposition mPlanes earlier) pipe).1.planes,
      q.mId = p.mId := by
  obtain ⟨g, hafter, hg⟩ := after_planes earlier mPlanes
  have htakes : ∀ p ∈ mPlanes, crtcAllowed pipe p.mPossibleCrtcs = true → Untaken earlier p →
      takes pipe (g p) = true := by
    intro p hp hmask hfree
    have hidle : p.isIdle = true := by simp [DrmPlane.isIdle, h.idle p hp]
    unfold takes
    rw [Bool.and_eq_true, (hg p).2.2.2, (hg p).2.2.1]
    exact ⟨⟨hidle, hfree⟩, hmask⟩
  have hret : (HdiDrmComposition.init pipe (mPlanes.map g)).1 = .success := by
    obtain ⟨x, hx, htype, hmask, hfree⟩ := hfinds
    exact init_success.2 ⟨g x, List.mem_map_of_mem hx, htakes x hx hmask hfree,
      (hg x).2.1.trans htype⟩
  refine ⟨(g p).bindToPipe pipe, ?_, (hg p).1⟩
  rw [hafter]
  have hplanes : (initComposition (mPlanes.map g) pipe).1.planes = _ := if_pos hret
  rw [hplanes]
  exact mem_init_planes.2 ⟨g p, List.mem_map_of_mem hp, htakes p hp hmask hfree, rfl⟩

/-- Once a display on pipe `0` is up, no later display that comes up may use a plane
that pipe `0` may use and that is still untaken. -/
def ZeroUnshared (mPlanes : List DrmPlane) (pipes : List UInt32) : Prop :=
  ∀ pre mid pipe post, pipes = pre ++ 0 :: (mid ++ pipe :: post) →
    FindsPrimary mPlanes pre 0 → FindsPrimary mPlanes (pre ++ 0 :: mid) pipe →
    ∀ p ∈ mPlanes, Untaken (pre ++ 0 :: mid) p →
      crtcAllowed 0 p.mPossibleCrtcs = true → crtcAllowed pipe p.mPossibleCrtcs = false

/-- **Exclusivity of planes.** The displays of a device hold different planes exactly
when pipe `0` shares none. -/
theorem exclusive_iff {mPlanes : List DrmPlane} (h : Discovered mPlanes)
    (pipes : List UInt32) :
    Exclusive (initCompositions mPlanes pipes) ↔ ZeroUnshared mPlanes pipes := by
  constructor
  · rintro ⟨honce, -⟩ pre mid pipe post heq hzero hpipe p hp hfree hmask
    rw [initCompositions, pairwise_traverse] at honce
    by_contra hpmask
    have hpre : Untaken pre p := fun k hk => hfree k (List.mem_append_left _ hk)
    obtain ⟨x, hx, hxid⟩ := planes_of_untaken h hzero hp hmask hpre
    obtain ⟨y, hy, hyid⟩ := planes_of_untaken h hpipe hp (by simpa using hpmask) hfree
    exact honce pre 0 mid pipe post heq x hx y hy (hxid.trans hyid.symm)
  · intro hzero
    refine ⟨?_, fun x hx p hp => ?_⟩
    · rw [initCompositions, pairwise_traverse]
      intro pre a mid a' post heq x hx y hy hid
      obtain ⟨hfinds, p, hp, hpid, -, hmask, -⟩ := mem_planes hx
      obtain ⟨hfinds', p', hp', hpid', -, hmask', hfree'⟩ := mem_planes hy
      obtain rfl : p = p' :=
        List.inj_on_of_nodup_map h.distinct hp hp' (hpid.trans (hid.trans hpid'.symm))
      -- the later display can only have got it if the earlier one is on pipe `0`
      have ha : a = 0 := by
        by_contra hne
        have := hfree' a (by simp) hne
        rw [hmask] at this
        exact absurd this (by simp)
      subst ha
      rw [hzero pre mid a' post heq hfinds hfinds' p hp hfree' hmask] at hmask'
      exact absurd hmask' (by simp)
    · obtain ⟨pre, pipe, post, -, rfl⟩ := mem_traverse.1 hx
      obtain ⟨-, p', -, -, hsame, hmask, -⟩ := mem_planes hp
      exact hsame ▸ hmask

/-- A primary plane for each of two pipes, and a cursor plane for both. -/
def twoHeads : List DrmPlane :=
  [{ mId := 40, mPossibleCrtcs := 1, mType := .primary },
    { mId := 41, mPossibleCrtcs := 2, mType := .primary },
    { mId := 42, mPossibleCrtcs := 3, mType := .cursor }]

theorem twoHeads_discovered : Discovered twoHeads := ⟨by decide, by decide⟩

theorem exclusive_iff_twoHeads :
    Exclusive (initCompositions twoHeads [1, 0]) ↔ ZeroUnshared twoHeads [1, 0] :=
  exclusive_iff twoHeads_discovered [1, 0]

/-- With pipe `0` first, both displays hold the cursor plane. -/
theorem not_exclusive_zero_first :
    Discovered twoHeads ∧ ¬ Exclusive (initCompositions twoHeads [0, 1]) :=
  ⟨twoHeads_discovered, fun h => absurd h.once (by decide)⟩

end QemuHal
