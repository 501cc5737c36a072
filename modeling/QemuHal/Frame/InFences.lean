import Mathlib.Data.List.TakeWhile
import QemuHal.Frame.Requested
import QemuHal.Frame.Status

/-!
# The fences in a request

`ApplyPlane` sets `IN_FENCE_FD` before anything else of a plane, to the acquire fence of the
layer. In the request a frame commits, a plane has the fence of its own layer and no other,
and a plane with a framebuffer has it when the layer has one.
-/

namespace QemuHal

open Exec

/-! ## Entries of one plane -/

theorem mem_values {pset : AtomicReq} {obj : DrmObj} {prop : PropName} {value : Int} :
    value ∈ pset.values obj prop ↔ ⟨obj, prop, value⟩ ∈ pset := by
  unfold AtomicReq.values
  simp only [List.mem_map, List.mem_filter, decide_eq_true_eq]
  constructor
  · rintro ⟨⟨_, _, _⟩, ⟨he, rfl, rfl⟩, rfl⟩
    exact he
  · exact fun he => ⟨_, ⟨he, rfl, rfl⟩, rfl⟩

/-- The fence a plane is given is that of the layer. -/
theorem planeProperties_inFence {s : Slot} {l : HdiLayer} {buf : HdiLayerBuffer}
    {drmPlane : DrmPlane} {e : PropValue} (h : e ∈ planeProperties s l buf drmPlane)
    (hprop : e.prop = .inFenceFd) : 0 ≤ l.mAcquireFence ∧ e.value = l.mAcquireFence := by
  unfold planeProperties at h
  rcases List.mem_append.1 h with h | h
  · split at h
    · next hfence =>
        rw [List.mem_singleton.1 h]
        exact ⟨hfence.2, rfl⟩
    · exact absurd h (by simp)
  · simp only [List.cons_append, List.nil_append, List.mem_cons, List.not_mem_nil, or_false] at h
    rcases h with rfl | rfl | rfl | rfl | rfl | rfl | rfl | rfl <;> exact absurd hprop (by simp)

theorem planeEntries_inFence {d : Drm} {s : Slot} {a : PlaneAnswers} {l : HdiLayer}
    {buf : HdiLayerBuffer} {crtcId : Nat} {drmPlane : DrmPlane} {e : PropValue}
    (h : e ∈ planeEntries d s a l buf crtcId drmPlane) (hprop : e.prop = .inFenceFd) :
    0 ≤ l.mAcquireFence ∧ e.value = l.mAcquireFence := by
  rcases List.mem_append.1 h with h | h
  · split at h
    · rw [List.mem_singleton.1 h] at hprop
      exact absurd hprop (by simp)
    · exact absurd h (by simp)
  · exact planeProperties_inFence (addedProperties_subset h) hprop

section
variable {d : Drm} {s : Slot} {a : Nat → PlaneAnswers} {l : HdiLayer} {buf : HdiLayerBuffer}
  {crtcId : Nat} {planes : List DrmPlane}

theorem entriesOn_inFence {e : PropValue} (hprop : e.prop = .inFenceFd) :
    ∀ {j : Nat}, e ∈ entriesOn d s a l buf crtcId j planes →
      0 ≤ l.mAcquireFence ∧ e.value = l.mAcquireFence := by
  induction planes with
  | nil => exact fun h => absurd h (by simp [entriesOn])
  | cons first planes ih =>
      intro j h
      rw [entriesOn] at h
      rcases List.mem_append.1 h with h | h
      · split at h
        · exact ih h
        · exact absurd h (by simp)
      · exact planeEntries_inFence h hprop

/-- A plane that carries a framebuffer has all the properties set before it. -/
theorem entriesOn_of_carried {x : Nat × DrmPlane} {e : PropValue}
    (he : e ∈ planeProperties s l buf x.2) :
    ∀ {j : Nat}, x ∈ carriedOn d s a l buf j planes → e ∈ entriesOn d s a l buf crtcId j planes := by
  induction planes with
  | nil => exact fun h => absurd h (by simp [carriedOn])
  | cons first planes ih =>
      intro j h
      rw [carriedOn] at h
      rw [entriesOn]
      split at h
      swap
      · exact absurd h (by simp)
      · next hcar =>
          rcases List.mem_cons.1 h with rfl | h
          · -- nothing before the framebuffer has failed
            have hrot : ∀ e ∈ planeProperties s l buf first, (a j).addProperty e.prop = true := by
              unfold carriesOn rotatesOn at hcar
              simp only [Bool.and_eq_true, List.all_eq_true] at hcar
              exact hcar.1.1
            apply List.mem_append_right
            apply List.mem_append_right
            unfold addedProperties
            rw [List.mem_reverse, List.takeWhile_eq_self_iff.2 hrot]
            exact he
          · split at h
            · next hsucc =>
                apply List.mem_append_left
                rw [if_pos hsucc]
                exact ih h
            · exact absurd h (by simp)

end

/-! ## Entries of a slot -/

namespace Parts

variable {p : Parts} {d : Drm} {a : FrameAnswers} {crtcId : Nat} {s : Slot}

theorem entries_inFence {e : PropValue} (h : e ∈ p.entries d a crtcId s)
    (hprop : e.prop = .inFenceFd) :
    0 ≤ (p.layer s).mAcquireFence ∧ e.value = (p.layer s).mAcquireFence := by
  obtain ⟨buf, -, -, hon⟩ := mem_entries.1 h
  exact entriesOn_inFence hprop hon

theorem entries_of_carried {x : Nat × DrmPlane} (hx : x ∈ p.carried d a s)
    (hplane : x.2.mPropFenceInId ≠ 0) (hfence : 0 ≤ (p.layer s).mAcquireFence) :
    ⟨.plane x.2.mId, .inFenceFd, (p.layer s).mAcquireFence⟩ ∈ p.entries d a crtcId s := by
  obtain ⟨buf, hbuf, hent, hon⟩ := mem_carried.1 hx
  refine mem_entries.2 ⟨buf, hbuf, hent, entriesOn_of_carried ?_ hon⟩
  unfold planeProperties
  rw [if_pos ⟨hplane, hfence⟩]
  exact List.mem_append_left _ (List.mem_singleton_self _)

theorem carried_slotPlanes {x : Nat × DrmPlane} (hx : x ∈ p.carried d a s) :
    x.2 ∈ p.comp.slotPlanes s := by
  obtain ⟨buf, -, -, hon⟩ := mem_carried.1 hx
  exact carriedOn_mem hon

end Parts

theorem World.modeEntries_obj {w : World} {a : FrameAnswers} {e : PropValue}
    (h : e ∈ w.modeEntries a) (id : Nat) : e.obj ≠ .plane id := by
  unfold modeEntries at h
  split at h
  · next blob _ =>
      have h := addedProperties_subset h
      unfold modeProperties at h
      simp only [List.mem_cons, List.not_mem_nil, or_false] at h
      rcases h with rfl | rfl | rfl <;> simp
  · exact absurd h (by simp)

/-- What a frame asks of a plane of one slot, it asks for the layer of that slot. -/
theorem World.requested_plane {w : World} {p : Parts} (hgood : p.Good w.drm) {a : FrameAnswers}
    {s : Slot} {drmPlane : DrmPlane} (hplane : drmPlane ∈ p.comp.slotPlanes s) {prop : PropName}
    {value : Int} (h : ⟨.plane drmPlane.mId, prop, value⟩ ∈ w.requested p a) :
    ⟨.plane drmPlane.mId, prop, value⟩ ∈ p.entries w.drm a w.disp.mCrtc.mId s := by
  have hslot : ∀ t, ⟨.plane drmPlane.mId, prop, value⟩ ∈ p.entries w.drm a w.disp.mCrtc.mId t →
      t = s := by
    intro t ht
    by_contra hne
    obtain ⟨other, hother, hid⟩ := Parts.entries_obj _ ht
    exact hgood.slots_apart (Ne.symm hne) hplane hother (DrmObj.plane.inj hid)
  unfold requested at h
  rcases List.mem_append.1 h with h | h
  · exact absurd rfl (World.modeEntries_obj h drmPlane.mId)
  rcases List.mem_append.1 h with h | h
  · exact hslot _ h ▸ h
  rcases List.mem_append.1 h with h | h
  · exact hslot _ h ▸ h
  · exact absurd (congrArg PropValue.obj (List.mem_singleton.1 h)) (by simp)

theorem World.entries_requested {w : World} {p : Parts} {a : FrameAnswers} (s : Slot) :
    p.entries w.drm a w.disp.mCrtc.mId s ⊆ w.requested p a := by
  intro e he
  unfold requested
  apply List.mem_append_right
  cases s with
  | primary => exact List.mem_append_right _ (List.mem_append_left _ he)
  | cursor => exact List.mem_append_left _ he

/-! ## The frame -/

/-- A committed request, as far as it is decided by the state before the frame. -/
structure Committed (w : World) (p : Parts) (a : FrameAnswers) (c : Commit) : Prop where
  entries : c.pset.otherEntries = w.requested p a
  asked : ∀ s, Asked p w.drm a s [] c.pset

/-- **The requests of a frame**, also of one that stops on a fault. -/
theorem apply_committed {w : World} {p : Parts} (h : WellFormed w) (hp : p.Of w)
    (a : FrameAnswers) :
    Post (apply a) w (fun _ w' => ∀ c ∈ newCommits w w', Committed w p a c)
      (fun _ w' => ∀ c ∈ newCommits w w', Committed w p a c) := by
  have hnone : ∀ {w' : World}, commits w'.drm.log = commits w.drm.log →
      ∀ c ∈ newCommits w w', Committed w p a c := by
    intro w' hsame c hc
    unfold newCommits at hc
    rw [hsame, newer_self] at hc
    exact absurd hc (by simp)
  have hblocked : ∀ {w' : World} {p' : Parts}, Along w p w' p' →
      Along w p (w'.blocked (w.modeBlock a)) p' := by
    intro w' p' halong
    rcases w'.blocked_cases p' (w.modeBlock a) with heq | hn
    · rw [heq]
      exact halong
    · exact halong.neutral hn
  refine apply_post_requested h hp Staged.primaryLoop Staged.cursorLoop ?_ ?_
    ⟨Staged.start, Staged.start⟩ ?_ ?_ ?_ ?_
  · exact fun _ hJ => ⟨hJ.1.neutral Neutral.booted, hJ.2.neutral Neutral.booted⟩
  · exact fun _ _ hQ => hQ
  · exact fun _ _ _ _ hJ => hJ
  · exact fun _ => hnone rfl
  · intro w' p' req halong _ _ _
    exact hnone (hblocked halong).commits
  · intro w' p' pset halong hJ hentries _
    set w'' := w'.blocked (w.modeBlock a) with hw''
    have halong' : Along w p w'' p' := hblocked halong
    have hasked : ∀ s, Asked p w.drm a s [] pset := Staged.asked_all hJ
    -- the record has one request more
    have hone : ∀ (fence : Option Int) (v : World),
        commits v.drm.log = ⟨pset, w''.drm.fbs.map Prod.fst, fence⟩ :: commits w''.drm.log →
        ∀ c ∈ newCommits w v, Committed w p a c := by
      intro fence v hlog c hc
      unfold newCommits at hc
      rw [hlog, halong'.commits] at hc
      have hnew : newer (commits w.drm.log)
          (⟨pset, w''.drm.fbs.map Prod.fst, fence⟩ :: commits w.drm.log) =
            [⟨pset, w''.drm.fbs.map Prod.fst, fence⟩] := newer_append _ [_]
      rw [hnew] at hc
      rw [List.mem_singleton.1 hc]
      exact ⟨hentries, hasked⟩
    refine commitFrame_post halong'.wf halong'.of (fun _ => hone none _ rfl) fun n _ => ?_
    have hof := (halong'.of.committed pset n).fenced n
    have hgranted : commits (w''.granted p' pset n).drm.log =
        ⟨pset, w''.drm.fbs.map Prod.fst, some n⟩ :: commits w''.drm.log := by
      unfold World.granted
      rw [World.fenced_drm]
      rfl
    have hreleased : ∀ (v : World) (q : Parts) (s : Slot) (b : DropAnswers),
        commits (v.released q s b).drm.log = commits v.drm.log :=
      fun v q s b => (v.drm.released_frame q s b).2.2.2.1
    rw [post_bind]
    refine releaseLast_post hof (fun _ => ?_) (fun _ => hone (some n) _ hgranted)
    refine releaseLast_post (hof.released _ _) (fun _ => hone (some n) _ ?_)
      (fun _ => hone (some n) _ ((hreleased _ _ _ _).trans hgranted))
    exact (hreleased _ _ _ _).trans ((hreleased _ _ _ _).trans hgranted)

/-- `Commit` issues the request of its frame. -/
theorem step_commit_committed {w : World} {p : Parts} (h : WellFormed w) (hp : p.Of w)
    (a : FrameAnswers) :
    Post (step (.commit a)) w (fun _ w' => ∀ c ∈ newCommits w w', Committed w p a c)
      (fun _ w' => ∀ c ∈ newCommits w w', Committed w p a c) := by
  show Post (commit a >>= _) w _ _
  rw [post_bind]
  refine (commit_post h (Q := fun _ w' => ∀ c ∈ newCommits w w', Committed w p a c) ?_).mono ?_
    (fun _ _ hE => hE)
  · refine (apply_committed h hp a).mono (fun _ w' hc p' hp' c hmem => hc c ?_) (fun _ _ hE => hE)
    unfold newCommits at hmem ⊢
    rwa [World.setLayer_drm] at hmem
  · rintro r w' ⟨-, hc⟩
    exact hc

section
variable {w : World} {p : Parts} {a : FrameAnswers} {c : Commit} {s : Slot} {drmPlane : DrmPlane}

/-- **A plane waits for the fence of its own layer** and for nothing else. -/
theorem Committed.inFence (h : Committed w p a c) (hgood : p.Good w.drm)
    (hplane : drmPlane ∈ p.comp.slotPlanes s) {fd : Int}
    (hfd : fd ∈ c.pset.values (.plane drmPlane.mId) .inFenceFd) :
    0 ≤ (p.layer s).mAcquireFence ∧ fd = (p.layer s).mAcquireFence := by
  rw [← AtomicReq.values_otherEntries _ _ (by simp), h.entries, mem_values] at hfd
  exact Parts.entries_inFence (World.requested_plane hgood hplane hfd) rfl

/-- **A plane with a framebuffer waits for the fence of its layer** when it has one. -/
theorem Committed.fenced (h : Committed w p a c) (hgood : p.Good w.drm)
    (hplane : drmPlane ∈ p.comp.slotPlanes s) (hprop : drmPlane.mPropFenceInId ≠ 0)
    (hfb : c.pset.values (.plane drmPlane.mId) .fbId ≠ [])
    (hfence : 0 ≤ (p.layer s).mAcquireFence) :
    (p.layer s).mAcquireFence ∈ c.pset.values (.plane drmPlane.mId) .inFenceFd := by
  obtain ⟨fb, hfb⟩ := List.exists_mem_of_ne_nil _ hfb
  obtain ⟨x, hx, hid, -⟩ := (h.asked s).source _ (List.mem_map_of_mem hplane) fb hfb
  have hsame : x.2 = drmPlane := by
    have hnodup : ((p.comp.slotPlanes s).map DrmPlane.mId).Nodup := hgood.planeIds_nodup s
    exact List.inj_on_of_nodup_map hnodup (Parts.carried_slotPlanes hx) hplane hid
  rw [← AtomicReq.values_otherEntries _ _ (by simp), h.entries, mem_values, ← hid]
  apply World.entries_requested s
  exact Parts.entries_of_carried hx (hsame ▸ hprop) hfence

end

end QemuHal
