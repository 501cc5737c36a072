import QemuHal.Frame.Run

/-!
# The request of a frame

`World.requested` lists what a frame asks for beside its framebuffers. `apply_requested`
finds exactly that in the record of commits, together with the mode block made for it.
-/

namespace QemuHal

open Exec

/-! ## What a call adds to a record -/

/-- The entries at the front of `after` that `before` does not have yet. -/
def newer {α : Type} (before after : List α) : List α := after.take (after.length - before.length)

theorem newer_append {α : Type} (l m : List α) : newer l (m ++ l) = m := by
  simp [newer]

theorem newer_self {α : Type} (l : List α) : newer l l = [] := newer_append l []

/-- The atomic commits made between two states. -/
def newCommits (w w' : World) : List Commit := newer (commits w.drm.log) (commits w'.drm.log)

def DrmCall.madeBlob : DrmCall → Option Nat
  | .createPropertyBlob blob => some blob
  | _ => none

/-- The property blobs made so far, newest first. -/
def madeBlobs (log : List DrmCall) : List Nat := log.filterMap DrmCall.madeBlob

/-- The property blobs made between two states. -/
def newBlobs (w w' : World) : List Nat := newer (madeBlobs w.drm.log) (madeBlobs w'.drm.log)

/-! ## What buffers add to a record -/

/-- A call that gives a buffer back. -/
def DrmCall.givesBack : DrmCall → Bool
  | .rmFB .. | .gemClose .. | .gemDestroyed .. => true
  | _ => false

/-- The record does not see the calls that give a buffer back. -/
def Forgets {α : Type} (record : List DrmCall → α) : Prop :=
  ∀ call log, DrmCall.givesBack call = true → record (call :: log) = record log

theorem forgets_madeBlobs : Forgets madeBlobs := by
  intro call log hback
  cases call <;> first | rfl | exact absurd hback (by simp [DrmCall.givesBack])

namespace Drm

section
variable {α : Type} {record : List DrmCall → α}

theorem drop_record (hrecord : Forgets record) (d : Drm) (gem : Nat) (g : DrmGemBuffer)
    (a : DropAnswers) : record ((d.dropFb gem g a.rmFB).2.dropHandle gem (d.dropFb gem g a.rmFB).1
      a.gemClose).2.log = record d.log := by
  have hfb : record (d.dropFb gem g a.rmFB).2.log = record d.log := by
    unfold dropFb
    split
    · exact hrecord _ _ rfl
    · rfl
  have hhandle : ∀ d' g', record (dropHandle d' gem g' a.gemClose).2.log = record d'.log := by
    intro d' g'
    unfold dropHandle
    split
    · exact hrecord _ _ rfl
    · rfl
  exact (hhandle _ _).trans hfb

theorem releaseBuffer_record (hrecord : Forgets record) (d : Drm) (gem : Nat) (g : DrmGemBuffer)
    (a : DropAnswers) : record (d.releaseBuffer gem g a).log = record d.log :=
  d.drop_record hrecord gem g a

theorem destroyOwned_record (hrecord : Forgets record) (d : Drm) (p : Option Nat)
    (a : DropAnswers) : record (d.destroyOwned p a).log = record d.log := by
  cases p with
  | none => rfl
  | some gem =>
      show record (d.destroyGem gem a).log = _
      unfold destroyGem
      cases d.gems gem with
      | none => rfl
      | some g => exact (hrecord _ _ rfl).trans (d.drop_record hrecord gem g a)

theorem released_record (hrecord : Forgets record) (d : Drm) (p : Parts) (s : Slot)
    (a : DropAnswers) : record (d.released p s a).log = record d.log := by
  rcases d.released_cases p s a with heq | ⟨gem, g, -, -, heq⟩
  · rw [heq]
  · rw [heq, releaseBuffer_record hrecord]

end

theorem primeFDToHandle_madeBlobs (d : Drm) (gem : Nat) (fd : Int) (answer : Option Nat) :
    madeBlobs (d.primeFDToHandle gem fd answer).2.log = madeBlobs d.log := by
  rcases d.primeFDToHandle_cases gem fd answer with
    ⟨-, heq⟩ | ⟨b, h, -, -, ⟨-, heq⟩ | ⟨-, -, -, heq⟩⟩ <;> rw [heq] <;> rfl

theorem addFB2_madeBlobs (d : Drm) (gem handle : Nat) (width height : Int) (format : FbFormat)
    (pitch : Int) (answer : Option Nat) :
    madeBlobs (d.addFB2 gem handle width height format pitch answer).2.log = madeBlobs d.log := by
  unfold addFB2
  split <;> rfl

theorem newGem_madeBlobs (d : Drm) (hdl : HdiLayerBuffer) (a : ImportAnswers) :
    madeBlobs (d.newGem hdl a).2.log = madeBlobs d.log := by
  show madeBlobs (DrmGemBuffer.init { d with nextGem := d.nextGem + 1 } d.nextGem hdl a).2.log = _
  unfold DrmGemBuffer.init
  split
  · rfl
  · have himport := primeFDToHandle_madeBlobs { d with nextGem := d.nextGem + 1 } d.nextGem
      hdl.mFd a.handle
    generalize primeFDToHandle { d with nextGem := d.nextGem + 1 } d.nextGem hdl.mFd a.handle = r
      at himport
    obtain ⟨handle, d'⟩ := r
    cases handle with
    | none => exact himport
    | some handle =>
        have hadd := d'.addFB2_madeBlobs d.nextGem handle hdl.mWidth hdl.mHeight .xrgb8888 hdl.mStride a.fb
        dsimp only
        generalize d'.addFB2 d.nextGem handle hdl.mWidth hdl.mHeight .xrgb8888 hdl.mStride a.fb = r
          at hadd
        obtain ⟨fb, d''⟩ := r
        cases fb <;> exact hadd.trans himport

end Drm

theorem World.rotate_madeBlobs {w : World} {s : Slot} {p : Parts} {buf : HdiLayerBuffer}
    {a : PlaneAnswers} : madeBlobs (w.rotate s p buf a).drm.log = madeBlobs w.drm.log := by
  rw [rotate_drm, Drm.destroyOwned_record forgets_madeBlobs, Drm.newGem_madeBlobs]

theorem World.blocked_madeBlobs (w : World) (block : Option Nat) :
    madeBlobs (w.blocked block).drm.log = block.toList ++ madeBlobs w.drm.log := by
  cases block <;> rfl

/-! ## The frame -/

/-- What a frame leaves in the records: nothing, or one commit of what it asks for, with the
mode block made for it. -/
def Requested (w : World) (p : Parts) (a : FrameAnswers) (w' : World) : Prop :=
  (w.commits a = false ∧ newCommits w w' = []) ∨
    ∃ c, w.commits a = true ∧ newCommits w w' = [c] ∧ (c.fence ≠ none ↔ w.accepts a = true) ∧
      c.pset.otherEntries = w.requested p a ∧ newBlobs w w' = (w.modeBlock a).toList

theorem Requested.congr {w w' w'' : World} {p : Parts} {a : FrameAnswers}
    (h : Requested w p a w') (hcommits : commits w''.drm.log = commits w'.drm.log)
    (hblobs : madeBlobs w''.drm.log = madeBlobs w'.drm.log) : Requested w p a w'' := by
  unfold Requested newCommits newBlobs at h ⊢
  rw [hcommits, hblobs]
  exact h

/-- The releases add nothing to the records. -/
theorem Requested.releases {w w' : World} {p p' : Parts} {a : FrameAnswers}
    (h : Requested w p a w') (hp : p'.Of w') :
    Post (do releaseLast .primary a.release; releaseLast .cursor a.releaseCursor) w'
      (fun _ w'' => Requested w p a w'') (fun _ w'' => Requested w p a w'') := by
  have hreleased : ∀ {w' : World} {p' : Parts} (s : Slot) (b : DropAnswers),
      Requested w p a w' → Requested w p a (w'.released p' s b) := fun s b h =>
    h.congr (Drm.released_frame _ _ _ _).2.2.2.1 (Drm.released_record forgets_madeBlobs _ _ _ _)
  rw [post_bind]
  refine releaseLast_post hp (fun _ => ?_) (fun _ => h)
  exact releaseLast_post (hp.released _ _) (fun _ => hreleased _ _ (hreleased _ _ h))
    (fun _ => hreleased _ _ h)

/-- **The request of a frame.** -/
theorem apply_requested {w : World} {p : Parts} (h : WellFormed w) (hp : p.Of w)
    (a : FrameAnswers) :
    Post (apply a) w (fun _ w' => Requested w p a w') (fun _ w' => Requested w p a w') := by
  have hloop : ∀ s, LoopInv w p a s fun _ _ w' _ _ =>
      madeBlobs w'.drm.log = madeBlobs w.drm.log := fun s =>
    ⟨fun _ _ _ _ hJ => World.rotate_madeBlobs.trans hJ,
      fun _ _ _ _ _ hJ => World.rotate_madeBlobs.trans hJ⟩
  have hsame : ∀ {w' : World}, commits w'.drm.log = commits w.drm.log → newCommits w w' = [] := by
    intro w' hcommits
    unfold newCommits
    rw [hcommits, newer_self]
  refine apply_post_requested h hp (hloop .primary) (hloop .cursor) ?_ ?_ rfl ?_ ?_ ?_ ?_
  · exact fun _ hJ => hJ
  · exact fun _ _ hQ => hQ.congr rfl rfl
  · exact fun _ _ _ _ hJ => hJ
  · intro hbegins
    exact Or.inl ⟨by simp [World.commits, hbegins], hsame rfl⟩
  · intro w' p' req halong _ _ hmode
    refine Or.inl ⟨by simp [World.commits, hmode], hsame ?_⟩
    rcases w'.blocked_cases p' (w.modeBlock a) with heq | hn
    · rw [heq]
      exact halong.commits
    · exact (halong.neutral hn).commits
  · intro w' p' pset halong hblobs hentries hcommits
    set w'' := w'.blocked (w.modeBlock a) with hw''
    have halong' : Along w p w'' p' := by
      rcases w'.blocked_cases p' (w.modeBlock a) with heq | hn
      · rw [hw'', heq]
        exact halong
      · exact halong.neutral hn
    -- the record once the request is committed
    have hrecord : ∀ (fence : Option Int) (v : World),
        commits v.drm.log = ⟨pset, w''.drm.fbs.map Prod.fst, fence⟩ :: commits w''.drm.log →
        madeBlobs v.drm.log = madeBlobs w''.drm.log →
        (fence ≠ none ↔ w.accepts a = true) → Requested w p a v := by
      intro fence v hlog hmade hfence
      refine Or.inr ⟨⟨pset, w''.drm.fbs.map Prod.fst, fence⟩, hcommits, ?_, hfence, hentries, ?_⟩
      · unfold newCommits
        rw [hlog, halong'.commits]
        exact newer_append _ [_]
      · unfold newBlobs
        rw [hmade, hw'', World.blocked_madeBlobs, hblobs]
        exact newer_append _ _
    have hgrants : ∀ n, a.grants w''.drm n ↔ a.grants w.drm n := by
      intro n
      unfold FrameAnswers.grants
      rw [halong'.fds]
    refine commitFrame_post halong'.wf halong'.of (fun hno => ?_) fun n hn => ?_
    · refine hrecord none _ rfl rfl ⟨fun hne => absurd rfl hne, fun hacc => ?_⟩
      obtain ⟨-, n, hn⟩ := World.accepts_iff.1 hacc
      exact absurd ((hgrants n).2 hn) (hno n)
    · have hacc : w.accepts a = true := World.accepts_iff.2 ⟨hcommits, n, (hgrants n).1 hn⟩
      refine Requested.releases (hrecord (some n) _ ?_ ?_ (by simp [hacc]))
        ((halong'.of.committed pset n).fenced n)
      · unfold World.granted
        rw [World.fenced_drm]
        rfl
      · unfold World.granted
        rw [World.fenced_drm]
        rfl

/-- `Commit`, and what `step` does with the fence it returns, add nothing to the records. -/
theorem step_commit_requested {w : World} {p : Parts} (h : WellFormed w) (hp : p.Of w)
    (a : FrameAnswers) :
    Post (step (.commit a)) w (fun _ w' => Requested w p a w')
      (fun _ w' => Requested w p a w') := by
  show Post (commit a >>= _) w _ _
  rw [post_bind]
  refine (commit_post h (Q := fun _ w' => Requested w p a w') ?_).mono ?_ (fun _ _ hE => hE)
  · refine (apply_requested h hp a).mono (fun _ w' hR p' hp' => ?_) (fun _ _ hE => hE)
    exact hR.congr (by simp) (by simp)
  · rintro r w' ⟨-, hR⟩
    exact hR.congr rfl rfl

/-! ## Reading the request -/

theorem values_append (l m : AtomicReq) (obj : DrmObj) (prop : PropName) :
    AtomicReq.values (l ++ m) obj prop = l.values obj prop ++ m.values obj prop := by
  simp [AtomicReq.values]

theorem values_eq_nil {l : AtomicReq} {obj : DrmObj} {prop : PropName}
    (h : ∀ e ∈ l, e.obj = obj → e.prop ≠ prop) : l.values obj prop = [] := by
  unfold AtomicReq.values
  rw [List.map_eq_nil_iff, List.filter_eq_nil_iff]
  intro e he
  simpa using h e he

theorem addedProperties_subset {ok : PropName → Bool} {es : List PropValue} {e : PropValue}
    (h : e ∈ addedProperties ok es) : e ∈ es :=
  List.takeWhile_subset _ (List.mem_reverse.1 h)

theorem planeProperties_obj {s : Slot} {l : HdiLayer} {buf : HdiLayerBuffer}
    {drmPlane : DrmPlane} : ∀ e ∈ planeProperties s l buf drmPlane, e.obj = .plane drmPlane.mId := by
  intro e he
  unfold planeProperties at he
  split at he <;> simp at he <;> rcases he with rfl | rfl | rfl | rfl | rfl | rfl | rfl | rfl | rfl <;>
    rfl

theorem planeEntries_obj {d : Drm} {s : Slot} {a : PlaneAnswers} {l : HdiLayer}
    {buf : HdiLayerBuffer} {crtcId : Nat} {drmPlane : DrmPlane} :
    ∀ e ∈ planeEntries d s a l buf crtcId drmPlane, e.obj = .plane drmPlane.mId := by
  intro e he
  rcases List.mem_append.1 he with he | he
  · split at he
    · rw [List.mem_singleton.1 he]
    · simp at he
  · exact planeProperties_obj e (addedProperties_subset he)

theorem entriesOn_obj {d : Drm} {s : Slot} {a : Nat → PlaneAnswers} {l : HdiLayer}
    {buf : HdiLayerBuffer} {crtcId : Nat} {planes : List DrmPlane} :
    ∀ {j : Nat}, ∀ e ∈ entriesOn d s a l buf crtcId j planes,
      ∃ drmPlane ∈ planes, e.obj = .plane drmPlane.mId := by
  induction planes with
  | nil => exact fun e he => absurd he (by simp [entriesOn])
  | cons first planes ih =>
      intro j e he
      rw [entriesOn] at he
      rcases List.mem_append.1 he with he | he
      · split at he
        · obtain ⟨drmPlane, hmem, hobj⟩ := ih e he
          exact ⟨drmPlane, List.mem_cons_of_mem _ hmem, hobj⟩
        · simp at he
      · exact ⟨first, List.mem_cons_self, planeEntries_obj e he⟩

/-- A slot asks for properties of its own planes. -/
theorem Parts.entries_obj {p : Parts} {d : Drm} {a : FrameAnswers} {crtcId : Nat} {s : Slot} :
    ∀ e ∈ p.entries d a crtcId s, ∃ drmPlane ∈ p.comp.slotPlanes s, e.obj = .plane drmPlane.mId := by
  intro e he
  obtain ⟨buf, -, -, hon⟩ := Parts.mem_entries.1 he
  exact entriesOn_obj e hon

/-- What a frame asks of an object that is no plane. -/
theorem values_requested {w : World} {p : Parts} {a : FrameAnswers} {pset : AtomicReq}
    (h : pset.otherEntries = w.requested p a) {obj : DrmObj} (hobj : ∀ q, obj ≠ .plane q)
    {prop : PropName} (hfb : prop ≠ .fbId) (hfence : prop ≠ .outFencePtr) :
    pset.values obj prop = AtomicReq.values (w.modeEntries a) obj prop := by
  have hslot : ∀ s, AtomicReq.values (p.entries w.drm a w.disp.mCrtc.mId s) obj prop = [] := by
    intro s
    apply values_eq_nil
    intro e he heq
    obtain ⟨drmPlane, -, hplane⟩ := Parts.entries_obj e he
    exact absurd (heq.symm.trans hplane) (hobj _)
  have hptr : AtomicReq.values [⟨.crtc w.disp.mCrtc.mId, .outFencePtr, 0⟩] obj prop = [] := by
    apply values_eq_nil
    intro e he _
    rw [List.mem_singleton.1 he]
    exact hfence.symm
  rw [← AtomicReq.values_otherEntries pset obj hfb, h, World.requested, values_append,
    values_append, values_append, hslot, hslot, hptr, List.append_nil, List.append_nil,
    List.append_nil]

end QemuHal
