import QemuHal.Drm.Properties
import QemuHal.Frame.Beside
import QemuHal.Frame.InFences

/-!
# What a request is made of

Which properties of which objects a frame's request can set: those of the planes its display
holds, three of the CRTC and one of the connector. A plane that gets a framebuffer gets its
place and its size with it.
-/

namespace QemuHal

open Exec

/-! ## Requests that are new -/

/-- The requests made since `w` all meet `R`. -/
def World.OnlyNew (w : World) (R : Commit → Prop) (w' : World) : Prop :=
  ∃ new, QemuHal.commits w'.drm.log = new ++ QemuHal.commits w.drm.log ∧ ∀ c ∈ new, R c

section
variable {R : Commit → Prop} {w w' : World} {p : Parts} {a : FrameAnswers}

theorem World.OnlyNew.congr {w'' : World} (h : w.OnlyNew R w')
    (hcommits : QemuHal.commits w''.drm.log = QemuHal.commits w'.drm.log) : w.OnlyNew R w'' := by
  unfold World.OnlyNew
  rw [hcommits]
  exact h

theorem World.OnlyNew.refl (w : World) (R : Commit → Prop) : w.OnlyNew R w :=
  ⟨[], rfl, by simp⟩

/-- A request in the log was there before or meets `R`. -/
theorem World.OnlyNew.mem (h : w.OnlyNew R w') {c : Commit}
    (hc : c ∈ QemuHal.commits w'.drm.log) : c ∈ QemuHal.commits w.drm.log ∨ R c := by
  obtain ⟨new, heq, hnew⟩ := h
  rw [heq] at hc
  exact (List.mem_append.1 hc).symm.imp_right (hnew c)

theorem World.OnlyNew.releases {p' : Parts} (h : w.OnlyNew R w') (hp : p'.Of w') :
    Post (do releaseLast .primary a.release; releaseLast .cursor a.releaseCursor) w'
      (fun _ w'' => w.OnlyNew R w'') (fun _ w'' => w.OnlyNew R w'') := by
  have hreleased : ∀ {w' : World} {p' : Parts} (s : Slot) (b : DropAnswers),
      w.OnlyNew R w' → w.OnlyNew R (w'.released p' s b) := fun s b h =>
    h.congr (Drm.released_frame _ _ _ _).2.2.2.1
  rw [post_bind]
  refine releaseLast_post hp (fun _ => ?_) (fun _ => h)
  exact releaseLast_post (hp.released _ _) (fun _ => hreleased _ _ (hreleased _ _ h))
    (fun _ => hreleased _ _ h)

/-- **The rule for new requests.** `J₁` and `J₂` are what the loops keep of the framebuffers
put into the request. -/
theorem apply_onlyNew (h : WellFormed w) (hp : p.Of w)
    {J₁ J₂ : Nat → List (Nat × DrmPlane) → World → Parts → AtomicReq → Prop}
    (h₁ : LoopInv w p a .primary J₁) (h₂ : LoopInv w p a .cursor J₂)
    (hbooted : ∀ {n C w' p' req}, Along w p w' p' → J₂ n C w' p' req →
      J₂ n C (w'.booted p') p'.booted req)
    (start : J₁ (p.rotations w.drm a .primary) (p.carried w.drm a .primary) w p [])
    (turn : ∀ w' p' req, Along w p w' p' → J₁ 0 [] w' p' req →
      J₂ (p.rotations w.drm a .cursor) (p.carried w.drm a .cursor) w' p' req)
    (done : ∀ w' p' pset fbs fence, J₂ 0 [] w' p' (AtomicReq.fbEntries pset) →
      AtomicReq.otherEntries pset = w.requested p a → R ⟨pset, fbs, fence⟩) :
    Post (apply a) w (fun _ w' => w.OnlyNew R w') (fun _ w' => w.OnlyNew R w') := by
  have hblocked : ∀ {w' : World} {p' : Parts}, Along w p w' p' →
      Along w p (w'.blocked (w.modeBlock a)) p' := by
    intro w' p' halong
    rcases w'.blocked_cases p' (w.modeBlock a) with heq | hn
    · rw [heq]
      exact halong
    · exact halong.neutral hn
  have hsame : ∀ {w' : World} {p' : Parts}, Along w p w' p' → w.OnlyNew R w' :=
    fun halong => (World.OnlyNew.refl w R).congr halong.commits
  refine apply_post_requested h hp h₁ h₂ hbooted (fun _ _ hQ => hQ) start turn
    (fun _ => World.OnlyNew.refl w R) (fun w' p' _ halong _ _ _ => hsame (hblocked halong)) ?_
  intro w' p' pset halong hJ hentries _
  have halong' := hblocked halong
  generalize w'.blocked (w.modeBlock a) = w'' at halong'
  have hone : ∀ (fence : Option Int) (v : World),
      commits v.drm.log = ⟨pset, w''.drm.fbs.map Prod.fst, fence⟩ :: commits w''.drm.log →
      w.OnlyNew R v := by
    intro fence v hlog
    rw [halong'.commits] at hlog
    refine ⟨[_], hlog, fun c hc => ?_⟩
    rw [List.mem_singleton.1 hc]
    exact done _ _ _ _ _ hJ hentries
  refine commitFrame_post halong'.wf halong'.of (fun _ => hone none _ rfl) fun n _ => ?_
  refine World.OnlyNew.releases (hone (some n) _ ?_) ((halong'.of.committed pset n).fenced n)
  unfold World.granted
  rw [World.fenced_drm]
  rfl

end

/-! ## The framebuffers -/

section
variable {w : World} {p : Parts} {a : FrameAnswers}

/-- The entry puts a framebuffer on a plane that the frame carries one to. -/
def Parts.PutsFb (p : Parts) (d : Drm) (a : FrameAnswers) (e : PropValue) : Prop :=
  e.prop = .fbId ∧ ∃ s, ∃ x ∈ p.carried d a s, e.obj = .plane x.2.mId

/-- What both loops keep of the request. -/
def OnlyPuts (w : World) (p : Parts) (a : FrameAnswers) (s : Slot) (C : List (Nat × DrmPlane))
    (req : AtomicReq) : Prop :=
  (∀ x ∈ C, x ∈ p.carried w.drm a s) ∧ ∀ e ∈ req, p.PutsFb w.drm a e

theorem onlyPuts_loopInv {s : Slot} :
    LoopInv w p a s fun _ C _ _ req => OnlyPuts w p a s C req where
  rotate := fun _ _ _ _ hJ => ⟨by simp, hJ.2⟩
  carry := by
    intro n C j drmPlane w' p' buf req _ _ _ _ _ hJ
    refine ⟨fun x hx => hJ.1 x (List.mem_cons_of_mem _ hx), fun e he => ?_⟩
    rcases List.mem_cons.1 he with rfl | he
    · exact ⟨rfl, s, (j, drmPlane), hJ.1 _ List.mem_cons_self, rfl⟩
    · exact hJ.2 e he

/-- What a request is made of, whichever of the calls of the frame have failed. -/
structure MadeOf (w : World) (p : Parts) (a : FrameAnswers) (c : Commit) : Prop where
  others : c.pset.otherEntries = w.requested p a
  puts : ∀ e ∈ c.pset, e.prop = .fbId → p.PutsFb w.drm a e

theorem apply_madeOf (h : WellFormed w) (hp : p.Of w) (a : FrameAnswers) :
    Post (apply a) w (fun _ w' => w.OnlyNew (MadeOf w p a) w')
      (fun _ w' => w.OnlyNew (MadeOf w p a) w') := by
  refine apply_onlyNew h hp onlyPuts_loopInv onlyPuts_loopInv (fun _ hJ => hJ)
    ⟨fun _ hx => hx, by simp⟩ (fun _ _ _ _ hJ => ⟨fun _ hx => hx, hJ.2⟩) ?_
  intro w' p' pset fbs fence hJ hentries
  refine ⟨hentries, fun e he hfb => hJ.2 e ?_⟩
  rw [AtomicReq.fbEntries, List.mem_filter]
  exact ⟨he, by simpa using hfb⟩

/-- **The requests of an operation**, also of one that stops on a fault. -/
theorem step_madeOf (h : WellFormed w) (hp : p.Of w) (op : Op) :
    Post (step op) w (fun _ w' => w.OnlyNew (fun c => ∃ a, MadeOf w p a c) w')
      (fun _ w' => w.OnlyNew (fun c => ∃ a, MadeOf w p a c) w') := by
  have hstep : Post (step op) w
      (fun _ w' => WellFormed w' ∧ w.OnlyNew (fun c => ∃ a, MadeOf w p a c) w')
      (fun _ w' => w.OnlyNew (fun c => ∃ a, MadeOf w p a c) w') := by
    refine step_post h (World.OnlyNew.refl w _) ?_ ?_ (fun _ _ _ _ hnew => hnew) ?_
    · rintro w₁ w₂ - hc hnew
      obtain ⟨fds, hdrm⟩ := hc.drm
      exact hnew.congr (by rw [hdrm])
    · intro w₁ p₁ _ _ hnew
      exact hnew.congr (by rw [World.setLayer_drm])
    · rintro a rfl
      have hmono : ∀ w', w.OnlyNew (MadeOf w p a) w' → w.OnlyNew (fun c => ∃ a, MadeOf w p a c) w' :=
        fun w' ⟨new, heq, hnew⟩ => ⟨new, heq, fun c hc => ⟨a, hnew c hc⟩⟩
      exact (apply_madeOf h hp a).mono (fun _ w' => hmono w') (fun _ w' => hmono w')
  exact hstep.mono (fun _ _ hw' => hw'.2) (fun _ _ hw' => hw')

end

/-! ## The other properties -/

/-- The properties of a plane: what it shows, and its place and its size. -/
def PropName.ofPlane : List PropName :=
  [.fbId, .inFenceFd, .crtcId, .crtcX, .crtcY, .crtcW, .crtcH, .srcX, .srcY, .srcW, .srcH]

def PropName.geometry : List PropName :=
  [.crtcX, .crtcY, .crtcW, .crtcH, .srcX, .srcY, .srcW, .srcH]

def PropName.ofCrtc : List PropName := [.active, .modeId, .outFencePtr]

theorem planeProperties_prop {s : Slot} {l : HdiLayer} {buf : HdiLayerBuffer}
    {drmPlane : DrmPlane} : ∀ e ∈ planeProperties s l buf drmPlane, e.prop ∈ PropName.ofPlane := by
  intro e he
  unfold planeProperties at he
  rcases List.mem_append.1 he with he | he
  · split at he
    · rw [List.mem_singleton.1 he]
      simp [PropName.ofPlane]
    · exact absurd he List.not_mem_nil
  · simp only [List.cons_append, List.nil_append, List.mem_cons, List.not_mem_nil, or_false] at he
    rcases he with rfl | rfl | rfl | rfl | rfl | rfl | rfl | rfl <;> simp [PropName.ofPlane]

/-- What is set on a plane before its framebuffer includes its place and its size. -/
theorem planeProperties_geometry (s : Slot) (l : HdiLayer) (buf : HdiLayerBuffer)
    (drmPlane : DrmPlane) : ∀ prop ∈ PropName.geometry,
      ∃ value, ⟨.plane drmPlane.mId, prop, value⟩ ∈ planeProperties s l buf drmPlane := by
  intro prop hprop
  unfold planeProperties
  simp only [PropName.geometry, List.mem_cons, List.not_mem_nil, or_false] at hprop
  rcases hprop with rfl | rfl | rfl | rfl | rfl | rfl | rfl | rfl <;> simp

/-- What holds of the entries of each plane holds of those of the loop. -/
theorem entriesOn_all {d : Drm} {s : Slot} {a : Nat → PlaneAnswers} {l : HdiLayer}
    {buf : HdiLayerBuffer} {crtcId : Nat} {P : DrmPlane → PropValue → Prop}
    (h : ∀ j drmPlane, ∀ e ∈ planeEntries d s (a j) l buf crtcId drmPlane, P drmPlane e)
    {planes : List DrmPlane} :
    ∀ {j : Nat}, ∀ e ∈ entriesOn d s a l buf crtcId j planes, ∃ drmPlane ∈ planes, P drmPlane e := by
  induction planes with
  | nil => exact fun e he => absurd he (by simp [entriesOn])
  | cons first planes ih =>
      intro j e he
      rw [entriesOn] at he
      rcases List.mem_append.1 he with he | he
      · split at he
        · obtain ⟨drmPlane, hmem, hP⟩ := ih e he
          exact ⟨drmPlane, List.mem_cons_of_mem _ hmem, hP⟩
        · exact absurd he List.not_mem_nil
      · exact ⟨first, List.mem_cons_self, h j first e he⟩

section
variable {w : World} {p : Parts} {a : FrameAnswers} {c : Commit} {d : Drm} {s : Slot}

theorem Parts.entries_plane {crtcId : Nat} : ∀ e ∈ p.entries d a crtcId s,
    ∃ drmPlane ∈ p.comp.slotPlanes s, e.obj = .plane drmPlane.mId ∧ e.prop ∈ PropName.ofPlane := by
  intro e he
  unfold entries at he
  split at he
  swap
  · exact absurd he List.not_mem_nil
  split at he
  swap
  · exact absurd he List.not_mem_nil
  refine entriesOn_all (P := fun drmPlane e => e.obj = .plane drmPlane.mId ∧
    e.prop ∈ PropName.ofPlane) (fun j drmPlane e he => ⟨planeEntries_obj e he, ?_⟩) e he
  rcases List.mem_append.1 he with he | he
  · split at he
    · rw [List.mem_singleton.1 he]
      simp [PropName.ofPlane]
    · exact absurd he List.not_mem_nil
  · exact planeProperties_prop e (addedProperties_subset he)

/-- The frame asks for the place and the size of the planes it carries a framebuffer to. -/
theorem Parts.entries_geometry {x : Nat × DrmPlane} (hx : x ∈ p.carried d a s) (crtcId : Nat) :
    ∀ prop ∈ PropName.geometry,
      ∃ value, ⟨.plane x.2.mId, prop, value⟩ ∈ p.entries d a crtcId s := by
  intro prop hprop
  unfold carried at hx
  unfold entries
  split at hx
  · next buf hbuf =>
      split at hx
      · next hent =>
          obtain ⟨value, hvalue⟩ := planeProperties_geometry s (p.layer s) buf x.2 prop hprop
          rw [if_pos hent]
          exact ⟨value, entriesOn_of_carried hvalue hx⟩
      · exact absurd hx List.not_mem_nil
  · exact absurd hx List.not_mem_nil

theorem World.modeEntries_cases {e : PropValue} (h : e ∈ w.modeEntries a) :
    (e.obj = .crtc w.disp.mCrtc.mId ∧ e.prop ∈ PropName.ofCrtc) ∨
      (e.obj = .connector w.disp.mConnector.mId ∧ e.prop = .crtcId) := by
  unfold modeEntries at h
  split at h
  · next blob _ =>
      have h := addedProperties_subset h
      unfold modeProperties at h
      simp only [List.mem_cons, List.not_mem_nil, or_false] at h
      rcases h with rfl | rfl | rfl
      · exact Or.inl ⟨rfl, by simp [PropName.ofCrtc]⟩
      · exact Or.inl ⟨rfl, by simp [PropName.ofCrtc]⟩
      · exact Or.inr ⟨rfl, rfl⟩
  · exact absurd h List.not_mem_nil

/-- **The objects and the properties of a request.** -/
theorem MadeOf.entry (h : MadeOf w p a c) {e : PropValue} (he : e ∈ c.pset) :
    (∃ s, ∃ drmPlane ∈ p.comp.slotPlanes s, e.obj = .plane drmPlane.mId ∧
        e.prop ∈ PropName.ofPlane) ∨
      (e.obj = .crtc w.disp.mCrtc.mId ∧ e.prop ∈ PropName.ofCrtc) ∨
      (e.obj = .connector w.disp.mConnector.mId ∧ e.prop = .crtcId) := by
  by_cases hfb : e.prop = .fbId
  · obtain ⟨-, s, x, hx, hobj⟩ := h.puts e he hfb
    exact Or.inl ⟨s, x.2, Parts.carried_slotPlanes hx, hobj, hfb ▸ by decide⟩
  · have hmem : e ∈ w.requested p a := by
      rw [← h.others, AtomicReq.otherEntries, List.mem_filter]
      exact ⟨he, by simpa using hfb⟩
    unfold World.requested at hmem
    rcases List.mem_append.1 hmem with hmem | hmem
    · exact Or.inr (World.modeEntries_cases hmem)
    rcases List.mem_append.1 hmem with hmem | hmem
    · exact Or.inl ⟨.cursor, Parts.entries_plane e hmem⟩
    rcases List.mem_append.1 hmem with hmem | hmem
    · exact Or.inl ⟨.primary, Parts.entries_plane e hmem⟩
    · rw [List.mem_singleton.1 hmem]
      exact Or.inr (Or.inl ⟨rfl, by simp [PropName.ofCrtc]⟩)

/-- **A framebuffer comes with its place and its size.** -/
theorem MadeOf.placed (h : MadeOf w p a c) {q : Nat} (hfb : c.pset.values (.plane q) .fbId ≠ []) :
    ∀ prop ∈ PropName.geometry, ∃ e ∈ c.pset, e.obj = .plane q ∧ e.prop = prop := by
  intro prop hprop
  obtain ⟨fb, hfb⟩ := List.exists_mem_of_ne_nil _ hfb
  obtain ⟨-, s, x, hx, hobj⟩ := h.puts _ (mem_values.1 hfb) rfl
  obtain ⟨value, hvalue⟩ := Parts.entries_geometry hx w.disp.mCrtc.mId prop hprop
  have hmem := World.entries_requested s hvalue
  rw [← h.others] at hmem
  exact ⟨_, List.mem_of_mem_filter hmem, hobj.symm, rfl⟩

end

end QemuHal
