import QemuHal.Core.Modes
import QemuHal.Core.Startup
import QemuHal.Frame.Vocabulary

/-!
# What the kernel is set to

The kernel keeps what the requests it has accepted have set. A display puts properties of
its own planes, its CRTC and its connector into requests and no others, and two displays
have no such object in common; so what the objects of a display are set to is its own
doing.
-/

namespace QemuHal

open Exec

/-- What a property is set to: the last accepted request that sets it says. -/
def kmsValue (obj : DrmObj) (prop : PropName) : List Commit → Option Int
  | [] => none
  | ⟨pset, _, some _⟩ :: cs => (pset.lookup obj prop).or (kmsValue obj prop cs)
  | ⟨_, _, none⟩ :: cs => kmsValue obj prop cs

/-- Requests that do not name an object leave it as it is. -/
theorem kmsValue_append {obj : DrmObj} {new cs : List Commit}
    (h : ∀ c ∈ new, ∀ e ∈ c.pset, e.obj ≠ obj) (prop : PropName) :
    kmsValue obj prop (new ++ cs) = kmsValue obj prop cs := by
  induction new with
  | nil => rfl
  | cons c new ih =>
      have hrest := ih fun c' hc' => h c' (List.mem_cons_of_mem _ hc')
      obtain ⟨pset, fbs, fence⟩ := c
      cases fence with
      | none => exact hrest
      | some n =>
          have hvalues : pset.values obj prop = [] := by
            rw [List.eq_nil_iff_forall_not_mem]
            exact fun value hvalue => h _ List.mem_cons_self _ (mem_values.1 hvalue) rfl
          rw [List.cons_append, kmsValue, hrest, AtomicReq.lookup, hvalues]
          rfl

/-! ## The objects of a display -/

/-- The object is one of the display's planes, its CRTC or its connector. -/
def HdiDisplay.Drives (disp : HdiDisplay) : DrmObj → Prop
  | .plane q => ∃ c, disp.mComposer = some c ∧ ∃ y ∈ c.allPlanes, y.mId = q
  | .crtc q => disp.mCrtc.mId = q
  | .connector q => disp.mConnector.mId = q

/-- A request names only what its display drives. -/
theorem MadeOf.drives {w : World} {p : Parts} {a : FrameAnswers} {c : Commit} (h : MadeOf w p a c)
    (hp : p.Of w) : ∀ e ∈ c.pset, w.disp.Drives e.obj := by
  intro e he
  rcases h.entry he with ⟨s, drmPlane, hmem, hobj, -⟩ | ⟨hobj, -⟩ | ⟨hobj, -⟩
  · rw [hobj]
    exact ⟨p.comp, hp.comp, drmPlane, HdiDrmComposition.mem_allPlanes hmem, rfl⟩
  · rw [hobj]
    rfl
  · rw [hobj]
    rfl

/-- An operation leaves a display its CRTC and its connector. -/
theorem step_drives (w : World) (op : Op) :
    Post (step op) w (fun _ w' => w'.disp.mCrtc.mId = w.disp.mCrtc.mId ∧
      w'.disp.mConnector = w.disp.mConnector) (fun _ _ => True) := by
  by_cases hset : ∃ id, op = .setDisplayMode id
  · obtain ⟨id, rfl⟩ := hset
    rcases setDisplayMode_cases w id with ⟨-, hrun⟩ | ⟨hid, hrun, -⟩
    · exact post_of_ok hrun ⟨rfl, rfl⟩
    · refine post_of_ok hrun ⟨?_, rfl⟩
      unfold World.withMode DrmCrtc.setActivieMode
      rw [if_neg (by omega)]
  · refine (isModeless_step op (fun id hop => hset ⟨id, hop⟩) w).mono ?_ (fun _ _ _ => trivial)
    rintro r w' ⟨hcrtc, hconn⟩
    exact ⟨by rw [hcrtc], hconn⟩

/-! ## Sessions -/

/-- Each display has a CRTC and a connector of its own. -/
def OwnPipes (s : HdiSession) : Prop :=
  ∀ devId devId' disp disp', devId ≠ devId' → s.mHdiDisplays devId = some disp →
    s.mHdiDisplays devId' = some disp' →
    disp.mCrtc.mId ≠ disp'.mCrtc.mId ∧ disp.mConnector.mId ≠ disp'.mConnector.mId

/-- What the other displays drive is set to what it was. -/
def HdiSession.LeavesOthers (s : HdiSession) (devId : Nat) (s' : HdiSession) : Prop :=
  ∀ other disp, other ≠ devId → s.mHdiDisplays other = some disp →
    s'.mHdiDisplays other = some disp ∧
      ∀ obj, disp.Drives obj → ∀ prop,
        kmsValue obj prop (commits s'.drm.log) = kmsValue obj prop (commits s.drm.log)

section
variable {s : HdiSession}

/-- No object is driven by two displays. -/
theorem Coexist.drives_ne (h : Coexist s) (hown : OwnPipes s) {devId devId' : Nat}
    {disp disp' : HdiDisplay} (hne : devId ≠ devId') (hdisp : s.mHdiDisplays devId = some disp)
    (hdisp' : s.mHdiDisplays devId' = some disp') {obj obj' : DrmObj} (hobj : disp.Drives obj)
    (hobj' : disp'.Drives obj') : obj ≠ obj' := by
  rintro rfl
  obtain ⟨hcrtc, hconn⟩ := hown devId devId' disp disp' hne hdisp hdisp'
  cases obj with
  | plane q =>
      obtain ⟨c, hc, y, hy, rfl⟩ := hobj
      obtain ⟨c', hc', y', hy', hid⟩ := hobj'
      obtain ⟨p, hp, -⟩ := (h.wellFormed devId disp hdisp).parts
      obtain ⟨p', hp', -⟩ := (h.wellFormed devId' disp' hdisp').parts
      obtain rfl := Option.some.inj (hp.comp.symm.trans hc)
      obtain rfl := Option.some.inj (hp'.comp.symm.trans hc')
      exact (h.apart devId devId' disp disp' p p' hne hdisp hdisp' hp hp').planes y hy y' hy' hid.symm
  | crtc q => exact hcrtc (hobj.trans hobj'.symm)
  | connector q => exact hconn (hobj.trans hobj'.symm)

/-- An operation of a display changes nothing the others drive, however it ends. -/
theorem Coexist.leavesOthers (h : Coexist s) (hown : OwnPipes s) {devId : Nat} {disp : HdiDisplay}
    (hdisp : s.mHdiDisplays devId = some disp) {w' : World} {p : Parts} (hp : p.Of (s.world disp))
    (hnew : (s.world disp).OnlyNew (fun c => ∃ a, MadeOf (s.world disp) p a c) w') :
    s.LeavesOthers devId (s.store devId w') := by
  intro other disp' hne hdisp'
  refine ⟨(HdiSession.store_other hne).trans hdisp', fun obj hobj prop => ?_⟩
  obtain ⟨new, heq, hmade⟩ := hnew
  show kmsValue obj prop (commits w'.drm.log) = _
  rw [heq]
  refine kmsValue_append (fun c hc e he => ?_) prop
  obtain ⟨a, hc⟩ := hmade c hc
  exact h.drives_ne hown (Ne.symm hne) hdisp hdisp' (hc.drives hp e he) hobj

/-- **A call** changes nothing the other displays drive. -/
theorem Coexist.step_leavesOthers (h : Coexist s) (hown : OwnPipes s) (call : Call) :
    Post (sessionStep call) s
      (fun _ s' => (Coexist s' ∧ OwnPipes s') ∧ s.LeavesOthers call.devId s')
      (fun _ s' => s.LeavesOthers call.devId s') := by
  have hself : ∀ {devId : Nat} {vsync : DrmVsyncWorker},
      s.LeavesOthers devId { s with vsync } := fun other disp _ hdisp => ⟨hdisp, fun _ _ _ => rfl⟩
  have hcall : Post (sessionStep call) s (fun _ s' => OwnPipes s' ∧ s.LeavesOthers call.devId s')
      (fun _ s' => s.LeavesOthers call.devId s') := by
    cases call with
    | display devId op =>
        refine callDisplayFunction_post (fun _ => ⟨hown, hself⟩) fun disp hfind => ?_
        have hdisp := (find_some hfind).1
        have hwf := h.wellFormed devId disp hdisp
        obtain ⟨p, hp, -⟩ := hwf.parts
        refine ((step_madeOf hwf hp op).and (step_drives _ op)).mono ?_
          (fun _ _ hw => h.leavesOthers hown hdisp hp hw.1)
        rintro r w ⟨hnew, hcrtc, hconn⟩
        refine ⟨?_, h.leavesOthers hown hdisp hp hnew⟩
        -- the display keeps its CRTC and its connector, and the others are the same
        have hsame : ∀ other d, (s.store devId w).mHdiDisplays other = some d →
            ∃ d₀, s.mHdiDisplays other = some d₀ ∧ d.mCrtc.mId = d₀.mCrtc.mId ∧
              d.mConnector = d₀.mConnector := by
          intro other d hd
          by_cases hne : other = devId
          · subst hne
            obtain rfl := HdiSession.store_self hd
            exact ⟨disp, hdisp, hcrtc, hconn⟩
          · rw [HdiSession.store_other hne] at hd
            exact ⟨d, hd, rfl, rfl⟩
        intro i j di dj hij hdi hdj
        obtain ⟨di₀, hdi₀, hcrtci, hconni⟩ := hsame i di hdi
        obtain ⟨dj₀, hdj₀, hcrtcj, hconnj⟩ := hsame j dj hdj
        rw [hcrtci, hcrtcj, hconni, hconnj]
        exact hown i j di₀ dj₀ hij hdi₀ hdj₀
    | regDisplayVBlankCallback devId cb =>
        unfold sessionStep
        exact callVsyncWorker_post (fun _ => ⟨hown, hself⟩) fun _ _ => ⟨hown, hself⟩
    | setDisplayVsyncEnabled devId enabled =>
        unfold sessionStep
        exact callVsyncWorker_post (fun _ => ⟨hown, hself⟩) fun _ _ => ⟨hown, hself⟩
  exact ((h.step call).and hcall).mono (fun _ _ hs => ⟨⟨hs.1, hs.2.1⟩, hs.2.2⟩) (fun _ _ hs => hs.2)

/-- **A run without calls of a display** leaves what it drives as it is. -/
theorem Coexist.run_leaves (h : Coexist s) (hown : OwnPipes s) {devId : Nat} {disp : HdiDisplay}
    (hdisp : s.mHdiDisplays devId = some disp) {calls : List Call}
    (hcalls : ∀ call ∈ calls, call.devId ≠ devId) {obj : DrmObj} (hobj : disp.Drives obj)
    (prop : PropName) :
    Post (run sessionStep calls) s
      (fun _ s' => kmsValue obj prop (commits s'.drm.log) = kmsValue obj prop (commits s.drm.log))
      (fun _ s' => kmsValue obj prop (commits s'.drm.log) = kmsValue obj prop (commits s.drm.log)) := by
  refine (run_post (I := fun s' => (Coexist s' ∧ OwnPipes s') ∧ s'.mHdiDisplays devId = some disp ∧
      kmsValue obj prop (commits s'.drm.log) = kmsValue obj prop (commits s.drm.log))
    (C := fun _ call => True ∧ call.devId ≠ devId) ?_ ⟨⟨h, hown⟩, hdisp, rfl⟩
    ((meets_true s calls).and_mem hcalls)).mono (fun _ _ hs => hs.2.2) (fun _ _ hs => hs)
  rintro s' call ⟨⟨h', hown'⟩, hdisp', hvalue⟩ ⟨-, hne⟩
  refine (h'.step_leavesOthers hown' call).mono ?_ ?_
  · rintro r s'' ⟨hco, hleaves⟩
    obtain ⟨hsame, hkept⟩ := hleaves devId disp (Ne.symm hne) hdisp'
    exact ⟨hco, hsame, (hkept obj hobj prop).trans hvalue⟩
  · rintro e s'' hleaves
    exact ((hleaves devId disp (Ne.symm hne) hdisp').2 obj hobj prop).trans hvalue

end

/-! ## Discovery -/

/-- No display has a connector of this id. -/
def Discovery.Unplugged (s : Discovery) (q : Nat) : Prop :=
  ∀ devId disp, s.mDisplays devId = some disp → disp.mConnector.mId ≠ q

/-- Each display has a connector of its own. -/
def Discovery.OwnConnectors (s : Discovery) : Prop :=
  ∀ devId devId' disp disp', devId ≠ devId' → s.mDisplays devId = some disp →
    s.mDisplays devId' = some disp' → disp.mConnector.mId ≠ disp'.mConnector.mId

section
variable {mEncoders : List DrmEncoder} {s : Discovery} {con : DrmConnector} {a : InitAnswers}

/-- A turn brings up no display but one of its connector. -/
theorem discoverDisplay_connector (h : s.SideBySide mEncoders) (hsuits : Suits mEncoders s (con, a)) :
    Post (discoverDisplay mEncoders (con, a)) s
      (fun _ s' => ∃ devId, ∀ other disp, s'.mDisplays other = some disp →
        s.mDisplays other = some disp ∨ (other = devId ∧ disp.mConnector = con))
      (fun e _ => e = .diverges) := by
  cases hoffer : con.offer mEncoders s.mCrtcs with
  | none => exact post_of_ok (discoverDisplay_none hoffer) ⟨0, fun _ _ hdisp => Or.inl hdisp⟩
  | some crtc =>
      refine discoverDisplay_post h.sound hoffer ((drmDisplayInit_outcome a).mono ?_ fun e _ he => he.1)
      rintro ret w ⟨id, ids, hid, hiff, hup⟩
      obtain ⟨-, hinits⟩ := hsuits crtc hoffer id ids hid
      have hup := hup (hiff.2 hinits)
      rw [(emplace_new h.sound hid hinits hup).2]
      refine ⟨w.disp.mId, fun other disp hdisp => ?_⟩
      simp only [Discovery.entered, Function.update_apply] at hdisp
      split at hdisp
      · next heq =>
          obtain rfl := Option.some.inj hdisp
          exact Or.inr ⟨heq, hup.mConnector⟩
      · exact Or.inl hdisp

theorem Discovery.OwnConnectors.turn {s' : Discovery} (h : s.OwnConnectors)
    (hfresh : s.Unplugged con.mId) {devId : Nat}
    (hs' : ∀ other disp, s'.mDisplays other = some disp →
      s.mDisplays other = some disp ∨ (other = devId ∧ disp.mConnector = con)) :
    s'.OwnConnectors := by
  intro i j di dj hij hdi hdj
  rcases hs' i di hdi with hdi | ⟨rfl, rfl⟩ <;> rcases hs' j dj hdj with hdj | ⟨rfl, hcon⟩
  · exact h i j di dj hij hdi hdj
  · rw [hcon]
    exact hfresh i di hdi
  · exact (hfresh j dj hdj).symm
  · exact absurd rfl hij

/-- The connectors have ids of their own, so each is unplugged when its turn comes. -/
theorem meets_unplugged {mConnectors : List (DrmConnector × InitAnswers)} :
    ∀ {s : Discovery}, s.SideBySide mEncoders →
      (mConnectors.map fun x => x.1.mId).Nodup → (∀ x ∈ mConnectors, s.Unplugged x.1.mId) →
      Meets (discoverDisplay mEncoders)
        (fun s x => Suits mEncoders s x ∧ Unheld mEncoders s x) s mConnectors →
      Meets (discoverDisplay mEncoders)
        (fun s x => (Suits mEncoders s x ∧ Unheld mEncoders s x) ∧ s.Unplugged x.1.mId) s
        mConnectors := by
  induction mConnectors with
  | nil => exact fun _ _ _ _ => trivial
  | cons x mConnectors ih =>
      rintro s h hnodup hfresh ⟨hx, hrest⟩
      obtain ⟨con, a⟩ := x
      rw [List.map_cons, List.nodup_cons] at hnodup
      refine ⟨⟨hx, hfresh _ List.mem_cons_self⟩, ?_⟩
      cases hrun : discoverDisplay mEncoders (con, a) s with
      | error e s' => trivial
      | ok ret s' =>
          rw [hrun] at hrest
          refine ih ((discoverDisplay_joins h hx.1 hx.2).of_ok hrun) hnodup.2 ?_ hrest
          intro y hy other disp hdisp
          obtain ⟨devId, hcases⟩ := (discoverDisplay_connector h hx.1).of_ok hrun
          rcases hcases other disp hdisp with hold | ⟨-, rfl⟩
          · exact hfresh y (List.mem_cons_of_mem _ hy) other disp hold
          · exact fun heq => hnodup.1 (heq ▸ List.mem_map_of_mem (f := fun x => x.1.mId) hy)

end

/-- One more frame on the second of two displays. -/
def laterFrame : List Call := [.display 1 (.commit (frame (some 5) (some 5) (some 28)))]

theorem laterFrame_run :
    ∃ rets s rets₁ s₁ rets₂ s₂, run (discoverDisplay twoEncoders) twoConnectors twoCrtcs = .ok rets s ∧
      run sessionStep twoFrames s.session = .ok rets₁ s₁ ∧
      run sessionStep laterFrame s₁ = .ok rets₂ s₂ ∧
      (∃ disp, s₁.mHdiDisplays 0 = some disp ∧ disp.Drives (.plane 40)) ∧
      kmsValue (.plane 40) .fbId (commits s₁.drm.log) = some 3 := by
  have hret : returns (run (discoverDisplay twoEncoders) twoConnectors) twoCrtcs (fun _ s =>
      returns (run sessionStep twoFrames) s.session (fun _ s₁ =>
        (s₁.mHdiDisplays 0).any (fun disp =>
          disp.mComposer.any fun c => c.allPlanes.any fun y => decide (y.mId = 40)) &&
        decide (kmsValue (.plane 40) .fbId (commits s₁.drm.log) = some 3) &&
        returns (run sessionStep laterFrame) s₁ (fun _ _ => true))) = true := by
    decide +kernel
  obtain ⟨rets, s, hrun, hret⟩ := returns_iff.1 hret
  obtain ⟨rets₁, s₁, hrun₁, hret⟩ := returns_iff.1 hret
  obtain ⟨hret, hlater⟩ := Bool.and_eq_true_iff.1 hret
  obtain ⟨hdrives, hvalue⟩ := Bool.and_eq_true_iff.1 hret
  obtain ⟨rets₂, s₂, hrun₂, -⟩ := returns_iff.1 hlater
  refine ⟨rets, s, rets₁, s₁, rets₂, s₂, hrun, hrun₁, hrun₂, ?_, of_decide_eq_true hvalue⟩
  obtain ⟨disp, hdisp, hany⟩ := (Option.any_eq_true _ _).1 hdrives
  obtain ⟨c, hc, hany⟩ := (Option.any_eq_true _ _).1 hany
  obtain ⟨y, hy, hid⟩ := List.any_eq_true.1 hany
  exact ⟨disp, hdisp, c, hc, y, hy, of_decide_eq_true hid⟩

end QemuHal
