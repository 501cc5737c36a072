import QemuHal.Core.Registry

/-!
# The ids of the layers

All displays of the process draw their layer ids from one pool, `HdiLayer::mIdSets`
with its counter. `GetIdleId` adds to the pool and nothing takes out of it: the
destructor of a layer leaves its id behind. So the pool counts, and `layerIds_iff`
says of which calls the allocation is what is asked of it.
-/

namespace QemuHal

open Exec

/-! ## The law -/

/-- A live layer of some display uses the id. -/
def HdiSession.LiveId (s : HdiSession) (id : Nat) : Prop :=
  ∃ devId disp n l, s.mHdiDisplays devId = some disp ∧ disp.layers n = some l ∧ l.mId = id

/-- `GetIdleId` ends, with an id no live layer uses when there is one, and with the
invalid id when there is none. -/
def HdiSession.FindsIdleId (s : HdiSession) : Prop :=
  ∃ id pool, s.layerIds.getIdleId invalidLayerId = some (id, pool) ∧
    ((∃ i < 2 ^ 32, i ≠ invalidLayerId ∧ ¬ s.LiveId i) →
      id < 2 ^ 32 ∧ id ≠ invalidLayerId ∧ ¬ s.LiveId id) ∧
    ((∀ i < 2 ^ 32, i ≠ invalidLayerId → s.LiveId i) → id = invalidLayerId)

/-- Some further history ends with a layer created under the id. -/
def HdiSession.Returnable (s : HdiSession) (id : Nat) : Prop :=
  ∃ calls rs s' call s'', run registryStep calls s = .ok rs s' ∧
    registryStep call s' = .ok (.layerId .success (some id)) s''

/-- What is asked of a call: a creation finds an id, and the id of a destroyed layer can
be returned again. -/
def IdLaw (s : HdiSession) : Nat × RegistryOp → Prop
  | (devId, .createLayer false false) => (s.find devId).isSome → s.FindsIdleId
  | (devId, .destroyLayer id a) => ∀ s',
      registryStep (devId, .destroyLayer id a) s = .ok (.status .success) s' → s'.Returnable id
  | _ => True

/-- Fewer than `2 ^ 32 - 1` ids were handed out before a creation, and no layer is destroyed. -/
def IdCond (s : HdiSession) : Nat × RegistryOp → Prop
  | (devId, .createLayer false false) =>
      (s.find devId).isSome → s.layerIds.mIdSets.card < invalidLayerId
  | (devId, .destroyLayer id _) => ∀ disp, s.find devId = some disp → disp.mLayersMap id = none
  | _ => True

/-! ## The pool along a history -/

/-- A creation leaves the pool as it is, or as `GetIdleId` leaves it. -/
theorem createLayer_pool (w : World) (i l : Bool) :
    Post (createLayer i l) w
      (fun r w' => (r.2 = none ∧ w'.layerIds = w.layerIds) ∨
        ∃ id, w.layerIds.getIdleId invalidLayerId = some (id, w'.layerIds) ∧
          ∀ id', r.2 = some id' → id' = id ∧ id ≠ invalidLayerId)
      (fun _ w' => w'.layerIds = w.layerIds) := by
  unfold createLayer
  cases i with
  | true => exact Or.inl ⟨rfl, rfl⟩
  | false =>
    cases l with
    | true => exact Or.inl ⟨rfl, rfl⟩
    | false =>
        simp only [Bool.false_eq_true, if_false, post_bind, post_get]
        cases hid : w.layerIds.getIdleId invalidLayerId with
        | none => exact rfl
        | some found =>
            obtain ⟨id, layerIds⟩ := found
            dsimp only
            by_cases hinv : id = invalidLayerId
            · rw [if_pos hinv]
              exact Or.inr ⟨id, rfl, fun id' h => absurd h (by simp)⟩
            · rw [if_neg hinv]
              cases w.disp.mLayersMap id with
              | none => exact Or.inr ⟨id, rfl, fun id' h => ⟨(Option.some.inj h).symm, hinv⟩⟩
              | some m => exact Or.inr ⟨id, rfl, fun id' h => ⟨(Option.some.inj h).symm, hinv⟩⟩

/-- What an operation does to the pool, and where an id it returns comes from. -/
def DrawsFrom (pool pool' : IdPool) (r : Ret) : Prop :=
  ((∀ ret id, r ≠ .layerId ret (some id)) ∧ pool' = pool) ∨
    ∃ id, pool.getIdleId invalidLayerId = some (id, pool') ∧
      ∀ ret id', r = .layerId ret (some id') → id' = id ∧ id ≠ invalidLayerId

theorem step_pool {w : World} (h : Registered w) (op : RegistryOp) :
    Post (step op.op) w (fun r w' => DrawsFrom w.layerIds w'.layerIds r)
      (fun _ w' => w'.layerIds = w.layerIds) := by
  cases op with
  | createLayer i l =>
      show Post (createLayer i l >>= _) w _ _
      rw [post_bind]
      apply (createLayer_pool w i l).mono
      · rintro ⟨ret, out⟩ w' (⟨hnone, hpool⟩ | ⟨id, hid, hout⟩)
        · refine Or.inl ⟨?_, hpool⟩
          rintro ret' id hr
          have hsome : out = some id := (Ret.layerId.inj hr).2
          exact absurd (hnone.symm.trans hsome) (by simp)
        · refine Or.inr ⟨id, hid, ?_⟩
          rintro ret' id' hr
          exact hout id' (Ret.layerId.inj hr).2
      · intro _ _ hpool
        exact hpool
  | destroyLayer id a =>
      show Post (_ <$> destroyLayer id a) w _ _
      rw [post_map]
      rcases destroyLayer_cases h id a with ⟨-, heq⟩ | ⟨n, drm, -, heq⟩
      · exact post_of_ok heq (Or.inl ⟨fun _ _ => by simp, rfl⟩)
      · exact post_of_ok heq (Or.inl ⟨fun _ _ => by simp, rfl⟩)
  | setLayerZorder id z =>
      show Post (_ <$> setLayerZorder id z) w _ _
      rw [post_map]
      rcases setLayerZorder_cases h id z with ⟨ret, heq⟩ | ⟨n, l, -, -, heq⟩
      · exact post_of_ok heq (Or.inl ⟨fun _ _ => by simp, rfl⟩)
      · exact post_of_ok heq (Or.inl ⟨fun _ _ => by simp, rfl⟩)

theorem registryStep_pool {s : HdiSession} (h : Registers s) (call : Nat × RegistryOp) :
    Post (registryStep call) s (fun r s' => DrawsFrom s.layerIds s'.layerIds r)
      (fun _ s' => s'.layerIds = s.layerIds) := by
  apply callDisplayFunction_post
  · intro _
    exact Or.inl ⟨fun _ _ => by simp, rfl⟩
  · intro disp hfind
    exact (step_pool (h.display call.1 disp (find_some hfind).1) call.2).mono
      (fun _ _ hw => hw) (fun _ _ hw => hw)

/-! ## Used ids -/

/-- An id once handed out stays in the pool, so no later creation returns it. -/
theorem not_returnable {s : HdiSession} (h : Registers s) {id : Nat}
    (hused : id ∈ s.layerIds.mIdSets) : ¬ s.Returnable id := by
  rintro ⟨calls, rs, s', call, s'', hrun, hcall⟩
  have hstep : ∀ t c, Registers t ∧ id ∈ t.layerIds.mIdSets →
      Post (registryStep c) t (fun _ t' => Registers t' ∧ id ∈ t'.layerIds.mIdSets)
        (fun _ _ => True) := by
    rintro t c ⟨ht, hmem⟩
    apply ((registryStep_post ht c).and (registryStep_pool ht c)).mono
    · rintro r t' ⟨⟨ht', -⟩, ⟨-, hpool⟩ | ⟨new, hnew, -⟩⟩
      · exact ⟨ht', hpool ▸ hmem⟩
      · refine ⟨ht', ?_⟩
        rw [IdPool.getIdleId_mIdSets hnew]
        exact Finset.mem_insert_of_mem hmem
    · intros
      trivial
  obtain ⟨hs', hmem⟩ := (run_invariant hstep ⟨h, hused⟩ calls).of_ok hrun
  rcases (registryStep_pool hs' call).of_ok hcall with ⟨hnone, -⟩ | ⟨new, hnew, hid⟩
  · exact hnone _ _ rfl
  · obtain ⟨rfl, hinv⟩ := hid _ _ rfl
    exact IdPool.getIdleId_unused hnew hinv hmem

theorem Registers.live_used {s : HdiSession} (h : Registers s) {id : Nat} (hlive : s.LiveId id) :
    id ∈ s.layerIds.mIdSets := by
  obtain ⟨devId, disp, n, l, hd, hl, rfl⟩ := hlive
  have hdisp := h.display devId disp hd
  exact hdisp.used l.mId n (hdisp.stored n l hl)

/-! ## One call -/

/-- What holds along every history: the registry is in order and the pool counts. -/
structure Counts (s : HdiSession) : Prop where
  registers : Registers s
  counting : IdPool.Counting invalidLayerId s.layerIds

theorem Counts.step {s : HdiSession} (h : Counts s) (call : Nat × RegistryOp) :
    Post (registryStep call) s (fun _ s' => Counts s') (fun _ _ => True) := by
  apply ((registryStep_post h.registers call).and (registryStep_pool h.registers call)).mono
  · rintro r s' ⟨⟨hs', -⟩, ⟨-, hpool⟩ | ⟨id, hid, -⟩⟩
    · exact ⟨hs', hpool ▸ h.counting⟩
    · exact ⟨hs', h.counting.next (by decide) (by decide) hid⟩
  · intros
    trivial

/-- `GetIdleId` does what is asked of it until every id has been handed out; from then on
it never returns. -/
theorem Counts.findsIdleId_iff {s : HdiSession} (h : Counts s) :
    s.FindsIdleId ↔ s.layerIds.mIdSets.card < invalidLayerId := by
  have hinvalid : invalidLayerId < 2 ^ 32 := by decide
  rw [h.counting.card]
  constructor
  · rintro ⟨id, pool, hid, -⟩
    apply Nat.lt_of_le_of_ne h.counting.bounded
    intro heq
    rw [h.counting.diverges (by decide) heq] at hid
    exact absurd hid (by simp)
  · intro hlt
    have hfree : ¬ s.LiveId s.layerIds.mIdleId := by
      intro hlive
      have hmem := h.registers.live_used hlive
      rw [h.counting.used] at hmem
      exact Finset.notMem_range_self hmem
    refine ⟨_, _, h.counting.getIdleId hinvalid hlt, fun _ => ?_, fun hall => ?_⟩
    · exact ⟨hlt.trans hinvalid, hlt.ne, hfree⟩
    · exact absurd (hall _ (hlt.trans hinvalid) hlt.ne) hfree

/-- A layer is destroyed exactly when its display has it, and its id is then used up. -/
theorem Counts.destroy_iff {s : HdiSession} (h : Counts s) (devId id : Nat) (a : DestroyAnswers) :
    IdLaw s (devId, .destroyLayer id a) ↔ IdCond s (devId, .destroyLayer id a) := by
  constructor
  · intro hlaw disp hfind
    by_contra hne
    obtain ⟨n, hm⟩ := Option.ne_none_iff_exists'.mp hne
    have hdisp := h.registers.display devId disp (find_some hfind).1
    rcases destroyLayer_cases hdisp id a with ⟨hnone, -⟩ | ⟨m, drm, -, heq⟩
    · exact hne hnone
    · have hstep : registryStep (devId, .destroyLayer id a) s =
          .ok (.status .success) (s.store devId ((s.world disp).destroyed id m drm)) :=
        callDisplayFunction_of_ok hfind (map_of_ok heq _)
      have hs' := (registryStep_post h.registers (devId, .destroyLayer id a)).of_ok hstep
      refine not_returnable hs'.1 ?_ (hlaw _ hstep)
      exact hdisp.used id n hm
  · intro hcond s' hstep
    have hpost : Post (registryStep (devId, .destroyLayer id a)) s
        (fun r _ => r ≠ .status .success) (fun _ _ => True) := by
      apply callDisplayFunction_post
      · intro _
        simp
      · intro disp hfind
        have hdisp := h.registers.display devId disp (find_some hfind).1
        show Post (_ <$> destroyLayer id a) (s.world disp) _ _
        rw [post_map]
        rcases destroyLayer_cases hdisp id a with ⟨-, heq⟩ | ⟨n, drm, hm, -⟩
        · exact post_of_ok heq (by simp)
        · exact absurd ((hcond disp hfind).symm.trans hm) (by simp)
    exact absurd rfl (hpost.of_ok hstep)

theorem Counts.idLaw_iff {s : HdiSession} (h : Counts s) (call : Nat × RegistryOp) :
    IdLaw s call ↔ IdCond s call := by
  obtain ⟨devId, op⟩ := call
  cases op with
  | createLayer i l =>
      cases i with
      | true => exact Iff.rfl
      | false =>
          cases l with
          | true => exact Iff.rfl
          | false => exact imp_congr_right fun _ => h.findsIdleId_iff
  | destroyLayer id a => exact h.destroy_iff devId id a
  | setLayerZorder id z => exact Iff.rfl

theorem HdiSession.NoLayers.counts {s : HdiSession} (hs : s.NoLayers) (hids : s.layerIds = {}) :
    Counts s where
  registers := hs.registers
  counting := hids ▸ IdPool.counting_new _

/-! ## Histories -/

/-- **Histories.** From a process without layers, the creations and destructions of a history
over all displays are as asked exactly when each of them meets the condition; and so is any
one call after any history. -/
theorem layerIds_iff {s : HdiSession} (hs : s.NoLayers) (hids : s.layerIds = {}) :
    (∀ calls, Meets registryStep IdLaw s calls ↔ Meets registryStep IdCond s calls) ∧
      ∀ s', Reached registryStep s s' → ∀ call, IdLaw s' call ↔ IdCond s' call := by
  have hcounts := hs.counts hids
  constructor
  · intro calls
    exact meets_congr (fun t call ht _ => ht.step call) (fun t call ht => ht.idLaw_iff call)
      hcounts calls
  · intro s' hreach call
    have hs' : Counts s' := hreach.invariant (fun t c ht => ht.step c) hcounts
    exact hs'.idLaw_iff call

/-- Two displays draw from one pool. -/
theorem layerIds_iff_twoDisplays :
    (∀ calls, Meets registryStep IdLaw twoDisplays calls ↔
        Meets registryStep IdCond twoDisplays calls) ∧
      ∀ s', Reached registryStep twoDisplays s' → ∀ call, IdLaw s' call ↔ IdCond s' call :=
  layerIds_iff twoDisplays_noLayers rfl

/-- A layer is created and destroyed, and no further history can return its id. -/
theorem layerIds_kept :
    ¬ Meets registryStep IdLaw twoDisplays
      [(0, .createLayer false false), (0, .destroyLayer 0 {})] := by
  intro hlaw
  have hcounts := twoDisplays_noLayers.counts rfl
  have hcond := (meets_congr (fun s call hs _ => hs.step call)
    (fun s call hs => hs.idLaw_iff call) hcounts _).mp hlaw
  obtain ⟨-, hdestroy, -⟩ := hcond
  exact absurd (hdestroy _ rfl) (by decide)

end QemuHal
