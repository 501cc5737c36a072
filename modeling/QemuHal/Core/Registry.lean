import QemuHal.Core.Isolation
import QemuHal.Lib.Roster

/-!
# The layer registry

A display keeps its layers in `mLayersMap`, by id, and in the multiset `mLayers`, by
z-order. `SetLayerZorder` and `DestroyLayer` take a layer out of the multiset by
identity among its equals, and the ids come from one pool for all displays.
`registry_kept` says that the containers of every display agree after every call.
-/

namespace QemuHal

open Exec

/-! ## The law -/

/-- The operations that change the containers. -/
inductive RegistryOp where
  | createLayer (layerInfoNull layerIdNull : Bool)
  | destroyLayer (layerId : Nat) (a : DestroyAnswers)
  | setLayerZorder (layerId zorder : Nat)

def RegistryOp.op : RegistryOp → Op
  | .createLayer i l => .createLayer i l
  | .destroyLayer id a => .destroyLayer id a
  | .setLayerZorder id z => .setLayerZorder id z

/-- One of the operations, called on one of the displays. -/
def registryStep (call : Nat × RegistryOp) : Session Ret :=
  sessionStep (.display call.1 call.2.op)

/-- The `int32_t` an operation returns. -/
def Ret.ret : Ret → DispStatus
  | .status ret | .layerId ret _ | .fence ret _ | .changes ret _ _ | .fences ret _ _ => ret

/-- No display has a layer. -/
def HdiSession.NoLayers (s : HdiSession) : Prop :=
  ∀ devId disp, s.mHdiDisplays devId = some disp →
    (∀ n, disp.layers n = none) ∧ (∀ id, disp.mLayersMap id = none) ∧ disp.mLayers = []

/-- What is asked of the containers. -/
structure LayerRegistry (s : HdiSession) : Prop where
  /-- `mLayers` is in order and holds every layer of `mLayersMap` once and no other. -/
  listed : ∀ devId disp, s.mHdiDisplays devId = some disp →
    Roster.Agrees (s.world disp).zorderOf disp.mLayersMap disp.mLayers
  /-- The map holds live layers, each under its own id. -/
  live : ∀ devId disp id n, s.mHdiDisplays devId = some disp → disp.mLayersMap id = some n →
    ∃ l, disp.layers n = some l ∧ l.mId = id
  stored : ∀ devId disp n l, s.mHdiDisplays devId = some disp → disp.layers n = some l →
    disp.mLayersMap l.mId = some n ∧ l.mId ≠ invalidLayerId
  distinct : ∀ devId devId' disp disp' n n' l l', s.mHdiDisplays devId = some disp →
    s.mHdiDisplays devId' = some disp' → disp.layers n = some l → disp'.layers n' = some l' →
    l.mId = l'.mId → devId = devId' ∧ n = n'

/-- A call leaves the containers in agreement, and as they were when it fails. A call that
never returns has changed nothing. -/
def RegistryLaw (s : HdiSession) (call : Nat × RegistryOp) : Prop :=
  Post (registryStep call) s
    (fun r s' => LayerRegistry s' ∧ (r.ret ≠ .success → s'.mHdiDisplays = s.mHdiDisplays))
    (fun e s' => e = .diverges ∧ s'.mHdiDisplays = s.mHdiDisplays)

/-! ## One display -/

/-- What every operation keeps of a display: the containers agree, the map holds exactly
the live layers, each made before `nextLayer` and under its own id, which is used up. -/
structure Registered (w : World) : Prop where
  listed : Roster.Agrees w.zorderOf w.disp.mLayersMap w.disp.mLayers
  live : ∀ id n, w.disp.mLayersMap id = some n → ∃ l, w.disp.layers n = some l ∧ l.mId = id
  stored : ∀ n l, w.disp.layers n = some l → w.disp.mLayersMap l.mId = some n
  fresh : ∀ n, w.disp.nextLayer ≤ n → w.disp.layers n = none
  valid : ∀ id n, w.disp.mLayersMap id = some n → id ≠ invalidLayerId
  used : ∀ id n, w.disp.mLayersMap id = some n → id ∈ w.layerIds.mIdSets

theorem registered_empty {w : World} (hlayers : ∀ n, w.disp.layers n = none)
    (hmap : ∀ id, w.disp.mLayersMap id = none) (hlist : w.disp.mLayers = []) : Registered w where
  listed := by
    have hnone : w.disp.mLayersMap = fun _ => none := funext hmap
    rw [hnone, hlist]
    exact Roster.Agrees.empty
  live := fun id n hid => absurd ((hmap id).symm.trans hid) (by simp)
  stored := fun n l hl => absurd ((hlayers n).symm.trans hl) (by simp)
  fresh := fun n _ => hlayers n
  valid := fun id n hid => absurd ((hmap id).symm.trans hid) (by simp)
  used := fun id n hid => absurd ((hmap id).symm.trans hid) (by simp)

/-- Other displays take ids out of the pool. -/
theorem Registered.grow {w w' : World} (h : Registered w) (hdisp : w'.disp = w.disp)
    (hids : w.layerIds.mIdSets ⊆ w'.layerIds.mIdSets) : Registered w' := by
  have hz : w'.zorderOf = w.zorderOf := by
    funext n
    unfold World.zorderOf
    rw [hdisp]
  constructor
  · rw [hz, hdisp]
    exact h.listed
  · rw [hdisp]
    exact h.live
  · rw [hdisp]
    exact h.stored
  · rw [hdisp]
    exact h.fresh
  · rw [hdisp]
    exact h.valid
  · rw [hdisp]
    exact fun id n hid => hids (h.used id n hid)

/-- What an operation of a display can do to the registry of all displays. -/
structure RegistersTo (w : World) (ret : DispStatus) (w' : World) : Prop where
  registered : Registered w'
  keys : ∀ id n, w'.disp.mLayersMap id = some n →
    (∃ m, w.disp.mLayersMap id = some m) ∨ id ∉ w.layerIds.mIdSets
  used : w.layerIds.mIdSets ⊆ w'.layerIds.mIdSets
  failed : ret ≠ .success → w'.disp = w.disp

/-- An operation that leaves the display as it was. -/
theorem Registered.unchanged {w w' : World} (h : Registered w) {ret : DispStatus}
    (hdisp : w'.disp = w.disp) (hids : w.layerIds.mIdSets ⊆ w'.layerIds.mIdSets) :
    RegistersTo w ret w' where
  registered := h.grow hdisp hids
  keys := by
    intro id n hid
    rw [hdisp] at hid
    exact Or.inl ⟨n, hid⟩
  used := hids
  failed := fun _ => hdisp

/-- The z-order of the other layers. -/
theorem World.zorderOf_update {w w' : World} {n m : Nat} {l : Option HdiLayer}
    (hw : w'.disp.layers = Function.update w.disp.layers n l) (hne : m ≠ n) :
    w'.zorderOf m = w.zorderOf m := by
  unfold World.zorderOf
  rw [hw, Function.update_of_ne hne]

/-! ### Creating a layer -/

/-- What is left of a display when a layer is created under the id the pool gives. -/
def World.created (w : World) (id : Nat) (layerIds : IdPool) : World :=
  let n := w.disp.nextLayer
  let made := w.setLayer (.created n) { mId := id }
  { w with
    layerIds
    disp := { made.disp with
      nextLayer := n + 1
      mLayers := Roster.insert made.zorderOf n w.disp.mLayers
      mLayersMap := Function.update w.disp.mLayersMap id (some n) } }

theorem Registered.nextLayer_new {w : World} (h : Registered w) (id : Nat) :
    w.disp.mLayersMap id ≠ some w.disp.nextLayer := by
  intro hid
  obtain ⟨l, hl, -⟩ := h.live id _ hid
  rw [h.fresh _ (Nat.le_refl _)] at hl
  exact absurd hl (by simp)

theorem Registered.zorderOf_created {w : World} (h : Registered w) {id : Nat}
    {layerIds : IdPool} :
    ∀ m ∈ w.disp.mLayers, (w.created id layerIds).zorderOf m = w.zorderOf m := by
  intro m hm
  apply World.zorderOf_update (l := some { mId := id })
  · rfl
  · rintro rfl
    obtain ⟨i, hi⟩ := h.listed.filed _ hm
    exact h.nextLayer_new i hi

theorem Registered.created {w : World} (h : Registered w) {id : Nat} {layerIds : IdPool}
    (hinv : id ≠ invalidLayerId) (hnew : w.disp.mLayersMap id = none)
    (hsets : layerIds.mIdSets = insert id w.layerIds.mIdSets) :
    Registered (w.created id layerIds) where
  listed := (h.listed.congr h.zorderOf_created).add hnew h.nextLayer_new
  live := by
    intro i n hi
    simp only [World.created, World.setLayer, Function.update_apply] at hi ⊢
    by_cases hn : n = w.disp.nextLayer
    · rw [if_pos hn]
      refine ⟨_, rfl, ?_⟩
      split at hi
      · next hid => exact hid.symm
      · exact absurd (hn ▸ hi) (h.nextLayer_new i)
    · rw [if_neg hn]
      split at hi
      · exact absurd (Option.some.inj hi).symm hn
      · exact h.live i n hi
  stored := by
    intro n l hl
    simp only [World.created, World.setLayer, Function.update_apply] at hl ⊢
    split at hl
    · next hn =>
        obtain rfl := Option.some.inj hl
        rw [if_pos rfl, hn]
    · have hl' := h.stored n l hl
      rw [if_neg, hl']
      intro hid
      rw [hid, hnew] at hl'
      exact absurd hl' (by simp)
  fresh := by
    intro n hn
    simp only [World.created, World.setLayer] at hn ⊢
    rw [Function.update_of_ne (by omega)]
    exact h.fresh n (by omega)
  valid := by
    intro i n hi
    simp only [World.created, Function.update_apply] at hi
    split at hi
    · next hid => exact hid ▸ hinv
    · exact h.valid i n hi
  used := by
    intro i n hi
    simp only [World.created, Function.update_apply] at hi ⊢
    rw [hsets, Finset.mem_insert]
    split at hi
    · next hid => exact Or.inl hid
    · exact Or.inr (h.used i n hi)

/-- What `createLayer` comes to. -/
theorem createLayer_cases {w : World} (h : Registered w) (i l : Bool) :
    (∃ ret, createLayer i l w = .ok (ret, none) w) ∨
      (∃ layerIds : IdPool, createLayer i l w = .ok (.failure, none) { w with layerIds } ∧
        w.layerIds.mIdSets ⊆ layerIds.mIdSets) ∨
      (∃ id layerIds, createLayer i l w = .ok (.success, some id) (w.created id layerIds) ∧
        id ≠ invalidLayerId ∧ id ∉ w.layerIds.mIdSets ∧ w.disp.mLayersMap id = none ∧
        layerIds.mIdSets = insert id w.layerIds.mIdSets) ∨
      createLayer i l w = .error .diverges w := by
  unfold createLayer
  cases i with
  | true => exact Or.inl ⟨_, rfl⟩
  | false =>
    cases l with
    | true => exact Or.inl ⟨_, rfl⟩
    | false =>
        simp only [Bool.false_eq_true, if_false, get_bind]
        cases hid : w.layerIds.getIdleId invalidLayerId with
        | none => exact Or.inr (Or.inr (Or.inr rfl))
        | some found =>
            obtain ⟨id, layerIds⟩ := found
            have hsets := IdPool.getIdleId_mIdSets hid
            dsimp only
            by_cases hinv : id = invalidLayerId
            · refine Or.inr (Or.inl ⟨layerIds, ?_, ?_⟩)
              · rw [if_pos hinv]
                rfl
              · rw [hsets]
                exact Finset.subset_insert _ _
            · have hunused := IdPool.getIdleId_unused hid hinv
              have hnew : w.disp.mLayersMap id = none := by
                cases hm : w.disp.mLayersMap id with
                | none => rfl
                | some n => exact absurd (h.used id n hm) hunused
              refine Or.inr (Or.inr (Or.inl ⟨id, layerIds, ?_, hinv, hunused, hnew, hsets⟩))
              rw [if_neg hinv, hnew]
              rfl

theorem createLayer_registers {w : World} (h : Registered w) (i l : Bool) :
    Post (createLayer i l) w (fun r w' => RegistersTo w r.1 w')
      (fun e w' => e = .diverges ∧ w' = w) := by
  rcases createLayer_cases h i l with ⟨ret, heq⟩ | ⟨layerIds, heq, hsub⟩ |
    ⟨id, layerIds, heq, hinv, hunused, hnew, hsets⟩ | heq
  · exact post_of_ok heq (h.unchanged rfl (Finset.Subset.refl _))
  · exact post_of_ok heq (h.unchanged rfl hsub)
  · refine post_of_ok heq ⟨h.created hinv hnew hsets, ?_, ?_, fun hne => absurd rfl hne⟩
    · intro i n hi
      simp only [World.created, Function.update_apply] at hi
      split at hi
      · next heq => exact Or.inr (heq ▸ hunused)
      · exact Or.inl ⟨n, hi⟩
    · show w.layerIds.mIdSets ⊆ layerIds.mIdSets
      rw [hsets]
      exact Finset.subset_insert _ _
  · unfold Post
    rw [heq]
    exact ⟨rfl, rfl⟩

/-! ### Changing a z-order -/

/-- What is left of a display when a live layer gets another z-order. -/
def World.rezordered (w : World) (n : Nat) (l : HdiLayer) (zorder : Nat) : World :=
  let moved := w.setLayer (.created n) (l.setLayerZorder zorder)
  { moved with disp := { moved.disp with
    mLayers := Roster.insert moved.zorderOf n (w.disp.mLayers.erase n) } }

theorem setLayerZorder_cases {w : World} (h : Registered w) (layerId zorder : Nat) :
    (∃ ret, setLayerZorder layerId zorder w = .ok ret w) ∨
      ∃ n l, w.disp.mLayersMap layerId = some n ∧ w.disp.layers n = some l ∧
        setLayerZorder layerId zorder w = .ok .success (w.rezordered n l zorder) := by
  unfold setLayerZorder
  rw [get_bind]
  cases hm : w.disp.mLayersMap layerId with
  | none => exact Or.inl ⟨_, rfl⟩
  | some n =>
      obtain ⟨layer, hlive, -⟩ := h.live layerId n hm
      dsimp only
      rw [bind_of_ok (derefLayer_of (p := .created n) hlive)]
      by_cases hz : layer.mZorder = zorder
      · rw [if_pos hz]
        exact Or.inl ⟨_, rfl⟩
      · rw [if_neg hz]
        have herase : eraseLayer w.zorderOf n w.disp.mLayers = w.disp.mLayers.erase n :=
          Roster.erase_eq n w.disp.mLayers
        rw [herase]
        exact Or.inr ⟨n, layer, rfl, hlive, rfl⟩

theorem Registered.rezordered {w : World} (h : Registered w) {id n zorder : Nat} {l : HdiLayer}
    (hm : w.disp.mLayersMap id = some n) (hl : w.disp.layers n = some l) :
    Registered (w.rezordered n l zorder) where
  listed := h.listed.rekey hm fun _ hne => World.zorderOf_update rfl hne
  live := by
    intro i m hi
    obtain ⟨k, hk, hid⟩ := h.live i m hi
    simp only [World.rezordered, World.setLayer, Function.update_apply]
    split
    · next hmn =>
        subst hmn
        obtain rfl := Option.some.inj (hl.symm.trans hk)
        exact ⟨_, rfl, hid⟩
    · exact ⟨k, hk, hid⟩
  stored := by
    intro m k hk
    simp only [World.rezordered, World.setLayer, Function.update_apply] at hk
    split at hk
    · next hmn =>
        subst hmn
        obtain rfl := Option.some.inj hk
        exact h.stored m l hl
    · exact h.stored m k hk
  fresh := by
    intro m hge
    simp only [World.rezordered, World.setLayer, Function.update_apply]
    split
    · next hmn =>
        subst hmn
        rw [h.fresh m hge] at hl
        exact absurd hl (by simp)
    · exact h.fresh m hge
  valid := h.valid
  used := h.used

theorem setLayerZorder_registers {w : World} (h : Registered w) (layerId zorder : Nat) :
    Post (setLayerZorder layerId zorder) w (fun ret w' => RegistersTo w ret w')
      (fun _ _ => False) := by
  rcases setLayerZorder_cases h layerId zorder with ⟨ret, heq⟩ | ⟨n, l, hm, hl, heq⟩
  · exact post_of_ok heq (h.unchanged rfl (Finset.Subset.refl _))
  · exact post_of_ok heq ⟨h.rezordered hm hl, fun id m hid => Or.inl ⟨m, hid⟩,
      Finset.Subset.refl _, fun hne => absurd rfl hne⟩

/-! ### Destroying a layer -/

/-- What is left of a display when a layer is destroyed. -/
def World.destroyed (w : World) (layerId n : Nat) (drm : Drm) : World :=
  { w with
    drm
    disp := { w.disp with
      mLayers := w.disp.mLayers.erase n
      mLayersMap := Function.update w.disp.mLayersMap layerId none
      layers := Function.update w.disp.layers n none } }

theorem Registered.destroyed {w : World} (h : Registered w) {layerId n : Nat}
    (hm : w.disp.mLayersMap layerId = some n) (drm : Drm) :
    Registered (w.destroyed layerId n drm) where
  listed := by
    apply (h.listed.erase hm).congr
    intro m hmem
    apply World.zorderOf_update (l := none) rfl
    rintro rfl
    exact h.listed.nodup.not_mem_erase hmem
  live := by
    intro i m hi
    simp only [World.destroyed, Function.update_apply] at hi ⊢
    split at hi
    · exact absurd hi (by simp)
    · next hne =>
        rw [if_neg]
        · exact h.live i m hi
        · rintro rfl
          exact hne (h.listed.inj i layerId m hi hm)
  stored := by
    intro m l hl
    simp only [World.destroyed, Function.update_apply] at hl ⊢
    split at hl
    · exact absurd hl (by simp)
    · next hne =>
        have hstored := h.stored m l hl
        rw [if_neg, hstored]
        intro hid
        rw [hid] at hstored
        exact hne (Option.some.inj (hstored.symm.trans hm))
  fresh := by
    intro m hge
    simp only [World.destroyed, Function.update_apply]
    split
    · rfl
    · exact h.fresh m hge
  valid := by
    intro i m hi
    simp only [World.destroyed, Function.update_apply] at hi
    split at hi
    · exact absurd hi (by simp)
    · exact h.valid i m hi
  used := by
    intro i m hi
    simp only [World.destroyed, Function.update_apply] at hi
    split at hi
    · exact absurd hi (by simp)
    · exact h.used i m hi

theorem destroyLayer_cases {w : World} (h : Registered w) (layerId : Nat)
    (a : DestroyAnswers) :
    (w.disp.mLayersMap layerId = none ∧ destroyLayer layerId a w = .ok .failure w) ∨
      ∃ n drm, w.disp.mLayersMap layerId = some n ∧
        destroyLayer layerId a w = .ok .success (w.destroyed layerId n drm) := by
  unfold destroyLayer
  rw [get_bind]
  cases hm : w.disp.mLayersMap layerId with
  | none => exact Or.inl ⟨rfl, rfl⟩
  | some n =>
      obtain ⟨layer, hlive, -⟩ := h.live layerId n hm
      dsimp only
      rw [bind_of_ok (derefLayer_of (p := .created n) hlive)]
      have herase : eraseLayer w.zorderOf n w.disp.mLayers = w.disp.mLayers.erase n :=
        Roster.erase_eq n w.disp.mLayers
      rw [herase]
      exact Or.inr ⟨n, layer.destroy w.drm a, rfl, rfl⟩

theorem destroyLayer_registers {w : World} (h : Registered w) (layerId : Nat)
    (a : DestroyAnswers) :
    Post (destroyLayer layerId a) w (fun ret w' => RegistersTo w ret w')
      (fun _ _ => False) := by
  rcases destroyLayer_cases h layerId a with ⟨-, heq⟩ | ⟨n, drm, hm, heq⟩
  · exact post_of_ok heq (h.unchanged rfl (Finset.Subset.refl _))
  · refine post_of_ok heq ⟨h.destroyed hm drm, ?_, Finset.Subset.refl _,
      fun hne => absurd rfl hne⟩
    intro i m hi
    simp only [World.destroyed, Function.update_apply] at hi
    split at hi
    · exact absurd hi (by simp)
    · exact Or.inl ⟨m, hi⟩

/-- **One operation of a display.** -/
theorem step_registers {w : World} (h : Registered w) (op : RegistryOp) :
    Post (step op.op) w (fun r w' => RegistersTo w r.ret w')
      (fun e w' => e = .diverges ∧ w' = w) := by
  cases op with
  | createLayer i l =>
      show Post (createLayer i l >>= _) w _ _
      rw [post_bind]
      exact createLayer_registers h i l
  | destroyLayer id a =>
      show Post (_ <$> destroyLayer id a) w _ _
      rw [post_map]
      exact (destroyLayer_registers h id a).mono (fun _ _ hw => hw) (fun _ _ he => he.elim)
  | setLayerZorder id z =>
      show Post (_ <$> setLayerZorder id z) w _ _
      rw [post_map]
      exact (setLayerZorder_registers h id z).mono (fun _ _ hw => hw) (fun _ _ he => he.elim)

/-! ## All displays -/

/-- Every display is registered, and no two displays use one id. -/
structure Registers (s : HdiSession) : Prop where
  display : ∀ devId disp, s.mHdiDisplays devId = some disp → Registered (s.world disp)
  apart : ∀ devId devId' disp disp' id n n', s.mHdiDisplays devId = some disp →
    s.mHdiDisplays devId' = some disp' → disp.mLayersMap id = some n →
    disp'.mLayersMap id = some n' → devId = devId'

theorem Registers.layerRegistry {s : HdiSession} (h : Registers s) : LayerRegistry s where
  listed := fun devId disp hd => (h.display devId disp hd).listed
  live := fun devId disp id n hd hid => (h.display devId disp hd).live id n hid
  stored := by
    intro devId disp n l hd hl
    have hstored := (h.display devId disp hd).stored n l hl
    exact ⟨hstored, (h.display devId disp hd).valid l.mId n hstored⟩
  distinct := by
    intro devId devId' disp disp' n n' l l' hd hd' hl hl' hid
    have hn := (h.display devId disp hd).stored n l hl
    have hn' := (h.display devId' disp' hd').stored n' l' hl'
    rw [← hid] at hn'
    obtain rfl := h.apart devId devId' disp disp' l.mId n n' hd hd' hn hn'
    obtain rfl := Option.some.inj (hd.symm.trans hd')
    exact ⟨rfl, Option.some.inj (hn.symm.trans hn')⟩

theorem HdiSession.NoLayers.registers {s : HdiSession} (h : s.NoLayers) : Registers s where
  display := by
    intro devId disp hd
    obtain ⟨hlayers, hmap, hlist⟩ := h devId disp hd
    exact registered_empty hlayers hmap hlist
  apart := by
    intro devId devId' disp disp' id n n' hd _ hid _
    exact absurd (((h devId disp hd).2.1 id).symm.trans hid) (by simp)

/-- What a display does in its own registry keeps the registry of all. -/
theorem Registers.store {s : HdiSession} (h : Registers s) {devId : Nat} {disp : HdiDisplay}
    (hdisp : s.mHdiDisplays devId = some disp) {ret : DispStatus} {w : World}
    (hw : RegistersTo (s.world disp) ret w) : Registers (s.store devId w) where
  display := by
    intro devId' disp' hd'
    simp only [HdiSession.store, Function.update_apply] at hd'
    split at hd'
    · obtain rfl := Option.some.inj hd'
      exact hw.registered
    · exact (h.display devId' disp' hd').grow rfl hw.used
  apart := by
    -- an id of the display is an old one of its own or one no display has used
    have hother : ∀ devId' disp' id n n', devId' ≠ devId → s.mHdiDisplays devId' = some disp' →
        w.disp.mLayersMap id = some n → disp'.mLayersMap id = some n' → False := by
      intro devId' disp' id n n' hne hd' hid hid'
      rcases hw.keys id n hid with ⟨m, hold⟩ | hunused
      · exact hne (h.apart devId' devId disp' disp id n' m hd' hdisp hid' hold)
      · exact hunused ((h.display devId' disp' hd').used id n' hid')
    intro d₁ d₂ disp₁ disp₂ id n₁ n₂ h₁ h₂ hid₁ hid₂
    simp only [HdiSession.store, Function.update_apply] at h₁ h₂
    split at h₁
    · next he₁ =>
        obtain rfl := Option.some.inj h₁
        split at h₂
        · next he₂ => rw [he₁, he₂]
        · next he₂ => exact (hother d₂ disp₂ id n₁ n₂ he₂ h₂ hid₁ hid₂).elim
    · next he₁ =>
        split at h₂
        · obtain rfl := Option.some.inj h₂
          exact (hother d₁ disp₁ id n₂ n₁ he₁ h₁ hid₂ hid₁).elim
        · exact h.apart d₁ d₂ disp₁ disp₂ id n₁ n₂ h₁ h₂ hid₁ hid₂

theorem HdiSession.store_displays {s : HdiSession} {devId : Nat} {disp : HdiDisplay} {w : World}
    (hdisp : s.mHdiDisplays devId = some disp) (hw : w.disp = disp) :
    (s.store devId w).mHdiDisplays = s.mHdiDisplays := by
  funext devId'
  simp only [HdiSession.store, Function.update_apply]
  split
  · next he => rw [hw, he, hdisp]
  · rfl

/-- **One call.** -/
theorem registryStep_post {s : HdiSession} (h : Registers s) (call : Nat × RegistryOp) :
    Post (registryStep call) s
      (fun r s' => Registers s' ∧ (r.ret ≠ .success → s'.mHdiDisplays = s.mHdiDisplays))
      (fun e s' => e = .diverges ∧ s'.mHdiDisplays = s.mHdiDisplays) := by
  apply callDisplayFunction_post
  · intro _
    exact ⟨h, fun _ => rfl⟩
  · intro disp hfind
    have hdisp := (find_some hfind).1
    apply (step_registers (h.display call.1 disp hdisp) call.2).mono
    · intro r w hw
      exact ⟨h.store hdisp hw, fun hne => HdiSession.store_displays hdisp (hw.failed hne)⟩
    · rintro e w ⟨he, rfl⟩
      exact ⟨he, HdiSession.store_displays hdisp rfl⟩

/-- **Runs.** From a session without layers, every call of every sequence, in any order
over the displays, leaves the containers of every display in agreement, and as they were
when it fails. -/
theorem registry_kept {s : HdiSession} (hs : s.NoLayers) (calls : List (Nat × RegistryOp)) :
    LayerRegistry s ∧ Meets registryStep RegistryLaw s calls := by
  refine ⟨hs.registers.layerRegistry, ?_⟩
  refine (meets_imp (C := fun _ _ => True) (I := Registers) ?_ ?_ hs.registers
    (meets_true s calls))
  · intro s call h _
    exact (registryStep_post h call).mono (fun _ _ hpost => hpost.1) (fun _ _ _ => trivial)
  · intro s call h _
    exact (registryStep_post h call).mono
      (fun _ _ hpost => ⟨hpost.1.layerRegistry, hpost.2⟩) (fun _ _ hpost => hpost)

theorem twoDisplays_noLayers : twoDisplays.NoLayers := by
  intro devId disp hd
  unfold twoDisplays at hd
  dsimp only at hd
  split at hd
  · obtain rfl := Option.some.inj hd
    exact ⟨fun _ => rfl, fun _ => rfl, rfl⟩
  · exact absurd hd (by simp)

/-- Layers of two displays with tied z-orders. -/
theorem registry_kept_twoDisplays :
    LayerRegistry twoDisplays ∧ Meets registryStep RegistryLaw twoDisplays
      [(0, .createLayer false false), (1, .createLayer false false),
        (0, .createLayer false false), (0, .setLayerZorder 2 7), (0, .setLayerZorder 0 7),
        (1, .destroyLayer 0 {}), (0, .destroyLayer 2 {})] :=
  registry_kept twoDisplays_noLayers _

end QemuHal
