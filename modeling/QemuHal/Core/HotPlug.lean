import Mathlib.Data.List.Dedup
import Mathlib.Data.List.Nodup
import Mathlib.Data.List.Perm.Basic
import QemuHal.Drm.Kernel
import QemuHal.Lib.Exec

/-!
# Hot-plug callbacks

`RegHotPlugCallback` files a callback with its data, then has every callback told of every
display that is connected. The map is keyed by the callback alone, so that only the first
data of a callback is ever filed. `hotPlug_iff` says for which sequences of registrations
and events everyone is told what they should be.
-/

namespace QemuHal.HotPlug

open Exec

variable {κ δ : Type} [DecidableEq κ]

/-! ## `hdi_session.cpp` -/

/-- `callback(devId, connect, data)`. -/
structure PlugCall (κ δ : Type) where
  callback : κ
  devId : Nat
  connect : Bool
  data : δ
deriving DecidableEq, Repr

/-- What the session asks a display. -/
structure PlugDisplay where
  mId : Nat
  isConnected : Bool
deriving DecidableEq, Repr

/-- `mHdiDisplays` in the order of its keys; `mHotPlugCallBacks`, as its entries. -/
structure PlugSession (κ δ : Type) where
  mHdiDisplays : List PlugDisplay
  mHotPlugCallBacks : List (κ × δ) := []
deriving DecidableEq, Repr

namespace PlugSession

/-- `emplace` keeps the entry of a callback that is filed. -/
def emplace (s : PlugSession κ δ) (callback : κ) (data : δ) : PlugSession κ δ :=
  if s.mHotPlugCallBacks.any fun e => decide (e.1 = callback) then s
  else { s with mHotPlugCallBacks := s.mHotPlugCallBacks ++ [(callback, data)] }

/-- `DoHotPlugCallback`: the calls it makes. -/
def doHotPlugCallback (s : PlugSession κ δ) (devId : Nat) (connect : Bool) :
    List (PlugCall κ δ) :=
  s.mHotPlugCallBacks.map fun callback => ⟨callback.1, devId, connect, callback.2⟩

/-- `RegHotPlugCallback`: the status, the calls it makes, the session after it. -/
def regHotPlugCallback (s : PlugSession κ δ) (callback : Option κ) (data : δ) :
    DispStatus × List (PlugCall κ δ) × PlugSession κ δ :=
  match callback with
  | none => (.nullPtr, [], s)
  | some callback =>
      let s := s.emplace callback data
      (.success,
        s.mHdiDisplays.flatMap fun display =>
          if display.isConnected then s.doHotPlugCallback display.mId true else [],
        s)

end PlugSession

inductive PlugOp (κ δ : Type) where
  | regHotPlugCallback (callback : Option κ) (data : δ)
  | doHotPlugCallback (devId : Nat) (connect : Bool)
deriving DecidableEq, Repr

def plugStep (op : PlugOp κ δ) : EStateM Empty (PlugSession κ δ) (List (PlugCall κ δ)) := fun s =>
  match op with
  | .regHotPlugCallback callback data =>
      .ok (s.regHotPlugCallback callback data).2.1 (s.regHotPlugCallback callback data).2.2
  | .doHotPlugCallback devId connect => .ok (s.doHotPlugCallback devId connect) s

/-! ## The law -/

/-- The pairs registered so far. -/
def noteRegistered (_ : PlugSession κ δ) (registered : List (κ × δ)) : PlugOp κ δ → List (κ × δ)
  | .regHotPlugCallback (some callback) data => (callback, data) :: registered
  | _ => registered

/-- The displays that are connected. -/
def PlugSession.connected (s : PlugSession κ δ) : List PlugDisplay :=
  s.mHdiDisplays.filter (·.isConnected)

variable [DecidableEq δ]

/-- What is asked of a step: a pair that is registered is told once of every connected
display and no other pair is told anything; an event is told once to every registered
pair. -/
def PlugLaw (s : PlugSession κ δ × List (κ × δ)) : PlugOp κ δ → Prop
  | .regHotPlugCallback none data =>
      Post (plugStep (.regHotPlugCallback none data)) s.1 (fun calls _ => calls = [])
        (fun _ _ => False)
  | .regHotPlugCallback (some callback) data =>
      Post (plugStep (.regHotPlugCallback (some callback) data)) s.1
        (fun calls _ => calls.Perm (s.1.connected.map fun d => ⟨callback, d.mId, true, data⟩))
        (fun _ _ => False)
  | .doHotPlugCallback devId connect =>
      Post (plugStep (.doHotPlugCallback devId connect)) s.1
        (fun calls _ => calls.Perm (s.2.dedup.map fun p => ⟨p.1, devId, connect, p.2⟩))
        (fun _ _ => False)

/-- Nobody but the pair itself is filed when a pair is registered while a display is
connected, and at an event no callback has been registered with two different data. -/
def Addressed (s : PlugSession κ δ × List (κ × δ)) : PlugOp κ δ → Prop
  | .regHotPlugCallback none _ => True
  | .regHotPlugCallback (some callback) data =>
      s.1.connected = [] ∨ ∀ p ∈ s.1.mHotPlugCallBacks, p = (callback, data)
  | .doHotPlugCallback .. => ∀ p ∈ s.2, ∀ q ∈ s.2, p.1 = q.1 → p = q

/-! ## What is filed -/

/-- The map has every registered callback, once, with data it was registered with. -/
structure Filed (s : PlugSession κ δ × List (κ × δ)) : Prop where
  nodup : (s.1.mHotPlugCallBacks.map Prod.fst).Nodup
  registered : ∀ p ∈ s.1.mHotPlugCallBacks, p ∈ s.2
  all : ∀ p ∈ s.2, p.1 ∈ s.1.mHotPlugCallBacks.map Prod.fst

section
omit [DecidableEq δ]
variable {s : PlugSession κ δ} {registered : List (κ × δ)} {callback : κ} {data : δ}

theorem emplace_of_mem (h : callback ∈ s.mHotPlugCallBacks.map Prod.fst) :
    s.emplace callback data = s := by
  unfold PlugSession.emplace
  rw [if_pos]
  simpa using h

theorem emplace_of_not_mem (h : callback ∉ s.mHotPlugCallBacks.map Prod.fst) :
    s.emplace callback data =
      { s with mHotPlugCallBacks := s.mHotPlugCallBacks ++ [(callback, data)] } := by
  unfold PlugSession.emplace
  rw [if_neg]
  simpa using h

@[simp] theorem emplace_mHdiDisplays (s : PlugSession κ δ) (callback : κ) (data : δ) :
    (s.emplace callback data).mHdiDisplays = s.mHdiDisplays := by
  unfold PlugSession.emplace
  split <;> rfl

theorem Filed.emplace (h : Filed (s, registered)) (callback : κ) (data : δ) :
    Filed (s.emplace callback data, (callback, data) :: registered) := by
  have hall : ∀ p ∈ registered, p.1 ∈ s.mHotPlugCallBacks.map Prod.fst := h.all
  by_cases hmem : callback ∈ s.mHotPlugCallBacks.map Prod.fst
  · rw [emplace_of_mem hmem]
    refine ⟨h.nodup, fun p hp => List.mem_cons_of_mem _ (h.registered p hp), fun p hp => ?_⟩
    rcases List.mem_cons.1 hp with rfl | hold
    · exact hmem
    · exact hall p hold
  · rw [emplace_of_not_mem hmem]
    refine ⟨?_, fun p hp => ?_, fun p hp => ?_⟩
    · rw [List.map_append]
      exact List.Nodup.append h.nodup (List.nodup_singleton _) (by simpa using hmem)
    · rcases List.mem_append.1 hp with hold | hnew
      · exact List.mem_cons_of_mem _ (h.registered p hold)
      · rw [List.mem_singleton.1 hnew]
        exact List.mem_cons_self
    · rw [List.map_append, List.mem_append]
      rcases List.mem_cons.1 hp with rfl | hold
      · exact Or.inr (by simp)
      · exact Or.inl (hall p hold)

/-- Filing a pair leaves it alone in the map exactly when nobody else was there. -/
theorem Filed.emplace_singleton (h : Filed (s, registered)) :
    (s.emplace callback data).mHotPlugCallBacks = [(callback, data)] ↔
      ∀ p ∈ s.mHotPlugCallBacks, p = (callback, data) := by
  have hnodup : s.mHotPlugCallBacks.Nodup := List.Nodup.of_map Prod.fst h.nodup
  by_cases hmem : callback ∈ s.mHotPlugCallBacks.map Prod.fst
  · rw [emplace_of_mem hmem]
    constructor
    · intro hone p hp
      rwa [hone, List.mem_singleton] at hp
    · intro hall
      obtain ⟨p, hp, -⟩ := List.mem_map.1 hmem
      cases hm : s.mHotPlugCallBacks with
      | nil => simp [hm] at hp
      | cons q qs =>
          rw [hm] at hall hnodup
          obtain rfl := hall q List.mem_cons_self
          have hnone : qs = [] := by
            rw [List.eq_nil_iff_forall_not_mem]
            intro r hr
            have hr' := hall r (List.mem_cons_of_mem _ hr)
            exact (List.nodup_cons.1 hnodup).1 (hr' ▸ hr)
          rw [hnone]
  · rw [emplace_of_not_mem hmem]
    have hnil : s.mHotPlugCallBacks ++ [(callback, data)] = [(callback, data)] ↔
        s.mHotPlugCallBacks = [] := by
      rw [List.append_left_eq_self]
    refine hnil.trans ⟨fun hn p hp => by simp [hn] at hp, fun hall => ?_⟩
    rw [List.eq_nil_iff_forall_not_mem]
    intro p hp
    obtain rfl := hall p hp
    exact hmem (List.mem_map_of_mem hp)

/-! ## What is told -/

omit [DecidableEq κ] in
/-- The loop over the displays meets the connected ones. -/
theorem flatMap_connected (displays : List PlugDisplay) (f : PlugDisplay → List (PlugCall κ δ)) :
    (displays.flatMap fun d => if d.isConnected then f d else []) =
      (displays.filter (·.isConnected)).flatMap f := by
  induction displays with
  | nil => rfl
  | cons d displays ih =>
      rw [List.flatMap_cons, ih, List.filter_cons]
      split
      · rw [List.flatMap_cons]
      · rfl

/-- The calls of a registration, display by display. -/
theorem regHotPlugCallback_calls (s : PlugSession κ δ) (callback : κ) (data : δ) :
    (s.regHotPlugCallback (some callback) data).2.1 =
      s.connected.flatMap fun d => (s.emplace callback data).doHotPlugCallback d.mId true := by
  unfold PlugSession.regHotPlugCallback PlugSession.connected
  dsimp only
  rw [flatMap_connected, emplace_mHdiDisplays]

omit [DecidableEq κ] in
/-- Everyone filed is told of every connected display, so only one may be filed. -/
theorem told_iff {filed : List (κ × δ)} {connected : List PlugDisplay} :
    (connected.flatMap fun d => filed.map fun p => (⟨p.1, d.mId, true, p.2⟩ : PlugCall κ δ)).Perm
        (connected.map fun d => ⟨callback, d.mId, true, data⟩) ↔
      connected = [] ∨ filed = [(callback, data)] := by
  constructor
  · intro hperm
    cases connected with
    | nil => exact Or.inl rfl
    | cons d ds =>
        right
        have hlen : (d :: ds).length * filed.length = (d :: ds).length := by
          have h := hperm.length_eq
          rw [List.length_flatMap] at h
          simpa [Nat.add_mul, Nat.add_comm] using h
        obtain ⟨p, rfl⟩ : ∃ p, filed = [p] :=
          List.length_eq_one_iff.1 (Nat.eq_of_mul_eq_mul_left (by simp) (hlen.trans (by simp)))
        have hcall := hperm.subset (List.mem_flatMap.2 ⟨d, List.mem_cons_self,
          List.mem_map_of_mem (List.mem_singleton_self p)⟩)
        obtain ⟨d', -, heq⟩ := List.mem_map.1 hcall
        obtain ⟨hc, -, -, hd⟩ := PlugCall.mk.injEq .. ▸ heq
        rw [hc, hd]
  · rintro (rfl | rfl)
    · exact List.Perm.refl _
    · rw [List.map_eq_flatMap]
      exact List.Perm.refl _

end

/-- One step is lawful exactly when it meets the condition. -/
theorem plugLaw_iff {s : PlugSession κ δ × List (κ × δ)} (h : Filed s) (op : PlugOp κ δ) :
    PlugLaw s op ↔ Addressed s op := by
  obtain ⟨s, registered⟩ := s
  cases op with
  | regHotPlugCallback callback data =>
      cases callback with
      | none => exact iff_of_true rfl trivial
      | some callback =>
          show List.Perm (s.regHotPlugCallback (some callback) data).2.1 _ ↔ _
          rw [regHotPlugCallback_calls]
          exact told_iff.trans (or_congr_right h.emplace_singleton)
  | doHotPlugCallback devId connect =>
      have hnodup : s.mHotPlugCallBacks.Nodup := List.Nodup.of_map Prod.fst h.nodup
      have hinj : Function.Injective fun p : κ × δ =>
          (⟨p.1, devId, connect, p.2⟩ : PlugCall κ δ) := by
        rintro ⟨k, v⟩ ⟨k', v'⟩ heq
        simpa using heq
      show List.Perm (s.mHotPlugCallBacks.map _) (registered.dedup.map _) ↔ _
      rw [List.map_perm_map_iff hinj, List.perm_ext_iff_of_nodup hnodup registered.nodup_dedup]
      simp only [List.mem_dedup]
      constructor
      · intro hsame p hp q hq hkey
        exact List.inj_on_of_nodup_map h.nodup ((hsame p).2 hp) ((hsame q).2 hq) hkey
      · intro hone p
        refine ⟨h.registered p, fun hp => ?_⟩
        obtain ⟨q, hq, hkey⟩ := List.mem_map.1 (h.all p hp)
        rwa [hone p hp q (h.registered q hq) hkey.symm]

omit [DecidableEq δ] in
theorem Filed.step {s : PlugSession κ δ × List (κ × δ)} (h : Filed s) (op : PlugOp κ δ) :
    Post (noting noteRegistered plugStep op) s (fun _ s' => Filed s') (fun _ _ => True) := by
  rw [post_noting]
  obtain ⟨s, registered⟩ := s
  cases op with
  | regHotPlugCallback callback data =>
      cases callback with
      | none => exact h
      | some callback => exact h.emplace callback data
  | doHotPlugCallback devId connect => exact h

/-- **Hot-plug registration.** In every sequence of registrations and events, over any
displays, everyone is told what they should be exactly when each step meets the condition. -/
theorem hotPlug_iff (mHdiDisplays : List PlugDisplay) (ops : List (PlugOp κ δ)) :
    Meets (noting noteRegistered plugStep) PlugLaw ({ mHdiDisplays }, []) ops ↔
      Meets (noting noteRegistered plugStep) Addressed ({ mHdiDisplays }, []) ops := by
  refine meets_congr (I := Filed) (fun s op h _ => h.step op) (fun s op h => plugLaw_iff h op) ?_ ops
  exact ⟨by simp, by simp, by simp⟩

/-- The second callback is registered while a display is connected: the first is told again. -/
theorem hotPlug_again :
    ¬ Meets (noting noteRegistered plugStep) PlugLaw
      (({ mHdiDisplays := [⟨0, true⟩] } : PlugSession Nat Nat), [])
      [.regHotPlugCallback (some 1) 10, .regHotPlugCallback (some 2) 20] := by
  rintro ⟨-, hlaw, -⟩
  have hperm : List.Perm [(⟨1, 0, true, 10⟩ : PlugCall Nat Nat), ⟨2, 0, true, 20⟩]
      [⟨2, 0, true, 20⟩] := hlaw
  exact absurd hperm.length_eq (by decide)

end QemuHal.HotPlug
