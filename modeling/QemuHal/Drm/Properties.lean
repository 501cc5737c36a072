import Mathlib.Data.List.Nodup
import QemuHal.Drm.Mode
import QemuHal.Drm.Plane
import QemuHal.Lib.Traverse

/-!
# Property ids

The kernel knows a property of an object by a number. `DrmDevice::GetProperty` looks the
number up under the property's name, once for each name when the object is found, and an
atomic request holds numbers only. `PropName` stands for the numbers in the model of a
frame; here the numbers are found, put into the request and read back by the device.
-/

namespace QemuHal

/-! ## `GetProperty` -/

/-- A property of an object: what `drmModeGetProperty` says of it, and its value. -/
structure KmsProperty where
  propId : Nat
  name : String
  value : UInt64
deriving DecidableEq, Repr

structure DrmProperty where
  propId : Nat := 0
  value : UInt64 := 0
deriving DecidableEq, Repr

/-- The answers to one `GetProperty`: `none` when the properties of the object cannot be
read, and in the list `none` for a null `drmModePropertyPtr`. -/
abbrev PropertyAnswers := Option (List (Option KmsProperty))

/-- The answers of one object, by the name that is looked up. -/
abbrev ObjectAnswers := String → PropertyAnswers

/-- The loop of `GetProperty`. It does not stop at a hit, and `none` is a null pointer
followed. -/
def getPropertyLoop (name : String) :
    List (Option KmsProperty) → Bool × DrmProperty → Option (Bool × DrmProperty)
  | [], r => some r
  | none :: _, _ => none
  | some p :: props, r =>
      getPropertyLoop name props (if p.name = name then (true, ⟨p.propId, p.value⟩) else r)

def getProperty (answer : PropertyAnswers) (name : String) (prop : DrmProperty) :
    Option (DispStatus × DrmProperty) :=
  match answer with
  | none => some (.failure, prop)
  | some props =>
      (getPropertyLoop name props (false, prop)).map fun r =>
        (if r.1 then .success else .notSupport, r.2)

/-! ## Objects -/

/-- The fields of an object that hold property ids (`mPropFbId` and so on), by the name the
id is looked up under. -/
abbrev PropIds := String → Nat

/-- One property after another; the first that is not found ends it. -/
def lookUp (ask : ObjectAnswers) : List String → PropIds → Option (DispStatus × PropIds)
  | [], ids => some (.success, ids)
  | name :: names, ids =>
      match getProperty (ask name) name {} with
      | none => none
      | some (.success, prop) => lookUp ask names (Function.update ids name prop.propId)
      | some (_, _) => some (.failure, ids)

/-- `GetCrtcProp`. -/
def getCrtcProp (ask : ObjectAnswers) : PropIds → Option (DispStatus × PropIds) :=
  lookUp ask ["CRTC_X", "CRTC_Y", "CRTC_W", "CRTC_H"]

/-- `GetSrcProp`. -/
def getSrcProp (ask : ObjectAnswers) : PropIds → Option (DispStatus × PropIds) :=
  lookUp ask ["SRC_X", "SRC_Y", "SRC_W", "SRC_H"]

/-- The types `DrmPlane::Init` accepts. -/
def PlaneType.ofValue (value : UInt64) : Option PlaneType :=
  if value = 0 then some .overlay
  else if value = 1 then some .primary
  else if value = 2 then some .cursor
  else none

/-- What `drmModeGetPlane` says of a plane. -/
structure DrmModePlane where
  planeId : Nat
  possibleCrtcs : UInt32
deriving DecidableEq, Repr

/-- `DrmPlane::Init`; the inner `none` is `DISPLAY_FAILURE`. What `GetCrtcProp` and
`GetSrcProp` return is not looked at. `mPropFbId` is written before the check, but a plane
that fails it is dropped. -/
def planeInit (ask : ObjectAnswers) (p : DrmModePlane) : Option (Option (DrmPlane × PropIds)) := do
  let (_, ids) ← getCrtcProp ask fun _ => 0
  let (_, ids) ← getSrcProp ask ids
  let (ret, ids) ← lookUp ask ["FB_ID", "IN_FENCE_FD", "CRTC_ID"] ids
  if ret ≠ .success then return none
  let (ret, prop) ← getProperty (ask "type") "type" {}
  if ret ≠ .success then return none
  return (PlaneType.ofValue prop.value).map fun mType =>
    ({ mId := p.planeId
       mPossibleCrtcs := p.possibleCrtcs
       mType
       mPropFenceInId := ids "IN_FENCE_FD" }, ids)

/-- `DrmCrtc::Init`. -/
def crtcInit (ask : ObjectAnswers) : Option (Option PropIds) := do
  let (ret, ids) ← lookUp ask ["MODE_ID", "OUT_FENCE_PTR", "ACTIVE"] fun _ => 0
  if ret ≠ .success then return none
  return some ids

/-- `DrmConnector::Init` on an open device. The brightness may be missing. -/
def connectorInit (ask : ObjectAnswers) : Option (Option PropIds) := do
  let (ret, ids) ← lookUp ask ["DPMS", "CRTC_ID"] fun _ => drmInvalidId
  if ret ≠ .success then return none
  let (_, ids) ← lookUp ask ["brightness"] ids
  return some ids

/-! ## Enumeration -/

/-- `FindAllPlane`: a plane that cannot be read, or that fails `Init`, is passed over. -/
def findAllPlane : List (Option (DrmModePlane × ObjectAnswers)) → Option (List (DrmPlane × PropIds))
  | [] => some []
  | none :: planes => findAllPlane planes
  | some (p, ask) :: planes => do
      let mPlane ← planeInit ask p
      let mPlanes ← findAllPlane planes
      return mPlane.toList ++ mPlanes

/-! ## The device -/

def DrmObj.id : DrmObj → Nat
  | .plane id | .crtc id | .connector id => id

/-- The name a property is looked up under. -/
def PropName.name : PropName → String
  | .fbId => "FB_ID"
  | .inFenceFd => "IN_FENCE_FD"
  | .crtcId => "CRTC_ID"
  | .crtcX => "CRTC_X"
  | .crtcY => "CRTC_Y"
  | .crtcW => "CRTC_W"
  | .crtcH => "CRTC_H"
  | .srcX => "SRC_X"
  | .srcY => "SRC_Y"
  | .srcW => "SRC_W"
  | .srcH => "SRC_H"
  | .modeId => "MODE_ID"
  | .outFencePtr => "OUT_FENCE_PTR"
  | .active => "ACTIVE"

/-- The objects of a device with their properties. Objects are numbered together, and an
object has one property of a number and one of a name. -/
structure KmsDevice where
  objs : List (DrmObj × List KmsProperty)
  ids : (objs.map fun x => x.1.id).Nodup
  propIds : ∀ x ∈ objs, (x.2.map KmsProperty.propId).Nodup
  names : ∀ x ∈ objs, (x.2.map KmsProperty.name).Nodup
  nonzero : ∀ x ∈ objs, 0 ∉ x.2.map KmsProperty.propId

/-- An entry of a `drmModeAtomicReq`: object id, property id and value. -/
structure ReqEntry where
  objectId : Nat
  propertyId : Nat
  value : Int
deriving DecidableEq, Repr

/-- What an entry means to the device. -/
structure Meaning where
  obj : DrmObj
  name : String
  value : Int
deriving DecidableEq, Repr

namespace KmsDevice

variable (K : KmsDevice)

/-- The object and the property of these numbers. -/
def resolve (objectId propertyId : Nat) : Option (DrmObj × String) := do
  let x ← K.objs.find? fun x => x.1.id = objectId
  let p ← x.2.find? fun p => p.propId = propertyId
  return (x.1, p.name)

/-- What the device reads in a request; it refuses a number it does not know. -/
def reads (req : List ReqEntry) : Option (List Meaning) :=
  req.mapM fun e => (K.resolve e.objectId e.propertyId).map fun x => ⟨x.1, x.2, e.value⟩

/-- The answers an object gives: a call may fail, but what it says is so. -/
def Tells (obj : DrmObj) (ask : ObjectAnswers) : Prop :=
  ∀ name props, ask name = some props → ∃ l, (obj, l) ∈ K.objs ∧ props = l.map some

/-- The number is that of the object's property of this name. -/
def Right (obj : DrmObj) (ids : PropIds) (name : String) : Prop :=
  K.resolve obj.id (ids name) = some (obj, name)

end KmsDevice

/-- The request as it is handed to the kernel: the HAL puts the id of the object and the id
it has found for the property. -/
def AtomicReq.lowered (ids : DrmObj → PropIds) (pset : AtomicReq) : List ReqEntry :=
  pset.map fun e => ⟨e.obj.id, ids e.obj e.prop.name, e.value⟩

def AtomicReq.meant (pset : AtomicReq) : List Meaning :=
  pset.map fun e => ⟨e.obj, e.prop.name, e.value⟩

/-! ## What is found -/

/-- A loop that does not stop at a hit ends with the last one. -/
theorem getPropertyLoop_map (name : String) (l : List KmsProperty) (r : Bool × DrmProperty) :
    getPropertyLoop name (l.map some) r =
      some (((l.filter fun p => p.name = name).getLast?).elim r fun p => (true, ⟨p.propId, p.value⟩)) := by
  induction l generalizing r with
  | nil => rfl
  | cons p l ih =>
      rw [List.map_cons, getPropertyLoop, ih, List.filter_cons]
      by_cases hname : p.name = name
      · rw [if_pos hname, if_pos (by simpa using hname), List.getLast?_cons]
        cases (l.filter fun p => p.name = name).getLast? <;> rfl
      · rw [if_neg hname, if_neg (by simpa using hname)]

/-- In a list without repeated keys a key finds its element. -/
theorem find?_of_nodup {α : Type} {f : α → Nat} {l : List α} (h : (l.map f).Nodup) {x : α}
    (hx : x ∈ l) : (l.find? fun y => f y = f x) = some x := by
  cases hfind : l.find? fun y => f y = f x with
  | none => exact absurd (List.find?_eq_none.1 hfind x hx) (by simp)
  | some y =>
      have hkey : f y = f x := by simpa using List.find?_some hfind
      rw [List.inj_on_of_nodup_map h (List.mem_of_find?_eq_some hfind) hx hkey]

namespace KmsDevice

variable {K : KmsDevice} {obj : DrmObj} {ask : ObjectAnswers}

theorem resolve_of_mem {l : List KmsProperty} (hl : (obj, l) ∈ K.objs) {p : KmsProperty}
    (hp : p ∈ l) : K.resolve obj.id p.propId = some (obj, p.name) := by
  have hobj : (K.objs.find? fun x => x.1.id = obj.id) = some (obj, l) :=
    find?_of_nodup (f := fun x : DrmObj × List KmsProperty => x.1.id) K.ids hl
  have hprop : (l.find? fun q => q.propId = p.propId) = some p :=
    find?_of_nodup (K.propIds _ hl) hp
  unfold resolve
  rw [hobj]
  show (do let q ← l.find? fun q : KmsProperty => q.propId = p.propId; some (obj, q.name)) = _
  rw [hprop]
  rfl

/-- No property has the number `0`. -/
theorem resolve_zero (objectId : Nat) : K.resolve objectId 0 = none := by
  unfold resolve
  cases hfind : K.objs.find? fun x => x.1.id = objectId with
  | none => rfl
  | some x =>
      have hno : (x.2.find? fun q => q.propId = 0) = none := by
        rw [List.find?_eq_none]
        intro q hq hzero
        refine K.nonzero x (List.mem_of_find?_eq_some hfind) (List.mem_map.2 ⟨q, hq, ?_⟩)
        simpa using hzero
      show (do let q ← x.2.find? fun q : KmsProperty => q.propId = 0; some (x.1, q.name)) = none
      rw [hno]
      rfl

theorem getProperty_tells (h : K.Tells obj ask) (name : String) (prop : DrmProperty) :
    ∃ ret q, getProperty (ask name) name prop = some (ret, q) ∧
      (ret = .success → K.resolve obj.id q.propId = some (obj, name)) := by
  unfold getProperty
  cases hask : ask name with
  | none => exact ⟨_, _, rfl, by simp⟩
  | some props =>
      obtain ⟨l, hl, rfl⟩ := h name props hask
      dsimp only
      rw [getPropertyLoop_map, Option.map_some]
      refine ⟨_, _, rfl, fun hret => ?_⟩
      cases hlast : (l.filter fun p => p.name = name).getLast? with
      | none =>
          rw [hlast] at hret
          exact absurd hret (by simp)
      | some p =>
          obtain ⟨hp, hname⟩ := List.mem_filter.1 (List.mem_of_getLast? hlast)
          have hresolve := resolve_of_mem hl hp
          rwa [of_decide_eq_true hname] at hresolve

/-- **One property after another.** Whatever was found, an id is the one it was before or
the right one. -/
theorem lookUp_tells (h : K.Tells obj ask) (names : List String) (ids : PropIds) :
    ∃ ret ids', lookUp ask names ids = some (ret, ids') ∧
      (ret = .success → ∀ name ∈ names, K.Right obj ids' name) ∧
      (∀ name ∉ names, ids' name = ids name) ∧
      ∀ name, ids' name = ids name ∨ K.Right obj ids' name := by
  induction names generalizing ids with
  | nil => exact ⟨_, _, rfl, by simp, fun _ _ => rfl, fun _ => Or.inl rfl⟩
  | cons first names ih =>
      obtain ⟨ret, q, hget, hright⟩ := getProperty_tells h first {}
      rw [lookUp, hget]
      by_cases hret : ret = .success
      · subst hret
        obtain ⟨ret', ids', heq, hall, hrest, hevery⟩ := ih (Function.update ids first q.propId)
        -- the id of `first` is right unless a later search writes it again, and then that is
        have hfirst : K.Right obj ids' first := by
          rcases hevery first with hsame | hdone
          · rw [Function.update_self] at hsame
            unfold Right
            rw [hsame]
            exact hright rfl
          · exact hdone
        refine ⟨ret', ids', heq, fun hsucc name hname => ?_, fun name hname => ?_, fun name => ?_⟩
        · rcases List.mem_cons.1 hname with rfl | hname
          · exact hfirst
          · exact hall hsucc name hname
        · rw [List.mem_cons, not_or] at hname
          rw [hrest name hname.2, Function.update_of_ne hname.1]
        · by_cases hname : name = first
          · exact Or.inr (hname ▸ hfirst)
          · refine (hevery name).imp_left fun hsame => ?_
            rw [hsame, Function.update_of_ne hname]
      · refine ⟨.failure, ids, ?_, by simp, fun _ _ => rfl, fun _ => Or.inl rfl⟩
        cases ret with
        | success => exact absurd rfl hret
        | _ => rfl

/-- A plane that has been kept: the properties it cannot do without have been found, and an
id that has not is `0`. -/
structure KeepsPlane (K : KmsDevice) (plane : DrmPlane) (ids : PropIds) : Prop where
  fence : plane.mPropFenceInId = ids "IN_FENCE_FD"
  found : ∀ name ∈ ["FB_ID", "IN_FENCE_FD", "CRTC_ID"], K.Right (.plane plane.mId) ids name
  either : ∀ name, ids name = 0 ∨ K.Right (.plane plane.mId) ids name

theorem planeInit_tells {p : DrmModePlane} (h : K.Tells (.plane p.planeId) ask) :
    ∃ r, planeInit ask p = some r ∧
      ∀ x ∈ r, x.1.mId = p.planeId ∧ K.KeepsPlane x.1 x.2 := by
  obtain ⟨_, ids₁, heq₁, -, hrest₁, hevery₁⟩ :=
    lookUp_tells h ["CRTC_X", "CRTC_Y", "CRTC_W", "CRTC_H"] fun _ => 0
  obtain ⟨_, ids₂, heq₂, -, hrest₂, hevery₂⟩ :=
    lookUp_tells h ["SRC_X", "SRC_Y", "SRC_W", "SRC_H"] ids₁
  obtain ⟨ret, ids, heq, hall, hrest, hevery⟩ :=
    lookUp_tells h ["FB_ID", "IN_FENCE_FD", "CRTC_ID"] ids₂
  obtain ⟨ret', q, hget, -⟩ := getProperty_tells h "type" {}
  unfold planeInit getCrtcProp getSrcProp
  rw [heq₁]
  simp only [Option.bind_eq_bind, Option.bind_some]
  rw [heq₂]
  simp only [Option.bind_some]
  rw [heq]
  simp only [Option.bind_some, hget]
  by_cases hret : ret = .success
  swap
  · rw [if_pos hret]
    exact ⟨none, rfl, by simp⟩
  rw [if_neg (not_not.2 hret)]
  by_cases hret' : ret' = .success
  swap
  · rw [if_pos hret']
    exact ⟨none, rfl, by simp⟩
  rw [if_neg (not_not.2 hret')]
  refine ⟨_, rfl, fun x hx => ?_⟩
  obtain ⟨mType, -, rfl⟩ := Option.map_eq_some_iff.1 hx
  refine ⟨rfl, rfl, hall hret, fun name => ?_⟩
  have hcarry : ∀ {before after : PropIds}, before name = 0 ∨ K.Right (.plane p.planeId) before name →
      (after name = before name ∨ K.Right (.plane p.planeId) after name) →
      after name = 0 ∨ K.Right (.plane p.planeId) after name := by
    intro before after hbefore hafter
    rcases hafter with hsame | hdone
    · unfold Right at hbefore ⊢
      rw [hsame]
      exact hbefore
    · exact Or.inr hdone
  exact hcarry (hcarry (hevery₁ name) (hevery₂ name)) (hevery name)

/-- **`FindAllPlane`** on a device that tells the truth. -/
theorem findAllPlane_tells :
    ∀ {answers : List (Option (DrmModePlane × ObjectAnswers))},
      (∀ x ∈ answers, ∀ y ∈ x, K.Tells (.plane y.1.planeId) y.2) →
      ∃ mPlanes, findAllPlane answers = some mPlanes ∧
        (mPlanes.map fun x => x.1.mId).Sublist
          ((answers.filterMap id).map fun y => y.1.planeId) ∧
        ∀ x ∈ mPlanes, K.KeepsPlane x.1 x.2
  | [], _ => ⟨[], rfl, List.Sublist.refl _, by simp⟩
  | none :: answers, h => by
      simpa [findAllPlane] using findAllPlane_tells fun x hx => h x (List.mem_cons_of_mem _ hx)
  | some (p, ask) :: answers, h => by
      obtain ⟨r, heq, hkept⟩ := planeInit_tells (h _ List.mem_cons_self (p, ask) rfl)
      obtain ⟨mPlanes, heq', hids, hrest⟩ :=
        findAllPlane_tells fun x hx => h x (List.mem_cons_of_mem _ hx)
      refine ⟨r.toList ++ mPlanes, by simp [findAllPlane, heq, heq'], ?_, fun x hx => ?_⟩
      · rw [List.map_append, List.filterMap_cons]
        cases r with
        | none => exact hids.cons _
        | some x =>
            have hid : x.1.mId = p.planeId := (hkept x rfl).1
            show (x.1.mId :: _).Sublist (p.planeId :: _)
            rw [hid]
            exact hids.cons_cons _
      · rcases List.mem_append.1 hx with hx | hx
        · exact (hkept x (Option.mem_toList.1 hx)).2
        · exact hrest x hx

theorem crtcInit_tells {id : Nat} (h : K.Tells (.crtc id) ask) :
    ∃ r, crtcInit ask = some r ∧
      ∀ ids ∈ r, ∀ name ∈ ["MODE_ID", "OUT_FENCE_PTR", "ACTIVE"], K.Right (.crtc id) ids name := by
  obtain ⟨ret, ids, heq, hall, -, -⟩ :=
    lookUp_tells h ["MODE_ID", "OUT_FENCE_PTR", "ACTIVE"] fun _ => 0
  unfold crtcInit
  rw [heq]
  simp only [Option.bind_eq_bind, Option.bind_some]
  by_cases hret : ret = .success
  · rw [if_neg (not_not.2 hret)]
    refine ⟨_, rfl, fun x hx => ?_⟩
    obtain rfl := Option.some.inj hx
    exact hall hret
  · rw [if_pos hret]
    exact ⟨none, rfl, by simp⟩

theorem connectorInit_tells {id : Nat} (h : K.Tells (.connector id) ask) :
    ∃ r, connectorInit ask = some r ∧ ∀ ids ∈ r, K.Right (.connector id) ids "CRTC_ID" := by
  obtain ⟨ret, ids, heq, hall, -, -⟩ :=
    lookUp_tells h ["DPMS", "CRTC_ID"] fun _ => drmInvalidId
  obtain ⟨_, ids', heq', -, hrest', -⟩ := lookUp_tells h ["brightness"] ids
  unfold connectorInit
  rw [heq]
  simp only [Option.bind_eq_bind, Option.bind_some, heq']
  by_cases hret : ret = .success
  · rw [if_neg (not_not.2 hret)]
    refine ⟨_, rfl, fun x hx => ?_⟩
    obtain rfl := Option.some.inj hx
    have hsame := hrest' "CRTC_ID" (by decide)
    have hright := hall hret "CRTC_ID" (by decide)
    unfold Right at hright ⊢
    rw [hsame]
    exact hright
  · rw [if_pos hret]
    exact ⟨none, rfl, by simp⟩

end KmsDevice

/-! ## What is read -/

section
variable {K : KmsDevice} {ids : DrmObj → PropIds} {pset : AtomicReq}

/-- A request whose ids are right is read as it is meant. -/
theorem AtomicReq.reads_lowered (h : ∀ e ∈ pset, K.Right e.obj (ids e.obj) e.prop.name) :
    K.reads (pset.lowered ids) = some pset.meant := by
  induction pset with
  | nil => rfl
  | cons e pset ih =>
      have hfirst : K.resolve e.obj.id (ids e.obj e.prop.name) = some (e.obj, e.prop.name) :=
        h e List.mem_cons_self
      have hrest := ih fun e' he' => h e' (List.mem_cons_of_mem _ he')
      unfold KmsDevice.reads AtomicReq.lowered AtomicReq.meant at hrest ⊢
      rw [List.map_cons, List.mapM_cons, hrest, hfirst]
      rfl

/-- A request with an id that has not been found is refused. -/
theorem AtomicReq.reads_zero {e : PropValue} (he : e ∈ pset) (h : ids e.obj e.prop.name = 0) :
    K.reads (pset.lowered ids) = none := by
  induction pset with
  | nil => exact absurd he List.not_mem_nil
  | cons first pset ih =>
      unfold KmsDevice.reads AtomicReq.lowered at ih ⊢
      rw [List.map_cons, List.mapM_cons]
      rcases List.mem_cons.1 he with rfl | he
      · rw [h, KmsDevice.resolve_zero]
        rfl
      · rw [ih he]
        cases K.resolve first.obj.id (ids first.obj first.prop.name) <;> rfl

end

end QemuHal
