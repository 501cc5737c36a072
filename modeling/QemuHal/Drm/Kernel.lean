import Mathlib.Logic.Function.Basic
import Mathlib.Data.List.Basic

/-!
# The kernel side of the display HAL

What the HAL sees of the kernel: the process's descriptor table, the GEM handles
and framebuffers of its DRM file, and the atomic requests it commits. Every call
takes the kernel's answer as an argument, so an operation is a function of its
state and of those answers, and a claim about all answers is a claim about every
way the calls can fail or succeed. An answer the kernel could not give is read as
one it can: a descriptor number in use counts as a failure, an id in use as
another id.

Calls that change what the kernel holds are recorded in `log`, newest first.
-/

namespace QemuHal

/-- The `DISPLAY_*` status codes. -/
inductive DispStatus where
  | success
  | failure
  | nullPtr
  | paramErr
  | notSupport
deriving DecidableEq, Repr

/-! ## Descriptors -/

/-- The files the HAL opens by their path and keeps open. -/
inductive Node where
  /-- `/dev/dri/renderD128` -/
  | render
  /-- `/dev/graphics/fb0` -/
  | fb0
  /-- `/sys/class/backlight/backlight/brightness` -/
  | brightness
deriving DecidableEq, Repr

/-- What a descriptor denotes. -/
inductive File where
  | dmaBuf (id : Nat)
  | syncFile (id : Nat)
  | outFence (commit : Nat)
  | node (n : Node)
deriving DecidableEq, Repr

/-- An entry of the descriptor table; `hal` when the HAL owns the number. -/
structure FdEntry where
  file : File
  hal : Bool
deriving DecidableEq, Repr

/-! ## Atomic requests -/

/-- The objects whose properties a request sets. -/
inductive DrmObj where
  | plane (id : Nat)
  | crtc (id : Nat)
  | connector (id : Nat)
deriving DecidableEq, Repr

/-- The properties the HAL looks up by name (`PROP_FBID` and so on). The kernel
gives each name of an object one property id, so the name stands for the id. -/
inductive PropName where
  | fbId | inFenceFd | crtcId
  | crtcX | crtcY | crtcW | crtcH
  | srcX | srcY | srcW | srcH
  | modeId | outFencePtr | active
deriving DecidableEq, Repr

/-- `n << 16` of an `int32_t`, with the bits that fall out: what `SRC_W` and `SRC_H` get. -/
def shiftLeft16 (n : Int) : Int := (Int32.ofInt n <<< 16).toInt

/-- One entry of an atomic request. -/
structure PropValue where
  obj : DrmObj
  prop : PropName
  value : Int
deriving DecidableEq, Repr

/-- A `drmModeAtomicReq`, newest entry first. -/
abbrev AtomicReq := List PropValue

/-- The values put into a request for a property, newest first. -/
def AtomicReq.values (pset : AtomicReq) (obj : DrmObj) (prop : PropName) : List Int :=
  (pset.filter fun e => decide (e.obj = obj ∧ e.prop = prop)).map PropValue.value

/-- The value a request gives to a property: `drmModeAtomicCommit` keeps the
entry added last. -/
def AtomicReq.lookup (pset : AtomicReq) (obj : DrmObj) (prop : PropName) : Option Int :=
  (pset.values obj prop).head?

/-- `drmModeAtomicAddProperty`: `false` is a negative return, which leaves the
request as it was. -/
def drmModeAtomicAddProperty (ok : PropName → Bool) (pset : AtomicReq) (e : PropValue) :
    Bool × AtomicReq :=
  if ok e.prop then (true, e :: pset) else (false, pset)

/-- The pattern of the property setters: add one property after another and stop
at the first failure. -/
def addProperties (ok : PropName → Bool) : AtomicReq → List PropValue → Bool × AtomicReq
  | pset, [] => (true, pset)
  | pset, e :: es =>
      match drmModeAtomicAddProperty ok pset e with
      | (false, pset) => (false, pset)
      | (true, pset) => addProperties ok pset es

@[simp] theorem values_nil (obj : DrmObj) (prop : PropName) :
    AtomicReq.values [] obj prop = [] := rfl

theorem values_cons (e : PropValue) (pset : AtomicReq) (obj : DrmObj) (prop : PropName) :
    AtomicReq.values (e :: pset) obj prop =
      if e.obj = obj ∧ e.prop = prop then e.value :: pset.values obj prop
      else pset.values obj prop := by
  unfold AtomicReq.values
  by_cases h : e.obj = obj ∧ e.prop = prop <;> simp [h]

theorem addProperties_append {ok : PropName → Bool} {es' : List PropValue} :
    ∀ {es : List PropValue} {pset : AtomicReq},
      addProperties ok pset (es ++ es') =
        match addProperties ok pset es with
        | (false, pset) => (false, pset)
        | (true, pset) => addProperties ok pset es'
  | [], _ => rfl
  | e :: es, pset => by
      simp only [List.cons_append, addProperties, drmModeAtomicAddProperty]
      by_cases hok : ok e.prop = true
      · simp only [hok, if_true]
        exact addProperties_append
      · simp [hok]

/-- Whether a setter succeeds does not depend on the request. -/
theorem addProperties_fst {ok : PropName → Bool} :
    ∀ {es : List PropValue} {pset : AtomicReq},
      (addProperties ok pset es).1 = es.all fun e => ok e.prop
  | [], _ => rfl
  | e :: es, pset => by
      unfold addProperties drmModeAtomicAddProperty
      by_cases hok : ok e.prop = true
      · simp only [hok, if_true, List.all_cons, Bool.true_and]
        exact addProperties_fst
      · simp [hok]

/-! ## The kernel's record of calls -/

/-- A call that changed what the kernel holds. The `DrmGemBuffer` a call was made
for is recorded with it, and with an atomic commit the framebuffers that existed. -/
inductive DrmCall where
  | primeFDToHandle (gem dmaBuf handle : Nat)
  | addFB2 (gem fb : Nat)
  | rmFB (gem fb : Nat) (ok : Bool)
  | gemClose (gem handle : Nat) (ok : Bool)
  | gemDestroyed (gem : Nat)
  | createPropertyBlob (blob : Nat)
  | destroyPropertyBlob (blob : Nat)
  | atomicCommit (pset : AtomicReq) (fbs : List Nat) (fence : Option Int)
deriving DecidableEq, Repr

/-- An atomic commit: the request, the framebuffers that existed, and the fence when
the kernel accepted it. -/
structure Commit where
  pset : AtomicReq
  fbs : List Nat
  fence : Option Int
deriving DecidableEq, Repr

def commits : List DrmCall → List Commit
  | [] => []
  | .atomicCommit pset fbs fence :: log => ⟨pset, fbs, fence⟩ :: commits log
  | _ :: log => commits log

/-- The framebuffer carried on a plane by the last successful of these commits that
set it; `0` is none. -/
def carriedFb (plane : Nat) : List Commit → Int
  | [] => 0
  | ⟨pset, _, some _⟩ :: cs => (pset.lookup (.plane plane) .fbId).getD (carriedFb plane cs)
  | ⟨_, _, none⟩ :: cs => carriedFb plane cs

def shownFb (plane : Nat) (log : List DrmCall) : Int := carriedFb plane (commits log)

/-- No framebuffer is removed while the plane carries it. -/
def FbKept (plane : Nat) : List DrmCall → Prop
  | [] => True
  | .rmFB _ fb true :: log => shownFb plane log ≠ fb ∧ FbKept plane log
  | _ :: log => FbKept plane log

instance decidableFbKept (plane : Nat) : (log : List DrmCall) → Decidable (FbKept plane log)
  | [] => inferInstanceAs (Decidable True)
  | .rmFB _ fb true :: log =>
      have := decidableFbKept plane log
      inferInstanceAs (Decidable (shownFb plane log ≠ fb ∧ FbKept plane log))
  | .rmFB _ _ false :: log => decidableFbKept plane log
  | .primeFDToHandle .. :: log | .addFB2 .. :: log | .gemClose .. :: log
  | .gemDestroyed .. :: log | .createPropertyBlob .. :: log
  | .destroyPropertyBlob .. :: log | .atomicCommit .. :: log => decidableFbKept plane log

/-- Every request committed so far meets `R` on the plane, given the framebuffers put
there and those that existed. -/
def RequestsMeet (R : List Int → List Nat → Prop) (plane : Nat) (log : List DrmCall) : Prop :=
  ∀ c ∈ commits log, R (c.pset.values (.plane plane) .fbId) c.fbs

/-- Every framebuffer asked for exists. -/
def AllExist (values : List Int) (fbs : List Nat) : Prop :=
  ∀ fb ∈ values, fb ≠ 0 → fb.toNat ∈ fbs

/-- Every `FB_ID` names a framebuffer. -/
def AllNamed (values : List Int) (_ : List Nat) : Prop := 0 ∉ values

instance (values : List Int) (fbs : List Nat) : Decidable (AllExist values fbs) :=
  inferInstanceAs (Decidable (∀ fb ∈ values, _))

instance (values : List Int) (fbs : List Nat) : Decidable (AllNamed values fbs) :=
  inferInstanceAs (Decidable (0 ∉ values))

instance (R : List Int → List Nat → Prop) [∀ vs fbs, Decidable (R vs fbs)] (plane : Nat)
    (log : List DrmCall) : Decidable (RequestsMeet R plane log) :=
  inferInstanceAs (Decidable (∀ c ∈ commits log, _))

end QemuHal
