import QemuHal.Lib.CString
import QemuHal.Lib.Exec

/-!
# Uevents in the common HAL

`MonitorThread` reads a message into a buffer of zeros, and `ParseUeventMessage` walks over
its tokens. The walk relies on a NUL behind each of them. A message that fills the buffer need
not have one behind the last token; `uevent_iff` says when no harm comes of it.
-/

namespace QemuHal.Common

open Exec CString

/-! ## The walk -/

/-- `BUFFER_SIZE` of `MonitorThread`. -/
def ueventBufferSize : Nat := 2048

inductive UeventFault where
  /-- A byte behind the buffer is read. -/
  | outOfBuffer
  | outOfFuel
deriving DecidableEq, Repr

/-- Where the walk stopped, and what it passed to `HandleHotplug`, in this order. -/
structure UeventTrace where
  visited : List Nat := []
  plugs : List Bool := []
deriving DecidableEq, Repr

abbrev Uevent := EStateM UeventFault UeventTrace

/-- A string of the program, without its NUL. -/
def bytes (s : String) : List UInt8 := s.toList.map fun c => c.toNat.toUInt8

def inBuffer {α : Type} : Option α → Uevent α
  | some a => pure a
  | none => throw .outOfBuffer

/-- The loop of `ParseUeventMessage`, at the offset `num`. -/
def parseUeventMessage (buf : List UInt8) (len : Nat) : Nat → Nat → Uevent Unit
  | 0, num => if num < len then throw .outOfFuel else pure ()
  | fuel + 1, num =>
      if num < len then do
        let event := buf.drop num
        modify fun t => { t with visited := t.visited ++ [num] }
        if ← inBuffer (strcmp event (bytes "STATE=HDMI=0")) then
          modify fun t => { t with plugs := t.plugs ++ [false] }
        else if ← inBuffer (strcmp event (bytes "STATE=HDMI=1")) then
          modify fun t => { t with plugs := t.plugs ++ [true] }
        else
          let n ← inBuffer (strlen event)
          parseUeventMessage buf len fuel (num + (n + 1))
      else pure ()

/-- The buffer of zeros once the message is read into it. -/
def received (msg : List UInt8) : List UInt8 :=
  msg ++ List.replicate (ueventBufferSize - msg.length) 0

/-- `MonitorThread` with one message. -/
def monitorMessage (msg : List UInt8) : Uevent Unit :=
  parseUeventMessage (received msg) msg.length msg.length 0

/-! ## The law -/

/-- A token starts with the message and behind every NUL of it. -/
def tokenStarts (msg : List UInt8) : List Nat :=
  (List.range msg.length).filter fun i => decide (i = 0 ∨ msg[i - 1]? = some 0)

def tokenAt (msg : List UInt8) (i : Nat) : List UInt8 := text (msg.drop i)

/-- The polarity of a hot-plug token. -/
def plugOf (token : List UInt8) : Option Bool :=
  if token = bytes "STATE=HDMI=0" then some false
  else if token = bytes "STATE=HDMI=1" then some true
  else none

/-- The list up to the first element that passes the test, with it. -/
def upTo {α : Type} (p : α → Bool) : List α → List α
  | [] => []
  | x :: xs => if p x then [x] else x :: upTo p xs

/-- The tokens of a message up to the first one about a hot plug. -/
def tokensRead (msg : List UInt8) : List Nat :=
  upTo (fun i => (plugOf (tokenAt msg i)).isSome) (tokenStarts msg)

/-- The message is walked over token by token inside the buffer, and its first hot-plug
token handled. -/
def Parses (msg : List UInt8) : Prop :=
  Post (monitorMessage msg) {}
    (fun _ t => t.visited = tokensRead msg ∧
      t.plugs = ((tokenStarts msg).findSome? fun i => plugOf (tokenAt msg i)).toList)
    (fun _ _ => False)

/-- There is room for a NUL behind the message, or one in it behind every token that is
read. -/
def Ended (msg : List UInt8) : Prop :=
  msg.length < ueventBufferSize ∨ ∀ i ∈ tokensRead msg, (0 : UInt8) ∈ msg.drop i

instance (msg : List UInt8) : Decidable (Ended msg) := inferInstanceAs (Decidable (_ ∨ _))

/-! ## Tokens -/

/-- The places where a token of `s` starts, the first one only if `first`. -/
def startsOf (first : Bool) (s : List UInt8) : List Nat :=
  (List.range s.length).filter fun i => if i = 0 then first else decide (s[i - 1]? = some 0)

theorem tokenStarts_eq (msg : List UInt8) : tokenStarts msg = startsOf true msg := by
  unfold tokenStarts startsOf
  apply List.filter_congr
  intro i _
  by_cases hi : i = 0 <;> simp [hi]

theorem startsOf_cons (first : Bool) (c : UInt8) (s : List UInt8) :
    startsOf first (c :: s) =
      (if first then [0] else []) ++ (startsOf (decide (c = 0)) s).map (· + 1) := by
  unfold startsOf
  rw [List.length_cons, List.range_succ_eq_map, List.filter_cons, List.filter_map]
  have hrest : ((fun i => if i = 0 then first else decide ((c :: s)[i - 1]? = some 0)) ∘ Nat.succ) =
      fun i => if i = 0 then decide (c = 0) else decide (s[i - 1]? = some 0) := by
    funext i
    cases i <;> simp
  rw [hrest]
  cases first <;> simp

/-- Inside a token there is no start. -/
theorem startsOf_false (s : List UInt8) : startsOf false s =
    (startsOf true (s.drop ((text s).length + 1))).map (· + ((text s).length + 1)) := by
  induction s with
  | nil => rfl
  | cons c s ih =>
      rw [startsOf_cons, text_cons]
      by_cases hc : c = 0
      · simp [hc]
      · simp [hc, ih, Function.comp_def, Nat.add_assoc]

/-- The first token, and the tokens behind its NUL. -/
theorem startsOf_true {s : List UInt8} (hs : s ≠ []) : startsOf true s =
    0 :: (startsOf true (s.drop ((text s).length + 1))).map (· + ((text s).length + 1)) := by
  cases s with
  | nil => exact absurd rfl hs
  | cons c s =>
      rw [startsOf_cons, text_cons]
      by_cases hc : c = 0
      · simp [hc]
      · simp [hc, startsOf_false s, Function.comp_def, Nat.add_assoc]

/-- The tokens from an offset on where one starts. -/
def tokensFrom (msg : List UInt8) (num : Nat) : List Nat :=
  (startsOf true (msg.drop num)).map (· + num)

theorem tokensFrom_zero (msg : List UInt8) : tokensFrom msg 0 = tokenStarts msg := by
  rw [tokenStarts_eq, tokensFrom, List.drop_zero]
  exact List.map_id _

theorem tokensFrom_end {msg : List UInt8} {num : Nat} (h : msg.length ≤ num) :
    tokensFrom msg num = [] := by
  rw [tokensFrom, List.drop_eq_nil_of_le h]
  rfl

theorem tokensFrom_cons {msg : List UInt8} {num : Nat} (h : num < msg.length) :
    tokensFrom msg num = num :: tokensFrom msg (num + ((tokenAt msg num).length + 1)) := by
  have hne : msg.drop num ≠ [] := by
    rw [ne_eq, List.drop_eq_nil_iff]
    omega
  unfold tokensFrom tokenAt
  rw [startsOf_true hne, List.map_cons, Nat.zero_add, List.map_map, List.drop_drop]
  congr 1
  apply List.map_congr_left
  intro i _
  show i + _ + num = i + (num + _)
  omega

/-! ## One round of the loop -/

section
variable {msg : List UInt8} {num : Nat}

theorem received_drop (h : num ≤ msg.length) : (received msg).drop num =
    msg.drop num ++ List.replicate (ueventBufferSize - msg.length) 0 :=
  List.drop_append_of_le_length h

theorem mem_received_drop (h : num ≤ msg.length) :
    (0 : UInt8) ∈ (received msg).drop num ↔
      msg.length < ueventBufferSize ∨ (0 : UInt8) ∈ msg.drop num := by
  rw [received_drop h, List.mem_append, List.mem_replicate, or_comm]
  apply or_congr_left
  constructor
  · exact fun hroom => by omega
  · exact fun hroom => ⟨by omega, rfl⟩

/-- In the buffer the token is the one of the message. -/
theorem text_received (h : num ≤ msg.length) (hend : (0 : UInt8) ∈ (received msg).drop num) :
    text ((received msg).drop num) = tokenAt msg num := by
  rw [received_drop h]
  apply text_append
  rcases (mem_received_drop h).1 hend with hroom | hmem
  · right
    obtain ⟨k, hk⟩ : ∃ k, ueventBufferSize - msg.length = k + 1 :=
      Nat.exists_eq_succ_of_ne_zero (by omega)
    rw [hk]
    rfl
  · exact Or.inl hmem

variable {fuel : Nat} {t : UeventTrace}

/-- A token with a NUL behind it ends the walk or is stepped over. -/
theorem parse_ended (h : num < msg.length) (hend : (0 : UInt8) ∈ (received msg).drop num) :
    parseUeventMessage (received msg) msg.length (fuel + 1) num t =
      match plugOf (tokenAt msg num) with
      | some plug => .ok () { visited := t.visited ++ [num], plugs := t.plugs ++ [plug] }
      | none => parseUeventMessage (received msg) msg.length fuel
          (num + ((tokenAt msg num).length + 1)) { t with visited := t.visited ++ [num] } := by
  have hunplugged : (0 : UInt8) ∉ bytes "STATE=HDMI=0" := by decide
  have hplugged : (0 : UInt8) ∉ bytes "STATE=HDMI=1" := by decide
  rw [← text_received h.le hend]
  rw [parseUeventMessage, if_pos h, strcmp_of_mem hend hunplugged, strcmp_of_mem hend hplugged,
    strlen_of_mem hend]
  unfold plugOf
  by_cases hoff : text ((received msg).drop num) = bytes "STATE=HDMI=0"
  · simp only [hoff, decide_true]
    rfl
  · by_cases hon : text ((received msg).drop num) = bytes "STATE=HDMI=1"
    · simp only [hon, decide_true]
      rfl
    · simp only [hon, hoff, decide_false]
      rfl

/-- A token without one is read past the end of the buffer. -/
theorem parse_open (h : num < msg.length) (hopen : (0 : UInt8) ∉ (received msg).drop num) :
    ∃ t', parseUeventMessage (received msg) msg.length (fuel + 1) num t =
      .error .outOfBuffer t' := by
  have hunplugged : strcmp ((received msg).drop num) (bytes "STATE=HDMI=0") ≠ some true :=
    strcmp_of_not_mem hopen
  have hplugged : strcmp ((received msg).drop num) (bytes "STATE=HDMI=1") ≠ some true :=
    strcmp_of_not_mem hopen
  rw [parseUeventMessage, if_pos h, strlen_of_not_mem hopen]
  refine ⟨{ t with visited := t.visited ++ [num] }, ?_⟩
  cases hoff : strcmp ((received msg).drop num) (bytes "STATE=HDMI=0") with
  | none => rfl
  | some off =>
      cases hon : strcmp ((received msg).drop num) (bytes "STATE=HDMI=1") with
      | none =>
          cases off with
          | true => exact absurd hoff hunplugged
          | false => rfl
      | some on =>
          cases off with
          | true => exact absurd hoff hunplugged
          | false =>
              cases on with
              | true => exact absurd hon hplugged
              | false => rfl

end

/-! ## The walk over a message -/

section
variable {msg : List UInt8}

/-- The test a walk stops at. -/
def plugsAt (msg : List UInt8) (i : Nat) : Bool := (plugOf (tokenAt msg i)).isSome

/-- **The walk** from the start of a token, where every token it comes to is ended. The
induction is on the fuel, which the rest of the message bounds. -/
theorem walk_ended : ∀ (fuel num : Nat) (t : UeventTrace), msg.length ≤ num + fuel →
    (∀ i ∈ upTo (plugsAt msg) (tokensFrom msg num), (0 : UInt8) ∈ (received msg).drop i) →
    parseUeventMessage (received msg) msg.length fuel num t =
      .ok () {
        visited := t.visited ++ upTo (plugsAt msg) (tokensFrom msg num)
        plugs := t.plugs ++
          ((tokensFrom msg num).findSome? fun i => plugOf (tokenAt msg i)).toList } := by
  intro fuel
  induction fuel with
  | zero =>
      intro num t hlen _
      have hover : ¬ num < msg.length := by omega
      rw [parseUeventMessage, if_neg hover, tokensFrom_end (by omega)]
      simp [upTo]
      rfl
  | succ fuel ih =>
      intro num t hlen hends
      by_cases hnum : num < msg.length
      swap
      · rw [parseUeventMessage, if_neg hnum, tokensFrom_end (by omega)]
        simp [upTo]
        rfl
      · rw [tokensFrom_cons hnum] at hends ⊢
        have hend : (0 : UInt8) ∈ (received msg).drop num := by
          apply hends
          rw [upTo]
          split <;> simp
        rw [parse_ended hnum hend]
        cases hplug : plugOf (tokenAt msg num) with
        | some plug =>
            have hstop : plugsAt msg num = true := by simp [plugsAt, hplug]
            rw [upTo, if_pos hstop, List.findSome?_cons, hplug]
            rfl
        | none =>
            have hgo : ¬ plugsAt msg num = true := by simp [plugsAt, hplug]
            rw [upTo, if_neg hgo] at hends ⊢
            rw [List.findSome?_cons, hplug]
            dsimp only
            rw [ih _ _ (by omega) fun i hi => hends i (List.mem_cons_of_mem num hi)]
            simp

/-- A walk that comes to a token that is not ended leaves the buffer. -/
theorem walk_open : ∀ (fuel num : Nat) (t : UeventTrace), msg.length ≤ num + fuel →
    (∃ i ∈ upTo (plugsAt msg) (tokensFrom msg num), (0 : UInt8) ∉ (received msg).drop i) →
    ∃ t', parseUeventMessage (received msg) msg.length fuel num t = .error .outOfBuffer t' := by
  intro fuel
  induction fuel with
  | zero =>
      rintro num t hlen ⟨i, hi, -⟩
      rw [tokensFrom_end (by omega)] at hi
      exact absurd hi (by simp [upTo])
  | succ fuel ih =>
      rintro num t hlen ⟨i, hi, hopen⟩
      by_cases hnum : num < msg.length
      swap
      · rw [tokensFrom_end (by omega)] at hi
        exact absurd hi (by simp [upTo])
      · by_cases hend : (0 : UInt8) ∈ (received msg).drop num
        swap
        · exact parse_open hnum hend
        · rw [tokensFrom_cons hnum, upTo] at hi
          rw [parse_ended hnum hend]
          have hne : i ≠ num := fun heq => hopen (heq ▸ hend)
          cases hplug : plugOf (tokenAt msg num) with
          | some plug =>
              have hstop : plugsAt msg num = true := by simp [plugsAt, hplug]
              rw [if_pos hstop, List.mem_singleton] at hi
              exact absurd hi hne
          | none =>
              have hgo : ¬ plugsAt msg num = true := by simp [plugsAt, hplug]
              rw [if_neg hgo] at hi
              have hlater := (List.mem_cons.1 hi).resolve_left hne
              exact ih _ _ (by omega) ⟨i, hlater, hopen⟩

theorem mem_tokensRead {i : Nat} (h : i ∈ tokensRead msg) : i ≤ msg.length := by
  have hmem : ∀ {l : List Nat} {p : Nat → Bool}, i ∈ upTo p l → i ∈ l := by
    intro l p
    induction l with
    | nil => exact fun h => h
    | cons x l ih =>
        intro h
        rw [upTo] at h
        split at h
        · exact List.mem_cons.2 (Or.inl (List.mem_singleton.1 h))
        · rcases List.mem_cons.1 h with rfl | h
          · exact List.mem_cons_self
          · exact List.mem_cons_of_mem x (ih h)
  exact (List.mem_range.1 (List.mem_of_mem_filter (hmem h))).le

theorem ended_iff : Ended msg ↔
    ∀ i ∈ upTo (plugsAt msg) (tokensFrom msg 0), (0 : UInt8) ∈ (received msg).drop i := by
  have hread : tokensRead msg = upTo (plugsAt msg) (tokensFrom msg 0) := by
    rw [tokensFrom_zero]
    rfl
  rw [← hread]
  unfold Ended
  constructor
  · exact fun h i hi => (mem_received_drop (mem_tokensRead hi)).2 (h.imp_right fun h => h i hi)
  · intro h
    by_cases hroom : msg.length < ueventBufferSize
    · exact Or.inl hroom
    · exact Or.inr fun i hi =>
        ((mem_received_drop (mem_tokensRead hi)).1 (h i hi)).resolve_left hroom

theorem Ended.parses (h : Ended msg) : Parses msg := by
  unfold Parses monitorMessage
  apply post_of_ok (walk_ended msg.length 0 {} (by omega) (ended_iff.1 h))
  rw [tokensFrom_zero]
  exact ⟨List.nil_append _, List.nil_append _⟩

theorem Parses.ended (h : Parses msg) : Ended msg := by
  rw [ended_iff]
  intro i hi
  by_contra hopen
  obtain ⟨t', herr⟩ := walk_open msg.length 0 {} (by omega) ⟨i, hi, hopen⟩
  exact h.of_error herr

/-- A message of one token that fills the buffer is read past its end. -/
theorem full_not_parses (hlen : msg.length = ueventBufferSize) (hnul : (0 : UInt8) ∉ msg) :
    ¬ Parses msg := by
  intro hparses
  rcases hparses.ended with hroom | hends
  · omega
  · have hnum : 0 < msg.length := by
      rw [hlen]
      decide
    have hfirst : 0 ∈ tokensRead msg := by
      rw [tokensRead, ← tokensFrom_zero, tokensFrom_cons hnum, upTo]
      split <;> simp
    have hmem := hends 0 hfirst
    rw [List.drop_zero] at hmem
    exact hnul hmem

/-- **Uevents.** A message is parsed inside the buffer, token by token up to the first one
about a hot plug, exactly when every token that is read is ended. -/
theorem uevent_iff (msg : List UInt8) : Parses msg ↔ Ended msg :=
  ⟨Parses.ended, Ended.parses⟩

/-- A device name of 2048 letters. -/
theorem uevent_full : ¬ Parses (List.replicate ueventBufferSize 65) :=
  full_not_parses List.length_replicate fun hmem => absurd (List.mem_replicate.1 hmem).2 (by decide)

end

end QemuHal.Common
