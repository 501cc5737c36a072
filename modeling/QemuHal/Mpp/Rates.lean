import QemuHal.Lib.Rounding
import QemuHal.Mpp.Encoder

/-!
# Arithmetic of the encoder

The strides, the frame size and the bit rates are computed in 32 bits from a width and a
height that nothing bounds, and a frame is imported with a size of 27 bits.
`arithmetic_iff` says for which pictures all of it comes out right.
-/

namespace QemuHal.Mpp

open Exec Checked Word Rounding

/-! ## The law -/

/-- The bit rates configured, in their order. -/
def RatesOrdered (cfg : MppEncCfg) : Prop :=
  ∃ bpsMin bpsTarget bpsMax, cfg "rc:bps_min" = some bpsMin ∧
    cfg "rc:bps_target" = some bpsTarget ∧ cfg "rc:bps_max" = some bpsMax ∧
    0 < bpsMin ∧ bpsMin ≤ bpsTarget ∧ bpsTarget ≤ bpsMax

/-- Whatever the outcome, a frame is imported from the caller's buffer with its full size. -/
def ImportsFrames (p : MpiEncTestData) : Prop :=
  ∀ dmaFd bufSize a,
    Post (halMppEncode (some p) dmaFd bufSize a) {}
      (fun _ s => ∀ info ∈ s.imports, info.fd = dmaFd ∧ info.size = p.frameSize)
      (fun _ s => ∀ info ∈ s.imports, info.fd = dmaFd ∧ info.size = p.frameSize)

/-- If a context is returned, its arithmetic was exact and its rates and imports are right. -/
def Sound (env : MppEnv) (cmd : MpiEncTestArgs) (a : CreateAnswers) : Prop :=
  Post (halMppCtxCreate env (some cmd) a) {}
    (fun r s => ∀ p, r = some p → s.exact = true ∧ RatesOrdered s.cfg ∧ ImportsFrames p)
    (fun _ _ => True)

/-- libmpp accepts what it is given. -/
structure CreateAnswers.Accepts (a : CreateAnswers) : Prop where
  calloc : a.calloc = true
  bufferGroupGetInternal : a.bufferGroupGetInternal = 0
  bufferGet : ∀ size, a.bufferGet size = 0
  mppCreate : a.mppCreate = 0
  mppInit : ∀ type, a.mppInit type = 0
  encCfgInit : a.encCfgInit = 0
  control : ∀ cmd, a.control cmd = 0

/-- The frame size in exact arithmetic. -/
def exactFrameSize (fmt : UInt32) (width height : Nat) : Nat :=
  let area := roundUp (roundUp width 16) 64 * roundUp (roundUp height 16) 64
  if fmt &&& mppFrameFmtMask ∈ yuv420Formats then area * 3 / 2
  else if fmt &&& mppFrameFmtMask ∈ twoByteFormats then area * 2
  else area * 4

/-- The picture has at least 8 pixels, the upper bit rate fits in 31 bits before it is
divided, and the frame size fits in 27 bits. -/
def MpiEncTestArgs.Fits (cmd : MpiEncTestArgs) : Prop :=
  0 < cmd.width.toInt ∧ 0 < cmd.height.toInt ∧ 8 ≤ cmd.width.toInt * cmd.height.toInt ∧
    cmd.width.toInt * cmd.height.toInt / 8 * 30 * 17 < 2 ^ 31 ∧
    exactFrameSize cmd.format cmd.width.toInt.toNat cmd.height.toInt.toNat < 2 ^ 27

instance (cmd : MpiEncTestArgs) : Decidable cmd.Fits :=
  inferInstanceAs (Decidable (_ ∧ _ ∧ _ ∧ _ ∧ _))

/-! ## Strides -/

section
variable {ω : Type} [Word ω] [AndOp ω] [Complement ω] [OfNat ω 1]

/-- Aligning to a power of two rounds up, if the sum before the mask fits. -/
theorem mppAlign_exactly {x a low : ω} {n k : Nat} {P : ω → Prop} (hx : val x = n)
    (ha : val a = 2 ^ k) (hone : val (1 : ω) = 1) (hlow : val low = 2 ^ k - 1)
    (hmask : ∀ (t : ω) (m : Nat), val t = m → val (t &&& ~~~low) = (m / 2 ^ k * 2 ^ k : Nat)) :
    Exactly (mppAlign x a) P ↔
      (n + 2 ^ k : Nat) ≤ hi ω ∧ ∃ w : ω, val w = roundUp n (2 ^ k) ∧ P w := by
  have hpos : 0 < 2 ^ k := Nat.two_pow_pos k
  have hlo := (bounds x).1
  have hcast : ((2 ^ k : Nat) : Int) = 2 ^ k := by push_cast; rfl
  simp only [mppAlign, exactly_bind, exactly_pure, exactly_add, exactly_sub, hx, ha, hone]
  constructor
  · rintro ⟨sum, hsum, t, ht, low', hlow', hP⟩
    obtain rfl := val_inj (hlow'.trans hlow.symm)
    have hhi := (bounds sum).2
    have ht' : val t = (n + (2 ^ k - 1) : Nat) := by omega
    exact ⟨by omega, _, hmask t _ ht', hP⟩
  · rintro ⟨hhi, w, hw, hP⟩
    obtain ⟨sum, hsum⟩ : ∃ w : ω, val w = n + 2 ^ k := exists_val (by omega) (by omega)
    obtain ⟨t, ht⟩ : ∃ w : ω, val w = val sum - 1 := exists_val (by omega) (by omega)
    have ht' : val t = (n + (2 ^ k - 1) : Nat) := by omega
    have he : t &&& ~~~low = w := val_inj ((hmask t _ ht').trans hw.symm)
    exact ⟨sum, hsum, t, ht, low, hlow, he ▸ hP⟩

end

/-- A stride is the extent rounded up to 16. -/
theorem stride_exactly {x : Int32} {n : Nat} (hx : x.toInt = n) {P : UInt32 → Prop} :
    Exactly (stride x) P ↔
      n + 16 < 2 ^ 31 ∧ ∃ w : UInt32, w.toNat = roundUp n 16 ∧ P w := by
  have halign := fun Q : Int32 → Prop => @mppAlign_exactly Int32 _ _ _ _ x 0x10 15 n 4 Q hx
    (by decide) (by decide) (by decide) fun t m ht => toInt_and_not ht 4
  have hround := roundUp_lt (n := n) (a := 16) (by decide)
  simp only [stride, exactly_bind, exactly_convert, halign]
  constructor
  · rintro ⟨hhi, y, hy, w, hw, hP⟩
    replace hhi : (n + 2 ^ 4 : Nat) ≤ (2 ^ 31 - 1 : Int) := hhi
    exact ⟨by omega, w, Int.ofNat_inj.1 (hw.trans hy), hP⟩
  · rintro ⟨hlt, w, hw, hP⟩
    obtain ⟨y, hy⟩ := exists_int32 (n := roundUp n 16) (by omega)
    refine ⟨show (_ : Int) ≤ 2 ^ 31 - 1 by omega, y, hy, w, ?_, hP⟩
    rw [val_uint32, val_int32, hw, hy]

/-- The strides are aligned once more. -/
theorem align64_exactly {x : UInt32} {P : UInt32 → Prop} :
    Exactly (mppAlign x 0x40) P ↔
      x.toNat + 64 < 2 ^ 32 ∧ ∃ w : UInt32, w.toNat = roundUp x.toNat 64 ∧ P w := by
  have halign := @mppAlign_exactly UInt32 _ _ _ _ x 0x40 63 x.toNat 6 P rfl (by decide) (by decide)
    (by decide) fun t m ht => ?_
  · rw [halign]
    refine and_congr ?_ (exists_congr fun w => and_congr_left' Int.ofNat_inj)
    show (_ : Int) ≤ 2 ^ 32 - 1 ↔ _
    omega
  · obtain rfl := Int.ofNat_inj.1 ht
    exact congrArg Int.ofNat (toNat_and_not t.toBitVec 6)

/-! ## The frame size -/

theorem times_fits_iff {area k : UInt32} :
    Exactly (do let size ← mul area k; convert size)
        (fun size : UInt64 => size.toNat < 2 ^ 27) ↔ area.toNat * k.toNat < 2 ^ 27 := by
  simp only [exactly_bind, exactly_mul_uint32, exactly_widen, UInt32.toNat_toUInt64]
  constructor
  · rintro ⟨size, hsize, hlt⟩
    omega
  · intro hlt
    obtain ⟨size, hsize⟩ := exists_uint32 (n := area.toNat * k.toNat) (by omega)
    exact ⟨size, hsize, by omega⟩

theorem threeHalves_fits_iff {area : UInt32} :
    Exactly (do let triple ← mul area 0x3; let size ← div triple 0x2; convert size)
        (fun size : UInt64 => size.toNat < 2 ^ 27) ↔ area.toNat * 3 / 2 < 2 ^ 27 := by
  simp only [exactly_bind, exactly_mul_uint32, exactly_div_uint32 (b := 0x2) (by decide),
    exactly_widen, UInt32.toNat_toUInt64]
  constructor
  · rintro ⟨triple, htriple, size, hsize, hlt⟩
    rw [htriple] at hsize
    exact hsize ▸ hlt
  · intro hlt
    obtain ⟨triple, htriple⟩ := exists_uint32 (n := area.toNat * 3) (by omega)
    obtain ⟨size, hsize⟩ := exists_uint32 (n := triple.toNat / 2) (by omega)
    exact ⟨triple, htriple, size, hsize, by omega⟩

/-- The aligned area is no more than the frame size. -/
theorem area_le_exactFrameSize (fmt : UInt32) (w h : Nat) :
    roundUp (roundUp w 16) 64 * roundUp (roundUp h 16) 64 ≤ exactFrameSize fmt w h := by
  unfold exactFrameSize
  dsimp only
  split_ifs <;> omega

/-- Neither is an aligned stride. -/
theorem aligned_le_exactFrameSize (fmt : UInt32) {w h : Nat} (hw : 0 < w) (hh : 0 < h) :
    roundUp (roundUp w 16) 64 ≤ exactFrameSize fmt w h ∧
      roundUp (roundUp h 16) 64 ≤ exactFrameSize fmt w h := by
  have harea := area_le_exactFrameSize fmt w h
  have hpos {n : Nat} (hn : 0 < n) : 0 < roundUp (roundUp n 16) 64 :=
    lt_of_lt_of_le hn (le_trans (le_roundUp (by decide)) (le_roundUp (by decide)))
  exact ⟨le_trans (Nat.le_mul_of_pos_right _ (hpos hh)) harea,
    le_trans (Nat.le_mul_of_pos_left _ (hpos hw)) harea⟩

/-- The frame size fits in 27 bits, exactly computed, if it does in exact arithmetic. -/
theorem frameBytes_fits_iff {fmt horStride verStride : UInt32} {w h : Nat} (hw : 0 < w)
    (hh : 0 < h) (hhor : horStride.toNat = roundUp w 16) (hver : verStride.toNat = roundUp h 16) :
    Exactly (frameBytes fmt horStride verStride) (fun size => size.toNat < 2 ^ 27) ↔
      exactFrameSize fmt w h < 2 ^ 27 := by
  simp only [frameBytes, exactly_bind, align64_exactly, exactly_mul_uint32, hhor, hver]
  constructor
  · rintro ⟨-, row, hrow, -, rows, hrows, area, harea, hsize⟩
    rw [hrow, hrows] at harea
    unfold exactFrameSize
    rw [← harea]
    split_ifs at hsize ⊢
    · exact threeHalves_fits_iff.1 hsize
    · exact times_fits_iff.1 hsize
    · exact times_fits_iff.1 hsize
  · intro hfits
    have harea' := area_le_exactFrameSize fmt w h
    obtain ⟨hA, hB⟩ := aligned_le_exactFrameSize fmt hw hh
    have hhorle : roundUp w 16 ≤ roundUp (roundUp w 16) 64 := le_roundUp (by decide)
    have hverle : roundUp h 16 ≤ roundUp (roundUp h 16) 64 := le_roundUp (by decide)
    obtain ⟨row, hrow⟩ := exists_uint32 (n := roundUp (roundUp w 16) 64) (by omega)
    obtain ⟨rows, hrows⟩ := exists_uint32 (n := roundUp (roundUp h 16) 64) (by omega)
    obtain ⟨area, harea⟩ := exists_uint32 (n := row.toNat * rows.toNat)
      (by rw [hrow, hrows]; omega)
    refine ⟨by omega, row, hrow, by omega, rows, hrows, area, harea, ?_⟩
    unfold exactFrameSize at hfits
    rw [← hrow, ← hrows, ← harea] at hfits
    split_ifs at hfits ⊢
    · exact threeHalves_fits_iff.2 hfits
    · exact times_fits_iff.2 hfits
    · exact times_fits_iff.2 hfits

/-! ## The bit rates -/

/-- The bit rates configured in `VBR` mode: the least, the target and the largest. -/
def rates (p : MpiEncTestData) : Checked (Int32 × Int32 × Int32) := do
  let bps ← p.withFrameRates.defaultBps
  let bpsMax ← bpsBound bps p.bpsMax 0x11
  let bpsMin ← bpsBound bps p.bpsMin (bpsMinNum p.rcMode)
  return (bpsMin, bps, bpsMax)

def Ordered (r : Int32 × Int32 × Int32) : Prop :=
  0 < r.1.toInt ∧ r.1.toInt ≤ r.2.1.toInt ∧ r.2.1.toInt ≤ r.2.2.toInt

/-- A context in which the caller has set no rates. -/
structure Fresh (p : MpiEncTestData) : Prop where
  fpsOutDen : p.fpsOutDen = 0
  fpsOutNum : p.fpsOutNum = 0
  bps : p.bps = 0
  bpsMax : p.bpsMax = 0
  bpsMin : p.bpsMin = 0
  rcMode : p.rcMode = rcModeVBR

section
variable {p : MpiEncTestData} {Q : Int32 → Prop}

/-- The target is 30 frames per second of an eighth of the picture. -/
theorem defaultBps_exactly (hp : Fresh p) :
    Exactly p.withFrameRates.defaultBps Q ↔
      p.width.toNat * p.height.toNat < 2 ^ 32 ∧
        p.width.toNat * p.height.toNat / 8 * 30 < 2 ^ 31 ∧
        ∃ bps : Int32, bps.toInt = (p.width.toNat * p.height.toNat / 8 * 30 : Nat) ∧ Q bps := by
  have hfps : ∀ R : UInt32 → Prop,
      Exactly (div (30 : Int32) 1) (fun fps => Exactly (convert fps) R) ↔ R 30 := by
    intro R
    have hvalue : (convert (div (30 : Int32) 1).value : Checked UInt32).value = 30 := by decide
    exact ⟨fun h => hvalue ▸ h.2.2, fun h => ⟨by decide, by decide, hvalue.symm ▸ h⟩⟩
  simp only [MpiEncTestData.withFrameRates, MpiEncTestData.defaultBps, hp.fpsOutDen,
    hp.fpsOutNum, hp.bps, ↓reduceIte, exactly_bind, exactly_mul_uint32,
    exactly_div_uint32 (b := 0x8) (by decide), hfps]
  have hdiv8 : (8 : UInt32).toNat = 8 := rfl
  have hthirty : (30 : UInt32).toNat = 30 := rfl
  rw [hdiv8]
  constructor
  · rintro ⟨area, harea, eighth, heighth, rate, hrate, hconv⟩
    obtain ⟨bps, hbps, hQ⟩ := exactly_convert.1 hconv
    replace hbps : bps.toInt = rate.toNat := hbps
    have harealt := area.toNat_lt
    have hbpslt := bps.toInt_lt
    rw [harea] at heighth
    rw [heighth, hthirty] at hrate
    rw [hrate] at hbps
    exact ⟨by omega, by omega, bps, hbps, hQ⟩
  · rintro ⟨hlt, hlt', bps, hbps, hQ⟩
    obtain ⟨area, harea⟩ := exists_uint32 hlt
    obtain ⟨eighth, heighth⟩ := exists_uint32 (n := area.toNat / 8) (by omega)
    obtain ⟨rate, hrate⟩ := exists_uint32 (n := eighth.toNat * 30)
      (by rw [heighth, harea]; omega)
    refine ⟨area, harea, eighth, heighth, rate, hrate, exactly_convert.2 ⟨bps, ?_, hQ⟩⟩
    rw [val_int32, val_uint32, hbps, hrate, heighth, harea]

/-- A bound is so many sixteenths of the target. -/
theorem bpsBound_exactly {bps num : Int32} {n k : Nat} (hbps : bps.toInt = n)
    (hnum : num.toInt = k) :
    Exactly (bpsBound bps 0 num) Q ↔
      n * k < 2 ^ 31 ∧ ∃ w : Int32, w.toInt = (n * k / 16 : Nat) ∧ Q w := by
  have hcast : (n : Int) * k = (n * k : Nat) := by push_cast; rfl
  have hsixteen : (16 : Int32).toInt = (16 : Nat) := by decide
  simp only [bpsBound, ne_eq, not_true_eq_false, ↓reduceIte, exactly_bind,
    exactly_mul, exactly_div, val_int32, hbps, hnum, hcast, hsixteen]
  constructor
  · rintro ⟨scaled, hscaled, -, w, hw, hQ⟩
    have hlt := scaled.toInt_lt
    rw [hscaled, ← Int.ofNat_tdiv] at hw
    exact ⟨by omega, w, hw, hQ⟩
  · rintro ⟨hlt, w, hw, hQ⟩
    obtain ⟨scaled, hscaled⟩ := exists_int32 hlt
    refine ⟨scaled, hscaled, by decide, w, ?_, hQ⟩
    rw [hw, hscaled, ← Int.ofNat_tdiv]

/-- The rates are exact and in order for a picture of 8 pixels or more whose upper rate fits. -/
theorem rates_ordered_iff (hp : Fresh p) :
    Exactly (rates p) Ordered ↔
      8 ≤ p.width.toNat * p.height.toNat ∧
        p.width.toNat * p.height.toNat / 8 * 30 * 17 < 2 ^ 31 := by
  have hmin : bpsMinNum rcModeVBR = 1 := by decide
  simp only [rates, hp.bpsMax, hp.bpsMin, hp.rcMode, hmin, exactly_bind, defaultBps_exactly hp,
    exactly_pure]
  generalize p.width.toNat * p.height.toNat = n
  constructor
  · rintro ⟨hlt, hlt', bps, hbps, hrest⟩
    rw [bpsBound_exactly hbps (k := 17) (by decide)] at hrest
    obtain ⟨hmaxlt, bpsMax, hmax, hrest⟩ := hrest
    rw [bpsBound_exactly hbps (k := 1) (by decide)] at hrest
    obtain ⟨-, bpsMin, hmin, hpos, -, -⟩ := hrest
    dsimp only at hpos
    omega
  · rintro ⟨hpix, hfits⟩
    obtain ⟨bps, hbps⟩ := exists_int32 (n := n / 8 * 30) (by omega)
    obtain ⟨bpsMax, hmax⟩ := exists_int32 (n := n / 8 * 30 * 17 / 16) (by omega)
    obtain ⟨bpsMin, hmin⟩ := exists_int32 (n := n / 8 * 30 * 1 / 16) (by omega)
    refine ⟨by omega, by omega, bps, hbps, ?_⟩
    rw [bpsBound_exactly hbps (k := 17) (by decide)]
    refine ⟨hfits, bpsMax, hmax, ?_⟩
    rw [bpsBound_exactly hbps (k := 1) (by decide)]
    refine ⟨by omega, bpsMin, hmin, ?_⟩
    simp only [Ordered, hbps, hmax, hmin]
    omega

end

/-! ## The context -/

/-- A fresh context is exact, has ordered rates and a frame size of 27 bits. -/
theorem fillCtx_fits_iff (cmd : MpiEncTestArgs) :
    Exactly (fillCtx cmd) (fun p => Exactly (rates p) Ordered ∧ p.frameSize.toNat < 2 ^ 27) ↔
      cmd.Fits := by
  have hrates (width height horStride verStride : UInt32) (frameSize : UInt64) :=
    rates_ordered_iff
      (p := { width, height, horStride, verStride, fmt := cmd.format, type := cmd.type, frameSize })
      ⟨rfl, rfl, rfl, rfl, rfl, rfl⟩
  simp only [fillCtx, exactly_bind, exactly_pure, exactly_convert, hrates]
  constructor
  · rintro ⟨w, hw, h, hh, hrest⟩
    replace hw : cmd.width.toInt = w.toNat := hw.symm
    replace hh : cmd.height.toInt = h.toNat := hh.symm
    obtain ⟨-, hor, hhor, hrest⟩ := (stride_exactly hw).1 hrest
    obtain ⟨-, ver, hver, hexact, ⟨hpix, hrate⟩, hsize⟩ := (stride_exactly hh).1 hrest
    have hwpos : 0 < w.toNat := Nat.pos_of_ne_zero fun hzero => by simp [hzero] at hpix
    have hhpos : 0 < h.toNat := Nat.pos_of_ne_zero fun hzero => by simp [hzero] at hpix
    have hframe := (frameBytes_fits_iff hwpos hhpos hhor hver).1 ⟨hexact, hsize⟩
    unfold MpiEncTestArgs.Fits
    rw [hw, hh, Int.toNat_natCast, Int.toNat_natCast]
    refine ⟨by omega, by omega, ?_, ?_, hframe⟩
    · exact_mod_cast hpix
    · exact_mod_cast hrate
  · rintro ⟨hw, hh, hpix, hrate, hsize⟩
    obtain ⟨m, hm⟩ := Int.eq_ofNat_of_zero_le hw.le
    obtain ⟨n, hn⟩ := Int.eq_ofNat_of_zero_le hh.le
    have hmlt := cmd.width.toInt_lt
    have hnlt := cmd.height.toInt_lt
    rw [hm, hn] at hpix hrate hsize
    rw [Int.toNat_natCast, Int.toNat_natCast] at hsize
    obtain ⟨w, hweq⟩ := exists_uint32 (n := m) (by omega)
    obtain ⟨h, hheq⟩ := exists_uint32 (n := n) (by omega)
    subst hweq
    subst hheq
    obtain ⟨hA, hB⟩ := aligned_le_exactFrameSize cmd.format (w := w.toNat) (h := h.toNat)
      (by omega) (by omega)
    have hwle : w.toNat ≤ roundUp w.toNat 16 := le_roundUp (by decide)
    have hhle : h.toNat ≤ roundUp h.toNat 16 := le_roundUp (by decide)
    have hhorle : roundUp w.toNat 16 ≤ roundUp (roundUp w.toNat 16) 64 := le_roundUp (by decide)
    have hverle : roundUp h.toNat 16 ≤ roundUp (roundUp h.toNat 16) 64 := le_roundUp (by decide)
    obtain ⟨hor, hhor⟩ := exists_uint32 (n := roundUp w.toNat 16) (by omega)
    obtain ⟨ver, hver⟩ := exists_uint32 (n := roundUp h.toNat 16) (by omega)
    have hframe := (frameBytes_fits_iff (by omega) (by omega) hhor hver).2 hsize
    refine ⟨w, hm.symm, h, hn.symm, (stride_exactly hm).2 ⟨by omega, hor, hhor,
      (stride_exactly hn).2 ⟨by omega, ver, hver, hframe.1, ⟨?_, ?_⟩, hframe.2⟩⟩⟩
    · exact_mod_cast hpix
    · exact_mod_cast hrate

/-! ## The settings -/

/-- A setting that is not among those written keeps its value. -/
theorem MppEncCfg.setAll_of_notMem {name : String} {settings : List (String × Int)}
    (h : name ∉ settings.map Prod.fst) (cfg : MppEncCfg) :
    cfg.setAll settings name = cfg name := by
  unfold setAll
  induction settings generalizing cfg with
  | nil => rfl
  | cons x xs ih =>
      rw [List.map_cons, List.mem_cons, not_or] at h
      rw [List.foldl_cons, ih h.2]
      exact if_neg h.1

theorem MppEncCfg.setAll_singleton (cfg : MppEncCfg) (name key : String) (v : Int) :
    cfg.setAll [(name, v)] key = if key = name then some v else cfg key := rfl

theorem rcSettings_target (cfg : MppEncCfg) (p : MpiEncTestData) :
    cfg.setAll p.rcSettings "rc:bps_target" = some p.bps.toInt := by
  simp [MppEncCfg.setAll, MpiEncTestData.rcSettings, MppEncCfg.set]

def rateNames : List String := ["rc:bps_min", "rc:bps_target", "rc:bps_max"]

section
variable {p : MpiEncTestData} {name : String}

theorem qpSettings_names (h : name ∈ rateNames) : name ∉ p.qpSettings.map Prod.fst := by
  unfold MpiEncTestData.qpSettings
  simp only [rateNames, List.mem_cons, List.not_mem_nil, or_false] at h
  rcases h with rfl | rfl | rfl <;> split_ifs <;> decide

theorem codecSettings_names (h : name ∈ rateNames) : name ∉ p.codecSettings.map Prod.fst := by
  unfold MpiEncTestData.codecSettings
  simp only [rateNames, List.mem_cons, List.not_mem_nil, or_false] at h
  rcases h with rfl | rfl | rfl <;> split_ifs <;> simp

theorem splitSettings_names (h : name ∈ rateNames) : name ∉ p.splitSettings.map Prod.fst := by
  unfold MpiEncTestData.splitSettings
  simp only [rateNames, List.mem_cons, List.not_mem_nil, or_false] at h
  rcases h with rfl | rfl | rfl <;> split_ifs <;> simp

/-- What is configured after the rates leaves them alone. -/
theorem setAll_tail (h : name ∈ rateNames) (q r : MpiEncTestData) (cfg : MppEncCfg) :
    ((cfg.setAll q.qpSettings).setAll q.codecSettings).setAll r.splitSettings name = cfg name := by
  rw [MppEncCfg.setAll_of_notMem (splitSettings_names h),
    MppEncCfg.setAll_of_notMem (codecSettings_names h),
    MppEncCfg.setAll_of_notMem (qpSettings_names h)]

end

section
variable {env : MppEnv} {p : MpiEncTestData} {a : CreateAnswers} {s : Call}

/-- The rates of `p` are configured. -/
structure Configured (p : MpiEncTestData) (cfg : MppEncCfg) : Prop where
  bpsMin : cfg "rc:bps_min" = some (rates p).value.1.toInt
  bpsTarget : cfg "rc:bps_target" = some (rates p).value.2.1.toInt
  bpsMax : cfg "rc:bps_max" = some (rates p).value.2.2.toInt

theorem Configured.ordered_iff {cfg : MppEncCfg} (h : Configured p cfg) :
    RatesOrdered cfg ↔ Ordered (rates p).value := by
  unfold RatesOrdered
  simp only [h.bpsMin, h.bpsTarget, h.bpsMax, Option.some.injEq]
  constructor
  · rintro ⟨_, _, _, rfl, rfl, rfl, hordered⟩
    exact hordered
  · exact fun hordered => ⟨_, _, _, rfl, rfl, rfl, hordered⟩

/-- The rates are computed and configured, and left alone afterwards. -/
theorem writeSettings_rates (hp : Fresh p) :
    Post (writeSettings env p) s
      (fun q s' => s'.exact = (s.exact && (rates p).exact) ∧ Configured p s'.cfg ∧
        q.frameSize = p.frameSize) (fun _ _ => False) := by
  have hmode : p.withFrameRates.rcMode ≠ rcModeFIXQP := by
    show p.rcMode ≠ rcModeFIXQP
    rw [hp.rcMode]
    decide
  unfold writeSettings setRates compute mppEncCfgSet
  simp only [post_bind, post_modifyGet, post_modify, post_pure, if_pos hmode]
  have hexact : (rates p).exact = (p.withFrameRates.defaultBps.exact &&
      ((bpsBound p.withFrameRates.defaultBps.value p.bpsMax 0x11).exact &&
        (bpsBound p.withFrameRates.defaultBps.value p.bpsMin (bpsMinNum p.rcMode)).exact)) := by
    simp [rates, bind, pure]
  refine ⟨?_, ⟨?_, ?_, ?_⟩, rfl⟩
  · rw [hexact, Bool.and_assoc, Bool.and_assoc]
    rfl
  · rw [setAll_tail (by decide), MppEncCfg.setAll_singleton, if_pos rfl]
    rfl
  · rw [setAll_tail (by decide), MppEncCfg.setAll_singleton, if_neg (by decide),
      MppEncCfg.setAll_singleton, if_neg (by decide), rcSettings_target]
    rfl
  · rw [setAll_tail (by decide), MppEncCfg.setAll_singleton, if_neg (by decide),
      MppEncCfg.setAll_singleton, if_pos rfl]
    rfl

theorem setupRefCfg_accepts (ha : a.Accepts) (gopMode : Int32) :
    Post (setupRefCfg env gopMode a) s
      (fun ret s' => ret = 0 ∧ s'.exact = s.exact ∧ s'.cfg = s.cfg) (fun _ _ => False) := by
  unfold setupRefCfg setupRefCfg.initRefCfg acquire release
  rw [post_ite]
  split
  · simp
  · by_cases hinit : a.refCfgInit = 0 <;> simp [hinit, ha.control]

theorem submitSettings_accepts (ha : a.Accepts) :
    Post (submitSettings env p a) s
      (fun r s' => r.1 = 0 ∧ s'.exact = s.exact ∧ s'.cfg = s.cfg ∧ r.2.frameSize = p.frameSize)
      (fun _ _ => False) := by
  unfold submitSettings
  simp only [ha.control, ne_eq, not_true_eq_false, and_false, ↓reduceIte, post_bind, post_pure]
  refine (setupRefCfg_accepts ha _).mono ?_ (fun _ _ h => h)
  rintro ret s' ⟨hret, hexact, hcfg⟩
  exact ⟨hret, hexact, hcfg, trivial⟩

/-- A context is returned, and its arithmetic is that of its fields and of its rates. -/
theorem halMppCtxCreate_accepts (ha : a.Accepts) (cmd : MpiEncTestArgs) :
    Post (halMppCtxCreate env (some cmd) a) {}
      (fun r s' => ∃ q, r = some q ∧ q.frameSize = (fillCtx cmd).value.frameSize ∧
        s'.exact = ((fillCtx cmd).exact && (rates (fillCtx cmd).value).exact) ∧
        Configured (fillCtx cmd).value s'.cfg) (fun _ _ => False) := by
  unfold halMppCtxCreate testCtxInit testMppEncCfgSetup acquire compute deref
  simp only [ha.calloc, ha.bufferGroupGetInternal, ha.bufferGet, ha.mppCreate, ha.control,
    ha.mppInit, ha.encCfgInit, ne_eq, not_true_eq_false, Bool.true_eq_false, ↓reduceIte,
    post_bind, post_modify, post_modifyGet, post_pure]
  refine (writeSettings_rates ⟨rfl, rfl, rfl, rfl, rfl, rfl⟩).mono ?_ (fun _ _ h => h)
  rintro q s₁ ⟨hexact₁, hcfg₁, hsize₁⟩
  refine (submitSettings_accepts ha).mono ?_ (fun _ _ h => h)
  rintro ⟨ret, q'⟩ s₂ ⟨hret, hexact₂, hcfg₂, hsize₂⟩
  dsimp only at hret hsize₂ ⊢
  rw [if_neg (not_not_intro hret), post_pure]
  refine ⟨q', rfl, hsize₂.trans hsize₁, ?_, ?_⟩
  · rw [hexact₂, hexact₁, Bool.true_and]
    rfl
  · rw [hcfg₂]
    exact ⟨hcfg₁.bpsMin, hcfg₁.bpsTarget, hcfg₁.bpsMax⟩

end

/-! ## Imports -/

/-- `m` imports nothing, whichever way it ends. -/
def KeepsImports {α : Type} (m : Enc α) : Prop :=
  ∀ s, Post m s (fun _ s' => s'.imports = s.imports) (fun _ s' => s'.imports = s.imports)

namespace KeepsImports

variable {α β : Type}

theorem pure (a : α) : KeepsImports (pure a : Enc α) := fun _ => rfl

theorem bind {m : Enc α} {f : α → Enc β} (hm : KeepsImports m) (hf : ∀ a, KeepsImports (f a)) :
    KeepsImports (m >>= f) := by
  intro s
  rw [post_bind]
  refine (hm s).mono (fun a s' hs => ?_) (fun _ _ h => h)
  rw [← hs]
  exact hf a s'

theorem ite {c : Prop} [Decidable c] {m n : Enc α} (hm : KeepsImports m) (hn : KeepsImports n) :
    KeepsImports (if c then m else n) := by
  split
  · exact hm
  · exact hn

theorem acquire (h : Handle) : KeepsImports (acquire h) := fun _ => rfl

theorem release (h : Option Handle) : KeepsImports (release h) := by
  cases h <;> exact fun _ => rfl

theorem receive (id : Nat) : KeepsImports (receive id) := by
  intro s
  show (if _ then s else _ : Call).imports = s.imports
  split <;> rfl

theorem packetInitWithBuffer (packet : Option Nat) :
    KeepsImports (packetInitWithBuffer packet) := by
  cases packet <;> exact fun _ => rfl

theorem fetch (xs : List PacketAnswer) (eoi : UInt32) (f : Fetched) :
    KeepsImports (fetch xs eoi f) := by
  induction xs generalizing eoi f with
  | nil => exact fun _ => rfl
  | cons x xs ih =>
      unfold Mpp.fetch
      exact ite (pure _) (bind (receive _) fun _ => ite (pure _) (ite (pure _) (ih _ _)))

theorem deliver (f : Fetched) (bufSize : UInt64) (a : EncodeAnswers) :
    KeepsImports (deliver f bufSize a) := by
  have hgive (c : Copied) : KeepsImports (do
      Mpp.release (some .camBuf)
      Mpp.release f.packet
      return c) := bind (release _) fun _ => bind (release _) fun _ => pure _
  unfold Mpp.deliver
  exact ite (hgive _) (ite (hgive _) (ite (hgive _) (ite (pure _) (hgive _))))

end KeepsImports

theorem importInfo_size_iff (p : MpiEncTestData) (dmaFd : Int) :
    (p.importInfo dmaFd).size = p.frameSize ↔ p.frameSize.toNat < 2 ^ 27 := by
  have hmask : (0x07ffffff : UInt64).toNat = 2 ^ 27 - 1 := rfl
  show p.frameSize &&& 0x07ffffff = p.frameSize ↔ _
  rw [← UInt64.toNat_inj, UInt64.toNat_and, hmask, Nat.and_two_pow_sub_one_eq_mod]
  exact Nat.mod_eq_iff_lt (by decide)

/-- Whatever the outcome, only the caller's buffer is imported. -/
theorem halMppEncode_imports (p : MpiEncTestData) (dmaFd : Int) (bufSize : UInt64)
    (a : EncodeAnswers) :
    Post (halMppEncode (some p) dmaFd bufSize a) {}
      (fun _ s => ∀ info ∈ s.imports, info = p.importInfo dmaFd)
      (fun _ s => ∀ info ∈ s.imports, info = p.importInfo dmaFd) := by
  unfold halMppEncode
  dsimp only
  rw [post_ite]
  split
  · simp
  rw [post_bind, post_modify]
  have hkeeps : ∀ {β : Type} {m : Enc β}, KeepsImports m →
      Post m { imports := [p.importInfo dmaFd] }
        (fun _ s => ∀ info ∈ s.imports, info = p.importInfo dmaFd)
        (fun _ s => ∀ info ∈ s.imports, info = p.importInfo dmaFd) := by
    intro β m hm
    refine (hm _).mono ?_ ?_ <;>
    · intro _ s hs
      simp [hs]
  refine hkeeps (.ite (.pure _) (.bind (.acquire _) fun _ => .ite (.pure _) ?_))
  refine .bind (.acquire _) fun _ => .bind (.packetInitWithBuffer _) fun packet => .ite ?_ ?_
  · exact .bind (.release _) fun _ => .bind (.release _) fun _ => .bind (.release _) fun _ =>
      .pure _
  · exact .bind (.release _) fun _ => .bind (.fetch _ _ _) fun _ => .bind (.deliver _ _ _) fun _ =>
      .pure _

/-- A frame is imported with its size when the size fits in 27 bits. -/
theorem importsFrames_iff (p : MpiEncTestData) :
    ImportsFrames p ↔ p.frameSize.toNat < 2 ^ 27 := by
  constructor
  · intro h
    -- a frame whose import is refused, but whose size has been cut by then
    have hrefused := h 0 0 { memsetS := 0, bufferImport := fun _ => mppNok, frameInit := 0,
                             packetInit := none, encodePutFrame := fun _ => 0,
                             encodeGetPacket := [], output := [], memcpyS := 0 }
    rw [← importInfo_size_iff p 0]
    exact (hrefused (p.importInfo 0) List.mem_cons_self).2
  · intro hlt dmaFd bufSize a
    refine (halMppEncode_imports p dmaFd bufSize a).mono ?_ ?_ <;>
    · intro _ s h info hinfo
      rw [h info hinfo]
      exact ⟨rfl, (importInfo_size_iff p dmaFd).2 hlt⟩

/-! ## The result -/

/-- The run comes down to the fields of a fresh context and its rates. -/
theorem sound_iff_exactly (env : MppEnv) (cmd : MpiEncTestArgs) {a : CreateAnswers}
    (ha : a.Accepts) :
    Sound env cmd a ↔
      Exactly (fillCtx cmd) fun p => Exactly (rates p) Ordered ∧ p.frameSize.toNat < 2 ^ 27 := by
  obtain ⟨_, s, hrun, q, rfl, hsize, hexact, hcfg⟩ :=
    (@halMppCtxCreate_accepts env a ha cmd).exists_ok
  unfold Sound
  rw [post_iff_of_ok hrun]
  have hlaw : (s.exact = true ∧ RatesOrdered s.cfg ∧ ImportsFrames q) ↔
      Exactly (fillCtx cmd) fun p => Exactly (rates p) Ordered ∧ p.frameSize.toNat < 2 ^ 27 := by
    rw [hexact, hcfg.ordered_iff, importsFrames_iff, hsize, Bool.and_eq_true]
    simp only [Exactly, and_assoc]
  rw [← hlaw]
  constructor
  · exact fun h => h q rfl
  · rintro h _ ⟨⟩
    exact h

/-- **Arithmetic of the encoder.** Where libmpp accepts what it is given, the context that
is created is sound for the pictures that fit, and for no others. -/
theorem arithmetic_iff (env : MppEnv) (cmd : MpiEncTestArgs) (a : CreateAnswers)
    (ha : a.Accepts) : Sound env cmd a ↔ cmd.Fits :=
  (sound_iff_exactly env cmd ha).trans (fillCtx_fits_iff cmd)

/-- The answers of a libmpp that accepts everything. -/
def accepting : CreateAnswers where
  calloc := true
  bufferGroupGetInternal := 0
  bufferGet _ := 0
  mppCreate := 0
  mppInit _ := 0
  encCfgInit := 0
  refCfgInit := 0
  control _ := 0

theorem accepting_accepts : accepting.Accepts :=
  ⟨rfl, rfl, fun _ => rfl, rfl, fun _ => rfl, rfl, fun _ => rfl⟩

/-- Pictures of 1280 by 720 fit. -/
theorem sound_720p : Sound (fun _ => none) ⟨codingAVC, 0, 1280, 720⟩ accepting :=
  (arithmetic_iff _ _ _ accepting_accepts).2 (by decide)

/-- The upper bit rate of pictures of 8192 by 4320 overflows. -/
theorem not_sound_8k : ¬ Sound (fun _ => none) ⟨codingAVC, 0, 8192, 4320⟩ accepting := by
  rw [sound_iff_exactly _ _ accepting_accepts, fillCtx_fits_iff]
  decide

end QemuHal.Mpp
