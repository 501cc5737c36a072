import QemuHal.Lib.Rounding
import QemuHal.Gralloc.Leaks

/-!
# Sizes of an allocation

The rows of the chroma planes are added to the height in 32 bits, and the size the
kernel reports is cut to 32 bits and read as a signed word in the handle.
`bufferSize_iff` says which requests this can hurt.
-/

namespace QemuHal

open Exec Rounding

/-! ## Exact sizes -/

namespace PlaneLayoutInfo

def first (p : PlaneLayoutInfo) : Nat := (p.radio.headD 0).toNat

def sum (p : PlaneLayoutInfo) : Nat := ((p.radio.take p.numPlanes).map UInt32.toNat).sum

end PlaneLayoutInfo

/-- The rows of all planes together, in exact arithmetic. -/
def FormatInfo.fullHeight (info : FormatInfo) (height : Nat) : Nat :=
  match info.planes with
  | none => height
  | some p => (height * p.sum) ⌈/⌉ p.first

/-- The handle holds the requested picture. -/
def Suffices (info : AllocInfo) (handle : PriBufferHandle) : Prop :=
  ∀ drmFmt fmtInfo, convertFormatToDrm info.format = some drmFmt →
    getFormatInfo drmFmt = some fmtInfo →
    ((info.width.toNat * fmtInfo.bitsPerPixel.toNat : Nat) : Int) ≤ 8 * handle.stride.toInt ∧
      handle.stride.toInt * fmtInfo.fullHeight info.height.toNat ≤ handle.size.toInt

/-- The allocation fails or returns a handle that holds the requested picture. -/
def Sufficient (g : GrallocWorld) (info : AllocInfo) (a : AllocAnswers) : Prop :=
  Post (gbmAllocMem info a) g
    (fun r _ => ∀ handle, r = (.success, some handle) → Suffices info handle) (fun _ _ => True)

/-! ## The kernel -/

/-- `CREATE_DUMB` rejects a zero dimension, and what it grants holds the rows asked for. -/
def Honest (kernel : CreateDumb → Option DumbBuffer) : Prop :=
  ∀ req dumb, kernel req = some dumb →
    req.width ≠ 0 ∧ req.height ≠ 0 ∧
      req.width.toNat * req.bpp.toNat ≤ 8 * dumb.pitch.toNat ∧
      dumb.pitch.toNat * req.height.toNat ≤ dumb.size.toNat

/-- The sizes reported fit in a signed word. -/
def Narrow (kernel : CreateDumb → Option DumbBuffer) : Prop :=
  ∀ req dumb, kernel req = some dumb → dumb.size.toNat < 2 ^ 31

/-- The least row of a request, in bytes; the padded width is a multiple of 8. -/
def CreateDumb.row (req : CreateDumb) : Nat := req.width.toNat * req.bpp.toNat / 8

/-- An honest kernel can grant the request. -/
def CreateDumb.Grantable (req : CreateDumb) : Prop :=
  req.width ≠ 0 ∧ req.height ≠ 0 ∧ req.row < 2 ^ 32

/-- An honest kernel can grant the request with a size that fits in a signed word. -/
def CreateDumb.GrantableNarrow (req : CreateDumb) : Prop :=
  req.width ≠ 0 ∧ req.height ≠ 0 ∧ req.row * req.height.toNat < 2 ^ 31

/-- Some honest kernel grants what is asked for this request. -/
def AllocInfo.CanSucceed (info : AllocInfo) : Prop :=
  ∃ drmFmt req, convertFormatToDrm info.format = some drmFmt ∧
    info.createDumb drmFmt = some req ∧ req.Grantable

/-- The product of the height with the parts of a chroma format wraps around, and what
is left of it is still a request that can be granted. -/
def AllocInfo.WrapsUnnoticed (info : AllocInfo) : Prop :=
  ∃ drmFmt fmtInfo p req, convertFormatToDrm info.format = some drmFmt ∧
    getFormatInfo drmFmt = some fmtInfo ∧ fmtInfo.planes = some p ∧
    2 ^ 32 ≤ info.height.toNat * p.sum ∧
    info.createDumb drmFmt = some req ∧ req.GrantableNarrow

/-! ## The format table -/

def planeLayouts : List PlaneLayoutInfo :=
  [yuv420SPLayout, yuv420PLayout, yuv422SPLayout, yuv422PLayout]

theorem getFormatInfo_cases {drmFmt : DrmFormat} {info : FormatInfo}
    (h : getFormatInfo drmFmt = some info) :
    (info.planes = none ∧ info.bitsPerPixel ∈ [16, 24, 32]) ∨
      (∃ p ∈ planeLayouts, info.planes = some p ∧ info.bitsPerPixel = 8) := by
  cases drmFmt <;> cases h <;> decide

theorem planeLayouts_parts : ∀ p ∈ planeLayouts, p.first = 4 ∧ (p.sum = 6 ∨ p.sum = 8) := by
  decide

section
variable {drmFmt : DrmFormat} {fmtInfo : FormatInfo} {p : PlaneLayoutInfo} {height : UInt32}

theorem adjustStrideFromFormat_none (h : getFormatInfo drmFmt = some fmtInfo)
    (hp : fmtInfo.planes = none) : adjustStrideFromFormat drmFmt height = height := by
  unfold adjustStrideFromFormat
  rw [h, Option.bind_some, hp]

theorem adjustStrideFromFormat_some (h : getFormatInfo drmFmt = some fmtInfo)
    (hp : fmtInfo.planes = some p) (hmem : p ∈ planeLayouts) :
    adjustStrideFromFormat drmFmt height =
      divRoundUp (height * UInt32.ofNat p.sum) (UInt32.ofNat p.first) := by
  unfold adjustStrideFromFormat
  rw [h, Option.bind_some, hp]
  have hcases : p = yuv420SPLayout ∨ p = yuv420PLayout ∨ p = yuv422SPLayout ∨
      p = yuv422PLayout := by
    simpa [planeLayouts] using hmem
  rcases hcases with rfl | rfl | rfl | rfl <;> rfl

/-- The product of the height with the parts of the format, as the code computes it. -/
theorem toNat_mul_sum (hmem : p ∈ planeLayouts) :
    (height * UInt32.ofNat p.sum).toNat = height.toNat * p.sum % 2 ^ 32 := by
  obtain ⟨-, hsum⟩ := planeLayouts_parts p hmem
  rw [UInt32.toNat_mul, UInt32.toNat_ofNat']
  rcases hsum with h | h <;> rw [h]

/-- The padded width of a request that can be granted holds the width asked for. -/
theorem width_le_createDumb {width : UInt32}
    (h : (createDumb width height drmFmt fmtInfo).width ≠ 0) :
    width.toNat ≤ (createDumb width height drmFmt fmtInfo).width.toNat ∧
      8 ∣ (createDumb width height drmFmt fmtInfo).width.toNat := by
  have hexact : (createDumb width height drmFmt fmtInfo).width.toNat = roundUp width.toNat 8 :=
    alignUp_of_ne_zero (by decide) h
  rw [hexact]
  exact ⟨le_roundUp (by decide), dvd_roundUp _ _⟩

/-- The padded height of a request that can be granted holds the rows the code computed. -/
theorem rows_le_createDumb {width : UInt32}
    (h : (createDumb width height drmFmt fmtInfo).height ≠ 0) :
    adjustStrideFromFormat drmFmt height ≠ 0 ∧
      (createDumb width height drmFmt fmtInfo).height.toNat =
        roundUp (adjustStrideFromFormat drmFmt height).toNat 2 := by
  refine ⟨fun hzero => h ?_, alignUp_of_ne_zero (by decide) h⟩
  show alignUp (adjustStrideFromFormat drmFmt height) heightAlign = 0
  rw [hzero]
  rfl

/-- The rows of a chroma format, unless they come out as `0`. -/
theorem chroma_rows (h : getFormatInfo drmFmt = some fmtInfo) (hp : fmtInfo.planes = some p)
    (hmem : p ∈ planeLayouts) (hne : adjustStrideFromFormat drmFmt height ≠ 0) :
    (adjustStrideFromFormat drmFmt height).toNat =
      (height.toNat * p.sum % 2 ^ 32) ⌈/⌉ p.first := by
  rw [adjustStrideFromFormat_some h hp hmem] at hne ⊢
  have hfirst := (planeLayouts_parts p hmem).1
  have hexact := divRoundUp_of_ne_zero (d := UInt32.ofNat p.first)
    (by rw [hfirst]; decide) hne
  unfold divRoundUp
  rw [hexact, toNat_mul_sum hmem, hfirst]
  rfl

/-- Without a wrap the padded height holds all rows. -/
theorem fullHeight_le {width : UInt32} (h : getFormatInfo drmFmt = some fmtInfo)
    (hne : (createDumb width height drmFmt fmtInfo).height ≠ 0)
    (hwrap : ∀ p, fmtInfo.planes = some p → height.toNat * p.sum < 2 ^ 32) :
    fmtInfo.fullHeight height.toNat ≤ (createDumb width height drmFmt fmtInfo).height.toNat := by
  obtain ⟨hrows, hexact⟩ := rows_le_createDumb hne
  rw [hexact]
  unfold FormatInfo.fullHeight
  rcases getFormatInfo_cases h with ⟨hp, -⟩ | ⟨p, hmem, hp, -⟩
  · rw [hp, adjustStrideFromFormat_none h hp]
    exact le_roundUp (by decide)
  · rw [hp, chroma_rows h hp hmem hrows, Nat.mod_eq_of_lt (hwrap p hp)]
    exact le_roundUp (by decide)

/-- With a wrap it does not. -/
theorem lt_fullHeight {width : UInt32} (h : getFormatInfo drmFmt = some fmtInfo)
    (hne : (createDumb width height drmFmt fmtInfo).height ≠ 0)
    (hp : fmtInfo.planes = some p) (hwrap : 2 ^ 32 ≤ height.toNat * p.sum) :
    (createDumb width height drmFmt fmtInfo).height.toNat < fmtInfo.fullHeight height.toNat := by
  obtain ⟨hrows, hexact⟩ := rows_le_createDumb hne
  have hmem : p ∈ planeLayouts := by
    rcases getFormatInfo_cases h with ⟨hnone, -⟩ | ⟨q, hmem, hq, -⟩
    · rw [hnone] at hp
      exact absurd hp (by simp)
    · rw [hq] at hp
      exact Option.some.inj hp ▸ hmem
  have hfirst := (planeLayouts_parts p hmem).1
  have hlt : (height.toNat * p.sum % 2 ^ 32) ⌈/⌉ 4 + 2 < (height.toNat * p.sum) ⌈/⌉ 4 := by
    rw [Nat.ceilDiv_eq_add_pred_div, Nat.ceilDiv_eq_add_pred_div]
    omega
  rw [hexact, chroma_rows h hp hmem hrows, FormatInfo.fullHeight, hp]
  dsimp only
  rw [hfirst]
  exact lt_trans (roundUp_lt (by decide)) hlt

end

/-! ## What is returned -/

/-- A returned handle has the pitch and the size of the dumb buffer, the size cut to 32
bits, both read as signed words. -/
def HandleOf (info : AllocInfo) (a : AllocAnswers) (handle : PriBufferHandle) : Prop :=
  ∃ drmFmt req dumb, convertFormatToDrm info.format = some drmFmt ∧
    info.createDumb drmFmt = some req ∧ a.createDumb req = some dumb ∧
    handle.stride = dumb.pitch.toInt32 ∧ handle.size = dumb.size.toUInt32.toInt32

theorem gbmBoCreate_handle {g : GrallocWorld} {gbm : Option GbmDevice} {info : AllocInfo}
    {drmFmt : DrmFormat} {a : AllocAnswers} :
    Post (gbmBoCreate gbm info.width info.height drmFmt a.calloc a.createDumb) g
      (fun r _ => ∀ bo, r = some bo → ∃ req dumb, info.createDumb drmFmt = some req ∧
        a.createDumb req = some dumb ∧ bo.stride = dumb.pitch ∧ bo.size = dumb.size.toUInt32)
      (fun _ _ => True) := by
  unfold gbmBoCreate
  cases hinfo : getFormatInfo drmFmt with
  | none => simp
  | some fmtInfo =>
      dsimp only
      split
      · simp
      · split
        · simp
        · cases hans : a.createDumb (createDumb info.width info.height drmFmt fmtInfo) with
          | none => simp
          | some dumb =>
              simp only [post_bind, post_modify, post_pure]
              rintro _ ⟨⟩
              exact ⟨_, dumb, by rw [AllocInfo.createDumb, hinfo]; rfl, hans, rfl, rfl⟩

theorem exportBo_handle (g : GrallocWorld) (info : AllocInfo) (a : AllocAnswers) (bo : GbmBo) :
    Post (exportBo info a bo) g
      (fun r _ => ∀ handle, r = (.success, some handle) →
        handle.stride = bo.stride.toInt32 ∧ handle.size = bo.size.toInt32)
      (fun _ _ => True) := by
  unfold exportBo gbmBoGetFd gbmBoDestroy closeFd grallocUnlock
  cases a.primeFd with
  | none =>
      simp only [post_bind, post_pure, if_pos (show (-1 : Int) < 0 by decide)]
      split <;> simp
  | some fd =>
      have hfd : ¬ ((fd : Int) < 0) := by omega
      simp only [post_bind, post_pure, post_modify, if_neg hfd]
      split
      · simp only [post_bind, post_modify]
        split <;> simp
      · simp only [post_bind, post_modify]
        split
        · simp only [post_bind, post_modify]
          split <;> simp
        · simp only [post_bind]
          split <;>
          · simp only [post_modify, post_pure]
            rintro _ ⟨⟩
            exact ⟨rfl, rfl⟩

theorem gbmAllocMem_handle (g : GrallocWorld) (info : AllocInfo) (a : AllocAnswers) :
    Post (gbmAllocMem info a) g
      (fun r _ => ∀ handle, r = (.success, some handle) → HandleOf info a handle)
      (fun _ _ => True) := by
  unfold gbmAllocMem
  cases hfmt : convertFormatToDrm info.format with
  | none => simp
  | some drmFmt =>
      simp only [post_bind]
      refine (post_self grallocLock g).mono ?_ (fun _ _ _ => trivial)
      rintro - g₁ -
      refine (getGrallocManager_post g₁ a.mallocManager).mono ?_ (fun _ _ _ => trivial)
      rintro m g₂ -
      cases m with
      | none => simp [grallocUnlock]
      | some m =>
          rw [post_bind]
          refine gbmBoCreate_handle.mono ?_ (fun _ _ _ => trivial)
          intro r g₃ hbo
          cases r with
          | none => simp [grallocUnlock]
          | some bo =>
              obtain ⟨req, dumb, hreq, hdumb, hpitch, hsize⟩ := hbo bo rfl
              refine (exportBo_handle g₃ info a bo).mono ?_ (fun _ _ h => h)
              intro r _ hr handle hsucc
              obtain ⟨hstride, hcopy⟩ := hr handle hsucc
              exact ⟨drmFmt, req, dumb, hfmt, hreq, hdumb, hstride.trans (by rw [hpitch]),
                hcopy.trans (by rw [hsize])⟩

/-- Where the kernel grants the request, an open allocator returns a handle. -/
theorem openGralloc_success {info : AllocInfo} {kernel : CreateDumb → Option DumbBuffer}
    {drmFmt : DrmFormat} {req : CreateDumb} {dumb : DumbBuffer}
    (hfmt : convertFormatToDrm info.format = some drmFmt)
    (hreq : info.createDumb drmFmt = some req) (hdumb : kernel req = some dumb) :
    ∃ handle g', gbmAllocMem info { createDumb := kernel, primeFd := some 6 } openGralloc =
        .ok (.success, some handle) g' ∧
      handle.stride = dumb.pitch.toInt32 ∧ handle.size = dumb.size.toUInt32.toInt32 := by
  obtain ⟨fmtInfo, hinfo, rfl⟩ := Option.map_eq_some_iff.1 hreq
  obtain ⟨m, heval⟩ := @gbmAllocMem_reaches openGralloc info
    { createDumb := kernel, primeFd := some 6 } drmFmt rfl _ rfl rfl _ hfmt hinfo
  rw [heval]
  simp only [hdumb]
  exact ⟨_, _, rfl, rfl, rfl⟩

/-! ## Requests that can go wrong -/

section
variable {info : AllocInfo} {drmFmt : DrmFormat} {fmtInfo : FormatInfo} {req : CreateDumb}

theorem fullHeight_pos {width height : UInt32} (h : getFormatInfo drmFmt = some fmtInfo)
    (hne : (createDumb width height drmFmt fmtInfo).height ≠ 0) :
    0 < fmtInfo.fullHeight height.toNat := by
  obtain ⟨hrows, -⟩ := rows_le_createDumb hne
  have hpos : 0 < (adjustStrideFromFormat drmFmt height).toNat := by
    rw [Nat.pos_iff_ne_zero]
    exact fun hzero => hrows (UInt32.toNat_inj.1 hzero)
  unfold FormatInfo.fullHeight
  rcases getFormatInfo_cases h with ⟨hp, -⟩ | ⟨p, hmem, hp, -⟩
  · rw [hp]
    rwa [adjustStrideFromFormat_none h hp] at hpos
  · rw [chroma_rows h hp hmem hrows, (planeLayouts_parts p hmem).1,
      Nat.ceilDiv_eq_add_pred_div] at hpos
    rw [hp]
    dsimp only
    rw [(planeLayouts_parts p hmem).1, Nat.ceilDiv_eq_add_pred_div]
    omega

theorem row_pos {width height : UInt32} (h : getFormatInfo drmFmt = some fmtInfo)
    (hne : (createDumb width height drmFmt fmtInfo).width ≠ 0) :
    0 < (createDumb width height drmFmt fmtInfo).row ∧
      8 * (createDumb width height drmFmt fmtInfo).row =
        (createDumb width height drmFmt fmtInfo).width.toNat *
          (createDumb width height drmFmt fmtInfo).bpp.toNat := by
  obtain ⟨k, hk⟩ := (width_le_createDumb hne).2
  have hkpos : 0 < k := by
    rw [Nat.pos_iff_ne_zero]
    rintro rfl
    exact hne (UInt32.toNat_inj.1 hk)
  have hbpp : 0 < fmtInfo.bitsPerPixel.toNat := by
    rcases getFormatInfo_cases h with ⟨-, hbpp⟩ | ⟨-, -, -, hbpp⟩
    · simp only [List.mem_cons, List.not_mem_nil, or_false] at hbpp
      rcases hbpp with hb | hb | hb <;> rw [hb] <;> decide
    · rw [hbpp]
      decide
  unfold CreateDumb.row
  rw [hk, Nat.mul_assoc, Nat.mul_div_cancel_left _ (by decide)]
  exact ⟨Nat.mul_pos hkpos hbpp, rfl⟩

/-- The kernel that grants one request, with a row as short as it may be. -/
def grantOnly (req : CreateDumb) (size : Nat) (r : CreateDumb) : Option DumbBuffer :=
  if r = req then
    some { handle := 1, pitch := UInt32.ofNat req.row, size := UInt64.ofNat size }
  else none

theorem grantOnly_honest {size : Nat} (hw : req.width ≠ 0) (hh : req.height ≠ 0)
    (hrow : 8 * req.row = req.width.toNat * req.bpp.toNat) (hlt : req.row < 2 ^ 32)
    (hsize : req.row * req.height.toNat ≤ size) (hsize64 : size < 2 ^ 64) :
    Honest (grantOnly req size) := by
  intro r dumb hr
  unfold grantOnly at hr
  split at hr
  · next heq =>
      obtain rfl := Option.some.inj hr
      subst heq
      refine ⟨hw, hh, ?_, ?_⟩
      · rw [UInt32.toNat_ofNat_of_lt' hlt, hrow]
      · rw [UInt32.toNat_ofNat_of_lt' hlt, UInt64.toNat_ofNat_of_lt' hsize64]
        exact hsize
  · exact absurd hr (by simp)

theorem grantOnly_narrow {size : Nat} (h : size < 2 ^ 31) : Narrow (grantOnly req size) := by
  intro r dumb hr
  unfold grantOnly at hr
  split at hr
  · obtain rfl := Option.some.inj hr
    rwa [UInt64.toNat_ofNat_of_lt' (lt_trans h (by decide))]
  · exact absurd hr (by simp)

/-- A request granted this way is a failure of the sizes when the reported size, cut to
32 bits, is below what is needed. -/
theorem not_sufficient_grantOnly {size : Nat} (hfmt : convertFormatToDrm info.format = some drmFmt)
    (hinfo : getFormatInfo drmFmt = some fmtInfo) (hreq : info.createDumb drmFmt = some req)
    (hlt : req.row < 2 ^ 32) (hsize64 : size < 2 ^ 64) (hsigned : size % 2 ^ 32 < 2 ^ 31)
    (hshort : size % 2 ^ 32 < req.row * fmtInfo.fullHeight info.height.toNat) :
    ¬ Sufficient openGralloc info { createDumb := grantOnly req size, primeFd := some 6 } := by
  intro h
  obtain ⟨handle, g', hok, hstride, hcopy⟩ :=
    @openGralloc_success info (grantOnly req size) drmFmt req _ hfmt hreq (if_pos rfl)
  obtain ⟨hwidth, hneed⟩ := h.of_ok hok handle rfl drmFmt fmtInfo hfmt hinfo
  -- a stride that holds a row is not negative, so it is the pitch
  obtain ⟨k, hk⟩ := Int.eq_ofNat_of_zero_le (show 0 ≤ handle.stride.toInt by omega)
  have hpitch : req.row = k := by
    rw [hstride] at hk
    have hrow := (toNat_of_toInt32 hk).1
    rwa [UInt32.toNat_ofNat_of_lt' hlt] at hrow
  have hcut : (UInt64.ofNat size).toUInt32.toNat = size % 2 ^ 32 := by
    rw [UInt64.toNat_toUInt32, UInt64.toNat_ofNat_of_lt' hsize64]
  rw [hk, hcopy, toInt_toInt32 (by rw [hcut]; exact hsigned), hcut, ← hpitch] at hneed
  have hneed' : req.row * fmtInfo.fullHeight info.height.toNat ≤ size % 2 ^ 32 := by
    exact_mod_cast hneed
  omega

end

/-! ## The law -/

/-- Under a kernel that reports sizes below `2 ^ 31`, a request that does not wrap is
served in full. -/
theorem sufficient_of_narrow {g : GrallocWorld} {info : AllocInfo} {a : AllocAnswers}
    (hhonest : Honest a.createDumb) (hnarrow : Narrow a.createDumb)
    (hwrap : ¬ info.WrapsUnnoticed) : Sufficient g info a := by
  refine (gbmAllocMem_handle g info a).mono ?_ (fun _ _ h => h)
  intro r _ hr handle hsucc
  obtain ⟨drmFmt, req, dumb, hfmt, hreq, hdumb, hstride, hsize⟩ := hr handle hsucc
  intro drmFmt' fmtInfo hfmt' hinfo
  obtain rfl := Option.some.inj (hfmt.symm.trans hfmt')
  have hreq' := hreq
  rw [AllocInfo.createDumb, hinfo] at hreq'
  obtain rfl := Option.some.inj hreq'
  obtain ⟨hw, hh, hrow, hrows⟩ := hhonest _ _ hdumb
  have hlt := hnarrow _ _ hdumb
  have hpitch : dumb.pitch.toNat < 2 ^ 31 := by
    refine lt_of_le_of_lt (le_trans (Nat.le_mul_of_pos_right _ ?_) hrows) hlt
    rw [Nat.pos_iff_ne_zero]
    exact fun hzero => hh (UInt32.toNat_inj.1 hzero)
  have hcut : dumb.size.toUInt32.toNat = dumb.size.toNat := by
    rw [UInt64.toNat_toUInt32]
    omega
  rw [hstride, hsize, toInt_toInt32 hpitch, toInt_toInt32 (by rw [hcut]; exact hlt), hcut]
  constructor
  · exact_mod_cast le_trans (Nat.mul_le_mul_right _ (width_le_createDumb hw).1) hrow
  · norm_cast
    refine le_trans (Nat.mul_le_mul_left _ (fullHeight_le hinfo hh fun p hp => ?_)) hrows
    -- a wrap would have been noticed: the size would not fit
    by_contra hge
    refine hwrap ⟨drmFmt, fmtInfo, p, _, hfmt, hinfo, hp, not_lt.1 hge, hreq, hw, hh, ?_⟩
    obtain ⟨-, hrow'⟩ := row_pos hinfo hw
    have hpitch : (createDumb info.width info.height drmFmt fmtInfo).row ≤ dumb.pitch.toNat := by
      have hbound : 8 * (createDumb info.width info.height drmFmt fmtInfo).row ≤
          8 * dumb.pitch.toNat := by
        rw [hrow']
        exact hrow
      omega
    exact lt_of_le_of_lt (le_trans (Nat.mul_le_mul_right _ hpitch) hrows) hlt

/-- **Sizes of an allocation.** Among the kernels that report sizes below `2 ^ 31`, a
request is always served in full or refused exactly when it does not wrap unnoticed.
Among all kernels, exactly when none of them grants it. -/
theorem bufferSize_iff (info : AllocInfo) :
    ((∀ g a, Honest a.createDumb → Narrow a.createDumb → Sufficient g info a) ↔
      ¬ info.WrapsUnnoticed) ∧
    ((∀ g a, Honest a.createDumb → Sufficient g info a) ↔ ¬ info.CanSucceed) := by
  refine ⟨⟨?_, fun hwrap g a hhonest hnarrow => sufficient_of_narrow hhonest hnarrow hwrap⟩,
    ⟨?_, ?_⟩⟩
  · rintro hall ⟨drmFmt, fmtInfo, p, req, hfmt, hinfo, hp, hwrap, hreq, hw, hh, hfits⟩
    have hreq' := hreq
    rw [AllocInfo.createDumb, hinfo] at hreq'
    obtain rfl := Option.some.inj hreq'
    obtain ⟨hpos, hrow⟩ := row_pos hinfo hw
    have hheight := lt_fullHeight hinfo hh hp hwrap
    have hlt : (createDumb info.width info.height drmFmt fmtInfo).row < 2 ^ 31 := by
      refine lt_of_le_of_lt (Nat.le_mul_of_pos_right _ ?_) hfits
      rw [Nat.pos_iff_ne_zero]
      exact fun hzero => hh (UInt32.toNat_inj.1 hzero)
    have hlt32 := lt_trans hlt (show 2 ^ 31 < 2 ^ 32 by decide)
    have hcut := Nat.mod_eq_of_lt (lt_trans hfits (show 2 ^ 31 < 2 ^ 32 by decide))
    refine not_sufficient_grantOnly hfmt hinfo hreq hlt32 (lt_trans hfits (by decide)) ?_ ?_
      (hall _ _ (grantOnly_honest hw hh hrow hlt32 le_rfl (lt_trans hfits (by decide)))
        (grantOnly_narrow hfits))
    · rwa [hcut]
    · rw [hcut]
      exact Nat.mul_lt_mul_of_pos_left hheight hpos
  · rintro hall ⟨drmFmt, req, hfmt, hreq, hw, hh, hlt⟩
    obtain ⟨fmtInfo, hinfo, rfl⟩ := Option.map_eq_some_iff.1 hreq
    obtain ⟨hpos, hrow⟩ := row_pos hinfo hw
    have hheight := UInt32.toNat_lt (createDumb info.width info.height drmFmt fmtInfo).height
    -- a size that is a multiple of `2 ^ 32` is cut to nothing
    have hsize : (createDumb info.width info.height drmFmt fmtInfo).row *
        (createDumb info.width info.height drmFmt fmtInfo).height.toNat ≤ 2 ^ 64 - 2 ^ 32 := by
      calc _ ≤ (2 ^ 32 - 1) * (2 ^ 32 - 1) := Nat.mul_le_mul (by omega) (by omega)
        _ ≤ 2 ^ 64 - 2 ^ 32 := by decide
    refine not_sufficient_grantOnly hfmt hinfo hreq hlt (by decide) (by decide) ?_
      (hall _ _ (grantOnly_honest hw hh hrow hlt hsize (by decide)))
    rw [show (2 ^ 64 - 2 ^ 32) % 2 ^ 32 = 0 by decide]
    exact Nat.mul_pos hpos (fullHeight_pos hinfo hh)
  · intro hrefused g a hhonest
    refine (gbmAllocMem_handle g info a).mono ?_ (fun _ _ h => h)
    intro r _ hr handle hsucc
    obtain ⟨drmFmt, req, dumb, hfmt, hreq, hdumb, -⟩ := hr handle hsucc
    obtain ⟨hw, hh, hrow, -⟩ := hhonest _ _ hdumb
    refine absurd ⟨drmFmt, req, hfmt, hreq, hw, hh, ?_⟩ hrefused
    have hpitch := dumb.pitch.toNat_lt
    unfold CreateDumb.row
    omega

/-- An NV12 picture of 715827883 rows: six times that is `2 ^ 32 + 2`. -/
def tallNv12 : AllocInfo :=
  { width := 64, height := 715827883, usage := 0, format := .ycbcr420Sp }

/-- The tall picture is granted two rows. -/
theorem tallNv12_short :
    Honest (grantOnly ⟨2, 64, 8⟩ 128) ∧ Narrow (grantOnly ⟨2, 64, 8⟩ 128) ∧
      ¬ Sufficient openGralloc tallNv12
        { createDumb := grantOnly ⟨2, 64, 8⟩ 128, primeFd := some 6 } := by
  refine ⟨grantOnly_honest ?_ ?_ ?_ ?_ ?_ ?_, grantOnly_narrow ?_,
    @not_sufficient_grantOnly tallNv12 .nv12 _ _ _ rfl rfl ?_ ?_ ?_ ?_ ?_⟩ <;> decide

end QemuHal
