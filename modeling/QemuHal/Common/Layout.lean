import QemuHal.Gralloc.Sizes

/-!
# Buffer layouts of the allocator and of the blitter

In the common HAL `GbmAllocMem` pads the width of a dumb buffer to 8 pixels, room for
the chroma planes included, and its height to 2 rows. `doFlit` ignores the stride of
the handle: it describes every surface with rows of `ALIGN_UP(width, 16)` pixels and
`ALIGN_UP(height, 16)` of them. `layout_iff` says when the two fit together.
-/

namespace QemuHal.Common

open Exec Rounding

/-! ## Formats -/

/-- The pixel formats that the allocator or the blitter knows, and any other. -/
inductive PixelFormat where
  | rgb565
  | rgba5551
  | rgbx4444
  | rgba4444
  | rgbx8888
  | rgba8888
  | rgb888
  | bgr565
  | bgrx4444
  | bgra4444
  | bgrx5551
  | bgra5551
  | bgrx8888
  | bgra8888
  | ycbcr422Sp
  | ycrcb422Sp
  | ycbcr420Sp
  | ycrcb420Sp
  | ycbcr422P
  | ycrcb422P
  | ycbcr420P
  | ycrcb420P
  | yuyv422Pkg
  | uyvy422Pkg
  | yvyu422Pkg
  | vyuy422Pkg
  | other (code : Int)
deriving DecidableEq, Repr

def convertTable : List (DrmFormat × PixelFormat) :=
  [(.rgbx8888, .rgbx8888), (.rgba8888, .rgba8888), (.rgb888, .rgb888), (.rgb565, .bgr565),
    (.bgrx4444, .bgrx4444), (.bgra4444, .bgra4444), (.rgba4444, .rgba4444),
    (.rgbx4444, .rgbx4444), (.bgrx5551, .bgrx5551), (.bgra5551, .bgra5551),
    (.bgrx8888, .bgrx8888), (.bgra8888, .bgra8888), (.nv12, .ycbcr420Sp),
    (.nv21, .ycrcb420Sp), (.yuv420, .ycbcr420P), (.yvu420, .ycrcb420P),
    (.nv16, .ycbcr422Sp), (.nv61, .ycrcb422Sp), (.yuv422, .ycbcr422P),
    (.yvu422, .ycrcb422P)]

/-- `ConvertFormatToDrm`: the last matching entry, `none` for `INVALID_PIXEL_FMT`. -/
def convertFormatToDrm (fmtIn : PixelFormat) : Option DrmFormat :=
  convertTable.foldl (fun fmtOut e => if e.2 = fmtIn then some e.1 else fmtOut) none

/-- The formats of `RgaSURF_FORMAT` that `colorSpaceModeChange` returns. -/
inductive RgaSurfFormat where
  | rgb565
  | rgba4444
  | rgba5551
  | rgbx8888
  | rgba8888
  | rgb888
  | bgr565
  | bgra4444
  | bgra5551
  | bgrx8888
  | bgra8888
  | yCbCr420Sp
  | yCrCb420Sp
  | yCrCb422Sp
  | yCbCr420P
  | yCrCb420P
  | yCbCr422P
  | yCrCb422P
  | yuyv422
  | uyvy422
  | vyuy422
  | unknown
deriving DecidableEq, Repr

/-- `colorSpaceModeChange`: the format and what `*isYuv` holds afterwards. -/
def colorSpaceModeChange (color : PixelFormat) (isYuv : Bool) : RgaSurfFormat × Bool :=
  match color with
  | .rgb565 => (.rgb565, false)
  | .rgba4444 => (.rgba4444, false)
  | .rgba5551 => (.rgba5551, false)
  | .rgbx8888 => (.rgbx8888, false)
  | .rgba8888 => (.rgba8888, false)
  | .rgb888 => (.rgb888, false)
  | .bgr565 => (.bgr565, false)
  | .bgra4444 => (.bgra4444, false)
  | .bgra5551 => (.bgra5551, false)
  | .bgrx8888 => (.bgrx8888, false)
  | .bgra8888 => (.bgra8888, false)
  -- a 422 format described as a 420 one
  | .ycbcr422Sp => (.yCbCr420Sp, true)
  | .ycrcb422Sp => (.yCrCb422Sp, true)
  | .ycbcr420Sp => (.yCbCr420Sp, true)
  | .ycrcb420Sp => (.yCrCb420Sp, true)
  | .ycbcr422P => (.yCbCr422P, true)
  | .ycrcb422P => (.yCrCb422P, true)
  | .ycbcr420P => (.yCbCr420P, true)
  | .ycrcb420P => (.yCrCb420P, true)
  | .yuyv422Pkg => (.yuyv422, true)
  | .uyvy422Pkg => (.uyvy422, true)
  | .yvyu422Pkg => (.yuyv422, true)
  | .vyuy422Pkg => (.vyuy422, true)
  | .rgbx4444 | .bgrx4444 | .bgrx5551 | .other _ => (.unknown, isYuv)

/-! ## The allocator -/

/-- The status codes of `GbmAllocMem` and of `doFlit`. -/
inductive GbmStatus where
  | success
  | failure
  | paramErr
  | fdErr
  | notSupport
  | noMem
deriving DecidableEq, Repr

structure AllocInfo where
  width : UInt32
  height : UInt32
  usage : UInt64
  format : PixelFormat
deriving DecidableEq, Repr

/-- The request `hdi_gbm_bo_create` makes: here the parts of the chroma planes are added
to the width. -/
def createDumb (width height : UInt32) (format : DrmFormat) (info : FormatInfo) : CreateDumb :=
  { height := alignUp height heightAlign
    width := alignUp (adjustStrideFromFormat format width) widthAlign
    bpp := info.bitsPerPixel }

/-- `hdi_gbm_bo_create`. -/
def gbmBoCreate (gbm : Option GbmDevice) (width height : UInt32) (format : DrmFormat)
    (calloc : Bool) (answer : CreateDumb → Option DumbBuffer) : Gralloc (Option GbmBo) :=
  match getFormatInfo format with
  | none => pure none
  | some info =>
      if ¬ calloc then pure none
      else
        match gbm with
        | none => throw .nullDevice
        | some gbm => do
            let bo : GbmBo := { gbm, width, height, format }
            match answer (createDumb width height format info) with
            | none => do
                modify fun g => { g with bos := bo :: g.bos }
                pure none
            | some dumb => do
                let bo := bo.initGbmBo dumb
                modify fun g => { g with bos := bo :: g.bos, dumbs := dumb.handle :: g.dumbs }
                pure (some bo)

/-- The fields of the handle `InitBufferHandle` fills in; the others are zero. -/
structure PriBufferHandle where
  fd : Int
  stride : Int32
  width : Int32
  height : Int32
  usage : UInt64
  format : PixelFormat
  size : Int32
deriving DecidableEq, Repr

/-- `InitBufferHandle`. The size the kernel reported is not used. -/
def initBufferHandle (bo : GbmBo) (fd : Int) (info : AllocInfo) : PriBufferHandle :=
  { fd, stride := bo.stride.toInt32, width := bo.width.toInt32, height := bo.height.toInt32
    usage := info.usage, format := info.format, size := (bo.stride * bo.height).toInt32 }

/-- `GbmAllocMem` from the export of the descriptor on. -/
def exportBo (info : AllocInfo) (a : AllocAnswers) (bo : GbmBo) :
    Gralloc (GbmStatus × Option PriBufferHandle) := do
  let fd ← gbmBoGetFd a.primeFd
  if fd < 0 then do
    gbmBoDestroy bo a.destroyDumb
    grallocUnlock
    pure (.fdErr, none)
  else if ¬ a.malloc then do
    closeFd fd
    gbmBoDestroy bo a.destroyDumb
    grallocUnlock
    pure (.failure, none)
  else do
    modify fun g => { g with priBuffers := g.priBuffers + 1 }
    if ¬ a.memset then do
      closeFd fd
      gbmBoDestroy bo a.destroyDumb
      modify fun g => { g with priBuffers := g.priBuffers - 1 }
      grallocUnlock
      pure (.failure, none)
    else do
      gbmBoDestroy bo a.destroyDumb
      grallocUnlock
      pure (.success, some (initBufferHandle bo fd info))

/-- `GbmAllocMem`, for the non-null arguments its callers pass: the status and what is
stored in `*buffer`, if anything. -/
def gbmAllocMem (info : AllocInfo) (a : AllocAnswers) :
    Gralloc (GbmStatus × Option PriBufferHandle) :=
  match convertFormatToDrm info.format with
  | none => pure (.notSupport, none)
  | some drmFmt => do
      grallocLock
      match ← getGrallocManager a.mallocManager with
      | none => do
          grallocUnlock
          pure (.paramErr, none)
      | some m => do
          match ← gbmBoCreate m.gbmDevice info.width info.height drmFmt a.calloc a.createDumb with
          | none => do
              grallocUnlock
              pure (.noMem, none)
          | some bo => exportBo info a bo

/-! ## The blitter -/

/-- The fields of `ISurface` that `doFlit` describes a surface from, and the stride it
is given. -/
structure ISurface where
  width : Int32
  height : Int32
  phyAddr : Int
  enColorFmt : PixelFormat
  stride : Int32
deriving DecidableEq, Repr

/-- `InitGfxSurface`, for the buffer of `handle` and the duplicate `fd` of its descriptor. -/
def initGfxSurface (handle : PriBufferHandle) (fd : Int) : ISurface :=
  { width := handle.width, height := handle.height, phyAddr := fd
    enColorFmt := handle.format, stride := handle.stride }

structure RgaBuffer where
  fd : Int
  width : Int32
  height : Int32
  wstride : Int32
  hstride : Int32
  format : RgaSurfFormat
deriving DecidableEq, Repr

/-- `ALIGN_UP` on `int32_t`. -/
def alignUpInt (x a : Int32) : Int32 := (x + (a - 1)) / a * a

def describe (surface : ISurface) : RgaBuffer :=
  { fd := surface.phyAddr, width := surface.width, height := surface.height
    wstride := alignUpInt surface.width 16, hstride := alignUpInt surface.height 16
    format := (colorSpaceModeChange surface.enColorFmt false).1 }

/-- The part of `doFlit` that describes its two surfaces. -/
def flitBuffers (srcSurface dstSurface : ISurface) : Except GbmStatus (RgaBuffer × RgaBuffer) :=
  if (colorSpaceModeChange dstSurface.enColorFmt false).2 then .error .paramErr
  else if srcSurface.phyAddr = 0 then .error .paramErr
  else .ok (describe srcSurface, describe dstSurface)

/-- A `doFlit` describes `surface` as `buf`, as its source or as its destination. -/
def Describes (surface : ISurface) (buf : RgaBuffer) : Prop :=
  ∃ other otherBuf, flitBuffers surface other = .ok (buf, otherBuf) ∨
    flitBuffers other surface = .ok (otherBuf, buf)

/-! ## Images -/

namespace RgaSurfFormat

/-- The bytes of a pixel in the first plane. -/
def pixelBytes : RgaSurfFormat → Nat
  | .rgbx8888 | .rgba8888 | .bgrx8888 | .bgra8888 => 4
  | .rgb888 => 3
  | .rgb565 | .rgba4444 | .rgba5551 | .bgr565 | .bgra4444 | .bgra5551 => 2
  | .unknown => 0
  | _ => 1

/-- The bytes of a row of `w` pixels in the first plane, as the rga2 driver counts them. -/
def rowBytes (f : RgaSurfFormat) (w : Nat) : Nat := roundUp (w * f.pixelBytes) 4

/-- The bytes of the other planes of `h` rows. -/
def chromaBytes (f : RgaSurfFormat) (w h : Nat) : Nat :=
  match f with
  | .yCrCb422Sp | .yuyv422 | .uyvy422 | .vyuy422 => f.rowBytes w * h
  | .yCbCr422P | .yCrCb422P => 2 * (f.rowBytes w / 2 * h)
  | .yCbCr420Sp | .yCrCb420Sp => f.rowBytes w * (h / 2)
  | .yCbCr420P | .yCrCb420P => 2 * (f.rowBytes w / 2 * (h / 2))
  | _ => 0

def imageBytes (f : RgaSurfFormat) (w h : Nat) : Nat := f.rowBytes w * h + f.chromaBytes w h

theorem rowBytes_of_dvd {f : RgaSurfFormat} {w : Nat} (h : 16 ∣ w) :
    f.rowBytes w = w * f.pixelBytes := by
  apply roundUp_of_dvd (by decide)
  exact Dvd.dvd.mul_right (dvd_trans (by decide) h) _

end RgaSurfFormat

/-! ## The law -/

/-- The image `buf` describes is the one in the buffer of `handle`: its rows have the
recorded stride and all its planes lie within the recorded size. -/
structure Agrees (info : AllocInfo) (handle : PriBufferHandle) (buf : RgaBuffer) : Prop where
  /-- The allocator pads the width without a wrap. -/
  padded : ∀ drmFmt fmtInfo, convertFormatToDrm info.format = some drmFmt →
    getFormatInfo drmFmt = some fmtInfo →
    (createDumb info.width info.height drmFmt fmtInfo).width.toNat =
      roundUp (fmtInfo.fullHeight info.width.toNat) 8
  /-- So does the blitter. -/
  wstride : buf.wstride.toInt = roundUp info.width.toNat 16
  hstride : buf.hstride.toInt = roundUp info.height.toNat 16
  pitch : handle.stride.toInt = buf.format.rowBytes buf.wstride.toInt.toNat
  inside : buf.format.imageBytes buf.wstride.toInt.toNat buf.hstride.toInt.toNat ≤
    handle.size.toInt
  product : handle.stride.toInt * info.height.toNat < 2 ^ 32

/-- The kernel grants exactly the row of the blitter, there is nothing to round in the
height, and there are no chroma planes. -/
def AllocInfo.Tight (info : AllocInfo) (kernel : CreateDumb → Option DumbBuffer) : Prop :=
  ∃ drmFmt fmtInfo dumb, convertFormatToDrm info.format = some drmFmt ∧
    getFormatInfo drmFmt = some fmtInfo ∧
    kernel (createDumb info.width info.height drmFmt fmtInfo) = some dumb ∧
    fmtInfo.planes = none ∧ 16 ∣ info.height.toNat ∧
    8 * dumb.pitch.toNat = roundUp info.width.toNat 16 * fmtInfo.bitsPerPixel.toNat ∧
    dumb.pitch.toNat * info.height.toNat < 2 ^ 31

/-! ## Formats both sides know -/

/-- A format has wide pixels and one plane, or chroma planes. -/
theorem RgaSurfFormat.planes_cases {f : RgaSurfFormat} (hknown : f ≠ .unknown) :
    (2 ≤ f.pixelBytes ∧ ∀ w h, f.chromaBytes w h = 0) ∨
      (f.pixelBytes = 1 ∧
        ∀ w h, 0 < f.rowBytes w / 2 → 0 < h / 2 → 0 < f.chromaBytes w h) := by
  have hrow {w h : Nat} : 0 < f.rowBytes w / 2 → 0 < h / 2 →
      0 < f.rowBytes w * h ∧ 0 < 2 * (f.rowBytes w / 2 * h) ∧ 0 < f.rowBytes w * (h / 2) ∧
        0 < 2 * (f.rowBytes w / 2 * (h / 2)) := by
    intro hw hh
    have hw' : 0 < f.rowBytes w := by omega
    have hh' : 0 < h := by omega
    exact ⟨Nat.mul_pos hw' hh', Nat.mul_pos (by decide) (Nat.mul_pos hw hh'),
      Nat.mul_pos hw' hh, Nat.mul_pos (by decide) (Nat.mul_pos hw hh)⟩
  cases f with
  | unknown => exact absurd rfl hknown
  | rgb565 | rgba4444 | rgba5551 | rgbx8888 | rgba8888 | rgb888 | bgr565 | bgra4444 | bgra5551
  | bgrx8888 | bgra8888 => exact Or.inl ⟨by decide, fun _ _ => rfl⟩
  | yCrCb422Sp | yuyv422 | uyvy422 | vyuy422 =>
      exact Or.inr ⟨rfl, fun _ _ hw hh => (hrow hw hh).1⟩
  | yCbCr422P | yCrCb422P => exact Or.inr ⟨rfl, fun _ _ hw hh => (hrow hw hh).2.1⟩
  | yCbCr420Sp | yCrCb420Sp => exact Or.inr ⟨rfl, fun _ _ hw hh => (hrow hw hh).2.2.1⟩
  | yCbCr420P | yCrCb420P => exact Or.inr ⟨rfl, fun _ _ hw hh => (hrow hw hh).2.2.2⟩

section
variable {f : PixelFormat} {drmFmt : DrmFormat} {fmtInfo : FormatInfo}

/-- A format of the allocator that the blitter can describe has the same pixels on both
sides, and the allocator makes room for chroma planes where the blitter has them. -/
theorem colorSpaceModeChange_cases (hfmt : convertFormatToDrm f = some drmFmt)
    (hinfo : getFormatInfo drmFmt = some fmtInfo)
    (hknown : (colorSpaceModeChange f false).1 ≠ .unknown) :
    fmtInfo.bitsPerPixel.toNat = 8 * (colorSpaceModeChange f false).1.pixelBytes ∧
      (fmtInfo.planes = none ↔ 2 ≤ (colorSpaceModeChange f false).1.pixelBytes) := by
  cases f with
  | other | rgbx4444 | bgrx4444 | bgrx5551 => exact absurd rfl hknown
  | _ => cases hfmt <;> cases hinfo <;> decide

end

/-! ## What is returned -/

/-- The handle returned for a request describes the dumb buffer the kernel granted. -/
def HandleOf (info : AllocInfo) (a : AllocAnswers) (handle : PriBufferHandle) : Prop :=
  ∃ drmFmt fmtInfo dumb, convertFormatToDrm info.format = some drmFmt ∧
    getFormatInfo drmFmt = some fmtInfo ∧
    a.createDumb (createDumb info.width info.height drmFmt fmtInfo) = some dumb ∧
    handle.stride = dumb.pitch.toInt32 ∧ handle.width = info.width.toInt32 ∧
    handle.height = info.height.toInt32 ∧ handle.format = info.format ∧
    handle.size = (dumb.pitch * info.height).toInt32

theorem gbmBoCreate_bo {g : GrallocWorld} {gbm : Option GbmDevice} {info : AllocInfo}
    {drmFmt : DrmFormat} {a : AllocAnswers} :
    Post (gbmBoCreate gbm info.width info.height drmFmt a.calloc a.createDumb) g
      (fun r _ => ∀ bo, r = some bo → ∃ fmtInfo dumb, getFormatInfo drmFmt = some fmtInfo ∧
        a.createDumb (createDumb info.width info.height drmFmt fmtInfo) = some dumb ∧
        bo.stride = dumb.pitch ∧ bo.width = info.width ∧ bo.height = info.height)
      (fun _ _ => True) := by
  unfold gbmBoCreate
  cases hinfo : getFormatInfo drmFmt with
  | none => simp
  | some fmtInfo =>
      dsimp only
      split
      · simp
      · split
        · simp
        · cases hans : a.createDumb (createDumb info.width info.height drmFmt fmtInfo) with
          | none => simp
          | some dumb =>
              simp only [post_bind, post_modify, post_pure]
              rintro _ ⟨⟩
              exact ⟨fmtInfo, dumb, rfl, hans, rfl, rfl, rfl⟩

theorem exportBo_handle (g : GrallocWorld) (info : AllocInfo) (a : AllocAnswers) (bo : GbmBo) :
    Post (exportBo info a bo) g
      (fun r _ => ∀ handle, r = (.success, some handle) →
        ∃ fd, handle = initBufferHandle bo fd info) (fun _ _ => True) := by
  unfold exportBo gbmBoGetFd gbmBoDestroy closeFd grallocUnlock
  cases a.primeFd with
  | none =>
      simp only [post_bind, post_pure, if_pos (show (-1 : Int) < 0 by decide)]
      split <;> simp
  | some fd =>
      have hfd : ¬ ((fd : Int) < 0) := by omega
      simp only [post_bind, post_pure, post_modify, if_neg hfd]
      split
      · simp only [post_bind, post_modify]
        split <;> simp
      · simp only [post_bind, post_modify]
        split
        · simp only [post_bind, post_modify]
          split <;> simp
        · simp only [post_bind]
          split <;>
          · simp only [post_modify, post_pure]
            rintro _ ⟨⟩
            exact ⟨_, rfl⟩

theorem gbmAllocMem_handle (g : GrallocWorld) (info : AllocInfo) (a : AllocAnswers) :
    Post (gbmAllocMem info a) g
      (fun r _ => ∀ handle, r = (.success, some handle) → HandleOf info a handle)
      (fun _ _ => True) := by
  unfold gbmAllocMem
  cases hfmt : convertFormatToDrm info.format with
  | none => simp
  | some drmFmt =>
      simp only [post_bind]
      refine (post_self grallocLock g).mono ?_ (fun _ _ _ => trivial)
      rintro - g₁ -
      refine (getGrallocManager_post g₁ a.mallocManager).mono ?_ (fun _ _ _ => trivial)
      rintro m g₂ -
      cases m with
      | none => simp [grallocUnlock]
      | some m =>
          rw [post_bind]
          refine gbmBoCreate_bo.mono ?_ (fun _ _ _ => trivial)
          intro r g₃ hbo
          cases r with
          | none => simp [grallocUnlock]
          | some bo =>
              obtain ⟨fmtInfo, dumb, hinfo, hdumb, hstride, hwidth, hheight⟩ := hbo bo rfl
              refine (exportBo_handle g₃ info a bo).mono ?_ (fun _ _ h => h)
              intro r _ hr handle hsucc
              obtain ⟨fd, rfl⟩ := hr handle hsucc
              refine ⟨drmFmt, fmtInfo, dumb, hfmt, hinfo, hdumb, ?_, ?_, ?_, rfl, ?_⟩ <;>
                simp [initBufferHandle, hstride, hwidth, hheight]

/-- The buffer described for a returned handle. -/
theorem Describes.eq {surface : ISurface} {buf : RgaBuffer} (h : Describes surface buf) :
    buf = describe surface := by
  obtain ⟨other, otherBuf, h | h⟩ := h
  all_goals
    unfold flitBuffers at h
    split at h
    · exact absurd h (by simp)
    · split at h
      · exact absurd h (by simp)
      · obtain ⟨h₁, h₂⟩ := Prod.mk.injEq .. ▸ Except.ok.inj h
        first | exact h₁.symm | exact h₂.symm

/-! ## The layouts -/

section
variable {info : AllocInfo} {drmFmt : DrmFormat} {fmtInfo : FormatInfo}

/-- A request that is not refused comes from a picture that is not empty. -/
theorem createDumb_ne_zero
    (hw : (createDumb info.width info.height drmFmt fmtInfo).width ≠ 0)
    (hh : (createDumb info.width info.height drmFmt fmtInfo).height ≠ 0) :
    adjustStrideFromFormat drmFmt info.width ≠ 0 ∧ info.height ≠ 0 := by
  constructor
  · intro hzero
    apply hw
    show alignUp (adjustStrideFromFormat drmFmt info.width) widthAlign = 0
    rw [hzero]
    rfl
  · intro hzero
    apply hh
    show alignUp info.height heightAlign = 0
    rw [hzero]
    rfl

theorem adjustStrideFromFormat_zero (hinfo : getFormatInfo drmFmt = some fmtInfo) :
    adjustStrideFromFormat drmFmt 0 = 0 := by
  rcases getFormatInfo_cases hinfo with ⟨hp, -⟩ | ⟨p, hmem, hp, -⟩
  · exact adjustStrideFromFormat_none hinfo hp
  · rw [adjustStrideFromFormat_some hinfo hp hmem, (planeLayouts_parts p hmem).1, UInt32.zero_mul]
    rfl

end

section
variable {info : AllocInfo} {a : AllocAnswers} {handle : PriBufferHandle} {fd : Int}

/-- What the rows and the sizes come to for a handle of an honest kernel: the pitch and
the request are not empty, and the described format matches the allocated one. -/
structure Granted (info : AllocInfo) (kernel : CreateDumb → Option DumbBuffer)
    (handle : PriBufferHandle) (rkFormat : RgaSurfFormat) (pitch : UInt32) : Prop where
  width_pos : 0 < info.width.toNat
  height_pos : 0 < info.height.toNat
  pitch_pos : 0 < pitch.toNat
  width : handle.width = info.width.toInt32
  height : handle.height = info.height.toInt32
  format : handle.format = info.format
  stride : handle.stride = pitch.toInt32
  size : handle.size = (pitch * info.height).toInt32
  request : ∃ drmFmt fmtInfo dumb, convertFormatToDrm info.format = some drmFmt ∧
    getFormatInfo drmFmt = some fmtInfo ∧
    kernel (createDumb info.width info.height drmFmt fmtInfo) = some dumb ∧
    dumb.pitch = pitch ∧ fmtInfo.bitsPerPixel.toNat = 8 * rkFormat.pixelBytes ∧
    (fmtInfo.planes = none ↔ 2 ≤ rkFormat.pixelBytes) ∧
    (fmtInfo.planes = none →
      (createDumb info.width info.height drmFmt fmtInfo).width.toNat =
        roundUp (fmtInfo.fullHeight info.width.toNat) 8)

theorem granted (hhonest : Honest a.createDumb) (hof : HandleOf info a handle)
    (hknown : (colorSpaceModeChange info.format false).1 ≠ .unknown) :
    ∃ pitch, Granted info a.createDumb handle (colorSpaceModeChange info.format false).1 pitch := by
  obtain ⟨drmFmt, fmtInfo, dumb, hfmt, hinfo, hdumb, hstride, hwd, hht, hft, hsize⟩ := hof
  obtain ⟨hw, hh, hrow, -⟩ := hhonest _ _ hdumb
  obtain ⟨hadjust, hheight⟩ := createDumb_ne_zero hw hh
  have hwidth : info.width ≠ 0 := by
    intro hzero
    apply hadjust
    rw [hzero]
    exact adjustStrideFromFormat_zero hinfo
  have hpos {x : UInt32} (hx : x ≠ 0) : 0 < x.toNat :=
    Nat.pos_of_ne_zero fun hzero => hx (UInt32.toNat_inj.1 hzero)
  obtain ⟨hbits, hplanes⟩ := colorSpaceModeChange_cases hfmt hinfo hknown
  have hbytes : 0 < (colorSpaceModeChange info.format false).1.pixelBytes := by
    rcases RgaSurfFormat.planes_cases hknown with ⟨h, -⟩ | ⟨h, -⟩ <;> omega
  refine ⟨dumb.pitch, hpos hwidth, hpos hheight, ?_, hwd, hht, hft, hstride, hsize,
    drmFmt, fmtInfo, dumb, hfmt, hinfo, hdumb, rfl, hbits, hplanes, ?_⟩
  · have hneed : 0 < (createDumb info.width info.height drmFmt fmtInfo).width.toNat *
        (createDumb info.width info.height drmFmt fmtInfo).bpp.toNat :=
      Nat.mul_pos (hpos hw) (by
        show 0 < fmtInfo.bitsPerPixel.toNat
        omega)
    omega
  · intro hp
    show (alignUp (adjustStrideFromFormat drmFmt info.width) widthAlign).toNat = _
    have heq : adjustStrideFromFormat drmFmt info.width = info.width :=
      adjustStrideFromFormat_none hinfo hp
    rw [FormatInfo.fullHeight, hp, heq]
    refine alignUp_of_ne_zero (by decide) ?_
    rwa [← heq]

variable {kernel : CreateDumb → Option DumbBuffer} {pitch : UInt32}

theorem tight_of_agrees {buf : RgaBuffer} (hg : Granted info kernel handle buf.format pitch)
    (hknown : buf.format ≠ .unknown) (h : Agrees info handle buf) : info.Tight kernel := by
  obtain ⟨drmFmt, fmtInfo, dumb, hfmt, hinfo, hdumb, rfl, hbits, hplanes, -⟩ := hg.request
  have hW := h.wstride
  have hH := h.hstride
  have hstride := h.pitch
  have hinside := h.inside
  have hproduct := h.product
  rw [hg.stride] at hproduct
  rw [hg.stride, hW, Int.toNat_natCast] at hstride
  rw [hg.size, hW, hH, Int.toNat_natCast, Int.toNat_natCast] at hinside
  -- the recorded stride and size are not negative, so they are the words computed
  obtain ⟨hpitch, hpitchlt⟩ := toNat_of_toInt32 hstride
  rw [toInt_toInt32 (by omega)] at hproduct
  obtain ⟨hsize, hsizelt⟩ := toNat_of_toInt32
    (Int.toNat_of_nonneg (le_trans (Int.natCast_nonneg _) hinside)).symm
  rw [UInt32.toNat_mul, Nat.mod_eq_of_lt (by exact_mod_cast hproduct)] at hsize
  have hfits : dumb.pitch.toNat * roundUp info.height.toNat 16 +
      buf.format.chromaBytes (roundUp info.width.toNat 16) (roundUp info.height.toNat 16) ≤
        dumb.pitch.toNat * info.height.toNat := by
    rw [hsize, hpitch]
    exact Int.le_toNat (le_trans (Int.natCast_nonneg _) hinside) |>.2 hinside
  -- there is room for the rows only when nothing is added to them
  have hrows : roundUp info.height.toNat 16 ≤ info.height.toNat :=
    Nat.le_of_mul_le_mul_left (by omega) hg.pitch_pos
  have hheight : roundUp info.height.toNat 16 = info.height.toNat :=
    le_antisymm hrows (le_roundUp (by decide))
  have hdvd : 16 ∣ info.height.toNat := by
    rw [← hheight]
    exact dvd_roundUp _ _
  have hchroma : buf.format.chromaBytes (roundUp info.width.toNat 16)
      (roundUp info.height.toNat 16) = 0 := by
    rw [hheight] at hfits ⊢
    omega
  have hrow := RgaSurfFormat.rowBytes_of_dvd (f := buf.format) (dvd_roundUp info.width.toNat 16)
  refine ⟨drmFmt, fmtInfo, dumb, hfmt, hinfo, hdumb, ?_, hdvd, ?_, by omega⟩
  · rw [hplanes]
    rcases RgaSurfFormat.planes_cases hknown with ⟨hwide, -⟩ | ⟨hone, hpos⟩
    · exact hwide
    · exfalso
      have hwide : 16 ≤ roundUp info.width.toNat 16 :=
        Nat.le_of_dvd (lt_of_lt_of_le hg.width_pos (le_roundUp (by decide))) (dvd_roundUp _ _)
      have htall : 16 ≤ roundUp info.height.toNat 16 := by
        rw [hheight]
        exact Nat.le_of_dvd hg.height_pos hdvd
      refine absurd hchroma (Nat.pos_iff_ne_zero.1 (hpos _ _ ?_ (by omega)))
      rw [hrow, hone]
      omega
  · rw [hpitch, hrow, hbits, Nat.mul_left_comm]

theorem agrees_of_tight {buf : RgaBuffer} {fd : Int}
    (hg : Granted info kernel handle buf.format pitch)
    (hbuf : buf = describe (initGfxSurface handle fd)) (hknown : buf.format ≠ .unknown)
    (h : info.Tight kernel) : Agrees info handle buf := by
  obtain ⟨drmFmt, fmtInfo, dumb, hfmt, hinfo, hdumb, hnone, hdvd, hrow, hlt⟩ := h
  obtain ⟨drmFmt', fmtInfo', dumb', hfmt', hinfo', hdumb', rfl, hbits, hplanes, hpadded⟩ :=
    hg.request
  obtain rfl := Option.some.inj (hfmt.symm.trans hfmt')
  obtain rfl := Option.some.inj (hinfo.symm.trans hinfo')
  obtain rfl := Option.some.inj (hdumb.symm.trans hdumb')
  have hwide := hplanes.1 hnone
  have hchroma : ∀ w h, buf.format.chromaBytes w h = 0 := by
    rcases RgaSurfFormat.planes_cases hknown with ⟨-, h⟩ | ⟨hone, -⟩
    · exact h
    · omega
  have hpitch : dumb.pitch.toNat = buf.format.rowBytes (roundUp info.width.toNat 16) := by
    rw [RgaSurfFormat.rowBytes_of_dvd (dvd_roundUp _ _)]
    rw [hbits, Nat.mul_left_comm] at hrow
    omega
  have hheight := roundUp_of_dvd (by decide) hdvd
  have htall : 16 ≤ info.height.toNat := Nat.le_of_dvd hg.height_pos hdvd
  have hpitchlt : 16 * dumb.pitch.toNat < 2 ^ 31 := by
    rw [Nat.mul_comm]
    exact lt_of_le_of_lt (Nat.mul_le_mul_left _ htall) hlt
  have hwidthle : roundUp info.width.toNat 16 ≤ dumb.pitch.toNat := by
    rw [hpitch, RgaSurfFormat.rowBytes_of_dvd (dvd_roundUp _ _)]
    exact Nat.le_mul_of_pos_right _ (by omega)
  have hwidth := le_roundUp (n := info.width.toNat) (a := 16) (by decide)
  have hheightle : 16 * info.height.toNat ≤ dumb.pitch.toNat * info.height.toNat := by
    refine Nat.mul_le_mul_right _ (le_trans ?_ hwidthle)
    exact Nat.le_of_dvd (lt_of_lt_of_le hg.width_pos hwidth) (dvd_roundUp _ _)
  have hW : buf.wstride.toInt = roundUp info.width.toNat 16 := by
    rw [hbuf]
    show (alignUpInt handle.width 16).toInt = _
    rw [hg.width]
    exact toInt_alignUp (toInt_toInt32 (by omega)) (by decide) (by decide) (by omega)
  have hH : buf.hstride.toInt = roundUp info.height.toNat 16 := by
    rw [hbuf]
    show (alignUpInt handle.height 16).toInt = _
    rw [hg.height]
    exact toInt_alignUp (toInt_toInt32 (by omega)) (by decide) (by decide) (by omega)
  have hsize : (dumb.pitch * info.height).toNat = dumb.pitch.toNat * info.height.toNat := by
    rw [UInt32.toNat_mul, Nat.mod_eq_of_lt (by omega)]
  refine ⟨?_, hW, hH, ?_, ?_, ?_⟩
  · intro drmFmt' fmtInfo' hfmt' hinfo'
    obtain rfl := Option.some.inj (hfmt.symm.trans hfmt')
    obtain rfl := Option.some.inj (hinfo.symm.trans hinfo')
    exact hpadded hnone
  · rw [hg.stride, toInt_toInt32 (by omega), hW, Int.toNat_natCast, hpitch]
  · rw [hg.size, toInt_toInt32 (by omega), hW, hH, Int.toNat_natCast, Int.toNat_natCast, hsize,
      RgaSurfFormat.imageBytes, hchroma, Nat.add_zero, ← hpitch, hheight]
  · rw [hg.stride, toInt_toInt32 (by omega)]
    exact_mod_cast lt_trans hlt (by decide)

end

/-- **Layouts.** For a buffer of an honest kernel that the blitter can describe, the two
layouts agree exactly when the request is tight. -/
theorem layout_iff {g g' : GrallocWorld} {info : AllocInfo} {a : AllocAnswers}
    {handle : PriBufferHandle} {fd : Int} {buf : RgaBuffer} (hhonest : Honest a.createDumb)
    (hok : gbmAllocMem info a g = .ok (.success, some handle) g')
    (hdesc : Describes (initGfxSurface handle fd) buf) (hknown : buf.format ≠ .unknown) :
    Agrees info handle buf ↔ info.Tight a.createDumb := by
  have hof := (gbmAllocMem_handle g info a).of_ok hok handle rfl
  have hbuf := hdesc.eq
  obtain ⟨-, -, -, -, -, -, -, -, -, hformat, -⟩ := id hof
  have hrk : buf.format = (colorSpaceModeChange info.format false).1 := by
    rw [hbuf, ← hformat]
    rfl
  rw [hrk] at hknown
  obtain ⟨pitch, hg⟩ := granted hhonest hof hknown
  rw [← hrk] at hg hknown
  constructor
  · exact tight_of_agrees hg hknown
  · exact agrees_of_tight hg hbuf hknown

def rgba (width height : UInt32) : AllocInfo :=
  { width, height, usage := 0, format := .rgba8888 }

/-- A surface of the blitter's own, to put next to the one described. -/
def screen : ISurface :=
  { width := 64, height := 64, phyAddr := 9, enColorFmt := .rgba8888, stride := 256 }

/-- A square whose sides are multiples of 16. -/
theorem layout_square :
    ∃ handle g', gbmAllocMem (rgba 64 64)
        { createDumb := grantOnly ⟨64, 64, 32⟩ 16384, primeFd := some 6 } openGralloc =
          .ok (.success, some handle) g' ∧
      Agrees (rgba 64 64) handle (describe (initGfxSurface handle 7)) := by
  have hret : returns (gbmAllocMem (rgba 64 64)
      { createDumb := grantOnly ⟨64, 64, 32⟩ 16384, primeFd := some 6 }) openGralloc
      (fun r _ => decide (r = (.success, some
        { fd := 6, stride := 256, width := 64, height := 64, usage := 0, format := .rgba8888
          size := 16384 }))) = true := by decide
  obtain ⟨r, g', hok, hr⟩ := returns_iff.1 hret
  obtain rfl := of_decide_eq_true hr
  refine ⟨_, g', hok, (@layout_iff _ _ _ _ _ 7 _ ?_ hok ?_ (by decide)).2 ?_⟩
  · refine grantOnly_honest ?_ ?_ ?_ ?_ ?_ ?_ <;> decide
  · exact ⟨screen, describe screen, Or.inl rfl⟩
  · exact ⟨.rgba8888, _, _, rfl, rfl, rfl, rfl, by decide, by decide, by decide⟩

/-- A full-HD picture: 1080 rows are recorded and 1088 described. -/
theorem layout_fullHd :
    Honest (grantOnly ⟨1080, 1920, 32⟩ 8294400) ∧
      ∃ handle g', gbmAllocMem (rgba 1920 1080)
          { createDumb := grantOnly ⟨1080, 1920, 32⟩ 8294400, primeFd := some 6 } openGralloc =
            .ok (.success, some handle) g' ∧
        Describes (initGfxSurface handle 7) (describe (initGfxSurface handle 7)) ∧
        ¬ Agrees (rgba 1920 1080) handle (describe (initGfxSurface handle 7)) := by
  have hret : returns (gbmAllocMem (rgba 1920 1080)
      { createDumb := grantOnly ⟨1080, 1920, 32⟩ 8294400, primeFd := some 6 }) openGralloc
      (fun r _ => decide (r = (.success, some
        { fd := 6, stride := 7680, width := 1920, height := 1080, usage := 0
          format := .rgba8888, size := 8294400 }))) = true := by decide
  obtain ⟨r, g', hok, hr⟩ := returns_iff.1 hret
  obtain rfl := of_decide_eq_true hr
  refine ⟨?_, _, g', hok, ⟨screen, describe screen, Or.inl rfl⟩, fun h => ?_⟩
  · refine grantOnly_honest ?_ ?_ ?_ ?_ ?_ ?_ <;> decide
  · exact absurd h.inside (by decide)

end QemuHal.Common
