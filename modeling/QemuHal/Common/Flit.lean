import QemuHal.Common.Layout
import QemuHal.Core.Layer

/-!
# Blits of the common HAL

`HdiGfxComposition::BlitLayer` describes two layers as surfaces and hands them to
`rkBlit`, whose `doFlit` turns them into calls of RGA. Its status variable holds an
`IM_STATUS` in some branches and a `DISPLAY` code in others, so statuses are numbers
here. `flitStatus_iff` says when the status tells what was done, `blitFidelity_iff`
when RGA gets the rectangles and the alpha of the layer.
-/

namespace QemuHal.Common.Flit

open Exec

/-! ## Data -/

inductive BlendType where
  | none
  | clear
  | src
  | srcover
  | dstover
  | srcin
  | dstin
  | srcout
  | dstout
  | srcatop
  | dstatop
  | add
  | xor
  | dst
  | aks
  | akd
  | butt
deriving DecidableEq, Repr

inductive TransformType where
  | none
  | rotate90
  | rotate180
  | rotate270
  | butt
deriving DecidableEq, Repr

inductive MirrorType where
  | none
  | lr
  | tb
  | butt
deriving DecidableEq, Repr

structure ISurface where
  phyAddr : UInt64 := 0
  width : Int32 := 0
  height : Int32 := 0
  stride : Int32 := 0
  enColorFmt : PixelFormat := .other 0
  bAlphaExt1555 : Bool := false
  bAlphaMax255 : Bool := false
  alpha0 : UInt8 := 0
  alpha1 : UInt8 := 0
deriving DecidableEq, Repr

structure GfxOpt where
  enGlobalAlpha : Bool := false
  globalAlpha : UInt32 := 0
  enPixelAlpha : Bool := false
  blendType : BlendType := .none
  enableScale : Bool := false
  rotateType : TransformType := .none
  mirrorType : MirrorType := .none
deriving DecidableEq, Repr

/-- `im_rect`. -/
structure ImRect where
  x : Int := 0
  y : Int := 0
  width : Int := 0
  height : Int := 0
deriving DecidableEq, Repr

/-- `rga_buffer_t`. -/
structure RgaBufferT extends RgaBuffer where
  globalAlpha : Int32 := 0
deriving DecidableEq, Repr

/-- `bRgbBuffer` after `memset_s`; the format 0 is `RK_FORMAT_RGBA_8888`. -/
def RgaBufferT.zero : RgaBufferT :=
  { fd := 0, width := 0, height := 0, wstride := 0, hstride := 0, format := .rgba8888 }

/-- A call of RGA. -/
inductive RgaCall where
  | improcess (src dst pat : RgaBufferT) (srect drect prect : ImRect) (usage : Int32)
  | imcopy (src dst : RgaBufferT)
deriving DecidableEq, Repr

/-- The buffer a call writes. -/
def RgaCall.dst : RgaCall → RgaBufferT
  | .improcess _ dst .. => dst
  | .imcopy _ dst => dst

/-- `BufferHandle`, as far as the blitter reads it. -/
structure TempBuffer where
  phyAddr : UInt64
deriving DecidableEq, Repr

/-- The calls `doFlit` makes outside its module, with their answers. -/
inductive GfxEvent where
  | memset (ok : Bool)
  | memcpy (ok : Bool)
  | grallocInitialize (ret : Int32)
  | allocMem (ret : Int32) (buffer : TempBuffer)
  | freeMem (buffer : TempBuffer)
  | rga (call : RgaCall) (ret : Int32)
deriving DecidableEq, Repr

/-- The module, with the calls it has made. `grallocFucs` says whether the pointer of
that name is set. -/
structure GfxWorld where
  grallocFucs : Bool := false
  log : List GfxEvent := []
deriving DecidableEq, Repr

/-- Nothing in the module faults. -/
abbrev Gfx := EStateM Empty GfxWorld

/-- What the calls of one `doFlit` answer; `memset n` is the answer of the `n`-th
`memset_s`. -/
structure FlitAnswers where
  memset : Nat → Bool
  memcpy : Bool
  grallocInitialize : Int32
  allocMem : Int32
  buffer : TempBuffer
  improcess : Int32
  imcopy : Int32

/-- More calls are made. -/
def GfxWorld.logged (w : GfxWorld) (es : List GfxEvent) : GfxWorld := { w with log := w.log ++ es }

@[simp] theorem GfxWorld.logged_grallocFucs (w : GfxWorld) (es : List GfxEvent) :
    (w.logged es).grallocFucs = w.grallocFucs := rfl

@[simp] theorem GfxWorld.logged_log (w : GfxWorld) (es : List GfxEvent) :
    (w.logged es).log = w.log ++ es := rfl

theorem GfxWorld.logged_logged (w : GfxWorld) (es es' : List GfxEvent) :
    (w.logged es).logged es' = w.logged (es ++ es') := by
  unfold GfxWorld.logged
  rw [List.append_assoc]

def record (e : GfxEvent) : Gfx Unit := modify fun w => w.logged [e]

theorem record_ok (e : GfxEvent) (w : GfxWorld) : record e w = .ok ⟨⟩ (w.logged [e]) := rfl

/-! ## Codes -/

def displaySuccess : Int32 := 0
def displayFailure : Int32 := -1
def displayParamErr : Int32 := -3
def displayNullPtr : Int32 := -4
def displayNotSupport : Int32 := -5

def imStatusSuccess : Int32 := 1
def imStatusNotSupported : Int32 := -1

def imHalTransformRot90 : Int32 := (1 : Int32) <<< 0
def imHalTransformRot180 : Int32 := (1 : Int32) <<< 1
def imHalTransformRot270 : Int32 := (1 : Int32) <<< 2
def imHalTransformFlipH : Int32 := (1 : Int32) <<< 3
def imHalTransformFlipV : Int32 := (1 : Int32) <<< 4
def imAlphaBlendSrcOver : Int32 := (1 : Int32) <<< 6
def imAlphaBlendSrc : Int32 := (1 : Int32) <<< 7
def imAlphaBlendDst : Int32 := (1 : Int32) <<< 8
def imAlphaBlendDstOver : Int32 := (1 : Int32) <<< 13
def imSync : Int32 := (1 : Int32) <<< 19
def imAlphaBlendPreMul : Int32 := (1 : Int32) <<< 25

/-- `blendTypeChange`. -/
def blendTypeChange : BlendType → Int32
  | .src => imAlphaBlendSrc
  | .dst => imAlphaBlendDst
  | .srcover => imAlphaBlendSrcOver
  | .dstover => imAlphaBlendDstOver
  | _ => imStatusNotSupported

/-- `TransformTypeChange`. -/
def transformTypeChange : TransformType → Int32
  | .rotate90 => imHalTransformRot90
  | .rotate180 => imHalTransformRot180
  | .rotate270 => imHalTransformRot270
  | _ => 0

/-- `mirrorTypeChange`. -/
def mirrorTypeChange : MirrorType → Int32
  | .lr => imHalTransformFlipH
  | .tb => imHalTransformFlipV
  | _ => 0

/-! ## `doFlit` -/

/-- The number RGA is given for a surface: `(int32_t)phyAddr`. -/
def ISurface.fd (s : ISurface) : Int32 := s.phyAddr.toUInt32.toInt32

/-- The part of a surface that its description in RGA is made from. -/
def ISurface.layout (s : ISurface) : Common.ISurface :=
  ⟨s.width, s.height, s.fd.toInt, s.enColorFmt, s.stride⟩

/-- How `doFlit` describes a surface. -/
def ISurface.rgaBuffer (s : ISurface) (opt : GfxOpt) : RgaBufferT :=
  { describe s.layout with
    globalAlpha := if opt.enGlobalAlpha then opt.globalAlpha.toInt32 else 0 }

/-- How `doFlit` copies a rectangle: a coordinate of 1 becomes 0. -/
def flitRect (rect : IRect) : ImRect :=
  { x := if rect.x = 1 then 0 else rect.x
    y := if rect.y = 1 then 0 else rect.y
    width := rect.w
    height := rect.h }

/-- `rkBlendType`, 0 when the options ask for no blending. -/
def GfxOpt.rkBlendType (opt : GfxOpt) : Int32 :=
  if opt.blendType ≠ .none then blendTypeChange opt.blendType else 0

/-- `rkRotateType` and `rkMirrorType`. -/
def GfxOpt.rkTransform (opt : GfxOpt) : Int32 :=
  transformTypeChange opt.rotateType ||| mirrorTypeChange opt.mirrorType

def GfxOpt.usage (opt : GfxOpt) : Int32 :=
  let usage :=
    if opt.rkBlendType = imAlphaBlendDstOver ∨ opt.rkBlendType = imAlphaBlendSrcOver then
      opt.rkBlendType ||| imAlphaBlendPreMul
    else opt.rkBlendType
  usage ||| opt.rkTransform ||| imSync

/-- `memset_s` of the `n`-th local. -/
def memsetS (a : FlitAnswers) (n : Nat) : Gfx Bool := do
  record (.memset (a.memset n))
  return a.memset n

/-- Locals are cleared in order, up to the first `memset_s` that fails. -/
def clearLocals (a : FlitAnswers) : List Nat → Gfx Bool
  | [] => return true
  | n :: locals => do
      if ¬ (← memsetS a n) then return false
      clearLocals a locals

def improcess (a : FlitAnswers) (src dst pat : RgaBufferT) (srect drect prect : ImRect)
    (usage : Int32) : Gfx Int32 := do
  record (.rga (.improcess src dst pat srect drect prect usage) a.improcess)
  return a.improcess

def imcopy (a : FlitAnswers) (src dst : RgaBufferT) : Gfx Int32 := do
  record (.rga (.imcopy src dst) a.imcopy)
  return a.imcopy

theorem improcess_ok (a : FlitAnswers) (src dst pat : RgaBufferT) (srect drect prect : ImRect)
    (usage : Int32) (w : GfxWorld) : improcess a src dst pat srect drect prect usage w =
      .ok a.improcess
        (w.logged [.rga (.improcess src dst pat srect drect prect usage) a.improcess]) := rfl

theorem imcopy_ok (a : FlitAnswers) (src dst : RgaBufferT) (w : GfxWorld) :
    imcopy a src dst w = .ok a.imcopy (w.logged [.rga (.imcopy src dst) a.imcopy]) := rfl

/-- `GrallocInitialize(&grallocFucs)`, called only while the pointer is null. -/
def initGralloc (a : FlitAnswers) : Gfx Int32 := do
  if (← get).grallocFucs then return displaySuccess
  record (.grallocInitialize a.grallocInitialize)
  if a.grallocInitialize = displaySuccess then
    modify fun w => { w with grallocFucs := true }
  return a.grallocInitialize

/-- The last `if` of `doFlit`. -/
def flitRet (ret : Int32) : Int32 :=
  if ret ≠ imStatusSuccess then displayFailure else displaySuccess

/-- `srect` for a YUV source that is not scaled. -/
def wholeRect (src : RgaBufferT) : ImRect :=
  { width := src.width.toInt, height := src.height.toInt }

/-- `drect` for a YUV source that is not scaled. -/
def cornerRect (src dst : RgaBufferT) : ImRect :=
  { x := (dst.width - src.width).toInt, y := (dst.height - src.height).toInt
    width := src.width.toInt, height := src.height.toInt }

/-- The branch of a YUV source under `SRC` or `SRC_OVER`. -/
def flitYuvSrc (a : FlitAnswers) (src dst : RgaBufferT) (srect drect : ImRect) (scale : Bool)
    (usage : Int32) : Gfx Int32 := do
  if scale then
    return flitRet (← improcess a src dst .zero srect drect {} usage)
  if ¬ (← memsetS a 6) then return 0
  if ¬ (← memsetS a 7) then return 0
  return flitRet (← improcess a src dst .zero (wholeRect src) (cornerRect src dst) {} usage)

/-- `bRgbBuffer` for the temporary buffer. -/
def FlitAnswers.temp (a : FlitAnswers) (dst : RgaBufferT) : RgaBufferT :=
  { dst with
    fd := a.buffer.phyAddr.toUInt32.toInt32.toInt, format := .rgba8888, globalAlpha := 0 }

/-- The branch of a YUV source under `DST_OVER`. -/
def flitYuvDstOver (a : FlitAnswers) (src dst : RgaBufferT) (srect drect : ImRect)
    (usage : Int32) : Gfx Int32 := do
  if (← initGralloc a) ≠ displaySuccess then return displayFailure
  record (.allocMem a.allocMem a.buffer)
  let ret := a.allocMem
  if ret ≠ displaySuccess then return displayFailure
  let bRgbBuffer := a.temp dst
  record (.memcpy a.memcpy)
  let prect : ImRect := if a.memcpy then drect else {}
  -- a second `ret` is declared here, so the outer one keeps the status of `AllocMem`
  let inner ← improcess a src bRgbBuffer dst srect prect drect usage
  if inner = imStatusSuccess then
    let _ ← imcopy a bRgbBuffer dst
  record (.freeMem a.buffer)
  return flitRet ret

/-- The end of `doFlit`, where RGA is called. -/
def flitIssue (a : FlitAnswers) (isYuv : Bool) (src dst : RgaBufferT) (srect drect : ImRect)
    (opt : GfxOpt) : Gfx Int32 :=
  if isYuv then
    if opt.rkBlendType = imAlphaBlendSrcOver ∨ opt.rkBlendType = imAlphaBlendSrc then
      flitYuvSrc a src dst srect drect opt.enableScale (opt.rkTransform ||| imSync)
    else if opt.rkBlendType = imAlphaBlendDstOver then
      flitYuvDstOver a src dst srect drect opt.usage
    else
      -- no call is made, and `ret` is still 0
      return flitRet 0
  else do
    return flitRet (← improcess a src dst .zero srect drect {} opt.usage)

/-- `doFlit`. -/
def doFlit (a : FlitAnswers) (srcSurface : ISurface) (srcRect : IRect) (dstSurface : ISurface)
    (dstRect : IRect) (opt : GfxOpt) : Gfx Int32 := do
  -- `return false` is `DISPLAY_SUCCESS`
  if ¬ (← clearLocals a (List.range 6)) then return 0
  let isYuv := (colorSpaceModeChange dstSurface.enColorFmt false).2
  if isYuv then return displayParamErr
  let isYuv := (colorSpaceModeChange srcSurface.enColorFmt isYuv).2
  if srcSurface.fd = 0 then return displayParamErr
  if opt.rkBlendType = imStatusNotSupported then return displayNotSupport
  flitIssue a isYuv (srcSurface.rgaBuffer opt) (dstSurface.rgaBuffer opt) (flitRect srcRect)
    (flitRect dstRect) opt

/-- `rkBlit`; `none` is a null pointer. -/
def rkBlit (a : FlitAnswers) (srcSurface : Option ISurface) (srcRect : Option IRect)
    (dstSurface : Option ISurface) (dstRect : Option IRect) (opt : Option GfxOpt) : Gfx Int32 :=
  match srcSurface, srcRect, dstSurface, dstRect, opt with
  | some srcSurface, some srcRect, some dstSurface, some dstRect, some opt => do
      if (← doFlit a srcSurface srcRect dstSurface dstRect opt) < 0 then return displayFailure
      return displaySuccess
  | _, _, _, _, _ => return displayNullPtr

/-! ## `BlitLayer` -/

structure LayerAlpha where
  enGlobalAlpha : Bool := false
  gAlpha : UInt8 := 0
deriving DecidableEq, Repr

/-- The fields of a `HdiLayerBuffer` that `InitGfxSurface` reads. -/
structure HdiLayerBuffer where
  mWidth : Int32
  mHeight : Int32
  mStride : Int32
  mFormat : PixelFormat
  mFd : Int32
deriving DecidableEq, Repr

/-- The fields of a `HdiLayer` that `BlitLayer` reads. -/
structure HdiLayer where
  mHdiBuffer : Option HdiLayerBuffer := none
  mBlendType : BlendType := .none
  mAlpha : LayerAlpha := {}
  mTransformType : TransformType := .butt
  mCrop : IRect := {}
  mDisplayRect : IRect := {}
deriving DecidableEq, Repr

/-- `InitGfxSurface`. -/
def initGfxSurface (buffer : HdiLayerBuffer) : ISurface :=
  { width := buffer.mWidth
    height := buffer.mHeight
    phyAddr := buffer.mFd.toInt64.toUInt64
    enColorFmt := buffer.mFormat
    stride := buffer.mStride
    bAlphaExt1555 := true
    bAlphaMax255 := true
    alpha0 := 0xff
    alpha1 := 0xff }

/-- The options `BlitLayer` passes. The global alpha goes to the surface instead. -/
def layerOpt (src : HdiLayer) : GfxOpt :=
  { blendType := src.mBlendType, enPixelAlpha := true, enableScale := true
    enGlobalAlpha := src.mAlpha.enGlobalAlpha, rotateType := src.mTransformType }

/-- The source surface `BlitLayer` passes. -/
def layerSurface (src : HdiLayer) (buffer : HdiLayerBuffer) : ISurface :=
  let surface := initGfxSurface buffer
  if src.mAlpha.enGlobalAlpha then { surface with alpha0 := src.mAlpha.gAlpha } else surface

/-- `BlitLayer`; `mGfxFuncs` says whether the module is loaded. -/
def blitLayer (mGfxFuncs : Bool) (a : FlitAnswers) (src dst : HdiLayer) : Gfx Int32 :=
  match src.mHdiBuffer, dst.mHdiBuffer with
  | none, _ => return displayNullPtr
  | some _, none => return displayFailure
  | some srcBuffer, some dstBuffer =>
      if ¬ mGfxFuncs then return displayFailure
      else rkBlit a (layerSurface src srcBuffer) src.mCrop (initGfxSurface dstBuffer)
        src.mDisplayRect (layerOpt src)

/-! ## What a call did -/

/-- The calls made since `w`. -/
def issued (w w' : GfxWorld) : List GfxEvent := w'.log.drop w.log.length

namespace GfxEvent

def failed : GfxEvent → Bool
  | .memset ok | .memcpy ok => !ok
  | .grallocInitialize ret | .allocMem ret _ => decide (ret ≠ displaySuccess)
  | .freeMem _ => false
  | .rga _ ret => decide (ret ≠ imStatusSuccess)

/-- A call of RGA that writes the surface `dst`. -/
def writes (dst : ISurface) : GfxEvent → Bool
  | .rga call _ => decide (call.dst.fd = dst.fd.toInt)
  | _ => false

/-- A call of RGA that failed. -/
def rgaFailed : GfxEvent → Bool
  | .rga call ret => (GfxEvent.rga call ret).failed
  | _ => false

/-- The buffer a call obtained. -/
def obtained : GfxEvent → Option TempBuffer
  | .allocMem ret buffer => if ret = displaySuccess then some buffer else none
  | _ => none

/-- The buffer a call gave back. -/
def freed : GfxEvent → Option TempBuffer
  | .freeMem buffer => some buffer
  | _ => none

end GfxEvent

def ISurface.isYuv (s : ISurface) : Bool := (colorSpaceModeChange s.enColorFmt false).2

/-- The combinations that `doFlit` does not reject. -/
structure Accepted (src dst : ISurface) (opt : GfxOpt) : Prop where
  dst : dst.isYuv = false
  fd : src.fd ≠ 0
  blend : opt.blendType ∈ [.none, .src, .dst, .srcover, .dstover]

/-- Accepted surfaces are described as `flitBuffers` describes them. -/
theorem Accepted.flitBuffers {src dst : ISurface} {opt : GfxOpt} (h : Accepted src dst opt) :
    flitBuffers src.layout dst.layout =
      .ok ((src.rgaBuffer opt).toRgaBuffer, (dst.rgaBuffer opt).toRgaBuffer) := by
  have hdst : (colorSpaceModeChange dst.layout.enColorFmt false).2 = false := h.dst
  have hfd : src.layout.phyAddr ≠ 0 := fun he => h.fd (Int32.toInt_inj.1 he)
  unfold Common.flitBuffers
  rw [hdst, if_neg Bool.false_ne_true, if_neg hfd]
  rfl

/-- The destination was written and no call of RGA failed. -/
def Done (dst : ISurface) (log : List GfxEvent) : Prop :=
  (∃ e ∈ log, e.writes dst = true) ∧ ∀ e ∈ log, e.rgaFailed = false

/-- What is asked of a blit, of its status and its calls. -/
structure StatusLaw (src dst : ISurface) (opt : GfxOpt) (ret : Int32) (log : List GfxEvent) :
    Prop where
  status : ret = displaySuccess ↔ Done dst log
  issues : Accepted src dst opt →
    (∃ e ∈ log, e.failed = true) ∨ ∃ e ∈ log, e.writes dst = true
  released : log.filterMap GfxEvent.obtained = log.filterMap GfxEvent.freed

/-- Every call made for a YUV source under `DST_OVER` succeeds. -/
def FlitAnswers.DstOver (a : FlitAnswers) (grallocFucs : Bool) : Prop :=
  (grallocFucs = true ∨ a.grallocInitialize = displaySuccess) ∧ a.allocMem = displaySuccess ∧
    a.improcess = imStatusSuccess ∧ a.imcopy = imStatusSuccess

/-- The answers under which a blit that is not rejected serves a YUV source. -/
def FlitAnswers.ServesYuv (a : FlitAnswers) (grallocFucs : Bool) (opt : GfxOpt) : Prop :=
  match opt.blendType with
  | .src | .srcover => opt.enableScale = true ∨ (a.memset 6 = true ∧ a.memset 7 = true)
  | .dstover => ¬ a.DstOver grallocFucs
  | _ => False

/-- No `memset_s` fails, and a YUV source is blended with `SRC` or `SRC_OVER`, or with
`DST_OVER` while some call fails. -/
def FlitAnswers.Serves (a : FlitAnswers) (grallocFucs : Bool) (src dst : ISurface)
    (opt : GfxOpt) : Prop :=
  (∀ n ∈ List.range 6, a.memset n = true) ∧
    (Accepted src dst opt → src.isYuv = true → a.ServesYuv grallocFucs opt)

/-! ## The calls of each branch -/

section
variable {a : FlitAnswers} {w : GfxWorld}

/-- Where every `memset_s` succeeds, the locals are cleared. -/
theorem clearLocals_of_all {locals : List Nat} (h : ∀ n ∈ locals, a.memset n = true) :
    clearLocals a locals w =
      .ok true (w.logged (List.replicate locals.length (.memset true))) := by
  induction locals generalizing w with
  | nil =>
      unfold clearLocals GfxWorld.logged
      simp only [List.length_nil, List.replicate_zero, List.append_nil]
      rfl
  | cons n locals ih =>
      have hn := h n List.mem_cons_self
      have hrest := ih (w := w.logged [.memset true]) fun m hm => h m (List.mem_cons_of_mem n hm)
      unfold clearLocals memsetS record
      rw [hn]
      show clearLocals a locals (w.logged [.memset true]) = _
      rw [hrest, GfxWorld.logged_logged]
      rfl

/-- Where one fails, nothing else is called. -/
theorem clearLocals_of_not_all {locals : List Nat} (h : ¬ ∀ n ∈ locals, a.memset n = true) :
    ∃ es, clearLocals a locals w = .ok false (w.logged es) ∧ ∀ e ∈ es, ∃ ok, e = .memset ok := by
  induction locals generalizing w with
  | nil => exact absurd (by simp) h
  | cons n locals ih =>
      by_cases hn : a.memset n = true
      · have hrest : ¬ ∀ m ∈ locals, a.memset m = true := fun hall =>
          h (List.forall_mem_cons.2 ⟨hn, hall⟩)
        obtain ⟨es, hes, hmem⟩ := ih (w := w.logged [.memset true]) hrest
        refine ⟨.memset true :: es, ?_, ?_⟩
        · unfold clearLocals memsetS record
          rw [hn]
          show clearLocals a locals (w.logged [.memset true]) = _
          rw [hes, GfxWorld.logged_logged]
          rfl
        · exact List.forall_mem_cons.2 ⟨⟨true, rfl⟩, hmem⟩
      · have hf : a.memset n = false := by simpa using hn
        refine ⟨[.memset false], ?_, by simp⟩
        unfold clearLocals memsetS record
        rw [hf]
        rfl

variable {src dst : ISurface} {srcRect dstRect : IRect} {opt : GfxOpt}

theorem doFlit_not_cleared (h : ¬ ∀ n ∈ List.range 6, a.memset n = true) :
    ∃ es, doFlit a src srcRect dst dstRect opt w = .ok 0 (w.logged es) ∧
      ∀ e ∈ es, ∃ ok, e = .memset ok := by
  obtain ⟨es, hes, hmem⟩ := clearLocals_of_not_all (w := w) h
  refine ⟨es, ?_, hmem⟩
  unfold doFlit
  rw [bind_of_ok hes]
  rfl

/-- The world once the locals are cleared. -/
def GfxWorld.cleared (w : GfxWorld) : GfxWorld := w.logged (List.replicate 6 (.memset true))

theorem rkBlendType_supported :
    opt.rkBlendType ≠ imStatusNotSupported ↔
      opt.blendType ∈ [.none, .src, .dst, .srcover, .dstover] := by
  unfold GfxOpt.rkBlendType
  cases opt.blendType <;> decide

/-- A combination is rejected with a negative code. -/
theorem doFlit_rejected (h : ∀ n ∈ List.range 6, a.memset n = true)
    (hacc : ¬ Accepted src dst opt) :
    ∃ ret, doFlit a src srcRect dst dstRect opt w = .ok ret w.cleared ∧ ret < 0 := by
  unfold doFlit
  rw [bind_of_ok (clearLocals_of_all h)]
  simp only [not_true_eq_false, if_false]
  by_cases hdst : (colorSpaceModeChange dst.enColorFmt false).2 = true
  · rw [if_pos hdst]
    exact ⟨displayParamErr, rfl, by decide⟩
  rw [if_neg hdst]
  by_cases hfd : src.fd = 0
  · rw [if_pos hfd]
    exact ⟨displayParamErr, rfl, by decide⟩
  rw [if_neg hfd]
  by_cases hblend : opt.rkBlendType = imStatusNotSupported
  · rw [if_pos hblend]
    exact ⟨displayNotSupport, rfl, by decide⟩
  · exact absurd ⟨Bool.eq_false_iff.2 hdst, hfd, rkBlendType_supported.1 hblend⟩ hacc

theorem doFlit_accepted (h : ∀ n ∈ List.range 6, a.memset n = true)
    (hacc : Accepted src dst opt) :
    doFlit a src srcRect dst dstRect opt w =
      flitIssue a src.isYuv (src.rgaBuffer opt) (dst.rgaBuffer opt) (flitRect srcRect)
        (flitRect dstRect) opt w.cleared := by
  have hdst : (colorSpaceModeChange dst.enColorFmt false).2 = false := hacc.dst
  unfold doFlit
  rw [bind_of_ok (clearLocals_of_all h)]
  simp only [not_true_eq_false, if_false, hdst, Bool.false_eq_true]
  rw [if_neg hacc.fd, if_neg (rkBlendType_supported.2 hacc.blend)]
  rfl

theorem rkBlendType_src (h : opt.blendType ∈ [.src, .srcover]) :
    opt.rkBlendType = imAlphaBlendSrcOver ∨ opt.rkBlendType = imAlphaBlendSrc := by
  unfold GfxOpt.rkBlendType
  simp only [List.mem_cons, List.not_mem_nil, or_false] at h
  rcases h with hb | hb
  · exact Or.inr (by rw [hb]; rfl)
  · exact Or.inl (by rw [hb]; rfl)

section
variable {srcBuf dstBuf : RgaBufferT} {srect drect : ImRect}

/-- An RGB source takes one call. -/
theorem flitIssue_rgb :
    flitIssue a false srcBuf dstBuf srect drect opt w =
      .ok (flitRet a.improcess) (w.logged [.rga
        (.improcess srcBuf dstBuf .zero srect drect {} opt.usage) a.improcess]) := rfl

/-- So does a YUV source that is scaled under `SRC` or `SRC_OVER`. -/
theorem flitIssue_scaled (hblend : opt.blendType ∈ [.src, .srcover])
    (hscale : opt.enableScale = true) :
    flitIssue a true srcBuf dstBuf srect drect opt w =
      .ok (flitRet a.improcess) (w.logged [.rga (.improcess srcBuf dstBuf .zero srect drect {}
        (opt.rkTransform ||| imSync)) a.improcess]) := by
  unfold flitIssue flitYuvSrc
  rw [if_pos rfl, if_pos (rkBlendType_src hblend), if_pos hscale]
  rfl

/-- A YUV source that is not scaled under `SRC` or `SRC_OVER`, once its rectangles are
cleared. -/
theorem flitIssue_unscaled (hblend : opt.blendType ∈ [.src, .srcover])
    (hscale : opt.enableScale = false) (h6 : a.memset 6 = true) (h7 : a.memset 7 = true) :
    flitIssue a true srcBuf dstBuf srect drect opt w =
      .ok (flitRet a.improcess) (w.logged [.memset true, .memset true,
        .rga (.improcess srcBuf dstBuf .zero (wholeRect srcBuf) (cornerRect srcBuf dstBuf) {}
          (opt.rkTransform ||| imSync)) a.improcess]) := by
  unfold flitIssue flitYuvSrc memsetS
  rw [if_pos rfl, if_pos (rkBlendType_src hblend), if_neg (by rw [hscale]; decide), h6, h7]
  show EStateM.Result.ok _ (((w.logged _).logged _).logged _) = _
  rw [GfxWorld.logged_logged, GfxWorld.logged_logged]
  rfl

/-- Where one of them cannot be cleared, nothing is called. -/
theorem flitIssue_not_cleared (hblend : opt.blendType ∈ [.src, .srcover])
    (hscale : opt.enableScale = false) (h : ¬ (a.memset 6 = true ∧ a.memset 7 = true)) :
    ∃ es, flitIssue a true srcBuf dstBuf srect drect opt w = .ok 0 (w.logged es) ∧
      ∀ e ∈ es, ∃ ok, e = .memset ok := by
  unfold flitIssue flitYuvSrc memsetS
  rw [if_pos rfl, if_pos (rkBlendType_src hblend), if_neg (by rw [hscale]; decide)]
  by_cases h6 : a.memset 6 = true
  · have h7 : a.memset 7 = false := Bool.eq_false_iff.2 fun h7 => h ⟨h6, h7⟩
    refine ⟨[.memset true, .memset false], ?_, by simp⟩
    rw [h6, h7]
    show EStateM.Result.ok _ ((w.logged _).logged _) = _
    rw [GfxWorld.logged_logged]
    rfl
  · refine ⟨[.memset false], ?_, by simp⟩
    rw [Bool.eq_false_iff.2 h6]
    rfl

/-- Without blending, or under `DST`, nothing is called for a YUV source. -/
theorem flitIssue_none (hblend : opt.blendType ∉ [.src, .srcover, .dstover])
    (hacc : opt.rkBlendType ≠ imStatusNotSupported) :
    flitIssue a true srcBuf dstBuf srect drect opt w = .ok displayFailure w := by
  have htype : opt.rkBlendType ≠ imAlphaBlendSrcOver ∧ opt.rkBlendType ≠ imAlphaBlendSrc ∧
      opt.rkBlendType ≠ imAlphaBlendDstOver := by
    revert hblend hacc
    unfold GfxOpt.rkBlendType
    cases opt.blendType <;> decide
  unfold flitIssue
  rw [if_pos rfl, if_neg (not_or.2 ⟨htype.1, htype.2.1⟩), if_neg htype.2.2]
  rfl

theorem flitIssue_dstOver (hblend : opt.blendType = .dstover) :
    flitIssue a true srcBuf dstBuf srect drect opt w =
      flitYuvDstOver a srcBuf dstBuf srect drect opt.usage w := by
  have htype : opt.rkBlendType = imAlphaBlendDstOver := by
    unfold GfxOpt.rkBlendType
    rw [hblend]
    rfl
  unfold flitIssue
  rw [htype]
  rfl

end

/-! ## A YUV source under `DST_OVER` -/

/-- An event that says nothing of the destination, of a failure or of a buffer. -/
structure GfxEvent.Plain (e : GfxEvent) : Prop where
  failed : e.failed = false
  rga : ∀ call ret, e ≠ .rga call ret
  obtained : e.obtained = none
  freed : e.freed = none

theorem plain_memset : (GfxEvent.memset true).Plain := ⟨rfl, by simp, rfl, rfl⟩

theorem plain_grallocInitialize : (GfxEvent.grallocInitialize displaySuccess).Plain :=
  ⟨rfl, by simp, rfl, rfl⟩

/-- `grallocFucs` is set. -/
def GfxWorld.ready (w : GfxWorld) : GfxWorld := { w with grallocFucs := true }

theorem initGralloc_ready (h : w.grallocFucs = true ∨ a.grallocInitialize = displaySuccess) :
    ∃ es, initGralloc a w = .ok displaySuccess (w.ready.logged es) ∧ ∀ e ∈ es, e.Plain := by
  unfold initGralloc
  rw [get_bind]
  by_cases hset : w.grallocFucs = true
  · refine ⟨[], ?_, by simp⟩
    rw [if_pos hset]
    show EStateM.Result.ok _ w = _
    unfold GfxWorld.ready GfxWorld.logged
    rw [List.append_nil, ← hset]
  · have hinit := h.resolve_left hset
    refine ⟨[.grallocInitialize displaySuccess], ?_, ?_⟩
    · rw [if_neg hset, hinit]
      rfl
    · simpa using plain_grallocInitialize

theorem initGralloc_failed (h : ¬ (w.grallocFucs = true ∨ a.grallocInitialize = displaySuccess)) :
    initGralloc a w =
      .ok a.grallocInitialize (w.logged [.grallocInitialize a.grallocInitialize]) := by
  rw [not_or] at h
  unfold initGralloc
  rw [get_bind, if_neg h.1, bind_of_ok (record_ok _ w), if_neg h.2]
  rfl

section
variable {srcBuf dstBuf : RgaBufferT} {srect drect : ImRect} {usage : Int32}

/-- The calls from the copy of the rectangle on. -/
def FlitAnswers.tempCalls (a : FlitAnswers) (src dst : RgaBufferT) (srect drect : ImRect)
    (usage : Int32) : List GfxEvent :=
  [.memcpy a.memcpy, .rga (.improcess src (a.temp dst) dst srect (if a.memcpy then drect else {})
      drect usage) a.improcess] ++
    (if a.improcess = imStatusSuccess then [.rga (.imcopy (a.temp dst) dst) a.imcopy] else []) ++
    [.freeMem a.buffer]

theorem flitYuvDstOver_uninit
    (h : ¬ (w.grallocFucs = true ∨ a.grallocInitialize = displaySuccess)) :
    flitYuvDstOver a srcBuf dstBuf srect drect usage w =
      .ok displayFailure (w.logged [.grallocInitialize a.grallocInitialize]) := by
  unfold flitYuvDstOver
  rw [bind_of_ok (initGralloc_failed h), if_pos fun he => h (Or.inr he)]
  rfl

/-- The branch fails whatever RGA answers. -/
theorem flitYuvDstOver_ready
    (h : w.grallocFucs = true ∨ a.grallocInitialize = displaySuccess) :
    ∃ es, (∀ e ∈ es, e.Plain) ∧ flitYuvDstOver a srcBuf dstBuf srect drect usage w =
      .ok displayFailure (w.ready.logged (es ++ .allocMem a.allocMem a.buffer ::
        if a.allocMem = displaySuccess then a.tempCalls srcBuf dstBuf srect drect usage
        else [])) := by
  obtain ⟨es, hes, hplain⟩ := initGralloc_ready h
  refine ⟨es, hplain, ?_⟩
  unfold flitYuvDstOver
  rw [bind_of_ok hes, if_neg (not_not.2 rfl), bind_of_ok (record_ok _ _),
    GfxWorld.logged_logged]
  by_cases halloc : a.allocMem = displaySuccess
  · rw [if_neg (not_not.2 halloc), if_pos halloc, bind_of_ok (record_ok _ _),
      GfxWorld.logged_logged]
    rw [bind_of_ok (improcess_ok ..), GfxWorld.logged_logged, halloc]
    unfold FlitAnswers.tempCalls
    by_cases hret : a.improcess = imStatusSuccess
    · rw [if_pos hret, if_pos hret, bind_of_ok (imcopy_ok ..)]
      dsimp only
      rw [bind_of_ok (record_ok _ _), GfxWorld.logged_logged, GfxWorld.logged_logged]
      simp only [List.append_assoc]
      rfl
    · rw [if_neg hret, if_neg hret]
      dsimp only
      rw [bind_of_ok (record_ok _ _), GfxWorld.logged_logged]
      simp only [List.append_assoc]
      rfl
  · rw [if_pos halloc, if_neg halloc]
    rfl

end

end

/-! ## The status of a blit -/

section
variable {a : FlitAnswers} {w : GfxWorld} {src dst : ISurface} {opt : GfxOpt} {ret : Int32}
  {log : List GfxEvent}

theorem issued_logged (w : GfxWorld) (es : List GfxEvent) : issued w (w.logged es) = es :=
  List.drop_left

theorem GfxEvent.Plain.writes {e : GfxEvent} (h : e.Plain) : e.writes dst = false := by
  cases e with
  | rga call ret => exact absurd rfl (h.rga call ret)
  | _ => rfl

theorem GfxEvent.Plain.rgaFailed {e : GfxEvent} (h : e.Plain) : e.rgaFailed = false := by
  cases e with
  | rga call ret => exact absurd rfl (h.rga call ret)
  | _ => rfl

/-- Plain events do not count. -/
theorem statusLaw_append {es : List GfxEvent} (h : ∀ e ∈ es, e.Plain) :
    StatusLaw src dst opt ret (es ++ log) ↔ StatusLaw src dst opt ret log := by
  induction es with
  | nil => rfl
  | cons e es ih =>
      obtain ⟨he, hes⟩ := List.forall_mem_cons.1 h
      rw [← ih hes]
      have hdone : Done dst (e :: es ++ log) ↔ Done dst (es ++ log) := by
        unfold Done
        simp [he.writes, he.rgaFailed]
      constructor
      · rintro ⟨hstatus, hissues, hreleased⟩
        refine ⟨hstatus.trans hdone, ?_, ?_⟩
        · simpa [he.writes, he.failed] using hissues
        · simpa [he.obtained, he.freed] using hreleased
      · rintro ⟨hstatus, hissues, hreleased⟩
        refine ⟨hstatus.trans hdone.symm, ?_, ?_⟩
        · simpa [he.writes, he.failed] using hissues
        · simpa [he.obtained, he.freed] using hreleased

/-- A success is not to be told without a call of RGA. -/
theorem not_statusLaw_memsets {es : List GfxEvent} (h : ∀ e ∈ es, ∃ ok, e = .memset ok) :
    ¬ StatusLaw src dst opt displaySuccess es := by
  rintro ⟨hstatus, -, -⟩
  obtain ⟨⟨e, he, hw⟩, -⟩ := hstatus.1 rfl
  obtain ⟨ok, rfl⟩ := h e he
  exact absurd hw (by simp [GfxEvent.writes])

/-- How `rkBlit` reads the status of `doFlit`. -/
def blitRet (ret : Int32) : Int32 := if ret < 0 then displayFailure else displaySuccess

theorem post_rkBlit {srcRect dstRect : IRect} {Q : Int32 → GfxWorld → Prop}
    {E : Empty → GfxWorld → Prop} :
    Post (rkBlit a src srcRect dst dstRect opt) w Q E ↔
      Post (doFlit a src srcRect dst dstRect opt) w (fun ret w' => Q (blitRet ret) w') E := by
  show Post (doFlit a src srcRect dst dstRect opt >>= _) w Q E ↔ _
  rw [post_bind]
  have hret : ∀ ret w', Post (if ret < 0 then pure displayFailure else pure displaySuccess : Gfx _)
      w' Q E ↔ Q (blitRet ret) w' := by
    intro ret w'
    unfold blitRet
    split <;> rfl
  simp only [hret]

theorem blitRet_flitRet (ret : Int32) : blitRet (flitRet ret) = flitRet ret := by
  unfold flitRet
  split <;> rfl

theorem flitRet_eq_success : flitRet ret = displaySuccess ↔ ret = imStatusSuccess := by
  unfold flitRet
  split
  · next h => exact ⟨fun he => absurd he (by decide), fun he => absurd he h⟩
  · next h => exact ⟨fun _ => not_not.1 h, fun _ => rfl⟩

/-- One call that writes the destination tells its status. -/
theorem statusLaw_call {call : RgaCall} (h : call.dst = dst.rgaBuffer opt) :
    StatusLaw src dst opt (flitRet ret) [.rga call ret] := by
  have hfd : call.dst.fd = dst.fd.toInt := by
    rw [h]
    rfl
  refine ⟨?_, fun _ => Or.inr (by simp [GfxEvent.writes, hfd]), rfl⟩
  rw [flitRet_eq_success]
  unfold Done
  simp [GfxEvent.writes, GfxEvent.rgaFailed, GfxEvent.failed, hfd]

/-- So does a failure that comes with a call that failed and none of RGA. -/
theorem statusLaw_failed {e : GfxEvent} (hfailed : e.failed = true)
    (hrga : ∀ call ret, e ≠ .rga call ret) (hobtained : e.obtained = none)
    (hfreed : e.freed = none) : StatusLaw src dst opt displayFailure [e] := by
  refine ⟨⟨fun he => absurd he (by decide), ?_⟩, fun _ => Or.inl (by simp [hfailed]), ?_⟩
  · rintro ⟨⟨e', he', hw⟩, -⟩
    rw [List.mem_singleton.1 he'] at hw
    cases e with
    | rga call ret => exact absurd rfl (hrga call ret)
    | _ => exact absurd hw (by simp [GfxEvent.writes])
  · simp [hobtained, hfreed]

/-- With the temporary buffer at hand the status is right when a call of RGA fails, and
the buffer is freed either way. -/
theorem statusLaw_tempCalls {srcBuf : RgaBufferT} {srect drect : ImRect} {usage : Int32} :
    StatusLaw src dst opt displayFailure (.allocMem displaySuccess a.buffer ::
        a.tempCalls srcBuf (dst.rgaBuffer opt) srect drect usage) ↔
      ¬ (a.improcess = imStatusSuccess ∧ a.imcopy = imStatusSuccess) := by
  have hfd : (dst.rgaBuffer opt).fd = dst.fd.toInt := rfl
  unfold FlitAnswers.tempCalls
  constructor
  · rintro ⟨hstatus, -, -⟩ ⟨hproc, hcopy⟩
    refine absurd (hstatus.2 ?_) (by decide)
    rw [if_pos hproc]
    unfold Done
    simp [GfxEvent.writes, GfxEvent.rgaFailed, GfxEvent.failed, RgaCall.dst, hproc, hcopy, hfd]
  · intro hfail
    by_cases hproc : a.improcess = imStatusSuccess
    · have hcopy : a.imcopy ≠ imStatusSuccess := fun hcopy => hfail ⟨hproc, hcopy⟩
      rw [if_pos hproc]
      refine ⟨⟨fun he => absurd he (by decide), ?_⟩, fun _ => Or.inl (by simp [GfxEvent.failed, hcopy]), ?_⟩
      · rintro ⟨-, hok⟩
        simp [GfxEvent.rgaFailed, GfxEvent.failed, hcopy] at hok
      · simp [List.filterMap_cons, GfxEvent.obtained, GfxEvent.freed]
    · rw [if_neg hproc]
      refine ⟨⟨fun he => absurd he (by decide), ?_⟩, fun _ => Or.inl (by simp [GfxEvent.failed, hproc]), ?_⟩
      · rintro ⟨-, hok⟩
        simp [GfxEvent.rgaFailed, GfxEvent.failed, hproc] at hok
      · simp [List.filterMap_cons, GfxEvent.obtained, GfxEvent.freed]

/-- A combination that is accepted and not served breaks the law. -/
theorem not_statusLaw_plain {pre : List GfxEvent} (hpre : ∀ e ∈ pre, e.Plain)
    (hacc : Accepted src dst opt) : ¬ StatusLaw src dst opt ret pre := by
  rw [← List.append_nil pre, statusLaw_append hpre]
  rintro ⟨-, hissues, -⟩
  simpa using hissues hacc

theorem statusLaw_rejected {pre : List GfxEvent} (hpre : ∀ e ∈ pre, e.Plain)
    (hacc : ¬ Accepted src dst opt) : StatusLaw src dst opt displayFailure pre := by
  rw [← List.append_nil pre, statusLaw_append hpre]
  refine ⟨⟨fun he => absurd he (by decide), ?_⟩, fun h => absurd h hacc, rfl⟩
  rintro ⟨⟨e, he, -⟩, -⟩
  exact absurd he List.not_mem_nil

/-! ## When the status is faithful -/

theorem issued_ready (w : GfxWorld) (pre es : List GfxEvent) :
    issued w ((w.logged pre).ready.logged es) = pre ++ es := by
  show ((w.log ++ pre) ++ es).drop w.log.length = _
  rw [List.append_assoc, List.drop_left]

/-- The branch of `DST_OVER` obeys the law exactly when one of its calls fails. -/
theorem dstOver_law_iff {srcBuf : RgaBufferT} {srect drect : ImRect} {usage : Int32}
    {pre : List GfxEvent} (hpre : ∀ e ∈ pre, e.Plain) :
    Post (flitYuvDstOver a srcBuf (dst.rgaBuffer opt) srect drect usage) (w.logged pre)
        (fun ret w' => StatusLaw src dst opt (blitRet ret) (issued w w')) (fun _ _ => False) ↔
      ¬ a.DstOver w.grallocFucs := by
  by_cases hinit : (w.logged pre).grallocFucs = true ∨ a.grallocInitialize = displaySuccess
  · obtain ⟨es, hplain, hrun⟩ := @flitYuvDstOver_ready a (w.logged pre) srcBuf
      (dst.rgaBuffer opt) srect drect usage hinit
    rw [post_iff_of_ok hrun, issued_ready, statusLaw_append hpre, statusLaw_append hplain]
    by_cases halloc : a.allocMem = displaySuccess
    · rw [if_pos halloc, halloc]
      refine statusLaw_tempCalls.trans (not_congr ?_)
      exact ⟨fun h => ⟨hinit, halloc, h⟩, fun h => h.2.2⟩
    · rw [if_neg halloc]
      refine iff_of_true (statusLaw_failed (decide_eq_true halloc) (by simp) ?_ rfl) ?_
      · exact if_neg halloc
      · exact fun h => halloc h.2.1
  · rw [post_iff_of_ok (flitYuvDstOver_uninit hinit), GfxWorld.logged_logged, issued_logged,
      statusLaw_append hpre]
    refine iff_of_true (statusLaw_failed (decide_eq_true ?_) (by simp) rfl rfl) ?_
    · exact fun he => hinit (Or.inr he)
    · exact fun h => hinit h.1

theorem servesYuv_src {grallocFucs : Bool} (h : opt.blendType ∈ [.src, .srcover]) :
    a.ServesYuv grallocFucs opt ↔
      opt.enableScale = true ∨ (a.memset 6 = true ∧ a.memset 7 = true) := by
  unfold FlitAnswers.ServesYuv
  simp only [List.mem_cons, List.not_mem_nil, or_false] at h
  rcases h with hb | hb
  · rw [hb]
  · rw [hb]

theorem not_servesYuv {grallocFucs : Bool} (hsrc : opt.blendType ∉ [.src, .srcover])
    (hdst : opt.blendType ≠ .dstover) : ¬ a.ServesYuv grallocFucs opt := by
  unfold FlitAnswers.ServesYuv
  cases hb : opt.blendType with
  | src => exact absurd (by simp [hb]) hsrc
  | srcover => exact absurd (by simp [hb]) hsrc
  | dstover => exact absurd hb hdst
  | _ => exact not_false

/-- The branches of a YUV source obey the law exactly on the condition. -/
theorem yuv_law_iff {srcBuf : RgaBufferT} {srect drect : ImRect} (hacc : Accepted src dst opt)
    {pre : List GfxEvent} (hpre : ∀ e ∈ pre, e.Plain) :
    Post (flitIssue a true srcBuf (dst.rgaBuffer opt) srect drect opt) (w.logged pre)
        (fun ret w' => StatusLaw src dst opt (blitRet ret) (issued w w')) (fun _ _ => False) ↔
      a.ServesYuv w.grallocFucs opt := by
  by_cases hsrc : opt.blendType ∈ [.src, .srcover]
  · rw [servesYuv_src hsrc]
    by_cases hscale : opt.enableScale = true
    · rw [post_iff_of_ok (flitIssue_scaled hsrc hscale), GfxWorld.logged_logged, issued_logged,
        statusLaw_append hpre, blitRet_flitRet]
      exact iff_of_true (statusLaw_call rfl) (Or.inl hscale)
    · have hscale' : opt.enableScale = false := Bool.eq_false_iff.2 hscale
      by_cases hset : a.memset 6 = true ∧ a.memset 7 = true
      · rw [post_iff_of_ok (flitIssue_unscaled hsrc hscale' hset.1 hset.2),
          GfxWorld.logged_logged, issued_logged, statusLaw_append hpre, blitRet_flitRet]
        have hcleared : ∀ e ∈ [GfxEvent.memset true, .memset true], e.Plain := by
          simpa using plain_memset
        refine iff_of_true ?_ (Or.inr hset)
        exact (statusLaw_append hcleared).2 (statusLaw_call rfl)
      · obtain ⟨es, hrun, hes⟩ := @flitIssue_not_cleared a (w.logged pre) opt srcBuf
          (dst.rgaBuffer opt) srect drect hsrc hscale' hset
        rw [post_iff_of_ok hrun, GfxWorld.logged_logged, issued_logged, statusLaw_append hpre]
        refine iff_of_false (not_statusLaw_memsets hes) ?_
        exact fun h => h.elim hscale hset
  · by_cases hdst : opt.blendType = .dstover
    · have hrun := @flitIssue_dstOver a (w.logged pre) opt srcBuf (dst.rgaBuffer opt) srect drect
        hdst
      have hserves : a.ServesYuv w.grallocFucs opt ↔ ¬ a.DstOver w.grallocFucs := by
        unfold FlitAnswers.ServesYuv
        rw [hdst]
      rw [hserves, ← dstOver_law_iff hpre]
      unfold Post
      rw [hrun]
    · have hnone : opt.blendType ∉ [.src, .srcover, .dstover] := by
        simp only [List.mem_cons, List.not_mem_nil, or_false, not_or] at hsrc ⊢
        exact ⟨hsrc.1, hsrc.2, hdst⟩
      rw [post_iff_of_ok (flitIssue_none hnone (rkBlendType_supported.2 hacc.blend)),
        issued_logged]
      exact iff_of_false (not_statusLaw_plain hpre hacc) (not_servesYuv hsrc hdst)

theorem plain_cleared : ∀ e ∈ List.replicate 6 (GfxEvent.memset true), e.Plain := by
  intro e he
  rw [List.eq_of_mem_replicate he]
  exact plain_memset

theorem post_doFlit_accepted {srcRect dstRect : IRect}
    (hset : ∀ n ∈ List.range 6, a.memset n = true) (hacc : Accepted src dst opt)
    {Q : Int32 → GfxWorld → Prop} {E : Empty → GfxWorld → Prop} :
    Post (doFlit a src srcRect dst dstRect opt) w Q E ↔
      Post (flitIssue a src.isYuv (src.rgaBuffer opt) (dst.rgaBuffer opt) (flitRect srcRect)
        (flitRect dstRect) opt) (w.logged (List.replicate 6 (.memset true))) Q E := by
  unfold Post
  rw [doFlit_accepted hset hacc]
  rfl

/-- **The status of a blit is faithful exactly on the condition.** -/
theorem flitStatus_iff (a : FlitAnswers) (w : GfxWorld) (src dst : ISurface)
    (srcRect dstRect : IRect) (opt : GfxOpt) :
    Post (rkBlit a src srcRect dst dstRect opt) w
        (fun ret w' => StatusLaw src dst opt ret (issued w w')) (fun _ _ => False) ↔
      a.Serves w.grallocFucs src dst opt := by
  rw [post_rkBlit]
  by_cases hset : ∀ n ∈ List.range 6, a.memset n = true
  · by_cases hacc : Accepted src dst opt
    · rw [post_doFlit_accepted hset hacc]
      by_cases hyuv : src.isYuv = true
      · rw [hyuv]
        refine (yuv_law_iff hacc plain_cleared).trans ?_
        exact ⟨fun h => ⟨hset, fun _ _ => h⟩, fun h => h.2 hacc hyuv⟩
      · rw [Bool.eq_false_iff.2 hyuv, post_iff_of_ok flitIssue_rgb, GfxWorld.logged_logged,
          issued_logged, statusLaw_append plain_cleared, blitRet_flitRet]
        exact iff_of_true (statusLaw_call rfl) ⟨hset, fun _ h => absurd h hyuv⟩
    · obtain ⟨ret, hrun, hneg⟩ := @doFlit_rejected a w src dst srcRect dstRect opt hset hacc
      have hret : blitRet ret = displayFailure := if_pos hneg
      rw [post_iff_of_ok hrun, GfxWorld.cleared, issued_logged, hret]
      exact iff_of_true (statusLaw_rejected plain_cleared hacc) ⟨hset, fun h => absurd h hacc⟩
  · obtain ⟨es, hrun, hes⟩ := @doFlit_not_cleared a w src dst srcRect dstRect opt hset
    rw [post_iff_of_ok hrun, issued_logged]
    exact iff_of_false (not_statusLaw_memsets hes) fun h => hset h.1

end

instance (dst : ISurface) (log : List GfxEvent) : Decidable (Done dst log) :=
  inferInstanceAs (Decidable ((∃ e ∈ log, _ = true) ∧ ∀ e ∈ log, _ = false))

/-- Every call succeeds. -/
def allSucceed : FlitAnswers := ⟨fun _ => true, true, 0, 0, ⟨9⟩, 1, 1⟩

/-- **A blit under `DST_OVER` that succeeds is reported as a failure.** -/
theorem flitStatus_dstOver :
    ¬ Post (rkBlit allSucceed (some { phyAddr := 5, enColorFmt := .ycbcr420Sp }) (some {})
        (some { phyAddr := 6, enColorFmt := .rgba8888 }) (some {})
        (some { blendType := .dstover })) {}
      (fun ret w' => StatusLaw { phyAddr := 5, enColorFmt := .ycbcr420Sp }
        { phyAddr := 6, enColorFmt := .rgba8888 } { blendType := .dstover } ret (issued {} w'))
      (fun _ _ => False) := by
  intro hlaw
  have hdone : returns (rkBlit allSucceed (some { phyAddr := 5, enColorFmt := .ycbcr420Sp })
      (some {}) (some { phyAddr := 6, enColorFmt := .rgba8888 }) (some {})
      (some { blendType := .dstover })) {} (fun ret w' => decide (ret ≠ displaySuccess ∧
        Done { phyAddr := 6, enColorFmt := .rgba8888 } (issued {} w'))) = true := by
    decide +kernel
  obtain ⟨ret, w', hrun, htest⟩ := returns_iff.1 hdone
  obtain ⟨hret, hlog⟩ := of_decide_eq_true htest
  exact hret ((hlaw.of_ok hrun).status.2 hlog)

/-! ## What RGA is given -/

/-- A rectangle as RGA should be given it. -/
def imRect (rect : IRect) : ImRect := ⟨rect.x, rect.y, rect.w, rect.h⟩

/-- What is asked of a call for the layer `src`: `improcess` gets its crop, its display
rectangle and its global alpha. -/
def FidelityLaw (src : HdiLayer) : GfxEvent → Prop
  | .rga (.improcess srcBuf _ _ srect drect _ _) _ =>
      srect = imRect src.mCrop ∧ drect = imRect src.mDisplayRect ∧
        (src.mAlpha.enGlobalAlpha = true → srcBuf.globalAlpha.toInt = src.mAlpha.gAlpha.toNat)
  | _ => True

instance (src : HdiLayer) : (e : GfxEvent) → Decidable (FidelityLaw src e)
  | .rga (.improcess ..) _ => inferInstanceAs (Decidable (_ ∧ _ ∧ _))
  | .rga (.imcopy ..) _ | .memset _ | .memcpy _ | .grallocInitialize _ | .allocMem _ _
  | .freeMem _ => inferInstanceAs (Decidable True)

/-- `doFlit` comes to `improcess`, for options that ask for scaling. -/
structure FlitAnswers.Reaches (a : FlitAnswers) (grallocFucs : Bool) (src dst : ISurface)
    (opt : GfxOpt) : Prop where
  cleared : ∀ n ∈ List.range 6, a.memset n = true
  accepted : Accepted src dst opt
  yuv : src.isYuv = true → opt.blendType ∈ [.src, .srcover] ∨
    (opt.blendType = .dstover ∧ (grallocFucs = true ∨ a.grallocInitialize = displaySuccess) ∧
      a.allocMem = displaySuccess)

/-- No coordinate is 1 and no global alpha but 0 is asked for. The copy of the display
rectangle succeeds where one is made. -/
structure FlitAnswers.Exact (a : FlitAnswers) (src : HdiLayer) (isYuv : Bool) : Prop where
  crop : src.mCrop.x ≠ 1 ∧ src.mCrop.y ≠ 1
  displayRect : src.mDisplayRect.x ≠ 1 ∧ src.mDisplayRect.y ≠ 1
  alpha : src.mAlpha.enGlobalAlpha = true → src.mAlpha.gAlpha = 0
  copied : isYuv = true → src.mBlendType = .dstover →
    a.memcpy = true ∨ src.mDisplayRect = {}

section
variable {a : FlitAnswers} {w : GfxWorld} {src : HdiLayer}

theorem flitRect_eq_iff {rect : IRect} : flitRect rect = imRect rect ↔ rect.x ≠ 1 ∧ rect.y ≠ 1 := by
  unfold flitRect imRect
  simp only [ImRect.mk.injEq, and_true]
  refine and_congr ?_ ?_
  · split <;> omega
  · split <;> omega

theorem fidelity_of_not_rga {e : GfxEvent} (h : ∀ call ret, e ≠ .rga call ret) :
    FidelityLaw src e := by
  cases e with
  | rga call ret => exact absurd rfl (h call ret)
  | _ => trivial

/-- The global alpha never reaches the options. -/
theorem layerOpt_alpha (surface : ISurface) :
    (surface.rgaBuffer (layerOpt src)).globalAlpha = 0 := by
  unfold ISurface.rgaBuffer layerOpt
  dsimp only
  split <;> rfl

theorem alpha_iff :
    (src.mAlpha.enGlobalAlpha = true → (0 : Int32).toInt = src.mAlpha.gAlpha.toNat) ↔
      (src.mAlpha.enGlobalAlpha = true → src.mAlpha.gAlpha = 0) := by
  refine imp_congr_right fun _ => ?_
  rw [← UInt8.toNat_inj]
  constructor
  · intro h
    exact (Int.ofNat.inj h).symm
  · intro h
    rw [h]
    rfl

theorem fidelity_append {pre log : List GfxEvent} (hpre : ∀ e ∈ pre, e.Plain) :
    (∀ e ∈ pre ++ log, FidelityLaw src e) ↔ ∀ e ∈ log, FidelityLaw src e := by
  rw [List.forall_mem_append]
  exact and_iff_right fun e he => fidelity_of_not_rga (hpre e he).rga

/-- A call with the rectangles that `doFlit` copied. -/
theorem fidelity_call {surface : ISurface} {dstBuf pat : RgaBufferT} {prect : ImRect}
    {usage ret : Int32} :
    FidelityLaw src (.rga (.improcess (surface.rgaBuffer (layerOpt src)) dstBuf pat
        (flitRect src.mCrop) (flitRect src.mDisplayRect) prect usage) ret) ↔
      (src.mCrop.x ≠ 1 ∧ src.mCrop.y ≠ 1) ∧
        (src.mDisplayRect.x ≠ 1 ∧ src.mDisplayRect.y ≠ 1) ∧
        (src.mAlpha.enGlobalAlpha = true → src.mAlpha.gAlpha = 0) := by
  dsimp only [FidelityLaw]
  rw [flitRect_eq_iff, flitRect_eq_iff, layerOpt_alpha, alpha_iff]

/-- The call with the temporary buffer. -/
theorem fidelity_tempCall {surface : ISurface} {dstBuf pat : RgaBufferT} {prect : ImRect}
    {usage ret : Int32} :
    FidelityLaw src (.rga (.improcess (surface.rgaBuffer (layerOpt src)) dstBuf pat
        (flitRect src.mCrop) (if a.memcpy then flitRect src.mDisplayRect else {}) prect usage)
        ret) ↔
      (src.mCrop.x ≠ 1 ∧ src.mCrop.y ≠ 1) ∧
        (src.mDisplayRect.x ≠ 1 ∧ src.mDisplayRect.y ≠ 1) ∧
        (src.mAlpha.enGlobalAlpha = true → src.mAlpha.gAlpha = 0) ∧
        (a.memcpy = true ∨ src.mDisplayRect = {}) := by
  have hzero : ({} : ImRect) = imRect src.mDisplayRect ↔ src.mDisplayRect = {} := by
    obtain ⟨x, y, w, h⟩ := src.mDisplayRect
    simp only [imRect, ImRect.mk.injEq, IRect.mk.injEq]
    omega
  by_cases hcopy : a.memcpy = true
  · rw [if_pos hcopy, fidelity_call]
    simp only [hcopy, true_or, and_true]
  · rw [if_neg hcopy]
    dsimp only [FidelityLaw]
    rw [flitRect_eq_iff, layerOpt_alpha, alpha_iff, hzero]
    simp only [hcopy, Bool.false_eq_true, false_or]
    constructor
    · rintro ⟨hcrop, hrect, halpha⟩
      refine ⟨hcrop, ?_, halpha, hrect⟩
      rw [hrect]
      decide
    · rintro ⟨hcrop, -, halpha, hrect⟩
      exact ⟨hcrop, hrect, halpha⟩

/-- The branch of `DST_OVER` hands the layer over exactly on the condition. -/
theorem dstOver_fidelity_iff {S D : ISurface} {usage : Int32} (hblend : src.mBlendType = .dstover)
    {pre : List GfxEvent} (hpre : ∀ e ∈ pre, e.Plain) :
    Post (flitYuvDstOver a (S.rgaBuffer (layerOpt src)) (D.rgaBuffer (layerOpt src))
          (flitRect src.mCrop) (flitRect src.mDisplayRect) usage) (w.logged pre)
        (fun _ w' => ∀ e ∈ issued w w', FidelityLaw src e) (fun _ _ => False) ↔
      ((w.grallocFucs = true ∨ a.grallocInitialize = displaySuccess) ∧
        a.allocMem = displaySuccess → a.Exact src true) := by
  by_cases hinit : (w.logged pre).grallocFucs = true ∨ a.grallocInitialize = displaySuccess
  · obtain ⟨es, hplain, hrun⟩ := @flitYuvDstOver_ready a (w.logged pre)
      (S.rgaBuffer (layerOpt src)) (D.rgaBuffer (layerOpt src)) (flitRect src.mCrop)
      (flitRect src.mDisplayRect) usage hinit
    rw [post_iff_of_ok hrun, issued_ready, fidelity_append hpre, fidelity_append hplain]
    by_cases halloc : a.allocMem = displaySuccess
    · rw [if_pos halloc]
      have hcalls : (∀ e ∈ .allocMem a.allocMem a.buffer :: a.tempCalls
          (S.rgaBuffer (layerOpt src)) (D.rgaBuffer (layerOpt src)) (flitRect src.mCrop)
          (flitRect src.mDisplayRect) usage, FidelityLaw src e) ↔
          FidelityLaw src (.rga (.improcess (S.rgaBuffer (layerOpt src))
            (a.temp (D.rgaBuffer (layerOpt src))) (D.rgaBuffer (layerOpt src))
            (flitRect src.mCrop) (if a.memcpy then flitRect src.mDisplayRect else {})
            (flitRect src.mDisplayRect) usage) a.improcess) := by
        unfold FlitAnswers.tempCalls
        constructor
        · intro h
          exact h _ (by simp)
        · intro h e he
          by_cases hret : a.improcess = imStatusSuccess
          · rw [if_pos hret] at he
            simp only [List.mem_cons, List.mem_append, List.not_mem_nil, or_false] at he
            rcases he with rfl | ((rfl | rfl) | rfl) | rfl
            · trivial
            · trivial
            · exact h
            · trivial
            · trivial
          · rw [if_neg hret] at he
            simp only [List.mem_cons, List.mem_append, List.not_mem_nil, or_false] at he
            rcases he with rfl | (rfl | rfl) | rfl
            · trivial
            · trivial
            · exact h
            · trivial
      rw [hcalls, fidelity_tempCall]
      constructor
      · rintro ⟨hcrop, hrect, halpha, hcopy⟩ -
        exact ⟨hcrop, hrect, halpha, fun _ _ => hcopy⟩
      · intro h
        have hexact := h ⟨hinit, halloc⟩
        exact ⟨hexact.crop, hexact.displayRect, hexact.alpha, hexact.copied rfl hblend⟩
    · rw [if_neg halloc, List.forall_mem_singleton]
      exact iff_of_true trivial fun h => absurd h.2 halloc
  · rw [post_iff_of_ok (flitYuvDstOver_uninit hinit), GfxWorld.logged_logged, issued_logged,
      fidelity_append hpre, List.forall_mem_singleton]
    exact iff_of_true trivial fun h => absurd h.1 hinit

/-- The branches of a YUV source hand the layer over exactly on the condition. -/
theorem yuv_fidelity_iff {S D : ISurface} (hacc : Accepted S D (layerOpt src))
    {pre : List GfxEvent} (hpre : ∀ e ∈ pre, e.Plain) :
    Post (flitIssue a true (S.rgaBuffer (layerOpt src)) (D.rgaBuffer (layerOpt src))
          (flitRect src.mCrop) (flitRect src.mDisplayRect) (layerOpt src)) (w.logged pre)
        (fun _ w' => ∀ e ∈ issued w w', FidelityLaw src e) (fun _ _ => False) ↔
      (src.mBlendType ∈ [.src, .srcover] ∨ (src.mBlendType = .dstover ∧
          (w.grallocFucs = true ∨ a.grallocInitialize = displaySuccess) ∧
          a.allocMem = displaySuccess) → a.Exact src true) := by
  by_cases hsrc : (layerOpt src).blendType ∈ [.src, .srcover]
  · rw [post_iff_of_ok (flitIssue_scaled hsrc rfl), GfxWorld.logged_logged, issued_logged,
      fidelity_append hpre, List.forall_mem_singleton, fidelity_call]
    have hdst : src.mBlendType ≠ .dstover := by
      intro he
      have hblend : (layerOpt src).blendType = .dstover := he
      rw [hblend] at hsrc
      exact absurd hsrc (by decide)
    constructor
    · rintro ⟨hcrop, hrect, halpha⟩ -
      exact ⟨hcrop, hrect, halpha, fun _ he => absurd he hdst⟩
    · intro h
      have hexact := h (Or.inl hsrc)
      exact ⟨hexact.crop, hexact.displayRect, hexact.alpha⟩
  · by_cases hdst : (layerOpt src).blendType = .dstover
    · have hover := @dstOver_fidelity_iff a w src S D (layerOpt src).usage hdst pre hpre
      unfold Post at hover ⊢
      rw [flitIssue_dstOver hdst, hover]
      refine imp_congr ⟨fun h => Or.inr ⟨hdst, h⟩, ?_⟩ Iff.rfl
      rintro (hs | hd)
      · exact absurd hs hsrc
      · exact hd.2
    · have hnone : (layerOpt src).blendType ∉ [.src, .srcover, .dstover] := by
        simp only [List.mem_cons, List.not_mem_nil, or_false, not_or] at hsrc ⊢
        exact ⟨hsrc.1, hsrc.2, hdst⟩
      rw [post_iff_of_ok (flitIssue_none hnone (rkBlendType_supported.2 hacc.blend)),
        issued_logged]
      refine iff_of_true (fun e he => fidelity_of_not_rga (hpre e he).rga) ?_
      rintro (hs | hd)
      · exact absurd hs hsrc
      · exact absurd hd.1 hdst

/-- `doFlit` hands the layer over exactly on the condition. -/
theorem flit_fidelity_iff {S D : ISurface} :
    Post (doFlit a S src.mCrop D src.mDisplayRect (layerOpt src)) w
        (fun _ w' => ∀ e ∈ issued w w', FidelityLaw src e) (fun _ _ => False) ↔
      (a.Reaches w.grallocFucs S D (layerOpt src) → a.Exact src S.isYuv) := by
  by_cases hset : ∀ n ∈ List.range 6, a.memset n = true
  · by_cases hacc : Accepted S D (layerOpt src)
    · rw [post_doFlit_accepted hset hacc]
      by_cases hyuv : S.isYuv = true
      · rw [hyuv]
        refine (yuv_fidelity_iff hacc plain_cleared).trans ?_
        exact ⟨fun h hr => h (hr.yuv hyuv), fun h hr => h ⟨hset, hacc, fun _ => hr⟩⟩
      · rw [Bool.eq_false_iff.2 hyuv, post_iff_of_ok flitIssue_rgb, GfxWorld.logged_logged,
          issued_logged, fidelity_append plain_cleared, List.forall_mem_singleton, fidelity_call]
        constructor
        · rintro ⟨hcrop, hrect, halpha⟩ -
          exact ⟨hcrop, hrect, halpha, fun h => absurd h (by simp)⟩
        · intro h
          have hexact := h ⟨hset, hacc, fun h => absurd h hyuv⟩
          exact ⟨hexact.crop, hexact.displayRect, hexact.alpha⟩
    · obtain ⟨ret, hrun, -⟩ := @doFlit_rejected a w S D src.mCrop src.mDisplayRect
        (layerOpt src) hset hacc
      rw [post_iff_of_ok hrun, GfxWorld.cleared, issued_logged]
      refine iff_of_true ?_ fun h => absurd h.accepted hacc
      exact fun e he => fidelity_of_not_rga (plain_cleared e he).rga
  · obtain ⟨es, hrun, hes⟩ := @doFlit_not_cleared a w S D src.mCrop src.mDisplayRect
      (layerOpt src) hset
    rw [post_iff_of_ok hrun, issued_logged]
    refine iff_of_true (fun e he => ?_) fun h => absurd h.cleared hset
    obtain ⟨ok, rfl⟩ := hes e he
    trivial

/-- **RGA gets the crop, the display rectangle and the global alpha of the layer**
exactly on the condition. -/
theorem blitFidelity_iff (mGfxFuncs : Bool) (a : FlitAnswers) (w : GfxWorld)
    (src dst : HdiLayer) :
    Post (blitLayer mGfxFuncs a src dst) w
        (fun _ w' => ∀ e ∈ issued w w', FidelityLaw src e) (fun _ _ => False) ↔
      ∀ srcBuffer ∈ src.mHdiBuffer, ∀ dstBuffer ∈ dst.mHdiBuffer, mGfxFuncs = true →
        a.Reaches w.grallocFucs (layerSurface src srcBuffer) (initGfxSurface dstBuffer)
          (layerOpt src) → a.Exact src (layerSurface src srcBuffer).isYuv := by
  have hnone : ∀ ret : Int32, Post (pure ret : Gfx Int32) w
      (fun _ w' => ∀ e ∈ issued w w', FidelityLaw src e) (fun _ _ => False) := by
    intro ret e he
    have hlog : issued w w = [] := by simp [issued]
    rw [hlog] at he
    exact absurd he List.not_mem_nil
  unfold blitLayer
  cases hsrc : src.mHdiBuffer with
  | none => exact iff_of_true (hnone _) (by simp)
  | some srcBuffer =>
      cases hdst : dst.mHdiBuffer with
      | none => exact iff_of_true (hnone _) (by simp)
      | some dstBuffer =>
          dsimp only
          by_cases hgfx : mGfxFuncs = true
          · rw [if_neg (not_not.2 hgfx), post_rkBlit, flit_fidelity_iff]
            simp only [Option.mem_def, Option.some.injEq, forall_eq', hgfx, true_imp_iff]
          · rw [if_pos hgfx]
            refine iff_of_true (hnone _) ?_
            rintro _ - _ - h
            exact absurd h hgfx

end

/-- A layer at the corner (1, 1) of the display. -/
def cornerLayer : HdiLayer :=
  { mHdiBuffer := some ⟨64, 64, 256, .rgba8888, 5⟩, mBlendType := .srcover
    mAlpha := { enGlobalAlpha := true, gAlpha := 128 }, mCrop := ⟨0, 0, 64, 64⟩
    mDisplayRect := ⟨1, 1, 64, 64⟩ }

/-- **Neither its position nor its alpha gets to RGA.** -/
theorem blitFidelity_corner :
    ¬ Post (blitLayer true allSucceed cornerLayer
        { mHdiBuffer := some ⟨64, 64, 256, .rgba8888, 6⟩ }) {}
      (fun _ w' => ∀ e ∈ issued {} w', FidelityLaw cornerLayer e) (fun _ _ => False) := by
  intro hlaw
  have hcall : returns (blitLayer true allSucceed cornerLayer
      { mHdiBuffer := some ⟨64, 64, 256, .rgba8888, 6⟩ }) {}
      (fun _ w' => decide (∃ e ∈ issued {} w', ¬ FidelityLaw cornerLayer e)) = true := by
    decide +kernel
  obtain ⟨ret, w', hrun, htest⟩ := returns_iff.1 hcall
  obtain ⟨e, he, hbad⟩ := of_decide_eq_true htest
  exact hbad (hlaw.of_ok hrun e he)

end QemuHal.Common.Flit
