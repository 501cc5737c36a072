import QemuHal.Lib.Exec

/-!
# The gbm layer of the allocator

Buffer objects are dumb buffers of the DRM node. What the allocator has created
and not yet released is kept in `GrallocWorld`, next to the process-wide manager.
-/

namespace QemuHal

/-! ## Formats -/

/-- The DRM formats of the two format tables. -/
inductive DrmFormat where
  | rgbx8888
  | rgba8888
  | bgrx8888
  | bgra8888
  | rgb888
  | rgb565
  | bgrx4444
  | bgra4444
  | rgba4444
  | rgbx4444
  | bgrx5551
  | bgra5551
  | nv12
  | nv21
  | nv16
  | nv61
  | yuv420
  | yvu420
  | yuv422
  | yvu422
deriving DecidableEq, Repr

structure PlaneLayoutInfo where
  numPlanes : Nat
  radio : List UInt32
deriving DecidableEq, Repr

def yuv420SPLayout : PlaneLayoutInfo := ⟨2, [4, 2, 0]⟩

def yuv420PLayout : PlaneLayoutInfo := ⟨3, [4, 1, 1]⟩

def yuv422SPLayout : PlaneLayoutInfo := ⟨2, [4, 4, 0]⟩

def yuv422PLayout : PlaneLayoutInfo := ⟨3, [4, 2, 2]⟩

structure FormatInfo where
  format : DrmFormat
  bitsPerPixel : UInt32
  planes : Option PlaneLayoutInfo
deriving DecidableEq, Repr

def fmtInfos : List FormatInfo :=
  [⟨.rgbx8888, 32, none⟩, ⟨.rgba8888, 32, none⟩, ⟨.bgrx8888, 32, none⟩,
    ⟨.bgra8888, 32, none⟩, ⟨.rgb888, 24, none⟩, ⟨.rgb565, 16, none⟩,
    ⟨.bgrx4444, 16, none⟩, ⟨.bgra4444, 16, none⟩, ⟨.rgba4444, 16, none⟩,
    ⟨.rgbx4444, 16, none⟩, ⟨.bgrx5551, 16, none⟩, ⟨.bgra5551, 16, none⟩,
    ⟨.nv12, 8, some yuv420SPLayout⟩, ⟨.nv21, 8, some yuv420SPLayout⟩,
    ⟨.nv16, 8, some yuv422SPLayout⟩, ⟨.nv61, 8, some yuv422SPLayout⟩,
    ⟨.yuv420, 8, some yuv420PLayout⟩, ⟨.yvu420, 8, some yuv420PLayout⟩,
    ⟨.yuv422, 8, some yuv422PLayout⟩, ⟨.yvu422, 8, some yuv422PLayout⟩]

def getFormatInfo (format : DrmFormat) : Option FormatInfo :=
  fmtInfos.find? fun info => info.format = format

/-- The table has an entry for every format. -/
theorem getFormatInfo_isSome (format : DrmFormat) : (getFormatInfo format).isSome = true := by
  cases format <;> rfl

/-! ## Sizes -/

def alignUp (x a : UInt32) : UInt32 := (x + (a - 1)) / a * a

def divRoundUp (n d : UInt32) : UInt32 := (n + d - 1) / d

/-- The height of all planes together, in rows of the first one. -/
def adjustStrideFromFormat (format : DrmFormat) (height : UInt32) : UInt32 :=
  match (getFormatInfo format).bind FormatInfo.planes with
  | none => height
  | some planes =>
      let first := planes.radio.headD 0
      let sum := ((planes.radio.take planes.numPlanes).tail).foldl (· + ·) first
      if 0 < sum then divRoundUp (height * sum) first else height

def widthAlign : UInt32 := 8

def heightAlign : UInt32 := 2

/-! ## The allocator's world -/

structure GbmDevice where
  fd : Int
deriving DecidableEq, Repr

/-- `g_grallocManager`; the list head `gbmBoHead` is never used. -/
structure GrallocManager where
  gbmDevice : Option GbmDevice := none
  drmFd : Int := 0
  referCount : Int32 := 0
deriving DecidableEq, Repr

structure GbmBo where
  gbm : GbmDevice
  width : UInt32
  height : UInt32
  format : DrmFormat
  handle : UInt32 := 0
  stride : UInt32 := 0
  size : UInt32 := 0
deriving DecidableEq, Repr

/-- A `DisplayBufferVdiImpl` object, and whether its `GbmGrallocInitialize` succeeded. -/
structure DisplayBufferVdiImpl where
  id : Nat
  initialised : Bool
deriving DecidableEq, Repr

/-- The process-wide state: `g_grallocManager`, `g_lock`, the live VDI objects, and what
has been created and not released: `gbm_bo` structures, dumb handles, descriptors and
`PriBufferHandle` structures. -/
structure GrallocWorld where
  grallocManager : Option GrallocManager := none
  lock : Bool := false
  objects : List DisplayBufferVdiImpl := []
  nextObject : Nat := 0
  bos : List GbmBo := []
  dumbs : List UInt32 := []
  fds : List Int := []
  priBuffers : Nat := 0
deriving DecidableEq, Repr

inductive GrallocFault where
  /-- A null `gbm_device` is dereferenced. -/
  | nullDevice
  /-- `g_lock` is taken while it is held. -/
  | deadlock
deriving DecidableEq, Repr

abbrev Gralloc := EStateM GrallocFault GrallocWorld

/-! ## Buffer objects -/

/-- What `DRM_IOCTL_MODE_CREATE_DUMB` fills in. -/
structure DumbBuffer where
  handle : UInt32
  pitch : UInt32
  size : UInt64
deriving DecidableEq, Repr

structure CreateDumb where
  height : UInt32
  width : UInt32
  bpp : UInt32
deriving DecidableEq, Repr

/-- The request `hdi_gbm_bo_create` makes. -/
def createDumb (width height : UInt32) (format : DrmFormat) (info : FormatInfo) : CreateDumb :=
  { height := alignUp (adjustStrideFromFormat format height) heightAlign
    width := alignUp width widthAlign
    bpp := info.bitsPerPixel }

def GbmBo.initGbmBo (bo : GbmBo) (dumb : DumbBuffer) : GbmBo :=
  { bo with stride := dumb.pitch, size := dumb.size.toUInt32, handle := dumb.handle }

/-- `hdi_gbm_bo_create`. The structure it allocates is not freed when `CREATE_DUMB` fails. -/
def gbmBoCreate (gbm : Option GbmDevice) (width height : UInt32) (format : DrmFormat)
    (calloc : Bool) (answer : CreateDumb → Option DumbBuffer) : Gralloc (Option GbmBo) :=
  match getFormatInfo format with
  | none => pure none
  | some info =>
      if ¬ calloc then pure none
      else
        match gbm with
        | none => throw .nullDevice
        | some gbm => do
            let bo : GbmBo := { gbm, width, height, format }
            match answer (createDumb width height format info) with
            | none => do
                modify fun g => { g with bos := bo :: g.bos }
                pure none
            | some dumb => do
                let bo := bo.initGbmBo dumb
                modify fun g => { g with bos := bo :: g.bos, dumbs := dumb.handle :: g.dumbs }
                pure (some bo)

/-- `hdi_gbm_bo_destroy` keeps the structure when `DESTROY_DUMB` fails. -/
def gbmBoDestroy (bo : GbmBo) (destroyDumb : Bool) : Gralloc Unit :=
  if destroyDumb then
    modify fun g => { g with bos := g.bos.erase bo, dumbs := g.dumbs.erase bo.handle }
  else pure ()

/-- `hdi_gbm_bo_get_fd`, with the descriptor `drmPrimeHandleToFD` exports. -/
def gbmBoGetFd (answer : Option Nat) : Gralloc Int :=
  match answer with
  | none => pure (-1)
  | some fd => do
      modify fun g => { g with fds := (fd : Int) :: g.fds }
      pure (fd : Int)

end QemuHal
