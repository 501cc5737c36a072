import QemuHal.Gralloc.Gbm

/-!
# `display_gralloc_gbm.cpp`

The manager of the process, the opening and closing of its gbm device, and the
allocation of a buffer.
-/

namespace QemuHal

open Exec

/-- The status codes of the allocator. -/
inductive HdfStatus where
  | success
  | failure
  | errInvalidParam
  | errBadFd
  | errNotSupport
  | devErrNoMemory
  | errDeviceBusy
deriving DecidableEq, Repr

/-! ## The lock -/

def grallocLock : Gralloc Unit := do
  if (← get).lock then throw .deadlock
  modify fun g => { g with lock := true }

def grallocUnlock : Gralloc Unit := modify fun g => { g with lock := false }

/-! ## The manager -/

/-- `GetGrallocManager`, with what `malloc` answers. -/
def getGrallocManager (malloc : Bool) : Gralloc (Option GrallocManager) := do
  match (← get).grallocManager with
  | some m => pure (some m)
  | none =>
      if malloc then do
        modify fun g => { g with grallocManager := some {} }
        pure (some {})
      else pure none

/-- The answers met while the gbm device is opened. -/
structure OpenAnswers where
  malloc : Bool := true
  realpath : Bool := true
  openFd : Int
  createDevice : Bool := true
deriving DecidableEq, Repr

/-- `InitGbmDevice`. -/
def initGbmDevice (m : GrallocManager) (a : OpenAnswers) : Gralloc HdfStatus :=
  if m.gbmDevice ≠ none then pure .success
  else if ¬ a.realpath then pure .errInvalidParam
  else if a.openFd < 0 then pure .errBadFd
  else if ¬ a.createDevice then do
    modify fun g => { g with grallocManager := some { m with drmFd := -1 } }
    pure .failure
  else do
    modify fun g =>
      { g with
        grallocManager := some { m with gbmDevice := some ⟨a.openFd⟩, drmFd := a.openFd }
        fds := a.openFd :: g.fds }
    pure .success

/-- `DeInitGbmDevice`, together with the `free` that always follows it. -/
def deInitGbmDevice (m : GrallocManager) : Gralloc Unit :=
  modify fun g =>
    { g with
      grallocManager := none
      fds := if 0 < m.drmFd then g.fds.erase m.drmFd else g.fds }

/-- `GbmGrallocInitialize`. -/
def gbmGrallocInitialize (a : OpenAnswers) : Gralloc HdfStatus := do
  grallocLock
  match ← getGrallocManager a.malloc with
  | none => do
      grallocUnlock
      pure .errInvalidParam
  | some m => do
      let ret ← initGbmDevice m a
      if ret ≠ .success then do
        grallocUnlock
        pure ret
      else do
        modify fun g =>
          { g with grallocManager := g.grallocManager.map fun m =>
              { m with referCount := m.referCount + 1 } }
        grallocUnlock
        pure .success

/-- `GbmGrallocUninitialize`. -/
def gbmGrallocUninitialize (malloc : Bool) : Gralloc HdfStatus := do
  grallocLock
  match ← getGrallocManager malloc with
  | none => do
      grallocUnlock
      pure .errInvalidParam
  | some m => do
      let m := { m with referCount := m.referCount - 1 }
      modify fun g => { g with grallocManager := some m }
      if m.referCount < 0 then deInitGbmDevice m
      grallocUnlock
      pure .success

/-! ## Allocation -/

/-- The pixel formats of the conversion table, and any other. -/
inductive PixelFormat where
  | rgbx8888
  | rgba8888
  | rgb888
  | bgr565
  | bgrx4444
  | bgra4444
  | rgba4444
  | rgbx4444
  | bgrx5551
  | bgra5551
  | bgrx8888
  | bgra8888
  | ycbcr420Sp
  | ycrcb420Sp
  | ycbcr420P
  | ycrcb420P
  | ycbcr422Sp
  | ycrcb422Sp
  | ycbcr422P
  | ycrcb422P
  | other (code : Int)
deriving DecidableEq, Repr

def convertTable : List (DrmFormat × PixelFormat) :=
  [(.rgbx8888, .rgbx8888), (.rgba8888, .rgba8888), (.rgb888, .rgb888), (.rgb565, .bgr565),
    (.bgrx4444, .bgrx4444), (.bgra4444, .bgra4444), (.rgba4444, .rgba4444),
    (.rgbx4444, .rgbx4444), (.bgrx5551, .bgrx5551), (.bgra5551, .bgra5551),
    (.bgrx8888, .bgrx8888), (.bgra8888, .bgra8888), (.nv12, .ycbcr420Sp),
    (.nv21, .ycrcb420Sp), (.yuv420, .ycbcr420P), (.yvu420, .ycrcb420P),
    (.nv16, .ycbcr422Sp), (.nv61, .ycrcb422Sp), (.yuv422, .ycbcr422P),
    (.yvu422, .ycrcb422P)]

/-- `ConvertFormatToDrm`: the last matching entry, `none` for `INVALID_PIXEL_FMT`. -/
def convertFormatToDrm (fmtIn : PixelFormat) : Option DrmFormat :=
  convertTable.foldl (fun fmtOut e => if e.2 = fmtIn then some e.1 else fmtOut) none

structure AllocInfo where
  width : UInt32
  height : UInt32
  usage : UInt64
  format : PixelFormat
deriving DecidableEq, Repr

/-- The fields of the handle `InitBufferHandle` fills in; the others are zero. -/
structure PriBufferHandle where
  fd : Int
  stride : Int32
  width : Int32
  height : Int32
  usage : UInt64
  format : PixelFormat
  size : Int32
deriving DecidableEq, Repr

/-- `InitBufferHandle`: the words of the buffer object become signed ones. -/
def initBufferHandle (bo : GbmBo) (fd : Int) (info : AllocInfo) : PriBufferHandle :=
  { fd, stride := bo.stride.toInt32, width := bo.width.toInt32, height := bo.height.toInt32
    usage := info.usage, format := info.format, size := bo.size.toInt32 }

/-- The answers met by one allocation. -/
structure AllocAnswers where
  mallocManager : Bool := true
  calloc : Bool := true
  createDumb : CreateDumb → Option DumbBuffer
  primeFd : Option Nat
  destroyDumb : Bool := true
  malloc : Bool := true
  memset : Bool := true

/-- `close` on the exported descriptor. -/
def closeFd (fd : Int) : Gralloc Unit := modify fun g => { g with fds := g.fds.erase fd }

/-- `GbmAllocMem`, for the non-null arguments its callers pass: the status and what is
stored in `*buffer`, if anything. -/
def gbmAllocMem (info : AllocInfo) (a : AllocAnswers) :
    Gralloc (HdfStatus × Option PriBufferHandle) :=
  match convertFormatToDrm info.format with
  | none => pure (.errNotSupport, none)
  | some drmFmt => do
      grallocLock
      match ← getGrallocManager a.mallocManager with
      | none => do
          grallocUnlock
          pure (.errInvalidParam, none)
      | some m => do
          match ← gbmBoCreate m.gbmDevice info.width info.height drmFmt a.calloc a.createDumb with
          | none => do
              grallocUnlock
              pure (.devErrNoMemory, none)
          | some bo => do
              let fd ← gbmBoGetFd a.primeFd
              if fd < 0 then do
                gbmBoDestroy bo a.destroyDumb
                grallocUnlock
                pure (.errBadFd, none)
              else if ¬ a.malloc then do
                closeFd fd
                gbmBoDestroy bo a.destroyDumb
                grallocUnlock
                pure (.failure, none)
              else do
                modify fun g => { g with priBuffers := g.priBuffers + 1 }
                if ¬ a.memset then do
                  closeFd fd
                  gbmBoDestroy bo a.destroyDumb
                  modify fun g => { g with priBuffers := g.priBuffers - 1 }
                  grallocUnlock
                  pure (.failure, none)
                else do
                  gbmBoDestroy bo a.destroyDumb
                  grallocUnlock
                  pure (.success, some (initBufferHandle bo fd info))

end QemuHal
