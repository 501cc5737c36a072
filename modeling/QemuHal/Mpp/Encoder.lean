import QemuHal.Lib.Checked
import QemuHal.Lib.Exec
import QemuHal.Lib.Ledger

/-!
# The video encoder

An encoder context is created, asked for the stream header and for encoded frames, and
deleted. What the calls of libmpp and of the secure C library answer is a parameter; a call
of theirs that succeeds acquires the object it names. A ledger keeps what a call of the
encoder has acquired and released.
-/

namespace QemuHal.Mpp

open Exec Checked Ledger

/-- `MPP_RET`; `0` is success. -/
abbrev MppRet := Int

def mppNok : MppRet := -1

def mppErrNullPtr : MppRet := -3

def mppErrMalloc : MppRet := -4

/-- The objects that are acquired and released. A packet is known by its number. -/
inductive Handle where
  | camBuf
  | frame
  | packet (id : Nat)
  | ctx
  | bufGrp
  | pktBuf
  | cfg
  | refCfg
  | data
deriving DecidableEq, Repr

inductive MppBufferType where
  | normal
  | ion
  | extDma
  | drm
deriving DecidableEq, Repr

structure MppBufferInfo where
  type : MppBufferType := .normal
  size : UInt64 := 0
  ptr : Nat := 0
  hnd : Nat := 0
  fd : Int := 0
  index : Int32 := 0
deriving DecidableEq, Repr

/-- The settings of an encoder configuration, by name. -/
abbrev MppEncCfg := String → Option Int

def MppEncCfg.set (cfg : MppEncCfg) (name : String) (val : Int) : MppEncCfg :=
  fun key => if key = name then some val else cfg key

def MppEncCfg.setAll (cfg : MppEncCfg) (settings : List (String × Int)) : MppEncCfg :=
  settings.foldl (fun cfg x => cfg.set x.1 x.2) cfg

/-- What a call of the encoder has done so far: its ledger, the settings it wrote, the
buffers it had imported, and whether its arithmetic was exact. -/
structure Call where
  log : List (Entry Handle) := []
  cfg : MppEncCfg := fun _ => none
  imports : List MppBufferInfo := []
  exact : Bool := true

/-- A null pointer is followed, or the encoder never delivers what is waited for. -/
inductive Fault where
  | nullDeref
  | blocked
deriving DecidableEq, Repr

abbrev Enc := EStateM Fault Call

def acquire (h : Handle) : Enc Unit := modify fun s => { s with log := .acquire h :: s.log }

/-- Releasing a null handle does nothing. -/
def release : Option Handle → Enc Unit
  | none => pure ()
  | some h => modify fun s => { s with log := .release h :: s.log }

def compute {α : Type} (c : Checked α) : Enc α :=
  modifyGet fun s => (c.value, { s with exact := s.exact && c.exact })

def deref {α : Type} : Option α → Enc α
  | none => throw .nullDeref
  | some p => pure p

/-- `mpp_enc_cfg_set_s32` and `mpp_enc_cfg_set_u32`, one setting after the other. -/
def mppEncCfgSet (settings : List (String × Int)) : Enc Unit :=
  modify fun s => { s with cfg := s.cfg.setAll settings }

/-! ## Formats and coding types -/

def mppFrameFmtMask : UInt32 := 0x000fffff

/-- `MPP_FMT_YUV420SP`, `MPP_FMT_YUV420P`. -/
def yuv420Formats : List UInt32 := [0, 4]

/-- `MPP_FMT_YUV422_YUYV`, `_YVYU`, `_UYVY`, `_VYUY`, `MPP_FMT_YUV422P`, `MPP_FMT_YUV422SP`,
and `MPP_FMT_RGB444`, `_BGR444`, `_RGB555`, `_BGR555`, `_RGB565`, `_BGR565`. -/
def twoByteFormats : List UInt32 :=
  [8, 9, 10, 11, 6, 2, 0x10004, 0x10005, 0x10002, 0x10003, 0x10000, 0x10001]

def codingAVC : UInt32 := 7

def codingMJPEG : UInt32 := 8

def codingVP8 : UInt32 := 9

def codingHEVC : UInt32 := 0x01000004

def AvcOrHevc (type : UInt32) : Prop := type = codingAVC ∨ type = codingHEVC

instance (type : UInt32) : Decidable (AvcOrHevc type) := inferInstanceAs (Decidable (_ ∨ _))

def rcModeVBR : Int32 := 0

def rcModeCBR : Int32 := 1

def rcModeFIXQP : Int32 := 2

def rcModeAVBR : Int32 := 3

/-! ## The context -/

structure MpiEncTestArgs where
  type : UInt32
  format : UInt32
  width : Int32
  height : Int32
deriving DecidableEq, Repr

/-- `calloc` leaves every field `0`. The table of libmpp's calls, `mpi`, is left out. -/
structure MpiEncTestData where
  frmEos : UInt32 := 0
  frameCount : Int32 := 0
  ctx : Option Handle := none
  cfg : Option Handle := none
  bufGrp : Option Handle := none
  pktBuf : Option Handle := none
  seiMode : UInt32 := 0
  headerMode : UInt32 := 0
  width : UInt32 := 0
  height : UInt32 := 0
  horStride : UInt32 := 0
  verStride : UInt32 := 0
  fmt : UInt32 := 0
  type : UInt32 := 0
  frameSize : UInt64 := 0
  splitMode : UInt32 := 0
  splitArg : UInt32 := 0
  fpsInFlex : Int32 := 0
  fpsInDen : Int32 := 0
  fpsInNum : Int32 := 0
  fpsOutFlex : Int32 := 0
  fpsOutDen : Int32 := 0
  fpsOutNum : Int32 := 0
  bps : Int32 := 0
  bpsMax : Int32 := 0
  bpsMin : Int32 := 0
  rcMode : Int32 := 0
  gopMode : Int32 := 0
  gopLen : Int32 := 0
deriving DecidableEq, Repr

namespace MpiEncTestData

/-- What a context holds, itself last. -/
def handles (p : MpiEncTestData) : List Handle :=
  p.ctx.toList ++ (p.cfg.toList ++ (p.pktBuf.toList ++ (p.bufGrp.toList ++ [.data])))

end MpiEncTestData

/-- The macro `MPP_ALIGN`, at the type of its argument. -/
def mppAlign {ω : Type} [Word ω] [AndOp ω] [Complement ω] [OfNat ω 1] (x a : ω) : Checked ω := do
  let sum ← add x a
  let sum ← sub sum 1
  let low ← sub a 1
  return sum &&& ~~~low

/-- A stride of the picture. -/
def stride (extent : Int32) : Checked UInt32 := do
  let aligned ← mppAlign extent 0x10
  convert aligned

/-- The size of a frame; each case of the source multiplies the aligned strides itself. -/
def frameBytes (fmt horStride verStride : UInt32) : Checked UInt64 := do
  let row ← mppAlign horStride 0x40
  let rows ← mppAlign verStride 0x40
  let area ← mul row rows
  if fmt &&& mppFrameFmtMask ∈ yuv420Formats then
    let triple ← mul area 0x3
    let size ← div triple 0x2
    convert size
  else if fmt &&& mppFrameFmtMask ∈ twoByteFormats then
    let size ← mul area 0x2
    convert size
  else
    let size ← mul area 0x4
    convert size

/-- The fields of a fresh context. -/
def fillCtx (cmd : MpiEncTestArgs) : Checked MpiEncTestData := do
  let width ← convert cmd.width
  let height ← convert cmd.height
  let horStride ← stride cmd.width
  let verStride ← stride cmd.height
  let frameSize ← frameBytes cmd.format horStride verStride
  return { width, height, horStride, verStride, fmt := cmd.format, type := cmd.type, frameSize }

/-- `*data` is the second component. -/
def testCtxInit (cmd : Option MpiEncTestArgs) (calloc : Bool) :
    Enc (MppRet × Option MpiEncTestData) :=
  match cmd with
  | none => return (mppErrNullPtr, none)
  | some cmd => do
      if calloc = false then
        return (mppErrMalloc, none)
      acquire .data
      let p ← compute (fillCtx cmd)
      return (0, some p)

/-! ## The configuration -/

/-- The environment; `mpp_env_get_u32` falls back on a default. -/
abbrev MppEnv := String → Option UInt32

def mppEnvGetU32 (env : MppEnv) (name : String) (default : UInt32) : UInt32 :=
  (env name).getD default

/-- The commands of `control` that are used, with the parameter where it is a plain value. -/
inductive MpiCmd where
  | setOutputTimeout (timeout : Int)
  | setCfg
  | setSeiCfg (mode : UInt32)
  | setHeaderMode (mode : UInt32)
  | setRefCfg
  | getHdrSync
deriving DecidableEq, Repr

def mppPollBlock : Int := -1

def seiModeOneFrame : UInt32 := 2

def headerModeEachIdr : UInt32 := 1

structure CreateAnswers where
  calloc : Bool
  bufferGroupGetInternal : MppRet
  bufferGet : UInt64 → MppRet
  mppCreate : MppRet
  mppInit : UInt32 → MppRet
  encCfgInit : MppRet
  refCfgInit : MppRet
  control : MpiCmd → MppRet

namespace MpiEncTestData

/-- The frame rates not given are 30 frames per second. -/
def withFrameRates (p : MpiEncTestData) : MpiEncTestData :=
  { p with
    fpsInDen := if p.fpsInDen = 0 then 1 else p.fpsInDen
    fpsInNum := if p.fpsInNum = 0 then 0x1e else p.fpsInNum
    fpsOutDen := if p.fpsOutDen = 0 then 1 else p.fpsOutDen
    fpsOutNum := if p.fpsOutNum = 0 then 0x1e else p.fpsOutNum }

/-- The bit rate not given depends on the size of the picture. -/
def defaultBps (p : MpiEncTestData) : Checked Int32 :=
  if p.bps = 0 then do
    let area ← mul p.width p.height
    let eighth ← div area 0x8
    let fps ← div p.fpsOutNum p.fpsOutDen
    let fps ← convert fps
    let bps ← mul eighth fps
    convert bps
  else
    return p.bps

def prepSettings (p : MpiEncTestData) : List (String × Int) :=
  [("prep:width", p.width.toInt32.toInt),
    ("prep:height", p.height.toInt32.toInt),
    ("prep:hor_stride", p.horStride.toInt32.toInt),
    ("prep:ver_stride", p.verStride.toInt32.toInt),
    ("prep:format", p.fmt.toInt32.toInt)]

def rcSettings (p : MpiEncTestData) : List (String × Int) :=
  [("rc:mode", p.rcMode.toInt),
    ("rc:fps_in_flex", p.fpsInFlex.toInt),
    ("rc:fps_in_num", p.fpsInNum.toInt),
    ("rc:fps_in_denorm", p.fpsInDen.toInt),
    ("rc:fps_out_flex", p.fpsOutFlex.toInt),
    ("rc:fps_out_num", p.fpsOutNum.toInt),
    ("rc:fps_out_denorm", p.fpsOutDen.toInt),
    ("rc:gop", (if p.gopLen ≠ 0 then p.gopLen else p.fpsOutNum * 0x2).toInt),
    ("rc:drop_mode", 0),
    ("rc:drop_thd", 0x14),
    ("rc:drop_gap", 0x1),
    ("rc:bps_target", p.bps.toInt)]

def qpSettings (p : MpiEncTestData) : List (String × Int) :=
  if AvcOrHevc p.type then
    if p.rcMode = rcModeFIXQP then
      [("rc:qp_init", 0x14), ("rc:qp_max", 0x14), ("rc:qp_min", 0x14), ("rc:qp_max_i", 0x14),
        ("rc:qp_min_i", 0x14), ("rc:qp_ip", 0x2)]
    else if p.rcMode = rcModeCBR ∨ p.rcMode = rcModeVBR ∨ p.rcMode = rcModeAVBR then
      [("rc:qp_init", 0x1a), ("rc:qp_max", 0x33), ("rc:qp_min", 0xa), ("rc:qp_max_i", 0x33),
        ("rc:qp_min_i", 0xa), ("rc:qp_ip", 0x2)]
    else []
  else if p.type = codingVP8 then
    [("rc:qp_init", 0x28), ("rc:qp_max", 0x7f), ("rc:qp_min", 0), ("rc:qp_max_i", 0x7f),
      ("rc:qp_min_i", 0), ("rc:qp_ip", 0x6)]
  else if p.type = codingMJPEG then
    [("jpeg:q_factor", 0x50), ("jpeg:qf_max", 0x63), ("jpeg:qf_min", 1)]
  else []

def codecSettings (p : MpiEncTestData) : List (String × Int) :=
  ("codec:type", p.type.toInt32.toInt) ::
    if p.type = codingAVC then
      [("h264:profile", 0x64), ("h264:level", 0x28), ("h264:cabac_en", 0x1),
        ("h264:cabac_idc", 0x0), ("h264:trans8x8", 0x1)]
    else []

def splitSettings (p : MpiEncTestData) : List (String × Int) :=
  if p.splitMode ≠ 0 then
    [("split:mode", p.splitMode.toInt32.toInt), ("split:arg", p.splitArg.toInt32.toInt)]
  else []

end MpiEncTestData

/-- A bound of the bit rate that is not given is `num / 16` of the target. -/
def bpsBound (bps given num : Int32) : Checked Int32 :=
  if given ≠ 0 then
    return given
  else do
    let scaled ← mul bps num
    div scaled 0x10

/-- The least bit rate, in sixteenths of the target; a mode without a case of its own is
treated as `CBR`. -/
def bpsMinNum (rcMode : Int32) : Int32 :=
  if rcMode = rcModeVBR ∨ rcMode = rcModeAVBR then 1 else 0xf

/-- Nothing is bounded in `FIXQP` mode. -/
def setRates (p : MpiEncTestData) : Enc Unit := do
  if p.rcMode ≠ rcModeFIXQP then
    let bpsMax ← compute (bpsBound p.bps p.bpsMax 0x11)
    mppEncCfgSet [("rc:bps_max", bpsMax.toInt)]
    let bpsMin ← compute (bpsBound p.bps p.bpsMin (bpsMinNum p.rcMode))
    mppEncCfgSet [("rc:bps_min", bpsMin.toInt)]

/-- The first half of `test_mpp_enc_cfg_setup`: defaults and settings. -/
def writeSettings (env : MppEnv) (p : MpiEncTestData) : Enc MpiEncTestData := do
  let p := p.withFrameRates
  let bps ← compute p.defaultBps
  let p := { p with bps }
  mppEncCfgSet p.prepSettings
  mppEncCfgSet p.rcSettings
  setRates p
  mppEncCfgSet p.qpSettings
  mppEncCfgSet p.codecSettings
  let p := { p with
    splitMode := mppEnvGetU32 env "split_mode" 0
    splitArg := mppEnvGetU32 env "split_arg" 0 }
  mppEncCfgSet p.splitSettings
  return p

/-- The reference structure of a GOP. What is written to it is read by libmpp alone, and
the results of the calls that write it are ignored. -/
def setupRefCfg (env : MppEnv) (gopMode : Int32) (a : CreateAnswers) : Enc MppRet := do
  if mppEnvGetU32 env "gop_mode" gopMode.toUInt32 = 0 then
    return 0
  let ref ← initRefCfg a.refCfgInit
  if a.control .setRefCfg ≠ 0 then
    return a.control .setRefCfg
  release ref
  return 0
where
  initRefCfg (ret : MppRet) : Enc (Option Handle) := do
    if ret ≠ 0 then
      return none
    acquire .refCfg
    return some .refCfg

/-- The second half: libmpp is given the settings. -/
def submitSettings (env : MppEnv) (p : MpiEncTestData) (a : CreateAnswers) :
    Enc (MppRet × MpiEncTestData) := do
  if a.control .setCfg ≠ 0 then
    return (a.control .setCfg, p)
  let p := { p with seiMode := seiModeOneFrame }
  if a.control (.setSeiCfg seiModeOneFrame) ≠ 0 then
    return (a.control (.setSeiCfg seiModeOneFrame), p)
  let p := { p with headerMode := if AvcOrHevc p.type then headerModeEachIdr else p.headerMode }
  if AvcOrHevc p.type ∧ a.control (.setHeaderMode headerModeEachIdr) ≠ 0 then
    return (a.control (.setHeaderMode headerModeEachIdr), p)
  let ret ← setupRefCfg env p.gopMode a
  return (ret, p)

def testMppEncCfgSetup (env : MppEnv) (p : MpiEncTestData) (a : CreateAnswers) :
    Enc (MppRet × MpiEncTestData) := do
  let p ← writeSettings env p
  submitSettings env p a

/-! ## Creating and deleting a context -/

/-- No failure gives anything back; the message of each reads the context. -/
def halMppCtxCreate (env : MppEnv) (args : Option MpiEncTestArgs) (a : CreateAnswers) :
    Enc (Option MpiEncTestData) := do
  let (ret, data) ← testCtxInit args a.calloc
  let p ← deref data
  if ret ≠ 0 then
    return none
  if a.bufferGroupGetInternal ≠ 0 then
    return none
  acquire .bufGrp
  let p := { p with bufGrp := some .bufGrp }
  if a.bufferGet p.frameSize ≠ 0 then
    return none
  acquire .pktBuf
  let p := { p with pktBuf := some .pktBuf }
  if a.mppCreate ≠ 0 then
    return none
  acquire .ctx
  let p := { p with ctx := some .ctx }
  if a.control (.setOutputTimeout mppPollBlock) ≠ 0 then
    return none
  if a.mppInit p.type ≠ 0 then
    return none
  if a.encCfgInit ≠ 0 then
    return none
  acquire .cfg
  let p := { p with cfg := some .cfg }
  let (ret, p) ← testMppEncCfgSetup env p a
  if ret ≠ 0 then
    return none
  return some p

/-- The context itself is given back last. -/
def testMppCtxCleanup (p : Option MpiEncTestData) : Enc Unit :=
  match p with
  | none => pure ()
  | some p => do
      release p.ctx
      release p.cfg
      release p.pktBuf
      release p.bufGrp
      release (some .data)

def halMppCtxDelete (ctx : Option MpiEncTestData) : Enc Unit := testMppCtxCleanup ctx

/-! ## The header and the frames -/

/-- What the caller gets back: the result, `*buf_size`, and the bytes copied to `buf`. -/
structure Copied where
  ret : MppRet
  bufSize : UInt64
  bytes : List UInt8 := []
deriving DecidableEq, Repr

/-- `packetInit` is the packet acquired, if any; `output` is what a packet holds. -/
structure SpsAnswers where
  packetInit : Option Nat
  control : MpiCmd → MppRet
  output : List UInt8
  memcpyS : Int

/-- `mpp_packet_init_with_buffer`. -/
def packetInitWithBuffer : Option Nat → Enc (Option Handle)
  | none => return none
  | some id => do
      acquire (.packet id)
      return some (.packet id)

def halMppGetSps (ctx : Option MpiEncTestData) (bufSize : UInt64) (a : SpsAnswers) :
    Enc Copied :=
  match ctx with
  | none => return { ret := mppNok, bufSize }
  | some p => do
      let packet ← packetInitWithBuffer a.packetInit
      if AvcOrHevc p.type ∧ a.control .getHdrSync ≠ 0 then
        release packet
        return { ret := mppNok, bufSize }
      let len := UInt64.ofNat a.output.length
      if bufSize < len then
        release packet
        return { ret := mppNok, bufSize }
      if a.memcpyS ≠ 0 then
        return { ret := mppNok, bufSize }
      release packet
      return { ret := 0, bufSize := len, bytes := a.output }

structure MppFrame where
  width : UInt32
  height : UInt32
  horStride : UInt32
  verStride : UInt32
  fmt : UInt32
  eos : UInt32
  buffer : Option Handle
deriving DecidableEq, Repr

def testMppFrameSetParam (p : MpiEncTestData) (buffer : Option Handle) : MppFrame :=
  { width := p.width, height := p.height, horStride := p.horStride, verStride := p.verStride,
    fmt := p.fmt, eos := p.frmEos, buffer }

/-- One answer of `encode_get_packet`, which delivers a packet unless `ret` is negative,
and what the packet says about itself. -/
structure PacketAnswer where
  ret : MppRet
  packet : Nat
  isPartition : Bool
  isEoi : UInt32
deriving DecidableEq, Repr

structure EncodeAnswers where
  memsetS : Int
  bufferImport : MppBufferInfo → MppRet
  frameInit : MppRet
  packetInit : Option Nat
  encodePutFrame : MppFrame → MppRet
  encodeGetPacket : List PacketAnswer
  output : List UInt8
  memcpyS : Int

/-- The DMA buffer as it is imported; the size is split into two bit fields. -/
def MpiEncTestData.importInfo (p : MpiEncTestData) (dmaFd : Int) : MppBufferInfo :=
  { type := .extDma
    fd := dmaFd
    size := p.frameSize &&& 0x07ffffff
    index := ((p.frameSize &&& 0xf8000000) >>> 0x1b).toUInt32.toInt32 }

/-- A packet that is handed back while it is held is the same object. -/
def receive (id : Nat) : Enc Unit :=
  modify fun s =>
    if .packet id ∈ outstanding s.log then s else { s with log := .acquire (.packet id) :: s.log }

/-- What the loop of `hal_mpp_encode` leaves in its variables. -/
structure Fetched where
  ret : MppRet
  packet : Option Handle
  packetNum : UInt32
  frameCount : Int32
deriving DecidableEq, Repr

/-- The loop over the partitions. `f` is what the variables hold, `eoi` whether the last
packet seen ended the image; the list holds the answers to come. -/
def fetch : List PacketAnswer → UInt32 → Fetched → Enc Fetched
  | [], _, _ => throw .blocked
  | x :: xs, eoi, f => do
      if x.ret < 0 then
        return { f with ret := x.ret }
      receive x.packet
      let f := { f with ret := x.ret, packet := some (.packet x.packet) }
      if x.ret ≠ 0 then
        return f
      let eoi := if x.isPartition then x.isEoi else eoi
      let f := { f with frameCount := f.frameCount + eoi.toInt32, packetNum := f.packetNum + 1 }
      if eoi ≠ 0 then
        return f
      fetch xs eoi f

/-- After the loop: the imported buffer and the last packet are given back, and one packet
is copied to the caller. -/
def deliver (f : Fetched) (bufSize : UInt64) (a : EncodeAnswers) : Enc Copied := do
  if f.ret ≠ 0 then
    release (some .camBuf)
    release f.packet
    return { ret := f.ret, bufSize }
  let len := UInt64.ofNat a.output.length
  if f.packetNum ≠ 1 then
    release (some .camBuf)
    release f.packet
    return { ret := mppNok, bufSize }
  if bufSize < len then
    release (some .camBuf)
    release f.packet
    return { ret := mppNok, bufSize }
  if a.memcpyS ≠ 0 then
    return { ret := mppNok, bufSize }
  release (some .camBuf)
  release f.packet
  return { ret := 0, bufSize := len, bytes := a.output }

/-- The result, and the context with the frames counted so far. -/
def halMppEncode (ctx : Option MpiEncTestData) (dmaFd : Int) (bufSize : UInt64)
    (a : EncodeAnswers) : Enc (Copied × Option MpiEncTestData) :=
  match ctx with
  | none => return ({ ret := mppNok, bufSize }, none)
  | some p => do
      if a.memsetS ≠ 0 then
        return ({ ret := mppNok, bufSize }, some p)
      let info := p.importInfo dmaFd
      modify fun s => { s with imports := info :: s.imports }
      if a.bufferImport info ≠ 0 then
        return ({ ret := mppNok, bufSize }, some p)
      acquire .camBuf
      if a.frameInit ≠ 0 then
        return ({ ret := mppNok, bufSize }, some p)
      acquire .frame
      let packet ← packetInitWithBuffer a.packetInit
      let ret := a.encodePutFrame (testMppFrameSetParam p (some .camBuf))
      if ret ≠ 0 then
        release (some .frame)
        release (some .camBuf)
        release packet
        return ({ ret, bufSize }, some p)
      release (some .frame)
      let f ← fetch a.encodeGetPacket 1
        { ret := 0, packet, packetNum := 0, frameCount := p.frameCount }
      let copied ← deliver f bufSize a
      return (copied, some { p with frameCount := f.frameCount })

end QemuHal.Mpp
