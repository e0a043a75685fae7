import LinDeX.Broker.Reply
import LinDeX.Library.Program
import LinDeX.Vaapi.Policy

/-!
# State of the encode runtime

The records of `advc_vaapi_encode_runtime.c` and `advc_vaapi_encode.c`, with the services around
them. The events of a run say what the broker delivered and what became of it.
-/
namespace LinDeX.Encode
open Vaapi Dmabuf Program Function
variable {ω : Type}
def typeConfig : UInt32 := 0x11000000
def typeContext : UInt32 := 0x12000000
def typeSurface : UInt32 := 0x13000000
def typeBuffer : UInt32 := 0x14000000
def syncLimitNs : UInt64 := 5000000000
def imageSyncTimeoutMs : UInt32 := 5000
def defaultBitrate : UInt32 := 8000000
def defaultFpsMilli : UInt32 := 60000
def maxDimension : UInt32 := 8192
def maxCodedSegments : Nat := 8

inductive EncodeCodec where
  | none | h264 | hevc
  deriving DecidableEq, Repr

/-- `VABufferType` of an encode buffer. -/
inductive EncBufferType where
  | coded | sequenceParameter | pictureParameter | sliceParameter | miscParameter
  | other (code : Nat)
  deriving DecidableEq, Repr

/-- `struct advc_vaapi_encode_config`, as far as it is read. -/
structure Config where
  used : Bool
  codec : EncodeCodec
  profile : VaProfile
  deriving DecidableEq, Repr

inductive SurfaceState where
  | idle | pending | ready | error
  deriving DecidableEq, Repr

inductive LinkTarget where
  | prime | brokerPrime
  deriving DecidableEq, Repr

structure Link where
  descriptor : Option LinkTarget
  (acquireFenceFd releaseFenceFd : Fd)
  registered : Bool
  deriving DecidableEq, Repr

/-- `advc_vaapi_encode_surface_link_init`; without a target, what `link_close` leaves. -/
def Link.init (descriptor : Option LinkTarget) : Link := ⟨descriptor, -1, -1,false⟩

/-- `struct advc_encode_surface_slot`, without the counters of the accounting query. -/
structure Surface where
  used : Bool
  (width height : UInt32)
  state : SurfaceState
  (ownerContext codedBuffer : UInt32)
  (ptsNs submitIndex : UInt64)
  writeExported : Bool
  (prime brokerPrime : Descriptor)
  brokerPrimeValid : Bool
  link : Link

def Surface.zero : Surface :=
  { used := false, width := 0, height := 0, state := .idle, ownerContext := 0, codedBuffer := 0,
    ptsNs := 0, submitIndex := 0, writeExported := false, prime := Descriptor.zero,
    brokerPrime := Descriptor.zero, brokerPrimeValid := false, link := ⟨none,0,0,false⟩ }

/-- `struct advc_vaapi_encode_coded_output`: the mapped bytes of each segment. -/
structure CodedOutput where
  segments : List (List UInt8)
  ptsNs : UInt64
  flags : UInt32
  deriving DecidableEq, Repr

/-- Also what `advc_vaapi_encode_coded_output_close` leaves. -/
def CodedOutput.empty : CodedOutput := ⟨[],0,0⟩

def CodedOutput.size (o : CodedOutput) : Nat := (o.segments.map List.length).sum

/-- `struct advc_encode_buffer_slot`. -/
structure Buffer where
  (used mapped : Bool)
  ownerContext : UInt32
  type : EncBufferType
  (elementSize capacityElements numElements : UInt32)
  codedCapacity : Nat
  pendingSurface : UInt32
  data : Option (List UInt8)
  output : CodedOutput
  deriving DecidableEq, Repr

def Buffer.zero : Buffer :=
  { used := false, mapped := false, ownerContext := 0, type := .other 0, elementSize := 0,
    capacityElements := 0, numElements := 0, codedCapacity := 0, pendingSurface := 0,
    data := none, output := CodedOutput.empty }

structure FrameParams where
  codec : EncodeCodec
  (width height bitrate framerateMilli codedBuffer gopFrames : UInt32)
  (sequenceSeen pictureSeen sliceSeen forceIdr : Bool)
  deriving DecidableEq, Repr

def FrameParams.init (codec : EncodeCodec) (width height bitrate framerateMilli : UInt32) :
    FrameParams :=
  { codec := codec, width := width, height := height, bitrate := bitrate,
    framerateMilli := framerateMilli, codedBuffer := invalidId, gopFrames := 0,
    sequenceSeen := false, pictureSeen := false, sliceSeen := false, forceIdr := false }

/-- A record after `memset`. -/
def FrameParams.zero : FrameParams := { FrameParams.init .none 0 0 0 0 with codedBuffer := 0 }

def FrameParams.begin (frame : FrameParams) : FrameParams :=
  { frame with
    codedBuffer := invalidId, pictureSeen := false, sliceSeen := false, forceIdr := false }

def FrameParams.validate (frame : FrameParams) : Bool :=
  !(frame.width < 16 || frame.height < 16 || (frame.width &&& 1) != 0 ||
    (frame.height &&& 1) != 0 || frame.bitrate == 0 || frame.bitrate > maxEncodeBitrate ||
    frame.framerateMilli < 1000 || frame.framerateMilli > 240000 || !frame.sequenceSeen ||
    !frame.pictureSeen || !frame.sliceSeen || frame.codedBuffer == invalidId)

/-- `struct advc_vaapi_encode_broker`, with the fields of its configuration that are read. -/
structure Broker where
  fd : Fd
  sessionId : UInt32
  features : UInt64
  (width height bitrate framerateMilli : UInt32)
  deriving DecidableEq, Repr

/-- Also what `advc_vaapi_encode_broker_close` leaves. -/
def Broker.closed : Broker := ⟨-1,0,0,0,0,0,0⟩

structure EosState where
  (signalAttempted signalSucceeded eosReceived failedClosed : Bool)
  failureErrno : Errno
  deriving DecidableEq, Repr

/-- A state after `memset`; `failure_errno` is only read once it was set. -/
def EosState.init : EosState := ⟨false,false,false,false,.other 0⟩

/-- `struct advc_encode_context_slot`. -/
structure Context where
  used : Bool
  (configId width height : UInt32)
  pictureActive : Bool
  (target pendingCount : UInt32)
  (frameIndex lastPtsNs : UInt64)
  encodeProfile : UInt32
  frame : FrameParams
  broker : Broker
  (brokerOpen brokerFrameSession brokerEosReceived : Bool)
  eos : EosState
  deriving DecidableEq, Repr

def Context.closed : Context :=
  { used := false, configId := 0, width := 0, height := 0, pictureActive := false,
    target := invalidId, pendingCount := 0, frameIndex := 0, lastPtsNs := 0, encodeProfile := 0,
    frame := FrameParams.zero, broker := Broker.closed, brokerOpen := false,
    brokerFrameSession := false, brokerEosReceived := false, eos := EosState.init }

structure Policy where
  (h264 hevc : Bool)
  (h264MaxWidth h264MaxHeight hevcMaxWidth hevcMaxHeight : UInt32)
  primeInputReady : Bool
  deriving DecidableEq, Repr

structure Runtime where
  policy : Policy
  modifierMode : ModifierMode
  writeExportReady : Bool
  configs : Fin 8 → Config
  contexts : Fin 4 → Context
  surfaces : Fin 64 → Surface
  buffers : Fin 256 → Buffer

inductive SurfaceAttribType where
  | none | pixelFormat | memoryType | usageHint | externalBufferDescriptor | other
  deriving DecidableEq, Repr

/-- `VAGenericValue`: an integer as its 32 bits, or a pointer that may be null. -/
inductive AttribValue where
  | integer (bits : UInt32)
  | pointer (isNull : Bool)
  | other
  deriving DecidableEq, Repr

structure SurfaceAttrib where
  type : SurfaceAttribType
  value : AttribValue
  deriving DecidableEq, Repr

/-- The calls of `advc/client.h` that only encoders make. -/
structure EncodeClient (ω : Type) where
  /-- `advc_client_connect_bounded`, with the `errno` of a failure. -/
  connectBounded : ω → ω × Except Errno Fd
  hello : ω → Fd → UInt64 → ω × Except Errno (UInt64 × UInt32)
  queryCapabilities : ω → Fd → ω × Except Errno LinDeX.Broker.CapabilitySet
  registerDmabuf : ω → Fd → UInt32 → Descriptor → ω × Reply
  unregisterDmabuf : ω → Fd → UInt32 → UInt64 → ω × Reply
  queueDmabuf : ω → Fd → UInt32 → Submission → ω × Reply
  /-- The status of a completion and its release fence, `-1` for none. -/
  completeDmabuf : ω → Fd → UInt32 → UInt64 → ω × Reply × Fd

structure EncodeKernel (ω : Type) where
  /-- `CLOCK_MONOTONIC` in milliseconds. -/
  monotonicMs : ω → ω × Except Errno UInt64
  /-- `poll(NULL, 0, timeout)`. -/
  sleep : ω → Nat → ω × Except Errno Unit
  /-- `advc_dmabuf_sync_file_validate`. -/
  syncFileValidate : ω → Fd → Except Errno Unit
  mmap : ω → Fd → (size : Nat) → ω × Except Errno (Fin size → UInt8)
  /-- `DMA_BUF_IOCTL_EXPORT_SYNC_FILE`. -/
  exportSyncFile : ω → Fd → ω × Except Errno Fd
  /-- `fstat` of both descriptors reports one inode. -/
  sameInode : ω → Fd → Fd → Bool
  /-- `errno` as earlier calls left it, where the code reads it without setting it. -/
  errnoLeft : ω → Errno
  /-- `allocate_system_heap`. -/
  allocateSystemHeap : ω → UInt64 → ω × Except Errno Fd
  /-- `advc_vaapi_prime_import_surface_attributes` for one of several new surfaces. -/
  importPrime : ω → UInt32 → UInt32 → List SurfaceAttrib → Nat → Nat → UInt32 →
    ω × Except VaStatus Descriptor
  /-- `advc_vaapi_prime_export_nv12`. -/
  exportPrime : ω → Descriptor → UInt32 → ω × VaStatus

structure Env (ω : Type) where
  client : Client ω
  encoder : EncodeClient ω
  kernel : EncodeKernel ω
  process : Process ω
  /-- `advc_vaapi_encode_frame_consume`: what a parameter buffer makes of the frame. -/
  frameConsume : FrameParams → EncBufferType → List UInt8 → UInt32 → UInt32 → Option FrameParams
variable (rt : Runtime) (id : UInt32)
def getConfig : Option (Fin 8) :=
  (idIndex 8 typeConfig id).filter fun c => (rt.configs c).used
def getContext : Option (Fin 4) :=
  (idIndex 4 typeContext id).filter fun i => (rt.contexts i).used
def getSurface : Option (Fin 64) :=
  (idIndex 64 typeSurface id).filter fun k => (rt.surfaces k).used
def getBuffer : Option (Fin 256) :=
  (idIndex 256 typeBuffer id).filter fun b => (rt.buffers b).used

structure Part where
  flags : UInt32
  bytes : List UInt8
  deriving DecidableEq, Repr

inductive Event where
  | opened (i : Fin 4)
  /-- The broker of a context took a frame, for which the picture named this surface and this
  coded buffer. -/
  | submitted (i : Fin 4) (surface buffer : UInt32)
  | delivered (i : Fin 4) (part : Part)
  | stored (i : Fin 4) (surface buffer : UInt32) (output : CodedOutput)
  | timedOut (i : Fin 4)
  | abandoned (i : Fin 4)
  | closed (i : Fin 4)
  | allocated (b : Fin 256)
  | orphaned (k : Fin 64)
  /-- A lookup that found nothing is dereferenced. -/
  | nullDereference
  deriving DecidableEq, Repr

structure Machine (ω : Type) where
  runtime : Runtime
  world : ω
  events : List Event

abbrev Prog (ω α : Type) := StateM (Machine ω) α

/-- Ask the world. -/
def io {α : Type} (f : ω → ω × α) : Prog ω α :=
  fun s => ((f s.world).2, { s with world := (f s.world).1 })

def tell (f : ω → ω) : Prog ω Unit := update fun s => { s with world := f s.world }
def runtime : Prog ω Runtime := read (·.runtime)
variable (i : Fin 4)
def context : Prog ω Context := read (·.runtime.contexts i)
variable (k : Fin 64)
def surface : Prog ω Surface := read (·.runtime.surfaces k)
def modifyRuntime (f : Runtime → Runtime) : Prog ω Unit :=
  update fun s => { s with runtime := f s.runtime }
def Runtime.setConfig (c : Fin 8) (v : Config) : Runtime :=
  { rt with configs := update rt.configs c v }
def Runtime.setContext (v : Context) : Runtime :=
  { rt with contexts := update rt.contexts i v }
def Runtime.setSurface (v : Surface) : Runtime :=
  { rt with surfaces := update rt.surfaces k v }
def Runtime.setBuffer (b : Fin 256) (v : Buffer) : Runtime :=
  { rt with buffers := update rt.buffers b v }
def modifyConfig (c : Fin 8) (f : Config → Config) : Prog ω Unit :=
  modifyRuntime fun rt => rt.setConfig c (f (rt.configs c))
def modifyContext (f : Context → Context) : Prog ω Unit :=
  modifyRuntime fun rt => rt.setContext i (f (rt.contexts i))
def modifySurface (f : Surface → Surface) : Prog ω Unit :=
  modifyRuntime fun rt => rt.setSurface k (f (rt.surfaces k))
def modifyBuffer (b : Fin 256) (f : Buffer → Buffer) : Prog ω Unit :=
  modifyRuntime fun rt => rt.setBuffer b (f (rt.buffers b))
def log (event : Event) : Prog ω Unit := update fun s => { s with events := s.events ++ [event] }
variable (env : Env ω)
def closeFd (fd : Fd) : Prog ω Unit :=
  if 0 ≤ fd then tell fun w => env.process.close w fd else pure ()

def outputClose (output : ClientOutput) : Prog ω Unit := do
  closeFd env output.dataFd
  closeFd env output.acquireFenceFd

def exactEnv (name value : String) : Prog ω Bool :=
  read fun s => env.process.getenv s.world name == some value
def frameSessionMode : Prog ω Bool :=
  exactEnv env "ADVC_VAAPI_ENCODE_FRAME_SESSION" "validated-v1"

/-- A descriptor whose record is cleared and whose objects are `-1`; also `descriptor_init`. -/
def Descriptor.closed : Descriptor := { Descriptor.zero with objects := fun _ => ⟨-1,0⟩ }

/-- The closing of `advc_dmabuf_descriptor_close`; the record becomes `Descriptor.closed`. -/
def descriptorClose (d : Descriptor) : Prog ω Unit := (closableFds d).forM (closeFd env)

/-- `advc_dmabuf_descriptor_validate`. -/
def descriptorValid (d : Descriptor) : Prog ω Bool :=
  read fun s => descriptorValidate (env.process.cloexec s.world) d

def statusFromErrno : Errno → VaStatus
  | .enomem => .allocationFailed
  | .etimedout => .timedOut
  | .ebusy | .eagain => .surfaceBusy
  | .enotsup => .unsupportedProfile
  | .einval | .eoverflow | .ebadf => .invalidParameter
  | _ => .operationFailed
end LinDeX.Encode
