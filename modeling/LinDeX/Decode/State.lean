import LinDeX.Library.Program
import LinDeX.Vaapi.Policy

/-!
# State of the decode runtime

The records of `advc_vaapi_decode_runtime.c`. libva's structures are known by their size and by
the fields the runtime reads; memory is a list of bytes, its length being the size of the block.
-/
namespace LinDeX.Decode
open Vaapi Dmabuf Program Function
variable {ω : Type}
def typeConfig : UInt32 := 0x01000000
def typeContext : UInt32 := 0x02000000
def typeSurface : UInt32 := 0x03000000
def typeBuffer : UInt32 := 0x04000000
def syncLimitNs : UInt64 := 5000000000
def ptsStepNs : UInt64 := 1000000
/-- `ADVC_MAX_INPUT_BYTES`. -/
def inputLimit : Nat := 16 * 1024 * 1024
def sliceDataFlagAll : UInt32 := 0

inductive DecodeCodec where
  | h264 | hevc | vp9
  deriving DecidableEq, Repr

def codecForProfile : VaProfile → DecodeCodec
  | .hevcMain => .hevc
  | .vp9Profile0 => .vp9
  | _ => .h264

structure SliceParameter where
  (sliceDataSize sliceDataOffset sliceDataFlag : UInt32)
  fields : List UInt8
  deriving DecidableEq, Repr

structure Libva where
  /-- `sizeof` the picture parameters of a codec. -/
  pictureSize : DecodeCodec → Nat
  /-- `sizeof` the inverse quantisation matrices of a codec that has them. -/
  iqSize : DecodeCodec → Nat
  /-- `sizeof` the slice parameters of a codec. -/
  sliceSize : DecodeCodec → Nat
  sliceParameter : DecodeCodec → List UInt8 → SliceParameter
  /-- `num_ref_frames` of H.264 picture parameters. -/
  numRefFrames : List UInt8 → UInt8
  /-- `num_ref_idx_l0_active_minus1` and `num_ref_idx_l1_active_minus1` of an H.264 slice. -/
  activeRefs : SliceParameter → UInt8 × UInt8

/-- `struct advc_h264_parameter_input`: the picture parameters and what is set beside them. -/
structure H264Parameters where
  picture : List UInt8
  profileIdc : UInt8
  (visibleWidth visibleHeight : UInt32)
  /-- `max_num_reorder_frames` and `max_dec_frame_buffering` of a bitstream restriction. -/
  bitstreamRestriction : Option (UInt8 × UInt8)
  (l0DefaultActiveMinus1 l1DefaultActiveMinus1 : UInt8)

/-- `struct advc_hevc_parameter_input`. -/
structure HevcParameters where
  picture : List UInt8
  (visibleWidth visibleHeight : UInt32)

structure ReferenceOverride where
  (usesReferenceLists overridePresent usesList1 : Bool)
  deriving DecidableEq, Repr

structure AccessUnit where
  bytes : List UInt8
  ppsId : UInt32 := 0
  start : Bool
  deriving DecidableEq, Repr

structure Bitstream (ω : Type) where
  h264AccessUnit : ω → List (List UInt8 × SliceParameter) → ω × Except Errno AccessUnit
  h264ReferenceOverride : List UInt8 → H264Parameters → Except Errno ReferenceOverride
  h264CodecConfig : H264Parameters → UInt32 → Except Errno (List UInt8)
  h264PrependCodecConfig : ω → List UInt8 → List UInt8 → ω × Except Errno (List UInt8)
  hevcAccessUnit : ω → List (List UInt8 × SliceParameter) → ω × Except Errno AccessUnit
  hevcCodecConfig : HevcParameters → UInt32 → Except Errno (List UInt8)
  vp9AccessUnit :
    ω → List UInt8 → SliceParameter → List UInt8 → UInt32 → UInt32 → ω × Except Errno AccessUnit

structure Env (ω : Type) where
  libva : Libva
  bitstream : Bitstream ω
  client : Client ω
  process : Process ω

structure Config where
  used : Bool
  profile : VaProfile
  deriving DecidableEq, Repr

inductive SurfaceState where
  | idle | pending | ready | error
  deriving DecidableEq, Repr

structure Surface where
  used : Bool
  (width height : UInt32)
  state : SurfaceState
  ptsNs : UInt64
  (ownerContext ownerSession : UInt32)
  brokerBufferId : UInt64
  primeReserved : Bool
  prime : Descriptor
  acquireFenceFd : Fd

def Surface.zero : Surface :=
  { used := false, width := 0, height := 0, state := .idle, ptsNs := 0, ownerContext := 0,
    ownerSession := 0, brokerBufferId := 0, primeReserved := false, prime := Descriptor.zero,
    acquireFenceFd := 0 }

structure Buffer where
  used : Bool
  contextId : UInt32
  type : VaBufferType
  (elementSize capacityElements numElements : UInt32)
  data : List UInt8
  mapped : Bool
  deriving DecidableEq, Repr

/-- `VAPictureParameterBufferType` is libva's buffer type 0. -/
def Buffer.zero : Buffer := ⟨false,0,.pictureParameter,0,0,0,[],false⟩

inductive EosPhase where
  | opened | signalPending | draining | complete | failed
  deriving DecidableEq, Repr

structure EosState where
  phase : EosPhase
  (signalRequested signalQueued outputEosSeen : Bool)
  (outputsProcessedTotal framesProcessedTotal controlsReleasedTotal : UInt64)
  deriving DecidableEq, Repr

/-- `advc_vaapi_decode_eos_state_init`, also a state after `memset`. -/
def EosState.init : EosState := ⟨.opened,false,false,false,0,0,0⟩

/-- `struct advc_vaapi_context`. The structures of each codec are kept under the codec. -/
structure Context where
  used : Bool
  configId : UInt32
  brokerFd : Fd
  (brokerSession width height : UInt32)
  codec : DecodeCodec
  asyncDecodePrime : Bool
  brokerQcomModifier : Int
  pictureActive : Bool
  target : UInt32
  havePicture : Bool
  picture : DecodeCodec → List UInt8
  haveIq : Bool
  iq : DecodeCodec → List UInt8
  sliceParameters : DecodeCodec → List SliceParameter
  (sliceCount sliceDataBoundCount : Nat)
  sliceData : Option (List UInt8)
  sliceDataSize : Nat
  (lastConfig hevcLastConfig : List UInt8)
  configured : Bool
  (ppsL0DefaultActiveMinus1 ppsL1DefaultActiveMinus1 : UInt8)
  (ppsL0Known ppsL1Known : Bool)
  eos : EosState

def Context.zero : Context :=
  { used := false, configId := 0, brokerFd := 0, brokerSession := 0, width := 0, height := 0,
    codec := .h264, asyncDecodePrime := false, brokerQcomModifier := 0, pictureActive := false,
    target := 0, havePicture := false, picture := fun _ => [], haveIq := false,
    iq := fun _ => [], sliceParameters := fun _ => [], sliceCount := 0, sliceDataBoundCount := 0,
    sliceData := none, sliceDataSize := 0, lastConfig := [], hevcLastConfig := [],
    configured := false, ppsL0DefaultActiveMinus1 := 0, ppsL1DefaultActiveMinus1 := 0,
    ppsL0Known := false, ppsL1Known := false, eos := EosState.init }

/-- `struct advc_vaapi_policy`, without the codec names. -/
structure Policy where
  (advertisedH264 advertisedHevc advertisedVp9 : Bool)
  (h264MaxWidth h264MaxHeight hevcMaxWidth hevcMaxHeight vp9MaxWidth vp9MaxHeight : UInt32)

structure Runtime where
  policy : Policy
  modifierMode : ModifierMode
  consumer : ConsumerPolicy
  nextPtsNs : UInt64
  configs : Fin 8 → Config
  contexts : Fin 4 → Context
  surfaces : Fin 64 → Surface
  buffers : Fin 256 → Buffer

def getConfig (rt : Runtime) (id : UInt32) : Option (Fin 8) :=
  (idIndex 8 typeConfig id).filter fun c => (rt.configs c).used
def getContext (rt : Runtime) (id : UInt32) : Option (Fin 4) :=
  (idIndex 4 typeContext id).filter fun i => (rt.contexts i).used
def getSurface (rt : Runtime) (id : UInt32) : Option (Fin 64) :=
  (idIndex 64 typeSurface id).filter fun k => (rt.surfaces k).used
def getBuffer (rt : Runtime) (id : UInt32) : Option (Fin 256) :=
  (idIndex 256 typeBuffer id).filter fun b => (rt.buffers b).used

/-- Memory accesses that the C program makes without a check of its own. -/
inductive Event where
  /-- `memcpy` of so many bytes out of a buffer of this type, whose block has so many. -/
  | copied (type : VaBufferType) (size block : Nat)
  /-- A lookup that found nothing is dereferenced. -/
  | nullDereference
  deriving DecidableEq, Repr

inductive Traffic where
  | opened (i : Fin 4)
  | began (i : Fin 4) (target : UInt32)
  | stamped (i : Fin 4) (k : Fin 64) (ptsNs : UInt64)
  | built (i : Fin 4) (config unit : List UInt8)
  | accepted (i : Fin 4) (bytes : List UInt8) (ptsNs : UInt64) (flags : UInt32)
  | dequeued (i : Fin 4) (bufferId ptsNs : UInt64)
  | delivered (i : Fin 4) (k : Fin 64) (ptsNs : UInt64)
  /-- The broker of a context reserved a destination for the output with this timestamp. -/
  | reserved (i : Fin 4) (bufferId ptsNs : UInt64)
  | returned (i : Fin 4) (bufferId : UInt64)
  | closed (i : Fin 4)
  deriving DecidableEq, Repr

structure Machine (ω : Type) where
  runtime : Runtime
  world : ω
  events : List Event
  traffic : List Traffic

abbrev Prog (ω α : Type) := StateM (Machine ω) α

/-- Ask the world. -/
def io {α : Type} (f : ω → ω × α) : Prog ω α :=
  fun s => ((f s.world).2, { s with world := (f s.world).1 })

def tell (f : ω → ω) : Prog ω Unit := update fun s => { s with world := f s.world }
def runtime : Prog ω Runtime := read (·.runtime)
def context (i : Fin 4) : Prog ω Context := read (·.runtime.contexts i)
def surface (k : Fin 64) : Prog ω Surface := read (·.runtime.surfaces k)
def modifyRuntime (f : Runtime → Runtime) : Prog ω Unit :=
  update fun s => { s with runtime := f s.runtime }
def modifyConfig (c : Fin 8) (f : Config → Config) : Prog ω Unit :=
  modifyRuntime fun rt => { rt with configs := update rt.configs c (f (rt.configs c)) }

def modifyContext (i : Fin 4) (f : Context → Context) : Prog ω Unit :=
  modifyRuntime fun rt =>
    { rt with contexts := update rt.contexts i (f (rt.contexts i)) }

def modifySurface (k : Fin 64) (f : Surface → Surface) : Prog ω Unit :=
  modifyRuntime fun rt =>
    { rt with surfaces := update rt.surfaces k (f (rt.surfaces k)) }

def modifyBuffer (b : Fin 256) (f : Buffer → Buffer) : Prog ω Unit :=
  modifyRuntime fun rt => { rt with buffers := update rt.buffers b (f (rt.buffers b)) }
def log (event : Event) : Prog ω Unit := update fun s => { s with events := s.events ++ [event] }
def note (t : Traffic) : Prog ω Unit := update fun s => { s with traffic := s.traffic ++ [t] }

/-- `memcpy(destination, buffer->data, size)`: the bytes read, and a record of the read. A read
past the end of the block is undefined in C; here it yields what the block holds. -/
def copyFrom (buffer : Buffer) (size : Nat) : Prog ω (List UInt8) := do
  log (.copied buffer.type size buffer.data.length)
  return buffer.data.take size
variable (env : Env ω)
def exactEnv (name value : String) : Prog ω Bool :=
  read fun s => env.process.getenv s.world name == some value
def closeFd (fd : Fd) : Prog ω Unit :=
  if 0 ≤ fd then tell fun w => env.process.close w fd else pure ()

/-- A descriptor whose record is cleared and whose objects are `-1`. -/
def Descriptor.closed : Descriptor := { Descriptor.zero with objects := fun _ => ⟨-1,0⟩ }

/-- The closing of `advc_dmabuf_descriptor_close`; the record becomes `Descriptor.closed`. -/
def descriptorClose (d : Descriptor) : Prog ω Unit := (closableFds d).forM (closeFd env)

/-- `advc_dmabuf_descriptor_validate`. -/
def descriptorValid (d : Descriptor) : Prog ω Bool :=
  read fun s => descriptorValidate (env.process.cloexec s.world) d

def outputClose (output : ClientOutput) : Prog ω Unit := do
  closeFd env output.dataFd
  closeFd env output.acquireFenceFd

def resetStaging (c : Context) : Context :=
  { c with
    pictureActive := false, target := invalidId, havePicture := false, haveIq := false,
    sliceParameters := fun _ => [], sliceCount := 0, sliceDataBoundCount := 0,
    sliceData := none, sliceDataSize := 0 }

/-- `status_for_errno`; `E2BIG` and `EPROTONOSUPPORT` are told apart by their Linux numbers. -/
def statusForErrno : Errno → VaStatus
  | .enomem => .allocationFailed
  | .enotsup | .other 93 => .unsupportedProfile
  | .other 7 | .einval | .eproto => .invalidParameter
  | _ => .operationFailed
end LinDeX.Decode
