import LinDeX.Encode.Sync

/-!
# Configurations, surfaces, contexts and buffers

Creation and destruction of the objects of the encode runtime. Every function holds the runtime's
mutex from its first to its last access, so each is one program.
-/
namespace LinDeX.Encode
open Vaapi Dmabuf Program Bytes
variable {ω : Type} (env : Env ω)
variable (policy : Policy)
/-- `advc_vaapi_encode_runtime_create`, its allocations and its socket path apart. -/
def Runtime.create (mode : ModifierMode) (writeExportReady : Bool) : Runtime where
  policy := policy
  modifierMode := mode
  writeExportReady := writeExportReady
  configs := fun _ => ⟨false,.none,.other 0⟩
  contexts := fun _ => Context.closed
  surfaces := fun _ => Surface.zero
  buffers := fun _ => Buffer.zero

/-- `VAConfigAttribType`, as far as `get_attribute` answers it. -/
inductive ConfigAttribType where
  | rtFormat | rateControl | encPackedHeaders | encInterlaced | encMaxRefFrames | encMaxSlices
  | other
  deriving DecidableEq, Repr

structure ConfigAttrib where
  type : ConfigAttribType
  value : UInt32
  deriving DecidableEq, Repr

/-- `VA_RC_VBR`. -/
def rateControlVbr : UInt32 := 4

def profileCodec : VaProfile → EncodeCodec
  | .h264ConstrainedBaseline => .h264
  | .hevcMain => .hevc
  | _ => .none
variable (profile : VaProfile)
def profileSupported : Bool :=
  policy.primeInputReady &&
    match profileCodec profile with
    | .h264 => policy.h264
    | .hevc => policy.hevc
    | .none => false

/-- The requests among the attributes that `config_init` meets with `get_attribute`. -/
def attribSupported (a : ConfigAttrib) : Bool :=
  match a.type with
  | .rtFormat | .rateControl => true
  | .encPackedHeaders | .encInterlaced => a.value == 0
  | .encMaxRefFrames | .encMaxSlices => (a.value &&& ~~~1) == 0
  | .other => false

def requested (attributes : List ConfigAttrib) (type : ConfigAttribType) (value : UInt32) :
    UInt32 :=
  attributes.foldl (fun v a => if a.type = type then a.value else v) value

def configInit (entrypoint : VaEntrypoint) (attributes : List ConfigAttrib) : Option Config :=
  if entrypoint ≠ .encSlice ∨ !profileSupported policy profile then none
  else if !attributes.all attribSupported then none
  else if requested attributes .rtFormat rtFormatYuv420 ≠ rtFormatYuv420 ∨
      requested attributes .rateControl rateControlVbr ≠ rateControlVbr then none
  else some ⟨true,profileCodec profile,profile⟩

def profileAllowed : Bool :=
  profile == .h264ConstrainedBaseline || profile == .hevcMain

def createConfig (entrypoint : VaEntrypoint)
    (attributes : List ConfigAttrib) : Prog ω (VaStatus × UInt32) := do
  let rt ← runtime
  match if profileAllowed profile then configInit rt.policy profile entrypoint attributes
      else none with
  | none =>
    return (if entrypoint = .encSlice then .unsupportedProfile else .unsupportedEntrypoint, 0)
  | some config =>
    match Fin.find? fun c => !(rt.configs c).used with
    | none => return (.maxNumExceeded, 0)
    | some c =>
      modifyConfig c fun _ => config
      return (.success, makeId typeConfig c)
variable (configId : UInt32)
def destroyConfig : Prog ω VaStatus := do
  let rt ← runtime
  match getConfig rt configId with
  | none => return .invalidConfig
  | some c =>
    if (List.finRange 4).any fun i =>
        (rt.contexts i).used && (rt.contexts i).configId == configId then
      return .operationFailed
    modifyConfig c fun _ => ⟨false,.none,.other 0⟩
    return .success

def memTypeDrmPrime2 : UInt32 := 0x40000000
/-- `VA_SURFACE_ATTRIB_USAGE_HINT_ENCODER`; the generic hint is 0. -/
def usageHintEncoder : UInt32 := 2

def surfaceHasPrimeAttributes (attributes : List SurfaceAttrib) : Bool :=
  attributes.any fun a => a.type == .memoryType && a.value == .integer memTypeDrmPrime2

/-- One round of the attribute loop of `create_surfaces`. -/
def checkSurfaceAttrib (importPrime : Bool) (a : SurfaceAttrib) : Option VaStatus :=
  match a.type, a.value with
  | .none, _ => none
  | .pixelFormat, .integer v => if v = fourccNv12 then none else some .unsupportedRtFormat
  | .pixelFormat, _ => some .unsupportedRtFormat
  | .memoryType, .integer v =>
    if v = memTypeVa ∨ v = memTypeDrmPrime2 then none else some .unsupportedMemoryType
  | .memoryType, _ => some .invalidParameter
  | .usageHint, .integer v =>
    if v ≠ 0 ∧ (v &&& usageHintEncoder) = 0 then some .invalidParameter else none
  | .usageHint, _ => some .invalidParameter
  | .externalBufferDescriptor, .pointer isNull =>
    if !importPrime || isNull then some .invalidParameter else none
  | .externalBufferDescriptor, _ => some .invalidParameter
  | .other, _ => some .attrNotSupported
variable (id width height : UInt32)
/-- The linear NV12 layout that `surface_allocate_linear` describes. -/
def linearDescriptor (pitch sliceHeight : UInt64) (fd : Fd) :
    Descriptor :=
  let ySize := pitch * sliceHeight
  { Descriptor.zero with
    bufferId := id.toUInt64, width := width, height := height, drmFourcc := fourccNv12,
    explicitFlags := explicitAll, cropWidth := width, cropHeight := height, objectCount := 1,
    planeCount := 2, colorPrimaries := 1, colorTransfer := 2, colorMatrix := 3, colorRange := 2,
    chromaHorizontal := 2, chromaVertical := 2,
    objects := fun j => if j = 0 then ⟨fd,ySize + ySize / 2⟩ else ⟨-1,0⟩
    planes := fun j =>
      if j = 0 then ⟨0,0,pitch.toUInt32⟩
      else if j = 1 then ⟨0,ySize,pitch.toUInt32⟩ else ⟨0,0,0⟩ }

/-- `advc_vaapi_encode_surface_allocate_linear` for dimensions that `create_surfaces` accepts. -/
def surfaceAllocateLinear : Prog ω (Except Errno Descriptor) := do
  let pitch := (width.toUInt64 + 63) &&& ~~~63
  let sliceHeight := (height.toUInt64 + 31) &&& ~~~31
  match ← io fun w => env.kernel.allocateSystemHeap w
      (pitch * sliceHeight + pitch * sliceHeight / 2) with
  | .error e => return .error e
  | .ok fd =>
    let d := linearDescriptor id width height pitch sliceHeight fd
    let valid ← descriptorValid env d
    if !valid then
      descriptorClose env d
      return .error .einval
    return .ok d

def importedModifierOk (mode : ModifierMode) (modifier : UInt64) : Bool :=
  match mode with
  | .auto => modifier == 0 || modifier == qcomCompressed
  | .linear => modifier == 0
  | .qcom => modifier == qcomCompressed

def acquirePrime (attributes : List SurfaceAttrib)
    (index count : Nat) : Prog ω (Except VaStatus Descriptor) := do
  if surfaceHasPrimeAttributes attributes then
    match ← io fun w => env.kernel.importPrime w width height attributes index count id with
    | .error status => return .error status
    | .ok d =>
      let rt ← runtime
      if !importedModifierOk rt.modifierMode d.drmModifier then
        descriptorClose env d
        return .error .unsupportedRtFormat
      return .ok d
  else
    return match ← surfaceAllocateLinear env id width height with
      | .error e => .error (statusFromErrno e)
      | .ok d => .ok d

def Surface.cleared : Surface :=
  { Surface.zero with prime := Descriptor.closed, brokerPrime := Descriptor.closed }

/-- A surface as `create_surfaces` leaves it. -/
def Surface.fresh (prime : Descriptor) : Surface :=
  { Surface.cleared with
    used := true, width := width, height := height, codedBuffer := invalidId, prime := prime,
    link := Link.init (some .prime) }

/-- The allocation loop of `create_surfaces` over the slots that remain. -/
def allocateSurfaces (width height : UInt32) (count : Nat) (attributes : List SurfaceAttrib) :
    List (Fin 64) → List (Fin 64) → Prog ω (VaStatus × List (Fin 64))
  | [], allocated => return (.success, allocated)
  | k :: slots, allocated => do
    let v ← surface k
    if allocated.length = count then return (.success, allocated)
    else if v.used then allocateSurfaces width height count attributes slots allocated
    else
      modifySurface k fun _ => Surface.cleared
      match ← acquirePrime env (makeId typeSurface k) width height attributes allocated.length
          count with
      | .error status => return (status, allocated)
      | .ok prime =>
        modifySurface k fun _ => Surface.fresh width height prime
        allocateSurfaces width height count attributes slots (allocated ++ [k])

def clearSurface (k : Fin 64) : Prog ω Unit := do
  linkClose env k
  let v ← surface k
  descriptorClose env v.brokerPrime
  descriptorClose env v.prime
  modifySurface k fun _ => Surface.zero

/-- `advc_vaapi_encode_create_surfaces`: the status and the ids. -/
def createSurfaces (format width height : UInt32) (count : Nat)
    (attributes : List SurfaceAttrib) : Prog ω (VaStatus × List UInt32) := do
  if count = 0 ∨ count > 64 ∨ format ≠ rtFormatYuv420 ∨ width < 16 ∨ height < 16 ∨
      width > maxDimension ∨ height > maxDimension ∨ (width &&& 1) ≠ 0 ∨ (height &&& 1) ≠ 0 then
    return (.unsupportedRtFormat, [])
  match attributes.findSome? (checkSurfaceAttrib (surfaceHasPrimeAttributes attributes)) with
  | some status => return (status, [])
  | none =>
    let created ← allocateSurfaces env width height count attributes (List.finRange 64) []
    if created.2.length ≠ count then
      created.2.forM (clearSurface env)
      return (if created.1 = .success then .maxNumExceeded else created.1, [])
    return (created.1, created.2.map fun k => makeId typeSurface k)

/-- The verdict of the first loop of `destroy_surfaces` on one id. -/
def destroyRefused (rt : Runtime) (id : UInt32) : Option VaStatus :=
  match getSurface rt id with
  | none => some .invalidSurface
  | some k =>
    if (rt.surfaces k).state = .pending ∨ (rt.surfaces k).link.registered then some .surfaceBusy
    else none

/-- One round of the second loop of `destroy_surfaces`. -/
def destroySurface : Prog ω Unit := do
  let rt ← runtime
  match getSurface rt id with
  | none => log .nullDereference
  | some k => clearSurface env k

def destroySurfaces (ids : List UInt32) : Prog ω VaStatus := do
  let rt ← runtime
  match ids.findSome? (destroyRefused rt) with
  | some status => return status
  | none =>
    ids.forM (destroySurface env)
    return .success

/-- `codec_max_width` and `codec_max_height`. -/
def codecLimits (codec : EncodeCodec) : UInt32 × UInt32 :=
  let limit (v : UInt32) := if v = 0 then maxDimension else v
  if codec = .h264 then (limit policy.h264MaxWidth, limit policy.h264MaxHeight)
  else (limit policy.hevcMaxWidth, limit policy.hevcMaxHeight)

def wireEncodeProfile : VaProfile → UInt32
  | .h264ConstrainedBaseline => EncodeProfile.h264ConstrainedBaseline
  | .hevcMain => EncodeProfile.hevcMain
  | _ => EncodeProfile.none

/-- A context as `create_context` sets it up. -/
def Context.opened (config : Config) : Context :=
  { Context.closed with
    used := true, configId := configId, width := width, height := height,
    encodeProfile := wireEncodeProfile config.profile,
    frame := FrameParams.init config.codec width height defaultBitrate defaultFpsMilli }

/-- A slot after `memset(context, 0, sizeof(*context))`. -/
def Context.zero : Context :=
  { Context.closed with target := 0, broker := { Broker.closed with fd := 0 } }

def createContext (width height : Int) (targets : List UInt32) :
    Prog ω (VaStatus × UInt32) := do
  if width < 16 ∨ height < 16 ∨ width % 2 ≠ 0 ∨ height % 2 ≠ 0 then return (.invalidParameter, 0)
  let rt ← runtime
  let width := UInt32.ofNat width.toNat
  let height := UInt32.ofNat height.toNat
  match getConfig rt configId with
  | none => return (.invalidConfig, 0)
  | some c =>
    let config := rt.configs c
    let limits := codecLimits rt.policy config.codec
    if width > limits.1 ∨ height > limits.2 then return (.resolutionNotSupported, 0)
    if targets.any fun id =>
        match getSurface rt id with
        | none => true
        | some k => (rt.surfaces k).width != width || (rt.surfaces k).height != height then
      return (.invalidSurface, 0)
    match Fin.find? fun i => !(rt.contexts i).used with
    | none => return (.maxNumExceeded, 0)
    | some i =>
      if wireEncodeProfile config.profile = EncodeProfile.none then
        modifyContext i fun _ => Context.zero
        return (.unsupportedProfile, 0)
      modifyContext i fun _ => Context.opened configId width height config
      return (.success, makeId typeContext i)
variable (contextId : UInt32)
def destroyContext : Prog ω VaStatus := do
  let rt ← runtime
  match getContext rt contextId with
  | none => return .invalidContext
  | some i =>
    let status ← finishContextLocked env i
    closeContextLocked env i
    return status

def supportedBufferType : EncBufferType → Bool
  | .other _ => false
  | _ => true

def initialData (size : Nat) (data : Option (List UInt8)) : List UInt8 :=
  (data.getD []).take size ++ zeros (size - (data.getD []).length)

/-- A buffer as `create_buffer` sets it up, before its memory. -/
def Buffer.fresh (type : EncBufferType) (size numElements : UInt32) :
    Buffer :=
  { Buffer.zero with
    used := true, ownerContext := contextId, type := type, elementSize := size,
    capacityElements := numElements, numElements := numElements, pendingSurface := invalidId }

def createBuffer (type : EncBufferType) (size numElements : UInt32)
    (data : Option (List UInt8)) : Prog ω (VaStatus × UInt32) := do
  if size = 0 ∨ numElements = 0 ∨ numElements.toNat > (2 ^ 64 - 1) / size.toNat then
    return (.invalidParameter, 0)
  let total := size.toNat * numElements.toNat
  if !supportedBufferType type then return (.unsupportedBufferType, 0)
  let rt ← runtime
  match getContext rt contextId with
  | none => return (.invalidContext, 0)
  | some _ =>
    match Fin.find? fun b => !(rt.buffers b).used with
    | none => return (.maxNumExceeded, 0)
    | some b =>
      let fresh := Buffer.fresh contextId type size numElements
      if type = .coded then
        modifyBuffer b fun _ => { fresh with codedCapacity := total }
        log (.allocated b)
        return (.success, makeId typeBuffer b)
      let allocated ← io fun w => env.process.malloc w total
      if !allocated then
        modifyBuffer b fun _ => Buffer.zero
        return (.allocationFailed, 0)
      modifyBuffer b fun _ => { fresh with data := some (initialData total data) }
      log (.allocated b)
      return (.success, makeId typeBuffer b)

def bufferSetNumElements (bufferId numElements : UInt32) : Prog ω VaStatus := do
  if numElements = 0 then return .invalidParameter
  let rt ← runtime
  match getBuffer rt bufferId with
  | none => return .invalidBuffer
  | some b =>
    if (rt.buffers b).mapped ∨ (rt.buffers b).type = .coded ∨
        numElements > (rt.buffers b).capacityElements then return .invalidParameter
    modifyBuffer b fun buffer => { buffer with numElements := numElements }
    return .success

/-- What `advc_vaapi_encode_map_buffer` waits for: the frame a coded buffer is pending on. -/
def awaitBuffer (b : Fin 256) : Prog ω VaStatus := do
  let rt ← runtime
  if (rt.buffers b).type ≠ .coded ∨ (rt.buffers b).pendingSurface = invalidId then return .success
  match getSurface rt (rt.buffers b).pendingSurface with
  | none => return .encodingError
  | some k => syncSurfaceLocked env k imageSyncTimeoutMs
variable (bufferId : UInt32)
def mapBuffer : Prog ω VaStatus := do
  let rt ← runtime
  match getBuffer rt bufferId with
  | none => return .invalidBuffer
  | some b =>
    if (rt.buffers b).mapped then return .operationFailed
    let status ← awaitBuffer env b
    if status ≠ .success then return status
    let rt ← runtime
    if (rt.buffers b).type = .coded ∧ (rt.buffers b).output.segments = [] then
      return .operationFailed
    modifyBuffer b fun buffer => { buffer with mapped := true }
    return .success

def unmapBuffer : Prog ω VaStatus := do
  let rt ← runtime
  match getBuffer rt bufferId with
  | none => return .invalidBuffer
  | some b =>
    if !(rt.buffers b).mapped then return .operationFailed
    modifyBuffer b fun buffer => { buffer with mapped := false }
    return .success

/-- The application writes through the pointer that `map_buffer` returned for a parameter
buffer. -/
def writeMapped (bytes : List UInt8) : Prog ω Unit := do
  let rt ← runtime
  match getBuffer rt bufferId with
  | none => pure ()
  | some b =>
    whenever ((rt.buffers b).mapped = true) (modifyBuffer b fun buffer =>
      { buffer with
        data := buffer.data.map fun old => bytes.take old.length ++ old.drop bytes.length })

def destroyBuffer : Prog ω VaStatus := do
  let rt ← runtime
  match getBuffer rt bufferId with
  | none => return .invalidBuffer
  | some b =>
    if (rt.buffers b).mapped ∨ (rt.buffers b).pendingSurface ≠ invalidId then return .surfaceBusy
    modifyBuffer b fun _ => Buffer.zero
    return .success
end LinDeX.Encode
