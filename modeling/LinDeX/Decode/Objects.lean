import LinDeX.Decode.Drain

/-!
# Configurations, surfaces, contexts and buffers

Creation and destruction of the objects of the decode runtime. Every function holds the runtime's
mutex from its first to its last access, so each is one program.
-/
namespace LinDeX.Decode
open Vaapi Dmabuf Program Bytes Feature
variable {ω : Type} (env : Env ω)
def configureConsumerPolicy (w : ω) : Option (ModifierMode × ConsumerPolicy) :=
  let set (name value : String) := env.process.getenv w name == some value
  let qcom := set "ADVC_VAAPI_QCOM_IMPORT" "validated-v1"
  (modifierPolicyParse (env.process.getenv w "ADVC_VAAPI_DECODE_OUTPUT")
      (env.process.getenv w "ADVC_VAAPI_OUTPUT")).map fun mode =>
    (mode,
      { acceptsLinearNv12 := decide (mode ≠ .qcom)
        acceptsQcomCompressedNv12 := decide (mode ≠ .linear) && qcom
        gpuRepackAvailable := env.process.gpuRepackLinear.isSome &&
          set "ADVC_VAAPI_GPU_LINEAR_REPACK" "validated-qcom-nv12-v1"
        cpuCopyAllowed := env.process.cpuCopyLinear.isSome &&
          set "ADVC_VAAPI_ALLOW_CPU_COPY" "explicit" })
variable (policy : Policy)
/-- `advc_vaapi_decode_runtime_create`, its allocations and its socket path apart. -/
def Runtime.create (mode : ModifierMode) (consumer : ConsumerPolicy) :
    Runtime where
  policy := policy
  modifierMode := mode
  consumer := consumer
  nextPtsNs := ptsStepNs
  configs := fun _ => ⟨false,.other 0⟩
  contexts := fun _ => { Context.zero with brokerFd := -1 }
  surfaces := fun _ => { Surface.zero with acquireFenceFd := -1 }
  buffers := fun _ => Buffer.zero

/-- `VAConfigAttrib`, as far as its type matters. -/
structure ConfigAttrib where
  isRtFormat : Bool
  value : UInt32
  deriving DecidableEq, Repr

def profileSupported : VaProfile → Bool
  | .h264ConstrainedBaseline | .h264Main => policy.advertisedH264
  | .hevcMain => policy.advertisedHevc
  | .vp9Profile0 => policy.advertisedVp9
  | .other _ => false

def createConfig (profile : VaProfile) (entrypoint : VaEntrypoint)
    (attributes : List ConfigAttrib) : Prog ω (VaStatus × UInt32) := do
  let rt ← runtime
  if !profileSupported rt.policy profile then return (.unsupportedProfile, 0)
  if entrypoint ≠ .vld then return (.unsupportedEntrypoint, 0)
  if attributes.any fun a => !a.isRtFormat || (a.value &&& rtFormatYuv420) == 0 then
    return (.attrNotSupported, 0)
  match Fin.find? fun c => !(rt.configs c).used with
  | none => return (.maxNumExceeded, 0)
  | some c =>
    modifyConfig c fun _ => ⟨true,profile⟩
    return (.success, makeId typeConfig c)
variable (configId : UInt32)
def destroyConfig : Prog ω VaStatus := do
  let rt ← runtime
  match getConfig rt configId with
  | none => return .invalidConfig
  | some c =>
    if (List.finRange 4).any fun i =>
        (rt.contexts i).used && (rt.contexts i).configId == configId then
      return .operationFailed
    modifyConfig c fun _ => ⟨false,.other 0⟩
    return .success

/-- `profile_limits`: the largest width and height. -/
def profileLimits : VaProfile → UInt32 × UInt32
  | .hevcMain => (policy.hevcMaxWidth, policy.hevcMaxHeight)
  | .vp9Profile0 => (policy.vp9MaxWidth, policy.vp9MaxHeight)
  | _ => (policy.h264MaxWidth, policy.h264MaxHeight)

def profileMime : VaProfile → String
  | .hevcMain => "video/hevc"
  | .vp9Profile0 => "video/x-vnd.on2.vp9"
  | _ => "video/avc"

def advertisedSurfaceLimits : UInt32 × UInt32 :=
  let raise (advertised : Bool) (size limit : UInt32 × UInt32) : UInt32 × UInt32 :=
    if advertised then (max size.1 limit.1, max size.2 limit.2) else limit
  raise policy.advertisedVp9 (policy.vp9MaxWidth, policy.vp9MaxHeight)
    (raise policy.advertisedHevc (policy.hevcMaxWidth, policy.hevcMaxHeight)
      (raise policy.advertisedH264 (policy.h264MaxWidth, policy.h264MaxHeight) (0, 0)))

inductive SurfaceAttribType where
  | pixelFormat | memoryType | externalBufferDescriptor | other
  deriving DecidableEq, Repr

/-- `VASurfaceAttrib`; an integer value is kept as its 32 bits. -/
structure SurfaceAttrib where
  type : SurfaceAttribType
  isInteger : Bool
  value : UInt32
  deriving DecidableEq, Repr

/-- One round of the attribute loop of `create_surfaces`. -/
def checkSurfaceAttrib (a : SurfaceAttrib) : Option VaStatus :=
  match a.type with
  | .pixelFormat =>
    if !a.isInteger || a.value != fourccNv12 then some .unsupportedRtFormat else none
  | .memoryType =>
    if !a.isInteger || (a.value &&& memTypeVa) == 0 then some .unsupportedMemoryType else none
  | .externalBufferDescriptor => some .unsupportedMemoryType
  | .other => none

/-- A surface as `create_surfaces` leaves it. -/
def Surface.fresh (width height : UInt32) : Surface :=
  { Surface.zero with used := true, width := width, height := height, acquireFenceFd := -1 }

/-- `advc_vaapi_decode_create_surfaces`: the status and the ids. Slots taken before the table ran
out are cleared again. -/
def createSurfaces (format width height : UInt32) (count : Nat)
    (attributes : List SurfaceAttrib) : Prog ω (VaStatus × List UInt32) := do
  let rt ← runtime
  let limits := advertisedSurfaceLimits rt.policy
  if count = 0 ∨ count > 64 ∨ format ≠ rtFormatYuv420 ∨ width = 0 ∨ height = 0 then
    return (.unsupportedRtFormat, [])
  if width > limits.1 ∨ height > limits.2 then return (.unsupportedRtFormat, [])
  match attributes.findSome? checkSurfaceAttrib with
  | some status => return (status, [])
  | none =>
    let allocated := ((List.finRange 64).filter fun k => !(rt.surfaces k).used).take count
    if allocated.length ≠ count then
      modifyRuntime fun rt =>
        { rt with surfaces := fun k => if k ∈ allocated then Surface.zero else rt.surfaces k }
      return (.maxNumExceeded, [])
    modifyRuntime fun rt =>
      { rt with surfaces := fun k =>
          if k ∈ allocated then Surface.fresh width height else rt.surfaces k }
    return (.success, allocated.map fun k => makeId typeSurface k)

/-- One round of the second loop of `destroy_surfaces`. -/
def destroySurface (id : UInt32) : Prog ω Unit := do
  let rt ← runtime
  match getSurface rt id with
  | none => log .nullDereference
  | some k =>
    releaseSurfaceOutput env k
    modifySurface k fun _ => Surface.zero

def destroySurfaces (ids : List UInt32) : Prog ω VaStatus := do
  let rt ← runtime
  if ids.any fun id => (getSurface rt id).isNone then return .invalidSurface
  ids.forM (destroySurface env)
  return .success

/-- The features `create_context` offers. -/
def offeredFeatures : UInt64 :=
  decode ||| decodePrime ||| dmabuf ||| nativeFence |||
    asyncDecodePrime ||| decodeQcomModifier

/-- The context that `create_context` sets up for a new session, before the modifier mode. -/
def Context.opened (profile : VaProfile) (width height : UInt32) (fd : Fd)
    (session : UInt32) (async qcom : Bool) : Context :=
  { Context.zero with
    used := true, configId := configId, brokerFd := fd, brokerSession := session,
    width := width, height := height, codec := codecForProfile profile,
    asyncDecodePrime := async, brokerQcomModifier := if qcom then 1 else 0 }

/-- The modifier mode of the runtime applied to a new context; `none` when it cannot be met. -/
def applyModifierMode (mode : ModifierMode) (consumer : ConsumerPolicy) (c : Context) :
    Option Context :=
  match mode with
  | .qcom =>
    if c.brokerQcomModifier = 0 ∨ !consumer.acceptsQcomCompressedNv12 then none
    else some { c with asyncDecodePrime := false }
  | .linear => some { c with brokerQcomModifier := -1 }
  | .auto => some c

def connectBroker : Prog ω (Option (Fd × UInt64)) := do
  let connected ← io env.client.connectBounded
  match connected with
  | none => return none
  | some fd =>
    let greeting ← io fun w => env.client.hello w fd offeredFeatures
    let wanted := decode ||| decodePrime
    match greeting with
    | none =>
      tell fun w => env.process.close w fd
      return none
    | some (features, payload) =>
      if (features &&& wanted) ≠ wanted ∨ payload < 264 then
        tell fun w => env.process.close w fd
        return none
      return some (fd, features)

/-- The end of `create_context`: a session on a connected socket becomes the context in a slot. -/
def openContext (i : Fin 4) (configId : UInt32) (profile : VaProfile) (width height : UInt32)
    (fd : Fd) (features : UInt64) : Prog ω (VaStatus × UInt32) := do
  let created ← io fun w => env.client.createSession w fd
    { mime := profileMime profile, direction := Direction.decode, width := width,
      height := height, transport := Transport.aHardwareBuffer }
  if created.1 ≠ Reply.ok then
    tell fun w => env.process.close w fd
    return (.operationFailed, 0)
  let async ← exactEnv env "ADVC_VAAPI_ASYNC_EXPORT" "candidate-firefox-bframe-v1"
  let c := Context.opened configId profile width height fd created.2
    (decide ((features &&& asyncDecodePrime) ≠ 0) && async)
    (decide ((features &&& decodeQcomModifier) ≠ 0))
  let rt ← runtime
  match applyModifierMode rt.modifierMode rt.consumer c with
  | none =>
    let _ ← io fun w => env.client.closeSession w fd created.2
    tell fun w => env.process.close w fd
    modifyContext i fun _ => { Context.zero with brokerFd := -1 }
    return (.unsupportedProfile, 0)
  | some c =>
    modifyContext i fun _ => { c with target := invalidId }
    note (.opened i)
    return (.success, makeId typeContext i)

def createContext (width height : Int) (targets : List UInt32) :
    Prog ω (VaStatus × UInt32) := do
  if width < 16 ∨ height < 16 then return (.invalidParameter, 0)
  let rt ← runtime
  let width := UInt32.ofNat width.toNat
  let height := UInt32.ofNat height.toNat
  match getConfig rt configId with
  | none => return (.invalidConfig, 0)
  | some c =>
    let profile := (rt.configs c).profile
    let limits := profileLimits rt.policy profile
    if width > limits.1 ∨ height > limits.2 then return (.resolutionNotSupported, 0)
    if targets.any fun id =>
        match getSurface rt id with
        | none => true
        | some k => (rt.surfaces k).width != width || (rt.surfaces k).height != height then
      return (.invalidSurface, 0)
    match Fin.find? fun i => !(rt.contexts i).used with
    | none => return (.maxNumExceeded, 0)
    | some i =>
      match ← connectBroker env with
      | none => return (.operationFailed, 0)
      | some (fd, features) => openContext env i configId profile width height fd features
variable (contextId : UInt32)
/-- One round of the surface loop of `destroy_context`. -/
def releaseOwned (k : Fin 64) : Prog ω Unit := do
  let s ← surface k
  if s.used ∧ s.ownerContext = contextId then releaseSurfaceOutput env k

def destroyContext : Prog ω VaStatus := do
  let rt ← runtime
  match getContext rt contextId with
  | none => return .invalidContext
  | some i =>
    (List.finRange 64).forM (releaseOwned env contextId)
    modifyContext i resetStaging
    let c ← context i
    let _ ← io fun w => env.client.flush w c.brokerFd c.brokerSession
    let closed ← io fun w => env.client.closeSession w c.brokerFd c.brokerSession
    let recycled ←
      (if closed = Reply.ok then io fun w => env.client.recycleBrokerSocket w c.brokerFd
      else pure false)
    whenever (!recycled) (tell fun w => env.process.close w c.brokerFd)
    modifyContext i fun _ => { Context.zero with brokerFd := -1 }
    note (.closed i)
    return .success

def bufferShapeSupported (libva : Libva) (codec : DecodeCodec) (type : VaBufferType)
    (size numElements : UInt32) : Bool :=
  match type with
  | .sliceData => true
  | .pictureParameter => size.toNat == libva.pictureSize codec && numElements == 1
  | .iqMatrix => codec != .vp9 && size.toNat == libva.iqSize codec && numElements == 1
  | .sliceParameter => size.toNat == libva.sliceSize codec
  | .other _ => false

def blockOf (size : Nat) : Option (List UInt8) → List UInt8
  | none => zeros size
  | some data => data.take size ++ zeros (size - data.length)

def createBuffer (type : VaBufferType) (size numElements : UInt32)
    (data : Option (List UInt8)) : Prog ω (VaStatus × UInt32) := do
  if size = 0 ∨ numElements = 0 ∨ size.toNat > (2 ^ 64 - 1) / numElements.toNat then
    return (.invalidParameter, 0)
  let total := size.toNat * numElements.toNat
  if total > inputLimit then return (.invalidParameter, 0)
  let rt ← runtime
  match getContext rt contextId with
  | none => return (.invalidContext, 0)
  | some i =>
    if !bufferShapeSupported env.libva (rt.contexts i).codec type size numElements then
      return (.unsupportedBufferType, 0)
    match Fin.find? fun b => !(rt.buffers b).used with
    | none => return (.maxNumExceeded, 0)
    | some b =>
      modifyBuffer b fun _ => Buffer.zero
      let allocated ← io fun w => env.process.malloc w total
      if !allocated then return (.allocationFailed, 0)
      modifyBuffer b fun _ =>
        { used := true, contextId := contextId, type := type, elementSize := size,
          capacityElements := numElements, numElements := numElements,
          data := blockOf total data, mapped := false }
      return (.success, makeId typeBuffer b)

def bufferSetNumElements (bufferId numElements : UInt32) : Prog ω VaStatus := do
  if numElements = 0 then return .invalidParameter
  let rt ← runtime
  match getBuffer rt bufferId with
  | none => return .invalidBuffer
  | some b =>
    if numElements > (rt.buffers b).capacityElements then return .invalidParameter
    modifyBuffer b fun buffer => { buffer with numElements := numElements }
    return .success
variable (bufferId : UInt32)
def mapBuffer : Prog ω VaStatus := do
  let rt ← runtime
  match getBuffer rt bufferId with
  | none => return .invalidBuffer
  | some b =>
    if (rt.buffers b).mapped then return .operationFailed
    modifyBuffer b fun buffer => { buffer with mapped := true }
    return .success

def unmapBuffer : Prog ω VaStatus := do
  let rt ← runtime
  match getBuffer rt bufferId with
  | none => return .invalidBuffer
  | some b =>
    if !(rt.buffers b).mapped then return .operationFailed
    modifyBuffer b fun buffer => { buffer with mapped := false }
    return .success

/-- The application writes through the pointer that `map_buffer` returned. -/
def writeMapped (bytes : List UInt8) : Prog ω Unit := do
  let rt ← runtime
  match getBuffer rt bufferId with
  | none => pure ()
  | some b =>
    if (rt.buffers b).mapped then
      modifyBuffer b fun buffer =>
        { buffer with data := bytes.take buffer.data.length ++ buffer.data.drop bytes.length }

def destroyBuffer : Prog ω VaStatus := do
  let rt ← runtime
  match getBuffer rt bufferId with
  | none => return .invalidBuffer
  | some b =>
    modifyBuffer b fun _ => Buffer.zero
    return .success
end LinDeX.Decode
