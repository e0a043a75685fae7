import LinDeX.Encode.Objects

/-!
# Pictures, and the calls of the runtime

Beginning, rendering and ending a picture, waiting for it and exporting its surface, and with that
all calls an application can make. Every run of the runtime is a list of such calls.
-/
namespace LinDeX.Encode
open Vaapi Dmabuf Program Function
variable {ω : Type} (env : Env ω)
/-- `begin_picture` refuses a surface or a context that is busy. -/
def beginBusy (frameSession : Bool) (contextId : UInt32) (c : Context) (v : Surface) : Bool :=
  c.pictureActive || (frameSession && c.pendingCount != 0) ||
    decide (maxInflightDmabufs ≤ c.pendingCount.toNat) || v.state == .pending ||
    (v.ownerContext != 0 && v.ownerContext != contextId)

def beginPicture (contextId target : UInt32) : Prog ω VaStatus := do
  let rt ← runtime
  match getContext rt contextId with
  | none => return .invalidContext
  | some i =>
    let c := rt.contexts i
    match (getSurface rt target).filter fun k =>
        (rt.surfaces k).width == c.width && (rt.surfaces k).height == c.height with
    | none => return .invalidSurface
    | some k =>
      if (rt.surfaces k).state = .error then return .encodingError
      let frameSession ← frameSessionMode env
      if beginBusy frameSession contextId c (rt.surfaces k) then return .surfaceBusy
      modifyContext i fun c =>
        { c with frame := c.frame.begin, pictureActive := true, target := target }
      modifySurface k fun v => { v with state := .idle, codedBuffer := invalidId }
      return .success

/-- The loop of `render_picture` over the buffers that remain. -/
def renderBuffers (i : Fin 4) (contextId : UInt32) : List UInt32 → Prog ω VaStatus
  | [] => return .success
  | id :: ids => do
    let rt ← runtime
    match getBuffer rt id with
    | none => return .invalidBuffer
    | some b =>
      let buffer := rt.buffers b
      match buffer.data with
      | none => return .invalidParameter
      | some data =>
        if buffer.ownerContext ≠ contextId ∨ buffer.mapped ∨ buffer.type = .coded then
          return .invalidParameter
        match env.frameConsume (rt.contexts i).frame buffer.type data buffer.elementSize
            buffer.numElements with
        | none => return .unsupportedBufferType
        | some frame =>
          modifyContext i fun c => { c with frame := frame }
          renderBuffers i contextId ids
variable (contextId : UInt32)
def renderPicture (ids : List UInt32) : Prog ω VaStatus := do
  let rt ← runtime
  match getContext rt contextId with
  | none => return .invalidContext
  | some i =>
    if !(rt.contexts i).pictureActive then return .operationFailed
    renderBuffers env i contextId ids

/-- `frame_pts_ns`; `none` is `UINT64_MAX`. -/
def framePtsNs (frameIndex : UInt64) (fpsMilli : UInt32) : Option UInt64 :=
  if fpsMilli = 0 ∨ frameIndex > 0xffffffffffffffff / 1000000000000 then none
  else some (frameIndex * 1000000000000 / fpsMilli.toUInt64)

def exportImplicitReadFence (d : Descriptor) : Prog ω (Except Errno Fd) := do
  if d.objectCount ≠ 1 ∨ (d.objects 0).fd < 0 then return .error .enotsup
  match ← io fun w => env.kernel.exportSyncFile w (d.objects 0).fd with
  | .error e => return .error e
  | .ok fd =>
    if fd < 0 then return .error .eproto
    match ← read fun s => env.kernel.syncFileValidate s.world fd with
    | .error e =>
      closeFd env fd
      return .error e
    | .ok () => return .ok fd
variable (k : Fin 64)
def takeAcquireFence : Prog ω (Except Errno Unit) := do
  let v ← surface k
  match ← exportImplicitReadFence env v.prime with
  | .error e => return .error e
  | .ok fence =>
    match ← linkSetAcquireFence env k fence with
    | .error e =>
      closeFd env fence
      return .error e
    | .ok () => return .ok ()

def sameDmabufObject (w : ω) (a b : Descriptor) : Bool :=
  a.objectCount == 1 && b.objectCount == 1 && decide (0 ≤ (a.objects 0).fd) &&
    decide (0 ≤ (b.objects 0).fd) && env.kernel.sameInode w (a.objects 0).fd (b.objects 0).fd

inductive ModifierRoute where
  | unsupported | directLinear | directQcom | gpuRepackLinear
  deriving DecidableEq, Repr

def modifierRouteEncode (mode : ModifierMode) (modifier : UInt64)
    (descriptorValid brokerQcomCapable brokerImportValidated gpuRepackAvailable : Bool) :
    ModifierRoute :=
  if !descriptorValid then .unsupported
  else if modifier = 0 then if mode = .qcom then .unsupported else .directLinear
  else if modifier ≠ qcomCompressed ∨ mode = .linear then .unsupported
  else if brokerQcomCapable && brokerImportValidated then .directQcom
  else if mode = .qcom then .unsupported
  else if gpuRepackAvailable then .gpuRepackLinear else .unsupported
variable (i : Fin 4)
def adoptConverted (k : Fin 64) (converted : Descriptor) :
    Prog ω (Except Errno Bool) := do
  let v ← surface k
  let same ← read fun s => sameDmabufObject env s.world v.brokerPrime converted
  if v.brokerPrimeValid ∧ same then return .ok false
  match ← (if v.link.registered then linkUnregister env i k imageSyncTimeoutMs
      else pure (.ok ())) with
  | .error e => return .error e
  | .ok () =>
    linkClose env k
    descriptorClose env v.brokerPrime
    modifySurface k fun v =>
      { v with
        brokerPrime := converted, brokerPrimeValid := true,
        link := Link.init (some .brokerPrime) }
    return .ok true

/-- The conversion of `prepare_encode_input`, with its ways out. -/
def repackInput (k : Fin 64) : Prog ω (Except Errno Unit) := do
  let v ← surface k
  match ← exportImplicitReadFence env v.prime with
  | .error e => return .error e
  | .ok source =>
    let c ← (match env.process.gpuRepackLinear with
      | none => pure ⟨false,Descriptor.closed, -1, -1⟩
      | some repack => io fun w => repack w v.prime source)
    closeFd env source
    let valid ← descriptorValid env c.linear
    let left ← read fun s => env.kernel.errnoLeft s.world
    let adopted ←
      (if !c.ok then pure (.error (if left = .other 0 then .eio else left))
      else if c.linear.drmModifier ≠ 0 ∨ c.linear.drmFourcc ≠ fourccNv12 ∨ !valid then
        pure (.error .eproto)
      else adoptConverted env i k c.linear)
    let fenced ←
      (match adopted with
      | .error e => pure (.error e)
      | .ok _ => linkSetAcquireFence env k c.acquireFenceFd)
    whenever (fenced ≠ .ok ()) (closeFd env c.acquireFenceFd)
    closeFd env c.releaseFenceFd
    -- the surface owns an adopted buffer; otherwise it is closed here
    whenever (adopted ≠ .ok true) (descriptorClose env c.linear)
    return fenced

def prepareEncodeInput (k : Fin 64) : Prog ω (Except Errno Unit) := do
  let rt ← runtime
  let prime := (rt.surfaces k).prime
  if prime.drmModifier = 0 then return .ok ()
  let valid ← descriptorValid env prime
  let imports ← exactEnv env "ADVC_VAAPI_ENCODE_QCOM_IMPORT" "validated-v1"
  let repacks ← exactEnv env "ADVC_VAAPI_GPU_LINEAR_REPACK" "validated-qcom-nv12-v1"
  match modifierRouteEncode rt.modifierMode prime.drmModifier valid
      (((rt.contexts i).broker.features &&& Feature.encodeQcomModifier) != 0) imports
      (env.process.gpuRepackLinear.isSome && repacks) with
  | .directQcom => takeAcquireFence env k
  | .gpuRepackLinear => repackInput env i k
  | _ => return .error .enotsup

def cancelPicture (status : VaStatus) : Prog ω VaStatus := do
  modifyContext i fun c => { c with pictureActive := false, target := invalidId }
  return status

def cancelSurface (k : Fin 64) (e : Errno) : Prog ω VaStatus := do
  modifySurface k fun v => { v with state := .error }
  cancelPicture i (statusFromErrno e)

def Context.connected (c : Context) (b : Broker) (frameSession : Bool) : Context :=
  { c with
    broker := b, brokerOpen := true, brokerFrameSession := frameSession,
    brokerEosReceived := false, eos := EosState.init }

/-- The session `end_picture` submits to: the open one if it has the frame's parameters, or a
new one. -/
def ensureBroker : Prog ω (Except VaStatus Unit) := do
  let c ← context i
  if c.brokerOpen then
    return if c.broker.bitrate = c.frame.bitrate ∧
        c.broker.framerateMilli = c.frame.framerateMilli then .ok ()
      else .error .attrNotSupported
  match ← brokerOpen env c.frame.codec c.encodeProfile c.width c.height c.frame.bitrate
      c.frame.framerateMilli with
  | .error e => return .error (statusFromErrno e)
  | .ok b =>
    let frameSession ← frameSessionMode env
    modifyContext i fun c => c.connected b frameSession
    log (.opened i)
    return .ok ()

def linkSurface (k : Fin 64) : Prog ω (Except VaStatus Unit) := do
  let v ← surface k
  let fenced ← (if v.writeExported then takeAcquireFence env k else pure (.ok ()))
  match fenced with
  | .error e =>
    modifySurface k fun v => { v with state := .error }
    return .error (statusFromErrno e)
  | .ok () =>
    modifySurface k fun v => { v with writeExported := false }
    let v ← surface k
    if v.link.registered then return .ok ()
    match ← linkRegister env i k with
    | .error e => return .error (statusFromErrno e)
    | .ok () => return .ok ()

def enqueueFrame (rt : Runtime) (i : Fin 4) (k : Fin 64) (b : Fin 256) (ptsNs : UInt64) :
    Runtime :=
  let c := rt.contexts i
  { rt with
    buffers := update rt.buffers b
      { rt.buffers b with output := CodedOutput.empty, pendingSurface := c.target }
    surfaces := update rt.surfaces k
      { rt.surfaces k with
        codedBuffer := c.frame.codedBuffer, ptsNs := ptsNs, submitIndex := c.frameIndex,
        state := .pending }
    contexts := update rt.contexts i
      { c with
        lastPtsNs := ptsNs, pendingCount := c.pendingCount + 1, frameIndex := c.frameIndex + 1,
        pictureActive := false, target := invalidId } }

/-- The end of `end_picture`: the frame goes to the broker. -/
def submitFrame (k : Fin 64) (b : Fin 256) : Prog ω VaStatus := do
  let c ← context i
  match framePtsNs c.frameIndex c.frame.framerateMilli with
  | none =>
    let left ← read fun s => env.kernel.errnoLeft s.world
    cancelSurface i k left
  | some ptsNs =>
    match ← linkSubmit env i k ptsNs with
    | .error e => cancelSurface i k e
    | .ok () =>
      let frameSession ← frameSessionMode env
      let signalled ←
        (if frameSession then brokerSignalEos env c.broker ptsNs else pure (.ok ()))
      match signalled with
      | .error e =>
        log (.abandoned i)
        cancelSurface i k e
      | .ok () =>
        modifyRuntime fun rt => enqueueFrame rt i k b ptsNs
        return .success

def Surface.claimed (v : Surface) (contextId : UInt32) : Surface :=
  { v with ownerContext := if v.ownerContext = 0 then contextId else v.ownerContext }

/-- `end_picture` for a frame with its surface and its coded buffer. -/
def endFrame (contextId : UInt32) (k : Fin 64) (b : Fin 256) : Prog ω VaStatus := do
  match ← ensureBroker env i with
  | .error status => cancelPicture i status
  | .ok () =>
    modifySurface k fun v => v.claimed contextId
    let v ← surface k
    if v.ownerContext ≠ contextId then cancelPicture i .surfaceBusy
    else
      match ← prepareEncodeInput env i k with
      | .error e => cancelPicture i (statusFromErrno e)
      | .ok () =>
        match ← linkSurface env i k with
        | .error status => cancelPicture i status
        | .ok () => submitFrame env i k b

def codedBufferReady (buffer : Buffer) (contextId : UInt32) : Bool :=
  buffer.ownerContext == contextId && buffer.type == .coded && !buffer.mapped &&
    buffer.pendingSurface == invalidId

def endPicture : Prog ω VaStatus := do
  let rt ← runtime
  match getContext rt contextId with
  | none => return .invalidContext
  | some i =>
    let c := rt.contexts i
    if !c.pictureActive then return .operationFailed
    match getSurface rt c.target with
    | none => cancelPicture i .invalidSurface
    | some k =>
      if !c.frame.validate then cancelPicture i .invalidParameter
      else
        match (getBuffer rt c.frame.codedBuffer).filter fun b =>
            codedBufferReady (rt.buffers b) contextId with
        | none => cancelPicture i .invalidBuffer
        | some b => endFrame env i contextId k b

/-- `timeout_ns_to_ms`; both clamps at its end are idle. -/
def timeoutNsToMs (timeoutNs : UInt64) : UInt32 :=
  if timeoutNs = 0 then 0
  else ((min timeoutNs syncLimitNs + 999999) / 1000000).toUInt32
variable (surfaceId : UInt32)
def syncSurface (timeoutNs : UInt64) : Prog ω VaStatus := do
  let rt ← runtime
  match getSurface rt surfaceId with
  | none => return .invalidSurface
  | some k => syncSurfaceLocked env k (timeoutNsToMs timeoutNs)

def syncBuffer (bufferId : UInt32) (timeoutNs : UInt64) : Prog ω VaStatus := do
  let rt ← runtime
  match (getBuffer rt bufferId).filter fun b => (rt.buffers b).type == .coded with
  | none => return .invalidBuffer
  | some b =>
    if (rt.buffers b).pendingSurface = invalidId then return .success
    match getSurface rt (rt.buffers b).pendingSurface with
    | none => return .encodingError
    | some k => syncSurfaceLocked env k (timeoutNsToMs timeoutNs)

inductive SurfaceStatus where
  | rendering | skipped | ready
  deriving DecidableEq, Repr

def querySurfaceStatus : Prog ω (VaStatus × SurfaceStatus) := do
  let rt ← runtime
  return match getSurface rt surfaceId with
    | none => (.invalidSurface, .ready)
    | some k =>
      match (rt.surfaces k).state with
      | .pending => (.success, .rendering)
      | .error => (.success, .skipped)
      | _ => (.success, .ready)

/-- `VA_EXPORT_SURFACE_READ_ONLY`, `..._WRITE_ONLY` and their union. -/
def exportReadOnly : UInt32 := 1
def exportWriteOnly : UInt32 := 2
def exportReadWrite : UInt32 := 3

def awaitSurface : Prog ω VaStatus := do
  let v ← surface k
  if v.state = .pending then syncSurfaceLocked env k imageSyncTimeoutMs else return .success

/-- The checks of `export_surface` on a surface that is exported for writing. -/
def checkWriteExport : Prog ω VaStatus := do
  let rt ← runtime
  if !rt.writeExportReady ∨ (rt.surfaces k).state = .error then return .operationFailed
  match ← exportImplicitReadFence env (rt.surfaces k).prime with
  | .error e => return statusFromErrno e
  | .ok fence =>
    closeFd env fence
    return .success

def exportSurface (surfaceId memType flags : UInt32) : Prog ω VaStatus := do
  if memType ≠ memTypeDrmPrime2 then return .unsupportedMemoryType
  let rt ← runtime
  match getSurface rt surfaceId with
  | none => return .invalidSurface
  | some k =>
    let access := flags &&& exportReadWrite
    let awaited ← awaitSurface env k
    if awaited ≠ .success then return awaited
    let checked ←
      (if access = exportWriteOnly then checkWriteExport env k
      else pure (if access = exportReadOnly then .success else .invalidParameter))
    if checked ≠ .success then return checked
    let v ← surface k
    let status ← io fun w => env.kernel.exportPrime w v.prime flags
    whenever (status = .success ∧ access = exportWriteOnly)
      (modifySurface k fun v => { v with writeExported := true })
    return status

/-- The duplicating loop of `duplicate_descriptor`: the descriptors made so far, or those to
close. -/
def duplicateFds (d : Descriptor) : List (Fin 4) → List Fd → Prog ω (Except (List Fd) (List Fd))
  | [], fds => return .ok fds
  | j :: js, fds => do
    match ← io fun w => env.process.dup w (d.objects j).fd with
    | none => return .error fds
    | some fd => duplicateFds d js (fds ++ [fd])

/-- `image_acquire_surface`; the caller gets the duplicates. -/
def imageAcquireSurface (write : Bool) : Prog ω (VaStatus × List Fd) := do
  let rt ← runtime
  match getSurface rt surfaceId with
  | none => return (.invalidSurface, [])
  | some k =>
    if (rt.surfaces k).state = .pending ∧ write then return (.surfaceBusy, [])
    let awaited ← awaitSurface env k
    if awaited ≠ .success then return (awaited, [])
    let v ← surface k
    if v.state = .error then return (.encodingError, [])
    let valid ← descriptorValid env v.prime
    if !valid then return (.invalidParameter, [])
    match ← duplicateFds env v.prime
        ((List.finRange 4).filter fun j => decide (j.val < v.prime.objectCount.toNat)) [] with
    | .ok fds => return (.success, fds)
    | .error fds =>
      fds.forM (closeFd env)
      let left ← read fun s => env.kernel.errnoLeft s.world
      return (statusFromErrno left, [])

inductive Call where
  | createConfig (profile : VaProfile) (entrypoint : VaEntrypoint)
      (attributes : List ConfigAttrib)
  | destroyConfig (configId : UInt32)
  | createSurfaces (format width height : UInt32) (count : Nat) (attributes : List SurfaceAttrib)
  | destroySurfaces (ids : List UInt32)
  | createContext (configId : UInt32) (width height : Int) (targets : List UInt32)
  | destroyContext (contextId : UInt32)
  | createBuffer (contextId : UInt32) (type : EncBufferType) (size numElements : UInt32)
      (data : Option (List UInt8))
  | setNumElements (bufferId numElements : UInt32)
  | mapBuffer (bufferId : UInt32)
  | writeMapped (bufferId : UInt32) (bytes : List UInt8)
  | unmapBuffer (bufferId : UInt32)
  | destroyBuffer (bufferId : UInt32)
  | beginPicture (contextId target : UInt32)
  | renderPicture (contextId : UInt32) (bufferIds : List UInt32)
  | endPicture (contextId : UInt32)
  | syncSurface (surfaceId : UInt32) (timeoutNs : UInt64)
  | syncBuffer (bufferId : UInt32) (timeoutNs : UInt64)
  | querySurfaceStatus (surfaceId : UInt32)
  | exportSurface (surfaceId memType flags : UInt32)
  | imageAcquireSurface (surfaceId : UInt32) (write : Bool)

def Call.prog : Call → Prog ω VaStatus
  | .createConfig profile entrypoint attributes =>
    Prod.fst <$> Encode.createConfig profile entrypoint attributes
  | .destroyConfig configId => Encode.destroyConfig configId
  | .createSurfaces format width height count attributes =>
    Prod.fst <$> Encode.createSurfaces env format width height count attributes
  | .destroySurfaces ids => Encode.destroySurfaces env ids
  | .createContext configId width height targets =>
    Prod.fst <$> Encode.createContext configId width height targets
  | .destroyContext contextId => Encode.destroyContext env contextId
  | .createBuffer contextId type size numElements data =>
    Prod.fst <$> Encode.createBuffer env contextId type size numElements data
  | .setNumElements bufferId numElements => Encode.bufferSetNumElements bufferId numElements
  | .mapBuffer bufferId => Encode.mapBuffer env bufferId
  | .writeMapped bufferId bytes => do
    Encode.writeMapped bufferId bytes
    return .success
  | .unmapBuffer bufferId => Encode.unmapBuffer bufferId
  | .destroyBuffer bufferId => Encode.destroyBuffer bufferId
  | .beginPicture contextId target => Encode.beginPicture env contextId target
  | .renderPicture contextId bufferIds => Encode.renderPicture env contextId bufferIds
  | .endPicture contextId => Encode.endPicture env contextId
  | .syncSurface surfaceId timeoutNs => Encode.syncSurface env surfaceId timeoutNs
  | .syncBuffer bufferId timeoutNs => Encode.syncBuffer env bufferId timeoutNs
  | .querySurfaceStatus surfaceId => Prod.fst <$> Encode.querySurfaceStatus surfaceId
  | .exportSurface surfaceId memType flags => Encode.exportSurface env surfaceId memType flags
  | .imageAcquireSurface surfaceId write =>
    Prod.fst <$> Encode.imageAcquireSurface env surfaceId write

def step (s : Machine ω) (call : Call) : Machine ω := (call.prog env s).2
def Machine.start (policy : Policy) (mode : ModifierMode) (writeExportReady : Bool) (w : ω) :
    Machine ω := ⟨Runtime.create policy mode writeExportReady,w,[]⟩
end LinDeX.Encode
