import LinDeX.Decode.Objects

/-!
# Pictures

`begin_picture`, `render_picture` and `end_picture`, and waiting for a surface. `sync_surface` gives
up the mutex between its rounds: a call is modelled with a bound on its rounds, and has not returned
when they are used up.
-/
namespace LinDeX.Decode
open Vaapi Dmabuf Program Function
variable {ω : Type} (env : Env ω)
/-- `wait_fence`, the timeout rounded up to milliseconds. -/
def waitFence (fd : Fd) (timeoutNs : UInt64) : Prog ω PollResult :=
  if fd < 0 then pure .ready
  else
    io fun w => env.process.poll w fd
      (if timeoutNs.toNat ≥ 2147483647 * 1000000 then 2147483647
        else (timeoutNs.toNat + 999999) / 1000000)

/-- The end of `sync_surface` for a surface that is ready and carries a fence. -/
def syncReady (fence : Fd) (start limit : UInt64) : Prog ω VaStatus := do
  let dup ← io fun w => env.process.dup w fence
  match dup with
  | none => return .operationFailed
  | some fd =>
    let now ← io env.process.monotonicNs
    if now < start ∨ now - start ≥ limit then
      closeFd env fd
      return .timedOut
    let waited ← waitFence env fd (limit - (now - start))
    closeFd env fd
    return match waited with
      | .ready => .success
      | .timedOut => .timedOut
      | .failed => .operationFailed

/-- The loop of `sync_surface`; `none` when the rounds are used up. -/
def syncLoop (surfaceId : UInt32) (start limit : UInt64) : Nat → Prog ω (Option VaStatus)
  | 0 => return none
  | rounds + 1 => do
    let rt ← runtime
    match getSurface rt surfaceId with
    | none => return some .invalidSurface
    | some k =>
      match (rt.surfaces k).state with
      | .error => return some .decodingError
      | .ready =>
        if (rt.surfaces k).acquireFenceFd < 0 then return some .success
        let status ← syncReady env (rt.surfaces k).acquireFenceFd start limit
        return some status
      | .idle => return some .operationFailed
      | .pending =>
        match getContext rt (rt.surfaces k).ownerContext with
        | none => return some .operationFailed
        | some i =>
          let _ ← drainOneOutput env i
          let now ← io env.process.monotonicNs
          if now < start ∨ now - start ≥ limit then return some .timedOut
          tell env.process.nanosleep
          syncLoop surfaceId start limit rounds

def syncSurface (surfaceId : UInt32) (timeoutNs : UInt64) (rounds : Nat) :
    Prog ω (Option VaStatus) := do
  let start ← io env.process.monotonicNs
  syncLoop env surfaceId start (if timeoutNs > syncLimitNs then syncLimitNs else timeoutNs) rounds

/-- The drain loop of `query_surface_status`, with the rounds that remain. -/
def queryLoop (i : Fin 4) (k : Fin 64) : Nat → Prog ω Unit
  | 0 => pure ()
  | rounds + 1 => do
    let s ← surface k
    if s.state = .pending then
      let drained ← drainOneOutput env i
      if drained > 0 then queryLoop i k rounds

def queryDrain (rt : Runtime) (k : Fin 64) : Prog ω Unit :=
  match getContext rt (rt.surfaces k).ownerContext with
  | none => pure ()
  | some i => whenever ((rt.surfaces k).state = .pending) (queryLoop env i k 64)

/-- `advc_vaapi_decode_query_surface_status`; the flag is `VASurfaceRendering`. -/
def querySurfaceStatus (surfaceId : UInt32) : Prog ω (VaStatus × Bool) := do
  let rt ← runtime
  match getSurface rt surfaceId with
  | none => return (.invalidSurface, false)
  | some k =>
    queryDrain env rt k
    let s ← surface k
    if s.state = .error then return (.decodingError, false)
    return (.success, decide (s.state = .pending))

/-- The checks that `begin_picture` makes before and again after it waited. -/
def checkBegin (rt : Runtime) (contextId target : UInt32) : Except VaStatus (Fin 4 × Fin 64) :=
  match getContext rt contextId, getSurface rt target with
  | none, _ => .error .invalidContext
  | some _, none => .error .invalidSurface
  | some i, some k =>
    if (rt.contexts i).pictureActive ∨ (rt.contexts i).eos.phase ≠ .opened ∨
        (rt.surfaces k).width ≠ (rt.contexts i).width ∨
        (rt.surfaces k).height ≠ (rt.contexts i).height then .error .operationFailed
    else .ok (i, k)

/-- The end of `begin_picture`. -/
def startPicture (i : Fin 4) (k : Fin 64) (target : UInt32) : Prog ω VaStatus := do
  let s ← surface k
  if s.state = .error then return .decodingError
  releaseSurfaceOutput env k
  modifyContext i fun c => { resetStaging c with pictureActive := true, target := target }
  note (.began i target)
  return .success

/-- `advc_vaapi_decode_begin_picture`; `none` while it waits for the surface. -/
def beginPicture (contextId target : UInt32) (rounds : Nat) : Prog ω (Option VaStatus) := do
  let rt ← runtime
  match checkBegin rt contextId target with
  | .error status => return some status
  | .ok (i, k) =>
    if (rt.surfaces k).state ≠ .pending then
      let status ← startPicture env i k target
      return some status
    let synced ← syncSurface env target syncLimitNs rounds
    match synced with
    | none => return none
    | some .success =>
      let rt ← runtime
      match checkBegin rt contextId target with
      | .error status => return some status
      | .ok (i, k) =>
        let status ← startPicture env i k target
        return some status
    | some status => return some status

def maxSlices : DecodeCodec → Nat
  | .vp9 => 1
  | _ => 256

/-- `append_slice_parameters`; a failure is told by its `errno`. -/
def appendSliceParameters (i : Fin 4) (buffer : Buffer) : Prog ω (Option Errno) := do
  let c ← context i
  let expectedSize := env.libva.sliceSize c.codec
  let count := buffer.numElements.toNat
  if c.sliceDataBoundCount ≠ c.sliceCount ∨ buffer.elementSize.toNat ≠ expectedSize ∨
      count = 0 ∨ count > maxSlices c.codec ∨ c.sliceCount > maxSlices c.codec - count then
    return some .einval
  let grown ← io fun w =>
    env.process.malloc w (c.sliceCount * expectedSize + count * expectedSize)
  if !grown then return some .enomem
  let bytes ← copyFrom buffer (count * expectedSize)
  let added := (List.range count).map fun j =>
    env.libva.sliceParameter c.codec ((bytes.drop (j * expectedSize)).take expectedSize)
  modifyContext i fun c =>
    { c with
      sliceParameters := update c.sliceParameters c.codec
        (c.sliceParameters c.codec ++ added)
      sliceCount := c.sliceCount + count }
  return none

def rebaseSliceOffsets (spans : List SliceParameter) (aggregate size maximum : Nat) :
    Option (List SliceParameter) :=
  if spans = [] ∨ size = 0 ∨ aggregate > maximum ∨ size > maximum - aggregate ∨
      aggregate + size > 0xffffffff then none
  else if spans.any fun p =>
      decide (p.sliceDataOffset.toNat > size) || p.sliceDataSize == 0 ||
        decide (p.sliceDataSize.toNat > size - p.sliceDataOffset.toNat) ||
        decide (aggregate + p.sliceDataOffset.toNat > 0xffffffff) then none
  else some (spans.map fun p =>
    { p with sliceDataOffset := UInt32.ofNat (aggregate + p.sliceDataOffset.toNat) })

/-- `set_slice_data`; a failure is told by its `errno`. -/
def setSliceData (i : Fin 4) (buffer : Buffer) : Prog ω (Option Errno) := do
  let c ← context i
  let size := buffer.elementSize.toNat * buffer.numElements.toNat
  if c.sliceDataBoundCount ≥ c.sliceCount ∨ size = 0 ∨ c.sliceDataSize > inputLimit ∨
      size > inputLimit - c.sliceDataSize then return some .einval
  let pending := (c.sliceParameters c.codec).drop c.sliceDataBoundCount
  let spans ← io fun w => env.process.malloc w (8 * pending.length)
  if !spans then return some .enomem
  match rebaseSliceOffsets pending c.sliceDataSize size inputLimit with
  | none => return some .einval
  | some rebased =>
    let grown ← io fun w => env.process.malloc w (c.sliceDataSize + size)
    if !grown then return some .enomem
    let bytes ← copyFrom buffer size
    modifyContext i fun c =>
      { c with
        sliceData := some (c.sliceData.getD [] ++ bytes)
        sliceParameters := update c.sliceParameters c.codec
          ((c.sliceParameters c.codec).take c.sliceDataBoundCount ++ rebased)
        sliceDataSize := c.sliceDataSize + size
        sliceDataBoundCount := c.sliceCount }
    return none

/-- `render_picture` for one picture-parameter buffer. -/
def renderPictureParameter (i : Fin 4) (buffer : Buffer) : Prog ω VaStatus := do
  let c ← context i
  if c.havePicture then return .invalidParameter
  let bytes ← copyFrom buffer (env.libva.pictureSize c.codec)
  modifyContext i fun c =>
    { c with picture := update c.picture c.codec bytes, havePicture := true }
  return .success

/-- `render_picture` for one buffer of inverse quantisation matrices. -/
def renderIqMatrix (i : Fin 4) (buffer : Buffer) : Prog ω VaStatus := do
  let c ← context i
  if c.haveIq then return .invalidParameter
  if c.codec = .vp9 then return .unsupportedBufferType
  let bytes ← copyFrom buffer (env.libva.iqSize c.codec)
  modifyContext i fun c =>
    { c with iq := update c.iq c.codec bytes, haveIq := true }
  return .success

/-- The status of a step that may fail with `errno`. -/
def errnoStatus : Option Errno → VaStatus
  | none => .success
  | some e => statusForErrno e

/-- One round of the loop of `render_picture`. -/
def renderBuffer (i : Fin 4) (contextId bufferId : UInt32) : Prog ω VaStatus := do
  let rt ← runtime
  match getBuffer rt bufferId with
  | none => return .invalidBuffer
  | some b =>
    let buffer := rt.buffers b
    if buffer.contextId ≠ contextId then return .invalidBuffer
    if buffer.mapped then return .operationFailed
    match buffer.type with
    | .pictureParameter => renderPictureParameter env i buffer
    | .iqMatrix => renderIqMatrix env i buffer
    | .sliceParameter => return errnoStatus (← appendSliceParameters env i buffer)
    | .sliceData => return errnoStatus (← setSliceData env i buffer)
    | .other _ => return .unsupportedBufferType

/-- The loop of `render_picture`, which stops at the first failure. -/
def renderBuffers (i : Fin 4) (contextId : UInt32) : List UInt32 → Prog ω VaStatus
  | [] => return .success
  | bufferId :: rest => do
    let status ← renderBuffer env i contextId bufferId
    if status ≠ .success then return status
    renderBuffers i contextId rest

def renderPicture (contextId : UInt32) (bufferIds : List UInt32) : Prog ω VaStatus := do
  let rt ← runtime
  match getContext rt contextId with
  | none => return .invalidContext
  | some i =>
    if !(rt.contexts i).pictureActive then return .operationFailed
    renderBuffers env i contextId bufferIds
end LinDeX.Decode
