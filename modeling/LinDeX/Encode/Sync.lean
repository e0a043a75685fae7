import LinDeX.Encode.Session

/-!
# Waiting for coded output

The link between a surface and a session (`advc_vaapi_image.c`), the loop of `sync_surface_locked`
that moves coded output into the buffers of the frames, and the draining of a context that ends.
-/
namespace LinDeX.Encode
open Vaapi Dmabuf Program Function
variable {ω : Type} (env : Env ω)
def Surface.linked (v : Surface) : Option Descriptor :=
  v.link.descriptor.map fun
    | .prime => v.prime
    | .brokerPrime => v.brokerPrime
variable (k : Fin 64)
def modifyLink (f : Link → Link) : Prog ω Unit :=
  modifySurface k fun v => { v with link := f v.link }

def planeExtent (offset : UInt64) (pitch rows rowBytes : UInt32) (objectSize : UInt64) : Bool :=
  let last := pitch.toUInt64 * (rows - 1).toUInt64
  !(rows == 0 || rowBytes == 0 || pitch < rowBytes || offset > objectSize) &&
    !(last > objectSize - offset || rowBytes.toUInt64 > objectSize - offset - last)

/-- `validate_linear_nv12` with any number of objects; `valid` answers
`advc_dmabuf_descriptor_validate`. -/
def validateLinearNv12 (valid : Bool) (d : Descriptor) : Bool :=
  valid && d.drmFourcc == fourccNv12 && d.drmModifier == 0 && d.planeCount == 2 &&
    (d.width &&& 1) == 0 && (d.height &&& 1) == 0 &&
    planeExtent (d.planes 0).offset (d.planes 0).pitch d.height d.width
      (Descriptor.objectOf d (d.planes 0)).size &&
    planeExtent (d.planes 1).offset (d.planes 1).pitch (d.height / 2) d.width
      (Descriptor.objectOf d (d.planes 1)).size

def waitSyncFile (fd : Fd) (timeoutMs : UInt32) : Prog ω (Except Errno Unit) := do
  if fd < 0 ∨ timeoutMs = 0 then return .error .einval
  match ← read fun s => env.kernel.syncFileValidate s.world fd with
  | .error e => return .error e
  | .ok () =>
    return match ← io fun w => env.process.poll w fd timeoutMs.toNat with
      | .ready => .ok ()
      | .timedOut => .error .etimedout
      | .failed => .error .eio

def linkSetAcquireFence (fence : Fd) : Prog ω (Except Errno Unit) := do
  let v ← surface k
  if fence < -1 ∨ 0 ≤ v.link.releaseFenceFd then return .error .einval
  match ← read fun s =>
      if 0 ≤ fence then env.kernel.syncFileValidate s.world fence else .ok () with
  | .error e => return .error e
  | .ok () =>
    closeFd env v.link.acquireFenceFd
    modifyLink k fun link => { link with acquireFenceFd := fence }
    return .ok ()
variable (i : Fin 4)
/-- `advc_vaapi_encode_surface_link_register` with the session of a context. -/
def linkRegister (k : Fin 64) : Prog ω (Except Errno Unit) := do
  let c ← context i
  let v ← surface k
  match v.linked with
  | none => return .error .einval
  | some d =>
    let valid ← descriptorValid env d
    let descriptorOk := validateLinearNv12 valid d || (d.drmModifier == qcomCompressed &&
      d.drmFourcc == fourccNv12 && d.objectCount == 1 && d.planeCount == 2 && valid)
    if v.link.registered ∨ !descriptorOk ∨ (d.drmModifier = qcomCompressed ∧
        (c.broker.features &&& Feature.encodeQcomModifier) = 0) then return .error .einval
    match ← brokerRegisterSurface env c.broker d with
    | .error e => return .error e
    | .ok () =>
      modifyLink k fun link => { link with registered := true }
      return .ok ()

def linkSubmit (k : Fin 64) (ptsNs : UInt64) : Prog ω (Except Errno Unit) := do
  let v ← surface k
  match v.linked with
  | none => return .error .ebusy
  | some d =>
    if !v.link.registered ∨ 0 ≤ v.link.releaseFenceFd then return .error .ebusy
    match ← brokerSubmitSurface env i d.bufferId ptsNs v.link.acquireFenceFd with
    | .error e => return .error e
    | .ok fence =>
      closeFd env v.link.acquireFenceFd
      modifyLink k fun link => { link with acquireFenceFd := -1, releaseFenceFd := fence }
      return .ok ()
variable (timeoutMs : UInt32)
def linkWait : Prog ω (Except Errno Unit) := do
  if timeoutMs = 0 then return .error .einval
  let v ← surface k
  if v.link.releaseFenceFd < 0 then return .ok ()
  match ← waitSyncFile env v.link.releaseFenceFd timeoutMs with
  | .error e => return .error e
  | .ok () =>
    closeFd env v.link.releaseFenceFd
    modifyLink k fun link => { link with releaseFenceFd := -1 }
    return .ok ()

def linkUnregister (k : Fin 64) (timeoutMs : UInt32) : Prog ω (Except Errno Unit) := do
  let v ← surface k
  if !v.link.registered then return .error .einval
  match ← (if 0 ≤ v.link.releaseFenceFd then linkWait env k timeoutMs else pure (.ok ())) with
  | .error e => return .error e
  | .ok () =>
    let c ← context i
    match ← brokerUnregisterSurface env c.broker ((v.linked.map Descriptor.bufferId).getD 0) with
    | .error e => return .error e
    | .ok () =>
      modifyLink k fun link => { link with registered := false }
      return .ok ()

def linkClose : Prog ω Unit := do
  let v ← surface k
  closeFd env v.link.acquireFenceFd
  closeFd env v.link.releaseFenceFd
  modifyLink k fun _ => Link.init none
variable (rt : Runtime)
def ownedBy (i : Fin 4) (k : Fin 64) : Bool :=
  (rt.surfaces k).used && (rt.surfaces k).ownerContext != 0 &&
    getContext rt (rt.surfaces k).ownerContext == some i

def pendingFor (i : Fin 4) (k : Fin 64) : Bool :=
  ownedBy rt i k && (rt.surfaces k).state == .pending

/-- One round of `find_oldest_pending_surface`. -/
def olderPending (i : Fin 4) (oldest : Option (Fin 64)) (k : Fin 64) :
    Option (Fin 64) :=
  if !pendingFor rt i k then oldest
  else
    match oldest with
    | none => some k
    | some o =>
      if (rt.surfaces k).submitIndex < (rt.surfaces o).submitIndex then some k else some o

def findOldestPendingSurface (i : Fin 4) : Option (Fin 64) :=
  (List.finRange 64).foldl (olderPending rt i) none

/-- The tables after `mark_context_pending_error`: no round of its loop reads what another
writes. -/
def failPending (i : Fin 4) : Runtime :=
  { rt with
    surfaces := fun k =>
      if pendingFor rt i k then { rt.surfaces k with state := .error } else rt.surfaces k
    buffers := fun b =>
      if (List.finRange 64).any fun k =>
          pendingFor rt i k && getBuffer rt (rt.surfaces k).codedBuffer == some b then
        { rt.buffers b with pendingSurface := invalidId }
      else rt.buffers b
    contexts := update rt.contexts i { rt.contexts i with pendingCount := 0 } }

def markContextPendingError : Prog ω Unit := do
  let rt ← runtime
  whenever ((List.finRange 64).any (pendingFor rt i)) (log (.abandoned i))
  modifyRuntime fun rt => failPending rt i
variable (ptsNs : UInt64)
def mediaCodecPtsNs : UInt64 := ptsNs / 1000 * 1000

/-- The tables after the output of the frame on surface `k` went into buffer `b`. -/
def settle (i : Fin 4) (k : Fin 64) (b : Fin 256) (output : CodedOutput) :
    Runtime :=
  { rt with
    surfaces := update rt.surfaces k { rt.surfaces k with state := .ready }
    buffers := update rt.buffers b
      { rt.buffers b with
        output := { output with ptsNs := mediaCodecPtsNs (rt.surfaces k).ptsNs }
        pendingSurface := invalidId }
    contexts := update rt.contexts i
      { rt.contexts i with
        pendingCount := if 0 < (rt.contexts i).pendingCount then (rt.contexts i).pendingCount - 1
          else 0 } }

def closeFrameSession : Prog ω Unit := do
  let c ← context i
  whenever (c.brokerFrameSession ∧ c.pendingCount = 0) do
    brokerClose env c.broker
    modifyContext i fun c => { c with broker := Broker.closed, brokerOpen := false }
    modifyRuntime fun rt =>
      { rt with surfaces := fun k =>
          if ownedBy rt i k then
            { rt.surfaces k with link := { (rt.surfaces k).link with registered := false } }
          else rt.surfaces k }

/-- `mark_context_pending_error` and the status to return. -/
def failRound (status : VaStatus) : Prog ω (Option VaStatus) := do
  markContextPendingError i
  return some status

def endRound (e : Errno) : Prog ω (Option VaStatus) := do
  if e = .etimedout then
    log (.timedOut i)
    return some .timedOut
  failRound i .encodingError

/-- One round of the loop of `sync_surface_locked`; `none` lets the loop go on. -/
def syncRound : Prog ω (Option VaStatus) := do
  match ← brokerReceive env i timeoutMs with
  | .error e => endRound i e
  | .ok output =>
    whenever ((output.flags &&& Flag.endOfStream) ≠ 0)
      (modifyContext i fun c => { c with brokerEosReceived := true })
    if output.size = 0 then failRound i .encodingError
    else
      let rt ← runtime
      match findOldestPendingSurface rt i with
      | none => failRound i .encodingError
      | some k =>
        match getBuffer rt (rt.surfaces k).codedBuffer with
        | none => failRound i .encodingError
        | some b =>
          if (rt.buffers b).type ≠ .coded then failRound i .encodingError
          else
            match ← linkWait env k timeoutMs with
            | .error e => endRound i e
            | .ok () =>
              if output.size > (rt.buffers b).codedCapacity then failRound i .notEnoughBuffer
              else
                log (.stored i (rt.buffers b).pendingSurface (rt.surfaces k).codedBuffer output)
                modifyRuntime fun rt => settle rt i k b output
                closeFrameSession env i
                return none

/-- The loop of `sync_surface_locked`, with the rounds that remain. -/
def syncLoop (i : Fin 4) (k : Fin 64) (timeoutMs : UInt32) : Nat → Prog ω VaStatus
  | 0 => return .encodingError
  | rounds + 1 => do
    let v ← surface k
    if v.state = .pending then
      match ← syncRound env i timeoutMs with
      | some status => return status
      | none => syncLoop i k timeoutMs rounds
    else return if v.state = .ready then .success else .encodingError

def syncRounds : Nat := 65

def syncSurfaceLocked : Prog ω VaStatus := do
  let rt ← runtime
  match (rt.surfaces k).state with
  | .ready | .idle => return .success
  | .error => return .encodingError
  | .pending =>
    match (getContext rt (rt.surfaces k).ownerContext).filter fun i =>
        (rt.contexts i).brokerOpen && (rt.contexts i).pendingCount != 0 with
    | none =>
      log (.orphaned k)
      modifySurface k fun v => { v with state := .error }
      return .encodingError
    | some i => syncLoop env i k timeoutMs syncRounds

def clampMs (ms : UInt64) : UInt32 := if ms > 0xffffffff then 0xffffffff else ms.toUInt32

def statusToErrno : VaStatus → Errno
  | .timedOut => .etimedout
  | .surfaceBusy => .ebusy
  | .notEnoughBuffer => .enospc
  | _ => .eio

/-- `context_eos_drain_once`: whether the end of the stream was received. -/
def contextEosDrainOnce : Prog ω (Except Errno Bool) := do
  let rt ← runtime
  if (rt.contexts i).pendingCount > 0 then
    match findOldestPendingSurface rt i with
    | none => return .error .eproto
    | some k =>
      let status ← syncSurfaceLocked env k timeoutMs
      if status ≠ .success then return .error (statusToErrno status)
      let c ← context i
      if c.brokerEosReceived ∧ c.pendingCount ≠ 0 then return .error .eproto
      return .ok c.brokerEosReceived
  else
    match ← brokerReceive env i timeoutMs with
    | .error e => return .error e
    | .ok output =>
      if (output.flags &&& Flag.endOfStream) = 0 then return .error .eproto
      modifyContext i fun c => { c with brokerEosReceived := true }
      return .ok true

def modifyEos (f : EosState → EosState) : Prog ω Unit :=
  modifyContext i fun c => { c with eos := f c.eos }

def failOnce (e : Errno) : Prog ω (Except Errno Unit) := do
  let c ← context i
  if c.eos.failedClosed then return .error c.eos.failureErrno
  modifyEos i fun eos => { eos with failedClosed := true, failureErrno := e }
  markContextPendingError i
  return .error e

/-- The loop of `advc_vaapi_encode_eos_finish`, with the rounds that remain. -/
def eosLoop (i : Fin 4) (deadline : UInt64) : Nat → Prog ω (Except Errno Unit)
  | 0 => failOnce i .etimedout
  | rounds + 1 => do
    let c ← context i
    if c.eos.eosReceived then return .ok ()
    match ← nowMs env with
    | .error e => failOnce i e
    | .ok now =>
      if now ≥ deadline then failOnce i .etimedout
      else
        match ← contextEosDrainOnce env i (clampMs (deadline - now)) with
        | .error e => failOnce i e
        | .ok received =>
          whenever (received = true) (modifyEos i fun eos => { eos with eosReceived := true })
          eosLoop i deadline rounds

/-- The signal of `advc_vaapi_encode_eos_finish`, sent once. -/
def eosSignal : Prog ω (Except Errno Unit) := do
  let c ← context i
  if c.eos.signalAttempted then
    return if c.eos.signalSucceeded then .ok () else .error .eio
  modifyEos i fun eos => { eos with signalAttempted := true }
  match ← brokerSignalEos env c.broker ptsNs with
  | .error e => return .error e
  | .ok () =>
    modifyEos i fun eos => { eos with signalSucceeded := true }
    return .ok ()

/-- `advc_vaapi_encode_eos_finish` with the operations of `finish_context_locked`. -/
def eosFinish (timeoutMs : UInt32) : Prog ω (Except Errno Unit) := do
  let c ← context i
  if c.eos.failedClosed then return .error c.eos.failureErrno
  if c.eos.eosReceived then return .ok ()
  match ← eosSignal env i ptsNs with
  | .error e => failOnce i e
  | .ok () =>
    match ← nowMs env with
    | .error _ => failOnce i .eoverflow
    | .ok now =>
      if 0xffffffffffffffff - now < timeoutMs.toUInt64 then failOnce i .eoverflow
      else eosLoop env i (now + timeoutMs.toUInt64) syncRounds

/-- The loop of `drain_frame_session_locked`, with the rounds that remain. -/
def drainLoop (i : Fin 4) (deadline : UInt64) : Nat → Prog ω VaStatus
  | 0 => do
    markContextPendingError i
    return .encodingError
  | rounds + 1 => do
    let rt ← runtime
    if (rt.contexts i).pendingCount = 0 then return .success
    let now ← nowMs env
    match findOldestPendingSurface rt i, now.toOption.filter (· < deadline) with
    | none, _ =>
      markContextPendingError i
      return .encodingError
    | some _, none =>
      markContextPendingError i
      return .timedOut
    | some k, some now =>
      let status ← syncSurfaceLocked env k (clampMs (deadline - now))
      if status ≠ .success then
        markContextPendingError i
        return status
      drainLoop i deadline rounds

def drainFrameSessionLocked : Prog ω VaStatus := do
  match ← nowMs env with
  | .error _ =>
    markContextPendingError i
    return .operationFailed
  | .ok start =>
    if 0xffffffffffffffff - start < imageSyncTimeoutMs.toUInt64 then
      markContextPendingError i
      return .operationFailed
    drainLoop env i (start + imageSyncTimeoutMs.toUInt64) syncRounds

def finishContextLocked : Prog ω VaStatus := do
  let c ← context i
  if !c.brokerOpen then return .success
  if c.brokerFrameSession then drainFrameSessionLocked env i
  else
    match ← eosFinish env i c.lastPtsNs imageSyncTimeoutMs with
    | .ok () => return .success
    | .error e => return statusFromErrno e

/-- One round of the loop of `close_context_locked`. -/
def disownSurface (k : Fin 64) : Prog ω Unit := do
  let rt ← runtime
  whenever (ownedBy rt i k) do
    whenever ((rt.contexts i).brokerOpen ∧ (rt.surfaces k).link.registered) do
      let unregistered ← linkUnregister env i k imageSyncTimeoutMs
      whenever (unregistered ≠ .ok ()) (modifySurface k fun v =>
        { v with link := { v.link with registered := false }, state := .error })
    modifySurface k fun v =>
      { v with
        ownerContext := 0, codedBuffer := invalidId,
        state := if v.state = .pending then .error else v.state }

def closeContextLocked : Prog ω Unit := do
  (List.finRange 64).forM (disownSurface env i)
  let c ← context i
  whenever (c.brokerOpen = true) (brokerClose env c.broker)
  modifyContext i fun _ => Context.closed
  log (.closed i)
end LinDeX.Encode
