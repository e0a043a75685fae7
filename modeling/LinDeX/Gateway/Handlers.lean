import LinDeX.Gateway.State

/-!
# The repack gateway: requests

The handlers of `advc_repack_gateway.c` and the loop of `client_worker`. A handler returns `false`
where the source returns a negative number, which ends the worker.
-/
namespace LinDeX.Gateway
open Bytes Dmabuf Repack
variable {ω : Type}
def errnoNumber : Errno → UInt32
  | .enoent => 2
  | .eio => 5
  | .ebadf => 9
  | .eagain => 11
  | .enomem => 12
  | .ebusy => 16
  | .eexist => 17
  | .einval => 22
  | .enospc => 28
  | .eproto => 71
  | .eoverflow => 75
  | .enotsup => 95
  | .etimedout => 110
  | .ealready => 114
  | .other code => code.toUInt32
variable (env : Env ω) (request : Message)
def replyHeader (payloadSize : UInt32) (fdCount : UInt16) : Header :=
  { versionMajor := request.header.versionMajor
    versionMinor := request.header.versionMinor
    messageType := 2
    opcode := request.header.opcode
    requestId := request.header.requestId
    sessionId := request.header.sessionId
    payloadSize := payloadSize
    fdCount := fdCount }

def sendStatusReply (status : Status) (detail : UInt32) :
    Prog ω Bool :=
  sendMessage env { header := replyHeader request 8 0, payload := statusPayload status detail }

def refuse (status : Status) (e : Errno) : Prog ω Bool := do
  closeMessage env request
  sendStatusReply env request status (errnoNumber e)
variable (reply : Message)
def replyStatusIsOk : Bool :=
  reply.header.payloadSize ≥ 8 && getU32 reply.payload 0 == Status.ok

def passOn : Prog ω Bool := do
  let sent ← sendMessage env reply
  closeMessage env reply
  return sent

def forwardRequest : Prog ω Bool := do
  let reply? ← exchangeUpstream env request
  closeMessage env request
  match reply? with
  | none => return false
  | some reply => passOn env reply

/-- The features that `handle_hello` presents to the client. -/
def gatewayFeatures (policy : Policy) (minor : UInt16) (requested features : UInt64) : UInt64 :=
  let features :=
    if !policy.qcomPassthroughValidated || policy.outputMode == .linear then
      features &&& ~~~Feature.decodeQcomModifier
    else features
  if minor ≥ 8 && policy.outputMode != .qcom && (requested &&& Feature.asyncDecodePrime) != 0 then
    features ||| Feature.asyncDecodePrime
  else features &&& ~~~Feature.asyncDecodePrime

def handleHello : Prog ω Bool := do
  let requested :=
    if request.header.payloadSize == 16 then getU64 request.payload 0 else 0xffffffffffffffff
  let reply? ← exchangeUpstream env request
  closeMessage env request
  match reply? with
  | none => return false
  | some reply =>
    if reply.header.payloadSize == 16 && reply.header.fdCount == 0 then
      let features := gatewayFeatures env.policy request.header.versionMinor requested
        (getU64 reply.payload 0)
      passOn env { reply with payload := putU64 reply.payload 0 features }
    else passOn env reply

def sendCachedPrime (output : Output) : Prog ω Bool := do
  let encoded ← Program.read fun c => registrationEncode (env.os.cloexec c.world) output.descriptor
  match encoded with
  | none => sendStatusReply env request Status.internal (errnoNumber .einval)
  | some (payload, fds) =>
    sendMessage env
      { header := replyHeader request 264 fds.length.toUInt16
        payload := statusPayload Status.ok 0 ++ payload
        fds := fds }

def reserveShapeValid : Bool :=
  !(request.header.versionMinor < 8 || request.header.payloadSize != 24 ||
    request.header.fdCount != 0) && zeroRange request.payload 20 4

def reserveFieldsValid (ptsNs : UInt64) (width height fourcc : UInt32) : Bool :=
  !(ptsNs > int64Max || width < 16 || width > 8192 || height < 16 || height > 8192 ||
    (width &&& 1) != 0 || (height &&& 1) != 0 || fourcc != nv12)

def reserveStatus (e : Errno) : Status :=
  if e = .enospc then .wouldBlock else .internal
variable (sessionId : UInt32)
def reservationOutput (id ptsNs : UInt64) (reserved : Repacked) : Output :=
  { used := true
    upstreamReleased := true
    reservation := true
    sessionId := sessionId
    bufferId := id
    ptsNs := wholeMicros ptsNs
    repackLeaseToken := reserved.leaseToken
    descriptor := reserved.descriptor }

def handleReserveLinear : Prog ω Bool := do
  let sessionId := request.header.sessionId
  let ptsNs := getU64 request.payload 0
  let width := getU32 request.payload 8
  let height := getU32 request.payload 12
  let outputs ← Program.read fun c => c.outputs
  if !reserveShapeValid request ||
      !reserveFieldsValid ptsNs width height (getU32 request.payload 16) ||
      (findReservation outputs sessionId ptsNs).isSome then
    refuse env request Status.badMessage .einval
  else
    let id ← allocateReservationId sessionId
    let reserved ← onPool fun w p => reserve env.gpu env.os w p width height id
    match reserved with
    | .error e => refuse env request (reserveStatus e) e
    | .ok reserved =>
      match ← allocateOutput env sessionId id with
      | .error e =>
        discardLease env reserved.leaseToken
        closeFds env (closableFds reserved.descriptor)
        refuse env request (reserveStatus e) e
      | .ok i =>
        let output := reservationOutput sessionId id ptsNs reserved
        setOutput i output
        let sent ← sendCachedPrime env request output
        closeMessage env request
        Program.whenever (sent = false) (discardOutput env i)
        return sent

def passesThrough : Bool :=
  reply.header.payloadSize == 8 ||
    (reply.header.payloadSize == 136 && getU32 reply.payload 28 == Transport.bytes)

def readyShapeValid : Bool :=
  let role := getU32 reply.payload 108
  !(reply.header.payloadSize != 112 || getU32 reply.payload 28 != Transport.aHardwareBuffer ||
    reply.header.fdCount > 1 ||
    ((role == FdRole.acquireFence) != (reply.header.fdCount == 1)) ||
    (reply.header.fdCount == 0 && role != FdRole.none))

/-- `discard_output` of a record that may not exist. -/
def discardRecord : Option (Fin cacheSlots) → Prog ω Unit
  | some i => discardOutput env i
  | none => pure ()

/-- A failed repack: what it holds is given up. `token` is zero if nothing was repacked. -/
def replaceFailed (reservation cached : Option (Fin cacheSlots)) (token : UInt64)
    (fds : List Fd) (e : Errno) : Prog ω (Except Errno Message) := do
  discardRecord env reservation
  Program.whenever (reservation = none ∧ token ≠ 0) (discardLease env token)
  closeFds env fds
  discardRecord env (if reservation = none then cached else none)
  let e ← errnoAfter env e
  return .error e

def linearReply (acquireFence : Fd) : Message :=
  if 0 ≤ acquireFence then
    { reply with
      header := { reply.header with fdCount := 1 }
      payload := putU32 reply.payload 108 FdRole.acquireFence
      fds := [acquireFence] }
  else
    { reply with
      header := { reply.header with fdCount := 0 }
      payload := putU32 reply.payload 108 FdRole.none
      fds := [] }

def linearOutput (record : Output) (reserved : Bool) (bufferId : UInt64) (r : Repacked) : Output :=
  if reserved then
    { record with
      upstreamReleased := true
      bufferId := bufferId
      descriptor := { record.descriptor with bufferId := bufferId }
      reservation := false
      ptsNs := 0 }
  else
    { record with
      upstreamReleased := true
      repackLeaseToken := r.leaseToken
      descriptor := r.descriptor }
variable (source : Descriptor)
/-- The repack of `replace_dequeue_with_linear`. -/
def repackSource (fence : Fd) (bufferId : UInt64) :
    Option (Fin cacheSlots) → Prog ω (Except Errno Repacked)
  | none => onPool fun w p => repackLinearPooled env.gpu env.os w p source fence bufferId
  | some i => do
      let record ← Program.read fun c => c.outputs i
      let stale ← staleErrno env
      if !record.reservation || record.repackLeaseToken == 0 then return .error stale
      else
        onPool fun w p => repackLinearReserved env.gpu env.os w p record.repackLeaseToken source
          fence bufferId
variable (bufferId : UInt64)
def linearRecord (r : Repacked) :
    Option (Fin cacheSlots) → Prog ω (Except Errno (Fin cacheSlots))
  | none => allocateOutput env sessionId bufferId
  | some i => do
      let record ← Program.read fun c => c.outputs i
      return if r.leaseToken != record.repackLeaseToken then .error .eproto else .ok i

def linearValid (cloexec : Fd → Bool) (r : Repacked) : Bool :=
  !(r.descriptor.drmFourcc != nv12 || r.descriptor.drmModifier != 0 ||
    !descriptorValidate cloexec r.descriptor)

/-- `replace_dequeue_with_linear`: the reply for the client, or the error. -/
def replaceDequeueWithLinear (reservation : Option (Fin cacheSlots)) :
    Prog ω (Except Errno Message) := do
  let fence := if reply.header.fdCount == 1 then reply.fd 0 else -1
  match ← repackSource env source fence bufferId reservation with
  | .error e => replaceFailed env reservation none 0 [] e
  | .ok r =>
    let valid ← Program.read fun c => linearValid (env.os.cloexec c.world) r
    if !valid then replaceFailed env reservation none r.leaseToken r.fds .eproto
    else
      match ← linearRecord env request.header.sessionId bufferId r reservation with
      | .error e => replaceFailed env reservation none r.leaseToken r.fds e
      | .ok i =>
        let released ← releaseUpstreamOutput env request.header.sessionId bufferId
          r.sourceReleaseFence
        if !released then
          replaceFailed env reservation (some i) r.leaseToken r.fds .eio
        else
          let record ← Program.read fun c => c.outputs i
          setOutput i (linearOutput record reservation.isSome bufferId r)
          closeFds env (r.sourceReleaseFence ::
            if reservation.isSome then closableFds r.descriptor else [])
          closeMessage env reply
          return .ok (linearReply reply r.acquireFence)

def cacheDirect :
    Prog ω (Except Errno Unit) := do
  match ← allocateOutput env sessionId bufferId with
  | .error e => return .error e
  | .ok i =>
    let record ← Program.read fun c => c.outputs i
    setOutput i { record with upstreamReleased := false, descriptor := source }
    return .ok ()

/-- What `goto fail_output` finds: `errno` and the variables it cleans up. -/
structure Failure where
  errno : Errno
  bufferId : UInt64
  reservation : Option (Fin cacheSlots)
  source : Descriptor

def placeSource (reservation : Option (Fin cacheSlots)) : Prog ω (Except Errno Message) := do
  let direct : Prog ω (Except Errno Message) := do
    let cached ← cacheDirect env request.header.sessionId source bufferId
    return cached.map fun _ => reply
  if source.drmFourcc == nv12 && source.drmModifier == qcomCompressed then
    if reservation.isSome || env.policy.outputMode == .linear ||
        !env.policy.qcomPassthroughValidated then
      if env.policy.outputMode == .qcom then return .error .enotsup
      else
        let replaced ← replaceDequeueWithLinear env request reply source bufferId reservation
        closeFds env (if replaced.isOk then closableFds source else [])
        return replaced
    else direct
  else if source.drmFourcc == nv12 && source.drmModifier == 0 then
    if reservation.isSome || env.policy.outputMode == .qcom then return .error .enotsup
    else direct
  else return .error .enotsup

/-- `handle_dequeue` between the answer of the broker and the reply to the client. -/
def takeOutput : Prog ω (Except Failure Message) := do
  let bufferId := getU64 reply.payload 0
  if !readyShapeValid reply || bufferId == 0 then
    return .error ⟨.eproto,0,none,Client.emptyDescriptor⟩
  else
    let outputs ← Program.read fun c => c.outputs
    let reservation :=
      findReservation outputs request.header.sessionId (getU64 reply.payload 8)
    let (status, source) ← transferUpstream env request.header.sessionId bufferId
    match status with
    | .error e =>
      poisonUpstream
      let e ← errnoAfter env e
      return .error ⟨e,bufferId,reservation,source⟩
    | .ok status =>
      let stale ← staleErrno env
      if status != .ok then return .error ⟨stale,bufferId,reservation,source⟩
      else
        match ← placeSource env request reply source bufferId reservation with
        | .error e => return .error ⟨e,bufferId,reservation,source⟩
        | .ok reply => return .ok reply

/-- The release of `fail_output`; it fails without a connection. -/
def giveBack : Prog ω Bool := do
  let connected ← Program.read Worker.connected
  if bufferId = 0 then return true
  else if connected then releaseUpstreamOutput env sessionId bufferId (-1)
  else return false

def failOutput (failure : Failure) : Prog ω Bool := do
  discardRecord env failure.reservation
  closeFds env (closableFds failure.source)
  closeMessage env reply
  if failure.errno = .eproto then
    poisonUpstream
    return false
  else
    let released ← giveBack env request.header.sessionId failure.bufferId
    if !released then
      poisonUpstream
      return false
    else
      sendStatusReply env request
        (if failure.errno = .enotsup then .unsupported else .internal)
        (errnoNumber failure.errno)

def handleDequeue : Prog ω Bool := do
  let reply? ← exchangeUpstream env request
  closeMessage env request
  match reply? with
  | none => return false
  | some reply =>
    if passesThrough reply then passOn env reply
    else
      match ← takeOutput env request reply with
      | .ok reply => passOn env reply
      | .error failure => failOutput env request reply failure

def handleTransferPrime : Prog ω Bool := do
  if request.header.payloadSize != 8 || request.header.fdCount != 0 then
    refuse env request Status.badMessage .einval
  else
    let outputs ← Program.read fun c => c.outputs
    match findOutput outputs request.header.sessionId (getU64 request.payload 0) with
    | none => forwardRequest env request
    | some i => sendCachedPrime env request (outputs i)

/-- The checks of `handle_release_output`. -/
def releaseShapeValid : Bool :=
  let role := getU32 request.payload 8
  !(request.header.payloadSize != 16 || request.header.fdCount > 1) &&
    zeroRange request.payload 12 4 &&
    !((role == FdRole.none && request.header.fdCount != 0) ||
      (role == FdRole.releaseFence && request.header.fdCount != 1) ||
      (role != FdRole.none && role != FdRole.releaseFence))

def releaseLease (token : UInt64) (fence : Fd) : Prog ω (Except Errno Unit) := do
  let stale ← staleErrno env
  if token == 0 then return .error stale
  else onPool fun w p => poolRelease env.gpu env.os w p token fence

/-- `handle_release_output` for an output that has gone back upstream already. -/
def releaseLinear (i : Fin cacheSlots) (output : Output) :
    Prog ω Bool := do
  let fence := if request.header.fdCount == 1 then request.fd 0 else -1
  match ← releaseLease env output.repackLeaseToken fence with
  | .error e =>
    closeMessage env request
    discardOutput env i
    sendStatusReply env request Status.internal (errnoNumber e)
  | .ok _ =>
    closeMessage env request
    forgetOutput env i
    sendStatusReply env request Status.ok 0

def handleReleaseOutput : Prog ω Bool := do
  if !releaseShapeValid request then refuse env request Status.badMessage .einval
  else
    let outputs ← Program.read fun c => c.outputs
    match findOutput outputs request.header.sessionId (getU64 request.payload 0) with
    | none => forwardRequest env request
    | some i =>
      if (outputs i).upstreamReleased then releaseLinear env request i (outputs i)
      else
        let reply? ← exchangeUpstream env request
        closeMessage env request
        match reply? with
        | none => return false
        | some reply =>
          let sent ← sendMessage env reply
          Program.whenever (replyStatusIsOk reply = true) (discardOutput env i)
          closeMessage env reply
          return sent

def handleFlushOrClose : Prog ω Bool := do
  let reply? ← exchangeUpstream env request
  closeMessage env request
  match reply? with
  | none => return false
  | some reply =>
    let sent ← sendMessage env reply
    Program.whenever (replyStatusIsOk reply = true)
      (clearSessionOutputs env request.header.sessionId)
    closeMessage env reply
    return sent

/-- One round of the loop of `client_worker`; `false` ends it. -/
def handleRequest : Prog ω Bool :=
  if request.header.messageType != 1 then do
    closeMessage env request
    return false
  else
    match Opcode.ofCode request.header.opcode with
    | some .hello => handleHello env request
    | some .reserveLinear => handleReserveLinear env request
    | some .dequeueOutput => handleDequeue env request
    | some .transferPrime => handleTransferPrime env request
    | some .releaseOutput => handleReleaseOutput env request
    | some .flush | some .closeSession => handleFlushOrClose env request
    | some .transferAhb | some .queueAhb => refuse env request Status.unsupported .enotsup
    | _ => forwardRequest env request

/-- The loop of `client_worker` on the requests that come in: whether it is still running after
them, and the state before `clear_client`. -/
def serve (env : Env ω) : List Message → Worker ω → Bool × Worker ω
  | [], c => (true, c)
  | request :: requests, c =>
    let handled := handleRequest env request c
    if handled.1 then serve env requests handled.2 else (false, handled.2)

/-- `advc_turnip_linear_repack_pool_destroy`, as far as the leases are concerned. -/
def destroyPool (p : Pool cacheSlots) : Pool cacheSlots :=
  if p.attached then Pool.create cacheSlots else p

def clearClient : Prog ω Unit := do
  (List.finRange cacheSlots).forM (discardOutput env)
  Program.update fun c => { c with connected := false, pool := destroyPool c.pool }
end LinDeX.Gateway
