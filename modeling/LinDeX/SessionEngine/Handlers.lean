import LinDeX.SessionEngine.State

/-!
# Request handlers of one session

Each `handle_*` of `session_engine.c` that works on an existing session, as a function from the
session slot and the world to their successors, the reply and the effects on the way.
-/
namespace LinDeX.SessionEngine
open Dmabuf Bytes Transport Flag
variable {ω : Type}
structure Result (ω : Type) where
  status : Status
  world : ω
  session : SessionSlot
  reply : Message
  effects : List Effect

/-- `return status` before anything was touched. -/
def refuse (status : Status) (w : ω) (s : SessionSlot) (reply : Message) : Result ω :=
  ⟨status,w,s,reply,[]⟩

def dmabufErrnoStatus : Errno → Status
  | .einval | .ebadf | .eexist | .enoent | .ebusy | .ealready => .badMessage
  | .enospc | .enomem => .noResource
  | .eagain => .wouldBlock
  | .enotsup => .unsupported
  | _ => .internal

def sessionDmabufFormatAllowed (b : BackendOps ω) (s : SessionSlot) (w : ω) (d : Descriptor) :
    ω × Int × Option Errno :=
  match b.dmabufFormatAllowed with
  | none => (w, 0, some .enotsup)
  | some allowed =>
    if s.backendHandle = 0 then (w, 0, some .enotsup) else allowed w s.backendHandle d

def freeDmabufCompletion (s : SessionSlot) : Option (Fin 4) :=
  Fin.find? fun i => !(s.dmabufCompletions i).inUse
def findDmabufCompletion (s : SessionSlot) (id : UInt64) : Option (Fin 4) :=
  Fin.find? fun i => (s.dmabufCompletions i).inUse && (s.dmabufCompletions i).bufferId == id
def freeOutputSlot (s : SessionSlot) : Option (Fin 8) :=
  Fin.find? fun i => !(s.outputs i).inUse
def findOutput (s : SessionSlot) (id : UInt64) : Option (Fin 8) :=
  Fin.find? fun i => (s.outputs i).inUse && (s.outputs i).id == id

/-- `fcntl(request->fds[0], F_DUPFD_CLOEXEC, 0)` of the one descriptor a request may carry; `-1`
when it carries none. -/
def dupRequestFd (os : Os ω) (w : ω) (req : Message) : ω × Except Errno Fd :=
  if req.header.fdCount == 1 then
    match os.dup w (req.fd 0) with
    | (w, .error e) => (w, .error e)
    | (w, .ok fd) => (w, .ok fd)
  else (w, .ok (-1))

/-- `write_all_at`: every round makes progress, so `size` rounds are enough. -/
def writeAllAt (os : Os ω) (fd : Fd) : Nat → ω → List UInt8 → Nat → ω × Bool
  | _, w, [], _ => (w, true)
  | 0, w, _ :: _, _ => (w, false)
  | fuel + 1, w, data, done =>
    let r := os.pwrite w fd data done
    if r.2 = 0 then (r.1, false) else writeAllAt os fd fuel r.1 (data.drop r.2) (done + r.2)

/-- `read_all_at`, with the bytes read so far. -/
def readAllAt (os : Os ω) (fd : Fd) (offset : Nat) : Nat → ω → List UInt8 → Nat →
    ω × Option (List UInt8)
  | _, w, done, 0 => (w, some done)
  | 0, w, _, _ + 1 => (w, none)
  | fuel + 1, w, done, left =>
    let r := os.pread w fd left (offset + done.length)
    let chunk := r.2.take left
    if chunk.isEmpty then (r.1, none)
    else readAllAt os fd offset fuel r.1 (done ++ chunk) (left - chunk.length)

def fillSealedOutput (os : Os ω) (w : ω) (fd : Fd) (data : List UInt8) (size : Nat) : ω × Bool :=
  let truncated := os.ftruncate w fd size
  let written :=
    if truncated.2 then writeAllAt os fd size truncated.1 (data.take size) 0 else truncated
  if written.2 then os.addSeals written.1 fd else written

def createSealedOutput (os : Os ω) (w : ω) (data : List UInt8) (size : Nat) :
    ω × Option Nat × List FdEvent :=
  match os.memfdCreate w with
  | (w, none) => (w, none, [])
  | (w, some fd) =>
    let filled := fillSealedOutput os w fd data size
    if filled.2 then (filled.1, some fd, [.gain .sealedOutput fd])
    else (os.close filled.1 fd, none, [.gain .sealedOutput fd,.close .sealedOutput fd])

/-- `input_fd_is_sealed`: shrink, grow and write are all sealed. -/
def inputFdIsSealed (os : Os ω) (w : ω) (fd : Fd) : Bool :=
  match os.getSeals w fd with
  | none => false
  | some seals => (seals &&& 14) == 14

/-- The checks `load_input` makes on a memfd before it reads from it. -/
def inputFdUsable (os : Os ω) (w : ω) (fd : Fd) (offset size : UInt64) : Bool :=
  !(offset > int64Max || offset + size < offset) &&
    match os.fstat w fd with
    | none => false
    | some st =>
      st.isRegular && !decide (st.size < 0) && inputFdIsSealed os w fd &&
        !decide (((offset + size).toNat : Int) > st.size)

/-- `load_input`: the declared size and the bytes handed on. -/
def loadInput (os : Os ω) (w : ω) (req : Message) : ω × Except Status (Nat × List UInt8) :=
  if req.header.payloadSize < 48 then (w, .error Status.badMessage)
  else
    let offset := getU64 req.payload 16
    let size := getU64 req.payload 24
    let role := getU32 req.payload 36
    if !zeroRange req.payload 40 8 then (w, .error Status.badMessage)
    else if size > maxInputBytes then (w, .error Status.noResource)
    else if req.header.fdCount == 0 then
      if role != FdRole.none || offset != 48 || size > 0xffffffff - 48 ||
          req.header.payloadSize != 48 + size.toUInt32 then (w, .error Status.badMessage)
      else (w, .ok (size.toNat, (req.payload.drop 48).take size.toNat))
    else if req.header.fdCount == 1 && role == FdRole.inputData &&
        req.header.payloadSize == 48 then
      if !inputFdUsable os w (req.fd 0) offset size then (w, .error Status.badMessage)
      else
        let allocated := os.malloc w (if size > 0 then size.toNat else 1)
        if !allocated.2 then (allocated.1, .error Status.noResource)
        else
          match readAllAt os (req.fd 0) offset.toNat size.toNat allocated.1 [] size.toNat with
          | (w, none) => (w, .error Status.badMessage)
          | (w, some data) => (w, .ok (size.toNat, data))
    else (w, .error Status.badMessage)

/-- An empty control record: no descriptor, no data, role `NONE`. -/
def emptyInputRecord (req : Message) : Bool :=
  !(req.header.fdCount != 0 || req.header.payloadSize != 48 || getU64 req.payload 16 != 48 ||
    getU64 req.payload 24 != 0 || getU32 req.payload 36 != FdRole.none)

def handleQueue (b : BackendOps ω) (os : Os ω) (w : ω) (s : SessionSlot) (req reply : Message) :
    Result ω :=
  let flags := getU32 req.payload 32
  if (s.transport == androidAhbSurface || s.transport == dmabuf) &&
      (!emptyInputRecord req || flags != endOfStream) then
    refuse Status.unsupported w s reply
  else if s.transport == brokerEglSurface && !emptyInputRecord req then
    refuse Status.badMessage w s reply
  else
    match loadInput os w req with
    | (w, .error status) => refuse status w s reply
    | (w, .ok (size, data)) =>
      if flags &&& ~~~(endOfStream ||| keyFrame ||| codecConfig) != 0 then
        refuse Status.badMessage w s reply
      else if s.direction == Direction.encode.toUInt8 &&
          (((flags &&& endOfStream) != 0 &&
              (flags != endOfStream || size != 0)) ||
            ((flags &&& endOfStream) == 0 &&
              (flags != 0 || size != s.encodeFrameSize))) then
        refuse Status.badMessage w s reply
      else
        let r := b.queueInput w s.backendHandle data (getU64 req.payload 8) flags
        ⟨r.2,r.1,s,if r.2 == .ok then writeStatus reply r.2 0 else reply,[]⟩

/-- The input a `QUEUE_AHB` record describes, without its fence. -/
def queueAhbInput (req : Message) : BackendAhbInput :=
  { ptsNs := getU64 req.payload 0
    width := getU32 req.payload 8
    height := getU32 req.payload 12
    format := getU32 req.payload 16
    layers := getU32 req.payload 20
    usage := getU64 req.payload 24
    acquireFenceFd := 0 }

/-- The field checks of `handle_queue_ahb`. -/
def queueAhbValid (req : Message) : Bool :=
  let input := queueAhbInput req
  let role := getU32 req.payload 36
  !(input.width == 0 || input.height == 0 || input.layers != 1 || input.ptsNs > int64Max ||
    getU32 req.payload 32 != 0 ||
    ((role == FdRole.none) != (req.header.fdCount == 0)) ||
    (req.header.fdCount == 1 && role != FdRole.acquireFence))

/-- The session once `handle_queue_ahb` has accepted `input`. -/
def SessionSlot.withPendingAhb (s : SessionSlot) (input : BackendAhbInput) : SessionSlot :=
  { s with
    pendingAhb := input
    pendingAhbState := .awaitHandle
    pendingAhbStatus := Status.internal
    pendingAhbDetail := 0
    pendingAhbReleaseFence := -1 }

def handleQueueAhb (os : Os ω) (w : ω) (s : SessionSlot) (req reply : Message) : Result ω :=
  if req.header.versionMinor < 4 || s.transport != androidAhbSurface then
    refuse Status.unsupported w s reply
  else if s.pendingAhbState != .none then refuse Status.wouldBlock w s reply
  else if req.header.payloadSize != 48 || req.header.fdCount > 1 then
    refuse Status.badMessage w s reply
  else if !zeroRange req.payload 40 8 then refuse Status.badMessage w s reply
  else if !queueAhbValid req then refuse Status.badMessage w s reply
  else
    match dupRequestFd os w req with
    | (w, .error _) => refuse Status.internal w s reply
    | (w, .ok fence) =>
      let accepted := writeStatus reply Status.ok 0
      ⟨Status.ok,w,s.withPendingAhb { queueAhbInput req with acquireFenceFd := fence },
        { accepted with header := { accepted.header with flags := ahbFollows } },
        fdEffects (fdEvent .gain .ahbAcquire fence) ++ [.ahbQueued]⟩

def SessionSlot.clearPendingAhb (s : SessionSlot) : SessionSlot :=
  { s with
    pendingAhb := { BackendAhbInput.zero with acquireFenceFd := -1 }
    pendingAhbState := .none }

def completeAhbPayload (s : SessionSlot) : List UInt8 :=
  let p := putU32 (zeros 16) 0 s.pendingAhbStatus
  let p := putU32 p 4 s.pendingAhbDetail
  putU32 p 8 (if 0 ≤ s.pendingAhbReleaseFence then FdRole.releaseFence else FdRole.none)

def replyRecord (reply : Message) (size : UInt32) (payload : List UInt8) (fd : Fd) : Message :=
  { reply with
    header := { reply.header with
      payloadSize := size
      fdCount := if 0 ≤ fd then 1 else reply.header.fdCount }
    payload := payload
    fds := if 0 ≤ fd then [fd] else reply.fds }

def handleCompleteAhb (w : ω) (s : SessionSlot) (req reply : Message) : Result ω :=
  if req.header.versionMinor < 4 || s.transport != androidAhbSurface then
    refuse Status.unsupported w s reply
  else if req.header.payloadSize != 0 || req.header.fdCount != 0 then
    refuse Status.badMessage w s reply
  else if s.pendingAhbState != .complete then refuse Status.wouldBlock w s reply
  else
    let fence := s.pendingAhbReleaseFence
    let taken := if 0 ≤ fence then { s with pendingAhbReleaseFence := -1 } else s
    ⟨.ok,w,taken.clearPendingAhb,replyRecord reply 16 (completeAhbPayload s) fence,
      .ahbDelivered s.pendingAhbStatus fence :: fdEffects (fdEvent .reply .ahbFence fence)⟩

def handleRegisterDmabuf (b : BackendOps ω) (os : Os ω) (w : ω) (s : SessionSlot)
    (req reply : Message) : Result ω :=
  match s.dmabufs with
  | none => refuse Status.unsupported w s reply
  | some registry =>
    if req.header.versionMinor < 5 || s.transport != dmabuf then
      refuse Status.unsupported w s reply
    else
      match registrationDecode (os.cloexec w) req.payload req.header.payloadSize req.fds
          req.header.fdCount with
      | .error e => refuse (dmabufErrnoStatus e) w s reply
      | .ok d =>
        let r := register os (sessionDmabufFormatAllowed b s) w registry d
        match r.result with
        | .error e =>
          ⟨dmabufErrnoStatus e,r.world,{ s with dmabufs := some r.registry },reply,
            fdEffects r.events⟩
        | .ok _ =>
          ⟨.ok,r.world,{ s with dmabufs := some r.registry },
            writeStatus reply Status.ok 0,fdEffects r.events⟩

def handleUnregisterDmabuf (os : Os ω) (w : ω) (s : SessionSlot) (req reply : Message) :
    Result ω :=
  match s.dmabufs with
  | none => refuse Status.unsupported w s reply
  | some registry =>
    if req.header.versionMinor < 5 || s.transport != dmabuf then
      refuse Status.unsupported w s reply
    else
      match unregisterDecode req.payload req.header.payloadSize req.header.fdCount with
      | .error e => refuse (dmabufErrnoStatus e) w s reply
      | .ok id =>
        let r := unregister os w registry id
        match r.result with
        | .error e =>
          ⟨dmabufErrnoStatus e,r.world,{ s with dmabufs := some r.registry },reply,
            fdEffects r.events⟩
        | .ok _ =>
          ⟨.ok,r.world,{ s with dmabufs := some r.registry },
            writeStatus reply Status.ok 0,fdEffects r.events⟩

/-- The answer of `submit_dmabuf` breaks its contract: the status is out of range, or a failure
carries a fence, or the fence is not a sync file. -/
def submitRejected (os : Os ω) (w : ω) (status : Status) (fence : Fd) : Bool :=
  status > Status.internal || (status != .ok && decide (0 ≤ fence)) ||
    (decide (0 ≤ fence) && !os.syncFileValidate w fence)

def handleQueueDmabuf (b : BackendOps ω) (os : Os ω) (w : ω) (s : SessionSlot)
    (req reply : Message) : Result ω :=
  match s.dmabufs, b.submitDmabuf with
  | some registry, some submit =>
    if req.header.versionMinor < 5 || s.transport != dmabuf then
      refuse Status.unsupported w s reply
    else
      match freeDmabufCompletion s with
      | none => refuse Status.wouldBlock w s reply
      | some j =>
        match submissionDecode (os.syncFileValidate w) req.payload req.header.payloadSize
            req.fds req.header.fdCount with
        | .error e => refuse (dmabufErrnoStatus e) w s reply
        | .ok submission =>
          let begun := begin os w registry submission
          match begun.result with
          | .error e =>
            ⟨dmabufErrnoStatus e,begun.world,{ s with dmabufs := some begun.registry },
              reply,fdEffects begun.events⟩
          | .ok job =>
            match job.descriptor with
            | none =>
              ⟨.internal,os.closeIfOpen begun.world job.acquireFenceFd,
                { s with dmabufs := some (finish begun.registry job.bufferId).1 },reply,
                fdEffects (begun.events ++
                  fdEvent .close .jobAcquire job.acquireFenceFd)⟩
            | some descriptor =>
              let answer :=
                submit begun.world s.backendHandle descriptor job.ptsNs
                  job.acquireFenceFd
              let passed :=
                begun.events ++ fdEvent .give .jobAcquire job.acquireFenceFd ++
                  fdEvent .gain .dmabufFence answer.2.2
              if submitRejected os answer.1 answer.2.1 answer.2.2 then
                ⟨.internal,os.closeIfOpen answer.1 answer.2.2,
                  { s with dmabufs := some (finish begun.registry job.bufferId).1 },
                  reply,
                  fdEffects (passed ++ fdEvent .close .dmabufFence answer.2.2)⟩
              else if answer.2.1 != .ok then
                ⟨answer.2.1,answer.1,
                  { s with dmabufs := some (finish begun.registry job.bufferId).1 },
                  reply,fdEffects passed⟩
              else
                ⟨Status.ok,answer.1,{ s with dmabufs := some begun.registry }.setCompletion j
                    ⟨job.bufferId,Status.ok,0,answer.2.2,true⟩,
                  writeStatus reply Status.ok 0,fdEffects passed⟩
  | _, _ => refuse Status.unsupported w s reply

def completeDmabufPayload (id : UInt64) (c : CompletionSlot) : List UInt8 :=
  let p := putU64 (zeros 24) 0 id
  let p := putU32 p 8 c.status
  let p := putU32 p 12 c.detail
  putU32 p 16 (if 0 ≤ c.releaseFenceFd then FdRole.releaseFence else FdRole.none)

def handleCompleteDmabuf (w : ω) (s : SessionSlot) (req reply : Message) : Result ω :=
  match s.dmabufs with
  | none => refuse Status.unsupported w s reply
  | some registry =>
    if req.header.versionMinor < 5 || s.transport != dmabuf then
      refuse Status.unsupported w s reply
    else if req.header.payloadSize != 8 || req.header.fdCount != 0 then
      refuse Status.badMessage w s reply
    else
      let id := getU64 req.payload 0
      if id == 0 then refuse Status.badMessage w s reply
      else
        match findDmabufCompletion s id with
        | none => refuse Status.wouldBlock w s reply
        | some j =>
          let finished := finish registry id
          match finished.2 with
          | .error _ =>
            ⟨.internal,w,{ s with dmabufs := some finished.1 },reply,[]⟩
          | .ok _ =>
            let c := s.dmabufCompletions j
            ⟨.ok,w,{ s with dmabufs := some finished.1 }.setCompletion j CompletionSlot.free,
              replyRecord reply 24 (completeDmabufPayload id c) c.releaseFenceFd,
              fdEffects (fdEvent .reply .dmabufFence c.releaseFenceFd)⟩

/-- `allocate_output_id`: the identifier and the counter afterwards. -/
def allocateOutputId (next : UInt64) : UInt64 × UInt64 :=
  if next == 0 then (next + 1, next + 2) else (next, next + 1)

/-- The first rejection of `handle_dequeue`. -/
def outputOversized (o : BackendOutput) : Bool :=
  o.size > maxOutputBytes || (o.size > 0 && o.data.isNone) ||
    o.flags &&& ~~~(endOfStream ||| keyFrame ||| codecConfig) != 0

def BackendOutput.withTransport (o : BackendOutput) : BackendOutput :=
  { o with transport := if o.transport == 0 then bytes else o.transport }

/-- What `handle_dequeue` logs once `dequeue_output` has returned an output. -/
def dequeuedEffects (o : BackendOutput) : List Effect :=
  .dequeued o.token :: fdEffects (fdEvent .gain .outputFence o.acquireFenceFd)

/-- A rejection of `handle_dequeue` that closes the acquire fence. -/
def rejectOutput (b : BackendOps ω) (os : Os ω) (status : Status) (w : ω) (s : SessionSlot)
    (reply : Message) (o : BackendOutput) : Result ω :=
  ⟨status,os.closeIfOpen (b.releaseOutput w s.backendHandle o.token (-1)) o.acquireFenceFd,s,
    reply,dequeuedEffects o ++ .released none o.token ::
      fdEffects (fdEvent .close .outputFence o.acquireFenceFd)⟩

def outputPayload (id : UInt64) (o : BackendOutput) : List UInt8 :=
  let p := putU64 (zeros 136) 0 id
  let p := putU64 p 8 o.ptsNs
  let p := putU64 p 16 (UInt64.ofNat o.size)
  let p := putU32 p 24 o.flags
  let p := putU32 p 28 o.transport
  let p := putU32 p 32 o.width
  let p := putU32 p 36 o.height
  let p := putU32 p 40 o.androidFormat
  let p := putU32 p 60 o.stride
  let p := putU32 p 56 o.layers
  let p := putU64 p 64 o.usage
  let p := putU32 p 108 (if 0 ≤ o.acquireFenceFd then FdRole.acquireFence else FdRole.none)
  let p := putU32 p 112 o.sliceHeight
  let p := putU32 p 116 o.cropLeft
  let p := putU32 p 120 o.cropTop
  let p := putU32 p 124 o.cropRight
  putU32 p 128 o.cropBottom

/-- The `OUTPUT_READY` reply; `fd` is the memfd of a byte output, `-1` otherwise. -/
def outputReply (reply : Message) (id : UInt64) (o : BackendOutput) (fd : Fd) : Message :=
  let isBytes := o.transport == bytes
  { reply with
    header := { reply.header with
      payloadSize := if isBytes then 136 else 112
      fdCount := if isBytes then 1 else if 0 ≤ o.acquireFenceFd then 1 else 0 }
    payload := (outputPayload id o).take (if isBytes then 136 else 112)
    fds := if 0 ≤ fd then [fd] else if 0 ≤ o.acquireFenceFd then [o.acquireFenceFd]
      else reply.fds }

/-- The fields of `prime_metadata` that `handle_dequeue` writes. -/
def AhbPublicMetadata.ofOutput (m : AhbPublicMetadata) (o : BackendOutput) : AhbPublicMetadata :=
  { width := o.width
    height := o.height
    androidFormat := o.androidFormat
    stride := o.stride
    layers := o.layers
    usage := o.usage
    cropLeft := o.cropLeft
    cropTop := o.cropTop
    cropWidth := if o.cropRight ≥ o.cropLeft then o.cropRight - o.cropLeft + 1 else m.cropWidth
    cropHeight := if o.cropBottom ≥ o.cropTop then o.cropBottom - o.cropTop + 1
      else m.cropHeight }

def OutputSlot.takeBytes (slot : OutputSlot) (id : UInt64) : OutputSlot :=
  { slot with id := id, inUse := true }

def OutputSlot.takeAhb (slot : OutputSlot) (id : UInt64) (o : BackendOutput) : OutputSlot :=
  { slot with
    id := id
    inUse := true
    backendToken := o.token
    nativeBuffer := o.nativeBuffer
    transport := o.transport
    primeMetadata := slot.primeMetadata.ofOutput o }

/-- The byte branch of `handle_dequeue`. -/
def dequeueBytes (b : BackendOps ω) (os : Os ω) (w : ω) (s : SessionSlot) (next : UInt64)
    (reply : Message) (j : Fin 8) (o : BackendOutput) : Result ω × UInt64 :=
  if o.nativeBuffer != 0 || 0 ≤ o.acquireFenceFd then
    (rejectOutput b os Status.internal w s reply o, next)
  else
    let made := createSealedOutput os w (o.data.getD []) o.size
    let w := b.releaseOutput made.1 s.backendHandle o.token (-1)
    let effects := dequeuedEffects o ++ fdEffects made.2.2 ++ [.released none o.token]
    match made.2.1 with
    | none => (⟨.internal,w,s,reply,effects⟩, next)
    | some fd =>
      let id := allocateOutputId next
      (⟨.ok,w,s.setOutput j ((s.outputs j).takeBytes id.1),outputReply reply id.1 o fd,
        effects ++ fdEffects [.reply .sealedOutput fd]⟩, id.2)

/-- The `AHardwareBuffer` branch of `handle_dequeue`. -/
def dequeueAhb (b : BackendOps ω) (os : Os ω) (w : ω) (s : SessionSlot) (next : UInt64)
    (reply : Message) (j : Fin 8) (o : BackendOutput) : Result ω × UInt64 :=
  if o.nativeBuffer == 0 || o.data.isSome || o.size != 0 || b.sendNativeBuffer.isNone then
    (rejectOutput b os Status.unsupported w s reply o, next)
  else
    let id := allocateOutputId next
    (⟨.ok,w,s.setOutput j ((s.outputs j).takeAhb id.1 o),outputReply reply id.1 o (-1),
      dequeuedEffects o ++ .accepted j o.token ::
        fdEffects (fdEvent .reply .outputFence o.acquireFenceFd)⟩, id.2)

/-- `handle_dequeue`, with the output counter of the engine. -/
def handleDequeue (b : BackendOps ω) (os : Os ω) (w : ω) (s : SessionSlot) (next : UInt64)
    (req reply : Message) : Result ω × UInt64 :=
  if req.header.payloadSize != 0 || req.header.fdCount != 0 then
    (refuse Status.badMessage w s reply, next)
  else
    match freeOutputSlot s with
    | none => (refuse Status.noResource w s reply, next)
    | some j =>
      let answer := b.dequeueOutput w s.backendHandle
      if answer.2.1 != .ok then (refuse answer.2.1 answer.1 s reply, next)
      else if outputOversized answer.2.2 then
        -- the token goes back, but the acquire fence is not closed
        (⟨.noResource,b.releaseOutput answer.1 s.backendHandle answer.2.2.token (-1),s,reply,
          dequeuedEffects answer.2.2 ++ .released none answer.2.2.token ::
            fdEffects (fdEvent .drop .outputFence answer.2.2.acquireFenceFd)⟩, next)
      else
        let o := answer.2.2.withTransport
        if o.transport == bytes then dequeueBytes b os answer.1 s next reply j o
        else if o.transport == aHardwareBuffer then
          dequeueAhb b os answer.1 s next reply j o
        else (rejectOutput b os Status.unsupported answer.1 s reply o, next)

/-- The role and descriptor count of a `RELEASE_OUTPUT` request do not fit together. -/
def releaseFenceMismatch (req : Message) : Bool :=
  let role := getU32 req.payload 8
  (role == FdRole.none && req.header.fdCount != 0) ||
    (role == FdRole.releaseFence && req.header.fdCount != 1) ||
    (role != FdRole.none && role != FdRole.releaseFence)

def handleRelease (b : BackendOps ω) (os : Os ω) (w : ω) (s : SessionSlot) (req reply : Message) :
    Result ω :=
  if req.header.payloadSize != 16 || req.header.fdCount > 1 then
    refuse Status.badMessage w s reply
  else if !zeroRange req.payload 12 4 then refuse Status.badMessage w s reply
  else
    match findOutput s (getU64 req.payload 0) with
    | none => refuse Status.badMessage w s reply
    | some j =>
      let slot := s.outputs j
      if slot.transport == aHardwareBuffer then
        if releaseFenceMismatch req then refuse Status.badMessage w s reply
        else
          match dupRequestFd os w req with
          | (w, .error _) => refuse Status.internal w s reply
          | (w, .ok fence) =>
            ⟨.ok,b.releaseOutput w s.backendHandle slot.backendToken fence,
              s.setOutput j OutputSlot.zero,writeStatus reply Status.ok 0,
              fdEffects (fdEvent .gain .releaseDup fence ++ fdEvent .give .releaseDup fence)
                ++ [.released (some j) slot.backendToken]⟩
      else if getU32 req.payload 8 != FdRole.none || req.header.fdCount != 0 then
        refuse Status.badMessage w s reply
      else
        ⟨.ok,w,s.setOutput j OutputSlot.zero,writeStatus reply Status.ok 0,[]⟩

def handleTransferAhb (w : ω) (s : SessionSlot) (req reply : Message) : Result ω :=
  if req.header.payloadSize != 8 || req.header.fdCount != 0 then
    refuse Status.badMessage w s reply
  else
    match findOutput s (getU64 req.payload 0) with
    | none => refuse Status.badMessage w s reply
    | some j =>
      let slot := s.outputs j
      if slot.transport != aHardwareBuffer || slot.nativeBuffer == 0 ||
          slot.transferred then refuse Status.badMessage w s reply
      else
        let accepted := writeStatus reply Status.ok 0
        ⟨Status.ok,w,s,{ accepted with header := { accepted.header with flags := ahbFollows } },[]⟩

/-- `advc_dmabuf_descriptor_close` of an exported descriptor. -/
def closeExported (os : Os ω) (w : ω) (d : Descriptor) : ω × List FdEvent :=
  ((closableFds d).foldl os.close w, (closableFds d).map (FdEvent.close .primeObject))

def handleTransferPrime (b : BackendOps ω) (os : Os ω) (w : ω) (s : SessionSlot)
    (req reply : Message) : Result ω :=
  if req.header.payloadSize != 8 || req.header.fdCount != 0 then
    refuse Status.badMessage w s reply
  else
    match b.exportDecodePrime with
    | none => refuse Status.unsupported w s reply
    | some exportPrime =>
      if s.direction != Direction.decode.toUInt8 || s.transport != aHardwareBuffer then
        refuse Status.unsupported w s reply
      else if reply.payloadCapacity < 264 then refuse Status.internal w s reply
      else
        let id := getU64 req.payload 0
        if id == 0 then refuse Status.badMessage w s reply
        else
          match findOutput s id with
          | none => refuse Status.badMessage w s reply
          | some j =>
            let slot := s.outputs j
            if slot.transport != aHardwareBuffer || slot.nativeBuffer == 0 ||
                slot.primeTransferred then refuse Status.badMessage w s reply
            else
              let answer := exportPrime w s.backendHandle slot.nativeBuffer slot.primeMetadata id
              let d := answer.2.2
              let gained := (closableFds d).map (FdEvent.gain .primeObject)
              let status :=
                if answer.2.1 > Status.internal then .internal else answer.2.1
              if status != .ok then
                let closed := closeExported os answer.1 d
                ⟨status,closed.1,s,reply,fdEffects (gained ++ closed.2)⟩
              else
                match (if d.bufferId != id then none
                    else registrationEncode (os.cloexec answer.1) d) with
                | none =>
                  let closed := closeExported os answer.1 d
                  ⟨.internal,closed.1,s,reply,fdEffects (gained ++ closed.2)⟩
                | some (payload, fds) =>
                  if fds.length == 0 || fds.length > maxDmabufObjects then
                    let closed := closeExported os answer.1 d
                    ⟨.internal,closed.1,s,reply,fdEffects (gained ++ closed.2)⟩
                  else
                    let closed := closeExported os answer.1 (d.dropFds fds.length)
                    ⟨.ok,closed.1,s.setOutput j { slot with primeTransferred := true },{ reply with
                        header := { reply.header with
                          payloadSize := 264
                          fdCount := UInt16.ofNat fds.length }
                        payload := statusPayload Status.ok 0 ++ payload
                        fds := fds },
                      fdEffects (gained ++ fds.map (FdEvent.reply .primeObject) ++ closed.2)
                        ++ [.primeSent j]⟩

/-- The output loop of `release_outstanding`. -/
def releaseOutputs (b : BackendOps ω) (w : ω) (s : SessionSlot) : ω × List Effect :=
  (List.finRange 8).foldl (fun acc j =>
    if (s.outputs j).inUse && (s.outputs j).transport == aHardwareBuffer then
      (b.releaseOutput acc.1 s.backendHandle (s.outputs j).backendToken (-1),
        acc.2 ++ [.released (some j) (s.outputs j).backendToken])
    else acc) (w, [])

/-- The session after `release_outstanding`. -/
def SessionSlot.clearOutstanding (s : SessionSlot) : SessionSlot :=
  { s with
    outputs := fun _ => OutputSlot.zero
    pendingAhb := { BackendAhbInput.zero with acquireFenceFd := -1 }
    pendingAhbReleaseFence := -1
    pendingAhbState := .none }

def releaseOutstanding (b : BackendOps ω) (os : Os ω) (w : ω) (s : SessionSlot) :
    ω × SessionSlot × List Effect :=
  let released := releaseOutputs b w s
  let w := os.closeIfOpen released.1 s.pendingAhb.acquireFenceFd
  let w := os.closeIfOpen w s.pendingAhbReleaseFence
  (w, s.clearOutstanding,
    released.2 ++ fdEffects (fdEvent .close .ahbAcquire s.pendingAhb.acquireFenceFd ++
      fdEvent .close .ahbFence s.pendingAhbReleaseFence) ++ [.ahbDropped])

/-- The completion loop of `release_dmabuf_state`. -/
def releaseCompletions (os : Os ω) (w : ω) (s : SessionSlot) :
    ω × Option Registry × List FdEvent :=
  (List.finRange 4).foldl (fun acc j =>
    let c := s.dmabufCompletions j
    (os.closeIfOpen acc.1 c.releaseFenceFd,
      if c.inUse then acc.2.1.map fun r => (finish r c.bufferId).1 else acc.2.1,
      acc.2.2 ++ fdEvent .close .dmabufFence c.releaseFenceFd)) (w, s.dmabufs, [])

def releaseDmabufState (os : Os ω) (w : ω) (s : SessionSlot) : ω × SessionSlot × List Effect :=
  let completed := releaseCompletions os w s
  let destroyed :=
    match completed.2.1 with
    | none => (completed.1, [])
    | some r => registryDestroy os completed.1 r
  (destroyed.1, { s with dmabufs := none, dmabufCompletions := fun _ => CompletionSlot.free },
    fdEffects (completed.2.2 ++ destroyed.2))

def handleFlush (b : BackendOps ω) (os : Os ω) (w : ω) (s : SessionSlot) (req reply : Message) :
    Result ω :=
  if req.header.payloadSize != 0 || req.header.fdCount != 0 then
    refuse Status.badMessage w s reply
  else if s.transport == dmabuf then refuse Status.unsupported w s reply
  else
    let answer := b.flush w s.backendHandle
    if answer.2 == .ok then
      let cleared := releaseOutstanding b os answer.1 s
      ⟨answer.2,cleared.1,cleared.2.1,writeStatus reply answer.2 0,cleared.2.2⟩
    else refuse answer.2 answer.1 s reply

/-- The teardown of one session shared by `handle_close` and `advc_session_engine_destroy`. -/
def teardown (b : BackendOps ω) (os : Os ω) (w : ω) (s : SessionSlot) : ω × List Effect :=
  let cleared := releaseOutstanding b os w s
  let dropped := releaseDmabufState os cleared.1 cleared.2.1
  (b.destroy dropped.1 s.backendHandle, cleared.2.2 ++ dropped.2.2)

def handleClose (b : BackendOps ω) (os : Os ω) (w : ω) (s : SessionSlot) (req reply : Message) :
    Result ω :=
  if req.header.payloadSize != 0 || req.header.fdCount != 0 then
    refuse Status.badMessage w s reply
  else
    let torn := teardown b os w s
    ⟨.ok,torn.1,SessionSlot.zero,writeStatus reply Status.ok 0,torn.2⟩
end LinDeX.SessionEngine
