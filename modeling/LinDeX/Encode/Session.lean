import LinDeX.Encode.State

/-!
# The session of an encode context

The functions of `advc_vaapi_encode.c` that talk to a broker: opening and closing a session,
registering and submitting surfaces, and receiving coded output. A failure is told by its `errno`.
-/
namespace LinDeX.Encode
open Vaapi Dmabuf Program Bytes Feature
variable {ω : Type} (env : Env ω)
/-- `monotonic_ms` and `context_eos_now_ms`; the value `UINT64_MAX` stands for a failure. -/
def nowMs : Prog ω (Except Errno UInt64) := do
  let now ← io env.kernel.monotonicMs
  return match now with
    | .error e => .error e
    | .ok now => if now = 0xffffffffffffffff then .error .eoverflow else .ok now

def waitRetry (deadline : UInt64) : Prog ω (Except Errno Unit) := do
  match ← nowMs env with
  | .error _ => return .error .etimedout
  | .ok now =>
    if now ≥ deadline then return .error .etimedout
    io fun w => env.kernel.sleep w (min 2 (deadline - now).toNat)

def hasHardwareEncoder (caps : LinDeX.Broker.CapabilitySet) (mime : String)
    (width height fpsMilli : UInt32) : Bool :=
  (List.finRange 32).any fun j =>
    let codec := caps.codecs j
    decide (j.val < caps.count.toNat) && codec.direction.toUInt32 == Direction.encode &&
      codec.acceleration == 2 && cString codec.mime == ascii mime &&
      (codec.maxWidth == 0 || width ≤ codec.maxWidth) &&
      (codec.maxHeight == 0 || height ≤ codec.maxHeight) &&
      (codec.maxFpsMilli == 0 || fpsMilli ≤ codec.maxFpsMilli)

/-- The features `broker_open` offers, those it insists on, and the backends of which it needs
one. -/
def offeredFeatures : UInt64 :=
  encode ||| dmabuf ||| nativeFence ||| dmabufEgl |||
    dmabufVulkan ||| encodeQcomModifier

def requiredFeatures : UInt64 := encode ||| dmabuf ||| nativeFence
def backendFeatures : UInt64 := dmabufEgl ||| dmabufVulkan

def codecMime : EncodeCodec → Option String
  | .h264 => some "video/avc"
  | .hevc => some "video/hevc"
  | .none => none

/-- The argument checks of `broker_open`. -/
def openArgumentsValid (codec : EncodeCodec)
    (encodeProfile width height bitrate framerateMilli : UInt32) : Bool :=
  !(width < 16 || height < 16 || (width &&& 1) != 0 || (height &&& 1) != 0 || bitrate == 0 ||
    bitrate > maxEncodeBitrate || framerateMilli < 1000 || framerateMilli > 240000 ||
    (codec == .h264 && encodeProfile != EncodeProfile.h264ConstrainedBaseline) ||
    (codec == .hevc && encodeProfile != EncodeProfile.hevcMain))
variable (b : Broker)
/-- `advc_vaapi_encode_broker_close`; the record becomes `Broker.closed`. -/
def brokerClose : Prog ω Unit := do
  whenever (0 ≤ b.fd ∧ b.sessionId ≠ 0)
    (discard (io fun w => env.client.closeSession w b.fd b.sessionId))
  closeFd env b.fd

/-- What a connected socket offers: its features, if they and its codecs will do. -/
def negotiate (fd : Fd) (mime : String) (width height framerateMilli : UInt32) :
    Prog ω (Except Errno UInt64) := do
  match ← io fun w => env.encoder.hello w fd offeredFeatures with
  | .error e => return .error e
  | .ok (features, payload) =>
    let left ← read fun s => env.kernel.errnoLeft s.world
    if payload < 256 ∨ (features &&& requiredFeatures) ≠ requiredFeatures ∨
        (features &&& backendFeatures) = 0 then return .error left
    match ← io fun w => env.encoder.queryCapabilities w fd with
    | .error e => return .error e
    | .ok caps =>
      return if hasHardwareEncoder caps mime width height framerateMilli then .ok features
        else .error left

def brokerOpen (codec : EncodeCodec) (encodeProfile width height bitrate framerateMilli : UInt32) :
    Prog ω (Except Errno Broker) := do
  if !openArgumentsValid codec encodeProfile width height bitrate framerateMilli then
    return .error .einval
  match codecMime codec with
  | none => return .error .enotsup
  | some mime =>
    match ← io env.encoder.connectBounded with
    | .error e => return .error e
    | .ok fd =>
      let failed : Broker := { Broker.closed with fd := fd }
      match ← negotiate env fd mime width height framerateMilli with
      | .error e =>
        brokerClose env failed
        return .error e
      | .ok features =>
        let created ← io fun w => env.client.createSession w fd
          { mime := mime, direction := Direction.encode, width := width, height := height,
            bitrate := bitrate, framerateMilli := framerateMilli, transport := Transport.dmabuf,
            encodeProfile := encodeProfile }
        let session := ⟨fd,created.2,features,width,height,bitrate,framerateMilli⟩
        match created.1 with
        | .failed e =>
          brokerClose env session
          return .error e
        | .status code =>
          if code ≠ .ok then
            brokerClose env session
            return .error .enotsup
          return .ok session

def brokerRegisterSurface (d : Descriptor) : Prog ω (Except Errno Unit) := do
  if b.fd < 0 ∨ b.sessionId = 0 ∨ d.bufferId = 0 ∨ d.drmFourcc ≠ fourccNv12 ∨
      d.width ≠ b.width ∨ d.height ≠ b.height then return .error .einval
  match ← io fun w => env.encoder.registerDmabuf w b.fd b.sessionId d with
  | .failed e => return .error e
  | .status code =>
    return if code = .ok then .ok ()
      else if code = .unsupported then .error .enotsup else .error .eio

def brokerUnregisterSurface (bufferId : UInt64) : Prog ω (Except Errno Unit) := do
  if b.fd < 0 ∨ b.sessionId = 0 ∨ bufferId = 0 then return .error .einval
  match ← io fun w => env.encoder.unregisterDmabuf w b.fd b.sessionId bufferId with
  | .failed e => return .error e
  | .status code => return if code = .ok then .ok () else .error .ebusy

/-- The `errno` for a reply to a submission. -/
def submissionErrno : Reply → Errno
  | .failed e => e
  | .status code => if code = .wouldBlock then .eagain else .eio
variable (i : Fin 4)
/-- `advc_vaapi_encode_broker_submit_surface` for a frame of a context: the release fence. -/
def brokerSubmitSurface (bufferId ptsNs : UInt64) (acquireFenceFd : Fd) :
    Prog ω (Except Errno Fd) := do
  let c ← context i
  let b := c.broker
  if b.fd < 0 ∨ b.sessionId = 0 ∨ bufferId = 0 ∨ acquireFenceFd < -1 then return .error .einval
  let queued ← io fun w =>
    env.encoder.queueDmabuf w b.fd b.sessionId ⟨bufferId,ptsNs,acquireFenceFd⟩
  if queued ≠ Reply.ok then return .error (submissionErrno queued)
  log (.submitted i c.target c.frame.codedBuffer)
  let completed ← io fun w => env.encoder.completeDmabuf w b.fd b.sessionId bufferId
  if completed.1 ≠ Reply.ok then
    closeFd env completed.2
    log (.abandoned i)
    return .error (submissionErrno completed.1)
  return .ok completed.2

def brokerSignalEos (ptsNs : UInt64) : Prog ω (Except Errno Unit) := do
  if b.fd < 0 ∨ b.sessionId = 0 ∨ ptsNs > int64Max then return .error .einval
  match ← io fun w => env.client.queueInput w b.fd b.sessionId
      { data := none, size := 0, dataFd := -1, ptsNs := ptsNs, flags := Flag.endOfStream } with
  | .failed e => return .error e
  | .status code => return if code = .ok then .ok () else .error .eio

def Part.last (p : Part) : Bool :=
  (!p.bytes.isEmpty && (p.flags &&& Flag.codecConfig) == 0) || (p.flags &&& Flag.endOfStream) != 0
variable (coded : CodedOutput) (part : ClientOutput)
/-- The checks of `append_output` before it takes a part. -/
def appendable : Bool :=
  !(decide (maxCodedSegments ≤ coded.segments.length) || part.transport != Transport.bytes ||
    part.size > 0xffffffff || (part.size > 0 && decide (part.dataFd < 0)))

def mapPart : Prog ω (Except Errno (List UInt8)) := do
  if part.size = 0 then return .ok []
  match ← io fun w => env.kernel.mmap w part.dataFd part.size.toNat with
  | .error e => return .error e
  | .ok bytes => return .ok (List.ofFn bytes)

def CodedOutput.append (p : Part) (ptsNs : UInt64) : CodedOutput :=
  { segments := coded.segments ++ [p.bytes], ptsNs := ptsNs, flags := coded.flags ||| p.flags }

/-- `append_output`: the output with one more part, and that part. -/
def appendOutput :
    Prog ω (Except Errno (CodedOutput × Part)) := do
  if !appendable coded part then return .error .eoverflow
  match ← mapPart env part with
  | .error e => return .error e
  | .ok bytes =>
    let p : Part := ⟨part.flags,bytes⟩
    log (.delivered i p)
    let c ← context i
    match ← io fun w =>
        env.client.releaseOutput w c.broker.fd c.broker.sessionId part.bufferId with
    | .failed e => return .error e
    | .status code =>
      return if code = .ok then .ok (coded.append p part.ptsNs, p) else .error .eio

/-- The loop of `broker_receive`, with the rounds that remain. -/
def receiveLoop (i : Fin 4) (timeoutMs : UInt32) (deadline : UInt64) :
    Nat → CodedOutput → Prog ω (Except Errno CodedOutput)
  | 0, _ => return .error .etimedout
  | rounds + 1, output => do
    let c ← context i
    let dequeued ← io fun w => env.client.dequeueOutput w c.broker.fd c.broker.sessionId
    match dequeued.1 with
    | .failed e => return .error e
    | .status code =>
      if code = .wouldBlock then
        if timeoutMs = 0 then return .error .etimedout
        match ← waitRetry env deadline with
        | .error e => return .error e
        | .ok () => receiveLoop i timeoutMs deadline rounds output
      else if code ≠ .ok then return .error .eio
      else
        let appended ← appendOutput env i output dequeued.2
        outputClose env dequeued.2
        match appended with
        | .error e => return .error e
        | .ok (output, p) =>
          if p.last then return .ok output
          receiveLoop i timeoutMs deadline rounds output

/-- Rounds of the receive loop: a wait takes a millisecond at least, and an output has at most
eight parts. -/
def receiveRounds (timeoutMs : UInt32) : Nat := timeoutMs.toNat + 10

/-- `advc_vaapi_encode_broker_receive` on the session of a context. What was received before a
failure is closed with it. -/
def brokerReceive (timeoutMs : UInt32) : Prog ω (Except Errno CodedOutput) := do
  let c ← context i
  if c.broker.fd < 0 ∨ c.broker.sessionId = 0 ∨ timeoutMs > 60000 then return .error .einval
  match ← nowMs env with
  | .error _ => return .error .eoverflow
  | .ok now =>
    if 0xffffffffffffffff - now < timeoutMs.toUInt64 then return .error .eoverflow
    receiveLoop env i timeoutMs (now + timeoutMs.toUInt64) (receiveRounds timeoutMs)
      CodedOutput.empty
end LinDeX.Encode
