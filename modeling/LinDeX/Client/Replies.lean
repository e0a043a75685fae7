import LinDeX.Broker.Reply
import LinDeX.Client.Transaction
import LinDeX.Dmabuf.Registration

/-!
# Replies that carry descriptors

The five calls whose replies may bring descriptors into the process. A result keeps what the caller
finds in its out parameters, and which descriptors came in and were closed.
-/
namespace LinDeX.Client
open Bytes Dmabuf Transport
variable {ω : Type}
/-- What a call returns: a status, or `-1` with an error number. `none` stands for an out parameter
that is left as it was. -/
structure Result (α : Type) where
  status : Except Errno Status
  detail : Option UInt32 := none
  value : Option α
  received : List Fd := []
  closed : List Fd := []
variable {α : Type}
def Result.invalid : Result α := { status := .error .einval, value := none }
variable (reply : Message)
/-- `parse_status_reply`: the status with its detail, and the descriptors it closes. -/
def parseStatusReply : Except Errno (Status × UInt32) × List Fd :=
  if reply.header.payloadSize != 8 || reply.header.fdCount != 0 then
    (.error .eproto, closeMessageFds reply)
  else if getU32 reply.payload 0 > Status.internal then (.error .eproto, [])
  else (.ok (getU32 reply.payload 0, getU32 reply.payload 4), [])

/-- `return parse_status_reply(&reply, payload, detail)`. -/
def statusResult (value : α) (t : Transaction) (reply : Message) : Result α :=
  match parseStatusReply reply with
  | (.error e, closed) => { status := .error e, value := value, received := t.received, closed }
  | (.ok (status, detail), closed) =>
    { status := .ok status, detail := detail, value := value, received := t.received, closed }

def protocolError (value : α) (t : Transaction) (closed : List Fd) : Result α :=
  { status := .error .eproto, value := value, received := t.received, closed }
def transportError (value : α) (t : Transaction) (e : Errno) : Result α :=
  { status := .error e, value := value, received := t.received, closed := t.closed }
def emptyDescriptor : Descriptor := Descriptor.zero.clearFds
def descriptorPayload : List UInt8 := reply.payload.drop 8
variable (os : Os ω) (w : ω) (requestId sessionId : UInt32) (bufferId : UInt64) (stack : List UInt8)
  (incoming : Except Errno Datagram)

def transferPrime : Result Descriptor :=
  if sessionId == 0 || bufferId == 0 then .invalid
  else
    let t := transactionEx 17 sessionId requestId true 264 stack incoming
    match t.reply with
    | .error e => transportError emptyDescriptor t e
    | .ok reply =>
      if reply.header.payloadSize == 8 then statusResult emptyDescriptor t reply
      else if reply.header.payloadSize != 264 || reply.header.flags != 0 then
        protocolError emptyDescriptor t (closeMessageFds reply)
      else if getU32 reply.payload 0 != Status.ok || getU32 reply.payload 4 != 0 then
        protocolError emptyDescriptor t (closeMessageFds reply)
      else
        let objectCount := getU32 (descriptorPayload reply) 48
        if objectCount == 0 || objectCount > 4 ||
            reply.header.fdCount.toUInt32 != objectCount then
          protocolError emptyDescriptor t (closeMessageFds reply)
        else
          match registrationDecode (os.cloexec w) (descriptorPayload reply) 256 reply.fds
              reply.header.fdCount with
          | .error _ => protocolError emptyDescriptor t (closeMessageFds reply)
          | .ok d =>
            if d.bufferId != bufferId then
              protocolError emptyDescriptor t (closeMessageFds reply)
            else
              -- The fds that the descriptor took over are -1 when the message is closed.
              { status := .ok Status.ok
                detail := some 0
                value := d
                received := t.received
                closed := closeMessageFds
                  { reply with fds := reply.fds.mapIdx fun i fd =>
                      if i < d.objectCount.toNat then -1 else fd } }

/-- The checks of `advc_client_reserve_linear` that come before the descriptor is decoded. -/
def reserveHeadValid : Bool :=
  let objectCount := getU32 (descriptorPayload reply) 48
  !(getU32 reply.payload 0 != Status.ok || getU32 reply.payload 4 != 0 || objectCount == 0 ||
    objectCount > 4 || reply.header.fdCount.toUInt32 != objectCount)

def reserveMatches (width height : UInt32) (d : Descriptor) : Bool :=
  !(d.bufferId == 0 || d.width != width || d.height != height || d.drmFourcc != 0x3231564e ||
    d.drmModifier != 0)

def reserveLinear (ptsNs : UInt64)
    (width height : UInt32) (stack : List UInt8) (incoming : Except Errno Datagram) :
    Result Descriptor :=
  if sessionId == 0 || ptsNs > int64Max || width == 0 || height == 0 || (width &&& 1) != 0 ||
      (height &&& 1) != 0 then .invalid
  else
    let t := transactionEx 18 sessionId requestId true 264 stack incoming
    match t.reply with
    | .error e => transportError emptyDescriptor t e
    | .ok reply =>
      if reply.header.payloadSize == 8 then statusResult emptyDescriptor t reply
      else if reply.header.payloadSize != 264 || reply.header.flags != 0 then
        protocolError emptyDescriptor t (closeMessageFds reply)
      else if !reserveHeadValid reply then
        protocolError emptyDescriptor t (closeMessageFds reply ++ closableFds emptyDescriptor)
      else
        -- The descriptor of the caller is closed as well, with what decoding left in it.
        let refuse := protocolError emptyDescriptor t (closeMessageFds reply ++
          closableFds (registrationLeft emptyDescriptor (descriptorPayload reply) 256 reply.fds
            reply.header.fdCount))
        match registrationDecode (os.cloexec w) (descriptorPayload reply) 256 reply.fds
            reply.header.fdCount with
        | .error _ => refuse
        | .ok d =>
          if !reserveMatches width height d then refuse
          else
            { status := .ok Status.ok
              detail := some 0
              value := d
              received := t.received
              closed := closeMessageFds
                { reply with fds := reply.fds.mapIdx fun i fd =>
                    if i < d.objectCount.toNat then -1 else fd } }

structure Output where
  (bufferId ptsNs size : UInt64)
  (flags width height androidFormat stride layers : UInt32)
  usage : UInt64
  (sliceHeight cropLeft cropTop cropRight cropBottom : UInt32)
  dataFd : Fd
  transport : UInt32
  acquireFenceFd : Fd
  deriving DecidableEq, Repr

def Output.empty : Output :=
  { bufferId := 0, ptsNs := 0, size := 0, flags := 0, width := 0, height := 0, androidFormat := 0,
    stride := 0, layers := 0, usage := 0, sliceHeight := 0, cropLeft := 0, cropTop := 0,
    cropRight := 0, cropBottom := 0, dataFd := -1, transport := 0, acquireFenceFd := -1 }

def outputShapeValid : Bool :=
  let p := reply.payload
  let transport := getU32 p 28
  let role := getU32 p 108
  !((transport == bytes &&
      (reply.header.payloadSize != 136 || reply.header.fdCount != 1)) ||
    (transport == aHardwareBuffer &&
      (reply.header.payloadSize != 112 || reply.header.fdCount > 1)) ||
    (transport != bytes && transport != aHardwareBuffer) ||
    getU32 p 72 != 0 || (role != FdRole.none && role != FdRole.acquireFence) ||
    ((role == FdRole.acquireFence) !=
      (reply.header.fdCount == 1 && transport == aHardwareBuffer)) ||
    getU32 p 44 != 0 || getU64 p 48 != 0 ||
    (transport == bytes && (getU32 p 56 != 0 || getU64 p 64 != 0)) ||
    (transport == bytes && getU32 p 132 != 0))

/-- `F_SEAL_SHRINK | F_SEAL_GROW | F_SEAL_WRITE`. -/
def requiredSeals : UInt32 := 14

def outputContentValid (reply : Message) : Bool :=
  let p := reply.payload
  let bytes := getU32 p 28 == bytes
  let size := getU64 p 16
  let flags := getU32 p 24
  let seals := if bytes then os.getSeals w (reply.fd 0) else some requiredSeals
  !(getU64 p 0 == 0 || decide (maxOutputBytes < size.toNat) ||
    (flags &&& ~~~(Flag.endOfStream ||| Flag.keyFrame ||| Flag.codecConfig)) != 0 ||
    !(seals.any fun s => (s &&& requiredSeals) == requiredSeals) ||
    (bytes && !((os.fstat w (reply.fd 0)).any fun st =>
      st.isRegular && decide (0 ≤ st.size) && decide ((size.toNat : Int) = st.size))) ||
    (getU32 p 28 == aHardwareBuffer && size != 0))

def readOutput : Output :=
  let p := reply.payload
  let transport := getU32 p 28
  let bytes := transport == bytes
  let width := getU32 p 32
  let height := getU32 p 36
  { bufferId := getU64 p 0
    ptsNs := getU64 p 8
    size := getU64 p 16
    flags := getU32 p 24
    width := width
    height := height
    androidFormat := getU32 p 40
    stride := getU32 p 60
    layers := getU32 p 56
    usage := getU64 p 64
    sliceHeight := if bytes then getU32 p 112 else height
    cropLeft := if bytes then getU32 p 116 else 0
    cropTop := if bytes then getU32 p 120 else 0
    cropRight := if bytes then getU32 p 124 else if width > 0 then width - 1 else 0
    cropBottom := if bytes then getU32 p 128 else if height > 0 then height - 1 else 0
    dataFd := if bytes then reply.fd 0 else -1
    transport := transport
    acquireFenceFd := if !bytes && reply.header.fdCount == 1 then reply.fd 0 else -1 }

/-- `advc_client_dequeue_output`. The transport stays in the output of a refused record. -/
def dequeueOutput : Result Output :=
  if sessionId == 0 then .invalid
  else
    let t := transactionEx 5 sessionId requestId true 136 stack incoming
    match t.reply with
    | .error e => transportError Output.empty t e
    | .ok reply =>
      if reply.header.payloadSize == 8 then statusResult Output.empty t reply
      else
        let output := { Output.empty with transport := getU32 reply.payload 28 }
        if !outputShapeValid reply then protocolError output t (closeMessageFds reply)
        else if !outputContentValid os w reply then
          protocolError output t (closeMessageFds reply)
        else
          -- The descriptor moves into the output and nothing is left to close.
          { status := .ok Status.ok
            detail := some 0
            value := readOutput reply
            received := t.received }

/-- `advc_client_complete_dmabuf`; the value is `*release_fence_fd`. -/
def completeDmabuf : Result Fd :=
  if sessionId == 0 || bufferId == 0 then .invalid
  else
    let t := transactionEx 16 sessionId requestId true 24 stack incoming
    match t.reply with
    | .error e => transportError (-1) t e
    | .ok reply =>
      if reply.header.payloadSize == 8 then statusResult (-1) t reply
      else if !completionValidate (os.syncFileValidate w) reply.payload
            reply.header.payloadSize reply.fds reply.header.fdCount ||
          getU64 reply.payload 0 != bufferId then
        protocolError (-1) t (closeMessageFds reply)
      else
        let fenced := reply.header.fdCount == 1
        { status := .ok (getU32 reply.payload 8)
          detail := some (getU32 reply.payload 12)
          value := some (if fenced then reply.fd 0 else -1)
          received := t.received
          closed := closeMessageFds (if fenced then { reply with fds := reply.fds.set 0 (-1) }
            else reply) }

def readCapability (p : List UInt8) (i : Nat) : Broker.CodecCapability :=
  let entry := 24 + i * 224
  { mime := cString ((p.drop entry).take (maxMime - 1))
    codecName := cString ((p.drop (entry + 64)).take (Broker.maxCodecName - 1))
    direction := byteAt p (entry + 192)
    acceleration := byteAt p (entry + 193)
    lowLatency := byteAt p (entry + 194)
    securePlayback := byteAt p (entry + 195)
    maxWidth := getU32 p (entry + 196)
    maxHeight := getU32 p (entry + 200)
    maxFpsMilli := getU32 p (entry + 204)
    flags := getU32 p (entry + 208) }

def noCapability : Broker.CodecCapability :=
  { mime := [], codecName := [], direction := 0, acceleration := 0, lowLatency := 0,
    securePlayback := 0, maxWidth := 0, maxHeight := 0, maxFpsMilli := 0, flags := 0 }

/-- `advc_client_query_capabilities`; its reply may be of any minor version. The reply of a
successful query has no status of its own. -/
def queryCapabilities : Result Broker.CapabilitySet :=
  let t := transactionEx 2 0 requestId false (24 + Broker.maxCapabilities * 224) stack incoming
  let fail (e : Errno) (closed : List Fd) : Result Broker.CapabilitySet :=
    { status := .error e, value := none, received := t.received, closed }
  match t.reply with
  | .error e => fail e t.closed
  | .ok reply =>
    let p := reply.payload
    let size := reply.header.payloadSize
    if reply.header.fdCount != 0 then fail .eproto (closeMessageFds reply)
    else if size == 8 && getU32 p 0 != Status.ok then
      match parseStatusReply reply with
      | (.error e, closed) => fail e closed
      | (.ok _, closed) => fail .enotsup closed
    else if size < 24 then fail .eproto []
    else
      let count := getU32 p 4
      if decide (Broker.maxCapabilities < count.toNat) || size != 24 + count * 224 then
        fail .eproto []
      else
        { status := .ok Status.ok
          value := some
            { apiLevel := getU32 p 8
              count := count
              transportFeatures := getU64 p 16
              codecs := fun i =>
                if i.val < count.toNat then readCapability p i.val else noCapability }
          received := t.received }

/-- The request of `advc_client_release_output_fenced`. -/
def releaseOutputRequest (fence : Fd) : Message :=
  let fenced := decide (0 ≤ fence)
  { header :=
      { versionMinor := versionMinor
        opcode := 6
        requestId := requestId
        sessionId := sessionId
        payloadSize := 16
        fdCount := if fenced then 1 else 0 }
    payload := putU32 (putU64 (zeros 16) 0 bufferId) 8
      (if fenced then FdRole.releaseFence else FdRole.none)
    fds := if fenced then [fence] else [] }

/-- `advc_client_release_output_fenced`; its reply is a status and brings no descriptor. -/
def releaseOutputFenced : Result Unit :=
  if bufferId == 0 || sessionId == 0 then .invalid
  else
    let t := transactionEx 6 sessionId requestId true 8 stack incoming
    match t.reply with
    | .error e => transportError () t e
    | .ok reply => statusResult () t reply

/-- The request of `advc_client_dequeue_output`. -/
def dequeueOutputRequest : Message :=
  { header :=
      { versionMinor := versionMinor
        opcode := 5
        requestId := requestId
        sessionId := sessionId } }

/-- The request of `advc_client_complete_dmabuf`. -/
def completeDmabufRequest : Message :=
  { header :=
      { versionMinor := versionMinor
        opcode := 16
        requestId := requestId
        sessionId := sessionId
        payloadSize := 8 }
    payload := putU64 (zeros 8) 0 bufferId }

/-- The request of `advc_client_transfer_prime`. -/
def transferPrimeRequest : Message :=
  { header :=
      { versionMinor := versionMinor
        opcode := 17
        requestId := requestId
        sessionId := sessionId
        payloadSize := 8 }
    payload := putU64 (zeros 8) 0 bufferId }
end LinDeX.Client
