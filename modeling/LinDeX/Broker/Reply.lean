import LinDeX.SessionEngine.Engine

/-!
# The replies of the broker

What `advc_broker_handle_once` of `broker.c` answers to a request, by itself or through the session
engine of the connection.
-/
namespace LinDeX.Broker
open SessionEngine Bytes Feature
variable {ω : Type}
def maxCapabilities : Nat := 32
def maxCodecName : Nat := 128

/-- `struct advc_codec_capability`; the names are C strings in their arrays. -/
structure CodecCapability where
  (mime codecName : List UInt8)
  (direction acceleration lowLatency securePlayback : UInt8)
  (maxWidth maxHeight maxFpsMilli flags : UInt32)

structure CapabilitySet where
  (apiLevel count : UInt32)
  transportFeatures : UInt64
  codecs : Fin 32 → CodecCapability

/-- `struct advc_broker_provider` of `handle_client`; its other callbacks are the session engine. -/
structure Provider (ω : Type) where
  featureBits : UInt64
  /-- `none` is a failed query. -/
  queryCapabilities : ω → ω × Option CapabilitySet

def initReply (req : Message) : Message where
  header :=
    { versionMinor :=
        if req.header.versionMinor ≤ versionMinor then req.header.versionMinor else versionMinor
      messageType := 2
      opcode := req.header.opcode
      requestId := req.header.requestId
      sessionId := req.header.sessionId }
  payloadCapacity := maxPayload

def featuresFor (minor : UInt16) (features : UInt64) : UInt64 :=
  let f := features
  let f := if minor < 3 then f &&& ~~~brokerEglSurface else f
  let f := if minor < 4 then f &&& ~~~androidAhbSurface else f
  let f :=
    if minor < 5 then f &&& ~~~(dmabuf ||| dmabufEgl ||| dmabufVulkan)
    else f
  let f := if minor < 6 then f &&& ~~~decodePrime else f
  if minor < 8 then
    f &&& ~~~(asyncDecodePrime ||| decodeQcomModifier |||
      encodeQcomModifier)
  else f
variable (p : Provider ω)
/-- The `HELLO` case of `advc_broker_handle_once`. -/
def helloReply (req reply : Message) : Message :=
  if req.header.payloadSize != 0 && req.header.payloadSize != 16 then
    writeStatus reply Status.badMessage 0
  else
    let full := req.header.payloadSize == 16
    let clientFeatures := if full then getU64 req.payload 0 else 0xffffffffffffffff
    let clientMax := if full then getU32 req.payload 8 else UInt32.ofNat maxPayload
    { reply with
      header := { reply.header with payloadSize := 16 }
      payload := putU32
        (putU64 (zeros 16) 0 (featuresFor req.header.versionMinor p.featureBits &&& clientFeatures))
        8 (if clientMax < UInt32.ofNat maxPayload then clientMax else UInt32.ofNat maxPayload) }

/-- `strncpy(dst, src, size)` into a zeroed field. -/
def putString (p : List UInt8) (off size : Nat) (src : List UInt8) : List UInt8 :=
  ((cString src).take size).zipIdx.foldl (fun p c => putByte p (off + c.2) c.1) p

/-- One entry of `write_capability_reply`. -/
def putCapability (p : List UInt8) (i : Nat) (c : CodecCapability) : List UInt8 :=
  let entry := 24 + i * 224
  let p := putString p entry (maxMime - 1) c.mime
  let p := putString p (entry + 64) (maxCodecName - 1) c.codecName
  let p := putByte p (entry + 192) c.direction
  let p := putByte p (entry + 193) c.acceleration
  let p := putByte p (entry + 194) c.lowLatency
  let p := putByte p (entry + 195) c.securePlayback
  let p := putU32 p (entry + 196) c.maxWidth
  let p := putU32 p (entry + 200) c.maxHeight
  let p := putU32 p (entry + 204) c.maxFpsMilli
  putU32 p (entry + 208) c.flags

def writeCapabilityReply (reply : Message) (caps : CapabilitySet) : Option Message :=
  let required := 24 + caps.count.toNat * 224
  if caps.count.toNat > maxCapabilities || required > reply.payloadCapacity then none
  else
    let p := putU32 (zeros required) 0 Status.ok
    let p := putU32 p 4 caps.count
    let p := putU32 p 8 caps.apiLevel
    let p := putU32 p 12 0
    let p := putU64 p 16 caps.transportFeatures
    let p := ((List.finRange 32).take caps.count.toNat).foldl
      (fun p (i : Fin 32) => putCapability p i.val (caps.codecs i)) p
    some { reply with
      header := { reply.header with payloadSize := UInt32.ofNat required }
      payload := p }

/-- The `QUERY_CAPABILITIES` case of `advc_broker_handle_once`. -/
def queryReply (w : ω) (req reply : Message) : ω × Message :=
  match p.queryCapabilities w with
  | (w, none) => (w, writeStatus reply Status.codecError 0)
  | (w, some caps) =>
    let visible := { caps with
      transportFeatures :=
        featuresFor req.header.versionMinor (caps.transportFeatures &&& p.featureBits) }
    (w, (writeCapabilityReply reply visible).getD (writeStatus reply Status.codecError 0))
variable (b : BackendOps ω) (os : Os ω)
/-- The reply `advc_broker_handle_once` builds, and what the engine did for it. -/
def buildReply (p : Provider ω) (w : ω) (e : Engine) (req : Message) : ω × Engine × Log × Message :=
  let reply := initReply req
  if req.header.versionMinor > versionMinor then
    (w, e, [], writeStatus reply Status.unsupported versionMinor.toUInt32)
  else
    match Opcode.ofCode req.header.opcode with
    | some .hello => (w, e, [], helloReply p req reply)
    | some .ping => (w, e, [], writeStatus reply Status.ok 0)
    | some .queryCapabilities =>
      let query := queryReply p w req reply
      (query.1, e, [], query.2)
    | _ =>
      let r := sessionEngineHandle b os w e req reply
      (r.world, r.engine, r.log, if r.status != .ok && r.reply.header.payloadSize == 0 then
          writeStatus r.reply r.status 0
        else r.reply)
end LinDeX.Broker
