import LinDeX.Decode.Submit
import LinDeX.SessionEngine.Mock

/-!
# A mock environment of the decode runtime

A broker that forks a new session engine for every connection, as `broker_main.c` does: inputs are
accepted, and the only output is the end of the stream.
-/
namespace LinDeX.Decode
open Vaapi Dmabuf Bytes
structure MockWorld where
  engines : List SessionEngine.Engine

def mockLibva : Libva where
  pictureSize
    | .h264 => 672
    | .hevc => 604
    | .vp9 => 92
  iqSize
    | .h264 => 240
    | _ => 1016
  sliceSize
    | .h264 => 3128
    | .hevc => 264
    | .vp9 => 316
  sliceParameter _ bytes := ⟨getU32 bytes 0,getU32 bytes 4,getU32 bytes 8,bytes.drop 12⟩
  numRefFrames _ := 1
  activeRefs _ := (0, 0)

/-- The `CREATE_SESSION` request of a configuration. -/
def mockCreate (config : SessionConfig) : Message :=
  let p := putU32 (zeros 100) 0 config.direction
  let p := putU32 (putU32 p 4 config.width) 8 config.height
  let p := (ascii config.mime).zipIdx.foldl (fun p c => putByte p (24 + c.2) c.1) p
  SessionEngine.mockRequest 3 0 (putU32 p 92 config.transport) []

def mockCreateSession (w : MockWorld) (fd : Fd) (config : SessionConfig) :
    MockWorld × Reply × UInt32 :=
  let req := mockCreate config
  let backend := SessionEngine.mockBackend
    (SessionEngine.mockOutput Transport.bytes Flag.endOfStream 1 (-1)) (.ok, -1)
  let r := SessionEngine.sessionEngineHandle backend SessionEngine.mockOs ()
    (w.engines.getD fd.toNat SessionEngine.Engine.create) req (SessionEngine.mockReply req)
  (⟨w.engines.set fd.toNat r.engine⟩, .status r.status, r.reply.header.sessionId)

def mockClient : Client MockWorld where
  connectBounded w := (⟨w.engines ++ [SessionEngine.Engine.create]⟩, some w.engines.length)
  hello w _ features := (w, some (features, UInt32.ofNat maxPayload))
  createSession := mockCreateSession
  queueInput w _ _ _ := (w, Reply.ok)
  dequeueOutput w _ _ :=
    (w, Reply.ok, { ClientOutput.none with bufferId := 1, flags := Flag.endOfStream,
                                           transport := Transport.bytes })
  releaseOutput w _ _ _ := (w, Reply.ok)
  releaseOutputFenced w _ _ _ _ := (w, Reply.ok)
  transferPrime w _ _ _ := (w, .failed .enotsup, Descriptor.zero)
  reserveLinear w _ _ _ _ _ := (w, .failed .enotsup, Descriptor.zero)
  flush w _ _ := (w, Reply.ok)
  closeSession w _ _ := (w, Reply.ok)
  recycleBrokerSocket w _ := (w, false)

def mockProcess : Process MockWorld where
  getenv _ name :=
    if name = "ADVC_VAAPI_ENABLE_PRIVATE_DECODE_EOS" then some "validated-signal-progress-v1"
    else none
  malloc w _ := (w, true)
  close w _ := w
  dup w fd := (w, some fd)
  cloexec _ _ := true
  monotonicNs w := (w, 0)
  poll w _ _ := (w, .ready)
  nanosleep w := w
  createSealedMemfd w _ := (w, .ok 100)
  gpuRepackLinear := none
  cpuCopyLinear := none

def mockBitstream : Bitstream MockWorld where
  h264AccessUnit w slices := (w, .ok { bytes := slices.flatMap Prod.fst, start := true })
  h264ReferenceOverride _ _ := .ok ⟨false,false,false⟩
  h264CodecConfig _ _ := .ok [0,0,0,1,0x67]
  h264PrependCodecConfig w config unit := (w, .ok (config ++ unit))
  hevcAccessUnit w slices := (w, .ok { bytes := slices.flatMap Prod.fst, start := true })
  hevcCodecConfig _ _ := .ok [0,0,0,1,0x40]
  vp9AccessUnit w _ _ data _ _ := (w, .ok { bytes := data, start := true })

def mockEnv : Env MockWorld := ⟨mockLibva,mockBitstream,mockClient,mockProcess⟩
def mockPolicy : Policy := ⟨true,true,true,1920,1088,1920,1088,1920,1088⟩
def mockMachine : Machine MockWorld :=
  ⟨Runtime.create mockPolicy .auto ⟨true,false,false,false⟩,⟨[]⟩,[],[]⟩
end LinDeX.Decode
