import LinDeX.SessionEngine.Engine

/-!
# A mock backend

A concrete backend and kernel after the mock of `session_engine_test.c`, with the output it hands
over and its answer to a received buffer as parameters, and the requests of a client.
-/
namespace LinDeX.SessionEngine
open Dmabuf Bytes
def mockBackend (output : BackendOutput) (received : Status × Fd) : BackendOps Unit where
  create _ _ := ((), .ok, 1)
  queueInput _ _ _ _ _ := ((), .ok)
  dequeueOutput _ _ := ((), .ok, output)
  releaseOutput _ _ _ _ := ()
  exportDecodePrime := none
  sendNativeBuffer := some fun _ _ _ => ((), 0)
  receiveAhbInput := some fun _ _ _ _ => ((), received.1, received.2)
  dmabufFormatAllowed := some fun _ _ _ => ((), 1, none)
  submitDmabuf := some fun _ _ _ _ _ => ((), .ok, -1)
  flush _ _ := ((), .ok)
  destroy _ _ := ()

def mockOs : Os Unit where
  dup _ fd := ((), .ok (fd.toNat + 100))
  close _ _ := ()
  cloexec _ _ := true
  syncFileInfo _ _ := true
  memfdCreate _ := ((), some 50)
  ftruncate _ _ _ := ((), true)
  pwrite _ _ data _ := ((), data.length)
  addSeals _ _ := ((), true)
  fstat _ _ := none
  getSeals _ _ := none
  pread _ _ _ _ := ((), [])
  malloc _ _ := ((), true)
  callocRegistry _ := ((), .ok ())
  sendMessage _ _ := ((), true)

def mockOutput (transport flags : UInt32) (token : UInt64) (fence : Fd) : BackendOutput where
  data := none
  size := 0
  ptsNs := 0
  flags := flags
  width := 1920
  height := 1080
  androidFormat := 1
  stride := 2048
  layers := 1
  usage := 0
  sliceHeight := 1080
  cropLeft := 0
  cropTop := 0
  cropRight := 1919
  cropBottom := 1079
  token := token
  nativeBuffer := 1
  acquireFenceFd := fence
  transport := transport

def mockRequest (opcode : UInt16) (session : UInt32) (payload : List UInt8) (fds : List Fd) :
    Message where
  header :=
    { versionMinor := versionMinor
      opcode := opcode
      sessionId := session
      payloadSize := UInt32.ofNat payload.length
      fdCount := UInt16.ofNat fds.length }
  payload := payload
  fds := fds

def mockReply (req : Message) : Message :=
  { header := { req.header with messageType := 2, flags := 0, payloadSize := 0, fdCount := 0 } }

/-- The payload of `CREATE_SESSION`. -/
def createPayload (direction : UInt32) (mime : String) (transport profile : UInt32) :
    List UInt8 :=
  let p := putU32 (zeros 100) 0 direction
  let p := putU32 p 4 1920
  let p := putU32 p 8 1080
  let p := putU32 p 12 (if direction == Direction.encode then 1000000 else 0)
  let p := putU32 p 16 30000
  let p := (ascii mime).zipIdx.foldl (fun p c => putByte p (24 + c.2) c.1) p
  putU32 (putU32 p 92 transport) 96 profile

def createDecode : Message :=
  mockRequest 3 0 (createPayload Direction.decode "video/avc" Transport.aHardwareBuffer 0) []
def createEncode (transport : UInt32) : Message :=
  mockRequest 3 0 (createPayload Direction.encode "video/avc" transport EncodeProfile.h264Main) []

def mockDescriptor (id : UInt64) (fd : Fd) : Descriptor :=
  { Descriptor.zero with
    bufferId := id
    width := 128
    height := 64
    drmFourcc := 0x34324241
    explicitFlags := explicitAll
    cropWidth := 128
    cropHeight := 64
    objectCount := 1
    planeCount := 1
    objects := fun i => if i = 0 then ⟨fd,32768⟩ else ⟨-1,0⟩
    planes := fun i => if i = 0 then ⟨0,0,512⟩ else ⟨0,0,0⟩ }

def registerDmabuf (session : UInt32) (id : UInt64) (fd : Fd) : Message :=
  match registrationEncode (fun _ => true) (mockDescriptor id fd) with
  | none => mockRequest 13 session [] []
  | some (payload, fds) => mockRequest 13 session payload fds

def queueDmabuf (session : UInt32) (id : UInt64) : Message :=
  mockRequest 15 session (putU64 (putU64 (zeros 32) 0 id) 8 123456789) []

def Call.request (req : Message) : Call := .handle req (mockReply req)
end LinDeX.SessionEngine
