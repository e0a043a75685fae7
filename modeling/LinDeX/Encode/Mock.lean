import LinDeX.Encode.Calls

/-!
# A mock environment of the encode runtime

A broker with one hardware encoder whose output is given in advance, with the calls in between that
would block. The heap never runs out, and time only passes while the runtime sleeps.
-/
namespace LinDeX.Encode
open Vaapi Dmabuf Bytes
structure MockWorld where
  /-- What the next calls of `dequeue_output` answer; `none` would block. -/
  outputs : List (Option Part)
  accepted : Nat
  /-- The bytes of the part that was handed over last. -/
  mapped : List UInt8
  clockMs : UInt64
  deriving DecidableEq

/-- What the encoder does with its `n`-th frame. -/
structure MockFrame where
  emits : List (Option Part)
  completes : Bool

def mockDequeue (w : MockWorld) : MockWorld × Reply × ClientOutput :=
  match w.outputs with
  | some p :: rest =>
    ({ w with outputs := rest, mapped := p.bytes }, Reply.ok, { ClientOutput.none with
        bufferId := 1, size := UInt64.ofNat p.bytes.length, flags := p.flags, dataFd := 7,
        transport := Transport.bytes })
  | none :: rest => ({ w with outputs := rest }, .status Status.wouldBlock, ClientOutput.none)
  | [] => (w, .status Status.wouldBlock, ClientOutput.none)

def mockClient : Client MockWorld where
  connectBounded w := (w, some 5)
  hello w _ features := (w, some (features, UInt32.ofNat maxPayload))
  createSession w _ _ := (w, Reply.ok, 1)
  queueInput w _ _ _ := (w, Reply.ok)
  dequeueOutput w _ _ := mockDequeue w
  releaseOutput w _ _ _ := (w, Reply.ok)
  releaseOutputFenced w _ _ _ _ := (w, Reply.ok)
  transferPrime w _ _ _ := (w, .failed .enotsup, Descriptor.zero)
  reserveLinear w _ _ _ _ _ := (w, .failed .enotsup, Descriptor.zero)
  flush w _ _ := (w, Reply.ok)
  closeSession w _ _ := (w, Reply.ok)
  recycleBrokerSocket w _ := (w, false)

def mockCapabilities : LinDeX.Broker.CapabilitySet where
  apiLevel := 34
  count := 1
  transportFeatures := 0
  codecs _ := ⟨ascii "video/avc",ascii "encoder",Direction.encode.toUInt8,2,0,0,0,0,0,0⟩
variable (frames : Nat → MockFrame)
def mockEncoder : EncodeClient MockWorld where
  connectBounded w := (w, .ok 5)
  hello w _ features := (w, .ok (features, UInt32.ofNat maxPayload))
  queryCapabilities w _ := (w, .ok mockCapabilities)
  registerDmabuf w _ _ _ := (w, Reply.ok)
  unregisterDmabuf w _ _ _ := (w, Reply.ok)
  queueDmabuf w _ _ _ :=
    ({ w with outputs := w.outputs ++ (frames w.accepted).emits, accepted := w.accepted + 1 },
      Reply.ok)
  completeDmabuf w _ _ _ :=
    (w, if (frames (w.accepted - 1)).completes then Reply.ok else .status Status.internal, -1)

def mockKernel : EncodeKernel MockWorld where
  monotonicMs w := (w, .ok w.clockMs)
  sleep w ms := ({ w with clockMs := w.clockMs + UInt64.ofNat ms }, .ok ())
  syncFileValidate _ _ := .ok ()
  mmap w _ _ := (w, .ok fun j => w.mapped.getD j 0)
  exportSyncFile w _ := (w, .ok 9)
  sameInode _ _ _ := false
  errnoLeft _ := .eio
  allocateSystemHeap w _ := (w, .ok 6)
  importPrime w _ _ _ _ _ _ := (w, .error .unsupportedMemoryType)
  exportPrime w _ _ := (w, .success)

def mockProcess : Process MockWorld where
  getenv _ _ := none
  malloc w _ := (w, true)
  close w _ := w
  dup w fd := (w, some fd)
  cloexec _ _ := true
  monotonicNs w := (w, w.clockMs * 1000000)
  poll w _ _ := (w, .ready)
  nanosleep w := w
  createSealedMemfd w _ := (w, .ok 8)
  gpuRepackLinear := none
  cpuCopyLinear := none

def mockFrameConsume (frame : FrameParams) (type : EncBufferType) (data : List UInt8)
    (_ _ : UInt32) : Option FrameParams :=
  match type with
  | .sequenceParameter => some { frame with sequenceSeen := true }
  | .pictureParameter => some { frame with pictureSeen := true, codedBuffer := getU32 data 0 }
  | .sliceParameter => some { frame with sliceSeen := true }
  | _ => some frame

def mockEnv : Env MockWorld :=
  ⟨mockClient,mockEncoder frames,mockKernel,mockProcess,mockFrameConsume⟩
def mockMachine : Machine MockWorld :=
  Machine.start ⟨true,true,0,0,0,0,true⟩ .auto true ⟨[],0,[],0⟩
def mockContext : UInt32 := makeId typeContext 0
def mockSurface (k : Nat) : UInt32 := makeId typeSurface k
def mockCoded (b : Nat) : UInt32 := makeId typeBuffer b

/-- A context with so many surfaces and coded buffers, and the buffers of its parameters. -/
def mockSetup (count : Nat) : List Call :=
  [.createConfig .h264ConstrainedBaseline .encSlice [],
    .createSurfaces rtFormatYuv420 64 64 count [],
    .createContext (makeId typeConfig 0) 64 64 []] ++
  List.replicate count (.createBuffer mockContext .coded 4096 1 none) ++
  [.createBuffer mockContext .sequenceParameter 4 1 none,
    .createBuffer mockContext .sliceParameter 4 1 none] ++
  (List.range count).map fun b =>
    .createBuffer mockContext .pictureParameter 4 1 (some (putU32 (zeros 4) 0 (mockCoded b)))

def mockPicture (count k : Nat) : List Call :=
  [.beginPicture mockContext (mockSurface k),.renderPicture mockContext
      [mockCoded count,mockCoded (count + 1),mockCoded (count + 2 + k)],
    .endPicture mockContext]

def mockRun (calls : List Call) : Machine MockWorld :=
  calls.foldl (step (mockEnv frames)) mockMachine

theorem mockRun_reachable (calls : List Call) :
    Reachable (mockEnv frames) (mockRun frames calls) :=
  Reachable.calls _ (s := mockMachine) (.start _ _ _ _) calls
end LinDeX.Encode
