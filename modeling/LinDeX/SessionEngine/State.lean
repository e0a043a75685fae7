import LinDeX.Dmabuf.Registry
import LinDeX.System.Ledger

/-!
# State of the session engine

The records of `session_engine.c` and the backend it drives. Backend callbacks that may be `NULL`
are optional fields; the others are checked once, when the engine is created.
-/
namespace LinDeX.SessionEngine
open Dmabuf Function
variable {ω : Type}
structure BackendConfig where
  direction : UInt8
  mime : List UInt8
  (width height bitrate framerateMilli colorFormat transport encodeProfile flags : UInt32)
  deriving DecidableEq, Repr

/-- `struct advc_backend_output`; `data` is the buffer behind the pointer, `none` for `NULL`. -/
structure BackendOutput where
  data : Option (List UInt8)
  size : Nat
  ptsNs : UInt64
  (flags width height androidFormat stride layers : UInt32)
  usage : UInt64
  (sliceHeight cropLeft cropTop cropRight cropBottom : UInt32)
  token : UInt64
  nativeBuffer : Pointer
  acquireFenceFd : Fd
  transport : UInt32
  deriving DecidableEq, Repr

structure BackendAhbInput where
  ptsNs : UInt64
  (width height format layers : UInt32)
  usage : UInt64
  acquireFenceFd : Fd
  deriving DecidableEq, Repr

def BackendAhbInput.zero : BackendAhbInput := ⟨0,0,0,0,0,0,0⟩

structure AhbPublicMetadata where
  (width height androidFormat stride layers : UInt32)
  usage : UInt64
  (cropLeft cropTop cropWidth cropHeight : UInt32)
  deriving DecidableEq, Repr

def AhbPublicMetadata.zero : AhbPublicMetadata := ⟨0,0,0,0,0,0,0,0,0,0⟩
def ahbFatalTransport : Status := 0xffffffff

/-- `struct advc_backend_ops`. Release fences start as `-1` and are what the callback leaves. -/
structure BackendOps (ω : Type) where
  create : ω → BackendConfig → ω × Status × Pointer
  queueInput : ω → Pointer → List UInt8 → UInt64 → UInt32 → ω × Status
  dequeueOutput : ω → Pointer → ω × Status × BackendOutput
  releaseOutput : ω → Pointer → UInt64 → Fd → ω
  exportDecodePrime :
    Option (ω → Pointer → Pointer → AhbPublicMetadata → UInt64 → ω × Status × Descriptor)
  sendNativeBuffer : Option (ω → Fd → Pointer → ω × Int)
  receiveAhbInput : Option (ω → Pointer → Fd → BackendAhbInput → ω × Status × Fd)
  dmabufFormatAllowed : Option (ω → Pointer → Descriptor → ω × Int × Option Errno)
  submitDmabuf : Option (ω → Pointer → Descriptor → UInt64 → Fd → ω × Status × Fd)
  flush : ω → Pointer → ω × Status
  destroy : ω → Pointer → ω

structure OutputSlot where
  (id backendToken : UInt64)
  nativeBuffer : Pointer
  primeMetadata : AhbPublicMetadata
  transport : UInt32
  (transferred primeTransferred inUse : Bool)
  deriving DecidableEq, Repr

def OutputSlot.zero : OutputSlot := ⟨0,0,0,AhbPublicMetadata.zero,0,false,false,false⟩

structure CompletionSlot where
  bufferId : UInt64
  (status detail : UInt32)
  releaseFenceFd : Fd
  inUse : Bool
  deriving DecidableEq, Repr

/-- A completion slot holding nothing: cleared, with its fence at `-1`. -/
def CompletionSlot.free : CompletionSlot := ⟨0,0,0, -1,false⟩

def CompletionSlot.zero : CompletionSlot := ⟨0,0,0,0,false⟩

/-- `pending_ahb_state`: 0 none, 1 await handle, 2 complete. -/
inductive AhbState where
  | none | awaitHandle | complete
  deriving DecidableEq, Repr

/-- `struct advc_session_slot`, its back pointer to the engine apart. -/
structure SessionSlot where
  id : UInt32
  backendHandle : Pointer
  outputs : Fin 8 → OutputSlot
  encodeFrameSize : Nat
  transport : UInt32
  direction : UInt8
  pendingAhb : BackendAhbInput
  (pendingAhbStatus pendingAhbDetail : UInt32)
  pendingAhbReleaseFence : Fd
  pendingAhbState : AhbState
  dmabufs : Option Registry
  dmabufCompletions : Fin 4 → CompletionSlot
  inUse : Bool
  deriving DecidableEq

def SessionSlot.zero : SessionSlot :=
  { id := 0, backendHandle := 0, outputs := fun _ => OutputSlot.zero, encodeFrameSize := 0,
    transport := 0, direction := 0, pendingAhb := BackendAhbInput.zero, pendingAhbStatus := 0,
    pendingAhbDetail := 0, pendingAhbReleaseFence := 0, pendingAhbState := .none,
    dmabufs := none, dmabufCompletions := fun _ => CompletionSlot.zero, inUse := false }

def SessionSlot.setOutput (s : SessionSlot) (j : Fin 8) (o : OutputSlot) : SessionSlot :=
  { s with outputs := update s.outputs j o }
def SessionSlot.setCompletion (s : SessionSlot) (j : Fin 4) (c : CompletionSlot) : SessionSlot :=
  { s with dmabufCompletions := update s.dmabufCompletions j c }

/-- `struct advc_session_engine`, its callbacks apart. -/
structure Engine where
  sessions : Fin 4 → SessionSlot
  nextSessionId : UInt32
  nextOutputId : UInt64
  deriving DecidableEq

def Engine.setSession (e : Engine) (k : Fin 4) (s : SessionSlot) : Engine :=
  { e with sessions := update e.sessions k s }
def Engine.create : Engine := ⟨fun _ => SessionSlot.zero,1,1⟩

inductive Effect where
  | fd (event : FdEvent)
  /-- `dequeue_output` returned `OK` with this token. -/
  | dequeued (token : UInt64)
  /-- `release_output` was called with this token, for the output in this slot if any. -/
  | released (slot : Option (Fin 8)) (token : UInt64)
  | accepted (slot : Fin 8) (token : UInt64)
  /-- `send_native_buffer` succeeded for the output in this slot. -/
  | nativeSent (slot : Fin 8)
  /-- `TRANSFER_PRIME` succeeded for the output in this slot. -/
  | primeSent (slot : Fin 8)
  /-- `QUEUE_AHB` was accepted. -/
  | ahbQueued
  /-- `receive_ahb_input` returned this status and release fence to the engine. -/
  | ahbReceived (status : UInt32) (fence : Fd)
  /-- `receive_ahb_input` reported a fatal transport. -/
  | ahbFatal
  /-- A `COMPLETE_AHB` reply carries this status and release fence. -/
  | ahbDelivered (status : UInt32) (fence : Fd)
  /-- The pending AHB input of the session was dropped with the session's outputs. -/
  | ahbDropped
  deriving DecidableEq, Repr

def Effect.gained : Effect → Holding
  | .fd event => event.gained
  | _ => 0

def Effect.settled : Effect → Holding
  | .fd event => event.settled
  | _ => 0

def Effect.dropped : Effect → Holding
  | .fd event => event.dropped
  | _ => 0

def fdEffects (events : List FdEvent) : List Effect := events.map Effect.fd
end LinDeX.SessionEngine
