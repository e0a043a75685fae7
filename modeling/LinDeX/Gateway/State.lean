import LinDeX.Client.Replies
import LinDeX.Library.Program
import LinDeX.Repack.Pool

/-!
# The repack gateway: state of a client worker

`advc_repack_gateway.c` sits between a client and the broker. A worker serves one client over one
upstream connection of its own, with a table of the outputs it has handed out and a repack pool.
-/
namespace LinDeX.Gateway
open Bytes Dmabuf Repack
variable {ω : Type}
abbrev cacheSlots : Nat := 32

structure Output where
  (used upstreamReleased reservation : Bool)
  sessionId : UInt32
  (bufferId ptsNs repackLeaseToken : UInt64)
  descriptor : Descriptor

/-- A record after `forget_output`. -/
def Output.empty : Output :=
  { used := false
    upstreamReleased := false
    reservation := false
    sessionId := 0
    bufferId := 0
    ptsNs := 0
    repackLeaseToken := 0
    descriptor := Client.emptyDescriptor }

inductive OutputMode where
  | auto | linear | qcom
  deriving DecidableEq, Repr

/-- What `configure_output_policy` reads from the environment. -/
structure Policy where
  outputMode : OutputMode
  qcomPassthroughValidated : Bool
  deriving DecidableEq, Repr

/-- What happens on the upstream connection. Transfers of PRIME descriptors are not listed: they
hand nothing over that has to be given back. -/
inductive Traffic where
  | connected
  | answered (request reply : Message)
  /-- A release of the gateway's own was answered with `ADVC_STATUS_OK`. -/
  | released (sessionId : UInt32) (bufferId : UInt64)
  | poisoned
  deriving DecidableEq

/-- `struct gateway_client`, with the world it runs in and the upstream traffic so far. -/
structure Worker (ω : Type) where
  world : ω
  /-- `upstream_fd >= 0`. -/
  connected : Bool
  outputs : Fin cacheSlots → Output
  pool : Pool cacheSlots
  nextReservationId : UInt64
  traffic : List Traffic

/-- `initialize_client` and `advc_turnip_linear_repack_pool_create`. -/
def Worker.create (w : ω) : Worker ω :=
  { world := w
    connected := false
    outputs := fun _ => Output.empty
    pool := Pool.create cacheSlots
    nextReservationId := 0x8000000000000000
    traffic := [] }

structure Env (ω : Type) where
  os : Os ω
  gpu : Gpu ω
  policy : Policy
  /-- `advc_client_connect_bounded` and `set_socket_watchdog`. -/
  connect : ω → ω × Bool
  exchange : ω → Message → ω × Except Errno Client.Datagram
  /-- `next_request_id`. -/
  nextRequestId : ω → ω × UInt32
  /-- What a reply buffer held before. -/
  stack : ω → List UInt8
  /-- `errno` after calls that may have overwritten the given value. -/
  errnoLeft : ω → Errno → Errno

abbrev Prog (ω : Type) (α : Type) : Type := StateM (Worker ω) α
def outside {α : Type} (f : ω → ω × α) : Prog ω α := fun c =>
  ((f c.world).2, { c with world := (f c.world).1 })

def onPool {α : Type} (f : ω → Pool cacheSlots → Repack.Outcome ω cacheSlots α) :
    Prog ω (Except Errno α) := fun c =>
  let out := f c.world c.pool
  (out.result, { c with world := out.world, pool := out.pool })

def setOutput (i : Fin cacheSlots) (output : Output) : Prog ω Unit :=
  Program.update fun c => { c with outputs := Function.update c.outputs i output }
variable (env : Env ω)
/-- `close` of every descriptor in a list. -/
def closeFds (fds : List Fd) : Prog ω Unit :=
  outside fun w => (fds.foldl env.os.close w, ())

/-- `advc_close_message_fds`. -/
def closeMessage (m : Message) : Prog ω Unit :=
  closeFds env (Client.closeMessageFds m)

/-- `advc_send_message` to the client. -/
def sendMessage (env : Env ω) (m : Message) : Prog ω Bool :=
  outside fun w => env.os.sendMessage w m

/-- `errno`, as some earlier call has left it. -/
def staleErrno : Prog ω Errno := Program.read fun c => env.gpu.errno c.world

/-- `errno` after clean-up calls that do not save it. -/
def errnoAfter (e : Errno) : Prog ω Errno :=
  Program.read fun c => env.errnoLeft c.world e

def forgetOutput (i : Fin cacheSlots) : Prog ω Unit := do
  let output ← Program.read fun c => c.outputs i
  closeFds env (closableFds output.descriptor)
  setOutput i Output.empty

/-- `advc_turnip_linear_repack_pool_discard`, with its result ignored. -/
def discardLease (token : UInt64) : Prog ω Unit := do
  let _ ← onPool fun w p => poolDiscard env.gpu env.os w p token
  return ()

def discardOutput (i : Fin cacheSlots) : Prog ω Unit := do
  let output ← Program.read fun c => c.outputs i
  Program.whenever (output.repackLeaseToken ≠ 0) (discardLease env output.repackLeaseToken)
  forgetOutput env i

def findOutput (outputs : Fin cacheSlots → Output) (sessionId : UInt32) (bufferId : UInt64) :
    Option (Fin cacheSlots) :=
  Fin.find? fun i => (outputs i).used && (outputs i).sessionId == sessionId &&
    (outputs i).bufferId == bufferId

def wholeMicros (ptsNs : UInt64) : UInt64 := ptsNs - ptsNs % 1000

def findReservation (outputs : Fin cacheSlots → Output) (sessionId : UInt32) (ptsNs : UInt64) :
    Option (Fin cacheSlots) :=
  Fin.find? fun i => (outputs i).used && (outputs i).reservation &&
    (outputs i).sessionId == sessionId && (outputs i).ptsNs == wholeMicros ptsNs

/-- `client->next_reservation_id++`, back to the middle of the range when it wraps. -/
def succReservationId (id : UInt64) : UInt64 := if id + 1 = 0 then 0x8000000000000000 else id + 1
variable (sessionId : UInt32)
/-- `allocate_reservation_id`. The loop ends within one more round than there are records, so that
the last alternative is not taken. -/
def allocateReservationId : Prog ω UInt64 := fun c =>
  let taken (id : UInt64) : Bool := id == 0 || (findOutput c.outputs sessionId id).isSome
  match Allocator.scan succReservationId taken (cacheSlots + 1) c.nextReservationId with
  | some (id, next) => (id, { c with nextReservationId := next })
  | none => (0, c)
variable (bufferId : UInt64)
def allocateOutput :
    Prog ω (Except Errno (Fin cacheSlots)) := do
  let outputs ← Program.read fun c => c.outputs
  if (findOutput outputs sessionId bufferId).isSome then return .error .eexist
  else
    match Fin.find? fun i => !(outputs i).used with
    | none => return .error .enospc
    | some i =>
      discardOutput env i
      setOutput i { Output.empty with used := true, sessionId := sessionId, bufferId := bufferId }
      return .ok i

def clearSessionOutputs : Prog ω Unit :=
  (List.finRange cacheSlots).forM fun i => do
    let output ← Program.read fun c => c.outputs i
    Program.whenever (output.used = true ∧ output.sessionId = sessionId) (discardOutput env i)

def ensureUpstream : Prog ω Bool := do
  if ← Program.read Worker.connected then return true
  else
    let ok ← outside env.connect
    Program.whenever (ok = true) <|
      Program.update fun c => { c with connected := true, traffic := c.traffic ++ [.connected] }
    return ok

def poisonUpstream : Prog ω Unit :=
  Program.update fun c =>
    if c.connected then { c with connected := false, traffic := c.traffic ++ [.poisoned] } else c

/-- The reply answers the request, as `exchange_upstream` checks it. -/
def answers (request reply : Header) : Bool :=
  !(reply.messageType != 2 || reply.opcode != request.opcode ||
    reply.requestId != request.requestId ||
    (request.opcode != 3 && reply.sessionId != request.sessionId))

def Message.withMinor (m : Message) (minor : UInt16) : Message :=
  { m with header := { m.header with versionMinor := minor } }
def upstreamMinor : UInt16 := 8

def exchangeUpstream (request : Message) : Prog ω (Option Message) := do
  if !(← ensureUpstream env) then return none
  else
    let incoming ← outside fun w => env.exchange w
      (Message.withMinor request (min request.header.versionMinor upstreamMinor))
    let stack ← Program.read fun c => env.stack c.world
    let received := Client.receiveMessage maxPayload stack incoming
    closeFds env received.closed
    match received.reply with
    | .error _ =>
      poisonUpstream
      return none
    | .ok reply =>
      if !answers request.header reply.header then
        closeMessage env reply
        poisonUpstream
        return none
      else
        Program.update fun c => { c with traffic := c.traffic ++ [.answered request reply] }
        return some (Message.withMinor reply request.header.versionMinor)

def succeeded : Except Errno Status → Bool
  | .ok status => status == .ok
  | .error _ => false

def releaseUpstreamOutput (fence : Fd) :
    Prog ω Bool := do
  let requestId ← outside env.nextRequestId
  let incoming ← outside fun w =>
    if bufferId == 0 || sessionId == 0 then (w, .error .einval)
    else env.exchange w (Client.releaseOutputRequest requestId sessionId bufferId fence)
  let stack ← Program.read fun c => env.stack c.world
  let result := Client.releaseOutputFenced requestId sessionId bufferId stack incoming
  closeFds env result.closed
  if succeeded result.status then
    Program.update fun c => { c with traffic := c.traffic ++ [.released sessionId bufferId] }
    return true
  else
    poisonUpstream
    return false

/-- `advc_client_transfer_prime` on the upstream connection. -/
def transferUpstream :
    Prog ω (Except Errno Status × Descriptor) := do
  let requestId ← outside env.nextRequestId
  let incoming ← outside fun w =>
    if sessionId == 0 || bufferId == 0 then (w, .error .einval)
    else env.exchange w (Client.transferPrimeRequest requestId sessionId bufferId)
  let stack ← Program.read fun c => env.stack c.world
  let result ← Program.read fun c =>
    Client.transferPrime env.os c.world requestId sessionId bufferId stack incoming
  closeFds env result.closed
  return (result.status, result.value.getD Client.emptyDescriptor)
end LinDeX.Gateway
