import LinDeX.Decode.Eos

/-!
# Draining decoded output

How an output of the broker reaches the surface that waits for it, in `drain_one_output` and under
the end-of-stream machine, and how compressed bytes are queued while outputs are drained.
-/
namespace LinDeX.Decode
open Vaapi Dmabuf Program
variable {ω : Type} (env : Env ω)

def closePrime (k : Fin 64) : Prog ω Unit := do
  let s ← surface k
  closeFd env s.acquireFenceFd
  descriptorClose env s.prime
  modifySurface k fun s => { s with acquireFenceFd := -1, prime := Descriptor.closed }
variable (rt : Runtime)
/-- The broker lease that `release_surface_output` gives back: the owner's socket, session and
buffer, if the owner is still the context that took it. -/
def leaseOf (s : Surface) : Option (Fd × UInt32 × UInt64) :=
  match idIndex 4 typeContext s.ownerContext with
  | none => none
  | some i =>
    let c := rt.contexts i
    if s.brokerBufferId ≠ 0 ∧ s.ownerContext ≠ 0 ∧ c.used ∧ c.brokerSession = s.ownerSession then
      some (c.brokerFd, s.ownerSession, s.brokerBufferId)
    else none

def returnLease : Option (Fd × UInt32 × UInt64) → Prog ω Unit
  | none => pure ()
  | some lease => discard (io fun w => env.client.releaseOutput w lease.1 lease.2.1 lease.2.2)

def noteReturn (k : Fin 64) : Prog ω Unit :=
  match idIndex 4 typeContext (rt.surfaces k).ownerContext, leaseOf rt (rt.surfaces k) with
  | some i, some lease => note (.returned i lease.2.2)
  | _, _ => pure ()

def releaseSurfaceOutput (k : Fin 64) : Prog ω Unit := do
  let rt ← runtime
  returnLease env (leaseOf rt (rt.surfaces k))
  noteReturn rt k
  modifySurface k fun s =>
    { s with brokerBufferId := 0, primeReserved := false, ownerContext := 0, ownerSession := 0 }
  closePrime env k
  modifySurface k fun s => { s with state := .idle, ptsNs := 0 }

def convertLinear (route : SurfaceRoute) (source : Descriptor) (fence : Fd) :
    Prog ω Conversion :=
  match route, env.process.gpuRepackLinear, env.process.cpuCopyLinear with
  | .gpuRepackLinear, some repack, _ => io fun w => repack w source fence
  | .cpuCopyLinear, _, some copy => io fun w => copy w source fence
  | _, _, _ => return ⟨false,Descriptor.zero, -1, -1⟩
variable (i : Fin 4)
/-- The tail of `convert_output` after a conversion. -/
def adoptConversion (k : Fin 64) (bufferId : UInt64) (source : Descriptor)
    (conversion : Conversion) : Prog ω Bool := do
  let valid ← descriptorValid env conversion.linear
  let c ← context i
  let released ←
    (if conversion.ok ∧ conversion.linear.drmFourcc = fourccNv12 ∧
        conversion.linear.drmModifier = 0 ∧ valid then
      io fun w => env.client.releaseOutputFenced w c.brokerFd c.brokerSession bufferId
        conversion.releaseFenceFd
    else pure (Reply.failed .enotsup))
  closeFd env conversion.releaseFenceFd
  if released = Reply.ok then
    note (.returned i bufferId)
    descriptorClose env source
    modifySurface k fun s =>
      { s with prime := conversion.linear, acquireFenceFd := conversion.acquireFenceFd,
               state := .ready }
    return true
  else
    closeFd env conversion.acquireFenceFd
    descriptorClose env source
    descriptorClose env conversion.linear
    return false

/-- `convert_output` for a surface with a reserved destination. -/
def convertReserved (k : Fin 64) (output : ClientOutput) : Prog ω (Bool × ClientOutput) := do
  let s ← surface k
  let valid ← descriptorValid env s.prime
  if output.transport ≠ Transport.aHardwareBuffer ∨ output.bufferId = 0 ∨
      s.prime.drmFourcc ≠ fourccNv12 ∨ s.prime.drmModifier ≠ 0 ∨ !valid then
    return (false, output)
  modifySurface k fun s =>
    { s with acquireFenceFd := output.acquireFenceFd, brokerBufferId := output.bufferId,
             primeReserved := false, state := .ready }
  return (true, { output with acquireFenceFd := -1 })

/-- `convert_output`: whether it succeeded, and the output with the fence it may have given up. -/
def convertOutput (k : Fin 64) (output : ClientOutput) : Prog ω (Bool × ClientOutput) := do
  let s ← surface k
  if s.primeReserved then convertReserved env k output
  else if output.transport ≠ Transport.aHardwareBuffer then return (false, output)
  else
    let c ← context i
    let prime ← io fun w =>
      env.client.transferPrime w c.brokerFd c.brokerSession output.bufferId
    if prime.1 ≠ Reply.ok then return (false, output)
    let source := prime.2
    let rt ← runtime
    let consumer :=
      { rt.consumer with
        acceptsQcomCompressedNv12 := rt.consumer.acceptsQcomCompressedNv12 &&
          decide (c.brokerQcomModifier > 0) && !c.asyncDecodePrime }
    let valid ← descriptorValid env source
    let route := selectSurfaceRoute valid source consumer
    if route = .directLinear ∨ route = .directQcom then
      modifySurface k fun s =>
        { s with prime := source, acquireFenceFd := output.acquireFenceFd,
                 brokerBufferId := output.bufferId, state := .ready }
      return (true, { output with acquireFenceFd := -1 })
    let conversion ← convertLinear env route source output.acquireFenceFd
    let ok ← adoptConversion env i k output.bufferId source conversion
    return (ok, output)

def awaitingSurface (session : UInt32) (ptsNs : UInt64) : Option (Fin 64) :=
  Fin.find? fun k =>
    (rt.surfaces k).used && decide ((rt.surfaces k).state = .pending) &&
      (rt.surfaces k).ptsNs == ptsNs && (rt.surfaces k).ownerSession == session

/-- The search and conversion that `drain_one_output` and `handle_frame` have in common. -/
def deliverOutput (output : ClientOutput) : Prog ω (Bool × ClientOutput) := do
  let rt ← runtime
  match awaitingSurface rt (rt.contexts i).brokerSession output.ptsNs with
  | none => return (false, output)
  | some k =>
    let converted ← convertOutput env i k output
    if converted.1 then
      note (.delivered i k output.ptsNs)
      return converted
    modifySurface k fun s => { s with state := .error }
    return converted

/-- `struct private_eos_adapter`, with the machine it works on. -/
structure Adapter (ω : Type) where
  machine : Machine ω
  clientOutput : ClientOutput
  haveOutput : Bool

def onMachine {α : Type} (m : Prog ω α) : StateM (Adapter ω) α :=
  fun a => ((m a.machine).1, { a with machine := (m a.machine).2 })

def privateEosTrySignal : StateM (Adapter ω) IoResult := do
  let c ← onMachine (context i)
  let reply ← onMachine (io fun w => env.client.queueInput w c.brokerFd c.brokerSession
    { data := none, size := 0, dataFd := -1, ptsNs := 0, flags := Flag.endOfStream })
  return if reply = Reply.ok then .ok
    else if reply = .status Status.wouldBlock then .retry
    else if reply = .status Status.noResource then .outputWindowFull
    else .fatal

def eosOutput (output : ClientOutput) : EosOutput where
  bufferId := output.bufferId
  ptsNs := output.ptsNs
  flags := output.flags
  kind :=
    if output.transport = Transport.bytes ∧ output.size = 0 ∧
        (output.flags &&& Flag.endOfStream) ≠ 0 then .control
    else .frame

def privateEosTryDequeue : StateM (Adapter ω) (IoResult × EosOutput) := do
  let a ← read id
  if a.haveOutput then return (.fatal, eosOutput ClientOutput.none)
  let c ← onMachine (context i)
  let dequeued ← onMachine (io fun w => env.client.dequeueOutput w c.brokerFd c.brokerSession)
  update fun a => { a with clientOutput := dequeued.2 }
  if dequeued.1 = .status Status.wouldBlock then return (.retry, eosOutput dequeued.2)
  if dequeued.1 = .status Status.noResource then
    return (.outputWindowFull, eosOutput dequeued.2)
  if dequeued.1 ≠ Reply.ok then return (.fatal, eosOutput dequeued.2)
  onMachine (note (.dequeued i dequeued.2.bufferId dequeued.2.ptsNs))
  update fun a => { a with haveOutput := true }
  return (.ok, eosOutput dequeued.2)

/-- `private_eos_handle_frame`; the output is always the adapter's own. -/
def privateEosHandleFrame (_output : EosOutput) : StateM (Adapter ω) IoResult := do
  let a ← read id
  if !a.haveOutput then return .fatal
  let delivered ← onMachine (deliverOutput env i a.clientOutput)
  update fun a => { a with clientOutput := delivered.2 }
  if !delivered.1 then return .fatal
  onMachine (outputClose env delivered.2)
  update fun a => { a with haveOutput := false }
  return .ok

def privateEosReleaseOutput (_output : EosOutput) : StateM (Adapter ω) IoResult := do
  let a ← read id
  if !a.haveOutput then return .fatal
  let c ← onMachine (context i)
  let reply ← onMachine (io fun w =>
    env.client.releaseOutput w c.brokerFd c.brokerSession a.clientOutput.bufferId)
  onMachine (note (.returned i a.clientOutput.bufferId))
  onMachine (outputClose env a.clientOutput)
  update fun a => { a with haveOutput := false }
  return if reply = Reply.ok then .ok else .fatal

def failPending (session : UInt32) (s : Surface) : Surface :=
  if s.used ∧ s.state = .pending ∧ s.ownerSession = session then { s with state := .error } else s

def privateEosMarkRemainingPendingFailed : StateM (Adapter ω) Unit :=
  onMachine (modifyRuntime fun rt =>
    { rt with surfaces := fun k => failPending (rt.contexts i).brokerSession (rt.surfaces k) })

def privateEosOps : EosOps (Adapter ω) where
  trySignal := privateEosTrySignal env i
  tryDequeue := privateEosTryDequeue env i
  handleFrame := privateEosHandleFrame env i
  releaseOutput := privateEosReleaseOutput env i
  markRemainingPendingFailed := privateEosMarkRemainingPendingFailed i

def withAdapter (drive : EosState → StateM (Adapter ω) EosReturn) :
    Prog ω (EosReturn × Adapter ω) := do
  let c ← context i
  let ended ← read fun s => drive c.eos ⟨s,ClientOutput.none,false⟩
  update fun _ => ended.2.machine
  modifyContext i fun c => { c with eos := ended.1.state }
  return ended

def privateEosProgressLocked (maxOutputs : Nat) (status : Option EosStatus) :
    Prog ω EosReturn := do
  let ended ← withAdapter i (eosStateProgress (privateEosOps env i) status maxOutputs)
  let c ← context i
  whenever ended.2.haveOutput do
    let _ ← io fun w =>
      env.client.releaseOutput w c.brokerFd c.brokerSession ended.2.clientOutput.bufferId
    note (.returned i ended.2.clientOutput.bufferId)
    outputClose env ended.2.clientOutput
  return ended.1

def privateEosDrainOne : Prog ω Int := do
  let ended ← privateEosProgressLocked env i 1 (some { structSize := eosStatusSize })
  match ended.result with
  | .ok | .complete =>
    return if (ended.status.map EosStatus.framesProcessed).getD 0 > 0 then 1 else 0
  | .wouldBlock | .needOutputRelease => return 0
  | _ => return -1

def drainOneOutput : Prog ω Int := do
  let c ← context i
  if c.eos.phase ≠ .opened then privateEosDrainOne env i
  else
    let dequeued ← io fun w => env.client.dequeueOutput w c.brokerFd c.brokerSession
    if dequeued.1 = .status Status.wouldBlock then return 0
    if dequeued.1 ≠ Reply.ok then return -1
    note (.dequeued i dequeued.2.bufferId dequeued.2.ptsNs)
    let delivered ← deliverOutput env i dequeued.2
    if delivered.1 then
      outputClose env delivered.2
      return 1
    else
      whenever (delivered.2.bufferId ≠ 0) do
        let _ ← io fun w =>
          env.client.releaseOutput w c.brokerFd c.brokerSession delivered.2.bufferId
        note (.returned i delivered.2.bufferId)
      outputClose env delivered.2
      return -1

/-- `queue_bytes`; a failure is told by its `errno`. -/
def queueBytes (data : List UInt8) (ptsNs : UInt64) (flags : UInt32) :
    Prog ω (Option Errno) := do
  let c ← context i
  let fd ←
    (if data.length ≤ maxPayload - 48 then pure (Except.ok (-1))
    else io fun w => env.process.createSealedMemfd w data)
  match fd with
  | .error e => return some e
  | .ok fd =>
    let reply ← io fun w => env.client.queueInput w c.brokerFd c.brokerSession
      { data := if fd < 0 then some data else none, size := data.length, dataFd := fd,
        bufferId := ptsNs, ptsNs := ptsNs, flags := flags }
    closeFd env fd
    whenever (reply = Reply.ok) (note (.accepted i data ptsNs flags))
    return match reply with
      | .status code =>
        if code = .ok then none
        else if code = .wouldBlock then some .eagain
        else if code = .noResource then some .enospc
        else some .eio
      | .failed e => some e

/-- `queue_bytes_with_drain`, with the attempts that remain. -/
def queueBytesWithDrain (data : List UInt8) (ptsNs : UInt64) (flags : UInt32) :
    Nat → Prog ω Bool
  | 0 => return false
  | attempts + 1 => do
    match ← queueBytes env i data ptsNs flags with
    | none => return true
    | some e =>
      if e ≠ .eagain then return false
      let drained ← drainOneOutput env i
      if drained < 0 then return false
      whenever (drained = 0) (tell env.process.nanosleep)
      queueBytesWithDrain data ptsNs flags attempts

/-- The attempts of `queue_bytes_with_drain`. -/
@[irreducible] def queueAttempts : Nat := 5000
end LinDeX.Decode
