import LinDeX.Library.Allocator
import LinDeX.SessionEngine.Handlers

/-!
# The session engine

Dispatch of a request to its session, the callback after a reply was sent, and teardown. The log
pairs each effect with the session slot it concerns.
-/
namespace LinDeX.SessionEngine
open Dmabuf Bytes Transport
variable {ω : Type}
abbrev Log := List (Fin 4 × Effect)

/-- What `advc_session_engine_handle` leaves behind. -/
structure EngineResult (ω : Type) where
  status : Status
  world : ω
  engine : Engine
  reply : Message
  log : Log
variable (e : Engine)
def findSession (id : UInt32) : Option (Fin 4) :=
  Fin.find? fun k => (e.sessions k).inUse && (e.sessions k).id == id

/-- A candidate `allocate_session_id` passes over: zero, or the identifier of a session in use. -/
def sessionIdTaken (candidate : UInt32) : Bool :=
  candidate == 0 || (findSession e candidate).isSome

/-- The first `rounds` rounds of `allocate_session_id`: the identifier, if one of them returns,
and the counter afterwards. -/
def allocateSessionIdWithin (rounds : Nat) : Option (UInt32 × UInt32) :=
  Allocator.scan (· + 1) (sessionIdTaken e) rounds e.nextSessionId

theorem iterate_succ_eq (next : UInt32) (i : Nat) : (· + 1)^[i] next = next + UInt32.ofNat i := by
  induction i with
  | zero => simp
  | succ i ih =>
    rw [Function.iterate_succ_apply',ih,UInt32.add_assoc]
    simp [UInt32.ofNat_add]

theorem iterate_succ_injOn (next : UInt32) {rounds : Nat} (h : rounds ≤ 2 ^ 32) :
    Set.InjOn (fun i => (· + 1)^[i] next) (Finset.range rounds : Set Nat) := by
  intro i hi j hj hij
  simp only [Finset.coe_range,Set.mem_Iio] at hi hj
  simp only [iterate_succ_eq] at hij
  have hnat := congrArg UInt32.toNat (UInt32.add_right_inj next |>.mp hij)
  rw [UInt32.toNat_ofNat_of_lt' (by simp only [UInt32.size]; omega),
    UInt32.toNat_ofNat_of_lt' (by simp only [UInt32.size]; omega)] at hnat
  exact hnat

def takenSessionIds : Finset UInt32 :=
  insert 0 (Finset.univ.image fun k => (e.sessions k).id)

theorem mem_takenSessionIds {e : Engine} {candidate : UInt32}
    (h : sessionIdTaken e candidate = true) : candidate ∈ takenSessionIds e := by
  rw [sessionIdTaken,Bool.or_eq_true,beq_iff_eq,Option.isSome_iff_exists] at h
  rw [takenSessionIds,Finset.mem_insert,Finset.mem_image]
  refine h.imp id fun ⟨k,hk⟩ => ⟨k,Finset.mem_univ k,?_⟩
  have hfound := Fin.eq_true_of_find?_eq_some hk
  simp only [Bool.and_eq_true,beq_iff_eq] at hfound
  exact hfound.2

theorem allocateSessionIdWithin_isSome {rounds : Nat} (hle : rounds ≤ 2 ^ 32)
    (hcard : (takenSessionIds e).card < rounds) : (allocateSessionIdWithin e rounds).isSome :=
  Allocator.scan_isSome (takenSessionIds e) (fun _ => mem_takenSessionIds)
    (iterate_succ_injOn _ hle) hcard

theorem card_takenSessionIds_le : (takenSessionIds e).card ≤ maxSessions + 1 := by
  refine (Finset.card_insert_le _ _).trans (Nat.succ_le_succ ?_)
  exact Finset.card_image_le.trans (by simp [maxSessions])

theorem allocateSessionId_returns : (allocateSessionIdWithin e (maxSessions + 2)).isSome :=
  allocateSessionIdWithin_isSome e (by decide) (Nat.lt_succ_of_le (card_takenSessionIds_le e))

/-- `allocate_session_id`; the bound on the rounds is never reached. -/
def allocateSessionId : UInt32 × UInt32 :=
  (allocateSessionIdWithin e (maxSessions + 2)).get (allocateSessionId_returns e)
variable (req : Message)
def createMime : List UInt8 := (req.payload.drop 24).take maxMime

/-- The configuration `handle_create` reads from the request. -/
def createConfig : BackendConfig :=
  let transport := getU32 req.payload 92
  { direction := (getU32 req.payload 0).toUInt8
    mime := cString (createMime req)
    width := getU32 req.payload 4
    height := getU32 req.payload 8
    bitrate := getU32 req.payload 12
    framerateMilli := getU32 req.payload 16
    colorFormat := getU32 req.payload 88
    transport := if transport == 0 then bytes else transport
    encodeProfile := getU32 req.payload 96
    flags := getU32 req.payload 20 }

/-- The checks `handle_create` makes in either direction. -/
def createValid : Bool :=
  let c := createConfig req
  let direction := getU32 req.payload 0
  !((direction != Direction.decode && direction != Direction.encode) || c.flags != 0 ||
    c.width < 16 || c.width > 8192 || c.height < 16 || c.height > 8192 ||
    c.framerateMilli > 240000 || !(createMime req).contains 0 ||
    (createMime req).take 6 != ascii "video/")
variable (c : BackendConfig)
def decodeConfigValid : Bool :=
  !(c.colorFormat != 0 || c.encodeProfile != EncodeProfile.none ||
    (c.transport != bytes && c.transport != aHardwareBuffer))

def surfaceTransport (transport : UInt32) : Bool :=
  transport == brokerEglSurface || transport == androidAhbSurface ||
    transport == dmabuf

def encodeConfigValid : Bool :=
  let avc := c.mime == ascii "video/avc"
  let hevc := c.mime == ascii "video/hevc"
  !((!avc && !hevc) || c.bitrate == 0 || c.bitrate > maxEncodeBitrate ||
    c.framerateMilli < 1000 || (c.width &&& 1) != 0 || (c.height &&& 1) != 0 ||
    (c.transport != bytes && !surfaceTransport c.transport) ||
    (c.transport == bytes && c.colorFormat != ColorFormat.yuv420Planar &&
      c.colorFormat != ColorFormat.yuv420Semiplanar) ||
    (surfaceTransport c.transport && c.colorFormat != 0) ||
    (avc && c.encodeProfile != EncodeProfile.h264ConstrainedBaseline &&
      c.encodeProfile != EncodeProfile.h264Main && c.encodeProfile != EncodeProfile.h264High) ||
    (hevc && c.encodeProfile != EncodeProfile.hevcMain))

/-- `width * height * 3 / 2` in 64-bit arithmetic. -/
def encodeFrameBytes : UInt64 :=
  let luma := c.width.toUInt64 * c.height.toUInt64
  luma + luma / 2
variable (b : BackendOps ω)
def encodeFrameSizeFor (minor : UInt16) (c : BackendConfig) :
    Except Status Nat :=
  if c.transport == brokerEglSurface && minor < 3 then .error Status.unsupported
  else if c.transport == androidAhbSurface && (minor < 4 || b.receiveAhbInput.isNone)
    then .error Status.unsupported
  else if c.transport == dmabuf &&
      (minor < 5 || b.dmabufFormatAllowed.isNone || b.submitDmabuf.isNone) then
    .error Status.unsupported
  else if c.transport == bytes then
    if encodeFrameBytes c > maxInputBytes then .error Status.noResource
    else .ok (encodeFrameBytes c).toNat
  else .ok 0

/-- Every check of `handle_create` that comes before a slot is looked for: the configuration and
the byte size of an input frame. -/
def createRequest (req : Message) : Except Status (BackendConfig × Nat) :=
  let c := createConfig req
  let minor := req.header.versionMinor
  if req.header.sessionId != 0 || req.header.fdCount != 0 || req.header.payloadSize != 100 then
    .error Status.badMessage
  else if !createValid req then .error Status.badMessage
  else if getU32 req.payload 0 == Direction.decode then
    if !decodeConfigValid c then .error Status.badMessage
    else if c.transport == aHardwareBuffer && minor < 2 then
      .error Status.unsupported
    else .ok (c, 0)
  else if minor < 7 then .error Status.unsupported
  else if !encodeConfigValid c then .error Status.badMessage
  else (encodeFrameSizeFor b minor c).map fun size => (c, size)

/-- The slot `handle_create` fills in, before it has an identifier. -/
def SessionSlot.fresh (handle : Pointer) (c : BackendConfig) (frameSize : Nat)
    (dmabufs : Option Registry) : SessionSlot :=
  { SessionSlot.zero with
    inUse := true
    backendHandle := handle
    direction := c.direction
    encodeFrameSize := frameSize
    transport := c.transport
    pendingAhb := { BackendAhbInput.zero with acquireFenceFd := -1 }
    pendingAhbReleaseFence := -1
    dmabufCompletions := fun _ => CompletionSlot.free
    dmabufs := dmabufs }

/-- `engine.sessions[k]` in use by a new session, which gets its identifier last. -/
def Engine.openSession (k : Fin 4) (s : SessionSlot) : Engine :=
  let placed := e.setSession k s
  let id := allocateSessionId placed
  { placed.setSession k { s with id := id.1 } with nextSessionId := id.2 }
variable (status : Status)
/-- `return status` from the engine with its state untouched. -/
def Engine.refuse (w : ω) (reply : Message) : EngineResult ω :=
  ⟨status,w,e,reply,[]⟩
variable (os : Os ω)
/-- `handle_create`. The error number of a failed allocation is read after `destroy` ran. -/
def handleCreate (w : ω) (e : Engine) (req reply : Message) :
    EngineResult ω :=
  match createRequest b req with
  | .error status => e.refuse status w reply
  | .ok (c, frameSize) =>
    match Fin.find? fun k => !(e.sessions k).inUse with
    | none => e.refuse Status.noResource w reply
    | some k =>
      let answer := b.create w c
      let handle := answer.2.2
      if answer.2.1 != .ok then e.refuse answer.2.1 answer.1 reply
      else if handle == 0 then e.refuse Status.internal answer.1 reply
      else
        let created : ω × Except Errno (Option Registry) :=
          if c.transport == dmabuf then
            let allocated := os.callocRegistry answer.1
            (allocated.1, allocated.2.map fun _ => some Registry.empty)
          else (answer.1, .ok none)
        match created.2 with
        | .error err =>
          ⟨if err = .enomem then .noResource else .internal,
            b.destroy created.1 handle,e.setSession k SessionSlot.zero,reply,[]⟩
        | .ok dmabufs =>
          let opened := e.openSession k (SessionSlot.fresh handle c frameSize dmabufs)
          let accepted := writeStatus reply Status.ok 0
          ⟨.ok,created.1,opened,{ accepted with
              header := { accepted.header with sessionId := (opened.sessions k).id } },[]⟩

/-- The `switch` of `advc_session_engine_handle`; the second component is the output counter. -/
def dispatch (w : ω) (s : SessionSlot) (next : UInt64) (req reply : Message) : Result ω × UInt64 :=
  let minor := req.header.versionMinor
  match Opcode.ofCode req.header.opcode with
  | some .queueInput => (handleQueue b os w s req reply, next)
  | some .dequeueOutput => handleDequeue b os w s next req reply
  | some .releaseOutput => (handleRelease b os w s req reply, next)
  | some .transferAhb =>
    (if minor < 2 then refuse Status.unsupported w s reply
      else handleTransferAhb w s req reply, next)
  | some .transferPrime =>
    (if minor < 6 then refuse Status.unsupported w s reply
      else handleTransferPrime b os w s req reply, next)
  | some .queueAhb => (handleQueueAhb os w s req reply, next)
  | some .completeAhb => (handleCompleteAhb w s req reply, next)
  | some .registerDmabuf => (handleRegisterDmabuf b os w s req reply, next)
  | some .unregisterDmabuf => (handleUnregisterDmabuf os w s req reply, next)
  | some .queueDmabuf => (handleQueueDmabuf b os w s req reply, next)
  | some .completeDmabuf => (handleCompleteDmabuf w s req reply, next)
  | some .flush => (handleFlush b os w s req reply, next)
  | some .closeSession => (handleClose b os w s req reply, next)
  | _ => (refuse Status.unsupported w s reply, next)

def sessionEngineHandle (w : ω) (e : Engine) (req reply : Message) : EngineResult ω :=
  if reply.payloadCapacity < 136 then e.refuse Status.internal w reply
  else if req.header.versionMinor < 1 then e.refuse Status.unsupported w reply
  else if req.header.flags != 0 then e.refuse Status.badMessage w reply
  else if Opcode.ofCode req.header.opcode = some .createSession then
    handleCreate b os w e req reply
  else
    match findSession e req.header.sessionId with
    | none => e.refuse Status.badMessage w reply
    | some k =>
      if (e.sessions k).pendingAhbState != .none &&
          Opcode.ofCode req.header.opcode != some .completeAhb then
        e.refuse Status.wouldBlock w reply
      else
        let r := dispatch b os w (e.sessions k) e.nextOutputId req reply
        ⟨r.1.status,r.1.world,{ e.setSession k r.1.session with nextOutputId := r.2 },r.1.reply,
          r.1.effects.map (Prod.mk k)⟩

/-- What the callback after a reply leaves behind; `ok` is a return value of `0`. -/
structure AfterResult (ω : Type) where
  ok : Bool
  world : ω
  session : SessionSlot
  effects : List Effect
variable (fence : Fd)
/-- The answer of `receive_ahb_input` breaks its contract: the status is out of range, or a
failure carries a fence. -/
def receivedRejected : Bool :=
  status > Status.internal || (status != .ok && decide (0 ≤ fence))

/-- The answer of `receive_ahb_input` that the engine keeps. -/
def normaliseReceived : Status × Fd :=
  if receivedRejected status fence then (.internal, -1) else (status, fence)

def SessionSlot.withReceived (s : SessionSlot) (status : Status) (fence : Fd) : SessionSlot :=
  { s with
    pendingAhb := { s.pendingAhb with acquireFenceFd := -1 }
    pendingAhbStatus := (normaliseReceived status fence).1
    pendingAhbDetail := 0
    pendingAhbReleaseFence := (normaliseReceived status fence).2
    pendingAhbState := .complete }

/-- The `QUEUE_AHB` half of `advc_session_engine_after_reply`. -/
def receiveAhb (w : ω) (s : SessionSlot) (clientFd : Fd) :
    AfterResult ω :=
  match s.pendingAhbState, b.receiveAhbInput with
  | .awaitHandle, some receive =>
    let answer := receive w s.backendHandle clientFd s.pendingAhb
    let status := answer.2.1
    let fence := answer.2.2
    let passed := fdEvent .give .ahbAcquire s.pendingAhb.acquireFenceFd ++
      fdEvent .gain .ahbFence fence
    if status == ahbFatalTransport then
      ⟨false,os.closeIfOpen answer.1 fence,s.clearPendingAhb,
        fdEffects (passed ++ fdEvent .close .ahbFence fence) ++ [.ahbFatal]⟩
    else
      let rejected := receivedRejected status fence
      ⟨true,if rejected then os.closeIfOpen answer.1 fence else answer.1,
        s.withReceived status fence,
        fdEffects (passed ++ if rejected then fdEvent .close .ahbFence fence else []) ++
          [.ahbReceived status fence]⟩
  | _, _ => ⟨false,w,s,[]⟩

/-- The `TRANSFER_AHB` half of `advc_session_engine_after_reply`. -/
def sendNative (w : ω) (s : SessionSlot) (clientFd : Fd) (req : Message) :
    AfterResult ω :=
  match findOutput s (getU64 req.payload 0), b.sendNativeBuffer with
  | some j, some send =>
    let slot := s.outputs j
    if slot.transferred || slot.nativeBuffer == 0 then ⟨false,w,s,[]⟩
    else
      let answer := send w clientFd slot.nativeBuffer
      if answer.2 < 0 then ⟨false,answer.1,s,[]⟩
      else ⟨true,answer.1,s.setOutput j { slot with transferred := true },[.nativeSent j]⟩
  | _, _ => ⟨false,w,s,[]⟩

def sessionEngineAfterReply (w : ω) (e : Engine) (clientFd : Fd)
    (req reply : Message) : Bool × ω × Engine × Log :=
  if reply.header.flags &&& Flag.ahbFollows == 0 then (true, w, e, [])
  else
    match findSession e req.header.sessionId with
    | none => (false, w, e, [])
    | some k =>
      let r :=
        if Opcode.ofCode req.header.opcode = some .queueAhb then
          receiveAhb b os w (e.sessions k) clientFd
        else if Opcode.ofCode req.header.opcode != some .transferAhb ||
            req.header.payloadSize != 8 then ⟨false,w,e.sessions k,[]⟩
        else sendNative b w (e.sessions k) clientFd req
      (r.ok, r.world, e.setSession k r.session, r.effects.map (Prod.mk k))

def sessionEngineDestroy (w : ω) (e : Engine) : ω × Log :=
  (List.finRange 4).foldl (fun acc k =>
    if (e.sessions k).inUse then
      let torn := teardown b os acc.1 (e.sessions k)
      (torn.1, acc.2 ++ torn.2.map (Prod.mk k))
    else acc) (w, [])

inductive Call where
  | handle (req reply : Message)
  | afterReply (clientFd : Fd) (req reply : Message)

def Call.opcode : Call → Option Opcode
  | .handle req _ | .afterReply _ req _ => Opcode.ofCode req.header.opcode

def step (st : ω × Engine) : Call → (ω × Engine) × Log
  | .handle req reply =>
    let r := sessionEngineHandle b os st.1 st.2 req reply
    ((r.world, r.engine), r.log)
  | .afterReply clientFd req reply =>
    let r := sessionEngineAfterReply b os st.1 st.2 clientFd req reply
    ((r.2.1, r.2.2.1), r.2.2.2)

def runCalls (w : ω) (calls : List Call) : (ω × Engine) × Log :=
  Run.run (step b os) (w, Engine.create) calls
def Reachable (e : Engine) : Prop :=
  ∃ w calls, (runCalls b os w calls).1.2 = e
def Log.slot (k : Fin 4) (log : Log) : List Effect :=
  log.filterMap fun x => if x.1 = k then some x.2 else none

def lifeLog (w : ω) (calls : List Call) : Log :=
  let r := runCalls b os w calls
  r.2 ++ (sessionEngineDestroy b os r.1.1 r.1.2).2
end LinDeX.SessionEngine
