import LinDeX.Client.Agreement
import LinDeX.Client.Input

/-!
# Exchanges with the engine

The session engine answers a request of the client with `ADVC_STATUS_OK`. For the three calls whose
replies carry records and descriptors, the client returns what the engine meant.
-/
namespace LinDeX.Client
open Bytes Dmabuf SessionEngine List Transport
variable {ω ω' : Type}
structure Answered (b : BackendOps ω) {os : Os ω} (k : os.Files) {os' : Os ω'} (k' : os'.Files)
    (w : ω) (e : Engine) (request : Message) (r : EngineResult ω) (w' : ω') (dg : Datagram) :
    Prop where
  reachable : Reachable b os e
  handled : ∃ incoming stack req, Delivers request incoming ∧
    (receiveMessage maxPayload stack (.ok incoming)).reply = .ok req ∧
      r = sessionEngineHandle b os w e req (Broker.initReply req)
  ok : r.status = .ok
  delivers : Delivers r.reply dg
  passed : Passed k r.world k' w' r.reply.fds dg.fds

section
variable {b : BackendOps ω} {os : Os ω} {k : os.Files} {os' : Os ω'} {k' : os'.Files} {w : ω}
  {e : Engine} {request : Message} {r : EngineResult ω} {w' : ω'} {dg : Datagram}

theorem Answered.dispatched (h : Answered b k k' w e request r w' dg) (hsendable : Sendable request)
    (hop : Opcode.ofCode request.header.opcode ≠ some .createSession) :
    ∃ i req, findSession e request.header.sessionId = some i ∧ req.header = request.header ∧
    (∃ rest, req.payload = request.payload.take request.header.payloadSize.toNat ++ rest) ∧
    let d := dispatch b os w (e.sessions i) e.nextOutputId req (Broker.initReply req)
    d.1.status = .ok ∧ r.reply = d.1.reply ∧ r.world = d.1.world := by
  obtain ⟨incoming,stack,req,hdelivers,hreceive,hr⟩ := h.handled
  have hvalid := hsendable.header
  simp only [headerValidate,Bool.not_eq_true',Bool.or_eq_false_iff,decide_eq_false_iff_not,
    Nat.not_lt] at hvalid
  rw [receiveMessage_delivered hsendable hdelivers hvalid.1.1.2,Except.ok.injEq] at hreceive
  have hheader : req.header = request.header := by rw [← hreceive]; rfl
  obtain ⟨i,hfind,hhandle⟩ := sessionEngineHandle_ok (hr ▸ h.ok) (by rwa [hheader])
  rw [hheader] at hfind
  have hanswer := hr.trans hhandle
  refine ⟨i,req,hfind,hheader,⟨_,by rw [← hreceive]; rfl⟩,?_,?_,?_⟩
  · have hok := h.ok
    rw [hanswer] at hok
    exact hok
  · rw [hanswer]
  · rw [hanswer]
end

theorem replyMatches_initReply {req : Message} {opcode : UInt16} {requestId sessionId : UInt32}
    {request : Header} {size : UInt32} {count : UInt16} (hheader : req.header = request)
    (hminor : request.versionMinor = versionMinor) (hopcode : request.opcode = opcode)
    (hrequest : request.requestId = requestId) (hsession : request.sessionId = sessionId) :
    replyMatches opcode sessionId requestId true { (Broker.initReply req).header with
      payloadSize := size, fdCount := count } = true := by
  subst hheader
  rw [replyMatches,Broker.initReply]
  simp [hminor,hopcode,hrequest,hsession]

theorem headerValidate_initReply {req : Message} (hlow : 1 ≤ req.header.opcode)
    (hhigh : req.header.opcode ≤ 18) {size : UInt32} {count : UInt16}
    (hsize : size.toNat ≤ maxPayload) (hcount : count.toNat ≤ maxFds) :
    headerValidate { (Broker.initReply req).header with payloadSize := size, fdCount := count } =
      true := by
  simp [headerValidate,Broker.initReply,versionMajor,UInt16.not_lt.mpr hlow,
    UInt16.not_lt.mpr hhigh,Nat.not_lt.mpr hsize,Nat.not_lt.mpr hcount]

theorem allocateOutputId_ne_zero (next : UInt64) : (allocateOutputId next).1 ≠ 0 := by
  unfold allocateOutputId
  split
  · rename_i hzero
    rw [beq_iff_eq.mp hzero]
    decide
  · rename_i hne
    exact fun hzero => hne (beq_iff_eq.mpr hzero)

def ReleaseKeeps (b : BackendOps ω) {os : Os ω} (k : os.Files) : Prop :=
  ∀ w handle token fence fd f, k.file w fd = some f → f.Sealed →
    k.file (b.releaseOutput w handle token fence) fd = some f

section
variable {b : BackendOps ω} {os : Os ω} {k : os.Files} {w : ω} {s : SessionSlot} {next : UInt64}
  {req reply : Message}

/-- The reply of `handle_dequeue`, if it succeeds: a record of the backend's output, with the memfd
that was just filled. -/
theorem handleDequeue_ok (hrelease : ReleaseKeeps b k)
    (hok : (handleDequeue b os w s next req reply).1.status = .ok) :
    let o := (b.dequeueOutput w s.backendHandle).2.2.withTransport
    ∃ fd, Produced o fd ∧
      (handleDequeue b os w s next req reply).1.reply =
        outputReply reply (allocateOutputId next).1 o fd ∧
      (o.transport = bytes →
        k.file (handleDequeue b os w s next req reply).1.world fd =
          some (sealedFile (o.data.getD []) o.size)) := by
  revert hok
  unfold handleDequeue
  split
  · exact (absurd · Status.badMessage_ne_ok)
  split
  · exact (absurd · Status.noResource_ne_ok)
  rename_i j _
  dsimp only
  split
  · rename_i hstatus
    exact fun hok => absurd hok (bne_iff_ne.mp hstatus)
  split
  · exact (absurd · Status.noResource_ne_ok)
  rename_i hsize
  generalize hanswer : b.dequeueOutput w s.backendHandle = answer at *
  obtain ⟨w1,status,output⟩ := answer
  dsimp only at hsize ⊢
  simp only [outputOversized,Bool.or_eq_true,not_or,decide_eq_true_eq,Nat.not_lt,bne_iff_ne,
    ne_eq,not_not] at hsize
  obtain ⟨⟨hlimit, -⟩,hflags⟩ := hsize
  generalize ho : output.withTransport = o
  have hlimit : o.size ≤ maxOutputBytes := by rw [← ho]; exact hlimit
  have hflags : o.flags &&& ~~~(Flag.endOfStream ||| Flag.keyFrame ||| Flag.codecConfig) = 0 := by
    rw [← ho]
    exact hflags
  split
  · rename_i hbytes
    have hbytes : o.transport = bytes := beq_iff_eq.mp hbytes
    unfold dequeueBytes
    split
    · exact fun hok => absurd hok (by simp [rejectOutput,Status.internal,Status.ok])
    rename_i hfence
    simp only [Bool.or_eq_true,not_or,decide_eq_true_eq,Int.not_le] at hfence
    generalize hmade : createSealedOutput os w1 (o.data.getD []) o.size = made
    obtain ⟨w2,fd,events⟩ := made
    cases fd with
    | none => exact (absurd · Status.internal_ne_ok)
    | some fd =>
      have hfile := createSealedOutput_file k hmade
      refine fun _ => ⟨fd,⟨.inl hbytes,⟨fun _ => hbytes,fun _ => Int.natCast_nonneg fd⟩,
        fun _ => hfence.2,hlimit,fun hahb => ?_,hflags⟩,rfl,fun _ => ?_⟩
      · rw [hbytes] at hahb
        exact absurd hahb (by decide)
      · exact hrelease _ _ _ _ _ _ hfile (sealedFile_sealed _ _)
  split
  · rename_i hbytes hahb
    have hbytes : o.transport ≠ bytes := fun h => hbytes (beq_iff_eq.mpr h)
    unfold dequeueAhb
    split
    · exact fun hok => absurd hok (by simp [rejectOutput,Status.unsupported,Status.ok])
    rename_i hempty
    simp only [Bool.or_eq_true,not_or,bne_iff_ne,ne_eq,not_not] at hempty
    refine fun _ => ⟨-1,⟨.inr (beq_iff_eq.mp hahb),⟨fun h => absurd h (by decide),
      fun h => absurd h hbytes⟩,fun h => absurd h hbytes,hlimit,fun _ => hempty.1.2,hflags⟩,rfl,
      fun h => absurd h hbytes⟩
  · exact fun hok => absurd hok (by simp [rejectOutput,Status.unsupported,Status.ok])
end

/-- What the client makes of the reply to a dequeue. A byte output that names layers or a usage is
the only one it refuses. -/
structure OutputAgrees {os : Os ω'} (k : os.Files) (w : ω') (id : UInt64) (o : BackendOutput)
    (sent : List Fd) (dg : Datagram) (result : Result Output) : Prop where
  transport : o.transport = bytes ∨ o.transport = aHardwareBuffer
  bytes : o.transport = bytes → o.layers = 0 → o.usage = 0 → ∃ fd : Nat,
    dg.fds = [fd] ∧
      result = { status := .ok Status.ok, detail := some 0,
                 value := describedOutput id o fd (-1), received := [fd] } ∧
      k.file w fd = some (sealedFile (o.data.getD []) o.size)
  refused : o.transport = Transport.bytes → (o.layers ≠ 0 ∨ o.usage ≠ 0) →
    result = { status := .error .eproto,
               value := some { Output.empty with transport := o.transport },
               received := dg.installed, closed := dg.installed }
  fenced : o.transport = aHardwareBuffer → 0 ≤ o.acquireFenceFd → ∃ fd : Nat,
    sent = [o.acquireFenceFd] ∧ dg.fds = [fd] ∧
      result = { status := .ok Status.ok, detail := some 0,
                 value := (describedOutput id o (-1) fd).fullAllocation, received := [fd] }
  unfenced : o.transport = aHardwareBuffer → o.acquireFenceFd < 0 →
    result = { status := .ok Status.ok, detail := some 0,
               value := (describedOutput id o (-1) (-1)).fullAllocation }

section
variable {b : BackendOps ω} {os : Os ω} {k : os.Files} {os' : Os ω'} {k' : os'.Files} {w : ω}
  {e : Engine} {r : EngineResult ω} {w' : ω'} {dg : Datagram} {requestId sessionId : UInt32}
  {stack : List UInt8}

theorem dequeueOutputRequest_sendable : Sendable (dequeueOutputRequest requestId sessionId) :=
  ⟨rfl,Nat.le_refl 0,rfl⟩
variable {fd : Fd}
theorem dequeueOutput_reply {base reply : Message} {id : UInt64} {o : BackendOutput}
    (hsession : sessionId ≠ 0) (hproduced : Produced o fd) (hid : id ≠ 0)
    (hreply : reply = outputReply base id o fd) (hfds : reply.fds = outputFds o fd)
    (hsendable : Sendable reply) (hdelivers : Delivers reply dg)
    (hmatches : replyMatches 5 sessionId requestId true reply.header = true)
    (hfile : o.transport = Transport.bytes → ∀ n ∈ dg.fds,
      k'.file w' n = some (sealedFile (o.data.getD []) o.size)) :
    OutputAgrees k' w' id o reply.fds dg
      (dequeueOutput os' w' requestId sessionId stack (.ok dg)) := by
  have hsize : reply.header.payloadSize.toNat = outputSize o := by
    rw [hreply,outputReply_payloadSize,outputSize_toNat]
  have htransaction := transactionEx_delivered hsendable hdelivers 136
    (by rw [hsize]; exact outputSize_le) hmatches stack
  have hrecord : OutputRecord (received reply 136 stack dg) id o := by
    rw [hreply]
    exact outputReply_record
  have hcount := received_wellCounted hsendable hdelivers 136 stack
  have hlength : dg.fds.length = (outputFds o fd).length := hdelivers.fds.trans (by rw [hfds])
  have hlong : ((received reply 136 stack dg).header.payloadSize == 8) = false := by
    rw [hrecord.payloadSize,outputSize]
    split <;> rfl
  have htransport : getU32 (received reply 136 stack dg).payload 28 = o.transport :=
    hrecord.getU32 (i := 7) (by decide)
  have hfirst {n : Nat} (hn : dg.fds = [n]) : (received reply 136 stack dg).fd 0 = n := by
    simp [Message.fd,received,Datagram.installed,hn]
  generalize hm : received reply 136 stack dg = m at *
  unfold dequeueOutput
  rw [if_neg (by simpa using hsession),htransaction]
  dsimp only
  rw [hlong,if_neg (by decide),htransport]
  have hshape := outputShapeValid_record hrecord hproduced
  have hone (hbytes : o.transport = bytes ∨ 0 ≤ o.acquireFenceFd) :
      ∃ n, dg.fds = [n] := by
    rw [outputFds_length hproduced,if_pos hbytes] at hlength
    exact length_eq_one_iff.mp hlength
  have hcontent : outputContentValid os' w' m = true := by
    refine outputContentValid_record (k := k') hrecord hproduced hid fun hbytes => ?_
    obtain ⟨n,hn⟩ := hone (.inl hbytes)
    refine ⟨sealedFile (o.data.getD []) o.size,?_,sealedFile_sealed _ _,sealedFile_length _ _⟩
    rw [hfirst hn]
    exact hfile hbytes n (by rw [hn]; exact mem_singleton_self n)
  have hvalue := readOutput_record hrecord hproduced.transport
  -- Every case but the refused one passes the checks on the shape of the record.
  have haccepted (hok : o.transport = bytes → o.layers = 0 ∧ o.usage = 0) :
      outputShapeValid m = true := hshape.mpr hok
  refine ⟨hproduced.transport,fun hbytes hlayers husage => ?_,fun hbytes hset => ?_,
    fun hahb hfence => ?_,fun hahb hfence => ?_⟩
  · obtain ⟨n,hn⟩ := hone (.inl hbytes)
    refine ⟨n,hn,?_,hfile hbytes n (by rw [hn]; exact mem_singleton_self n)⟩
    rw [haccepted fun _ => ⟨hlayers,husage⟩,hcontent,hvalue,hfirst hn,clientOutput,if_pos hbytes]
    simp [Datagram.installed,hn]
  · have hrefused : outputShapeValid m = false := by
      rw [← Bool.not_eq_true,hshape]
      intro h
      obtain ⟨hlayers,husage⟩ := h hbytes
      exact hset.elim (fun hne => hne hlayers) fun hne => hne husage
    rw [hrefused,hcount.closeMessageFds]
    rfl
  · have hne : o.transport ≠ bytes := by
      rw [hahb]
      decide
    obtain ⟨n,hn⟩ := hone (.inr hfence)
    refine ⟨n,?_,hn,?_⟩
    · rw [hfds,outputFds,if_neg fun hfd => hne (hproduced.fd.mp hfd),if_pos hfence]
    · rw [haccepted fun hbytes => absurd hbytes hne,hcontent,hvalue,hfirst hn,clientOutput,
        if_neg hne,if_pos hfence]
      simp [Datagram.installed,hn]
  · have hne : o.transport ≠ bytes := by
      rw [hahb]
      decide
    have hnone : dg.fds = [] := by
      rw [outputFds_length hproduced,if_neg (by simp [hne,hfence])] at hlength
      exact length_eq_zero_iff.mp hlength
    rw [haccepted fun hbytes => absurd hbytes hne,hcontent,hvalue,clientOutput,if_neg hne,
      if_neg (Int.not_le.mpr hfence)]
    simp [Datagram.installed,hnone]

theorem Answered.file {request : Message} (h : Answered b k k' w e request r w' dg)
    (hsent : r.reply.fds = [fd]) {f : File} (hfile : k.file r.world fd = some f) :
    ∀ n ∈ dg.fds, k'.file w' n = some f := by
  have hpassed := h.passed
  have hlength := hpassed.length
  rw [hsent] at hpassed hlength
  obtain ⟨n,hn⟩ := length_eq_one_iff.mp hlength
  intro n' hn'
  obtain rfl : n' = n := by simpa [hn] using hn'
  rw [hpassed.file (fd, n') (by rw [hn]; simp)]
  exact hfile

theorem dequeueOutput_answered (hrelease : ReleaseKeeps b k) (hsession : sessionId ≠ 0)
    (h : Answered b k k' w e (dequeueOutputRequest requestId sessionId) r w' dg) :
    ∃ i, findSession e sessionId = some i ∧ OutputAgrees k' w' (allocateOutputId e.nextOutputId).1
      (b.dequeueOutput w (e.sessions i).backendHandle).2.2.withTransport r.reply.fds dg
      (dequeueOutput os' w' requestId sessionId stack (.ok dg)) := by
  obtain ⟨i,req,hfind,hheader, -,hok,hreply,hworld⟩ :=
    h.dispatched dequeueOutputRequest_sendable
      (by decide : Opcode.ofCode 5 ≠ some .createSession)
  have hopcode : Opcode.ofCode req.header.opcode = some .dequeueOutput := by
    rw [hheader]
    rfl
  have hdispatch : dispatch b os w (e.sessions i) e.nextOutputId req (Broker.initReply req) =
      handleDequeue b os w (e.sessions i) e.nextOutputId req (Broker.initReply req) := by
    unfold dispatch
    rw [hopcode]
  rw [hdispatch] at hok hreply hworld
  obtain ⟨fd,hproduced,hmade,hfile⟩ := handleDequeue_ok hrelease hok
  have hreply := hreply.trans hmade
  rw [← hworld] at hfile
  have hfds : r.reply.fds =
      outputFds (b.dequeueOutput w (e.sessions i).backendHandle).2.2.withTransport fd := by
    rw [hreply]
    exact outputReply_fds rfl
  refine ⟨i,hfind,dequeueOutput_reply hsession hproduced (allocateOutputId_ne_zero _) hreply hfds
    ?_ h.delivers ?_ fun hbytes => ?_⟩
  · rw [hreply]
    exact outputReply_sendable rfl hproduced
      (headerValidate_initReply (by rw [hheader]; exact (by decide : (1 : UInt16) ≤ 5))
        (by rw [hheader]; exact (by decide : (5 : UInt16) ≤ 18)) (by decide) (by decide))
  · rw [hreply]
    exact replyMatches_initReply hheader rfl rfl rfl rfl
  · refine h.file ?_ (hfile hbytes)
    rw [hfds,outputFds,if_pos (hproduced.fd.mpr hbytes)]

/-- The fences that wait for the client are still the sync files that the backend handed over. -/
def FencesStay (os : Os ω) (w : ω) (s : SessionSlot) : Prop :=
  ∀ j, (s.dmabufCompletions j).inUse = true → 0 ≤ (s.dmabufCompletions j).releaseFenceFd →
    (∃ w₀, os.syncFileValidate w₀ (s.dmabufCompletions j).releaseFenceFd = true) →
      os.syncFileInfo w (s.dmabufCompletions j).releaseFenceFd = true

structure CompletionAgrees (fence : Fd) (sent : List Fd) (dg : Datagram) (result : Result Fd) :
    Prop where
  fenced : 0 ≤ fence → ∃ fd : Nat, sent = [fence] ∧ dg.fds = [fd] ∧
    result = { status := .ok Status.ok, detail := some 0, value := some (fd : Fd), received := [fd] }
  unfenced : fence < 0 →
    result = { status := .ok Status.ok, detail := some 0, value := some (-1) }

theorem completeDmabufRequest_sendable {bufferId : UInt64} :
    Sendable (completeDmabufRequest requestId sessionId bufferId) :=
  ⟨rfl,Nat.le_refl 8,rfl⟩

def completionWord (id : UInt64) (c : CompletionSlot) : Nat → UInt32
  | 0 => id.toUInt32
  | 1 => (id >>> 32).toUInt32
  | 2 => c.status
  | 3 => c.detail
  | 4 => if 0 ≤ c.releaseFenceFd then FdRole.releaseFence else FdRole.none
  | _ => 0
variable (id : UInt64) (c : CompletionSlot)
theorem completeDmabufPayload_eq :
    completeDmabufPayload id c =
      putWords (zeros 24) ((List.range 5).map fun i => (i, completionWord id c i)) := by
  simp [completeDmabufPayload,putWords,putU64,List.range_succ,completionWord]

theorem completeDmabufPayload_length : (completeDmabufPayload id c).length = 24 := by
  rw [completeDmabufPayload_eq,putWords_length,zeros,length_replicate]

theorem word_completeDmabufPayload {i : Nat} (hi : i < 6) :
    word (completeDmabufPayload id c) i = completionWord id c i := by
  rw [completeDmabufPayload_eq]
  refine word_putWords_zeros (completionWord id c) (by decide) fun hrest => ?_
  obtain rfl : i = 5 := by
    rw [mem_range] at hrest
    omega
  rfl

theorem getU64_request (rest : List UInt8) :
    getU64 ((putU64 (zeros 8) 0 id).take 8 ++ rest) 0 = id := by
  have hlength : (putU64 (zeros 8) 0 id).length = 8 := by
    simp [putU64,zeros]
  rw [take_of_length_le hlength.le,getU64_append_left hlength.ge]
  have hword {w : Nat} (hw : w < 2) : word (putU64 (zeros 8) 0 id) w =
      if w = 0 then id.toUInt32 else (id >>> 32).toUInt32 := by
    have hput : putU64 (zeros 8) 0 id = putWords (zeros 8) ([0,1].map fun w =>
        (w, if w = 0 then id.toUInt32 else (id >>> 32).toUInt32)) := rfl
    rw [hput]
    refine word_putWords_zeros (fun w => if w = 0 then id.toUInt32 else (id >>> 32).toUInt32)
      (by decide) fun hrest => absurd ?_ hrest
    obtain rfl | rfl : w = 0 ∨ w = 1 := by omega
    · decide
    · decide
  exact getU64_of_words (w := 0) (hword (by decide)) (hword (by decide))

theorem handleCompleteDmabuf_ok {s : SessionSlot} {req reply : Message}
    (hok : (handleCompleteDmabuf w s req reply).status = .ok) :
    ∃ j, findDmabufCompletion s (getU64 req.payload 0) = some j ∧
    (handleCompleteDmabuf w s req reply).reply =
      replyRecord reply 24 (completeDmabufPayload (getU64 req.payload 0) (s.dmabufCompletions j))
        (s.dmabufCompletions j).releaseFenceFd ∧
    (handleCompleteDmabuf w s req reply).world = w := by
  revert hok
  unfold handleCompleteDmabuf
  iterate 2
    split
    · exact (absurd · Status.unsupported_ne_ok)
  split
  · exact (absurd · Status.badMessage_ne_ok)
  dsimp only
  split
  · exact (absurd · Status.badMessage_ne_ok)
  split
  · exact (absurd · Status.wouldBlock_ne_ok)
  rename_i j hfind
  split
  · exact (absurd · Status.internal_ne_ok)
  · exact fun _ => ⟨j,hfind,rfl,rfl⟩

structure CompletionRecord (m : Message) (id : UInt64) (fence : Fd) : Prop where
  bufferId : getU64 m.payload 0 = id
  status : getU32 m.payload 8 = Status.ok
  detail : getU32 m.payload 12 = 0
  role : getU32 m.payload 16 = if 0 ≤ fence then FdRole.releaseFence else FdRole.none
  reserved : zeroRange m.payload 20 4 = true
  payloadSize : m.header.payloadSize = 24
  fdCount : m.header.fdCount = if 0 ≤ fence then 1 else 0
variable {base : Message}
theorem replyRecord_completion {id : UInt64} {c : CompletionSlot}
    (hstatus : c.status = Status.ok) (hdetail : c.detail = 0) (hbase : base.header.fdCount = 0) :
    CompletionRecord (received (replyRecord base 24 (completeDmabufPayload id c) c.releaseFenceFd) 24
      stack dg) id c.releaseFenceFd := by
  have hlength := completeDmabufPayload_length id c
  have hpayload : (received (replyRecord base 24 (completeDmabufPayload id c) c.releaseFenceFd) 24
      stack dg).payload = completeDmabufPayload id c ++ stack.drop 24 := by
    have hsize : (24 : UInt32).toNat = 24 := rfl
    dsimp only [received,replyRecord]
    rw [hsize,take_of_length_le hlength.le]
  have hword {i : Nat} (hi : i < 6) :
      getU32 (received (replyRecord base 24 (completeDmabufPayload id c) c.releaseFenceFd) 24 stack
        dg).payload (4 * i) = completionWord id c i := by
    rw [hpayload,getU32_append_left (by omega)]
    exact word_completeDmabufPayload id c hi
  refine ⟨getU64_of_words (w := 0) (hword (i := 0) (by decide)) (hword (i := 1) (by decide)),
    (hword (i := 2) (by decide)).trans hstatus,(hword (i := 3) (by decide)).trans hdetail,
    hword (i := 4) (by decide),(zeroRange_word_iff 5).mpr (hword (i := 5) (by decide)),rfl,?_⟩
  dsimp only [received,replyRecord]
  rw [hbase]

theorem completionValidate_record {m : Message} {id : UInt64} {fence : Fd} (syncFile : Fd → Bool)
    (h : CompletionRecord m id fence) (hid : id ≠ 0)
    (hfence : 0 ≤ fence → syncFile (m.fds.getD 0 (-1)) = true) :
    completionValidate syncFile m.payload m.header.payloadSize m.fds m.header.fdCount = true := by
  unfold completionValidate
  rw [h.payloadSize,h.fdCount,h.bufferId,h.status,h.role,h.reserved]
  by_cases hopen : 0 ≤ fence
  · have hvalid := hfence hopen
    rw [List.getD_eq_getElem?_getD] at hvalid
    simp [hopen,hid,hvalid,Status.ok,Status.internal]
  · simp [hopen,hid,Status.ok,Status.internal,FdRole.none]

theorem completeDmabuf_reply {reply : Message} {bufferId : UInt64} {fence : Fd}
    (hsession : sessionId ≠ 0) (hid : bufferId ≠ 0)
    (hrecord : CompletionRecord (received reply 24 stack dg) bufferId fence)
    (hsent : reply.fds = if 0 ≤ fence then [fence] else []) (hsendable : Sendable reply)
    (hdelivers : Delivers reply dg)
    (hmatches : replyMatches 16 sessionId requestId true reply.header = true)
    (hfence : 0 ≤ fence → ∀ n ∈ dg.fds, os'.syncFileValidate w' n = true) :
    CompletionAgrees fence reply.fds dg
      (completeDmabuf os' w' requestId sessionId bufferId stack (.ok dg)) := by
  have hsize : reply.header.payloadSize = 24 := hrecord.payloadSize
  have htransaction := transactionEx_delivered hsendable hdelivers 24
    (by rw [hsize]; decide) hmatches stack
  have hfds : (received reply 24 stack dg).fds = dg.installed := rfl
  have hlength := hdelivers.fds
  have hopened (hopen : 0 ≤ fence) : ∃ n : Nat, dg.fds = [n] ∧ dg.installed = [(n : Fd)] ∧
      os'.syncFileValidate w' n = true := by
    rw [hsent,if_pos hopen] at hlength
    obtain ⟨n,hn⟩ := length_eq_one_iff.mp hlength
    exact ⟨n,hn,by rw [Datagram.installed,hn]; rfl,
      hfence hopen n (by rw [hn]; exact mem_singleton_self n)⟩
  generalize received reply 24 stack dg = m at *
  have hvalid := completionValidate_record (os'.syncFileValidate w') hrecord hid
    fun hopen => by
      obtain ⟨n, -,hinstalled,hsync⟩ := hopened hopen
      rw [hfds,hinstalled]
      exact hsync
  have hrequest : ¬(sessionId == 0 || bufferId == 0) = true := by simp [hsession,hid]
  unfold completeDmabuf
  rw [if_neg hrequest,htransaction]
  dsimp only
  rw [hvalid,hrecord.payloadSize,if_neg (by decide),hrecord.bufferId,if_neg (by simp),
    hrecord.status,hrecord.detail,hrecord.fdCount]
  refine ⟨fun hopen => ?_,fun hclosed => ?_⟩
  · obtain ⟨n,hn,hinstalled, -⟩ := hopened hopen
    refine ⟨n,by rw [hsent,if_pos hopen],hn,?_⟩
    simp [hopen,hfds,hinstalled,Message.fd,closeMessageFds,hrecord.fdCount,maxFds]
  · have hnone : dg.installed = [] := by
      rw [hsent,if_neg (Int.not_le.mpr hclosed)] at hlength
      rw [Datagram.installed,length_eq_zero_iff.mp hlength]
      rfl
    simp [Int.not_le.mpr hclosed,hfds,hnone,closeMessageFds]

theorem replyRecord_sendable {size : UInt32} {payload : List UInt8}
    (hvalid : headerValidate { base.header with
      payloadSize := size, fdCount := if 0 ≤ fd then 1 else 0 } = true)
    (hbase : base.fds = [] ∧ base.header.fdCount = 0) (hsize : size.toNat ≤ payload.length) :
    Sendable (replyRecord base size payload fd) := by
  refine ⟨?_,hsize,?_⟩
  · dsimp only [replyRecord]
    rw [hbase.2]
    exact hvalid
  · dsimp only [replyRecord]
    rw [hbase.1,hbase.2]
    split <;> rfl

theorem completeDmabuf_answered {bufferId : UInt64}
    (hstay : ∀ i, FencesStay os w (e.sessions i)) (hsession : sessionId ≠ 0) (hid : bufferId ≠ 0)
    (h : Answered b k k' w e (completeDmabufRequest requestId sessionId bufferId) r w' dg) :
    ∃ i j, findSession e sessionId = some i ∧
    findDmabufCompletion (e.sessions i) bufferId = some j ∧
    CompletionAgrees ((e.sessions i).dmabufCompletions j).releaseFenceFd r.reply.fds dg
      (completeDmabuf os' w' requestId sessionId bufferId stack (.ok dg)) := by
  obtain ⟨i,req,hfind,hheader,⟨rest,hpayload⟩,hok,hreply,hworld⟩ :=
    h.dispatched completeDmabufRequest_sendable
      (by decide : Opcode.ofCode 16 ≠ some .createSession)
  have hopcode : Opcode.ofCode req.header.opcode = some .completeDmabuf := by
    rw [hheader]
    rfl
  have hdispatch : (dispatch b os w (e.sessions i) e.nextOutputId req (Broker.initReply req)).1 =
      handleCompleteDmabuf w (e.sessions i) req (Broker.initReply req) := by
    unfold dispatch
    rw [hopcode]
  rw [hdispatch] at hok hreply hworld
  obtain ⟨j,hslot,hmade,hsame⟩ := handleCompleteDmabuf_ok hok
  have hident : getU64 req.payload 0 = bufferId := by
    rw [hpayload]
    exact getU64_request bufferId rest
  rw [hident] at hslot hmade
  have hreply := hreply.trans hmade
  have hworld := hworld.trans hsame
  have huse := (findDmabufCompletion_some hslot).1
  obtain ⟨hstatus,hdetail,hsync⟩ := (promised_kept b os).reachable h.reachable i j huse
  have hsent : r.reply.fds = if 0 ≤ ((e.sessions i).dmabufCompletions j).releaseFenceFd then
      [((e.sessions i).dmabufCompletions j).releaseFenceFd] else [] := by
    rw [hreply]
    rfl
  refine ⟨i,j,hfind,hslot,completeDmabuf_reply hsession hid ?_ hsent ?_ h.delivers ?_
    fun hopen n hn => ?_⟩
  · rw [hreply]
    exact replyRecord_completion hstatus hdetail rfl
  · rw [hreply]
    refine replyRecord_sendable (headerValidate_initReply ?_ ?_ (by decide) ?_) ⟨rfl,rfl⟩
      (completeDmabufPayload_length _ _).ge
    · rw [hheader]
      exact (by decide : (1 : UInt16) ≤ 16)
    · rw [hheader]
      exact (by decide : (16 : UInt16) ≤ 18)
    · split <;> decide
  · rw [hreply]
    exact replyMatches_initReply hheader rfl rfl rfl rfl
  · have hpassed := h.passed
    have hlength := hpassed.length
    rw [hsent,if_pos hopen] at hpassed hlength
    obtain ⟨n',hn'⟩ := length_eq_one_iff.mp hlength
    obtain rfl : n = n' := by simpa [hn'] using hn
    have hinfo : os.syncFileInfo r.world ((e.sessions i).dmabufCompletions j).releaseFenceFd =
        true := by
      rw [hworld]
      exact hstay i j huse hopen (hsync hopen)
    have hreceived := hpassed.syncFile (_, n) (by rw [hn']; simp) hinfo
    simp only [Os.syncFileValidate,Int.natCast_nonneg,decide_true,Bool.true_and,
      hpassed.cloexec n hn,hreceived]
end

section
variable {d : Descriptor} {fds : List Fd}
def renumber (d : Descriptor) (fds : List Fd) : Descriptor :=
  { d with objects := fun i =>
      if i.val < d.objectCount.toNat then { d.objects i with fd := fds.getD i.val (-1) }
      else d.objects i }

theorem renumber_size (i : Fin 4) : ((renumber d fds).objects i).size = (d.objects i).size := by
  dsimp only [renumber]
  split <;> rfl

theorem renumber_fd {i : Fin 4} (hi : i.val < d.objectCount.toNat) :
    ((renumber d fds).objects i).fd = fds.getD i.val (-1) := by
  dsimp only [renumber]
  rw [if_pos hi]

theorem registrationPayload_renumber :
    registrationPayload (renumber d fds) = registrationPayload d := by
  have hobject : putObject (renumber d fds) = putObject d := by
    funext p i
    rw [putObject,putObject,renumber_size]
    rfl
  rw [registrationPayload,registrationPayload,hobject]
  rfl

theorem descriptorValidate_renumber {cloexec cloexec' : Fd → Bool}
    (h : descriptorValidate cloexec d = true) (hlength : fds.length = d.objectCount.toNat)
    (hfds : ∀ fd ∈ fds, 0 ≤ fd ∧ cloexec' fd = true) (hnodup : fds.Nodup) :
    descriptorValidate cloexec' (renumber d fds) = true := by
  have hcount : (renumber d fds).objectCount = d.objectCount := rfl
  have hget {i : Fin 4} (hi : i.val < d.objectCount.toNat) :
      ∃ hlt : i.val < fds.length, ((renumber d fds).objects i).fd = fds[i.val] := by
    refine ⟨hlength ▸ hi,?_⟩
    rw [renumber_fd hi,← List.getElem_eq_getD (-1)]
  simp only [descriptorValidate,Bool.and_eq_true,all_eq_true] at h ⊢
  obtain ⟨⟨hhead,hobjects⟩,hplanes⟩ := h
  refine ⟨⟨hhead,fun i _ => ?_⟩,fun i hi => ?_⟩
  · have hobject := hobjects i (mem_finRange i)
    unfold objectValid at hobject ⊢
    dsimp only at hobject ⊢
    rw [hcount,renumber_size]
    split at hobject
    · rename_i hi
      obtain ⟨hlt,hfd⟩ := hget hi
      simp only [Bool.and_eq_true,all_eq_true] at hobject ⊢
      rw [if_pos hi]
      simp only [Bool.and_eq_true,all_eq_true,decide_eq_true_eq]
      refine ⟨⟨⟨?_,hobject.1.1.2⟩,hobject.1.2⟩,fun j _ => ?_⟩
      · rw [hfd]
        exact hfds _ (List.getElem_mem hlt)
      · simp only [Bool.not_eq_true',Bool.and_eq_false_imp,decide_eq_true_eq,beq_eq_false_iff_ne,
          ne_eq]
        intro hji heq
        obtain ⟨hlt',hfd'⟩ := hget (Nat.lt_trans (Fin.lt_def.mp hji) hi)
        rw [hfd,hfd'] at heq
        exact absurd (hnodup.getElem_inj_iff.mp heq) (Nat.ne_of_lt (Fin.lt_def.mp hji))
    · rename_i hi
      rw [if_neg hi]
      dsimp only [renumber]
      rw [if_neg hi]
      exact hobject
  · have hplane := hplanes i hi
    unfold planeValid at hplane ⊢
    dsimp only at hplane ⊢
    rw [renumber_size]
    exact hplane

theorem registrationFds_renumber {cloexec : Fd → Bool}
    (h : descriptorValidate cloexec (renumber d fds) = true)
    (hlength : fds.length = d.objectCount.toNat) : registrationFds (renumber d fds) = fds := by
  have hle := UInt32.le_iff_toNat_le.mp (descriptorValidate_counts h).2.1
  have hcount := registrationFds_length h
  refine ext_getElem (hcount.trans hlength.symm) fun n hn hn' => ?_
  have hlt : n < d.objectCount.toNat := hlength ▸ hn'
  have hfd := registrationFds_getD h (i := ⟨n,Nat.lt_of_lt_of_le hlt hle⟩) hlt
  rw [renumber_fd hlt] at hfd
  rwa [← List.getElem_eq_getD (h := hn) (-1),← List.getElem_eq_getD (h := hn') (-1)] at hfd

theorem registrationDecode_renumber {cloexec cloexec' : Fd → Bool}
    (h : descriptorValidate cloexec d = true) (hlength : fds.length = d.objectCount.toNat)
    (hfds : ∀ fd ∈ fds, 0 ≤ fd ∧ cloexec' fd = true) (hnodup : fds.Nodup) :
    registrationDecode cloexec' (registrationPayload d) 256 fds (UInt16.ofNat fds.length) =
      .ok (renumber d fds) := by
  have hvalid := descriptorValidate_renumber h hlength hfds hnodup
  have hdecode := registrationDecode_encode hvalid
  rwa [registrationPayload_renumber,registrationFds_renumber hvalid hlength] at hdecode
end

section
variable {b : BackendOps ω} {os : Os ω} {k : os.Files} {os' : Os ω'} {k' : os'.Files} {w : ω}
  {e : Engine} {r : EngineResult ω} {w' : ω'} {dg : Datagram} {requestId sessionId : UInt32}
  {bufferId : UInt64} {stack : List UInt8}

theorem transferPrimeRequest_sendable :
    Sendable (transferPrimeRequest requestId sessionId bufferId) :=
  ⟨rfl,Nat.le_refl 8,rfl⟩

def primeReply (base : Message) (d : Descriptor) : Message :=
  { base with
    header := { base.header with
      payloadSize := 264
      fdCount := UInt16.ofNat (registrationFds d).length }
    payload := statusPayload Status.ok 0 ++ registrationPayload d
    fds := registrationFds d }

theorem handleTransferPrime_ok {s : SessionSlot} {req reply : Message}
    (hok : (handleTransferPrime b os w s req reply).status = .ok) :
    ∃ j exportPrime, findOutput s (getU64 req.payload 0) = some j ∧
    b.exportDecodePrime = some exportPrime ∧
    let answer := exportPrime w s.backendHandle (s.outputs j).nativeBuffer
      (s.outputs j).primeMetadata (getU64 req.payload 0)
    answer.2.2.bufferId = getU64 req.payload 0 ∧
    descriptorValidate (os.cloexec answer.1) answer.2.2 = true ∧
    (handleTransferPrime b os w s req reply).reply = primeReply reply answer.2.2 := by
  revert hok
  unfold handleTransferPrime
  split
  · exact (absurd · Status.badMessage_ne_ok)
  split
  · exact (absurd · Status.unsupported_ne_ok)
  rename_i exportPrime hexport
  split
  · exact (absurd · Status.unsupported_ne_ok)
  split
  · exact (absurd · Status.internal_ne_ok)
  dsimp only
  iterate 2
    split
    · exact (absurd · Status.badMessage_ne_ok)
  rename_i j hfind
  split
  · exact (absurd · Status.badMessage_ne_ok)
  generalize hanswer : exportPrime w s.backendHandle (s.outputs j).nativeBuffer
    (s.outputs j).primeMetadata (getU64 req.payload 0) = answer
  generalize (if answer.2.1 > Status.internal then .internal else answer.2.1) = status
  generalize hencode : (if answer.2.2.bufferId != getU64 req.payload 0 then none
    else registrationEncode (os.cloexec answer.1) answer.2.2) = encoded
  split
  · rename_i hstatus
    exact fun hok => absurd hok (bne_iff_ne.mp hstatus)
  cases encoded with
  | none => exact (absurd · Status.internal_ne_ok)
  | some encoded =>
  obtain ⟨payload,fds⟩ := encoded
  dsimp only
  split at hencode
  · cases hencode
  rename_i hid
  rw [registrationEncode_eq] at hencode
  split at hencode
  swap
  · cases hencode
  rename_i hvalid
  simp only [Option.some.injEq,Prod.mk.injEq] at hencode
  obtain ⟨rfl,rfl⟩ := hencode
  split
  · exact (absurd · Status.internal_ne_ok)
  · refine fun _ => ⟨j,exportPrime,hfind,hexport,?_⟩
    dsimp only
    rw [hanswer]
    exact ⟨by simpa using hid,hvalid,rfl⟩

theorem primeReply_sendable {base : Message} {d : Descriptor}
    {cloexec : Fd → Bool} (hvalid : descriptorValidate cloexec d = true)
    (hheader : ∀ count : UInt16, count.toNat ≤ maxFds →
      headerValidate { base.header with payloadSize := 264, fdCount := count } = true) :
    Sendable (primeReply base d) := by
  have hle := UInt32.le_iff_toNat_le.mp (descriptorValidate_counts hvalid).2.1
  have hfour : (registrationFds d).length ≤ 4 := by
    rw [registrationFds_length hvalid]
    exact hle
  have hcount : (UInt16.ofNat (registrationFds d).length).toNat = (registrationFds d).length :=
    UInt16.toNat_ofNat_of_lt' (Nat.lt_of_le_of_lt hfour (by decide))
  refine ⟨hheader _ ?_,?_,hcount⟩
  · rw [hcount]
    exact Nat.le_trans hfour (by decide)
  · dsimp only [primeReply]
    rw [length_append,registrationPayload_length]
    exact Nat.le_refl 264

theorem transferPrime_reply {base : Message} {d : Descriptor} {cloexec : Fd → Bool}
    (hsession : sessionId ≠ 0) (hid : bufferId ≠ 0) (hbuffer : d.bufferId = bufferId)
    (hvalid : descriptorValidate cloexec d = true) (hflags : base.header.flags = 0)
    (hsendable : Sendable (primeReply base d)) (hdelivers : Delivers (primeReply base d) dg)
    (hmatches : replyMatches 17 sessionId requestId true (primeReply base d).header = true)
    (hcloexec : ∀ fd ∈ dg.fds, os'.cloexec w' fd = true) (hnodup : dg.fds.Nodup)
    (hstack : stack.length = 264) :
    transferPrime os' w' requestId sessionId bufferId stack (.ok dg) =
      { status := .ok Status.ok, detail := some 0, value := renumber d dg.installed,
        received := dg.installed } := by
  have htransaction := transactionEx_delivered hsendable hdelivers 264
    (Nat.le_refl 264) hmatches stack
  have hfds : dg.installed.length = d.objectCount.toNat := by
    rw [Datagram.installed_length,hdelivers.fds]
    exact registrationFds_length hvalid
  have hpayload : (received (primeReply base d) 264 stack dg).payload =
      statusPayload Status.ok 0 ++ registrationPayload d := by
    have hsize : (264 : UInt32).toNat = 264 := rfl
    have hlength : (statusPayload Status.ok 0 ++ registrationPayload d).length = 264 := by
      rw [length_append,registrationPayload_length]
      rfl
    dsimp only [received,primeReply]
    rw [hsize,take_of_length_le hlength.le,drop_eq_nil_of_le hstack.le,append_nil]
  have hcount : (received (primeReply base d) 264 stack dg).header.fdCount =
      UInt16.ofNat dg.installed.length := by
    dsimp only [received,primeReply]
    rw [Datagram.installed_length,hdelivers.fds]
    rfl
  have hflags' : (received (primeReply base d) 264 stack dg).header.flags = 0 := hflags
  have hsize : (received (primeReply base d) 264 stack dg).header.payloadSize = 264 := rfl
  have hinstalled : (received (primeReply base d) 264 stack dg).fds = dg.installed := rfl
  generalize received (primeReply base d) 264 stack dg = m at *
  have hstatus : getU32 m.payload 0 = Status.ok ∧ getU32 m.payload 4 = 0 := by
    have hlength : (statusPayload Status.ok 0).length = 8 := rfl
    rw [hpayload,getU32_append_left (by omega),getU32_append_left (by omega)]
    decide
  have hdrop : descriptorPayload m = registrationPayload d := by
    rw [descriptorPayload,hpayload]
    exact drop_left' rfl
  have hobjects : getU32 (registrationPayload d) 48 = d.objectCount :=
    (registrationPayload_record d).head 12 (by decide)
  obtain ⟨hne,hle, -⟩ := descriptorValidate_counts hvalid
  have hdecode : registrationDecode (os'.cloexec w') (registrationPayload d) 256 dg.installed
      (UInt16.ofNat dg.installed.length) = .ok (renumber d dg.installed) := by
    refine registrationDecode_renumber hvalid hfds (fun fd hfd => ?_) ?_
    · obtain ⟨n,hn,rfl⟩ := mem_map.mp hfd
      exact ⟨Int.natCast_nonneg n,hcloexec n hn⟩
    · exact hnodup.map fun _ _ h => Int.ofNat.inj h
  have hcount32 : (UInt16.ofNat dg.installed.length).toUInt32 = d.objectCount := by
    have hfour : d.objectCount.toNat ≤ 4 := UInt32.le_iff_toNat_le.mp hle
    apply UInt32.toNat.inj
    rw [UInt16.toNat_toUInt32,hfds,UInt16.toNat_ofNat_of_lt' (by
      exact Nat.lt_of_le_of_lt hfour (by decide))]
  have hrequest : ¬(sessionId == 0 || bufferId == 0) = true := by simp [hsession,hid]
  have hbuffer' : (renumber d dg.installed).bufferId = bufferId := hbuffer
  -- All descriptors of the message went into the descriptor, so that none is left to close.
  have hclosed : closeMessageFds { m with fds := dg.installed.mapIdx fun i fd =>
      if i < (renumber d dg.installed).objectCount.toNat then -1 else fd } = [] := by
    refine filter_eq_nil_iff.mpr fun fd hfd => ?_
    have hfd := mem_of_mem_take hfd
    obtain ⟨n,hn,rfl⟩ := mem_mapIdx.mp hfd
    have hlt : n < (renumber d dg.installed).objectCount.toNat := hfds ▸ hn
    rw [if_pos hlt]
    decide
  unfold transferPrime
  rw [if_neg hrequest,htransaction]
  dsimp only
  rw [hsize,if_neg (by decide),hflags',if_neg (by decide),hstatus.1,hstatus.2,
    if_neg (by decide),hdrop,hobjects,hcount,hcount32,
    if_neg (by simp [hne,UInt32.not_lt.mpr hle]),hinstalled,hdecode]
  dsimp only
  rw [if_neg (by simp [hbuffer']),hclosed]

theorem transferPrime_answered (hsession : sessionId ≠ 0) (hid : bufferId ≠ 0)
    (hstack : stack.length = 264)
    (h : Answered b k k' w e (transferPrimeRequest requestId sessionId bufferId) r w' dg) :
    ∃ i j exportPrime, findSession e sessionId = some i ∧
    findOutput (e.sessions i) bufferId = some j ∧ b.exportDecodePrime = some exportPrime ∧
    let slot := (e.sessions i).outputs j
    let d := (exportPrime w (e.sessions i).backendHandle slot.nativeBuffer slot.primeMetadata
      bufferId).2.2
    r.reply.fds = registrationFds d ∧
      transferPrime os' w' requestId sessionId bufferId stack (.ok dg) =
        { status := .ok Status.ok, detail := some 0, value := renumber d dg.installed,
          received := dg.installed } := by
  obtain ⟨i,req,hfind,hheader,⟨rest,hpayload⟩,hok,hreply, -⟩ :=
    h.dispatched transferPrimeRequest_sendable
      (by decide : Opcode.ofCode 17 ≠ some .createSession)
  have hopcode : Opcode.ofCode req.header.opcode = some .transferPrime := by
    rw [hheader]
    rfl
  have hdispatch : (dispatch b os w (e.sessions i) e.nextOutputId req (Broker.initReply req)).1 =
      handleTransferPrime b os w (e.sessions i) req (Broker.initReply req) := by
    have hminor : ¬req.header.versionMinor < 6 := by
      rw [hheader]
      exact (by decide : ¬versionMinor < 6)
    unfold dispatch
    rw [hopcode]
    exact if_neg hminor
  rw [hdispatch] at hok hreply
  obtain ⟨j,exportPrime,hslot,hexport,hbuffer,hvalid,hmade⟩ := handleTransferPrime_ok hok
  have hident : getU64 req.payload 0 = bufferId := by
    rw [hpayload]
    exact getU64_request bufferId rest
  rw [hident] at hslot hbuffer hvalid hmade
  have hreply := hreply.trans hmade
  have hdelivers := h.delivers
  rw [hreply] at hdelivers
  refine ⟨i,j,exportPrime,hfind,hslot,hexport,by rw [hreply]; rfl,
    transferPrime_reply hsession hid hbuffer hvalid rfl ?_ hdelivers ?_ h.passed.cloexec
      h.passed.nodup hstack⟩
  · refine primeReply_sendable hvalid fun count hcount =>
      headerValidate_initReply ?_ ?_ (by decide) hcount
    · rw [hheader]
      exact (by decide : (1 : UInt16) ≤ 17)
    · rw [hheader]
      exact (by decide : (17 : UInt16) ≤ 18)
  · exact replyMatches_initReply hheader rfl rfl rfl rfl
end

/-- Agreement on replies. The client returns what the backend described for a dequeue answered with
OK, with each descriptor in the field it was sent for; the picture of an AHB output is the whole
allocation, and a byte output that names layers or a usage is refused and its data closed. The
replies to `COMPLETE_DMABUF` and `TRANSFER_PRIME` are reproduced. -/
theorem exchange_agreement (b : BackendOps ω) {os : Os ω} (k : os.Files) {os' : Os ω'}
    (k' : os'.Files) (hrelease : ReleaseKeeps b k) (w : ω) (w' : ω') (e : Engine)
    (hstay : ∀ i, FencesStay os w (e.sessions i)) :
    (∀ requestId sessionId r dg stack, sessionId ≠ 0 →
      Answered b k k' w e (dequeueOutputRequest requestId sessionId) r w' dg →
      ∃ i, findSession e sessionId = some i ∧ OutputAgrees k' w' (allocateOutputId e.nextOutputId).1
        (b.dequeueOutput w (e.sessions i).backendHandle).2.2.withTransport r.reply.fds dg
        (dequeueOutput os' w' requestId sessionId stack (.ok dg))) ∧
    (∀ requestId sessionId bufferId r dg stack, sessionId ≠ 0 → bufferId ≠ 0 →
      Answered b k k' w e (completeDmabufRequest requestId sessionId bufferId) r w' dg →
      ∃ i j, findSession e sessionId = some i ∧
      findDmabufCompletion (e.sessions i) bufferId = some j ∧
      CompletionAgrees ((e.sessions i).dmabufCompletions j).releaseFenceFd r.reply.fds dg
        (completeDmabuf os' w' requestId sessionId bufferId stack (.ok dg))) ∧
    ∀ requestId sessionId bufferId r dg stack, sessionId ≠ 0 → bufferId ≠ 0 → stack.length = 264 →
      Answered b k k' w e (transferPrimeRequest requestId sessionId bufferId) r w' dg →
      ∃ i j exportPrime, findSession e sessionId = some i ∧
      findOutput (e.sessions i) bufferId = some j ∧ b.exportDecodePrime = some exportPrime ∧
      let slot := (e.sessions i).outputs j
      let d := (exportPrime w (e.sessions i).backendHandle slot.nativeBuffer slot.primeMetadata
        bufferId).2.2
      r.reply.fds = registrationFds d ∧
        transferPrime os' w' requestId sessionId bufferId stack (.ok dg) =
          { status := .ok Status.ok, detail := some 0, value := renumber d dg.installed,
            received := dg.installed } :=
  ⟨fun _ _ _ _ _ hsession h => dequeueOutput_answered hrelease hsession h,
    fun _ _ _ _ _ _ hsession hid h => completeDmabuf_answered hstay hsession hid h,
    fun _ _ _ _ _ _ hsession hid hstack h => transferPrime_answered hsession hid hstack h⟩

def sentRecord (m : Message) (fds : List Nat) : Datagram where
  bytes := ((sendMessage m).map Prod.fst).getD []
  fds := fds
  truncated := false

theorem delivers_sentRecord {m : Message} (h : Sendable m) {fds : List Nat}
    (hfds : fds.length = m.fds.length) : Delivers m (sentRecord m fds) :=
  ⟨⟨m.fds,by rw [sentRecord,sendMessage_sendable h]; rfl⟩,hfds,rfl⟩

instance (m : Message) : Decidable (Sendable m) :=
  decidable_of_iff (headerValidate m.header = true ∧
    m.header.payloadSize.toNat ≤ m.payload.length ∧ m.header.fdCount.toNat = m.fds.length)
    ⟨fun h => ⟨h.1,h.2.1,h.2.2⟩,fun h => ⟨h.header,h.payload,h.fds⟩⟩

def engineAnswer (b : BackendOps ω) (os : Os ω) (w : ω) (e : Engine) (request : Message) :
    EngineResult ω :=
  let req := received request maxPayload [] (sentRecord request [])
  sessionEngineHandle b os w e req (Broker.initReply req)

theorem answered_sentRecord {b : BackendOps ω} {os : Os ω} {k : os.Files} {os' : Os ω'}
    {k' : os'.Files} {w : ω} {w' : ω'} {e : Engine} {request : Message} {fds : List Nat}
    (he : Reachable b os e) (hrequest : Sendable request ∧ request.fds = [])
    (hanswer : (engineAnswer b os w e request).status = .ok ∧
    Sendable (engineAnswer b os w e request).reply)
    (hpassed : Passed k (engineAnswer b os w e request).world k' w'
      (engineAnswer b os w e request).reply.fds fds) :
    Answered b k k' w e request (engineAnswer b os w e request) w'
      (sentRecord (engineAnswer b os w e request).reply fds) := by
  have hdelivers : Delivers request (sentRecord request []) :=
    delivers_sentRecord hrequest.1 (by rw [hrequest.2]; rfl)
  have hvalid := hrequest.1.header
  simp only [headerValidate,Bool.not_eq_true',Bool.or_eq_false_iff,decide_eq_false_iff_not,
    Nat.not_lt] at hvalid
  refine ⟨he,⟨_,[],_,hdelivers,?_,rfl⟩,hanswer.1,
    delivers_sentRecord hanswer.2 hpassed.length,hpassed⟩
  rw [receiveMessage_delivered hrequest.1 hdelivers hvalid.1.1.2]

/-- A backend with an output for byte sessions and one for all others; its buffers have one object,
and its submissions come with a fence. -/
def outputBackend (bytes ahb : BackendOutput) : BackendOps FileTable where
  create w c := (w, .ok, if c.transport == Transport.bytes then 2 else 1)
  queueInput w _ _ _ _ := (w, .ok)
  dequeueOutput w handle := (w, .ok, if handle = 2 then bytes else ahb)
  releaseOutput w _ _ _ := w
  exportDecodePrime := some fun w _ _ _ id => (w, .ok, mockDescriptor id 3)
  sendNativeBuffer := some fun w _ _ => (w, 0)
  receiveAhbInput := none
  dmabufFormatAllowed := some fun w _ _ => (w, 1, none)
  submitDmabuf := some fun w _ _ _ _ => (w, .ok, 4)
  flush w _ := (w, .ok)
  destroy w _ := w

def byteOutput (usage : UInt64) : BackendOutput :=
  { mockOutput bytes Flag.keyFrame 8 (-1) with
    data := some [1,2,3,4,5]
    size := 5
    layers := 0
    usage := usage
    nativeBuffer := 0 }

def ahbOutput : BackendOutput :=
  { mockOutput aHardwareBuffer 0 9 5 with height := 1088, sliceHeight := 1088 }
def decodeCalls : List SessionEngine.Call :=
  [.request createDecode,.request (mockRequest 5 1 [] []),.request createByteDecode]
def dmabufCalls : List SessionEngine.Call :=
  [.request (createEncode dmabuf),.request (registerDmabuf 1 7 2),.request (queueDmabuf 1 7)]
def emptyTable : FileTable := ⟨[],nofun⟩
def clientTable : FileTable := ⟨[⟨[],0⟩,⟨[1,2,3,4,5],outputSeals⟩],by decide⟩
def exchangeEngine (usage : UInt64) (calls : List SessionEngine.Call) : Engine :=
  (runCalls (outputBackend (byteOutput usage) ahbOutput) tableOs emptyTable calls).1.2

def exchangeAnswer (usage : UInt64) (calls : List SessionEngine.Call) (request : Message) :
    EngineResult FileTable :=
  engineAnswer (outputBackend (byteOutput usage) ahbOutput) tableOs emptyTable
    (exchangeEngine usage calls) request

/-- The engine answers both dequeues with OK. The client refuses the byte output, which names a
usage, and takes the 1088 lines of the other buffer for the picture, which has 1080. -/
theorem output_reply_disagreement :
    let bytes := exchangeAnswer 1 decodeCalls (dequeueOutputRequest 9 2)
    let ahb := exchangeAnswer 1 decodeCalls (dequeueOutputRequest 9 1)
    bytes.status = .ok ∧ bytes.reply.fds = [0] ∧
      (dequeueOutput tableOs clientTable 9 2 [] (.ok (sentRecord bytes.reply [1]))).value =
        some { Output.empty with transport := Transport.bytes } ∧
      (dequeueOutput tableOs clientTable 9 2 [] (.ok (sentRecord bytes.reply [1]))).closed = [1] ∧
      ahb.status = .ok ∧ ahbOutput.cropBottom = 1079 ∧
      (dequeueOutput tableOs clientTable 9 1 [] (.ok (sentRecord ahb.reply [6]))).value.map
        Output.cropBottom = some 1087 := by
  decide +kernel

theorem exchangeAnswer_answered {calls : List SessionEngine.Call} {request : Message} (fd : Fd)
    {n : Nat} (hrequest : Sendable request ∧ request.fds = [])
    (hanswer : (exchangeAnswer 0 calls request).status = .ok ∧
    Sendable (exchangeAnswer 0 calls request).reply ∧
    (exchangeAnswer 0 calls request).reply.fds = [fd] ∧
    clientTable.file n = (exchangeAnswer 0 calls request).world.file fd) :
    Answered (outputBackend (byteOutput 0) ahbOutput) tableFiles tableFiles emptyTable
      (exchangeEngine 0 calls) request (exchangeAnswer 0 calls request) clientTable
      (sentRecord (exchangeAnswer 0 calls request).reply [n]) := by
  obtain ⟨hok,hsendable,hfds,hfile⟩ := hanswer
  refine answered_sentRecord ⟨emptyTable,calls,rfl⟩ hrequest ⟨hok,hsendable⟩
    ⟨?_,nodup_singleton n,fun _ _ => rfl,fun p hp => ?_,fun _ _ _ => rfl⟩
  · exact (congrArg List.length hfds).symm
  · have hp : p ∈ (exchangeAnswer 0 calls request).reply.fds.zip [n] := hp
    rw [hfds] at hp
    obtain rfl : p = (fd, n) := by simpa using hp
    exact hfile

/-- All three sessions get what was meant for them. -/
theorem exchange_agreement_run :
    let bytes := sentRecord (exchangeAnswer 0 decodeCalls (dequeueOutputRequest 9 2)).reply [1]
    let prime := sentRecord (exchangeAnswer 0 decodeCalls (transferPrimeRequest 9 1 1)).reply [7]
    let completion :=
      sentRecord (exchangeAnswer 0 dmabufCalls (completeDmabufRequest 9 1 7)).reply [6]
    (dequeueOutput tableOs clientTable 9 2 [] (.ok bytes)).value =
        some (describedOutput 2 (byteOutput 0) 1 (-1)) ∧
      (transferPrime tableOs clientTable 9 1 1 (zeros 264) (.ok prime)).value =
        some (renumber (mockDescriptor 1 3) [7]) ∧
      (completeDmabuf tableOs clientTable 9 1 7 [] (.ok completion)).value = some 6 := by
  intro bytes prime completion
  have hagreement (calls : List SessionEngine.Call) :=
    exchange_agreement (outputBackend (byteOutput 0) ahbOutput) tableFiles tableFiles
      (fun _ _ _ _ _ _ hfile _ => hfile) emptyTable clientTable (exchangeEngine 0 calls)
      (fun _ _ _ _ _ => rfl)
  obtain ⟨hdequeue, -,htransfer⟩ := hagreement decodeCalls
  obtain ⟨-,hcomplete, -⟩ := hagreement dmabufCalls
  refine ⟨?_,?_,?_⟩
  · obtain ⟨i,hi,hagrees⟩ := hdequeue 9 2 _ bytes [] (by decide)
      (exchangeAnswer_answered 0 ⟨dequeueOutputRequest_sendable,rfl⟩ (by decide +kernel))
    have hstate : findSession (exchangeEngine 0 decodeCalls) 2 = some 1 ∧
        ((exchangeEngine 0 decodeCalls).sessions 1).backendHandle = 2 ∧
        (allocateOutputId (exchangeEngine 0 decodeCalls).nextOutputId).1 = 2 := by
      decide +kernel
    obtain rfl : i = 1 := Option.some.inj (hi.symm.trans hstate.1)
    rw [hstate.2.1,hstate.2.2] at hagrees
    obtain ⟨n,hfds,hresult, -⟩ := hagrees.bytes rfl rfl rfl
    obtain rfl : 1 = n := singleton_inj.mp hfds
    rw [hresult]
    rfl
  · obtain ⟨i,j,exportPrime,hi,hj,hexport, -,hresult⟩ := htransfer 9 1 1 _ prime (zeros 264)
      (by decide) (by decide) length_replicate
      (exchangeAnswer_answered 3 ⟨transferPrimeRequest_sendable,rfl⟩ (by decide +kernel))
    rw [hresult]
    cases hexport
    rfl
  · obtain ⟨i,j,hi,hj,hagrees⟩ := hcomplete 9 1 7 _ completion [] (by decide) (by decide)
      (exchangeAnswer_answered 4 ⟨completeDmabufRequest_sendable,rfl⟩ (by decide +kernel))
    have hstate : findSession (exchangeEngine 0 dmabufCalls) 1 = some 0 ∧
        findDmabufCompletion ((exchangeEngine 0 dmabufCalls).sessions 0) 7 = some 0 ∧
        (((exchangeEngine 0 dmabufCalls).sessions 0).dmabufCompletions 0).releaseFenceFd = 4 := by
      decide +kernel
    obtain rfl : i = 0 := Option.some.inj (hi.symm.trans hstate.1)
    obtain rfl : j = 0 := Option.some.inj (hj.symm.trans hstate.2.1)
    rw [hstate.2.2] at hagrees
    obtain ⟨n, -,hfds,hresult⟩ := hagrees.fenced (by decide)
    obtain rfl : 6 = n := singleton_inj.mp hfds
    rw [hresult]
    rfl
end LinDeX.Client
