import LinDeX.Gateway.Accounting
import LinDeX.Gateway.Exchanges
import LinDeX.Repack.Extent

/-!
# Runs of a client worker

Whatever the broker and the repack do, the leases of the pool are those of the output records, and
every output that was dequeued has gone back once or is listed in one record.
-/
namespace LinDeX.Gateway
open Bytes Dmabuf Repack Program Function List Option
variable {ω : Type}
section
variable {c : Worker ω}
def sessionTracked (sessionId : UInt32) (outputs : Fin cacheSlots → Output) : Multiset Handle :=
  (tracked outputs).filter fun h => h.1 = sessionId
def Output.ofSession (sessionId : UInt32) (o : Output) : Prop :=
  o.used = true ∧ o.sessionId = sessionId

theorem sessionTracked_update {sessionId : UInt32} {outputs : Fin cacheSlots → Output}
    {i : Fin cacheSlots} (h : (outputs i).ofSession sessionId) :
    sessionTracked sessionId (update outputs i .empty) + (outputs i).tracked =
      sessionTracked sessionId outputs := by
  have hupdate := tracked_update outputs i .empty
  have hown : (outputs i).tracked.filter (fun h => h.1 = sessionId) = (outputs i).tracked := by
    refine Multiset.filter_eq_self.mpr fun p hp => ?_
    unfold Output.tracked at hp
    split at hp
    · rw [Multiset.mem_singleton.mp hp]
      exact h.2
    · cases hp
  rw [Output.tracked_empty,add_zero] at hupdate
  rw [sessionTracked,sessionTracked,← hupdate,Multiset.filter_add,hown]

theorem sessionTracked_eq_zero {sessionId : UInt32} {outputs : Fin cacheSlots → Output}
    (h : ∀ i, ¬ (outputs i).ofSession sessionId) : sessionTracked sessionId outputs = 0 := by
  refine Multiset.filter_eq_nil.mpr fun p hp heq => ?_
  obtain ⟨i,hi⟩ := mem_tracked.mp hp
  unfold Output.tracked at hi
  split at hi
  · rename_i hused
    rw [Multiset.mem_singleton.mp hi] at heq
    exact h i ⟨hused.1,heq⟩
  · cases hi

theorem empty_not_ofSession (sessionId : UInt32) : ¬ Output.empty.ofSession sessionId := nofun
variable (env : Env ω)
theorem clearSessionOutputs_ends (sessionId : UInt32) {Q : Unit → Worker ω → Prop}
    (h : Balanced { outputsOwed := sessionTracked sessionId c.outputs } c)
    (hQ : ∀ c', Balanced {} c' → Steady c c' → Q () c') :
    Ends (clearSessionOutputs env sessionId) Q c := by
  let I (remaining : List (Fin cacheSlots)) (c' : Worker ω) : Prop :=
    Balanced { outputsOwed := sessionTracked sessionId c'.outputs } c' ∧ Steady c c' ∧
      ∀ i, i ∉ remaining → ¬ (c'.outputs i).ofSession sessionId
  have hstart : I (List.finRange cacheSlots) c :=
    ⟨h,⟨rfl,rfl⟩,fun i hi => absurd (mem_finRange i) hi⟩
  unfold clearSessionOutputs
  refine .mono (.forM (I := I) ?_ hstart) ?_
  · rintro i remaining c1 ⟨h1,hsteady1,hvisited⟩
    refine .read_bind ?_
    unfold Program.whenever
    split
    · rename_i hsession
      refine discardOutput_ends env i _ h1 (.inl rfl) (.inr (sessionTracked_update hsession))
        fun c2 h2 houtputs hsteady2 => ⟨?_,hsteady1.trans hsteady2,fun j hj => ?_⟩
      · rw [houtputs]
        exact h2
      · rw [houtputs]
        by_cases hji : j = i
        · subst hji
          rw [update_self]
          exact empty_not_ofSession sessionId
        · rw [update_of_ne hji]
          exact hvisited j fun hmem => hj ((mem_cons.mp hmem).resolve_left hji)
    · rename_i hsession
      refine .pure ⟨h1,hsteady1,fun j hj => ?_⟩
      by_cases hji : j = i
      · subst hji
        exact hsession
      · exact hvisited j fun hmem => hj ((mem_cons.mp hmem).resolve_left hji)
  · rintro _ c1 ⟨h1,hsteady,hvisited⟩
    rw [sessionTracked_eq_zero fun i => hvisited i not_mem_nil] at h1
    exact hQ c1 h1 hsteady

theorem handleFlushOrClose_ends (request : Message)
    (hop : Opcode.ofCode request.header.opcode = some .flush ∨
    Opcode.ofCode request.header.opcode = some .closeSession)
    (h : Balanced {} c) (hlive : ¬ Dead c) : Ends (handleFlushOrClose env request) Done c := by
  have hsettled (reply : Message) : settled request reply c.outputs =
      if replyStatusIsOk reply then
        { outputsOwed := sessionTracked request.header.sessionId c.outputs }
      else {} := by
    unfold settled
    rcases hop with hop | hop <;> rw [hop] <;> rfl
  refine exchanged_ends env request h hlive rfl fun reply c1 h1 houtputs hconnected => ?_
  rw [hsettled,← houtputs] at h1
  refine relayed_ends env reply h1 hconnected (fun hok c2 h2 houtputs2 => ?_) fun hfail => ?_
  · rw [if_pos hok,← houtputs2] at h2
    exact clearSessionOutputs_ends env _ h2 fun c3 h3 hsteady => ⟨h3,hsteady.connected⟩
  · exact if_neg hfail

theorem handleRequest_ends (request : Message) (h : Balanced {} c)
    (hlive : ¬ Dead c) : Ends (handleRequest env request) Done c := by
  unfold handleRequest
  split
  · exact .bind ((closeMessage_quiet env request).ends fun _ c1 hq => ⟨h.quiet hq,nofun⟩)
  have hforward (hsettled : ∀ reply, settled request reply c.outputs = {}) :
      Ends (forwardRequest env request) Done c := forwardRequest_ends env request h hlive hsettled
  cases hop : Opcode.ofCode request.header.opcode with
  | none => exact hforward fun reply => by rw [settled,hop]
  | some op =>
    cases op with
    | hello => exact handleHello_ends env request hop h hlive
    | reserveLinear => exact handleReserveLinear_ends env request h hlive
    | dequeueOutput => exact handleDequeue_ends env request hop h hlive
    | transferPrime => exact handleTransferPrime_ends env request hop h hlive
    | releaseOutput => exact handleReleaseOutput_ends env request hop h hlive
    | flush => exact handleFlushOrClose_ends env request (.inl hop) h hlive
    | closeSession => exact handleFlushOrClose_ends env request (.inr hop) h hlive
    | transferAhb | queueAhb => exact done_of_quiet (refuse_quiet env request _ _) h hlive
    | _ => exact hforward fun reply => by rw [settled,hop]

theorem serve_done (requests : List Message) (h : Balanced {} c)
    (hlive : ¬ Dead c) : Done (serve env requests c).1 (serve env requests c).2 := by
  induction requests generalizing c with
  | nil => exact ⟨h,fun _ => hlive⟩
  | cons request requests ih =>
    have hdone : Done (handleRequest env request c).1 (handleRequest env request c).2 :=
      handleRequest_ends env request h hlive
    rw [serve]
    split
    · rename_i hok
      exact ih hdone.1 (hdone.2 hok)
    · exact ⟨hdone.1,nofun⟩
end

theorem create_alive (w : ω) : ¬ Dead (Worker.create w) := not_mem_nil

/-- After every request, failed ones included, the tokens that are leased in the pool are exactly
the tokens of the records in use, each of them once on either side, and a record that holds one is
a reservation or has given its source back. -/
theorem leases_match_records (env : Env ω) (w : ω) (requests : List Message) :
    let c := (serve env requests (Worker.create w)).2
    {token | ∃ k, (c.pool.leases k).leased = true ∧ (c.pool.leases k).token = token} =
        {token | token ≠ 0 ∧ ∃ i, (c.outputs i).used = true ∧
          (c.outputs i).repackLeaseToken = token} ∧
      (∀ k k', (c.pool.leases k).leased = true → (c.pool.leases k').leased = true →
        (c.pool.leases k).token = (c.pool.leases k').token → k = k') ∧
      (∀ i j, (c.outputs i).used = true → (c.outputs j).used = true →
        (c.outputs i).repackLeaseToken ≠ 0 →
        (c.outputs i).repackLeaseToken = (c.outputs j).repackLeaseToken → i = j) ∧
      ∀ i, (c.outputs i).used = true → (c.outputs i).repackLeaseToken ≠ 0 →
        (c.outputs i).reservation = true ∨ (c.outputs i).upstreamReleased = true := by
  intro c
  obtain ⟨hrecords,hbook,_⟩ := (serve_done env requests (Balanced.create w) (create_alive w)).1
  have hsame : liveTokens c.pool.leases = leases c.outputs := add_right_cancel hbook.balance
  have hlease (i : Fin cacheSlots) (hne : (c.outputs i).repackLeaseToken ≠ 0) :
      (c.outputs i).repackLeaseToken ∈ (c.outputs i).lease := by
    rw [Output.lease_eq_singleton hne]
    exact Multiset.mem_singleton_self _
  have hkey (k : Fin cacheSlots) (hk : (c.pool.leases k).leased = true) :
      (c.pool.leases k).token ∈ (c.pool.leases k).held := by
    rw [LeaseKey.held,if_pos hk]
    exact Multiset.mem_singleton_self _
  refine ⟨?_,?_,?_,?_⟩
  · ext token
    constructor
    · intro hleft
      have hmem : token ∈ leases c.outputs := hsame ▸ mem_liveTokens.mpr hleft
      obtain ⟨i,hi⟩ := mem_leases.mp hmem
      unfold Output.lease at hi
      split at hi
      · cases hi
      · rename_i hne
        have htoken := Multiset.mem_singleton.mp hi
        exact ⟨htoken ▸ hne,i,(hrecords i).used hne,htoken.symm⟩
    · rintro ⟨hne,i,_,rfl⟩
      exact mem_liveTokens.mp (hsame ▸ mem_leases.mpr ⟨i,hlease i hne⟩)
  · intro k k' hk hk' heq
    apply Slots.eq_of_mem_of_nodup_sum hbook.distinct (hkey k hk)
    rw [heq]
    exact hkey k' hk'
  · intro i j _ _ hne heq
    have hnodup : (leases c.outputs).Nodup := hsame ▸ hbook.distinct
    apply Slots.eq_of_mem_of_nodup_sum hnodup (hlease i hne)
    rw [heq]
    exact hlease j (heq ▸ hne)
  · intro i _ hne
    exact .inr ((hrecords i).released hne)
variable {l l' : Ledger} {traffic : List Traffic}
theorem accepts_down (hdown : l.link = .down)
    (h : Run.accepts Ledger.step l traffic = some l') : traffic = [] := by
  cases traffic with
  | nil => rfl
  | cons event traffic =>
    have hnone : l.step event = none := by
      cases event <;> simp [Ledger.step,hdown]
    rw [Run.accepts_cons,hnone] at h
    cases h

theorem accepts_poisoned
    (h : Run.accepts Ledger.step l traffic = some l') (hmem : .poisoned ∈ traffic) :
    ∃ before, traffic = before ++ [.poisoned] := by
  induction traffic generalizing l with
  | nil => cases hmem
  | cons event traffic ih =>
    rw [Run.accepts_cons] at h
    obtain ⟨l1,hstep,hrest⟩ := bind_eq_some_iff.mp h
    rcases mem_cons.mp hmem with rfl | hmem
    · have hdown : l1.link = .down := by
        simp only [Ledger.step,ite_none_right_eq_some,Option.some.injEq] at hstep
        rw [← hstep.2]
      exact ⟨[],by rw [accepts_down hdown hrest,nil_append]⟩
    · obtain ⟨before,rfl⟩ := ih hrest hmem
      exact ⟨event :: before,rfl⟩

theorem accepts_connected (h : Run.accepts Ledger.step l traffic = some l') :
    traffic.count .connected ≤ if l.link = .closed then 1 else 0 := by
  induction traffic generalizing l with
  | nil => exact Nat.zero_le _
  | cons event traffic ih =>
    rw [Run.accepts_cons] at h
    obtain ⟨l1,hstep,hrest⟩ := bind_eq_some_iff.mp h
    have hcount := ih hrest
    cases event with
    | connected =>
      simp only [Ledger.step,ite_none_right_eq_some,Option.some.injEq] at hstep
      obtain ⟨hclosed,rfl⟩ := hstep
      rw [if_pos hclosed,List.count_cons_self]
      exact Nat.succ_le_succ hcount
    | answered =>
      simp only [Ledger.step,ite_none_right_eq_some,Option.some.injEq] at hstep
      obtain ⟨hup,rfl⟩ := hstep
      rw [Ledger.answer_link] at hcount
      rwa [List.count_cons_of_ne (by simp)]
    | released =>
      simp only [Ledger.step,ite_none_right_eq_some,Option.some.injEq] at hstep
      obtain ⟨hup,rfl⟩ := hstep
      rw [Ledger.giveBack_link] at hcount
      rwa [List.count_cons_of_ne (by simp)]
    | poisoned =>
      simp only [Ledger.step,ite_none_right_eq_some,Option.some.injEq] at hstep
      obtain ⟨hup,rfl⟩ := hstep
      rw [List.count_cons_of_ne (by simp)]
      exact hcount.trans (Nat.zero_le _)

def offline : Frame (Worker ω) := Frame.same Worker.traffic
variable (env : Env ω)
theorem closeFds_offline (fds : List Fd) : Keeps offline (closeFds env fds) :=
  (closeFds_quiet env fds).mono fun _ _ h => h.traffic

theorem discardOutput_offline (i : Fin cacheSlots) :
    Keeps offline (discardOutput env i) := by
  have hlease (token : UInt64) : Keeps offline (discardLease env token) := fun _ => rfl
  refine (Keeps.read _).bind fun output => (hlease _).whenever.bind fun _ => ?_
  exact (Keeps.read _).bind fun output => (closeFds_offline env _).bind fun _ =>
    Keeps.update fun _ => rfl

theorem clearClient_offline : Keeps offline (clearClient env) :=
  (Keeps.forM (discardOutput_offline env)).bind fun _ => Keeps.update fun _ => rfl

theorem clearClient_connected (c : Worker ω) : (clearClient env c).2.connected = false := by
  have hends : Ends (clearClient env) (fun _ c' => c'.connected = false) c :=
    Ends.bind (.of_forall fun _ _ => .update rfl)
  exact hends

/-- In every run of a worker the ledger accepts the upstream traffic. While the connection is not
poisoned, what was dequeued has been given back once or is tracked by one record. A handler that
poisons the connection fails and the worker ends: nothing happens upstream after that, and no second
connection is made. What the traffic says is what the exchanges on the connection were. -/
theorem upstream_accounts (env : Env ω) (w : ω) (requests : List Message) :
    let r := serve env requests (Worker.create w)
    ∃ l, Run.accepts Ledger.step Ledger.start r.2.traffic = some l ∧
      (.poisoned ∉ r.2.traffic → l.dequeued = l.returned + tracked r.2.outputs ∧
        l.outstanding = tracked r.2.outputs) ∧
      (.poisoned ∈ r.2.traffic → r.1 = false ∧ r.2.connected = false ∧
        ∃ before, r.2.traffic = before ++ [.poisoned]) ∧
      r.2.traffic.count .connected ≤ 1 ∧
      (clearClient env r.2).2.traffic = r.2.traffic ∧
      (clearClient env r.2).2.connected = false ∧ Honest env := by
  intro r
  obtain ⟨hbalanced,hok⟩ := serve_done env requests (Balanced.create w) (create_alive w)
  obtain ⟨l,hl⟩ := hbalanced.outputs
  refine ⟨l,hl.accepted,fun hlive => ?_,fun hdead => ⟨?_,?_,?_⟩,?_,
    clearClient_offline env r.2,clearClient_connected env r.2,honest env⟩
  · have houtstanding : l.outstanding = tracked r.2.outputs := add_right_cancel (hl.balance hlive)
    exact ⟨houtstanding ▸ hl.conserved,houtstanding⟩
  · exact Bool.eq_false_iff.mpr fun htrue => hok htrue hdead
  · refine Bool.eq_false_iff.mpr fun htrue => ?_
    cases (hl.up.mpr htrue).symm.trans (hl.down.mpr hdead)
  · exact accepts_poisoned hl.accepted hdead
  · exact accepts_connected hl.accepted

def oneFrameBroker (request : Message) : Except Errno Client.Datagram :=
  let frame : Descriptor :=
    { compressedFrame 64 64 with bufferId := 7, drmModifier := 0 }
  let reply (payload : List UInt8) (fds : List Fd) : Except Errno Client.Datagram :=
    let header := { request.header with
      messageType := 2, payloadSize := payload.length.toUInt32, fdCount := fds.length.toUInt16 }
    match Client.headerEncode header with
    | some bytes => .ok ⟨bytes ++ payload,fds.map Int.toNat,false⟩
    | none => .error .eproto
  match Opcode.ofCode request.header.opcode with
  | some .dequeueOutput =>
    reply (putU32 (putU64 (zeros 112) 0 7) 28 Transport.aHardwareBuffer) []
  | some .transferPrime =>
    match registrationEncode (fun _ => true) frame with
    | some (payload, fds) => reply (zeros 8 ++ payload) fds
    | none => .error .eproto
  | _ => reply (zeros 8) []

def oneFrameEnv : Env Unit :=
  { os := idleOs
    gpu := linearGpu
    policy := ⟨.auto,false⟩
    connect := fun _ => ((), true)
    exchange := fun _ request => ((), oneFrameBroker request)
    nextRequestId := fun _ => ((), 9)
    stack := fun _ => []
    errnoLeft := fun _ e => e }

/-- A client dequeues a linear output and goes away. Its worker closes the upstream connection with
the output still outstanding. -/
theorem upstream_output_left_behind :
    let r := serve oneFrameEnv
      [{ header := { versionMinor := 8, opcode := 5, requestId := 4, sessionId := 1 } }]
      (Worker.create ())
    let ended := (clearClient oneFrameEnv r.2).2
    r.1 = true ∧ ended.connected = false ∧ .poisoned ∉ ended.traffic ∧
      (Run.accepts Ledger.step Ledger.start ended.traffic).map
        (fun l => (l.dequeued, l.returned)) = some ({(1, 7)}, 0) := by
  decide +kernel
end LinDeX.Gateway
