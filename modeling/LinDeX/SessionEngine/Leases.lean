import LinDeX.Library.Lease
import LinDeX.SessionEngine.Invariant
import LinDeX.SessionEngine.Mock
import LinDeX.SessionEngine.Recorded

/-!
# Output tokens

Each session slot is a lease desk: the backend's token of an output is obtained by `dequeue_output`
and given back by `release_output`, at once or at the end of a lease on an output slot.
-/
namespace LinDeX.SessionEngine
open Dmabuf Function List
variable {ω : Type} {b : BackendOps ω} {os : Os ω} {w : ω} {e e' : Engine} {s s' : SessionSlot}
  {next next' : UInt64} {status : Status} {effects : List Effect} {log : Log}
  {verdict : Option Status} {op : Option Opcode} {req reply : Message}

inductive Transfer where
  | native
  | prime
  deriving DecidableEq, Repr

def leaseEvent : Effect → Option (Lease.Event 8 UInt64 Transfer)
  | .dequeued t => some (.obtained t)
  | .released none t => some (.returned t)
  | .released (some j) t => some (.ended j t)
  | .accepted j t => some (.granted j t)
  | .nativeSent j => some (.transferred j .native)
  | .primeSent j => some (.transferred j .prime)
  | .fd _ | .ahbQueued | .ahbReceived .. | .ahbFatal | .ahbDelivered .. | .ahbDropped => none

def OutputSlot.seen (o : OutputSlot) : Transfer → Bool
  | .native => o.transferred
  | .prime => o.primeTransferred

def OutputSlot.grant (o : OutputSlot) : Option (Lease.Grant UInt64 Transfer) :=
  if o.leased then some ⟨o.backendToken,o.seen⟩ else none
def SessionSlot.desk (s : SessionSlot) : Lease.Desk 8 UInt64 Transfer :=
  ⟨none,fun j => (s.outputs j).grant⟩
def leaseLog (k : Fin 4) (log : Log) : List (Lease.Event 8 UInt64 Transfer) :=
  (log.slot k).filterMap leaseEvent
variable {o : OutputSlot}
theorem grant_of_leased (h : o.leased = true) :
    o.grant = some ⟨o.backendToken,o.seen⟩ := if_pos h
@[simp] theorem grant_zero : OutputSlot.zero.grant = none := rfl

theorem seen_native (o : OutputSlot) :
    ({ o with transferred := true } : OutputSlot).seen = update o.seen .native true := by
  funext kind
  cases kind <;> rfl

theorem seen_prime (o : OutputSlot) : ({ o with primeTransferred := true } : OutputSlot).seen =
      update o.seen .prime true := by
  funext kind
  cases kind <;> rfl

theorem grant_of_unused (h : o.inUse = false) : o.grant = none :=
  if_neg (by simp [OutputSlot.leased,h])
@[simp] theorem desk_zero : SessionSlot.zero.desk = Lease.Desk.empty := rfl

theorem desk_setOutput (j : Fin 8) (o : OutputSlot) :
    (s.setOutput j o).desk = ⟨none,update s.desk.leases j o.grant⟩ := by
  simp only [SessionSlot.desk,SessionSlot.setOutput,Lease.Desk.mk.injEq,true_and]
  funext i
  by_cases hi : i = j
  · subst hi
    rw [update_self,update_self]
  · rw [update_of_ne hi,update_of_ne hi]
variable {j : Fin 8}
theorem desk_setOutput_of_grant (h : o.grant = (s.outputs j).grant) :
    (s.setOutput j o).desk = s.desk := by
  have hsame : update s.desk.leases j o.grant = s.desk.leases := by
    rw [h]
    exact update_eq_self j s.desk.leases
  rw [desk_setOutput,hsame]
  rfl

@[simp] theorem filterMap_fdEffects (events : List FdEvent) :
    (fdEffects events).filterMap leaseEvent = [] := by
  simp [fdEffects,filterMap_map,Function.comp_def,leaseEvent]

theorem filterMap_outputEffects (s : SessionSlot) :
    (outputEffects s).filterMap leaseEvent = Lease.endAll s.desk.leases (List.finRange 8) := by
  rw [outputEffects,Lease.endAll,filterMap_flatMap]
  refine List.flatMap_congr fun j _ => ?_
  simp only [SessionSlot.desk,OutputSlot.grant]
  split <;> rfl

theorem accepts_outstandingEffects (s : SessionSlot) :
    Run.accepts Lease.step s.desk ((outstandingEffects s).filterMap leaseEvent) =
      some Lease.Desk.empty := by
  have hend := Lease.accepts_endAll s.desk.leases none (nodup_finRange 8)
  simp only [mem_finRange,if_true] at hend
  simp only [outstandingEffects,filterMap_append,filterMap_outputEffects,filterMap_fdEffects,
    append_nil,filterMap_cons,leaseEvent,filterMap_nil]
  exact hend

theorem HandleStep.leases (h : HandleStep s next op status effects s' next') (hs : s.WellFormed) :
    Run.accepts Lease.step s.desk (effects.filterMap leaseEvent) = some s'.desk := by
  cases h with
  | failed | quiet => simp
  | oversized o | rejected hstatus token =>
    simp [dequeuedEffects,leaseEvent,Lease.step,SessionSlot.desk]
  | dequeuedBytes j _ _ _ hfree =>
    have hgrant : ((s.outputs j).takeBytes (allocateOutputId next).1).grant =
        (s.outputs j).grant := by
      rw [(hs.outputs j).cleared hfree]
      rfl
    rw [desk_setOutput_of_grant hgrant]
    simp [leaseEvent,Lease.step,SessionSlot.desk]
  | dequeuedAhb j o hfree htransport =>
    have hgrant : ((s.outputs j).takeAhb (allocateOutputId next).1 o).grant =
        some ⟨o.token,fun _ => false⟩ := by
      rw [(hs.outputs j).cleared hfree,grant_of_leased]
      · congr 2
        funext kind
        cases kind <;> rfl
      · simp [OutputSlot.leased,OutputSlot.takeAhb,htransport]
    rw [desk_setOutput,hgrant]
    simp [dequeuedEffects,leaseEvent,Lease.step,SessionSlot.desk,grant_of_unused hfree]
  | releasedBytes _ _ htransport =>
    rw [desk_setOutput_of_grant]
    · rfl
    · rw [OutputSlot.grant,OutputSlot.grant,if_neg (by decide),
        if_neg (by simp [OutputSlot.leased,htransport])]
  | releasedAhb _ hlease =>
    rw [desk_setOutput]
    simp [leaseEvent,Lease.step,SessionSlot.desk,grant_of_leased hlease]
  | primeSent j hlease honce =>
    have hgrant : ({ s.outputs j with primeTransferred := true } : OutputSlot).grant =
        some ⟨_,_⟩ := grant_of_leased hlease
    have hseen : (s.outputs j).seen .prime = false := honce
    rw [desk_setOutput,hgrant,seen_prime]
    simp [leaseEvent,Lease.step,SessionSlot.desk,grant_of_leased hlease,hseen]
  | queuedAhb | completedDmabuf | registered | unregistered | queuedDmabuf =>
    simp only [filterMap_append,filterMap_fdEffects,leaseEvent]
    rfl
  | completedAhb _ taken htaken =>
    have hsame : taken.clearPendingAhb.desk = s.desk := by
      rw [htaken]
      split <;> rfl
    rw [filterMap_cons_none rfl,filterMap_fdEffects,hsame]
    rfl
  | flushed => exact accepts_outstandingEffects s
  | closed =>
    rw [filterMap_append,filterMap_fdEffects,append_nil]
    exact accepts_outstandingEffects s

theorem AfterStep.leases (h : AfterStep s op effects s') (hs : s.WellFormed) :
    Run.accepts Lease.step s.desk (effects.filterMap leaseEvent) = some s'.desk := by
  cases h with
  | idle => rfl
  | nativeSent j huse hbuffer honce =>
    -- only an output with a buffer can be sent, and byte outputs have none
    have hlease : (s.outputs j).leased = true := by
      by_contra hbytes
      have htransport : (s.outputs j).transport ≠ Transport.aHardwareBuffer := by
        simpa [OutputSlot.leased,huse] using hbytes
      rw [(hs.outputs j).bytes huse htransport] at hbuffer
      exact hbuffer rfl
    have hgrant : ({ s.outputs j with transferred := true } : OutputSlot).grant =
        some ⟨_,_⟩ := grant_of_leased hlease
    have hseen : (s.outputs j).seen .native = false := honce
    rw [desk_setOutput,hgrant,seen_native]
    simp [leaseEvent,Lease.step,SessionSlot.desk,grant_of_leased hlease,hseen]
  | fatal | received =>
    rw [filterMap_append,filterMap_fdEffects,nil_append,filterMap_cons_none rfl]
    rfl

theorem leaseLog_append (k : Fin 4) (xs ys : Log) :
    leaseLog k (xs ++ ys) = leaseLog k xs ++ leaseLog k ys := by
  rw [leaseLog,Log.slot_append,filterMap_append]
  rfl

theorem EngineStep.leases (h : EngineStep e op verdict log e') (he : e.WellFormed) (k : Fin 4) :
    Run.accepts Lease.step (e.sessions k).desk (leaseLog k log) = some (e'.sessions k).desk := by
  cases h with
  | refused | idle => rfl
  | created k' s hfree _ _ _ _ hs =>
    have hnew : ∀ id, ({ s with id := id } : SessionSlot).desk = (e.sessions k').desk := by
      intro id
      rw [he.cleared k' hfree,hs]
      rfl
    rw [Engine.openSession_eq]
    exact Engine.setSession_accepts (filterMap leaseEvent) [] rfl
      (congrArg some (hnew _).symm) k
  | handled k' huse _ h =>
    exact Engine.setSession_accepts _ _ rfl (h.leases (he.session k' huse)) k
  | called k' huse h =>
    exact Engine.setSession_accepts _ _ rfl (h.leases (he.session k' huse)) k

theorem EngineRun.leases (h : EngineRun e log e') (he : e.WellFormed) (k : Fin 4) :
    Run.accepts Lease.step (e.sessions k).desk (leaseLog k log) = some (e'.sessions k).desk :=
  Run.Trace.accepted h Engine.WellFormed (leaseLog k) rfl (leaseLog_append k) Lease.step
    (fun e => (e.sessions k).desk) (fun _ _ _ ⟨_,_,hstep⟩ => hstep.wellFormed)
    (fun _ _ _ ⟨_,_,hstep⟩ he => hstep.leases he k) he

theorem runCalls_leases (b : BackendOps ω) (os : Os ω) (w : ω) (calls : List Call) (k : Fin 4) :
    Run.accepts Lease.step Lease.Desk.empty (leaseLog k (runCalls b os w calls).2) =
      some ((runCalls b os w calls).1.2.sessions k).desk :=
  (runCalls_engineRun b os (w, Engine.create) Engine.wellFormed_create calls).leases
    Engine.wellFormed_create k

theorem sessionEngineDestroy_leases (b : BackendOps ω) (os : Os ω) (w : ω) (he : e.WellFormed)
    (k : Fin 4) :
    Run.accepts Lease.step (e.sessions k).desk (leaseLog k (sessionEngineDestroy b os w e).2) =
      some Lease.Desk.empty := by
  obtain ⟨torn,hlive,hdead,hlog⟩ := sessionEngineDestroy_log b os w e
  rw [leaseLog,hlog,Log.slot_flatMap]
  cases huse : (e.sessions k).inUse with
  | true =>
    obtain ⟨events,heq, -⟩ := hlive k huse
    rw [heq,filterMap_append,filterMap_fdEffects,append_nil]
    exact accepts_outstandingEffects _
  | false =>
    rw [hdead k huse,he.cleared k huse]
    rfl

theorem lifeLog_leases (b : BackendOps ω) (os : Os ω) (w : ω) (calls : List Call) (k : Fin 4) :
    Run.accepts Lease.step Lease.Desk.empty (leaseLog k (lifeLog b os w calls)) =
      some Lease.Desk.empty := by
  have hwf : (runCalls b os w calls).1.2.WellFormed := Reachable.wellFormed ⟨w,calls,rfl⟩
  rw [lifeLog,leaseLog_append,Run.accepts_append,runCalls_leases]
  exact sessionEngineDestroy_leases b os _ hwf k
variable {t : UInt64}
theorem ended_mem_filterMap :
    .ended j t ∈ effects.filterMap leaseEvent ↔ .released (some j) t ∈ effects := by
  rw [mem_filterMap]
  constructor
  · rintro ⟨x,hx,hev⟩
    cases x with
    | released slot =>
      cases slot with
      | none => cases hev
      | some i =>
        cases hev
        exact hx
    | _ => cases hev
  · intro h
    exact ⟨_,h,rfl⟩

theorem fd_not_released {events : List FdEvent} {slot : Option (Fin 8)} :
    .released slot t ∉ fdEffects events := by
  simp [fdEffects]

theorem HandleStep.ended (h : HandleStep s next op status effects s' next') (hmem : .released (some j) t ∈ effects) :
    (op = some .releaseOutput ∨ op = some .flush ∨ op = some .closeSession) ∧ status = .ok := by
  cases h with
  | releasedAhb => exact ⟨.inl rfl,rfl⟩
  | flushed => exact ⟨.inr (.inl rfl),rfl⟩
  | closed => exact ⟨.inr (.inr rfl),rfl⟩
  | _ =>
    simp only [dequeuedEffects,cons_append,mem_append,mem_cons,reduceCtorEq,
      Effect.released.injEq,false_and,fd_not_released,not_mem_nil,or_self] at hmem

theorem AfterStep.not_ended (h : AfterStep s op effects s') :
    .released (some j) t ∉ effects := by
  cases h <;> simp [fd_not_released]

theorem EngineStep.ended (h : EngineStep e op verdict log e') {k : Fin 4} (hmem : (k, .released (some j) t) ∈ log) :
    (op = some .releaseOutput ∨ op = some .flush ∨ op = some .closeSession) ∧
    verdict = some Status.ok := by
  cases h with
  | refused | idle | created => cases hmem
  | handled _ _ _ h =>
    obtain ⟨x,hx,heq⟩ := mem_map.mp hmem
    cases heq
    obtain ⟨hop,hok⟩ := h.ended hx
    exact ⟨hop,congrArg some hok⟩
  | called _ _ h =>
    obtain ⟨x,hx,heq⟩ := mem_map.mp hmem
    cases heq
    exact absurd hx h.not_ended

theorem step_ended {st : ω × Engine} {call : Call} (he : st.2.WellFormed) {k : Fin 4} (hmem : .ended j t ∈ leaseLog k (step b os st call).2) :
    ∃ req reply, call = .handle req reply ∧
    (sessionEngineHandle b os st.1 st.2 req reply).status = .ok ∧
    (call.opcode = some .releaseOutput ∨ call.opcode = some .flush ∨
    call.opcode = some .closeSession) := by
  have hlog : (k, .released (some j) t) ∈ (step b os st call).2 := by
    obtain ⟨⟨k',x⟩,hx,heq⟩ := mem_filterMap.mp (ended_mem_filterMap.mp hmem)
    split at heq
    · rename_i hk
      cases heq
      exact hk ▸ hx
    · cases heq
  obtain ⟨verdict,h,hhandled⟩ := step_engineStep b os st.1 call he
  obtain ⟨hop,hok⟩ := h.ended hlog
  obtain ⟨req,reply,hcall,hstatus⟩ := hhandled hok
  exact ⟨req,reply,hcall,hstatus,hop⟩

theorem HandleStep.desk_empty (h : HandleStep s next op status effects s' next')
    (hok : status = .ok) (hop : op = some .flush ∨ op = some .closeSession) :
    s'.desk = Lease.Desk.empty := by
  cases h with
  | flushed => rfl
  | closed => rfl
  | failed hstatus => exact absurd hok hstatus
  | quiet hquiet =>
    obtain rfl | rfl := hquiet <;> simp at hop
  | _ => simp at hop

theorem handleRelease_ok (hok : (handleRelease b os w s req reply).status = .ok) :
    ∃ j, findOutput s (Bytes.getU64 req.payload 0) = some j ∧
    (handleRelease b os w s req reply).session = s.setOutput j OutputSlot.zero := by
  revert hok
  unfold handleRelease
  iterate 3
    split
    · exact (absurd · Status.badMessage_ne_ok)
  rename_i j hfind
  dsimp only
  split
  · split
    · exact (absurd · Status.badMessage_ne_ok)
    split
    · exact (absurd · Status.internal_ne_ok)
    · exact fun _ => ⟨j,hfind,rfl⟩
  · split
    · exact (absurd · Status.badMessage_ne_ok)
    · exact fun _ => ⟨j,hfind,rfl⟩

/-- The request gives back the output in slot `j` of session `k`: it releases it by name, or
flushes or closes the session. -/
def GivesBack (e : Engine) (req : Message) (k : Fin 4) (j : Fin 8) : Prop :=
  findSession e req.header.sessionId = some k ∧
    (Opcode.ofCode req.header.opcode = some .flush ∨
      Opcode.ofCode req.header.opcode = some .closeSession ∨
      Opcode.ofCode req.header.opcode = some .releaseOutput ∧
        findOutput (e.sessions k) (Bytes.getU64 req.payload 0) = some j)

theorem lease_none_of_givesBack {k : Fin 4} (he : e.WellFormed)
    (hok : (sessionEngineHandle b os w e req reply).status = .ok) (h : GivesBack e req k j) :
    ((sessionEngineHandle b os w e req reply).engine.sessions k).desk.leases j = none := by
  obtain ⟨hfind,hop⟩ := h
  have hcreate : Opcode.ofCode req.header.opcode ≠ some .createSession := by
    rintro heq
    simp [heq] at hop
  obtain ⟨k',hfind',heq⟩ := sessionEngineHandle_ok hok hcreate
  rw [hfind] at hfind'
  cases hfind'
  have hs := he.session k (findSession_some hfind).1
  have hstatus : (dispatch b os w (e.sessions k) e.nextOutputId req reply).1.status =
      Status.ok := by
    rw [heq] at hok
    exact hok
  have hsession : (sessionEngineHandle b os w e req reply).engine.sessions k =
      (dispatch b os w (e.sessions k) e.nextOutputId req reply).1.session := by
    rw [heq]
    exact Engine.setSession_self e k _
  rw [hsession]
  obtain hop | hop | ⟨hop,hout⟩ := hop
  · rw [(dispatch_step hs).desk_empty hstatus (.inl hop)]
    rfl
  · rw [(dispatch_step hs).desk_empty hstatus (.inr hop)]
    rfl
  · have hdispatch : (dispatch b os w (e.sessions k) e.nextOutputId req reply).1 =
        handleRelease b os w (e.sessions k) req reply := by
      simp only [dispatch,hop]
    rw [hdispatch] at hstatus ⊢
    obtain ⟨i,hi,hfree⟩ := handleRelease_ok hstatus
    rw [hout] at hi
    cases hi
    rw [hfree,desk_setOutput]
    exact update_self ..

structure TokensReleasedOnce (b : BackendOps ω) (os : Os ω) (w : ω) (calls : List Call)
    (k : Fin 4) : Prop where
  /-- A token that is released in the log was passed to `release_output` then. -/
  truthful : Truthful b os
  /-- Between calls no token is in hand, and the leases are the outstanding outputs. -/
  between : ∀ n, Run.accepts Lease.step Lease.Desk.empty
    (leaseLog k (runCalls b os w (calls.take n)).2) =
      some ((runCalls b os w (calls.take n)).1.2.sessions k).desk
  atEnd : Run.accepts Lease.step Lease.Desk.empty (leaseLog k (lifeLog b os w calls)) =
    some Lease.Desk.empty
  counted : Run.weight Lease.Event.gained (leaseLog k (lifeLog b os w calls)) =
    Run.weight Lease.Event.givenBack (leaseLog k (lifeLog b os w calls))
  neverAgain : ∀ before mid after j t t',
    leaseLog k (lifeLog b os w calls) = before ++ .ended j t :: mid ++ .ended j t' :: after →
      ∃ t'', .granted j t'' ∈ mid
  transferOnce : ∀ before mid after j kind,
    leaseLog k (lifeLog b os w calls) =
      before ++ .transferred j kind :: mid ++ .transferred j kind :: after → ∃ t, .ended j t ∈ mid
  /-- No lease ends before a successful `RELEASE`, `FLUSH` or `CLOSE`. -/
  notBefore : ∀ before call after, calls = before ++ call :: after → ∀ j t,
    .ended j t ∈ leaseLog k (step b os (runCalls b os w before).1 call).2 →
      ∃ req reply, call = .handle req reply ∧
        (sessionEngineHandle b os (runCalls b os w before).1.1 (runCalls b os w before).1.2 req
          reply).status = .ok ∧
        (call.opcode = some .releaseOutput ∨ call.opcode = some .flush ∨
          call.opcode = some .closeSession)
  notAfter : ∀ before req reply after, calls = before ++ .handle req reply :: after →
    let e := (runCalls b os w before).1.2
    let r := sessionEngineHandle b os (runCalls b os w before).1.1 e req reply
    ∀ j, r.status = .ok → GivesBack e req k j → (r.engine.sessions k).desk.leases j = none

/-- Every backend token is given to `release_output` exactly once, and every lease sees each
transfer at most once. -/
theorem tokens_released_once (b : BackendOps ω) (os : Os ω) (w : ω) (calls : List Call)
    (k : Fin 4) : TokensReleasedOnce b os w calls k := by
  have hwf : ∀ cs, (runCalls b os w cs).1.2.WellFormed := fun cs =>
    Reachable.wellFormed ⟨w,cs,rfl⟩
  have hlife := lifeLog_leases b os w calls k
  refine ⟨truthful b os,fun n => runCalls_leases b os w (calls.take n) k,hlife,?_,?_,?_,?_,?_⟩
  · simpa using Lease.accepts_conserves hlife
  · intro before mid after j t t' heq
    rw [heq] at hlife
    exact Lease.granted_between_ends hlife
  · intro before mid after j kind heq
    rw [heq] at hlife
    exact Lease.ended_between_transfers hlife
  · intro before call after _ j t hmem
    exact step_ended (hwf before) hmem
  · intro before req reply after _ e r j hok hgives
    exact lease_none_of_givesBack (hwf before) hok hgives
end LinDeX.SessionEngine
