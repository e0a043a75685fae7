import LinDeX.SessionEngine.Mock
import LinDeX.SessionEngine.Ownership
import LinDeX.SessionEngine.Recorded

/-!
# Fences of the backend

Every fence that the backend hands over is sent or closed once, except the acquire fence of an
output that `handle_dequeue` turns down for its size, data or flags: that one is lost.
-/
namespace LinDeX.SessionEngine
open Multiset
variable {ω : Type} {b : BackendOps ω} {os : Os ω} {e : Engine} {s : SessionSlot} {next : UInt64}
def obtainedOutput (b : BackendOps ω) (st : ω × Engine) : Call → Option BackendOutput
  | .afterReply .. => none
  | .handle req reply =>
    if reply.payloadCapacity < 136 || req.header.versionMinor < 1 || req.header.flags != 0 ||
        Opcode.ofCode req.header.opcode != some .dequeueOutput then none
    else
      match findSession st.2 req.header.sessionId with
      | none => none
      | some k =>
        if (st.2.sessions k).pendingAhbState != .none || req.header.payloadSize != 0 ||
            req.header.fdCount != 0 || (freeOutputSlot (st.2.sessions k)).isNone then none
        else
          let answer := b.dequeueOutput st.1 (st.2.sessions k).backendHandle
          if answer.2.1 != .ok then none else some answer.2.2

/-- A call does not obtain an output that is turned down for its size, data or flags while it
carries an acquire fence. -/
def FenceSeen (b : BackendOps ω) (st : ω × Engine) (call : Call) : Prop :=
  ∀ o, obtainedOutput b st call = some o → outputOversized o = true → o.acquireFenceFd < 0

def lostBy (b : BackendOps ω) (st : ω × Engine) (call : Call) : Holding :=
  match obtainedOutput b st call with
  | none => 0
  | some o => if outputOversized o then holding .outputFence o.acquireFenceFd else 0
variable {src : FdSource} {fd : Fd}
theorem holding_eq_zero_iff : holding src fd = 0 ↔ fd < 0 := by
  unfold holding
  split
  · rename_i hpos
    simpa using hpos
  · rename_i hneg
    simpa using hneg

theorem lostBy_eq_zero_iff {st : ω × Engine} {call : Call} :
    lostBy b st call = 0 ↔ FenceSeen b st call := by
  unfold lostBy FenceSeen
  cases obtainedOutput b st call with
  | none => simp
  | some o =>
    by_cases hover : outputOversized o = true
    · simp [hover,holding_eq_zero_iff]
    · simp [hover]

theorem lostBy_source {st : ω × Engine} {call : Call}
    (h : (src, fd) ∈ lostBy b st call) : src = .outputFence := by
  unfold lostBy at h
  split at h
  · cases h
  split at h
  · unfold holding at h
    split at h
    · exact congrArg Prod.fst (mem_singleton.mp h)
    · cases h
  · cases h
variable {w : ω} {reply : Message}
theorem dequeueBytes_kept {j : Fin 8} (o : BackendOutput) :
    droppedIn (dequeueBytes b os w s next reply j o).1.effects = 0 := by
  unfold dequeueBytes
  split
  · exact rejectOutput_kept o
  dsimp only
  obtain ⟨hmade,hbalance⟩ | ⟨fd,hmade,hevents⟩ :=
    createSealedOutput_events os w (o.data.getD []) o.size
  · rw [hmade]
    simp [dequeuedEffects,Effect.dropped,hbalance.plain.safe.droppedBy]
  · have hgain : droppedBy [FdEvent.gain .sealedOutput (fd : Int)] = 0 := rfl
    have hreply : droppedBy [FdEvent.reply .sealedOutput (fd : Int)] = 0 := rfl
    rw [hmade,hevents]
    simp [dequeuedEffects,Effect.dropped,hgain,hreply]

theorem dequeueAhb_kept {j : Fin 8} (o : BackendOutput) :
    droppedIn (dequeueAhb b os w s next reply j o).1.effects = 0 := by
  unfold dequeueAhb
  split
  · exact rejectOutput_kept o
  · simp [dequeuedEffects,Effect.dropped]

theorem handleDequeue_dropped {req reply : Message} :
    droppedIn (handleDequeue b os w s next req reply).1.effects =
      if req.header.payloadSize != 0 || req.header.fdCount != 0 ||
          (freeOutputSlot s).isNone then 0
      else
        let answer := b.dequeueOutput w s.backendHandle
        if answer.2.1 != .ok then 0
        else if outputOversized answer.2.2 then holding .outputFence answer.2.2.acquireFenceFd
        else 0 := by
  unfold handleDequeue
  by_cases hshape : (req.header.payloadSize != 0 || req.header.fdCount != 0) = true
  · simp [hshape,refuse]
  rw [if_neg hshape]
  cases hslot : freeOutputSlot s with
  | none => simp [refuse]
  | some j =>
    simp only [hshape,Option.isNone_some,Bool.or_false,Bool.false_eq_true,if_false]
    generalize b.dequeueOutput w s.backendHandle = answer
    by_cases hstatus : (answer.2.1 != .ok) = true
    · simp [hstatus,refuse]
    by_cases hover : outputOversized answer.2.2 = true
    · simp [hstatus,hover,dequeuedEffects,Effect.dropped]
    · simp only [hstatus,hover,Bool.false_eq_true,if_false]
      split
      · exact dequeueBytes_kept _
      split
      · exact dequeueAhb_kept _
      · exact rejectOutput_kept _

theorem handleCreate_log {req reply : Message} : (handleCreate b os w e req reply).log = [] := by
  unfold handleCreate
  split
  · rfl
  split
  · rfl
  dsimp only
  split
  · rfl
  split
  · rfl
  split <;> rfl
variable (st : ω × Engine)
theorem step_dropped (call : Call) (he : st.2.WellFormed) :
    (step b os st call).2.dropped = lostBy b st call := by
  cases call with
  | afterReply clientFd req reply =>
    have h := sessionEngineAfterReply_step b os st.1 st.2 clientFd req reply
    simp only [step,lostBy,obtainedOutput]
    dsimp only at h
    generalize (sessionEngineAfterReply b os st.1 st.2 clientFd req reply).2.2.1 = e' at h
    generalize (sessionEngineAfterReply b os st.1 st.2 clientFd req reply).2.2.2 = log at h ⊢
    generalize Opcode.ofCode req.header.opcode = op at h
    cases h with
    | idle => rfl
    | called k huse h =>
      rw [Log.dropped_map]
      exact (h.conserves (he.session k huse) huse).2
  | handle req reply =>
    simp only [step,sessionEngineHandle,lostBy,obtainedOutput]
    by_cases hcapacity : reply.payloadCapacity < 136
    · simp [hcapacity,Engine.refuse,Log.dropped]
    by_cases hminor : req.header.versionMinor < 1
    · simp [hcapacity,hminor,Engine.refuse,Log.dropped]
    by_cases hflags : (req.header.flags != 0) = true
    · simp [hcapacity,hminor,hflags,Engine.refuse,Log.dropped]
    by_cases hop : Opcode.ofCode req.header.opcode = some .dequeueOutput
    · simp only [hcapacity,hminor,hflags,hop,decide_false,Bool.or_self,bne_self_eq_false,
        Bool.false_eq_true,if_false,Option.some.injEq,reduceCtorEq]
      cases hfind : findSession st.2 req.header.sessionId with
      | none => rfl
      | some k =>
        by_cases hpending : ((st.2.sessions k).pendingAhbState != .none) = true
        · simp [hpending,Engine.refuse,Log.dropped]
        · simp only [hpending,Bool.false_and,Bool.false_or,Bool.false_eq_true,if_false]
          rw [Log.dropped_map,dispatch_dequeue hop,handleDequeue_dropped]
          split
          · rfl
          dsimp only
          split <;> rfl
    · have hnone : (Opcode.ofCode req.header.opcode != some .dequeueOutput) = true := by
        simpa using hop
      simp only [hcapacity,hminor,hflags,hnone,Bool.or_true,if_true,if_false,Bool.false_eq_true]
      split
      · rw [handleCreate_log]
        rfl
      split
      · rfl
      rename_i k hfind
      split
      · rfl
      · rw [Log.dropped_map]
        exact (dispatch_steps (he.session k (findSession_some hfind).1) hop).kept

theorem runCalls_dropped_eq_zero_iff (he : st.2.WellFormed) (calls : List Call) :
    Log.dropped (Run.run (step b os) st calls).2 = 0 ↔
      Run.RunAllowed (step b os) (FenceSeen b) st calls := by
  induction calls generalizing st with
  | nil => simp [Log.dropped,Run.RunAllowed]
  | cons call calls ih =>
    rw [Run.run_cons,Log.dropped,Run.weight_append,Run.RunAllowed,← lostBy_eq_zero_iff,
      ← step_dropped st call he,← ih _ (step_wellFormed st call he)]
    exact add_eq_zero

theorem runCalls_dropped_source (he : st.2.WellFormed) (calls : List Call) (h : (src, fd) ∈ Log.dropped (Run.run (step b os) st calls).2) :
    src = .outputFence := by
  induction calls generalizing st with
  | nil => cases h
  | cons call calls ih =>
    rw [Run.run_cons,Log.dropped,Run.weight_append] at h
    obtain h | h := mem_add.mp h
    · rw [← Log.dropped,step_dropped st call he] at h
      exact lostBy_source h
    · exact ih _ (step_wellFormed st call he) h

@[simp] def FdEvent.replied : FdEvent → List Fd
  | .reply _ fd => [fd]
  | _ => []

@[simp] def Effect.replied : Effect → List Fd
  | .fd event => FdEvent.replied event
  | _ => []

/-- The descriptors that were sent, as the log has them. -/
def repliedFds (effects : List Effect) : List Fd := effects.flatMap Effect.replied

@[simp] theorem repliedFds_fdEffects (events : List FdEvent) :
    repliedFds (fdEffects events) = events.flatMap FdEvent.replied := List.flatMap_map ..

theorem replied_fdEvent (event : FdSource → Fd → FdEvent) :
    (fdEvent event src fd).flatMap FdEvent.replied =
      if 0 ≤ fd then FdEvent.replied (event src fd) else [] := by
  unfold fdEvent
  split
  · exact List.append_nil _
  · rfl

@[simp] theorem repliedFds_nil : repliedFds [] = [] := rfl

@[simp] theorem repliedFds_cons (x : Effect) (effects : List Effect) :
    repliedFds (x :: effects) = x.replied ++ repliedFds effects := List.flatMap_cons

theorem repliedFds_append (effects later : List Effect) :
    repliedFds (effects ++ later) = repliedFds effects ++ repliedFds later := List.flatMap_append

theorem flatMap_none (fds : List Fd) : fds.flatMap (fun _ => ([] : List Fd)) = [] :=
  List.flatMap_eq_nil_iff.mpr fun _ _ => rfl

section
variable {s' : SessionSlot} {next' : UInt64} {op : Option Opcode} {status : Status}
  {effects : List Effect} {events : List FdEvent} {w : ω} {req reply : Message}
theorem HandleStep.reply_opcode (h : HandleStep s next op status effects s' next')
    (hmem : .fd (.reply src fd) ∈ effects) : op = some .dequeueOutput ∨ op = some .transferPrime ∨
      op = some .completeAhb ∨ op = some .completeDmabuf := by
  have hplain {events : List FdEvent} (hp : Plain events) : .fd (.reply src fd) ∉ fdEffects events :=
    fun hev => by cases hp _ (fd_mem_fdEffects.mp hev)
  cases h with
  | failed _ _ hbalance => exact absurd hmem (hplain hbalance.plain)
  | quiet | releasedBytes => cases hmem
  | oversized | rejected | dequeuedBytes | dequeuedAhb => exact .inl rfl
  | releasedAhb _ _ _ hbalance =>
    exact absurd ((List.mem_append.mp hmem).resolve_right (by simp)) (hplain hbalance.plain)
  | queuedAhb =>
    exact absurd ((List.mem_append.mp hmem).resolve_right (by simp)) (by simp [fdEffects,fdEvent])
  | registered | unregistered | queuedDmabuf => exact absurd hmem (hplain ‹_›)
  | primeSent => exact .inr (.inl rfl)
  | completedAhb => exact .inr (.inr (.inl rfl))
  | completedDmabuf => exact .inr (.inr (.inr rfl))
  | flushed =>
    obtain ⟨_,_,hev⟩ := mem_outstandingEffects hmem
    cases hev
  | closed _ _ _ hp =>
    obtain hmem | hmem := List.mem_append.mp hmem
    · obtain ⟨_,_,hev⟩ := mem_outstandingEffects hmem
      cases hev
    · exact absurd hmem (hplain hp)

/-- A reply carries the descriptors that the log says were sent with it. -/
theorem dispatch_reply (hs : s.WellFormed)
    (hmem : .fd (.reply src fd) ∈ (dispatch b os w s next req reply).1.effects) :
    (dispatch b os w s next req reply).1.reply.fds =
      repliedFds (dispatch b os w s next req reply).1.effects := by
  have hop := HandleStep.reply_opcode (dispatch_step hs) hmem
  have hsome : repliedFds (dispatch b os w s next req reply).1.effects ≠ [] :=
    List.ne_nil_of_mem (List.mem_flatMap.mpr ⟨_,hmem,List.mem_singleton_self fd⟩)
  revert hsome
  rcases hop with hop | hop | hop | hop <;> simp only [dispatch,hop]
  · simp only [handleDequeue,dequeueBytes,dequeueAhb,rejectOutput,createSealedOutput]
    repeat' split
    all_goals simp_all [refuse,dequeuedEffects,repliedFds_append,replied_fdEvent,outputReply]
  · split
    · exact fun h => absurd rfl h
    simp only [handleTransferPrime,closeExported]
    repeat' split
    all_goals simp_all [refuse,repliedFds_append,List.flatMap_map,flatMap_none]
  · simp only [handleCompleteAhb]
    repeat' split
    all_goals simp_all [refuse,replied_fdEvent,replyRecord]
  · simp only [handleCompleteDmabuf]
    repeat' split
    all_goals simp_all [refuse,replied_fdEvent,replyRecord]

theorem sessionEngineHandle_reply (he : e.WellFormed) {k : Fin 4}
    (hmem : (k, .fd (.reply src fd)) ∈ (sessionEngineHandle b os w e req reply).log) :
    (sessionEngineHandle b os w e req reply).reply.fds =
      repliedFds ((sessionEngineHandle b os w e req reply).log.map Prod.snd) := by
  revert hmem
  unfold sessionEngineHandle
  iterate 3
    split
    · exact fun hmem => absurd hmem List.not_mem_nil
  split
  · rw [handleCreate_log]
    exact fun hmem => absurd hmem List.not_mem_nil
  split
  · exact fun hmem => absurd hmem List.not_mem_nil
  rename_i j hfind
  split
  · exact fun hmem => absurd hmem List.not_mem_nil
  intro hmem
  obtain ⟨x,hx,heq⟩ := List.mem_map.mp hmem
  cases heq
  rw [List.map_map,show Prod.snd ∘ Prod.mk k = id from rfl,List.map_id]
  exact dispatch_reply (he.session k (findSession_some hfind).1) hx
end

/-- Every fence that the backend hands over in a life of the engine is sent in one successful
reply or closed, once in all: as often as it was handed over in the end, and never more often than
that on the way. The log tells what the backend handed over and what the kernel was asked to
close. -/
structure FencesSettledOnce (b : BackendOps ω) (os : Os ω) (w : ω) (calls : List Call) : Prop where
  truthful : Truthful b os
  settled : ∀ src fd, src.fromBackend = true →
    fdCount (.gain src fd) (lifeLog b os w calls) =
      fdCount (.close src fd) (lifeLog b os w calls) + fdCount (.reply src fd) (lifeLog b os w calls)
  notAhead : ∀ src fd n, src.fromBackend = true →
    fdCount (.close src fd) (runCalls b os w (calls.take n)).2 +
        fdCount (.reply src fd) (runCalls b os w (calls.take n)).2 ≤
      fdCount (.gain src fd) (runCalls b os w (calls.take n)).2
  sent : ∀ before call after, calls = before ++ call :: after → ∀ k src fd,
    (k, .fd (.reply src fd)) ∈ (step b os (runCalls b os w before).1 call).2 →
      ∃ req reply, call = .handle req reply ∧
        let r := sessionEngineHandle b os (runCalls b os w before).1.1 (runCalls b os w before).1.2
          req reply
        r.status = .ok ∧ r.reply.fds = repliedFds (r.log.map Prod.snd)
  notSentLate : ∀ k src fd, (k, .fd (.reply src fd)) ∉
    (sessionEngineDestroy b os (runCalls b os w calls).1.1 (runCalls b os w calls).1.2).2

/-- Every fence is settled once exactly in the runs that never obtain an output whose size, data
or flags `handle_dequeue` turns down while it carries an acquire fence. -/
theorem fencesSettledOnce_iff (b : BackendOps ω) (os : Os ω) (w : ω) (calls : List Call) :
    FencesSettledOnce b os w calls ↔
      Run.RunAllowed (step b os) (FenceSeen b) (w, Engine.create) calls := by
  have hwf : ∀ cs, (runCalls b os w cs).1.2.WellFormed := fun cs =>
    Reachable.wellFormed ⟨w,cs,rfl⟩
  have hrun : ∀ cs, EngineRun Engine.create (runCalls b os w cs).2 (runCalls b os w cs).1.2 :=
    runCalls_engineRun b os (w, Engine.create) Engine.wellFormed_create
  -- over the whole life the ledger has only three columns left for a fence of the backend
  have hlife : ∀ src fd, src.fromBackend = true →
      fdCount (.gain src fd) (lifeLog b os w calls) =
        fdCount (.close src fd) (lifeLog b os w calls) +
          fdCount (.reply src fd) (lifeLog b os w calls) +
            fdCount (.drop src fd) (lifeLog b os w calls) := by
    intro src fd hsrc
    have hcount := (hrun calls).count_life b os (runCalls b os w calls).1.1 src fd
    have hgive := (hrun calls).fdCount_life_eq_zero b os (runCalls b os w calls).1.1
      (.give src fd) (by simp [FdEvent.isOrderly,hsrc])
    dsimp only at hcount
    rw [hgive,add_zero] at hcount
    exact hcount
  have hdrops : ∀ src fd, fdCount (.drop src fd) (lifeLog b os w calls) =
      Multiset.count (src, fd) (runCalls b os w calls).2.dropped := by
    intro src fd
    obtain ⟨-, -,hdrop⟩ := sessionEngineDestroy_conserves b os (runCalls b os w calls).1.1
      (runCalls b os w calls).1.2
    rw [lifeLog,fdCount_append,← count_dropped,← count_dropped,hdrop,count_zero,add_zero]
  rw [← runCalls_dropped_eq_zero_iff (w, Engine.create) Engine.wellFormed_create calls]
  constructor
  · intro h
    apply eq_zero_of_forall_notMem
    rintro ⟨src,fd⟩ hmem
    have hsrc : src.fromBackend = true := by
      rw [runCalls_dropped_source (w, Engine.create) Engine.wellFormed_create calls hmem]
      rfl
    have hcount := count_pos.mpr hmem
    have hbalance := hlife src fd hsrc
    rw [h.settled src fd hsrc,hdrops,runCalls] at hbalance
    omega
  · intro hnone
    refine ⟨truthful b os,fun src fd hsrc => ?_,fun src fd n hsrc => ?_,?_,?_⟩
    · rw [hlife src fd hsrc,hdrops,runCalls,hnone,count_zero,add_zero]
    · have hle := (hrun (calls.take n)).count_le src fd
      omega
    · intro before call after _ k src fd hmem
      obtain ⟨req,reply,rfl,hok⟩ := step_reply_ok (hwf before) hmem
      exact ⟨req,reply,rfl,hok,sessionEngineHandle_reply (hwf before) hmem⟩
    · intro k src fd hmem
      exact (sessionEngineDestroy_fences b os _ _ hmem).2 src fd rfl

/-- A client dequeues an output with an unknown flag: its acquire fence 7 is neither closed nor
sent, not even when the engine is destroyed. -/
theorem lifeLog_unknownFlags_fence_lost :
    let b := mockBackend (mockOutput Transport.aHardwareBuffer 64 5 7) (.ok, -1)
    let calls : List Call := [.request createDecode,.request (mockRequest 5 1 [] [])]
    fdCount (.gain .outputFence 7) (lifeLog b mockOs () calls) = 1 ∧
      fdCount (.close .outputFence 7) (lifeLog b mockOs () calls) = 0 ∧
      fdCount (.reply .outputFence 7) (lifeLog b mockOs () calls) = 0 ∧
      ¬ FencesSettledOnce b mockOs () calls := by
  refine ⟨by decide +kernel,by decide +kernel,by decide +kernel,fun h => ?_⟩
  have hbalance := h.settled .outputFence 7 rfl
  revert hbalance
  decide +kernel
end LinDeX.SessionEngine
