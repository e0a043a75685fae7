import LinDeX.Dmabuf.Invariant
import LinDeX.SessionEngine.Engine

/-!
# What a request can do to a session

The handlers of one session, inverted once: each request either fails and leaves the session as
it was, or takes one of a dozen named transitions, from which all later results are proved.
-/
namespace LinDeX.SessionEngine
open Dmabuf List Transport
open scoped BigOperators
variable {ω : Type} {b : BackendOps ω} {os : Os ω} {w : ω} {s : SessionSlot}
  {next : UInt64} {req reply : Message} {op : Option Opcode}

/-- An output slot holds nothing, a byte output, or an `AHardwareBuffer` output. -/
structure OutputSlot.WellFormed (o : OutputSlot) : Prop where
  cleared : o.inUse = false → o = OutputSlot.zero
  bytes : o.inUse = true → o.transport ≠ aHardwareBuffer →
    o = OutputSlot.zero.takeBytes o.id

structure SessionSlot.FencesMatch (s : SessionSlot) : Prop where
  acquire : s.pendingAhbState ≠ .awaitHandle → s.pendingAhb.acquireFenceFd < 0
  release : s.pendingAhbState ≠ .complete → s.pendingAhbReleaseFence < 0

structure InFlightMatch (r : Registry) (c : Fin 4 → CompletionSlot) : Prop where
  entryOf : ∀ j, (c j).inUse = true → ∃ i, (r.entries i).inFlight = true ∧
    (r.entries i).descriptor.bufferId = (c j).bufferId
  completionOf : ∀ i, (r.entries i).inFlight = true → ∃ j, (c j).inUse = true ∧
    (c j).bufferId = (r.entries i).descriptor.bufferId
  idInj : ∀ j j', (c j).inUse = true → (c j').inUse = true →
    (c j).bufferId = (c j').bufferId → j = j'

structure SessionSlot.WellFormed (s : SessionSlot) : Prop where
  outputs : ∀ j, (s.outputs j).WellFormed
  fences : s.FencesMatch
  completions : ∀ j, (s.dmabufCompletions j).inUse = false →
    s.dmabufCompletions j = CompletionSlot.free
  registry : ∀ r, s.dmabufs = some r → r.WellFormed
  inFlight : ∀ r, s.dmabufs = some r → InFlightMatch r s.dmabufCompletions
  noRegistry : s.dmabufs = none → ∀ j, (s.dmabufCompletions j).inUse = false
  hasRegistry : s.dmabufs.isSome = (s.transport == dmabuf)

/-- A slot holds an `AHardwareBuffer` output that the client has not given back. -/
def OutputSlot.leased (o : OutputSlot) : Bool :=
  o.inUse && o.transport == aHardwareBuffer

/-- The releases of `release_outstanding`. -/
def outputEffects (s : SessionSlot) : List Effect :=
  (List.finRange 8).flatMap fun j =>
    if (s.outputs j).leased then [.released (some j) (s.outputs j).backendToken] else []

/-- Everything `release_outstanding` does. -/
def outstandingEffects (s : SessionSlot) : List Effect :=
  outputEffects s ++ fdEffects (fdEvent .close .ahbAcquire s.pendingAhb.acquireFenceFd ++
    fdEvent .close .ahbFence s.pendingAhbReleaseFence) ++ [.ahbDropped]

def registryHeld : Option Registry → Holding
  | none => 0
  | some r => r.held

def SessionSlot.dmabufHeld (s : SessionSlot) : Holding :=
  (∑ j, holding .dmabufFence (s.dmabufCompletions j).releaseFenceFd) + registryHeld s.dmabufs

/-- The transitions of one session on a request with a given opcode: the status returned, the
effects, the session and the output counter afterwards. -/
inductive HandleStep (s : SessionSlot) (next : UInt64) :
    Option Opcode → Status → List Effect → SessionSlot → UInt64 → Prop
  | failed {op : Option Opcode} {status : Status} (hstatus : status ≠ .ok)
      (events : List FdEvent) (hbalance : Balanced events) :
      HandleStep s next op status (fdEffects events) s next
  | quiet {op : Option Opcode} (hop : op = some .queueInput ∨ op = some .transferAhb) :
      HandleStep s next op Status.ok [] s next
  /-- An output is turned down for its size, data or flags; its fence is not looked at. -/
  | oversized (o : BackendOutput) (hover : outputOversized o = true) :
      HandleStep s next (some .dequeueOutput) Status.noResource
        (dequeuedEffects o ++ .released none o.token ::
          fdEffects (fdEvent .drop .outputFence o.acquireFenceFd)) s next
  | rejected {status : Status} (hstatus : status ≠ .ok) (token : UInt64)
      (before after : List FdEvent) (hbalance : Balanced (before ++ after)) :
      HandleStep s next (some .dequeueOutput) status
        (.dequeued token :: fdEffects before ++ .released none token :: fdEffects after) s next
  | dequeuedBytes (j : Fin 8) (token : UInt64) (before after : List FdEvent)
      (hfree : (s.outputs j).inUse = false)
      (hbalance : gainedBy (before ++ after) = settledBy (before ++ after))
      (hsafe : Safe (before ++ after)) :
      HandleStep s next (some .dequeueOutput) Status.ok
        (.dequeued token :: fdEffects before ++ .released none token :: fdEffects after)
        (s.setOutput j ((s.outputs j).takeBytes (allocateOutputId next).1))
        (allocateOutputId next).2
  /-- An `AHardwareBuffer` output becomes outstanding. -/
  | dequeuedAhb (j : Fin 8) (o : BackendOutput) (hfree : (s.outputs j).inUse = false)
      (htransport : o.transport = aHardwareBuffer) (hbuffer : o.nativeBuffer ≠ 0) :
      HandleStep s next (some .dequeueOutput) Status.ok
        (dequeuedEffects o ++ .accepted j o.token ::
          fdEffects (fdEvent .reply .outputFence o.acquireFenceFd))
        (s.setOutput j ((s.outputs j).takeAhb (allocateOutputId next).1 o))
        (allocateOutputId next).2
  | releasedBytes (j : Fin 8) (huse : (s.outputs j).inUse = true)
      (htransport : (s.outputs j).transport ≠ aHardwareBuffer) :
      HandleStep s next (some .releaseOutput) Status.ok [] (s.setOutput j OutputSlot.zero) next
  | releasedAhb (j : Fin 8) (hlease : (s.outputs j).leased = true) (events : List FdEvent)
      (hbalance : Balanced events) :
      HandleStep s next (some .releaseOutput) Status.ok
        (fdEffects events ++ [.released (some j) (s.outputs j).backendToken])
        (s.setOutput j OutputSlot.zero) next
  | primeSent (j : Fin 8) (hlease : (s.outputs j).leased = true)
      (honce : (s.outputs j).primeTransferred = false) (events : List FdEvent)
      (hbalance : gainedBy events = settledBy events) (hsafe : Safe events) :
      HandleStep s next (some .transferPrime) Status.ok (fdEffects events ++ [.primeSent j])
        (s.setOutput j { s.outputs j with primeTransferred := true }) next
  | queuedAhb (input : BackendAhbInput) (hidle : s.pendingAhbState = .none) :
      HandleStep s next (some .queueAhb) Status.ok
        (fdEffects (fdEvent .gain .ahbAcquire input.acquireFenceFd) ++ [.ahbQueued])
        (s.withPendingAhb input) next
  | completedAhb (hcomplete : s.pendingAhbState = .complete) (taken : SessionSlot)
      (htaken : taken = if 0 ≤ s.pendingAhbReleaseFence then
        { s with pendingAhbReleaseFence := -1 } else s) :
      HandleStep s next (some .completeAhb) Status.ok
        (.ahbDelivered s.pendingAhbStatus s.pendingAhbReleaseFence ::
          fdEffects (fdEvent .reply .ahbFence s.pendingAhbReleaseFence))
        taken.clearPendingAhb next
  | registered (r : Registry) (i : Fin 16) (d : Descriptor) (hr : s.dmabufs = some r)
      (hfree : (r.entries i).inUse = false) (hid : d.bufferId ≠ 0)
      (hnew : findEntry r d.bufferId = none) (events : List FdEvent)
      (hgain : gainedBy events = d.held) (hsettle : settledBy events = 0)
      (hplain : Plain events) :
      HandleStep s next (some .registerDmabuf) Status.ok (fdEffects events)
        { s with dmabufs := some (r.add i d) } next
  | unregistered (r : Registry) (i : Fin 16) (hr : s.dmabufs = some r)
      (huse : (r.entries i).inUse = true) (hflight : (r.entries i).inFlight = false)
      (events : List FdEvent) (hgain : gainedBy events = 0)
      (hsettle : settledBy events = (r.entries i).descriptor.held) (hplain : Plain events) :
      HandleStep s next (some .unregisterDmabuf) Status.ok (fdEffects events)
        { s with dmabufs := some (r.drop i) } next
  | queuedDmabuf (r : Registry) (i : Fin 16) (j : Fin 4) (fence : Fd) (hr : s.dmabufs = some r)
      (huse : (r.entries i).inUse = true) (hflight : (r.entries i).inFlight = false)
      (hfree : (s.dmabufCompletions j).inUse = false) (events : List FdEvent)
      (hbalance : gainedBy events = settledBy events + holding .dmabufFence fence)
      (hplain : Plain events) :
      HandleStep s next (some .queueDmabuf) Status.ok (fdEffects events)
        ({ s with dmabufs := some (r.mark i) }.setCompletion j
          ⟨(r.entries i).descriptor.bufferId,Status.ok,0,fence,true⟩) next
  | completedDmabuf (r : Registry) (i : Fin 16) (j : Fin 4) (hr : s.dmabufs = some r)
      (huse : (s.dmabufCompletions j).inUse = true) (hflight : (r.entries i).inFlight = true)
      (hid : (r.entries i).descriptor.bufferId = (s.dmabufCompletions j).bufferId) :
      HandleStep s next (some .completeDmabuf) Status.ok
        (fdEffects (fdEvent .reply .dmabufFence (s.dmabufCompletions j).releaseFenceFd))
        ({ s with dmabufs := some (r.unmark i) }.setCompletion j CompletionSlot.free) next
  | flushed (htransport : s.transport ≠ dmabuf) :
      HandleStep s next (some .flush) Status.ok (outstandingEffects s) s.clearOutstanding next
  | closed (events : List FdEvent) (hgain : gainedBy events = 0)
      (hsettle : settledBy events = s.dmabufHeld) (hplain : Plain events) :
      HandleStep s next (some .closeSession) Status.ok (outstandingEffects s ++ fdEffects events)
        SessionSlot.zero next

def droppedIn (effects : List Effect) : Holding := Run.weight Effect.dropped effects

structure Result.Steps (r : Result ω) (s : SessionSlot) (next : UInt64) (op : Option Opcode) :
    Prop where
  step : HandleStep s next op r.status r.effects r.session next
  kept : droppedIn r.effects = 0

@[simp] theorem droppedIn_nil : droppedIn [] = 0 := rfl

@[simp] theorem droppedIn_fdEffects (events : List FdEvent) :
    droppedIn (fdEffects events) = droppedBy events := by
  simp [droppedIn,fdEffects,Run.weight,droppedBy,Effect.dropped,Function.comp_def]

@[simp] theorem droppedIn_append (xs ys : List Effect) :
    droppedIn (xs ++ ys) = droppedIn xs + droppedIn ys := Run.weight_append _ xs ys
@[simp] theorem droppedIn_cons (x : Effect) (xs : List Effect) :
    droppedIn (x :: xs) = x.dropped + droppedIn xs := Run.weight_cons _ x xs

theorem droppedIn_of_safe {events : List FdEvent} (h : Safe events) :
    droppedIn (fdEffects events) = 0 := by
  rw [droppedIn_fdEffects,h.droppedBy]
variable {status : Status}
theorem refuse_steps (h : status ≠ .ok) : (refuse status w s reply).Steps s next op :=
  ⟨HandleStep.failed h [] Balanced.nil,rfl⟩

theorem failed_steps (h : status ≠ .ok) {events : List FdEvent} (hbalance : Balanced events) :
    (⟨status,w,s,reply,fdEffects events⟩ : Result ω).Steps s next op :=
  ⟨HandleStep.failed h events hbalance,droppedIn_of_safe hbalance.plain.safe⟩

theorem dmabufErrnoStatus_ne_ok (e : Errno) : dmabufErrnoStatus e ≠ .ok := by
  unfold dmabufErrnoStatus
  split <;> decide

private theorem loadInput_ne_okError : (loadInput os w req).2 ≠ .error Status.ok := by
  unfold loadInput
  split
  · simp; decide
  dsimp only
  split
  · simp; decide
  split
  · simp; decide
  split
  · split
    · simp; decide
    · simp
  split
  · split
    · simp; decide
    generalize os.malloc w (if Bytes.getU64 req.payload 24 > 0 then
      (Bytes.getU64 req.payload 24).toNat else 1) = allocated
    split
    · simp; decide
    split
    · simp; decide
    · simp
  · simp; decide

theorem loadInput_error_ne_ok {w' : ω}
    (h : loadInput os w req = (w', .error status)) : status ≠ .ok := by
  rintro rfl
  exact loadInput_ne_okError (congrArg Prod.snd h)

theorem handleQueue_steps : (handleQueue b os w s req reply).Steps s next (some .queueInput) := by
  unfold handleQueue
  dsimp only
  iterate 2
    split
    · exact refuse_steps (by decide)
  split
  · rename_i hload
    exact refuse_steps (loadInput_error_ne_ok hload)
  iterate 2
    split
    · exact refuse_steps (by decide)
  rename_i w' size data _ _ _
  by_cases hok : (b.queueInput w' s.backendHandle data (Bytes.getU64 req.payload 8)
      (Bytes.getU32 req.payload 32)).2 = .ok
  · exact ⟨by simpa only [hok] using HandleStep.quiet (.inl rfl),rfl⟩
  · exact ⟨HandleStep.failed hok [] Balanced.nil,rfl⟩

theorem handleQueueAhb_steps : (handleQueueAhb os w s req reply).Steps s next (some .queueAhb) := by
  unfold handleQueueAhb
  iterate 2
    split
    · exact refuse_steps (by decide)
  rename_i hidle
  iterate 4
    split
    · exact refuse_steps (by decide)
  · rename_i w' fence _
    exact ⟨HandleStep.queuedAhb { queueAhbInput req with acquireFenceFd := fence }
      (by simpa using hidle),by simp [Effect.dropped]⟩

theorem handleCompleteAhb_steps :
    (handleCompleteAhb w s req reply).Steps s next (some .completeAhb) := by
  unfold handleCompleteAhb
  iterate 3
    split
    · exact refuse_steps (by decide)
  · rename_i hcomplete
    exact ⟨HandleStep.completedAhb (by simpa using hcomplete) _ rfl,by simp [Effect.dropped]⟩

theorem handleRegisterDmabuf_steps (hs : s.WellFormed) :
    (handleRegisterDmabuf b os w s req reply).Steps s next (some .registerDmabuf) := by
  unfold handleRegisterDmabuf
  split
  · exact refuse_steps (by decide)
  rename_i r hr
  split
  · exact refuse_steps (by decide)
  split
  · exact refuse_steps (dmabufErrnoStatus_ne_ok _)
  rename_i d _
  have hsame : { s with dmabufs := some r } = s := by rw [← hr]
  dsimp only
  obtain ⟨e,hresult,hreg,hbalance,hplain⟩ |
      ⟨i,d',hresult,hreg,hfree,hid,hnew,hgain,hsettle,hplain⟩ :=
    register_cases os (hs.registry r hr) (sessionDmabufFormatAllowed b s) w d
  · rw [hresult]
    simp only [hreg,hsame]
    exact failed_steps (dmabufErrnoStatus_ne_ok e) ⟨hbalance,hplain⟩
  · rw [hresult]
    simp only [hreg]
    exact ⟨HandleStep.registered r i d' hr hfree hid hnew _ hgain hsettle hplain,
      droppedIn_of_safe hplain.safe⟩

theorem handleUnregisterDmabuf_steps :
    (handleUnregisterDmabuf os w s req reply).Steps s next (some .unregisterDmabuf) := by
  unfold handleUnregisterDmabuf
  split
  · exact refuse_steps (by decide)
  rename_i r hr
  split
  · exact refuse_steps (by decide)
  split
  · exact refuse_steps (dmabufErrnoStatus_ne_ok _)
  rename_i id _
  have hsame : { s with dmabufs := some r } = s := by rw [← hr]
  dsimp only
  obtain ⟨e,hresult,hreg,hevents⟩ |
      ⟨i,hresult,hreg,huse,_,hflight,hgain,hsettle,hplain⟩ :=
    unregister_cases os w r id
  · rw [hresult]
    simp only [hreg,hsame,hevents]
    exact failed_steps (dmabufErrnoStatus_ne_ok e) Balanced.nil
  · rw [hresult]
    simp only [hreg]
    exact ⟨HandleStep.unregistered r i hr huse hflight _ hgain hsettle hplain,
      droppedIn_of_safe hplain.safe⟩

private theorem submitFailed_steps {r : Registry} {i : Fin 16} (hs : s.WellFormed)
    (hr : s.dmabufs = some r) (huse : (r.entries i).inUse = true)
    (hflight : (r.entries i).inFlight = false) (hstatus : status ≠ .ok)
    (events : List FdEvent) (hbalance : Balanced events) :
    (⟨status,w,{ s with dmabufs := some (finish (r.mark i) (r.entries i).descriptor.bufferId).1 },
      reply,fdEffects events⟩ : Result ω).Steps s next op := by
  have hsame : { s with dmabufs := some r } = s := by rw [← hr]
  simp only [finish_mark (hs.registry r hr) huse hflight,hsame]
  exact failed_steps hstatus hbalance

theorem handleQueueDmabuf_steps (hs : s.WellFormed) :
    (handleQueueDmabuf b os w s req reply).Steps s next (some .queueDmabuf) := by
  unfold handleQueueDmabuf
  split
  swap
  · exact refuse_steps (by decide)
  rename_i r submit hr _
  iterate 2
    split
    · exact refuse_steps (by decide)
  rename_i j hfree
  split
  · exact refuse_steps (dmabufErrnoStatus_ne_ok _)
  rename_i submission _
  have hsame : { s with dmabufs := some r } = s := by rw [← hr]
  have hj : (s.dmabufCompletions j).inUse = false := by simpa using Slots.find_some hfree
  dsimp only
  obtain ⟨e,hresult,hreg,hevents⟩ |
      ⟨i,job,hresult,hreg,huse,hid,hflight,hjob,hdesc,hevents⟩ :=
    begin_cases os w r submission
  · rw [hresult]
    simp only [hreg,hsame,hevents]
    exact failed_steps (dmabufErrnoStatus_ne_ok e) Balanced.nil
  · rw [hresult]
    simp only [hreg,hevents,hdesc,hjob,← hid]
    -- the acquire fence of the job always goes to the backend
    generalize submit (begin os w r submission).world s.backendHandle (r.entries i).descriptor
      job.ptsNs job.acquireFenceFd = answer
    obtain ⟨w',status,fence⟩ := answer
    have hpassed : Plain (fdEvent .gain .jobAcquire job.acquireFenceFd ++
        fdEvent .give .jobAcquire job.acquireFenceFd ++ fdEvent .gain .dmabufFence fence) :=
      ((Plain.fdEvent rfl).append (Plain.fdEvent rfl)).append (Plain.fdEvent rfl)
    split
    · exact submitFailed_steps hs hr huse hflight (by decide) _
        ⟨by simp,hpassed.append (Plain.fdEvent rfl)⟩
    rename_i hkept
    split
    · rename_i hstatus
      have hstatus : status ≠ .ok := by simpa using hstatus
      have hnone : fence < 0 := by
        simp only [submitRejected,Bool.or_eq_true,Bool.and_eq_true,bne_iff_ne,ne_eq,
          decide_eq_true_eq,not_or,not_and] at hkept
        exact Int.not_le.mp (hkept.1.2 hstatus)
      exact submitFailed_steps hs hr huse hflight hstatus _
        ⟨by simp [holding_of_neg _ hnone],hpassed⟩
    · exact ⟨HandleStep.queuedDmabuf r i j fence hr huse hflight hj _ (by simp) hpassed,
        droppedIn_of_safe hpassed.safe⟩

theorem findDmabufCompletion_some {id : UInt64} {j : Fin 4}
    (h : findDmabufCompletion s id = some j) :
    (s.dmabufCompletions j).inUse = true ∧ (s.dmabufCompletions j).bufferId = id := by
  simpa using Slots.find_some h
variable {j : Fin 8}
theorem findOutput_some {id : UInt64} (h : findOutput s id = some j) :
    (s.outputs j).inUse = true ∧ (s.outputs j).id = id := by
  simpa using Slots.find_some h

theorem finish_completion (hs : s.WellFormed) {r : Registry} (hr : s.dmabufs = some r)
    {j : Fin 4} (huse : (s.dmabufCompletions j).inUse = true) :
    ∃ i, (r.entries i).inFlight = true ∧
    (r.entries i).descriptor.bufferId = (s.dmabufCompletions j).bufferId ∧
    finish r (s.dmabufCompletions j).bufferId = (r.unmark i, .ok ()) := by
  obtain ⟨i,hflight,hid⟩ := (hs.inFlight r hr).entryOf j huse
  exact ⟨i,hflight,hid,hid ▸ finish_inFlight (hs.registry r hr) hflight⟩

theorem handleCompleteDmabuf_steps (hs : s.WellFormed) :
    (handleCompleteDmabuf w s req reply).Steps s next (some .completeDmabuf) := by
  unfold handleCompleteDmabuf
  split
  · exact refuse_steps (by decide)
  rename_i r hr
  iterate 2
    split
    · exact refuse_steps (by decide)
  dsimp only
  iterate 2
    split
    · exact refuse_steps (by decide)
  rename_i j hfind
  obtain ⟨huse,hid⟩ := findDmabufCompletion_some hfind
  obtain ⟨i,hflight,hentry,hfinish⟩ := finish_completion hs hr huse
  rw [← hid,hfinish]
  exact ⟨HandleStep.completedDmabuf r i j hr huse hflight hentry,by simp⟩

theorem rejectOutput_kept (o : BackendOutput) :
    droppedIn (rejectOutput b os status w s reply o).effects = 0 := by
  simp [rejectOutput,dequeuedEffects,Effect.dropped]

theorem rejectOutput_step (hstatus : status ≠ .ok) (o : BackendOutput) :
    (rejectOutput b os status w s reply o).Steps s next (some .dequeueOutput) :=
  ⟨HandleStep.rejected hstatus o.token (fdEvent .gain .outputFence o.acquireFenceFd)
    (fdEvent .close .outputFence o.acquireFenceFd) (.gain_then settles_close rfl),
    rejectOutput_kept o⟩

theorem createSealedOutput_events (os : Os ω) (w : ω) (data : List UInt8) (size : Nat) :
    let made := createSealedOutput os w data size
    (made.2.1 = none ∧ Balanced made.2.2) ∨
      ∃ fd, made.2.1 = some fd ∧ made.2.2 = [.gain .sealedOutput fd] := by
  intro made
  have hmade : made = createSealedOutput os w data size := rfl
  unfold createSealedOutput at hmade
  split at hmade
  · exact .inl ⟨by rw [hmade],by rw [hmade]; exact Balanced.nil⟩
  · rename_i w' fd _
    dsimp only at hmade
    split at hmade
    · exact .inr ⟨fd,by rw [hmade],by rw [hmade]⟩
    · refine .inl ⟨by rw [hmade],?_⟩
      rw [hmade]
      refine ⟨by simp [gainedBy,settledBy,FdEvent.gained,FdEvent.settled],?_⟩
      intro ev hev
      simp only [mem_cons,not_mem_nil,or_false] at hev
      obtain rfl | rfl := hev <;> rfl

theorem dequeueBytes_step (hfree : (s.outputs j).inUse = false) (o : BackendOutput) :
    let r := dequeueBytes b os w s next reply j o
    HandleStep s next (some .dequeueOutput) r.1.status r.1.effects r.1.session r.2 := by
  unfold dequeueBytes
  split
  · exact (rejectOutput_step (by decide) o).step
  rename_i hplain
  have hfence : o.acquireFenceFd < 0 := by
    simp only [Bool.or_eq_true,decide_eq_true_eq,not_or] at hplain
    exact Int.not_le.mp hplain.2
  have hnone : fdEvent .gain .outputFence o.acquireFenceFd = [] := if_neg (Int.not_le.mpr hfence)
  dsimp only
  obtain ⟨hmade,hbalance⟩ | ⟨fd,hmade,hevents⟩ :=
    createSealedOutput_events os w (o.data.getD []) o.size
  · have hstep : HandleStep s next (some .dequeueOutput) Status.internal _ s next :=
      HandleStep.rejected (by decide) o.token _ [] (by simpa using hbalance)
    rw [hmade]
    simpa [dequeuedEffects,hnone,fdEffects] using hstep
  · have hstep := @HandleStep.dequeuedBytes s next j o.token [.gain .sealedOutput fd]
      [.reply .sealedOutput fd] hfree
      (by simp [gainedBy,settledBy,FdEvent.gained,FdEvent.settled])
      (Safe.append (Safe.map (fun _ => rfl) [(fd : Int)]) (Safe.map (fun _ => rfl) [(fd : Int)]))
    rw [hmade,hevents]
    simpa [dequeuedEffects,hnone,fdEffects] using hstep

theorem dequeueAhb_step (hfree : (s.outputs j).inUse = false) (o : BackendOutput)
    (htransport : o.transport = aHardwareBuffer) :
    let r := dequeueAhb b os w s next reply j o
    HandleStep s next (some .dequeueOutput) r.1.status r.1.effects r.1.session r.2 := by
  unfold dequeueAhb
  split
  · exact (rejectOutput_step (by decide) o).step
  rename_i hbuffer
  apply HandleStep.dequeuedAhb j o hfree htransport
  rintro hzero
  simp [hzero] at hbuffer

theorem handleDequeue_step :
    let r := handleDequeue b os w s next req reply
    HandleStep s next (some .dequeueOutput) r.1.status r.1.effects r.1.session r.2 := by
  unfold handleDequeue
  iterate 2
    split
    · exact (refuse_steps (by decide)).step
  rename_i j hslot
  have hfree : (s.outputs j).inUse = false := by simpa using Slots.find_some hslot
  dsimp only
  split
  · rename_i hstatus
    exact (refuse_steps (by simpa using hstatus)).step
  split
  · rename_i hover
    exact HandleStep.oversized _ hover
  split
  · exact dequeueBytes_step hfree _
  split
  · rename_i htransport
    exact dequeueAhb_step hfree _ (by simpa using htransport)
  · exact (rejectOutput_step (by decide) _).step

theorem handleRelease_steps :
    (handleRelease b os w s req reply).Steps s next (some .releaseOutput) := by
  unfold handleRelease
  iterate 3
    split
    · exact refuse_steps (by decide)
  rename_i j hfind
  obtain ⟨huse, -⟩ := findOutput_some hfind
  dsimp only
  split
  · rename_i htransport
    iterate 2
      split
      · exact refuse_steps (by decide)
    · exact ⟨HandleStep.releasedAhb j (by simp [OutputSlot.leased,huse,htransport]) _
        (.gain_then settles_give rfl),by simp [Effect.dropped]⟩
  · rename_i htransport
    split
    · exact refuse_steps (by decide)
    · exact ⟨HandleStep.releasedBytes j huse (by simpa using htransport),rfl⟩

theorem handleTransferAhb_steps :
    (handleTransferAhb w s req reply).Steps s next (some .transferAhb) := by
  unfold handleTransferAhb
  iterate 2
    split
    · exact refuse_steps (by decide)
  dsimp only
  split
  · exact refuse_steps (by decide)
  · exact ⟨HandleStep.quiet (.inr rfl),rfl⟩

private theorem exportFailed_steps (hstatus : status ≠ .ok) (d : Descriptor) :
    (⟨status,(closeExported os w d).1,s,reply,
      fdEffects ((closableFds d).map (FdEvent.gain .primeObject) ++ (closeExported os w d).2)⟩ :
      Result ω).Steps s next op := by
  refine failed_steps hstatus
    ⟨?_,(Plain.map (fun _ => rfl) _).append (Plain.map (fun _ => rfl) _)⟩
  obtain ⟨hgain,hsettle⟩ := gainedBy_map_gain .primeObject (closableFds d)
  obtain ⟨hgain',hsettle'⟩ := settles_close.map .primeObject (closableFds d)
  rw [gainedBy_append,settledBy_append,hgain,hsettle,closeExported,hgain',hsettle',add_zero,
    zero_add]

theorem handleTransferPrime_steps :
    (handleTransferPrime b os w s req reply).Steps s next (some .transferPrime) := by
  unfold handleTransferPrime
  iterate 2
    split
    · exact refuse_steps (by decide)
  rename_i exportPrime _
  iterate 2
    split
    · exact refuse_steps (by decide)
  dsimp only
  iterate 2
    split
    · exact refuse_steps (by decide)
  rename_i j hfind
  obtain ⟨huse, -⟩ := findOutput_some hfind
  split
  · exact refuse_steps (by decide)
  rename_i hready
  simp only [Bool.or_eq_true,bne_iff_ne,beq_iff_eq,not_or,ne_eq,Decidable.not_not] at hready
  generalize exportPrime w s.backendHandle (s.outputs j).nativeBuffer (s.outputs j).primeMetadata
    (Bytes.getU64 req.payload 0) = answer
  generalize (if answer.2.1 > Status.internal then .internal else answer.2.1) = status
  split
  · rename_i hstatus
    exact exportFailed_steps (by simpa using hstatus) _
  split
  · exact exportFailed_steps (by decide) _
  rename_i payload fds hencode
  split
  · exact exportFailed_steps (by decide) _
  split at hencode
  · cases hencode
  obtain ⟨hfds,hclosed⟩ := registrationEncode_fds hencode
  have hsafe : Safe (fds.map (FdEvent.gain .primeObject) ++ fds.map (FdEvent.reply .primeObject)) :=
    (Safe.map (fun _ => rfl) _).append (Safe.map (fun _ => rfl) _)
  simp only [closeExported,hclosed,hfds,map_nil,append_nil]
  refine ⟨HandleStep.primeSent j (by simp [OutputSlot.leased,huse,hready.1.1])
    (by simpa using hready.2) _ ?_ hsafe,?_⟩
  · obtain ⟨hgain,hsettle⟩ := gainedBy_map_gain .primeObject fds
    obtain ⟨hgain',hsettle'⟩ := settles_reply.map .primeObject fds
    rw [gainedBy_append,settledBy_append,hgain,hsettle,hgain',hsettle',add_zero,zero_add]
  · rw [droppedIn_append,droppedIn_of_safe hsafe]
    rfl

theorem releaseOutputs_effects (b : BackendOps ω) (w : ω) (s : SessionSlot) :
    (releaseOutputs b w s).2 = outputEffects s := by
  have hloop : ∀ (js : List (Fin 8)) (acc : ω × List Effect),
      (js.foldl (fun acc j =>
        if (s.outputs j).inUse && (s.outputs j).transport == aHardwareBuffer then
          (b.releaseOutput acc.1 s.backendHandle (s.outputs j).backendToken (-1),
            acc.2 ++ [.released (some j) (s.outputs j).backendToken])
        else acc) acc).2 =
      acc.2 ++ js.flatMap fun j =>
        if (s.outputs j).leased then [.released (some j) (s.outputs j).backendToken] else [] := by
    intro js
    induction js with
    | nil => simp
    | cons j js ih =>
      intro acc
      rw [List.foldl_cons,ih,List.flatMap_cons]
      by_cases hj : (s.outputs j).leased = true
      · rw [if_pos hj,if_pos (by simpa [OutputSlot.leased] using hj)]
        simp
      · rw [if_neg hj,if_neg (by simpa [OutputSlot.leased] using hj)]
        simp
  rw [releaseOutputs,hloop,nil_append,outputEffects]

theorem releaseOutstanding_eq (b : BackendOps ω) (os : Os ω) (w : ω) (s : SessionSlot) :
    (releaseOutstanding b os w s).2 = (s.clearOutstanding, outstandingEffects s) := by
  rw [releaseOutstanding,releaseOutputs_effects]
  rfl

/-- The completion loop closes every release fence, and finishing buffers changes nothing the
registry owns. -/
theorem releaseCompletions_events (os : Os ω) (w : ω) (s : SessionSlot) :
    let out := releaseCompletions os w s
    gainedBy out.2.2 = 0 ∧
      settledBy out.2.2 = ∑ j, holding .dmabufFence (s.dmabufCompletions j).releaseFenceFd ∧
      out.2.1.map Registry.held = s.dmabufs.map Registry.held ∧ Plain out.2.2 := by
  have hloop : ∀ (js : List (Fin 4)) (acc : ω × Option Registry × List FdEvent),
      let out := js.foldl (fun acc j =>
        let c := s.dmabufCompletions j
        (os.closeIfOpen acc.1 c.releaseFenceFd,
          if c.inUse then acc.2.1.map fun r => (finish r c.bufferId).1 else acc.2.1,
          acc.2.2 ++ fdEvent .close .dmabufFence c.releaseFenceFd)) acc
      gainedBy out.2.2 = gainedBy acc.2.2 ∧
        settledBy out.2.2 = settledBy acc.2.2 +
          (js.map fun j => holding .dmabufFence (s.dmabufCompletions j).releaseFenceFd).sum ∧
        out.2.1.map Registry.held = acc.2.1.map Registry.held ∧
        (Plain acc.2.2 → Plain out.2.2) := by
    intro js
    induction js with
    | nil => intro acc; simp
    | cons j js ih =>
      intro acc
      rw [List.foldl_cons]
      obtain ⟨hg,hs,hr,hp⟩ := ih _
      refine ⟨hg.trans (by simp),hs.trans ?_,hr.trans ?_,
        fun h => hp (h.append (Plain.fdEvent rfl))⟩
      · rw [settledBy_append,settledBy_fdEvent_close,map_cons,sum_cons,add_assoc]
      · dsimp only
        split
        · rw [Option.map_map]
          congr 1
          funext r
          exact held_finish r _
        · rfl
  obtain ⟨hg,hs,hr,hp⟩ := hloop (List.finRange 4) (w, s.dmabufs, [])
  refine ⟨hg,hs.trans ?_,hr,hp Plain.nil⟩
  rw [settledBy_nil,zero_add,Fin.sum_univ_def]

theorem releaseDmabufState_events (os : Os ω) (w : ω) (s : SessionSlot) :
    ∃ events, (releaseDmabufState os w s).2.2 = fdEffects events ∧ gainedBy events = 0 ∧
    settledBy events = s.dmabufHeld ∧ Plain events := by
  obtain ⟨hg,hs,hr,hp⟩ := releaseCompletions_events os w s
  refine ⟨_,rfl,?_,?_,hp.append ?_⟩
  · rw [gainedBy_append,hg,zero_add]
    cases hreg : (releaseCompletions os w s).2.1 with
    | none => rfl
    | some r => exact (registryDestroy_events os _ r).1
  · rw [settledBy_append,hs,SessionSlot.dmabufHeld]
    congr 1
    cases hreg : (releaseCompletions os w s).2.1 with
    | none =>
      rw [hreg,Option.map_none,eq_comm,Option.map_eq_none_iff] at hr
      rw [hr]
      rfl
    | some r =>
      rw [hreg,Option.map_some,eq_comm,Option.map_eq_some_iff] at hr
      obtain ⟨r',hr',hheld⟩ := hr
      rw [hr']
      exact (registryDestroy_events os _ r).2.1.trans hheld.symm
  · cases hreg : (releaseCompletions os w s).2.1 with
    | none => exact Plain.nil
    | some r => exact (registryDestroy_events os _ r).2.2

theorem teardown_effects (b : BackendOps ω) (os : Os ω) (w : ω) (s : SessionSlot) :
    ∃ events, (teardown b os w s).2 = outstandingEffects s ++ fdEffects events ∧
    gainedBy events = 0 ∧ settledBy events = s.dmabufHeld ∧ Plain events := by
  obtain ⟨events,heq,hevents⟩ :=
    releaseDmabufState_events os (releaseOutstanding b os w s).1 s.clearOutstanding
  refine ⟨events,?_,hevents⟩
  rw [teardown]
  simp only [releaseOutstanding_eq,heq]

theorem droppedIn_outstandingEffects (s : SessionSlot) : droppedIn (outstandingEffects s) = 0 := by
  have houtputs : droppedIn (outputEffects s) = 0 := by
    apply Run.weight_eq_zero
    intro x hx
    obtain ⟨j, -,hj⟩ := mem_flatMap.mp hx
    split at hj
    · rw [mem_singleton.mp hj]
      rfl
    · cases hj
  simp [outstandingEffects,houtputs,Effect.dropped]

theorem handleFlush_steps : (handleFlush b os w s req reply).Steps s next (some .flush) := by
  unfold handleFlush
  iterate 2
    split
    · exact refuse_steps (by decide)
  rename_i htransport
  dsimp only
  split
  · rename_i hok
    have hok : (b.flush w s.backendHandle).2 = .ok := by simpa using hok
    simp only [releaseOutstanding_eq,hok]
    exact ⟨HandleStep.flushed (by simpa using htransport),droppedIn_outstandingEffects s⟩
  · rename_i hfail
    exact refuse_steps (by simpa using hfail)

theorem handleClose_steps : (handleClose b os w s req reply).Steps s next (some .closeSession) := by
  unfold handleClose
  split
  · exact refuse_steps (by decide)
  obtain ⟨events,heq,hgain,hsettle,hplain⟩ := teardown_effects b os w s
  simp only [heq]
  refine ⟨HandleStep.closed events hgain hsettle hplain,?_⟩
  rw [droppedIn_append,droppedIn_outstandingEffects,droppedIn_of_safe hplain.safe,add_zero]

theorem dispatch_steps (hs : s.WellFormed)
    (hop : Opcode.ofCode req.header.opcode ≠ some .dequeueOutput) :
    (dispatch b os w s next req reply).1.Steps s next (Opcode.ofCode req.header.opcode) := by
  unfold dispatch
  dsimp only
  generalize Opcode.ofCode req.header.opcode = op at hop ⊢
  split
  · exact handleQueue_steps
  · exact absurd rfl hop
  · exact handleRelease_steps
  · split
    · exact refuse_steps (by decide)
    · exact handleTransferAhb_steps
  · split
    · exact refuse_steps (by decide)
    · exact handleTransferPrime_steps
  · exact handleQueueAhb_steps
  · exact handleCompleteAhb_steps
  · exact handleRegisterDmabuf_steps hs
  · exact handleUnregisterDmabuf_steps
  · exact handleQueueDmabuf_steps hs
  · exact handleCompleteDmabuf_steps hs
  · exact handleFlush_steps
  · exact handleClose_steps
  · exact refuse_steps (by decide)

theorem dispatch_next (hop : Opcode.ofCode req.header.opcode ≠ some .dequeueOutput) :
    (dispatch b os w s next req reply).2 = next := by
  unfold dispatch
  split
  case h_2 heq => exact absurd heq hop
  all_goals rfl

theorem dispatch_dequeue (hop : Opcode.ofCode req.header.opcode = some .dequeueOutput) :
    dispatch b os w s next req reply = handleDequeue b os w s next req reply := by
  simp only [dispatch,hop]

theorem dispatch_step (hs : s.WellFormed) :
    let r := dispatch b os w s next req reply
    HandleStep s next (Opcode.ofCode req.header.opcode) r.1.status r.1.effects r.1.session r.2 := by
  by_cases hop : Opcode.ofCode req.header.opcode = some .dequeueOutput
  · rw [dispatch_dequeue hop,hop]
    exact handleDequeue_step
  · intro r
    have hnext : r.2 = next := dispatch_next hop
    rw [hnext]
    exact (dispatch_steps hs hop).step

inductive AfterStep (s : SessionSlot) : Option Opcode → List Effect → SessionSlot → Prop
  | idle {op : Option Opcode} : AfterStep s op [] s
  | nativeSent (j : Fin 8) (huse : (s.outputs j).inUse = true)
      (hbuffer : (s.outputs j).nativeBuffer ≠ 0) (honce : (s.outputs j).transferred = false) :
      AfterStep s (some .transferAhb) [.nativeSent j]
        (s.setOutput j { s.outputs j with transferred := true })
  | fatal (fence : Fd) (hawait : s.pendingAhbState = .awaitHandle) :
      AfterStep s (some .queueAhb)
        (fdEffects (fdEvent .give .ahbAcquire s.pendingAhb.acquireFenceFd ++
          fdEvent .gain .ahbFence fence ++ fdEvent .close .ahbFence fence) ++ [.ahbFatal])
        s.clearPendingAhb
  | received (status : Status) (fence : Fd) (hawait : s.pendingAhbState = .awaitHandle) :
      AfterStep s (some .queueAhb)
        (fdEffects (fdEvent .give .ahbAcquire s.pendingAhb.acquireFenceFd ++
          fdEvent .gain .ahbFence fence ++
          if receivedRejected status fence then fdEvent .close .ahbFence fence else []) ++
          [.ahbReceived status fence])
        (s.withReceived status fence)

def AfterResult.Steps (r : AfterResult ω) (s : SessionSlot) (op : Option Opcode) : Prop :=
  AfterStep s op r.effects r.session

theorem receiveAhb_steps {clientFd : Fd} :
    (receiveAhb b os w s clientFd).Steps s (some .queueAhb) := by
  unfold receiveAhb
  split
  · rename_i hawait _
    dsimp only
    split
    · exact AfterStep.fatal _ hawait
    · exact AfterStep.received _ _ hawait
  · exact AfterStep.idle

theorem sendNative_steps {clientFd : Fd} :
    (sendNative b w s clientFd req).Steps s (some .transferAhb) := by
  unfold sendNative
  split
  · rename_i j _ hfind _
    dsimp only
    split
    · exact AfterStep.idle
    rename_i hready
    split
    · exact AfterStep.idle
    · simp only [Bool.or_eq_true,beq_iff_eq,not_or] at hready
      exact AfterStep.nativeSent j (findOutput_some hfind).1 hready.2 (by simpa using hready.1)
  · exact AfterStep.idle
end LinDeX.SessionEngine
