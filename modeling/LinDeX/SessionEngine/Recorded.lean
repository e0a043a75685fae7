import LinDeX.Dmabuf.Recorded
import LinDeX.SessionEngine.Engine

/-!
# What the engine writes down and what it calls

The engine with services that keep a record does the same, and its log is the record: every entry
stands for a call, and every call has its entry.
-/
namespace LinDeX.SessionEngine
open Dmabuf
variable {ω : Type}
def BackendOps.recorded (b : BackendOps ω) : BackendOps (ω × List Note) where
  create w c := unnoted w.2 (b.create w.1 c)
  queueInput w handle data pts flags := unnoted w.2 (b.queueInput w.1 handle data pts flags)
  dequeueOutput w handle :=
    let r := b.dequeueOutput w.1 handle
    noted w.2 r (if r.2.1 != .ok then []
      else .dequeued r.2.2.token :: fdNote .opened r.2.2.acquireFenceFd)
  releaseOutput w handle token fence :=
    (b.releaseOutput w.1 handle token fence, w.2 ++ fdNote .given fence ++ [.released token])
  exportDecodePrime := b.exportDecodePrime.map fun f w handle buffer metadata id =>
    let r := f w.1 handle buffer metadata id
    noted w.2 r ((closableFds r.2.2).map .opened)
  sendNativeBuffer := b.sendNativeBuffer.map fun f w fd buffer =>
    let r := f w.1 fd buffer
    noted w.2 r (if r.2 < 0 then [] else [.sent])
  receiveAhbInput := b.receiveAhbInput.map fun f w handle fd input =>
    let r := f w.1 handle fd input
    noted w.2 r (fdNote .given input.acquireFenceFd ++ fdNote .opened r.2.2)
  dmabufFormatAllowed := b.dmabufFormatAllowed.map fun f w handle d => unnoted w.2 (f w.1 handle d)
  submitDmabuf := b.submitDmabuf.map fun f w handle d pts fence =>
    let r := f w.1 handle d pts fence
    noted w.2 r (fdNote .given fence ++ fdNote .opened r.2.2)
  flush w handle := unnoted w.2 (b.flush w.1 handle)
  destroy w handle := (b.destroy w.1 handle, w.2)

@[simp] def Effect.notes : Effect → List Note
  | .fd event => event.notes
  | .dequeued token => [.dequeued token]
  | .released _ token => [.released token]
  | .nativeSent _ => [.sent]
  | _ => []

def notesOf (effects : List Effect) : List Note := effects.flatMap Effect.notes

variable {b : BackendOps ω} {os : Os ω} {w : ω} {l : List Note} {s : SessionSlot}
  {next : UInt64} {req reply : Message} {status : Status}
@[simp] theorem recorded_releaseOutput (handle : Pointer) (token : UInt64) (fence : Fd) :
    b.recorded.releaseOutput (w, l) handle token fence =
      (b.releaseOutput w handle token fence, l ++ fdNote .given fence ++ [.released token]) := rfl

@[simp] theorem recorded_destroy (handle : Pointer) :
    b.recorded.destroy (w, l) handle = (b.destroy w handle, l) := rfl

@[simp] theorem notesOf_nil : notesOf [] = [] := rfl

@[simp] theorem notesOf_cons (x : Effect) (effects : List Effect) :
    notesOf (x :: effects) = x.notes ++ notesOf effects := List.flatMap_cons

@[simp] theorem notesOf_append (effects later : List Effect) :
    notesOf (effects ++ later) = notesOf effects ++ notesOf later := List.flatMap_append

@[simp] theorem notesOf_fdEffects (events : List FdEvent) :
    notesOf (fdEffects events) = fdNotes events := List.flatMap_map ..

@[simp] def Result.noted (r : Result ω) (l : List Note) : Result (ω × List Note) :=
  ⟨r.status,(r.world, l ++ notesOf r.effects),r.session,r.reply,r.effects⟩

private theorem dupRequestFd_noted : dupRequestFd os.recorded (w, l) req =
    noted l (dupRequestFd os w req)
      ((dupRequestFd os w req).2.toOption.elim [] (fdNote .opened)) := by
  simp only [dupRequestFd,recorded_dup]
  rcases os.dup w (req.fd 0) with ⟨w',e | fd⟩ <;> split <;> simp [Except.toOption]

private theorem writeAllAt_noted (fd : Fd) (fuel : Nat) (data : List UInt8) (done : Nat) :
    writeAllAt os.recorded fd fuel (w, l) data done =
      unnoted l (writeAllAt os fd fuel w data done) := by
  induction fuel generalizing w data done with
  | zero => cases data <;> rfl
  | succ fuel ih =>
    cases data with
    | nil => rfl
    | cons c data =>
      simp only [writeAllAt,recorded_pwrite,unnoted] at ih ⊢
      split <;> simp [*]

private theorem readAllAt_noted (fd : Fd) (offset fuel : Nat) (done : List UInt8) (left : Nat) :
    readAllAt os.recorded fd offset fuel (w, l) done left =
      unnoted l (readAllAt os fd offset fuel w done left) := by
  induction fuel generalizing w done left with
  | zero => cases left <;> rfl
  | succ fuel ih =>
    cases left with
    | zero => rfl
    | succ left =>
      simp only [readAllAt,recorded_pread,unnoted] at ih ⊢
      split <;> simp [*]

private theorem createSealedOutput_noted (data : List UInt8) (size : Nat) :
    createSealedOutput os.recorded (w, l) data size =
      noted l (createSealedOutput os w data size)
        (fdNotes (createSealedOutput os w data size).2.2) := by
  simp only [createSealedOutput,recorded_memfdCreate]
  rcases os.memfdCreate w with ⟨w',_ | fd⟩
  · simp
  simp only [noted,fillSealedOutput,recorded_ftruncate,unnoted,writeAllAt_noted]
  repeat' split
  all_goals simp_all

private theorem handleQueue_noted : handleQueue b.recorded os.recorded (w, l) s req reply =
    (handleQueue b os w s req reply).noted l := by
  have hload : loadInput os.recorded (w, l) req = unnoted l (loadInput os w req) := by
    have husable : inputFdUsable os.recorded (w, l) = inputFdUsable os w := rfl
    simp only [loadInput,husable,recorded_malloc,unnoted,readAllAt_noted]
    repeat' split
    all_goals simp_all
  have hqueue (w : ω) (data : List UInt8) (pts : UInt64) (flags : UInt32) :
      b.recorded.queueInput (w, l) s.backendHandle data pts flags =
        unnoted l (b.queueInput w s.backendHandle data pts flags) := rfl
  simp only [handleQueue,hload,unnoted]
  rcases loadInput os w req with ⟨w',status | ⟨size,data⟩⟩
  · dsimp only
    repeat' split
    all_goals simp [refuse]
  simp only [hqueue,unnoted]
  repeat' split
  all_goals simp [refuse]

private theorem handleQueueAhb_noted : handleQueueAhb os.recorded (w, l) s req reply =
    (handleQueueAhb os w s req reply).noted l := by
  simp only [handleQueueAhb,dupRequestFd_noted]
  rcases dupRequestFd os w req with ⟨w',e | fence⟩ <;> dsimp only [noted] <;> repeat' split
  all_goals simp [refuse,Except.toOption]

private theorem handleCompleteAhb_noted : handleCompleteAhb (w, l) s req reply =
    (handleCompleteAhb w s req reply).noted l := by
  unfold handleCompleteAhb
  repeat' split
  all_goals simp [refuse]

private theorem handleRegisterDmabuf_noted :
    handleRegisterDmabuf b.recorded os.recorded (w, l) s req reply =
      (handleRegisterDmabuf b os w s req reply).noted l := by
  have hallowed : sessionDmabufFormatAllowed b.recorded s =
      fun w d => unnoted w.2 (sessionDmabufFormatAllowed b s w.1 d) := by
    funext w d
    unfold sessionDmabufFormatAllowed BackendOps.recorded
    cases b.dmabufFormatAllowed <;> dsimp only [Option.map]
    · rfl
    · split <;> rfl
  simp only [handleRegisterDmabuf,recorded_cloexec,hallowed,register_noted,RegistryResult.noted]
  repeat' split
  all_goals simp_all [refuse]

private theorem handleUnregisterDmabuf_noted :
    handleUnregisterDmabuf os.recorded (w, l) s req reply =
      (handleUnregisterDmabuf os w s req reply).noted l := by
  simp only [handleUnregisterDmabuf,unregister_noted,RegistryResult.noted]
  repeat' split
  all_goals simp_all [refuse]

private theorem handleQueueDmabuf_noted :
    handleQueueDmabuf b.recorded os.recorded (w, l) s req reply =
      (handleQueueDmabuf b os w s req reply).noted l := by
  have hrejected (w : ω) (l : List Note) : submitRejected os.recorded (w, l) =
    submitRejected os w := rfl
  have hsubmit : b.recorded.submitDmabuf = b.submitDmabuf.map _ := rfl
  simp only [handleQueueDmabuf,hsubmit,recorded_syncFileValidate,begin_noted]
  cases s.dmabufs <;> cases b.submitDmabuf <;>
    simp only [Option.map,RegistryResult.noted,noted,recorded_closeIfOpen,hrejected] <;>
    repeat' split
  all_goals simp_all [refuse]

private theorem handleCompleteDmabuf_noted : handleCompleteDmabuf (w, l) s req reply =
    (handleCompleteDmabuf w s req reply).noted l := by
  simp only [handleCompleteDmabuf]
  repeat' split
  all_goals simp_all [refuse]

private theorem handleDequeue_noted : handleDequeue b.recorded os.recorded (w, l) s next req reply =
    ((handleDequeue b os w s next req reply).1.noted l,
      (handleDequeue b os w s next req reply).2) := by
  have hanswer : b.recorded.dequeueOutput (w, l) s.backendHandle =
    noted l (b.dequeueOutput w s.backendHandle) (if (b.dequeueOutput w s.backendHandle).2.1 != .ok
      then [] else notesOf (dequeuedEffects (b.dequeueOutput w s.backendHandle).2.2)) := by
    simp [BackendOps.recorded,dequeuedEffects]
  have hsend : b.recorded.sendNativeBuffer.isNone = b.sendNativeBuffer.isNone := Option.isNone_map
  simp only [handleDequeue,hanswer,noted,dequeueBytes,dequeueAhb,hsend,createSealedOutput_noted]
  generalize b.dequeueOutput w s.backendHandle = answer
  repeat' split
  all_goals simp_all [refuse,rejectOutput,BackendOutput.withTransport,dequeuedEffects]

private theorem handleRelease_noted : handleRelease b.recorded os.recorded (w, l) s req reply =
    (handleRelease b os w s req reply).noted l := by
  simp only [handleRelease,dupRequestFd_noted]
  rcases dupRequestFd os w req with ⟨w',e | fence⟩ <;> dsimp only [noted] <;> repeat' split
  all_goals simp_all [refuse,Except.toOption]

private theorem handleTransferAhb_noted : handleTransferAhb (w, l) s req reply =
    (handleTransferAhb w s req reply).noted l := by
  simp only [handleTransferAhb]
  repeat' split
  all_goals simp_all [refuse]

private theorem handleTransferPrime_noted :
    handleTransferPrime b.recorded os.recorded (w, l) s req reply =
      (handleTransferPrime b os w s req reply).noted l := by
  unfold handleTransferPrime BackendOps.recorded
  split
  · simp [refuse]
  cases b.exportDecodePrime with
  | none => simp [refuse]
  | some exportPrime =>
  dsimp only [Option.map]
  iterate 3
    split
    · simp [refuse]
  split
  · simp [refuse]
  split
  · simp [refuse]
  rename_i j _ _
  obtain ⟨⟨w',status,d⟩,hanswer⟩ : ∃ a, exportPrime w s.backendHandle (s.outputs j).nativeBuffer
    (s.outputs j).primeMetadata (Bytes.getU64 req.payload 0) = a := ⟨_,rfl⟩
  simp only [hanswer,noted,closeExported,recorded_closeAll,recorded_cloexec]
  generalize (if status > Status.internal then Status.internal else status) = status
  repeat' split
  all_goals simp [fdNotes_map,← List.map_eq_flatMap]

private theorem releaseOutstanding_noted : releaseOutstanding b.recorded os.recorded (w, l) s =
    noted l (releaseOutstanding b os w s) (notesOf (releaseOutstanding b os w s).2.2) := by
  have hreleased : releaseOutputs b.recorded (w, l) s =
      noted l (releaseOutputs b w s) (notesOf (releaseOutputs b w s).2) := by
    refine foldl_noted notesOf (fun acc j => ?_) rfl _
    split
    · simp
    · rfl
  simp [releaseOutstanding,hreleased]

private theorem releaseDmabufState_noted : releaseDmabufState os.recorded (w, l) s =
    noted l (releaseDmabufState os w s) (notesOf (releaseDmabufState os w s).2.2) := by
  have hcompleted : releaseCompletions os.recorded (w, l) s =
      noted l (releaseCompletions os w s) (fdNotes (releaseCompletions os w s).2.2) :=
    foldl_noted (fun acc : Option Registry × List FdEvent => fdNotes acc.2)
      (fun acc j => by simp) rfl _
  simp only [releaseDmabufState,hcompleted,noted,registryDestroy_noted]
  split <;> simp

private theorem teardown_noted : teardown b.recorded os.recorded (w, l) s =
    noted l (teardown b os w s) (notesOf (teardown b os w s).2) := by
  simp [teardown,releaseOutstanding_noted,releaseDmabufState_noted]

private theorem handleFlush_noted : handleFlush b.recorded os.recorded (w, l) s req reply =
    (handleFlush b os w s req reply).noted l := by
  have hflush : b.recorded.flush (w, l) s.backendHandle =
      unnoted l (b.flush w s.backendHandle) := rfl
  simp only [handleFlush,hflush,unnoted,releaseOutstanding_noted]
  repeat' split
  all_goals simp_all [refuse]

private theorem handleClose_noted : handleClose b.recorded os.recorded (w, l) s req reply =
    (handleClose b os w s req reply).noted l := by
  simp only [handleClose,teardown_noted]
  split <;> simp [refuse]

private theorem dispatch_noted : dispatch b.recorded os.recorded (w, l) s next req reply =
    ((dispatch b os w s next req reply).1.noted l, (dispatch b os w s next req reply).2) := by
  simp only [dispatch,handleQueue_noted,handleDequeue_noted,handleRelease_noted,
    handleTransferAhb_noted,handleTransferPrime_noted,handleQueueAhb_noted,handleCompleteAhb_noted,
    handleRegisterDmabuf_noted,handleUnregisterDmabuf_noted,handleQueueDmabuf_noted,
    handleCompleteDmabuf_noted,handleFlush_noted,handleClose_noted]
  repeat' split
  all_goals simp [refuse]
variable {e : Engine}
def Log.notes (log : Log) : List Note := notesOf (log.map Prod.snd)

@[simp] def EngineResult.noted (r : EngineResult ω) (l : List Note) :
    EngineResult (ω × List Note) :=
  ⟨r.status,(r.world, l ++ r.log.notes),r.engine,r.reply,r.log⟩

@[simp] theorem Log.notes_map (k : Fin 4) (effects : List Effect) :
    Log.notes (effects.map (Prod.mk k)) = notesOf effects := by
  simp [Log.notes,Function.comp_def]

@[simp] theorem Log.notes_nil : Log.notes [] = [] := rfl

private theorem handleCreate_noted : handleCreate b.recorded os.recorded (w, l) e req reply =
    (handleCreate b os w e req reply).noted l := by
  have hrequest : createRequest b.recorded req = createRequest b req := by
    simp [createRequest,encodeFrameSizeFor,BackendOps.recorded]
  have hcalloc (w : ω) : os.recorded.callocRegistry (w, l) = unnoted l (os.callocRegistry w) := rfl
  have hcreate (c : BackendConfig) : b.recorded.create (w, l) c = unnoted l (b.create w c) := rfl
  simp only [handleCreate,hrequest,hcreate,hcalloc,unnoted]
  rcases createRequest b req with status | ⟨c,frameSize⟩
  · simp [Engine.refuse]
  rcases os.callocRegistry (b.create w c).1 with ⟨w',err | _⟩ <;>
    cases c.transport == Transport.dmabuf <;> dsimp only [Except.map] <;> repeat' split
  all_goals simp_all [Engine.refuse]

private theorem sessionEngineHandle_noted :
    sessionEngineHandle b.recorded os.recorded (w, l) e req reply =
      (sessionEngineHandle b os w e req reply).noted l := by
  simp only [sessionEngineHandle,handleCreate_noted,dispatch_noted]
  repeat' split
  all_goals simp_all [Engine.refuse]

@[simp] def AfterResult.noted (r : AfterResult ω) (l : List Note) : AfterResult (ω × List Note) :=
  ⟨r.ok,(r.world, l ++ notesOf r.effects),r.session,r.effects⟩

private theorem receiveAhb_noted (clientFd : Fd) :
    receiveAhb b.recorded os.recorded (w, l) s clientFd =
      (receiveAhb b os w s clientFd).noted l := by
  have hreceive : b.recorded.receiveAhbInput = b.receiveAhbInput.map _ := rfl
  simp only [receiveAhb,hreceive]
  cases s.pendingAhbState <;> cases b.receiveAhbInput <;>
    simp only [Option.map,noted,recorded_closeIfOpen] <;> repeat' split
  all_goals simp_all

private theorem sendNative_noted (clientFd : Fd) : sendNative b.recorded (w, l) s clientFd req =
    (sendNative b w s clientFd req).noted l := by
  have hsend : b.recorded.sendNativeBuffer = b.sendNativeBuffer.map _ := rfl
  simp only [sendNative,hsend]
  cases findOutput s (Bytes.getU64 req.payload 0) <;> cases b.sendNativeBuffer <;>
    simp only [Option.map,noted] <;> repeat' split
  all_goals simp_all

private theorem sessionEngineAfterReply_noted (clientFd : Fd) :
    sessionEngineAfterReply b.recorded os.recorded (w, l) e clientFd req reply =
      let r := sessionEngineAfterReply b os w e clientFd req reply
      (r.1, (r.2.1, l ++ r.2.2.2.notes), r.2.2) := by
  simp only [sessionEngineAfterReply,receiveAhb_noted,sendNative_noted]
  repeat' split
  all_goals simp_all

private theorem sessionEngineDestroy_noted : sessionEngineDestroy b.recorded os.recorded (w, l) e =
    noted l (sessionEngineDestroy b os w e) (sessionEngineDestroy b os w e).2.notes := by
  refine foldl_noted Log.notes (fun acc k => ?_) rfl _
  split
  · simp [teardown_noted,Log.notes,Function.comp_def]
  · rfl

/-- Every entry of the log stands for a call of the backend or the kernel, in the order of the
calls, and every call has its entry. -/
structure Truthful (b : BackendOps ω) (os : Os ω) : Prop where
  handle : ∀ w l e req reply, sessionEngineHandle b.recorded os.recorded (w, l) e req reply =
    (sessionEngineHandle b os w e req reply).noted l
  afterReply : ∀ w l e clientFd req reply,
    sessionEngineAfterReply b.recorded os.recorded (w, l) e clientFd req reply =
      let r := sessionEngineAfterReply b os w e clientFd req reply
      (r.1, (r.2.1, l ++ r.2.2.2.notes), r.2.2)
  destroy : ∀ w l e, sessionEngineDestroy b.recorded os.recorded (w, l) e =
    noted l (sessionEngineDestroy b os w e) (sessionEngineDestroy b os w e).2.notes

theorem truthful (b : BackendOps ω) (os : Os ω) : Truthful b os :=
  ⟨fun _ _ _ _ _ => sessionEngineHandle_noted,fun _ _ _ _ _ _ => sessionEngineAfterReply_noted _,
    fun _ _ _ => sessionEngineDestroy_noted⟩
end LinDeX.SessionEngine
