import LinDeX.SessionEngine.Steps

/-!
# The engine invariant

Every transition keeps a session well formed, and so every call keeps the engine well formed:
a slot that is not in use is cleared, a slot in use is a well-formed session.
-/
namespace LinDeX.SessionEngine
open Dmabuf Function SessionSlot Registry OutputSlot
variable {ω : Type} {b : BackendOps ω} {os : Os ω} {w : ω} {s s' : SessionSlot}
  {next next' : UInt64} {req reply : Message} {status : Status} {effects : List Effect}
  {op : Option Opcode}

namespace InFlightMatch
variable {r r' : Registry} {c : Fin 4 → CompletionSlot} {i : Fin 16} {j : Fin 4}
theorem congr (h : InFlightMatch r c)
    (hflight : ∀ k, (r'.entries k).inFlight = (r.entries k).inFlight)
    (hid : ∀ k, (r.entries k).inFlight = true →
      (r'.entries k).descriptor = (r.entries k).descriptor) : InFlightMatch r' c := by
  refine ⟨fun j hj => ?_,fun k hk => ?_,h.idInj⟩
  · obtain ⟨k,hk,hkid⟩ := h.entryOf j hj
    exact ⟨k,(hflight k).trans hk,(congrArg Descriptor.bufferId (hid k hk)).trans hkid⟩
  · rw [hflight] at hk
    rw [hid k hk]
    exact h.completionOf k hk

theorem add (h : InFlightMatch r c) (hr : r.WellFormed) (hfree : (r.entries i).inUse = false)
    (d : Descriptor) : InFlightMatch (r.add i d) c := by
  have hzero := hr.cleared i hfree
  refine h.congr (fun k => ?_) (fun k hk => ?_)
  · by_cases hk : k = i
    · subst hk
      simp [Registry.add,Registry.setEntry,hzero,Entry.zero]
    · simp [Registry.add,Registry.setEntry,hk]
  · have hne : k ≠ i := by
      rintro rfl
      rw [hzero] at hk
      exact absurd hk (by decide)
    simp [Registry.add,Registry.setEntry,hne]

theorem drop (h : InFlightMatch r c) (hflight : (r.entries i).inFlight = false) :
    InFlightMatch (r.drop i) c := by
  refine h.congr (fun k => ?_) (fun k hk => ?_)
  · by_cases hk : k = i
    · subst hk
      simp [Registry.drop,Registry.setEntry,Entry.zero,hflight]
    · simp [Registry.drop,Registry.setEntry,hk]
  · have hne : k ≠ i := by
      rintro rfl
      simp [hflight] at hk
    simp [Registry.drop,Registry.setEntry,hne]

theorem mark (h : InFlightMatch r c) (hr : r.WellFormed) (huse : (r.entries i).inUse = true)
    (hflight : (r.entries i).inFlight = false) (hfree : (c j).inUse = false)
    {new : CompletionSlot} (hnew : new.inUse = true)
    (hid : new.bufferId = (r.entries i).descriptor.bufferId) :
    InFlightMatch (r.mark i) (update c j new) := by
  -- no completion in use names the buffer of entry `i` yet
  have hfresh : ∀ k, (c k).inUse = true → (c k).bufferId ≠ new.bufferId := by
    intro k hk heq
    obtain ⟨i',hi',hid'⟩ := h.entryOf k hk
    have hsame : i' = i :=
      hr.idInj i' i (hr.inUse_of_inFlight hi') huse (hid'.trans (heq.trans hid))
    rw [hsame,hflight] at hi'
    exact absurd hi' (by decide)
  refine ⟨fun k hk => ?_,fun i' hi' => ?_,fun k k' hk hk' heq => ?_⟩
  · by_cases hkj : k = j
    · subst hkj
      exact ⟨i,by simp [mark,setEntry],by simp [mark,setEntry,hid]⟩
    · rw [update_of_ne hkj] at hk ⊢
      obtain ⟨i',hi',hid'⟩ := h.entryOf k hk
      have hne : i' ≠ i := by
        rintro rfl
        simp [hflight] at hi'
      exact ⟨i',by simpa [Registry.mark,Registry.setEntry,hne] using hi',
        by simpa [Registry.mark,Registry.setEntry,hne] using hid'⟩
  · by_cases hi : i' = i
    · subst hi
      exact ⟨j,by simp [hnew],by simp [Registry.mark,Registry.setEntry,hid]⟩
    · simp only [Registry.mark,Registry.setEntry,update_of_ne hi] at hi' ⊢
      obtain ⟨k,hk,hkid⟩ := h.completionOf i' hi'
      have hne : k ≠ j := by
        rintro rfl
        simp [hfree] at hk
      exact ⟨k,by simpa [hne] using hk,by simpa [hne] using hkid⟩
  · by_cases hkj : k = j <;> by_cases hkj' : k' = j
    · rw [hkj,hkj']
    · subst hkj
      rw [update_self,update_of_ne hkj'] at heq
      rw [update_of_ne hkj'] at hk'
      exact absurd heq.symm (hfresh k' hk')
    · subst hkj'
      rw [update_self,update_of_ne hkj] at heq
      rw [update_of_ne hkj] at hk
      exact absurd heq (hfresh k hk)
    · rw [update_of_ne hkj] at hk heq
      rw [update_of_ne hkj'] at hk' heq
      exact h.idInj k k' hk hk' heq

theorem unmark (h : InFlightMatch r c) (hr : r.WellFormed)
    (hflight : (r.entries i).inFlight = true) (huse : (c j).inUse = true)
    (hid : (r.entries i).descriptor.bufferId = (c j).bufferId) :
    InFlightMatch (r.unmark i) (update c j CompletionSlot.free) := by
  have hother : ∀ k, (update c j CompletionSlot.free k).inUse = true →
      k ≠ j ∧ (c k).inUse = true := by
    intro k hk
    by_cases hkj : k = j
    · subst hkj
      simp [CompletionSlot.free] at hk
    · exact ⟨hkj,by simpa [hkj] using hk⟩
  refine ⟨fun k hk => ?_,fun i' hi' => ?_,fun k k' hk hk' heq => ?_⟩
  · obtain ⟨hkj,hk⟩ := hother k hk
    obtain ⟨i',hi',hid'⟩ := h.entryOf k hk
    have hne : i' ≠ i := by
      rintro rfl
      exact hkj (h.idInj k j hk huse (hid'.symm.trans hid))
    rw [update_of_ne hkj]
    exact ⟨i',by simpa [Registry.unmark,Registry.setEntry,hne] using hi',
      by simpa [Registry.unmark,Registry.setEntry,hne] using hid'⟩
  · have hne : i' ≠ i := by
      rintro rfl
      simp [Registry.unmark,Registry.setEntry] at hi'
    simp only [Registry.unmark,Registry.setEntry,update_of_ne hne] at hi' ⊢
    obtain ⟨k,hk,hkid⟩ := h.completionOf i' hi'
    have hkj : k ≠ j := by
      rintro rfl
      exact hne (hr.idInj i' i (hr.inUse_of_inFlight hi') (hr.inUse_of_inFlight hflight)
        (hkid.symm.trans hid.symm))
    exact ⟨k,by simpa [hkj] using hk,by simpa [hkj] using hkid⟩
  · obtain ⟨hkj,hk⟩ := hother k hk
    obtain ⟨hkj',hk'⟩ := hother k' hk'
    rw [update_of_ne hkj,update_of_ne hkj'] at heq
    exact h.idInj k k' hk hk' heq
end InFlightMatch

namespace SessionSlot.WellFormed
theorem setOutput (hs : s.WellFormed) {j : Fin 8} {o : OutputSlot} (ho : o.WellFormed) :
    (s.setOutput j o).WellFormed :=
  { hs with
    outputs := Slots.forall_update hs.outputs ho
    fences := ⟨hs.fences.acquire,hs.fences.release⟩ }

section
variable {r r' : Registry}
theorem setDmabufs (hs : s.WellFormed) (hr : s.dmabufs = some r) (hr' : r'.WellFormed)
    {cs : Fin 4 → CompletionSlot} (hcs : ∀ j, (cs j).inUse = false → cs j = CompletionSlot.free)
    (hmatch : InFlightMatch r' cs) :
    ({ s with dmabufs := some r', dmabufCompletions := cs } : SessionSlot).WellFormed :=
  { outputs := hs.outputs
    fences := ⟨hs.fences.acquire,hs.fences.release⟩
    completions := hcs
    registry := by rintro r ⟨⟩; exact hr'
    inFlight := by rintro r ⟨⟩; exact hmatch
    noRegistry := by rintro ⟨⟩
    hasRegistry := by simpa [hr] using hs.hasRegistry }

theorem setDmabufsCompletion (hs : s.WellFormed) (hr : s.dmabufs = some r)
    (hr' : r'.WellFormed) {j : Fin 4} {c : CompletionSlot} (hc : c.inUse = false → c = CompletionSlot.free)
    (hmatch : InFlightMatch r' (update s.dmabufCompletions j c)) :
    ({ s with dmabufs := some r' }.setCompletion j c).WellFormed :=
  hs.setDmabufs hr hr' (Slots.forall_update
    (P := fun _ c => c.inUse = false → c = CompletionSlot.free) hs.completions hc) hmatch
end

theorem setFences (hs : s.WellFormed) (houtputs : s'.outputs = s.outputs)
    (hdmabufs : s'.dmabufs = s.dmabufs) (hcompletions : s'.dmabufCompletions = s.dmabufCompletions)
    (htransport : s'.transport = s.transport) (hfences : s'.FencesMatch) :
    s'.WellFormed :=
  { outputs := by rw [houtputs]; exact hs.outputs
    fences := hfences
    completions := by rw [hcompletions]; exact hs.completions
    registry := by rw [hdmabufs]; exact hs.registry
    inFlight := by rw [hdmabufs,hcompletions]; exact hs.inFlight
    noRegistry := by rw [hdmabufs,hcompletions]; exact hs.noRegistry
    hasRegistry := by rw [hdmabufs,htransport]; exact hs.hasRegistry }
end SessionSlot.WellFormed

theorem OutputSlot.wellFormed_zero : OutputSlot.zero.WellFormed :=
  ⟨fun _ => rfl,fun h => absurd h (by decide)⟩
theorem OutputSlot.wellFormed_takeBytes (id : UInt64) : (OutputSlot.zero.takeBytes id).WellFormed :=
  ⟨fun h => absurd h (by simp [takeBytes]),fun _ _ => rfl⟩

theorem OutputSlot.wellFormed_leased {o : OutputSlot} (h : o.leased = true) : o.WellFormed := by
  simp only [leased,Bool.and_eq_true,beq_iff_eq] at h
  exact ⟨fun hf => absurd h.1 (by simp [hf]),fun _ hne => absurd h.2 hne⟩

theorem clearPendingAhb_wellFormed (hs : s.WellFormed) (hfence : s.pendingAhbReleaseFence < 0) :
    s.clearPendingAhb.WellFormed :=
  hs.setFences rfl rfl rfl rfl
    ⟨fun _ => by simp [clearPendingAhb],fun _ => hfence⟩

theorem HandleStep.wellFormed (h : HandleStep s next op status effects s' next')
    (hs : s.WellFormed) (huse : s'.inUse = true) : s'.WellFormed := by
  cases h with
  | failed | quiet | oversized | rejected => exact hs
  | dequeuedBytes j _ _ _ hfree =>
    rw [(hs.outputs j).cleared hfree]
    exact hs.setOutput (wellFormed_takeBytes _)
  | dequeuedAhb _ _ _ htransport =>
    exact hs.setOutput
      (wellFormed_leased (by simp [leased,takeAhb,htransport]))
  | releasedBytes j | releasedAhb j => exact hs.setOutput wellFormed_zero
  | primeSent _ hlease => exact hs.setOutput (wellFormed_leased hlease)
  | queuedAhb =>
    exact hs.setFences rfl rfl rfl rfl
      ⟨fun hne => absurd rfl hne,fun _ => by simp [withPendingAhb]⟩
  | completedAhb hcomplete taken htaken =>
    subst htaken
    split
    · exact hs.setFences rfl rfl rfl rfl
        ⟨fun _ => by simp [clearPendingAhb],fun _ => by simp [clearPendingAhb]⟩
    · rename_i hneg
      exact clearPendingAhb_wellFormed hs (Int.not_le.mp hneg)
  | registered r _ d hr hfree hid hnew =>
    exact hs.setDmabufs hr ((hs.registry r hr).add hfree hid hnew) hs.completions
      ((hs.inFlight r hr).add (hs.registry r hr) hfree d)
  | unregistered r _ hr huse' hflight =>
    exact hs.setDmabufs hr ((hs.registry r hr).drop huse' hflight) hs.completions
      ((hs.inFlight r hr).drop hflight)
  | queuedDmabuf r _ _ _ hr huse' hflight hfree =>
    exact hs.setDmabufsCompletion hr ((hs.registry r hr).mark huse' hflight)
      (fun hf => absurd hf (by simp))
      ((hs.inFlight r hr).mark (hs.registry r hr) huse' hflight hfree rfl rfl)
  | completedDmabuf r _ _ hr huse' hflight hid =>
    exact hs.setDmabufsCompletion hr ((hs.registry r hr).unmark hflight) (fun _ => rfl)
      ((hs.inFlight r hr).unmark (hs.registry r hr) hflight huse' hid)
  | flushed =>
    exact
      { outputs := fun _ => wellFormed_zero
        fences := ⟨fun _ => by simp [clearOutstanding],fun _ => by simp [clearOutstanding]⟩
        completions := hs.completions
        registry := hs.registry
        inFlight := hs.inFlight
        noRegistry := hs.noRegistry
        hasRegistry := hs.hasRegistry }
  | closed => exact absurd huse (by simp [SessionSlot.zero])

theorem AfterStep.wellFormed (h : AfterStep s op effects s') (hs : s.WellFormed) :
    s'.WellFormed := by
  cases h with
  | idle => exact hs
  | nativeSent j huse hbuffer =>
    have hlease : (s.outputs j).leased = true := by
      by_contra hne
      have hbytes := (hs.outputs j).bytes huse
        (by simpa [leased,huse] using hne)
      rw [hbytes] at hbuffer
      exact hbuffer rfl
    exact hs.setOutput (wellFormed_leased hlease)
  | fatal _ hawait =>
    exact clearPendingAhb_wellFormed hs (hs.fences.release (by simp [hawait]))
  | received =>
    exact hs.setFences rfl rfl rfl rfl
      ⟨fun _ => by simp [withReceived],fun hne => absurd rfl hne⟩

theorem HandleStep.identity (h : HandleStep s next op status effects s' next') :
    (s' = SessionSlot.zero) ∨ (s'.inUse = s.inUse ∧ s'.id = s.id ∧ s'.transport = s.transport ∧
    s'.backendHandle = s.backendHandle) := by
  cases h with
  | closed => exact .inl rfl
  | completedAhb _ _ htaken =>
    subst htaken
    split <;> exact .inr ⟨rfl,rfl,rfl,rfl⟩
  | _ => exact .inr ⟨rfl,rfl,rfl,rfl⟩

theorem AfterStep.identity (h : AfterStep s op effects s') :
    s'.inUse = s.inUse ∧ s'.id = s.id ∧ s'.transport = s.transport ∧
    s'.backendHandle = s.backendHandle := by
  cases h <;> exact ⟨rfl,rfl,rfl,rfl⟩

structure Engine.WellFormed (e : Engine) : Prop where
  cleared : ∀ k, (e.sessions k).inUse = false → e.sessions k = SessionSlot.zero
  session : ∀ k, (e.sessions k).inUse = true → (e.sessions k).WellFormed

theorem Engine.wellFormed_create : Engine.create.WellFormed :=
  ⟨fun _ _ => rfl,fun _ h => absurd h (by simp [Engine.create,SessionSlot.zero])⟩

/-- What a call to the engine about a request with a given opcode can do; the verdict is the
status of a request, `none` for the callback after a reply. -/
inductive EngineStep (e : Engine) : Option Opcode → Option Status → Log → Engine → Prop
  | refused {op : Option Opcode} {status : Status} (hstatus : status ≠ .ok) :
      EngineStep e op (some status) [] e
  | created (k : Fin 4) (s : SessionSlot) (hfree : (e.sessions k).inUse = false)
      (handle : Pointer) (c : BackendConfig) (size : Nat) (dmabufs : Option Registry)
      (hs : s = fresh handle c size dmabufs)
      (hempty : dmabufs = if c.transport == Transport.dmabuf then some empty else none) :
      EngineStep e (some .createSession) (some Status.ok) [] (e.openSession k s)
  | handled (k : Fin 4) (huse : (e.sessions k).inUse = true) {op : Option Opcode} {status : Status}
      {effects : List Effect} {s' : SessionSlot} {next' : UInt64}
      (hpending : (e.sessions k).pendingAhbState ≠ .none → op = some .completeAhb)
      (h : HandleStep (e.sessions k) e.nextOutputId op status effects s' next') :
      EngineStep e op (some status) (effects.map (Prod.mk k))
        { e.setSession k s' with nextOutputId := next' }
  | idle {op : Option Opcode} : EngineStep e op none [] e
  | called (k : Fin 4) (huse : (e.sessions k).inUse = true) {op : Option Opcode}
      {effects : List Effect} {s' : SessionSlot} (h : AfterStep (e.sessions k) op effects s') :
      EngineStep e op none (effects.map (Prod.mk k)) (e.setSession k s')
variable {e e' : Engine} {verdict : Option Status} {log : Log}
theorem findSession_some {id : UInt32} {k : Fin 4} (h : findSession e id = some k) :
    (e.sessions k).inUse = true ∧ (e.sessions k).id = id := by
  simpa using Slots.find_some h

theorem encodeFrameSizeFor_ne_okError {minor : UInt16} {c : BackendConfig} :
    encodeFrameSizeFor b minor c ≠ .error Status.ok := by
  unfold encodeFrameSizeFor
  iterate 3
    split
    · simp; decide
  split
  · split
    · simp; decide
    · simp
  · simp

theorem createRequest_error_ne_ok (h : createRequest b req = .error status) :
    status ≠ .ok := by
  rintro rfl
  revert h
  unfold createRequest
  dsimp only
  split
  · simp; decide
  split
  · simp; decide
  split
  · split
    · simp; decide
    split
    · simp; decide
    · simp
  split
  · simp; decide
  split
  · simp; decide
  · intro h
    cases hsize : encodeFrameSizeFor b req.header.versionMinor (createConfig req) with
    | ok size => simp [hsize,Except.map] at h
    | error status =>
      simp only [hsize,Except.map,Except.error.injEq] at h
      exact encodeFrameSizeFor_ne_okError (h ▸ hsize)

theorem setSession_zero_of_unused (he : e.WellFormed) {k : Fin 4}
    (hk : (e.sessions k).inUse = false) : e.setSession k SessionSlot.zero = e := by
  rw [Engine.setSession,← he.cleared k hk,update_eq_self]

theorem refuse_engineStep (h : status ≠ .ok) :
    let r := e.refuse status w reply
    EngineStep e op (some r.status) r.log r.engine :=
  EngineStep.refused h

theorem handleCreate_step (he : e.WellFormed) :
    let r := handleCreate b os w e req reply
    EngineStep e (some .createSession) (some r.status) r.log r.engine := by
  unfold handleCreate
  split
  · rename_i hrequest
    exact refuse_engineStep (createRequest_error_ne_ok hrequest)
  rename_i c frameSize _
  split
  · exact refuse_engineStep (by decide)
  rename_i k hslot
  have hfree : (e.sessions k).inUse = false := by simpa using Slots.find_some hslot
  dsimp only
  generalize b.create w c = answer
  split
  · rename_i hstatus
    exact refuse_engineStep (by simpa using hstatus)
  split
  · exact refuse_engineStep (by decide)
  -- the registry of a DMABUF session is the only allocation that can still fail
  by_cases htransport : (c.transport == Transport.dmabuf) = true
  · rw [if_pos htransport]
    cases hcalloc : (os.callocRegistry answer.1).2 with
    | error err =>
      simp only [Except.map,setSession_zero_of_unused he hfree]
      exact EngineStep.refused (by split <;> decide)
    | ok u =>
      simp only [Except.map]
      exact EngineStep.created k _ hfree _ _ _ _ rfl (by rw [if_pos htransport])
  · rw [if_neg htransport]
    exact EngineStep.created k _ hfree _ _ _ _ rfl (by rw [if_neg htransport])

theorem sessionEngineHandle_step (he : e.WellFormed) :
    let r := sessionEngineHandle b os w e req reply
    EngineStep e (Opcode.ofCode req.header.opcode) (some r.status) r.log r.engine := by
  unfold sessionEngineHandle
  iterate 3
    split
    · exact refuse_engineStep (by decide)
  split
  · rename_i hop
    rw [hop]
    exact handleCreate_step he
  split
  · exact refuse_engineStep (by decide)
  rename_i k hfind
  have huse := (findSession_some hfind).1
  split
  · exact refuse_engineStep (by decide)
  · rename_i hfree
    refine EngineStep.handled k huse (fun hbusy => ?_) (dispatch_step (he.session k huse))
    simpa [hbusy] using hfree

theorem sessionEngineHandle_ok (hok : (sessionEngineHandle b os w e req reply).status = .ok)
    (hop : Opcode.ofCode req.header.opcode ≠ some .createSession) :
    ∃ k, findSession e req.header.sessionId = some k ∧
    let r := dispatch b os w (e.sessions k) e.nextOutputId req reply
    sessionEngineHandle b os w e req reply =
      ⟨r.1.status,r.1.world,{ e.setSession k r.1.session with nextOutputId := r.2 },
        r.1.reply,r.1.effects.map (Prod.mk k)⟩ := by
  revert hok
  unfold sessionEngineHandle
  split
  · exact (absurd · Status.internal_ne_ok)
  split
  · exact (absurd · Status.unsupported_ne_ok)
  iterate 2
    split
    · exact (absurd · Status.badMessage_ne_ok)
  rename_i k hfind
  split
  · exact (absurd · Status.wouldBlock_ne_ok)
  · exact fun _ => ⟨k,hfind,rfl⟩

theorem sessionEngineAfterReply_step (b : BackendOps ω) (os : Os ω) (w : ω) (e : Engine)
    (clientFd : Fd) (req reply : Message) :
    let r := sessionEngineAfterReply b os w e clientFd req reply
    EngineStep e (Opcode.ofCode req.header.opcode) none r.2.2.2 r.2.2.1 := by
  unfold sessionEngineAfterReply
  split
  · exact EngineStep.idle
  split
  · exact EngineStep.idle
  rename_i k hfind
  have huse := (findSession_some hfind).1
  apply EngineStep.called k huse
  split
  · rename_i hop
    rw [hop]
    exact receiveAhb_steps
  split
  · exact AfterStep.idle
  · rename_i hop
    have hop : Opcode.ofCode req.header.opcode = some .transferAhb := by simp_all
    rw [hop]
    exact sendNative_steps

theorem step_engineStep (b : BackendOps ω) (os : Os ω) (w : ω) (call : Call) (he : e.WellFormed) :
    ∃ verdict,
      EngineStep e call.opcode verdict (step b os (w, e) call).2 (step b os (w, e) call).1.2 ∧
      (verdict = some .ok → ∃ req reply, call = .handle req reply ∧
        (sessionEngineHandle b os w e req reply).status = .ok) := by
  cases call with
  | handle req reply =>
    exact ⟨_,sessionEngineHandle_step he,fun hok => ⟨req,reply,rfl,Option.some.inj hok⟩⟩
  | afterReply => exact ⟨_,sessionEngineAfterReply_step ..,nofun⟩

theorem SessionSlot.wellFormed_fresh {handle : Pointer} {c : BackendConfig} {size : Nat}
    {dmabufs : Option Registry}
    (h : dmabufs = if c.transport == Transport.dmabuf then some empty else none) :
    (fresh handle c size dmabufs).WellFormed := by
  have hempty : ∀ r, dmabufs = some r → r = empty := by
    rintro r rfl
    split at h
    · cases h
      rfl
    · cases h
  refine ⟨fun _ => wellFormed_zero,⟨fun _ => by simp [fresh],fun _ => by simp [fresh]⟩,
    fun _ _ => rfl,fun r hr => ?_,fun r hr => ?_,fun _ _ => rfl,?_⟩
  · rw [hempty r hr]
    exact wellFormed_empty
  · rw [hempty r hr]
    exact ⟨fun _ hj => absurd hj (by simp [fresh,CompletionSlot.free]),
      fun _ hi => absurd hi (by simp [empty,Entry.zero]),
      fun _ _ hj => absurd hj (by simp [fresh,CompletionSlot.free])⟩
  · rw [fresh,h]
    by_cases ht : (c.transport == Transport.dmabuf) = true <;> simp [ht]

theorem Engine.WellFormed.setSession (he : e.WellFormed) {k : Fin 4} {s : SessionSlot}
    (hclear : s.inUse = false → s = SessionSlot.zero) (hs : s.inUse = true → s.WellFormed) :
    (e.setSession k s).WellFormed :=
  ⟨Slots.forall_update (P := fun _ (s : SessionSlot) => s.inUse = false → s = SessionSlot.zero)
      he.cleared hclear,
    Slots.forall_update (P := fun _ (s : SessionSlot) => s.inUse = true → s.WellFormed) he.session hs⟩

theorem Engine.openSession_eq (e : Engine) (k : Fin 4) (s : SessionSlot) :
    e.openSession k s =
      { e.setSession k { s with id := (allocateSessionId (e.setSession k s)).1 } with
        nextSessionId := (allocateSessionId (e.setSession k s)).2 } := by
  simp [Engine.openSession,Engine.setSession]

theorem EngineStep.wellFormed (h : EngineStep e op verdict log e') (he : e.WellFormed) :
    e'.WellFormed := by
  cases h with
  | refused | idle => exact he
  | created k s _ _ _ _ _ hs hempty =>
    rw [Engine.openSession_eq]
    have hfresh : s.WellFormed := hs ▸ wellFormed_fresh hempty
    have hset : (e.setSession k
        { s with id := (allocateSessionId (e.setSession k s)).1 }).WellFormed :=
      he.setSession (fun hf => absurd hf (by simp [hs,fresh])) fun _ =>
        ⟨hfresh.outputs,⟨hfresh.fences.acquire,hfresh.fences.release⟩,hfresh.completions,
          hfresh.registry,hfresh.inFlight,hfresh.noRegistry,hfresh.hasRegistry⟩
    exact ⟨hset.cleared,hset.session⟩
  | handled k huse hpending h =>
    rename_i status effects s' next'
    have hset : (e.setSession k s').WellFormed := by
      refine he.setSession (fun hf => ?_) (h.wellFormed (he.session k huse))
      obtain hzero | ⟨hsame, -⟩ := h.identity
      · exact hzero
      · rw [hsame,huse] at hf
        cases hf
    exact ⟨hset.cleared,hset.session⟩
  | called k huse h =>
    rename_i effects s'
    refine he.setSession (fun hf => ?_) fun _ => h.wellFormed (he.session k huse)
    rw [h.identity.1,huse] at hf
    cases hf

/-- Steps one after the other, in whatever world each of them is made. -/
def EngineRun : Engine → Log → Engine → Prop :=
  Run.Trace fun e log e' => ∃ op verdict, EngineStep e op verdict log e'

theorem step_wellFormed (st : ω × Engine) (call : Call) (he : st.2.WellFormed) :
    (step b os st call).1.2.WellFormed := by
  obtain ⟨verdict,h, -⟩ := step_engineStep b os st.1 call he
  exact h.wellFormed he

theorem sessionEngineDestroy_log (b : BackendOps ω) (os : Os ω) (w : ω) (e : Engine) :
    ∃ torn : Fin 4 → List Effect, (∀ k, (e.sessions k).inUse = true →
        ∃ events, torn k = outstandingEffects (e.sessions k) ++ fdEffects events ∧
        gainedBy events = 0 ∧ settledBy events = (e.sessions k).dmabufHeld ∧ Plain events) ∧
      (∀ k, (e.sessions k).inUse = false → torn k = []) ∧ (sessionEngineDestroy b os w e).2 =
        (List.finRange 4).flatMap fun k => (torn k).map (Prod.mk k) := by
  let tear : ω → Fin 4 → ω × Log := fun w k =>
    if (e.sessions k).inUse then
      ((teardown b os w (e.sessions k)).1, (teardown b os w (e.sessions k)).2.map (Prod.mk k))
    else (w, [])
  have hrun : (sessionEngineDestroy b os w e).2 = (Run.run tear w (List.finRange 4)).2 := by
    have hloop := congrArg Prod.snd (Run.foldl_eq_run tear w [] (List.finRange 4))
    rw [List.nil_append] at hloop
    rw [← hloop,sessionEngineDestroy]
    congr 2
    funext acc k
    simp only [tear]
    split <;> simp
  obtain ⟨before,hlog⟩ := Run.run_log_flatMap tear w (List.nodup_finRange 4)
  refine ⟨fun k => if (e.sessions k).inUse then (teardown b os (before k) (e.sessions k)).2 else [],
    fun k huse => ?_,fun k huse => by simp [huse],?_⟩
  · simpa only [if_pos huse] using teardown_effects b os (before k) (e.sessions k)
  · rw [hrun,hlog]
    refine List.flatMap_congr fun k _ => ?_
    simp only [tear]
    split <;> rfl

@[simp] theorem Engine.setSession_self (e : Engine) (k : Fin 4) (s : SessionSlot) :
    (e.setSession k s).sessions k = s := update_self ..
theorem Engine.setSession_of_ne (e : Engine) {k k' : Fin 4} (h : k ≠ k') (s : SessionSlot) :
    (e.setSession k' s).sessions k = e.sessions k := update_of_ne h ..
theorem Log.slot_append (k : Fin 4) (xs ys : Log) :
    Log.slot k (xs ++ ys) = Log.slot k xs ++ Log.slot k ys := List.filterMap_append

theorem Log.slot_map_self (k : Fin 4) (effects : List Effect) :
    Log.slot k (effects.map (Prod.mk k)) = effects := by
  simp [Log.slot,List.filterMap_map]

theorem Log.slot_map_of_ne {k k' : Fin 4} (hne : k' ≠ k) (effects : List Effect) :
    Log.slot k (effects.map (Prod.mk k')) = [] := by
  simp [Log.slot,List.filterMap_map,hne]

/-- What follows the effects in one session follows the log of the engine in each of them. -/
theorem Engine.setSession_accepts {σ ε : Type} {step : σ → ε → Option σ} {view : SessionSlot → σ}
    (f : List Effect → List ε) (effects : List Effect) (hnil : f [] = []) {k' : Fin 4}
    (h : Run.accepts step (view (e.sessions k')) (f effects) = some (view s')) (k : Fin 4) :
    Run.accepts step (view (e.sessions k)) (f (Log.slot k (effects.map (Prod.mk k')))) =
      some (view ((e.setSession k' s').sessions k)) := by
  by_cases hk : k = k'
  · subst hk
    rw [Log.slot_map_self,h,Engine.setSession_self]
  · rw [Log.slot_map_of_ne (Ne.symm hk),hnil,Engine.setSession_of_ne _ hk]
    rfl

theorem Log.slot_flatMap (k : Fin 4) (torn : Fin 4 → List Effect) :
    Log.slot k ((List.finRange 4).flatMap fun k' => (torn k').map (Prod.mk k')) = torn k := by
  have hslots : List.finRange 4 = [0,1,2,3] := rfl
  simp only [hslots,List.flatMap_cons,List.flatMap_nil,Log.slot_append]
  obtain rfl | rfl | rfl | rfl : k = 0 ∨ k = 1 ∨ k = 2 ∨ k = 3 := by omega
  all_goals simp [Log.slot,List.filterMap_map]

theorem runCalls_engineRun (b : BackendOps ω) (os : Os ω) (st : ω × Engine)
    (he : st.2.WellFormed) (calls : List Call) :
    EngineRun st.2 (Run.run (step b os) st calls).2 (Run.run (step b os) st calls).1.2 := by
  refine Run.run_trace (fun st : ω × Engine => st.2.WellFormed) Prod.snd step_wellFormed
    (fun st call he => ?_) st calls he
  obtain ⟨verdict,h, -⟩ := step_engineStep b os st.1 call he
  exact ⟨call.opcode,verdict,h⟩

theorem Reachable.wellFormed (h : Reachable b os e) : e.WellFormed := by
  obtain ⟨w,calls,rfl⟩ := h
  exact Run.run_invariant (fun st => st.2.WellFormed) step_wellFormed
    (w, Engine.create) calls Engine.wellFormed_create
end LinDeX.SessionEngine
