import Mathlib.Data.Fintype.Basic
import Mathlib.Data.Finset.Dedup
import LinDeX.Encode.Mock

/-!
# The bookkeeping of pending frames

What the ledger of a reachable state says of the tables: the counters count, pending surfaces and
promised buffers correspond to each other, and contexts with frames have a session.
-/
namespace LinDeX.Encode
open Vaapi Dmabuf Program Run Function List
variable {ω α : Type} {s t u : Machine ω} {L : Ledger} {i : Fin 4} {k : Fin 64} {b : Fin 256}
/-- The surfaces of a context that are `PENDING`. -/
def pendingSurfaces (rt : Runtime) (i : Fin 4) : Finset (Fin 64) :=
  Finset.univ.filter fun k => pendingFor rt i k = true

/-- The surface is `PENDING` with this coded buffer. -/
def PendingWith (rt : Runtime) (k : Fin 64) (b : Fin 256) : Prop :=
  (rt.surfaces k).Waits ∧ getBuffer rt (rt.surfaces k).codedBuffer = some b

/-- The coded buffer has this surface as its `pending_surface`. -/
def PromisedBy (rt : Runtime) (b : Fin 256) (k : Fin 64) : Prop :=
  (rt.buffers b).Awaits ∧ (rt.buffers b).type = .coded ∧
    getSurface rt (rt.buffers b).pendingSurface = some k

structure Bookkeeping (rt : Runtime) : Prop where
  count : ∀ i, (rt.contexts i).used = true →
    (rt.contexts i).pendingCount.toNat = (pendingSurfaces rt i).card
  bound : ∀ i, (rt.contexts i).used = true → (rt.contexts i).pendingCount ≤ 4
  opened : ∀ i, (rt.contexts i).used = true → (rt.contexts i).pendingCount ≠ 0 →
    (rt.contexts i).brokerOpen = true
  relation : ∀ k b, PendingWith rt k b ↔ PromisedBy rt b k
  surface : ∀ k, (rt.surfaces k).Waits → ∃! b, PendingWith rt k b
  buffer : ∀ b, (rt.buffers b).Awaits → ∃! k, PromisedBy rt b k

namespace Books
variable {rt : Runtime}
theorem card_pendingSurfaces (h : Books rt L) (i : Fin 4) :
    (pendingSurfaces rt i).card = (L.queue i).length := by
  have hnodup : (L.queue i).Nodup :=
    (h.fits i).sorted.imp fun hlt heq => absurd (heq ▸ hlt) (UInt64.lt_irrefl _)
  rw [← toFinset_card_of_nodup hnodup]
  choose slot b hslot using fun e (he : e ∈ (L.queue i).toFinset) =>
    h.enters i e (mem_toFinset.mp he)
  refine (Finset.card_bij slot (fun e he => ?_) (fun e he f hf heq => ?_) fun k hk => ?_).symm
  · exact Finset.mem_filter.mpr ⟨Finset.mem_univ _,
      h.pendingFor_iff.mpr ⟨e,mem_toFinset.mp he,b e he,hslot e he⟩⟩
  · exact ((hslot e he).eq_of_surface (heq ▸ hslot f hf)).2.1
  · obtain ⟨e,he,b',hkb⟩ := h.pendingFor_iff.mp (Finset.mem_filter.mp hk).2
    have he' := mem_toFinset.mpr he
    exact ⟨e,he',Option.some.inj ((hslot e he').surface.symm.trans hkb.surface)⟩

theorem pendingWith_iff (h : Books rt L) :
    PendingWith rt k b ↔ ∃ i, ∃ e ∈ L.queue i, Enters rt i e k b := by
  constructor
  · rintro ⟨hwaits,hcoded⟩
    obtain ⟨i,e,he,b',hkb⟩ := h.frame_of_surface hwaits
    rw [hkb.coded,hkb.buffer,Option.some.injEq] at hcoded
    exact ⟨i,e,he,hcoded ▸ hkb⟩
  · rintro ⟨i,e, -,hkb⟩
    exact ⟨hkb.waits,by rw [hkb.coded,hkb.buffer]⟩

theorem promisedBy_iff (h : Books rt L) :
    PromisedBy rt b k ↔ ∃ i, ∃ e ∈ L.queue i, Enters rt i e k b := by
  constructor
  · rintro ⟨hawaits, -,hpending⟩
    obtain ⟨i,e,he,k',hkb⟩ := h.frame_of_buffer hawaits
    rw [hkb.pending,hkb.surface,Option.some.injEq] at hpending
    exact ⟨i,e,he,hpending ▸ hkb⟩
  · rintro ⟨i,e, -,hkb⟩
    exact ⟨hkb.awaits,hkb.type,by rw [hkb.pending,hkb.surface]⟩

theorem bookkeeping (h : Books rt L) : Bookkeeping rt where
  count i _ := by rw [h.card_pendingSurfaces,(h.fits i).count]
  bound i _ := by
    rw [UInt32.le_iff_toNat_le,(h.fits i).count]
    exact (h.fits i).bound
  opened i _ hne := by
    refine ((h.fits i).live fun hempty => hne ?_).2
    have hcount := (h.fits i).count
    rw [hempty] at hcount
    exact UInt32.toNat_inj.mp hcount
  relation k b := by rw [h.pendingWith_iff,h.promisedBy_iff]
  surface k hk := by
    obtain ⟨i,e,he,b,hkb⟩ := h.frame_of_surface hk
    refine ⟨b,h.pendingWith_iff.mpr ⟨i,e,he,hkb⟩,fun b' hb' => ?_⟩
    obtain ⟨j,f, -,hkb'⟩ := h.pendingWith_iff.mp hb'
    exact (hkb'.eq_of_surface hkb).2.2
  buffer b hb := by
    obtain ⟨i,e,he,k,hkb⟩ := h.frame_of_buffer hb
    refine ⟨k,h.promisedBy_iff.mpr ⟨i,e,he,hkb⟩,fun k' hk' => ?_⟩
    obtain ⟨j,f, -,hkb'⟩ := h.promisedBy_iff.mp hk'
    exact (hkb'.eq_of_buffer hkb).2.2

theorem unpromised (h : Books rt L) {contextId : UInt32}
    (hunused : ∀ i, idIndex 4 typeContext contextId = some i → (rt.contexts i).used = false)
    (hused : (rt.buffers b).used = true) (howner : (rt.buffers b).ownerContext = contextId) :
    (rt.buffers b).pendingSurface = invalidId := by
  by_contra hne
  obtain ⟨i,e,he,k,hkb⟩ := h.frame_of_buffer ⟨hused,hne⟩
  have hid : idIndex 4 typeContext contextId = some i := by
    rw [← howner,hkb.context]
    exact hkb.owner
  have hlive := ((h.fits i).live (ne_nil_of_mem he)).1
  exact absurd ((hunused i hid).symm.trans hlive) Bool.false_ne_true
end Books

theorem Act.not_orphaned {M : Ledger} {events : List Event} (h : Act L events M) (k : Fin 64) :
    ∀ event ∈ events, event ≠ .orphaned k := by
  have hdeliveries (i : Fin 4) (parts : List Part) :
      ∀ event ∈ deliveries i parts, event ≠ .orphaned k := by
    intro event hevent
    obtain ⟨p, -,rfl⟩ := mem_map.mp hevent
    simp
  cases h <;> simp only [forall_mem_append,forall_mem_cons,not_mem_nil,false_implies,
    implies_true,and_true,ne_eq,reduceCtorEq,not_false_eq_true] <;>
    exact hdeliveries _ _

def bufferSlots : Frame (Machine ω) :=
  Frame.same fun s b => ((s.runtime.buffers b).used, (s.runtime.buffers b).ownerContext)

theorem bufferSlots_of_forall {s t : Machine ω}
    (h : ∀ b, (t.runtime.buffers b).used = (s.runtime.buffers b).used ∧
    (t.runtime.buffers b).ownerContext = (s.runtime.buffers b).ownerContext) :
    bufferSlots.rel s t := funext fun b => Prod.ext (h b).1 (h b).2

theorem keeps_slots_of_quiet {m : Prog ω α} (h : Keeps quiet m) : Keeps bufferSlots m :=
  h.mono fun s t hst => bufferSlots_of_forall fun b => by
    rw [(quiet_iff.mp hst).2.2.1]
    exact ⟨rfl,rfl⟩

theorem keeps_slots_of_silent {m : Prog ω α} (h : Keeps silent m) : Keeps bufferSlots m :=
  keeps_slots_of_quiet (keeps_quiet_of_silent h)
theorem log_slots (event : Event) : Keeps bufferSlots (log event : Prog ω Unit) := fun _ => rfl
theorem modifyContext_slots (i : Fin 4) (f : Context → Context) :
    Keeps bufferSlots (modifyContext i f : Prog ω Unit) := fun _ => rfl
theorem modifySurface_slots (k : Fin 64) (f : Surface → Surface) :
    Keeps bufferSlots (modifySurface k f : Prog ω Unit) := fun _ => rfl

theorem markContextPendingError_slots (i : Fin 4) :
    Keeps bufferSlots (markContextPendingError i : Prog ω Unit) := by
  refine .read_bind fun rt => .bind (.whenever (log_slots _)) fun _ => ?_
  refine .update fun s => bufferSlots_of_forall fun b => ⟨(failPending_used s.runtime i b).1,?_⟩
  simp only [failPending]
  split <;> rfl

section
variable (env : Env ω)
variable (i : Fin 4)
theorem appendOutput_slots (coded : CodedOutput) (part : ClientOutput) :
    Keeps bufferSlots (appendOutput env i coded part) := by
  refine .ite (.pure _) (.bind (keeps_slots_of_silent (mapPart_silent env _)) ?_)
  intro mapped
  split
  · exact .pure _
  refine .bind (log_slots _) fun _ => .read_bind fun c => ?_
  refine .bind (keeps_slots_of_silent (io_silent _)) fun reply => ?_
  split <;> exact .pure _

variable (timeoutMs : UInt32)
theorem receiveLoop_slots (deadline : UInt64) (rounds : Nat)
    (output : CodedOutput) :
    Keeps bufferSlots (receiveLoop env i timeoutMs deadline rounds output) := by
  induction rounds generalizing output with
  | zero => exact .pure _
  | succ rounds ih =>
    refine .read_bind fun c => ?_
    refine .bind (keeps_slots_of_silent (io_silent _)) fun dequeued => ?_
    split
    · exact .pure _
    refine .ite (.ite (.pure _) ?_) (.ite (.pure _) ?_)
    · refine .bind (keeps_slots_of_silent (waitRetry_silent env _)) fun waited => ?_
      split
      · exact .pure _
      · exact ih _
    · refine .bind (appendOutput_slots env i _ _) fun appended => ?_
      refine .bind (keeps_slots_of_silent (outputClose_silent env _)) fun _ => ?_
      split
      · exact .pure _
      · exact .ite (.pure _) (ih _)

theorem brokerReceive_slots :
    Keeps bufferSlots (brokerReceive env i timeoutMs) := by
  refine .read_bind fun c => .ite (.pure _) ?_
  refine .bind (keeps_slots_of_silent (nowMs_silent env)) fun now => ?_
  split
  · exact .pure _
  · exact .ite (.pure _) (receiveLoop_slots env i _ _ _ _)

theorem failRound_slots (status : VaStatus) :
    Keeps bufferSlots (failRound i status : Prog ω _) :=
  Keeps.bind (markContextPendingError_slots i) fun _ => .pure _

theorem endRound_slots (e : Errno) : Keeps bufferSlots (endRound i e : Prog ω _) :=
  Keeps.ite (.bind (log_slots _) fun _ => .pure _) (failRound_slots i _)

theorem settle_slots (k : Fin 64) (b : Fin 256) (output : CodedOutput) :
    Keeps bufferSlots (modifyRuntime fun rt => settle rt i k b output : Prog ω Unit) := by
  refine .update fun s => bufferSlots_of_forall fun b' => ?_
  by_cases hb : b' = b
  · rw [hb,settle_buffer_self]
    exact ⟨rfl,rfl⟩
  · rw [settle_buffer_of_ne _ _ _ hb]
    exact ⟨rfl,rfl⟩

theorem closeFrameSession_slots : Keeps bufferSlots (closeFrameSession env i) := by
  refine .read_bind fun c => .whenever ?_
  refine .bind (keeps_slots_of_silent (brokerClose_silent env _)) fun _ => ?_
  exact .bind (modifyContext_slots i _) fun _ => fun _ => rfl

theorem syncRound_slots :
    Keeps bufferSlots (syncRound env i timeoutMs) := by
  refine .bind (brokerReceive_slots env i timeoutMs) fun received => ?_
  split
  · exact endRound_slots i _
  refine .bind (.whenever (modifyContext_slots i _)) fun _ => ?_
  refine .ite (failRound_slots i _) (.read_bind fun rt => ?_)
  split
  · exact failRound_slots i _
  split
  · exact failRound_slots i _
  refine .ite (failRound_slots i _) ?_
  refine .bind (keeps_slots_of_quiet (linkWait_quiet env _ _)) fun waited => ?_
  split
  · exact endRound_slots i _
  refine .ite (failRound_slots i _) (.bind (log_slots _) fun _ => ?_)
  refine .bind (settle_slots i _ _ _) fun _ => ?_
  exact .bind (closeFrameSession_slots env i) fun _ => .pure _

theorem syncLoop_slots (k : Fin 64) (timeoutMs : UInt32) (rounds : Nat) :
    Keeps bufferSlots (syncLoop env i k timeoutMs rounds) := by
  induction rounds with
  | zero => exact .pure _
  | succ rounds ih =>
    refine .read_bind fun v => .ite ?_ (.pure _)
    refine .bind (syncRound_slots env i timeoutMs) fun r => ?_
    split
    · exact .pure _
    · exact ih

theorem syncSurfaceLocked_slots (k : Fin 64) (timeoutMs : UInt32) :
    Keeps bufferSlots (syncSurfaceLocked env k timeoutMs) := by
  refine .read_bind fun rt => ?_
  split
  · exact .pure _
  · exact .pure _
  · exact .pure _
  split
  · refine .bind (log_slots _) fun _ => ?_
    exact .bind (modifySurface_slots k _) fun _ => .pure _
  · exact syncLoop_slots env _ k timeoutMs _

theorem contextEosDrainOnce_slots :
    Keeps bufferSlots (contextEosDrainOnce env i timeoutMs) := by
  refine .read_bind fun rt => .ite ?_ ?_
  · split
    · exact .pure _
    refine .bind (syncSurfaceLocked_slots env _ _) fun status => .ite (.pure _) ?_
    exact .read_bind fun c => .ite (.pure _) (.pure _)
  · refine .bind (brokerReceive_slots env i timeoutMs) fun received => ?_
    split
    · exact .pure _
    refine .ite (.pure _) ?_
    exact .bind (modifyContext_slots i _) fun _ => .pure _

theorem failOnce_slots (e : Errno) : Keeps bufferSlots (failOnce i e : Prog ω _) := by
  refine .read_bind fun c => .ite (.pure _) ?_
  refine .bind (modifyContext_slots i _) fun _ => ?_
  exact .bind (markContextPendingError_slots i) fun _ => .pure _

theorem eosLoop_slots (deadline : UInt64) (rounds : Nat) :
    Keeps bufferSlots (eosLoop env i deadline rounds) := by
  induction rounds with
  | zero => exact failOnce_slots i _
  | succ rounds ih =>
    refine .read_bind fun c => .ite (.pure _) ?_
    refine .bind (keeps_slots_of_silent (nowMs_silent env)) fun now => ?_
    split
    · exact failOnce_slots i _
    refine .ite (failOnce_slots i _) ?_
    refine .bind (contextEosDrainOnce_slots env i _) fun drained => ?_
    split
    · exact failOnce_slots i _
    · exact .bind (.whenever (modifyContext_slots i _)) fun _ => ih

theorem eosFinish_slots (ptsNs : UInt64) (timeoutMs : UInt32) :
    Keeps bufferSlots (eosFinish env i ptsNs timeoutMs) := by
  refine .read_bind fun c => .ite (.pure _) (.ite (.pure _) ?_)
  refine .bind ?_ fun signalled => ?_
  · refine .read_bind fun c => .ite (.pure _) ?_
    refine .bind (modifyContext_slots i _) fun _ => ?_
    refine .bind (keeps_slots_of_silent (brokerSignalEos_silent env _ _)) fun r => ?_
    split
    · exact .pure _
    · exact .bind (modifyContext_slots i _) fun _ => .pure _
  split
  · exact failOnce_slots i _
  refine .bind (keeps_slots_of_silent (nowMs_silent env)) fun now => ?_
  split
  · exact failOnce_slots i _
  · exact .ite (failOnce_slots i _) (eosLoop_slots env i _ _)

theorem drainLoop_slots (deadline : UInt64) (rounds : Nat) :
    Keeps bufferSlots (drainLoop env i deadline rounds) := by
  have hgive (status : VaStatus) : Keeps bufferSlots (do
      markContextPendingError i
      return status : Prog ω VaStatus) :=
    Keeps.bind (markContextPendingError_slots i) fun _ => .pure _
  induction rounds with
  | zero => exact hgive _
  | succ rounds ih =>
    refine .read_bind fun rt => .ite (.pure _) ?_
    refine .bind (keeps_slots_of_silent (nowMs_silent env)) fun now => ?_
    split
    · exact hgive _
    · exact hgive _
    · exact .bind (syncSurfaceLocked_slots env _ _) fun st => .ite (hgive _) ih

theorem finishContextLocked_slots :
    Keeps bufferSlots (finishContextLocked env i) := by
  have hgive (status : VaStatus) : Keeps bufferSlots (do
      markContextPendingError i
      return status : Prog ω VaStatus) :=
    Keeps.bind (markContextPendingError_slots i) fun _ => .pure _
  refine .read_bind fun c => .ite (.pure _) (.ite ?_ ?_)
  · refine .bind (keeps_slots_of_silent (nowMs_silent env)) fun now => ?_
    split
    · exact hgive _
    · exact .ite (hgive _) (drainLoop_slots env i _ _)
  · refine .bind (eosFinish_slots env i _ _) fun r => ?_
    split <;> exact .pure _

theorem closeContextLocked_slots : Keeps bufferSlots (closeContextLocked env i) := by
  refine .bind (.forM fun k => ?_) fun _ => .read_bind fun c => ?_
  · refine .read_bind fun rt => .whenever ?_
    refine .bind (.whenever ?_) fun _ => modifySurface_slots k _
    refine .bind (keeps_slots_of_quiet (linkUnregister_quiet env i k _)) fun r => ?_
    exact .whenever (modifySurface_slots k _)
  · refine .bind (.whenever (keeps_slots_of_silent (brokerClose_silent env _))) fun _ => ?_
    exact .bind (modifyContext_slots i _) fun _ => log_slots _

theorem destroyContext_slots (contextId : UInt32) :
    Keeps bufferSlots (destroyContext env contextId) := by
  refine .read_bind fun rt => ?_
  split
  · exact .pure _
  refine .bind (finishContextLocked_slots env _) fun status => ?_
  exact .bind (closeContextLocked_slots env _) fun _ => .pure _

theorem destroyBuffer_of_unpromised {id : UInt32} (hb : getBuffer s.runtime id = some b)
    (hfree : (s.runtime.buffers b).pendingSurface = invalidId) :
    (destroyBuffer id (step env s (.unmapBuffer id))).1 = .success := by
  have hunmapped : Ends (unmapBuffer id) (fun _ t => getBuffer t.runtime id = some b ∧
      (t.runtime.buffers b).mapped = false ∧ (t.runtime.buffers b).pendingSurface = invalidId)
      s := by
    refine .read_bind ?_
    rw [hb]
    dsimp only
    split
    · rename_i hnot
      exact .pure ⟨hb,by simpa using hnot,hfree⟩
    · refine .bind (.update (.pure ⟨?_,?_,?_⟩))
      · rw [← hb]
        refine congrFun (getBuffer_congr fun b' => ?_) id
        by_cases hbb : b' = b
        · simp only [hbb,Runtime.setBuffer,update_self]
        · simp only [Runtime.setBuffer,update_of_ne hbb]
      · simp only [Runtime.setBuffer,update_self]
      · simpa only [Runtime.setBuffer,update_self] using hfree
  obtain ⟨hfound,hmapped,hpending⟩ := hunmapped
  have hdestroyed : Ends (destroyBuffer id) (fun status _ => status = .success)
      (step env s (.unmapBuffer id)) := by
    refine .read_bind ?_
    rw [show getBuffer (step env s (.unmapBuffer id)).runtime id = some b from hfound]
    dsimp only
    rw [if_neg ?_]
    · exact .bind (.update (.pure rfl))
    · rintro (hno | hno)
      · exact absurd (hmapped.symm.trans hno) Bool.false_ne_true
      · exact hno hpending
  exact hdestroyed

/-- The bookkeeping of every reachable state: the counters, the correspondence of surfaces and
buffers, and the sessions. The branch for a pending surface without a session is never taken. Once
a context is destroyed no buffer is promised a frame of it, so that every buffer can be
destroyed. -/
theorem pending_bookkeeping (h : Reachable env s) :
    Bookkeeping s.runtime ∧ (∀ k, .orphaned k ∉ s.events) ∧
    (∀ contextId b, ((step env s (.destroyContext contextId)).runtime.buffers b).used = true →
      ((step env s (.destroyContext contextId)).runtime.buffers b).ownerContext = contextId →
      ((step env s (.destroyContext contextId)).runtime.buffers b).pendingSurface = invalidId) ∧
    ∀ id b, getBuffer s.runtime id = some b → (destroyBuffer id (step env (step env s
        (.destroyContext (s.runtime.buffers b).ownerContext)) (.unmapBuffer id))).1 = .success := by
  obtain ⟨L,hL,htrace⟩ := h.stands
  have hdestroyed (contextId : UInt32) := destroyContext_goes env contextId hL.1 hL.2
  refine ⟨hL.1.bookkeeping,fun k hk => ?_,fun contextId b hused howner => ?_,fun id b hb => ?_⟩
  · exact htrace.forall_mem (fun _ => True) (· ≠ .orphaned k) (fun _ _ _ _ _ => trivial)
      (fun _ _ _ hact _ => hact.not_orphaned k) trivial _ hk rfl
  · obtain ⟨⟨M,hM⟩, -,hclosed⟩ := hdestroyed contextId
    exact Books.unpromised hM.1 hclosed hused howner
  · obtain ⟨⟨M,hM⟩, -,hclosed⟩ := hdestroyed (s.runtime.buffers b).ownerContext
    have hslots := congrFun (destroyContext_slots env (s.runtime.buffers b).ownerContext s) b
    obtain ⟨hstill,howner⟩ := Prod.mk.inj hslots
    obtain ⟨hid,hused⟩ := getBuffer_eq_some.mp hb
    refine destroyBuffer_of_unpromised env
      (getBuffer_eq_some.mpr ⟨hid,hstill.trans hused⟩) ?_
    exact Books.unpromised hM.1 hclosed (hstill.trans hused) howner
end

def onePending : Machine MockWorld :=
  mockRun (fun _ => ⟨[none],true⟩) (mockSetup 1 ++ mockPicture 1 0)

theorem onePending_bookkeeping : (onePending.runtime.contexts 0).pendingCount = 1 ∧
    (onePending.runtime.buffers 0).pendingSurface = mockSurface 0 ∧ Bookkeeping onePending.runtime ∧
    (destroyBuffer (mockCoded 0) onePending).1 ≠ .success ∧
    (destroyBuffer (mockCoded 0) (step (mockEnv fun _ => ⟨[none],true⟩)
      (step (mockEnv fun _ => ⟨[none],true⟩) onePending
        (.destroyContext (onePending.runtime.buffers 0).ownerContext))
        (.unmapBuffer (mockCoded 0)))).1 = .success := by
  have h := pending_bookkeeping (s := onePending) _ (mockRun_reachable _ _)
  exact ⟨by decide +kernel,by decide +kernel,h.1,by decide +kernel,
    h.2.2.2 (mockCoded 0) 0 (by decide +kernel)⟩
end LinDeX.Encode
