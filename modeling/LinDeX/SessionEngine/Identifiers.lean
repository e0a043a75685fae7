import LinDeX.SessionEngine.Invariant

/-!
# Identifiers

Session identifiers come from a 32-bit counter that wraps and skips what is taken; output
identifiers come from a 64-bit counter. Both stay distinct in every state the engine can reach.
-/
namespace LinDeX.SessionEngine
open Dmabuf Function
variable {ω : Type} {b : BackendOps ω} {os : Os ω} {e e' : Engine} {s s' : SessionSlot}
  {next next' : UInt64} {status : Status} {effects : List Effect} {log : Log}
  {verdict : Option Status} {op : Option Opcode}

structure SessionIds (e : Engine) : Prop where
  neZero : ∀ k, (e.sessions k).inUse = true → (e.sessions k).id ≠ 0
  inj : ∀ k k', (e.sessions k).inUse = true → (e.sessions k').inUse = true →
    (e.sessions k).id = (e.sessions k').id → k = k'

theorem allocateSessionId_free (e : Engine) : (allocateSessionId e).1 ≠ 0 ∧
    ∀ k, (e.sessions k).inUse = true → (e.sessions k).id ≠ (allocateSessionId e).1 := by
  have hfree : sessionIdTaken e (allocateSessionId e).1 = false :=
    Allocator.scan_free (Option.some_get (allocateSessionId_returns e)).symm
  simp only [sessionIdTaken,Bool.or_eq_false_iff,beq_eq_false_iff_ne,ne_eq,
    Option.isSome_eq_false_iff,Option.isNone_iff_eq_none] at hfree
  refine ⟨hfree.1,fun k huse => ?_⟩
  simpa [huse] using Slots.find_none hfree.2 k
variable {k : Fin 4}
theorem SessionIds.openSession (h : SessionIds e) : SessionIds (e.openSession k s) := by
  obtain ⟨hne,hother⟩ := allocateSessionId_free (e.setSession k s)
  rw [Engine.openSession_eq]
  generalize (allocateSessionId (e.setSession k s)).1 = id at hne hother
  have hold : ∀ k', k' ≠ k → (e.sessions k').inUse = true → (e.sessions k').id ≠ id := by
    intro k' hk' huse
    simpa [Engine.setSession,hk',huse] using hother k'
  refine ⟨fun i hi => ?_,fun i i' hi hi' heq => ?_⟩
  · by_cases hik : i = k
    · subst hik
      simpa [Engine.setSession] using hne
    · simp only [Engine.setSession,update_of_ne hik] at hi ⊢
      exact h.neZero i hi
  · by_cases hik : i = k <;> by_cases hik' : i' = k
    · rw [hik,hik']
    · subst hik
      simp only [Engine.setSession,update_self,update_of_ne hik'] at hi' heq
      exact absurd heq.symm (hold i' hik' hi')
    · subst hik'
      simp only [Engine.setSession,update_self,update_of_ne hik] at hi heq
      exact absurd heq (hold i hik hi)
    · simp only [Engine.setSession,update_of_ne hik,update_of_ne hik'] at hi hi' heq
      exact h.inj i i' hi hi' heq

theorem SessionIds.setSession (h : SessionIds e)
    (hs : s = SessionSlot.zero ∨ (s.inUse = (e.sessions k).inUse ∧ s.id = (e.sessions k).id)) :
    SessionIds (e.setSession k s) := by
  have hsame : ∀ i, ((e.setSession k s).sessions i).inUse = true →
      (e.sessions i).inUse = true ∧ ((e.setSession k s).sessions i).id = (e.sessions i).id := by
    intro i hi
    by_cases hik : i = k
    · subst hik
      simp only [Engine.setSession,update_self] at hi ⊢
      obtain rfl | ⟨huse,hid⟩ := hs
      · simp [SessionSlot.zero] at hi
      · exact ⟨huse ▸ hi,hid⟩
    · simp only [Engine.setSession,update_of_ne hik] at hi ⊢
      exact ⟨hi,trivial⟩
  refine ⟨fun i hi => ?_,fun i i' hi hi' heq => ?_⟩
  · rw [(hsame i hi).2]
    exact h.neZero i (hsame i hi).1
  · rw [(hsame i hi).2,(hsame i' hi').2] at heq
    exact h.inj i i' (hsame i hi).1 (hsame i' hi').1 heq

theorem EngineStep.sessionIds (h : EngineStep e op verdict log e') (hids : SessionIds e) :
    SessionIds e' := by
  cases h with
  | refused | idle => exact hids
  | created => exact hids.openSession
  | handled _ _ _ h =>
    have hset := hids.setSession (h.identity.imp id fun h => ⟨h.1,h.2.1⟩)
    exact ⟨hset.neZero,hset.inj⟩
  | called _ _ h => exact hids.setSession (.inr ⟨h.identity.1,h.identity.2.1⟩)

/-- While `handle_create` allocates, the new slot is in use with identifier zero, so at most four
values are taken. -/
theorem card_takenSessionIds_placed (hs : s.id = 0) :
    (takenSessionIds (e.setSession k s)).card ≤ maxSessions := by
  have hmem : (0 : UInt32) ∈
      Finset.univ.image fun i => ((e.setSession k s).sessions i).id :=
    Finset.mem_image.mpr ⟨k,Finset.mem_univ k,by simp [Engine.setSession,hs]⟩
  rw [takenSessionIds,Finset.insert_eq_of_mem hmem]
  exact Finset.card_image_le.trans (by simp [maxSessions])

theorem allocateSessionId_within (hs : s.id = 0) :
    allocateSessionIdWithin (e.setSession k s) (maxSessions + 1) =
      some (allocateSessionId (e.setSession k s)) := by
  obtain ⟨r,hr⟩ := Option.isSome_iff_exists.mp (allocateSessionIdWithin_isSome
    (e.setSession k s) (by decide) (Nat.lt_succ_of_le (card_takenSessionIds_placed hs)))
  have hmore := Allocator.scan_mono (Nat.le_succ (maxSessions + 1)) hr
  rw [hr,allocateSessionId,Option.some_inj]
  exact (Option.get_of_eq_some _ hmore).symm

/-- Outstanding outputs are numbered below the counter, without repetition; `n` dequeues were
requested so far. -/
structure OutputIds (n : Nat) (e : Engine) : Prop where
  counterPos : 0 < e.nextOutputId.toNat
  counterLe : e.nextOutputId.toNat ≤ n + 1
  pos : ∀ k j, ((e.sessions k).outputs j).inUse = true →
    0 < ((e.sessions k).outputs j).id.toNat
  below : ∀ k j, ((e.sessions k).outputs j).inUse = true →
    ((e.sessions k).outputs j).id.toNat < e.nextOutputId.toNat
  inj : ∀ k j k' j', ((e.sessions k).outputs j).inUse = true →
    ((e.sessions k').outputs j').inUse = true →
    ((e.sessions k).outputs j).id = ((e.sessions k').outputs j').id → k = k' ∧ j = j'

def OutputsKept (s s' : SessionSlot) : Prop :=
  ∀ j, (s'.outputs j).inUse = true →
    (s.outputs j).inUse = true ∧ (s'.outputs j).id = (s.outputs j).id

theorem OutputsKept.refl (h : s'.outputs = s.outputs) : OutputsKept s s' := by
  intro j hj
  rw [h] at hj ⊢
  exact ⟨hj,rfl⟩

theorem OutputsKept.setOutput {j : Fin 8} {o : OutputSlot}
    (h : o.inUse = true → (s.outputs j).inUse = true ∧ o.id = (s.outputs j).id) :
    OutputsKept s (s.setOutput j o) := by
  intro j' hj'
  by_cases hj : j' = j
  · subst hj
    simp only [SessionSlot.setOutput,update_self] at hj' ⊢
    exact h hj'
  · simp only [SessionSlot.setOutput,update_of_ne hj] at hj' ⊢
    exact ⟨hj',trivial⟩

theorem OutputsKept.zero (h : ∀ j, s'.outputs j = OutputSlot.zero) : OutputsKept s s' := by
  intro j hj
  rw [h j] at hj
  cases hj

theorem HandleStep.outputs (h : HandleStep s next op status effects s' next') :
    (next' = next ∧ OutputsKept s s') ∨
    ∃ j o, s' = s.setOutput j o ∧ next' = (allocateOutputId next).2 ∧
    o.id = (allocateOutputId next).1 := by
  cases h with
  | dequeuedBytes j | dequeuedAhb j => exact .inr ⟨j,_,rfl,rfl,rfl⟩
  | releasedBytes j | releasedAhb j =>
    exact .inl ⟨rfl,.setOutput fun hf => absurd hf (by decide)⟩
  | primeSent =>
    exact .inl ⟨rfl,.setOutput fun huse => ⟨huse,rfl⟩⟩
  | completedAhb _ _ htaken =>
    subst htaken
    exact .inl ⟨rfl,.refl (by split <;> rfl)⟩
  | flushed | closed => exact .inl ⟨rfl,.zero fun _ => rfl⟩
  | _ => exact .inl ⟨rfl,.refl rfl⟩

theorem AfterStep.outputs (h : AfterStep s op effects s') : OutputsKept s s' := by
  cases h with
  | nativeSent => exact .setOutput fun huse => ⟨huse,rfl⟩
  | _ => exact .refl rfl

theorem OutputIds.mono {n m : Nat} (h : OutputIds n e) (hle : n ≤ m) : OutputIds m e :=
  { h with counterLe := h.counterLe.trans (by omega) }
variable {n : Nat}
theorem OutputIds.setSession (h : OutputIds n e)
    (hkept : OutputsKept (e.sessions k) s) (hsessions : e'.sessions = (e.setSession k s).sessions)
    (hnext : e'.nextOutputId = e.nextOutputId) : OutputIds n e' := by
  have hold : ∀ i j, ((e'.sessions i).outputs j).inUse = true →
      ((e.sessions i).outputs j).inUse = true ∧
        ((e'.sessions i).outputs j).id = ((e.sessions i).outputs j).id := by
    intro i j hj
    rw [hsessions] at hj ⊢
    by_cases hik : i = k
    · subst hik
      simp only [Engine.setSession,update_self] at hj ⊢
      exact hkept j hj
    · simp only [Engine.setSession,update_of_ne hik] at hj ⊢
      exact ⟨hj,trivial⟩
  refine ⟨hnext ▸ h.counterPos,hnext ▸ h.counterLe,fun i j hj => ?_,fun i j hj => ?_,
    fun i j i' j' hj hj' heq => ?_⟩
  · rw [(hold i j hj).2]
    exact h.pos i j (hold i j hj).1
  · rw [(hold i j hj).2,hnext]
    exact h.below i j (hold i j hj).1
  · rw [(hold i j hj).2,(hold i' j' hj').2] at heq
    exact h.inj i j i' j' (hold i j hj).1 (hold i' j' hj').1 heq

theorem OutputIds.take (h : OutputIds n e) (hn : n + 1 < 2 ^ 64 - 1)
    {j : Fin 8} {o : OutputSlot} (hid : o.id = (allocateOutputId e.nextOutputId).1) :
    OutputIds (n + 1) { e.setSession k ((e.sessions k).setOutput j o) with
      nextOutputId := (allocateOutputId e.nextOutputId).2 } := by
  have hle := h.counterLe
  have hpos := h.counterPos
  have hne : (e.nextOutputId == 0) = false := by
    rw [beq_eq_false_iff_ne]
    rintro hzero
    rw [hzero] at hpos
    exact absurd hpos (by decide)
  have hsucc : (e.nextOutputId + 1).toNat = e.nextOutputId.toNat + 1 := by
    rw [UInt64.toNat_add,UInt64.toNat_one,Nat.mod_eq_of_lt (by omega)]
  simp only [allocateOutputId,hne,Bool.false_eq_true,if_false] at hid ⊢
  -- an output of the new state is the new one, or was there before
  have hcases : ∀ i j', ((update e.sessions k ((e.sessions k).setOutput j o) i).outputs
      j').inUse = true → (i = k ∧ j' = j ∧
        ((update e.sessions k ((e.sessions k).setOutput j o) i).outputs j').id =
          e.nextOutputId) ∨
      (((e.sessions i).outputs j').inUse = true ∧
        ((update e.sessions k ((e.sessions k).setOutput j o) i).outputs j').id =
          ((e.sessions i).outputs j').id) := by
    intro i j' hj'
    by_cases hik : i = k
    · subst hik
      by_cases hjj : j' = j
      · subst hjj
        exact .inl ⟨rfl,rfl,by simpa [SessionSlot.setOutput] using hid⟩
      · simp only [update_self,SessionSlot.setOutput,update_of_ne hjj] at hj' ⊢
        exact .inr ⟨hj',trivial⟩
    · simp only [update_of_ne hik] at hj' ⊢
      exact .inr ⟨hj',trivial⟩
  refine ⟨by rw [hsucc]; omega,by rw [hsucc]; omega,fun i j' hj' => ?_,fun i j' hj' => ?_,
    fun i j1 i' j2 h1 h2 heq => ?_⟩
  · obtain ⟨-, -,hnew⟩ | ⟨hold,hsame⟩ := hcases i j' hj'
    · exact hnew ▸ hpos
    · exact hsame ▸ h.pos i j' hold
  · rw [hsucc]
    obtain ⟨-, -,hnew⟩ | ⟨hold,hsame⟩ := hcases i j' hj'
    · exact hnew ▸ Nat.lt_succ_self _
    · exact hsame ▸ Nat.lt_succ_of_lt (h.below i j' hold)
  · obtain ⟨rfl,rfl,hnew⟩ | ⟨hold,hsame⟩ := hcases i j1 h1 <;>
      obtain ⟨rfl,rfl,hnew'⟩ | ⟨hold',hsame'⟩ := hcases i' j2 h2
    · exact ⟨rfl,rfl⟩
    · have hlt := h.below i' j2 hold'
      rw [hsame'.symm.trans (heq.symm.trans hnew)] at hlt
      exact absurd hlt (Nat.lt_irrefl _)
    · have hlt := h.below i j1 hold
      rw [hsame.symm.trans (heq.trans hnew')] at hlt
      exact absurd hlt (Nat.lt_irrefl _)
    · exact h.inj i j1 i' j2 hold hold' (hsame.symm.trans (heq.trans hsame'))

theorem outputIds_create : OutputIds 0 Engine.create := by
  have hnone : ∀ k j, ((Engine.create.sessions k).outputs j).inUse ≠ true := by
    intro k j
    simp [Engine.create,SessionSlot.zero,OutputSlot.zero]
  exact ⟨by decide,by decide,fun k j hj => absurd hj (hnone k j),
    fun k j hj => absurd hj (hnone k j),fun k j _ _ hj => absurd hj (hnone k j)⟩

def Call.dequeues : Call → Nat
  | .handle req _ => if Opcode.ofCode req.header.opcode = some .dequeueOutput then 1 else 0
  | .afterReply .. => 0

/-- The number of `DEQUEUE_OUTPUT` requests among the calls. -/
def dequeueCount (calls : List Call) : Nat := (calls.map Call.dequeues).sum

theorem handleCreate_next {w : ω} {req reply : Message} :
    (handleCreate b os w e req reply).engine.nextOutputId = e.nextOutputId := by
  unfold handleCreate
  split
  · rfl
  split
  · rfl
  dsimp only
  split
  · rfl
  split
  · rfl
  split
  · rfl
  · rw [Engine.openSession_eq]
    rfl

theorem step_next (b : BackendOps ω) (os : Os ω) (st : ω × Engine) (call : Call)
    (h : call.dequeues = 0) :
    (step b os st call).1.2.nextOutputId = st.2.nextOutputId := by
  cases call with
  | afterReply =>
    simp only [step,sessionEngineAfterReply]
    split
    · rfl
    split <;> rfl
  | handle req reply =>
    have hop : Opcode.ofCode req.header.opcode ≠ some .dequeueOutput := by
      intro hop
      simp [Call.dequeues,hop] at h
    simp only [step,sessionEngineHandle]
    iterate 3
      split
      · rfl
    split
    · exact handleCreate_next
    split
    · rfl
    split
    · rfl
    · exact dispatch_next hop

theorem allocateOutputId_ne (next : UInt64) : (allocateOutputId next).2 ≠ next := by
  unfold allocateOutputId
  split
  · rename_i hzero
    rw [beq_iff_eq.mp hzero]
    decide
  · intro heq
    have hone := UInt64.add_right_inj next |>.mp (heq.trans (UInt64.add_zero next).symm)
    exact absurd hone (by decide)

theorem step_outputIds (n : Nat) (st : ω × Engine) (call : Call) (he : st.2.WellFormed)
    (hn : n + call.dequeues < 2 ^ 64 - 1) (h : OutputIds n st.2) :
    OutputIds (n + call.dequeues) (step b os st call).1.2 := by
  obtain ⟨verdict,hstep, -⟩ := step_engineStep b os st.1 call he
  have hnext := step_next b os st call
  rw [Prod.mk.eta] at hstep
  generalize (step b os st call).1.2 = e', (step b os st call).2 = log at hstep hnext
  generalize call.opcode = op at hstep
  have hle : n ≤ n + call.dequeues := Nat.le_add_right _ _
  cases hstep with
  | refused | idle => exact h.mono hle
  | created k _ _ _ _ _ _ hs =>
    rw [Engine.openSession_eq]
    refine (h.mono hle).setSession (k := k) (.zero fun _ => ?_) rfl rfl
    rw [hs]
    rfl
  | called _ _ hafter => exact (h.mono hle).setSession hafter.outputs rfl rfl
  | handled _ _ _ hhandle =>
    obtain ⟨rfl,hkept⟩ | ⟨j,o,rfl,rfl,hid⟩ := hhandle.outputs
    · exact (h.mono hle).setSession hkept rfl rfl
    · have hone : call.dequeues = 1 := by
        cases call with
        | afterReply => exact absurd (hnext rfl) (allocateOutputId_ne _)
        | handle req reply =>
          by_contra hne
          refine absurd (hnext ?_) (allocateOutputId_ne _)
          simp only [Call.dequeues] at hne ⊢
          split <;> simp_all
      rw [hone] at hn ⊢
      exact h.take hn hid

/-- Identifier soundness in every state a run reaches: sessions are told apart by identifiers that
are not zero, even after the session counter has wrapped; allocating one takes at most
`ADVC_MAX_SESSIONS + 1` rounds; and as long as fewer than `2 ^ 64 - 1` dequeues were requested,
outstanding outputs are told apart across all sessions. -/
theorem runCalls_identifiers_sound (b : BackendOps ω) (os : Os ω) (w : ω) (calls : List Call) :
    let e := (runCalls b os w calls).1.2
    (∀ k, (e.sessions k).inUse = true → (e.sessions k).id ≠ 0) ∧
      (∀ k k', (e.sessions k).inUse = true → (e.sessions k').inUse = true →
        (e.sessions k).id = (e.sessions k').id → k = k') ∧
      (∀ k handle c size dmabufs, (e.sessions k).inUse = false →
        let placed := e.setSession k (SessionSlot.fresh handle c size dmabufs)
        allocateSessionIdWithin placed (maxSessions + 1) = some (allocateSessionId placed)) ∧
      (dequeueCount calls < 2 ^ 64 - 1 →
        (∀ k j, ((e.sessions k).outputs j).inUse = true → ((e.sessions k).outputs j).id ≠ 0) ∧
          ∀ k j k' j', ((e.sessions k).outputs j).inUse = true →
            ((e.sessions k').outputs j').inUse = true →
            ((e.sessions k).outputs j).id = ((e.sessions k').outputs j').id →
            k = k' ∧ j = j') ∧
      (Finset.univ.filter fun k => (e.sessions k).inUse = true).card ≤ maxSessions ∧
      ∀ k, (Finset.univ.filter fun j => ((e.sessions k).outputs j).inUse = true).card ≤
        maxOutstandingOutputs := by
  intro e
  have hids : SessionIds e := by
    refine (Run.run_invariant (fun st => st.2.WellFormed ∧ SessionIds st.2) ?_ (w, Engine.create)
      calls ⟨Engine.wellFormed_create,?_⟩).2
    · intro st call hst
      obtain ⟨verdict,hstep, -⟩ := step_engineStep b os st.1 call hst.1
      exact ⟨hstep.wellFormed hst.1,hstep.sessionIds hst.2⟩
    · exact ⟨fun _ hf => absurd hf (by simp [Engine.create,SessionSlot.zero]),
        fun _ _ hf => absurd hf (by simp [Engine.create,SessionSlot.zero])⟩
  have houtputs : dequeueCount calls < 2 ^ 64 - 1 → OutputIds (dequeueCount calls) e := by
    have hrun := @Run.run_invariant_cost _ _ _ (step b os)
      (fun n st => st.2.WellFormed ∧ (n < 2 ^ 64 - 1 → OutputIds n st.2)) Call.dequeues
      (fun n st call hst => ⟨step_wellFormed st call hst.1,fun hn =>
        step_outputIds n st call hst.1 hn (hst.2 (by omega))⟩)
      0 (w, Engine.create) calls ⟨Engine.wellFormed_create,fun _ => outputIds_create⟩
    rw [Nat.zero_add] at hrun
    exact hrun.2
  refine ⟨hids.neZero,hids.inj,fun k handle c size dmabufs _ => allocateSessionId_within rfl,
    fun hcount => ⟨fun k j hj hzero => ?_,(houtputs hcount).inj⟩,
    (Finset.card_filter_le _ _).trans (by simp [maxSessions]),
    fun k => (Finset.card_filter_le _ _).trans (by simp [maxOutstandingOutputs])⟩
  have hpos := (houtputs hcount).pos k j hj
  rw [hzero] at hpos
  exact absurd hpos (by decide)
end LinDeX.SessionEngine
