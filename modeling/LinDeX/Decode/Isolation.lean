import LinDeX.Decode.Buffers
import LinDeX.SessionEngine.Invariant

/-!
# End of stream and the surfaces of other contexts

When the end-of-stream machine of a context completes, every surface that waits for the context's
session becomes an error. But a session id is unique only within one connection: the first session
of a fresh engine is always 1.
-/
namespace LinDeX.Decode
open Vaapi Dmabuf Program
variable {ω : Type} {s t : Machine ω}
/-- An id that a successful `CREATE_SESSION` on a fresh engine returns. -/
def FirstSessionId (id : UInt32) : Prop :=
  ∃ (τ : Type) (b : SessionEngine.BackendOps τ) (os : Os τ) (w : τ) (req reply : Message),
    (SessionEngine.handleCreate b os w SessionEngine.Engine.create req reply).status = .ok ∧
      (SessionEngine.handleCreate b os w SessionEngine.Engine.create req reply).reply.header.sessionId
        = id

theorem openSession_create_id (k : Fin 4) (v : SessionEngine.SessionSlot) (hv : v.id = 0) :
    ((SessionEngine.Engine.create.openSession k v).sessions k).id = 1 := by
  have hfree : SessionEngine.sessionIdTaken (SessionEngine.Engine.create.setSession k v) 1 =
      false := by
    simp only [SessionEngine.sessionIdTaken,Bool.or_eq_false_iff,Option.isSome_eq_false_iff,
      Option.isNone_iff_eq_none]
    refine ⟨rfl,?_⟩
    rw [SessionEngine.findSession,Fin.find?_eq_none_iff]
    intro j
    by_cases hj : j = k
    · subst hj
      simp [SessionEngine.Engine.setSession,hv]
    · simp [SessionEngine.Engine.setSession,hj,SessionEngine.Engine.create,
        SessionEngine.SessionSlot.zero]
  have hscan : SessionEngine.allocateSessionIdWithin (SessionEngine.Engine.create.setSession k v)
      (maxSessions + 2) = some (1, 2) := by
    rw [SessionEngine.allocateSessionIdWithin,Allocator.scan]
    exact if_neg (by rw [Bool.not_eq_true]; exact hfree)
  have hid : (SessionEngine.allocateSessionId
      (SessionEngine.Engine.create.setSession k v)).1 = 1 := by
    rw [SessionEngine.allocateSessionId,Option.get_of_eq_some _ hscan]
  rw [← hid]
  simp [SessionEngine.Engine.openSession,SessionEngine.Engine.setSession]

theorem FirstSessionId.eq_one {id : UInt32} (h : FirstSessionId id) : id = 1 := by
  obtain ⟨τ,b,os,w,req,reply,hok,hid⟩ := h
  revert hok hid
  unfold SessionEngine.handleCreate
  split
  · rename_i hrequest
    exact fun hok => absurd hok (SessionEngine.createRequest_error_ne_ok hrequest)
  split
  · exact fun hok => absurd (show Status.noResource = .ok from hok) (by decide)
  dsimp only
  split
  · rename_i hstatus
    exact fun hok => absurd hok (bne_iff_ne.mp hstatus)
  split
  · exact fun hok => absurd (show Status.internal = .ok from hok) (by decide)
  split
  · split
    · exact fun hok => absurd (show Status.noResource = .ok from hok) (by decide)
    · exact fun hok => absurd (show Status.internal = .ok from hok) (by decide)
  · intro _ hid
    exact hid.symm.trans (openSession_create_id _ _ rfl)

def WaitersOwned (rt : Runtime) : Prop :=
  ∀ k, (rt.surfaces k).Waiting → ∃ i, getContext rt (rt.surfaces k).ownerContext = some i ∧
    (rt.contexts i).brokerSession = (rt.surfaces k).ownerSession

theorem getContext_of_index {rt : Runtime} {id : UInt32} {i : Fin 4}
    (hindex : idIndex 4 typeContext id = some i) (hused : (rt.contexts i).used) :
    getContext rt id = some i :=
  Option.filter_eq_some_iff.mpr ⟨hindex,by simpa using hused⟩

theorem WaitersOwned.of_contexts {rt rt' : Runtime} (h : WaitersOwned rt)
    (hsurfaces : ∀ k, (rt'.surfaces k).Waiting → (rt.surfaces k).Waiting ∧
    (rt'.surfaces k).ownerContext = (rt.surfaces k).ownerContext ∧
    (rt'.surfaces k).ownerSession = (rt.surfaces k).ownerSession)
    (hcontexts : ∀ k i, (rt'.surfaces k).Waiting →
      idIndex 4 typeContext (rt.surfaces k).ownerContext = some i → (rt.contexts i).used →
      (rt'.contexts i).identity = (rt.contexts i).identity) :
    WaitersOwned rt' := by
  intro k hk
  obtain ⟨hwaits,hcontext,hsession⟩ := hsurfaces k hk
  obtain ⟨i,hi,howner⟩ := h k hwaits
  obtain ⟨hindex,hused⟩ := getContext_index hi
  obtain ⟨hsame,_,hbroker⟩ := identity_eq (hcontexts k i hk hindex hused)
  rw [hcontext,hsession]
  exact ⟨i,getContext_of_index hindex (hsame ▸ hused),hbroker.trans howner⟩

theorem CallStep.waitersOwned {libva : Libva} {call : Call} (hstep : CallStep libva call s t)
    (h : WaitersOwned s.runtime) : WaitersOwned t.runtime := by
  cases hstep with
  | works _ hwork hwho =>
    intro k hk
    rcases hwork.surfaces k hk with ⟨hwaits,hcontext,hsession⟩ | ⟨i,id,hid,hcontext,hsession⟩
    · obtain ⟨i,hi,howner⟩ := h k hwaits
      obtain ⟨hindex,hused⟩ := getContext_index hi
      obtain ⟨hsame,_,hbroker⟩ := identity_eq (hwork.identity i)
      rw [hcontext,hsession]
      exact ⟨i,getContext_of_index hindex (hsame ▸ hused),hbroker.trans howner⟩
    · obtain ⟨hindex,hused⟩ := getContext_index (hwho i id hid)
      obtain ⟨hsame,_,hbroker⟩ := identity_eq (hwork.identity i)
      rw [hcontext,hsession]
      exact ⟨i,getContext_of_index hindex (hsame ▸ hused),hbroker⟩
  | opens i hopened =>
    refine h.of_contexts (fun k hk => ?_) fun k j hk hj hused => ?_
    · rw [hopened.surfaces] at hk ⊢
      exact ⟨hk,rfl,rfl⟩
    · have hji : j ≠ i := by
        rintro rfl
        rw [hopened.free] at hused
        cases hused
      rw [hopened.contexts j hji]
  | closes i _ hi hclosed =>
    refine h.of_contexts (fun k hk => ?_) fun k j hk hj hused => ?_
    · obtain ⟨hsame,_⟩ := hclosed.surfaces k hk
      rw [hsame] at hk ⊢
      exact ⟨hk,rfl,rfl⟩
    · obtain ⟨hsame,hother⟩ := hclosed.surfaces k hk
      have hji : j ≠ i := by
        rintro rfl
        rw [hsame] at hother
        exact hother (idIndex_inj hj (getContext_index hi).1)
      rw [hclosed.contexts j hji]
  | rebuffers _ hrebuffered =>
    obtain ⟨⟨y,hruntime,_⟩,_⟩ := hrebuffered
    rw [hruntime]
    exact h
  | renders _ _ _ hrendered =>
    refine h.of_contexts (fun k hk => ?_) fun k j _ _ _ => hrendered.identity j
    rw [hrendered.surfaces] at hk ⊢
    exact ⟨hk,rfl,rfl⟩

theorem Reachable.waitersOwned {env : Env ω} {policy : Policy} (h : Reachable env policy s) :
    WaitersOwned s.runtime := by
  obtain ⟨w,s0,calls,hcreate,rfl⟩ := h
  refine Run.run_invariant (fun s => WaitersOwned s.runtime) (fun s call hs => ?_) s0 calls ?_
  · exact (step_callStep env s).waitersOwned hs
  · obtain ⟨p,_,rfl⟩ := Option.map_eq_some_iff.mp hcreate
    exact fun _ hk => (nomatch hk.1)

section
variable {σ : Type} {ops : EosOps σ} {P : σ → Prop} (status : Option EosStatus)
theorem eosLoop_complete (hmark : ∀ a, P (ops.markRemainingPendingFailed a).2) (remaining : Nat)
    (state : EosState) (hstate : state.phase ≠ .complete) (outputs frames controls : Nat) (a : σ) :
    Ends (eosLoop ops status remaining state outputs frames controls)
      (fun r a => r.state.phase = .complete → P a) a := by
  have hcomplete (state : EosState) (outputs frames controls : Nat) (a : σ) :
      Ends (completeEos ops status state outputs frames controls)
        (fun r a => r.state.phase = .complete → P a) a := fun _ => hmark a
  have hdiscard (state : EosState) (output : EosOutput) (outputs frames controls : Nat) (a : σ) :
      Ends (discardAndFail ops status state output outputs frames controls)
        (fun r a => r.state.phase = .complete → P a) a := by
    unfold discardAndFail
    split
    · exact .bind nofun
    · exact .pure nofun
  induction remaining generalizing state outputs frames controls a with
  | zero => exact fun h => absurd h hstate
  | succ remaining ih =>
    refine .bind (.of_forall fun dequeued a => ?_)
    obtain ⟨io,output⟩ := dequeued
    cases io with
    | retry | outputWindowFull => exact .pure fun h => absurd h hstate
    | fatal => exact .pure nofun
    | ok =>
      dsimp only
      split
      · exact .pure nofun
      cases output.kind with
      | control =>
        dsimp only
        split
        · exact hdiscard _ _ _ _ _ _
        refine .bind (.of_forall fun released a => ?_)
        split
        · exact .pure nofun
        split
        · exact .pure nofun
        · exact hcomplete _ _ _ _ _
      | other => exact hdiscard _ _ _ _ _ _
      | frame =>
        dsimp only
        split
        · exact hdiscard _ _ _ _ _ _
        refine .bind (.of_forall fun handled a => ?_)
        split
        · exact hdiscard _ _ _ _ _ _
        split
        · exact hcomplete _ _ _ _ _
        · refine ih _ ?_ _ _ _ _
          exact hstate

theorem eosStateProgress_complete (hmark : ∀ a, P (ops.markRemainingPendingFailed a).2)
    (maxOutputs : Nat) (state : EosState) (hstate : state.phase ≠ .complete) (a : σ) :
    Ends (eosStateProgress ops status maxOutputs state)
      (fun r a => r.state.phase = .complete → P a) a := by
  unfold eosStateProgress
  iterate 2
    split
    · exact .pure fun h => absurd h hstate
  · exact .pure fun h => absurd h hstate
  · exact .pure fun h => absurd h hstate
  all_goals exact eosLoop_complete status hmark _ _ hstate _ _ _ _

theorem eosStateSignal_complete (state : EosState) (hstate : state.phase ≠ .complete) (a : σ) :
    Ends (eosStateSignal ops status state) (fun r a => r.state.phase = .complete → P a) a := by
  unfold eosStateSignal
  iterate 2
    split
    · exact .pure fun h => absurd h hstate
  · exact .pure fun h => absurd h hstate
  · exact .pure fun h => absurd h hstate
  all_goals
    refine .bind (.of_forall fun io a => ?_)
    cases io <;> exact .pure nofun
end

/-- No surface waits for the session of context `i`. -/
def NoneWaiting (i : Fin 4) (s : Machine ω) : Prop :=
  ∀ k, (s.runtime.surfaces k).Waiting →
    (s.runtime.surfaces k).ownerSession ≠ (s.runtime.contexts i).brokerSession

theorem Drained.noneWaiting {i : Fin 4} (h : Drained i s t) (hs : NoneWaiting i s) :
    NoneWaiting i t := by
  intro k hk
  rw [h.brokerSession]
  cases h.surfaces k with
  | kept hsame =>
    rw [hsame] at hk ⊢
    exact hs k hk
  | settled _ _ _ _ hstate => exact absurd hk.2 hstate

section
variable (env : Env ω) (i : Fin 4)
theorem privateEosOps_marks (a : Adapter ω) :
    NoneWaiting i ((privateEosOps env i).markRemainingPendingFailed a).2.machine := by
  intro k hk hsession
  have hfailed : (((privateEosOps env i).markRemainingPendingFailed a).2.machine.runtime.surfaces
      k) = failPending (a.machine.runtime.contexts i).brokerSession
        (a.machine.runtime.surfaces k) := rfl
  rw [hfailed] at hk hsession
  unfold failPending at hk hsession
  split at hk
  · exact nomatch hk.2
  · rename_i hnot
    rw [if_neg hnot] at hsession
    exact hnot ⟨hk.1,hk.2,hsession⟩

/-- What driving the machine of a context does: its surfaces are drained, and if it completes,
nothing waits for its session any more. -/
def Driven (s t : Machine ω) : Prop :=
  Drained i s t ∧ ((s.runtime.contexts i).eos.phase ≠ .complete →
    (t.runtime.contexts i).eos.phase = .complete → NoneWaiting i t)
variable {i}
theorem Driven.refl (s : Machine ω) : Driven i s s :=
  ⟨(drained i).refl s,fun hne heq => absurd heq hne⟩

theorem Driven.then_silent {u : Machine ω} (h : Driven i s t) (htu : silent.rel t u) :
    Driven i s u := by
  refine ⟨(drained i).trans h.1 (.of_silent htu),fun hne heq => ?_⟩
  rw [(silent_iff.mp htu).1] at heq
  exact (Drained.of_silent htu).noneWaiting (h.2 hne heq)

theorem Driven.trans {u : Machine ω} (h : Driven i s t) (h' : Driven i t u) : Driven i s u := by
  refine ⟨(drained i).trans h.1 h'.1,fun hne heq => ?_⟩
  by_cases hphase : (t.runtime.contexts i).eos.phase = .complete
  · exact h'.1.noneWaiting (h.2 hne hphase)
  · exact h'.2 hphase heq

theorem withAdapter_driven {drive : EosState → StateM (Adapter ω) EosReturn}
    (hdrained : ∀ state, Keeps ((drained i).on Adapter.machine) (drive state))
    (hdrive : ∀ state a, state.phase ≠ .complete →
      Ends (drive state) (fun r a => r.state.phase = .complete → NoneWaiting i a.machine) a)
    (s : Machine ω) : Ends (withAdapter i drive) (fun _ t => Driven i s t) s := by
  refine ⟨withAdapter_drained i hdrained s,fun hne heq => ?_⟩
  have hended := hdrive _ ⟨s,ClientOutput.none,false⟩ hne
  unfold Ends at hended
  set ended := drive (s.runtime.contexts i).eos ⟨s,ClientOutput.none,false⟩
  have hcontext : ((withAdapter i drive s).2.runtime.contexts i) =
      { ended.2.machine.runtime.contexts i with eos := ended.1.state } := Function.update_self ..
  rw [hcontext] at heq
  intro k hk
  rw [hcontext]
  exact hended heq k hk
variable {contextId : UInt32} (hi : idIndex 4 typeContext contextId = some i)
include hi
theorem signalEosPrivate_driven (status : Option EosStatus) (s : Machine ω) :
    Ends (signalEosPrivate env contextId status) (fun _ t => Driven i s t) s := by
  iterate 2
    refine .read_bind ?_
    split
    · exact .pure (.refl s)
  rename_i j hj
  have hij : j = i := Option.some.inj ((getContext_index hj).1.symm.trans hi)
  subst hij
  split
  · exact .pure (.refl s)
  refine .bind (.mono ?_ fun _ t (ht : Driven j s t) => .pure ht)
  exact withAdapter_driven
    (fun state => eosStateSignal_within status (privateEosOps_within env j) state)
    (fun state a hstate => eosStateSignal_complete status state hstate a) s

theorem progressEosPrivate_driven (maxOutputs : Nat) (status : Option EosStatus) (s : Machine ω) :
    Ends (progressEosPrivate env contextId maxOutputs status) (fun _ t => Driven i s t) s := by
  iterate 2
    apply Ends.read_bind
    split
    · exact Ends.pure (.refl s)
  rename_i j hj
  have hij : j = i := Option.some.inj ((getContext_index hj).1.symm.trans hi)
  subst hij
  refine Ends.bind (Ends.bind (Ends.mono ?_ fun ended t (ht : Driven j s t) => ?_))
  · exact withAdapter_driven
      (fun state => eosStateProgress_within status (privateEosOps_within env j) maxOutputs state)
      (fun state a hstate => eosStateProgress_complete status (privateEosOps_marks env j)
        maxOutputs state hstate a) s
  · refine Ends.bind (Ends.read (Ends.bind ?_))
    refine Keeps.ends (Keeps.whenever (F := silent) ?_) fun _ u hu => Ends.pure (ht.then_silent hu)
    refine Keeps.bind (io_silent _) fun _ => Keeps.bind (note_silent _) fun _ => ?_
    exact outputClose_silent env _
end

def Call.DrivesEos (contextId : UInt32) : Call → Prop
  | .signalEos id _ => id = contextId
  | .progressEos id _ _ => id = contextId
  | _ => False

def Machine.quiet (s : Machine ω) : Machine ω := { s with events := [] }

theorem step_driven (env : Env ω) {contextId : UInt32} {i : Fin 4}
    (hi : idIndex 4 typeContext contextId = some i) (s : Machine ω) (call : Call)
    (hcall : call.DrivesEos contextId) : Driven i s.quiet (step env s call).1.quiet := by
  have hstep : Driven i s.quiet (step env s call).1 := by
    cases call with
    | signalEos _ status =>
      cases hcall
      exact signalEosPrivate_driven env hi status s.quiet
    | progressEos _ maxOutputs status =>
      cases hcall
      exact progressEosPrivate_driven env hi maxOutputs status s.quiet
    | _ => exact hcall.elim
  have hquiet : (step env s call).1.quiet = (step env s call).1 := by
    have hevents : (step env s call).1.events = [] := hstep.1.events
    rw [Machine.quiet,← hevents]
  rw [hquiet]
  exact hstep

theorem runCalls_driven (env : Env ω) {contextId : UInt32} {i : Fin 4}
    (hi : idIndex 4 typeContext contextId = some i) (s : Machine ω) (calls : List Call)
    (hcalls : ∀ call ∈ calls, call.DrivesEos contextId) :
    Driven i s.quiet (runCalls env s calls).1.quiet := by
  induction calls generalizing s with
  | nil => exact .refl _
  | cons call calls ih =>
    have hfirst := step_driven env hi s call (hcalls call List.mem_cons_self)
    have hrest := ih (step env s call).1 fun c hc => hcalls c (List.mem_cons_of_mem _ hc)
    exact hfirst.trans hrest

/-- Completing the end of stream of one context leaves the surfaces of another as they are if and
only if the other waits for nothing. -/
theorem eosCompletion_isolated_iff (env : Env ω) (policy : Policy) (s : Machine ω)
    (hs : Reachable env policy s) (a b : UInt32) (i j : Fin 4)
    (ha : getContext s.runtime a = some i) (hb : getContext s.runtime b = some j)
    (hfirst : FirstSessionId (s.runtime.contexts i).brokerSession)
    (hfirst' : FirstSessionId (s.runtime.contexts j).brokerSession) (calls : List Call)
    (hcalls : ∀ call ∈ calls, call.DrivesEos a)
    (hbefore : (s.runtime.contexts i).eos.phase ≠ .complete)
    (hafter : ((runCalls env s calls).1.runtime.contexts i).eos.phase = .complete) :
    (∀ k, (s.runtime.surfaces k).ownerContext = b →
        ((runCalls env s calls).1.runtime.surfaces k).state = (s.runtime.surfaces k).state) ↔
      ∀ k, (s.runtime.surfaces k).ownerContext = b → ¬ (s.runtime.surfaces k).Waiting := by
  obtain ⟨hdrained,hcomplete⟩ := runCalls_driven env (getContext_index ha).1 s calls hcalls
  have hnone : NoneWaiting i (runCalls env s calls).1.quiet := hcomplete hbefore hafter
  constructor
  · -- A waiting surface of the other context has the same session, so it no longer waits.
    intro hsame k hk hwaiting
    obtain ⟨j',hj',hsession⟩ := hs.waitersOwned k hwaiting
    rw [hk,hb,Option.some.injEq] at hj'
    subst hj'
    have hsessions : (s.runtime.surfaces k).ownerSession =
        (s.runtime.contexts i).brokerSession := by
      rw [← hsession,hfirst'.eq_one,hfirst.eq_one]
    cases hdrained.surfaces k with
    | kept hkept =>
      have hkept : (runCalls env s calls).1.quiet.runtime.surfaces k = s.runtime.surfaces k :=
        hkept
      apply hnone k (hkept ▸ hwaiting)
      rw [hdrained.brokerSession,hkept]
      exact hsessions
    | settled _ _ _ _ hstate => exact hstate ((hsame k hk).trans hwaiting.2)
  · intro hnot k hk
    cases hdrained.surfaces k with
    | kept hkept => exact congrArg Surface.state hkept
    | settled hused hpending => exact absurd ⟨hused,hpending⟩ (hnot k hk)

theorem firstSessionId_one : FirstSessionId 1 :=
  ⟨Unit,SessionEngine.mockBackend (SessionEngine.mockOutput Transport.bytes 0 1 (-1))
    (.ok, -1),SessionEngine.mockOs,(),SessionEngine.createDecode,
    SessionEngine.mockReply SessionEngine.createDecode,by decide +kernel,by decide +kernel⟩

def waitingCalls : List Call :=
  let second := makeId typeContext 1
  [.createConfig .vp9Profile0 .vld [],.createContext (makeId typeConfig 0) 1920 1080 [],
    .createContext (makeId typeConfig 0) 1920 1080 [],
    .createSurfaces rtFormatYuv420 1920 1080 1 [],
    .createBuffer second .pictureParameter 92 1 none,
    .createBuffer second .sliceParameter 316 1 (some [4]),
    .createBuffer second .sliceData 4 1 (some [0x82,0x49,0x83,0x42]),
    .beginPicture second (makeId typeSurface 0) 1,
    .renderPicture second [makeId typeBuffer 0,makeId typeBuffer 1,makeId typeBuffer 2],
    .endPicture second]

def completingCalls : List Call :=
  [.signalEos (makeId typeContext 0) (some { structSize := eosStatusSize }),
    .progressEos (makeId typeContext 0) 1 (some { structSize := eosStatusSize })]

def waitingMachine : Machine MockWorld := (runCalls mockEnv mockMachine waitingCalls).1
theorem waitingMachine_reachable : Reachable mockEnv mockPolicy waitingMachine :=
  ⟨⟨[]⟩,mockMachine,waitingCalls,rfl,rfl⟩

theorem waitingMachine_firstSessionId (i : Fin 4) (hi : i = 0 ∨ i = 1) :
    FirstSessionId (waitingMachine.runtime.contexts i).brokerSession := by
  have hone : (waitingMachine.runtime.contexts i).brokerSession = 1 := by
    rcases hi with rfl | rfl <;> decide +kernel
  exact hone ▸ firstSessionId_one

theorem completingCalls_drive : ∀ call ∈ completingCalls, call.DrivesEos (makeId typeContext 0) := by
  unfold completingCalls
  simp only [List.mem_cons,List.not_mem_nil,or_false,forall_eq_or_imp,forall_eq]
  exact ⟨rfl,rfl⟩

theorem eosCompletion_isolated_iff_waitingMachine :
    ¬ ∀ k, (waitingMachine.runtime.surfaces k).ownerContext = makeId typeContext 1 →
      ((runCalls mockEnv waitingMachine completingCalls).1.runtime.surfaces k).state =
        (waitingMachine.runtime.surfaces k).state := fun h =>
  (eosCompletion_isolated_iff mockEnv mockPolicy waitingMachine waitingMachine_reachable
    (makeId typeContext 0) (makeId typeContext 1) 0 1 (by decide +kernel) (by decide +kernel)
    (waitingMachine_firstSessionId 0 (.inl rfl)) (waitingMachine_firstSessionId 1 (.inr rfl))
    completingCalls completingCalls_drive (by decide +kernel) (by decide +kernel)).mp h 0
    (by decide +kernel) ⟨by decide +kernel,by decide +kernel⟩

/-- The picture that the second context waits for fails with the end of stream of the first. -/
theorem eosCompletion_waitingMachine_fails :
    Reachable mockEnv mockPolicy waitingMachine ∧
    FirstSessionId (waitingMachine.runtime.contexts 0).brokerSession ∧
    FirstSessionId (waitingMachine.runtime.contexts 1).brokerSession ∧
    getContext waitingMachine.runtime (makeId typeContext 0) = some 0 ∧
    getContext waitingMachine.runtime (makeId typeContext 1) = some 1 ∧
    (waitingMachine.runtime.contexts 0).brokerFd ≠ (waitingMachine.runtime.contexts 1).brokerFd ∧
    ((runCalls mockEnv waitingMachine completingCalls).1.runtime.contexts 0).eos.phase = .complete ∧
    (waitingMachine.runtime.surfaces 0).ownerContext = makeId typeContext 1 ∧
    (waitingMachine.runtime.surfaces 0).state = .pending ∧
    ((runCalls mockEnv waitingMachine completingCalls).1.runtime.surfaces 0).state = .error :=
  ⟨waitingMachine_reachable,waitingMachine_firstSessionId 0 (.inl rfl),
    waitingMachine_firstSessionId 1 (.inr rfl),by decide +kernel⟩
end LinDeX.Decode
