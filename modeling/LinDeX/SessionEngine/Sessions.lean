import LinDeX.SessionEngine.Invariant
import LinDeX.SessionEngine.Mock

/-!
# What a session keeps

A property of single sessions holds in every state that the engine can reach as soon as a new
session has it and the handlers and the callback after a reply preserve it.
-/
namespace LinDeX.SessionEngine
open Dmabuf Function
variable {ω : Type} {b : BackendOps ω} {os : Os ω} {e e' : Engine} {s s' : SessionSlot}
  {next next' : UInt64} {status : Status} {effects : List Effect} {op : Option Opcode}
  {w : ω} {req reply : Message}

structure SessionKept (b : BackendOps ω) (os : Os ω) (P : SessionSlot → Prop) : Prop where
  zero : P SessionSlot.zero
  fresh : ∀ handle c size dmabufs id, P { SessionSlot.fresh handle c size dmabufs with id := id }
  handled : ∀ w s next req reply, s.WellFormed → P s →
    P (dispatch b os w s next req reply).1.session
  called : ∀ s op effects s', AfterStep s op effects s' → P s → P s'

theorem setSession_kept {P : SessionSlot → Prop} {k : Fin 4} (he : ∀ k, P (e.sessions k))
    (hs : P s) (k' : Fin 4) : P (update e.sessions k s k') := by
  by_cases hk : k' = k
  · subst hk
    rw [update_self]
    exact hs
  · rw [update_of_ne hk]
    exact he k'

namespace SessionKept
variable {P : SessionSlot → Prop}
theorem openSession (h : SessionKept b os P) (he : ∀ k, P (e.sessions k)) (k : Fin 4)
    (handle : Pointer) (c : BackendConfig) (size : Nat) (dmabufs : Option Registry) (k' : Fin 4) :
    P ((e.openSession k (SessionSlot.fresh handle c size dmabufs)).sessions k') := by
  refine setSession_kept (fun k'' => ?_) (h.fresh handle c size dmabufs _) k'
  exact setSession_kept he (h.fresh handle c size dmabufs 0) k''

theorem handle (h : SessionKept b os P) (hwf : e.WellFormed) (he : ∀ k, P (e.sessions k)) :
    ∀ k, P ((sessionEngineHandle b os w e req reply).engine.sessions k) := by
  unfold sessionEngineHandle
  iterate 3
    split
    · exact he
  split
  · have hstep : let r := handleCreate b os w e req reply
        EngineStep e (some .createSession) (some r.status) r.log r.engine := handleCreate_step hwf
    generalize handleCreate b os w e req reply = r at hstep ⊢
    obtain ⟨status,w',e',reply',log⟩ := r
    cases hstep with
    | refused => exact he
    | created k _ _ handle c size dmabufs hs =>
      subst hs
      exact h.openSession he k handle c size dmabufs
    | handled k _ _ hhandle =>
      cases hhandle with
      | failed => exact setSession_kept he (he k)
      | quiet hop => simp at hop
  split
  · exact he
  rename_i k hfind
  split
  · exact he
  · have hsession := hwf.session k (findSession_some hfind).1
    exact setSession_kept he (h.handled _ _ _ _ _ hsession (he k))

theorem afterReply (h : SessionKept b os P) (he : ∀ k, P (e.sessions k)) {clientFd : Fd} :
    ∀ k, P ((sessionEngineAfterReply b os w e clientFd req reply).2.2.1.sessions k) := by
  have hstep := sessionEngineAfterReply_step b os w e clientFd req reply
  dsimp only at hstep
  generalize (sessionEngineAfterReply b os w e clientFd req reply).2.2.1 = e',
    (sessionEngineAfterReply b os w e clientFd req reply).2.2.2 = log,
    Opcode.ofCode req.header.opcode = op at hstep ⊢
  cases hstep with
  | idle => exact he
  | called k _ hcalled => exact setSession_kept he (h.called _ _ _ _ hcalled (he k))

theorem reachable (h : SessionKept b os P) (he : Reachable b os e) (k : Fin 4) :
    P (e.sessions k) := by
  obtain ⟨w,calls,rfl⟩ := he
  refine (Run.run_invariant (fun st : ω × Engine => st.2.WellFormed ∧ ∀ k, P (st.2.sessions k))
    (fun st call hst => ⟨step_wellFormed st call hst.1,?_⟩) (w, Engine.create) calls
    ⟨Engine.wellFormed_create,fun _ => h.zero⟩).2 k
  cases call with
  | handle req reply => exact h.handle hst.1 hst.2
  | afterReply => exact h.afterReply hst.2
end SessionKept

def SessionSlot.AwaitsAhb (s : SessionSlot) : Prop :=
  s.pendingAhbState ≠ .none → s.transport = Transport.androidAhbSurface

theorem HandleStep.awaitsAhb (h : HandleStep s next op status effects s' next')
    (hop : op ≠ some .queueAhb) (hs : s.AwaitsAhb) : s'.AwaitsAhb := by
  cases h with
  | queuedAhb => exact absurd rfl hop
  | completedAhb | closed | flushed => exact fun hne => absurd rfl hne
  | _ => exact hs

theorem handleQueueAhb_awaitsAhb (hs : s.AwaitsAhb) :
    (handleQueueAhb os w s req reply).session.AwaitsAhb := by
  unfold handleQueueAhb
  split
  · exact hs
  rename_i htransport
  have htransport : s.transport = Transport.androidAhbSurface := by
    simp only [Bool.or_eq_true,bne_iff_ne,not_or,not_not] at htransport
    exact htransport.2
  iterate 5
    split
    · exact hs
  · exact fun _ => htransport

theorem awaitsAhb_kept (b : BackendOps ω) (os : Os ω) : SessionKept b os SessionSlot.AwaitsAhb where
  zero := fun hne => absurd rfl hne
  fresh := fun _ _ _ _ _ hne => absurd rfl hne
  handled := by
    intro w s next req reply hwf hs
    by_cases hop : Opcode.ofCode req.header.opcode = some .queueAhb
    · unfold dispatch
      rw [hop]
      exact handleQueueAhb_awaitsAhb hs
    · exact (dispatch_step hwf).awaitsAhb hop hs
  called := by
    intro s op effects s' hcalled hs
    cases hcalled with
    | idle => exact hs
    | nativeSent => exact hs
    | fatal => exact fun hne => absurd rfl hne
    | received _ _ hawait => exact fun _ => hs (by rw [hawait]; decide)

/-- A completion that waits for its client: the submission succeeded, and the fence that came with
it was a sync file. -/
def CompletionSlot.Promised (os : Os ω) (c : CompletionSlot) : Prop :=
  c.inUse = true → c.status = Status.ok ∧ c.detail = 0 ∧
    (0 ≤ c.releaseFenceFd → ∃ w, os.syncFileValidate w c.releaseFenceFd = true)

def SessionSlot.Promised (os : Os ω) (s : SessionSlot) : Prop :=
  ∀ j, (s.dmabufCompletions j).Promised os

theorem SessionSlot.Promised.setCompletion {r : Option Registry} (hs : s.Promised os) (j : Fin 4)
    {c : CompletionSlot} (hc : c.Promised os) :
    ({ s with dmabufs := r }.setCompletion j c).Promised os := by
  intro j'
  dsimp only [SessionSlot.setCompletion]
  by_cases hj : j' = j
  · subst hj
    rw [update_self]
    exact hc
  · rw [update_of_ne hj]
    exact hs j'

theorem CompletionSlot.promised_free : CompletionSlot.free.Promised os :=
  fun h => absurd h (by decide)
theorem promised_zero : SessionSlot.zero.Promised os :=
  fun _ h => absurd h (by simp [SessionSlot.zero,CompletionSlot.zero])

theorem HandleStep.promised (h : HandleStep s next op status effects s' next')
    (hop : op ≠ some .queueDmabuf) (hs : s.Promised os) : s'.Promised os := by
  cases h with
  | queuedDmabuf => exact absurd rfl hop
  | completedDmabuf _ _ j => exact hs.setCompletion j CompletionSlot.promised_free
  | completedAhb _ _ htaken =>
    subst htaken
    split <;> exact hs
  | closed => exact promised_zero
  | _ => exact hs

theorem handleQueueDmabuf_promised (hs : s.Promised os) :
    (handleQueueDmabuf b os w s req reply).session.Promised os := by
  unfold handleQueueDmabuf
  split
  swap
  · exact hs
  split
  · exact hs
  split
  · exact hs
  rename_i j _
  split
  · exact hs
  dsimp only
  iterate 3
    split
    · exact hs
  rename_i hrejected
  split
  · exact hs
  · refine hs.setCompletion j fun _ => ⟨rfl,rfl,fun hfence => ?_⟩
    simp only [submitRejected,Bool.or_eq_true,not_or,Bool.and_eq_true,not_and,
      decide_eq_true_eq,Bool.not_eq_true',Bool.not_eq_false] at hrejected
    exact ⟨_,hrejected.2 hfence⟩

theorem promised_kept (b : BackendOps ω) (os : Os ω) :
    SessionKept b os (SessionSlot.Promised os) where
  zero := promised_zero
  fresh := fun _ _ _ _ _ _ => CompletionSlot.promised_free
  handled := by
    intro w s next req reply hwf hs
    by_cases hop : Opcode.ofCode req.header.opcode = some .queueDmabuf
    · unfold dispatch
      rw [hop]
      exact handleQueueDmabuf_promised hs
    · exact (dispatch_step hwf).promised hop hs
  called := by
    intro s op effects s' hcalled hs
    cases hcalled <;> exact hs

/-- A step leaves a session alone: its slot stays as it is, and no effect is one of its own. -/
def Leaves (k : Fin 4) (e e' : Engine) (log : Log) : Prop :=
  e'.sessions k = e.sessions k ∧ ∀ x ∈ log, x.1 ≠ k

def Call.sessionId : Call → UInt32
  | .handle req _ | .afterReply _ req _ => req.header.sessionId
section
variable {k j : Fin 4}
theorem Leaves.refl : Leaves k e e [] := ⟨rfl,nofun⟩

theorem Leaves.setSession (hj : j ≠ k) (s : SessionSlot) (effects : List Effect) :
    Leaves k e (e.setSession j s) (effects.map (Prod.mk j)) := by
  refine ⟨update_of_ne hj.symm ..,fun x hx => ?_⟩
  obtain ⟨_, -,rfl⟩ := List.mem_map.mp hx
  exact hj

theorem handleCreate_leaves (huse : (e.sessions k).inUse = true) :
    let r := handleCreate b os w e req reply
    Leaves k e r.engine r.log := by
  unfold handleCreate
  split
  · exact .refl
  split
  · exact .refl
  rename_i j hslot
  have hj : j ≠ k := by
    rintro rfl
    simpa [huse] using Slots.find_some hslot
  dsimp only
  split
  · exact .refl
  split
  · exact .refl
  split
  · exact .setSession hj _ []
  · rw [Engine.openSession_eq]
    exact .setSession hj _ []

theorem findSession_ne {id : UInt32} (hid : id ≠ (e.sessions k).id)
    (h : findSession e id = some j) : j ≠ k := by
  rintro rfl
  exact hid (findSession_some h).2.symm

theorem step_leaves (huse : (e.sessions k).inUse = true) {call : Call}
    (hcall : call.sessionId ≠ (e.sessions k).id) :
    Leaves k e (step b os (w, e) call).1.2 (step b os (w, e) call).2 := by
  cases call with
  | handle req reply =>
    show Leaves k e (sessionEngineHandle b os w e req reply).engine _
    unfold step sessionEngineHandle
    dsimp only
    iterate 3
      split
      · exact .refl
    split
    · exact handleCreate_leaves huse
    split
    · exact .refl
    rename_i j hfind
    split
    · exact .refl
    · exact .setSession (findSession_ne hcall hfind) _ _
  | afterReply clientFd req reply =>
    unfold step sessionEngineAfterReply
    dsimp only
    split
    · exact .refl
    split
    · exact .refl
    · rename_i j hfind
      exact .setSession (findSession_ne hcall hfind) _ _
end

/-- Requests and callbacks about other sessions, in any number and order and whatever becomes of
them, leave a session exactly as it was and settle nothing on its behalf. -/
theorem session_undisturbed (b : BackendOps ω) (os : Os ω) (w : ω) (e : Engine) (k : Fin 4)
    (huse : (e.sessions k).inUse = true) (calls : List Call)
    (hcalls : ∀ call ∈ calls, call.sessionId ≠ (e.sessions k).id) :
    let r := Run.run (step b os) (w, e) calls
    Leaves k e r.1.2 r.2 := by
  induction calls generalizing w e with
  | nil => exact .refl
  | cons call calls ih =>
    obtain ⟨hcall,hrest⟩ := List.forall_mem_cons.mp hcalls
    obtain ⟨hsame,hlog⟩ : Leaves k e (step b os (w, e) call).1.2 (step b os (w, e) call).2 :=
      step_leaves huse hcall
    obtain ⟨hsame',hlog'⟩ := ih (step b os (w, e) call).1.1 (step b os (w, e) call).1.2
      (by rw [hsame]; exact huse) (by rw [hsame]; exact hrest)
    rw [Run.run_cons]
    exact ⟨hsame'.trans hsame,List.forall_mem_append.mpr ⟨hlog,hlog'⟩⟩

theorem session_undisturbed_twoSessions :
    let b := mockBackend (mockOutput Transport.aHardwareBuffer 0 9 7) (.ok, -1)
    let e := (runCalls b mockOs () [.request createDecode,.request createDecode]).1.2
    (e.sessions 0).id = 1 ∧ (e.sessions 1).id = 2 ∧
    let r := Run.run (step b mockOs) ((), e) [.request (mockRequest 5 2 [] [])]
    Leaves 0 e r.1.2 r.2 ∧ (r.1.2.sessions 1).outputs 0 ≠ (e.sessions 1).outputs 0 :=
  ⟨by decide +kernel,by decide +kernel,
    session_undisturbed _ mockOs () _ 0 (by decide +kernel) _ (by decide +kernel),
    by decide +kernel⟩
end LinDeX.SessionEngine
