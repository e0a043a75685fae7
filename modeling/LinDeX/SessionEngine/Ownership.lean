import LinDeX.SessionEngine.Invariant

/-!
# Who owns a descriptor

The ledger of every run: what the engine came to own is what it closed, sent and gave away, what
it still holds, and what it lost.
-/
namespace LinDeX.SessionEngine
open Dmabuf List
open scoped BigOperators
variable {ω : Type} {b : BackendOps ω} {os : Os ω} {e e' : Engine} {s s' : SessionSlot}
  {next next' : UInt64} {status : Status} {effects : List Effect} {log : Log}
  {verdict : Option Status} {op : Option Opcode}

def gainedIn (effects : List Effect) : Holding := Run.weight Effect.gained effects
def settledIn (effects : List Effect) : Holding := Run.weight Effect.settled effects
@[simp] theorem gainedIn_nil : gainedIn [] = 0 := rfl
@[simp] theorem settledIn_nil : settledIn [] = 0 := rfl
@[simp] theorem gainedIn_append (xs ys : List Effect) :
    gainedIn (xs ++ ys) = gainedIn xs + gainedIn ys := Run.weight_append _ xs ys
@[simp] theorem settledIn_append (xs ys : List Effect) :
    settledIn (xs ++ ys) = settledIn xs + settledIn ys := Run.weight_append _ xs ys
@[simp] theorem gainedIn_cons (x : Effect) (xs : List Effect) :
    gainedIn (x :: xs) = x.gained + gainedIn xs := Run.weight_cons _ x xs
@[simp] theorem settledIn_cons (x : Effect) (xs : List Effect) :
    settledIn (x :: xs) = x.settled + settledIn xs := Run.weight_cons _ x xs
@[simp] theorem gainedIn_fdEffects (events : List FdEvent) :
    gainedIn (fdEffects events) = gainedBy events := Run.weight_map _ _ events
@[simp] theorem settledIn_fdEffects (events : List FdEvent) :
    settledIn (fdEffects events) = settledBy events := Run.weight_map _ _ events

theorem outputEffects_weights (s : SessionSlot) :
    gainedIn (outputEffects s) = 0 ∧ settledIn (outputEffects s) = 0 := by
  have hreleased : ∀ x ∈ outputEffects s, x.gained = 0 ∧ x.settled = 0 := by
    intro x hx
    obtain ⟨j, -,hj⟩ := mem_flatMap.mp hx
    split at hj
    · rw [mem_singleton.mp hj]
      exact ⟨rfl,rfl⟩
    · cases hj
  exact ⟨Run.weight_eq_zero _ _ fun x hx => (hreleased x hx).1,
    Run.weight_eq_zero _ _ fun x hx => (hreleased x hx).2⟩

theorem outstandingEffects_weights (s : SessionSlot) :
    gainedIn (outstandingEffects s) = 0 ∧
    settledIn (outstandingEffects s) = holding .ahbAcquire s.pendingAhb.acquireFenceFd +
      holding .ahbFence s.pendingAhbReleaseFence := by
  obtain ⟨hg,hs⟩ := outputEffects_weights s
  simp [outstandingEffects,hg,hs,Effect.gained,Effect.settled]

def SessionSlot.held (s : SessionSlot) : Holding :=
  if s.inUse then
    holding .ahbAcquire s.pendingAhb.acquireFenceFd +
      holding .ahbFence s.pendingAhbReleaseFence + s.dmabufHeld
  else 0

theorem held_of_inUse (h : s.inUse = true) :
    s.held = holding .ahbAcquire s.pendingAhb.acquireFenceFd +
      holding .ahbFence s.pendingAhbReleaseFence + s.dmabufHeld := if_pos h

theorem held_congr (huse : s'.inUse = s.inUse) (hpending : s'.pendingAhb = s.pendingAhb)
    (hfence : s'.pendingAhbReleaseFence = s.pendingAhbReleaseFence)
    (hdmabufs : s'.dmabufs = s.dmabufs)
    (hcompletions : s'.dmabufCompletions = s.dmabufCompletions) : s'.held = s.held := by
  rw [SessionSlot.held,SessionSlot.held,SessionSlot.dmabufHeld,SessionSlot.dmabufHeld,huse,
    hpending,hfence,hdmabufs,hcompletions]

theorem held_setOutput (j : Fin 8) (o : OutputSlot) : (s.setOutput j o).held = s.held :=
  held_congr rfl rfl rfl rfl rfl

theorem dmabufHeld_some {r : Registry} (hr : s.dmabufs = some r) :
    s.dmabufHeld = (∑ j, holding .dmabufFence (s.dmabufCompletions j).releaseFenceFd) + r.held := by
  rw [SessionSlot.dmabufHeld,hr,registryHeld]

theorem held_setRegistry {r : Registry} (hr : s.dmabufs = some r) (huse : s.inUse = true)
    (r' : Registry) :
    ({ s with dmabufs := some r' } : SessionSlot).held + r.held = s.held + r'.held := by
  rw [held_of_inUse huse,held_of_inUse (s := { s with dmabufs := some r' }) huse,
    dmabufHeld_some hr,dmabufHeld_some (s := { s with dmabufs := some r' }) rfl]
  abel

theorem held_setCompletion (j : Fin 4) (c : CompletionSlot) (huse : s.inUse = true) :
    (s.setCompletion j c).held + holding .dmabufFence (s.dmabufCompletions j).releaseFenceFd =
      s.held + holding .dmabufFence c.releaseFenceFd := by
  have hsum := Slots.sum_update_add s.dmabufCompletions j c
    fun _ c => holding .dmabufFence c.releaseFenceFd
  rw [held_of_inUse huse,held_of_inUse (s := s.setCompletion j c) huse]
  simp only [SessionSlot.dmabufHeld,SessionSlot.setCompletion]
  generalize (∑ i, holding .dmabufFence
    (Function.update s.dmabufCompletions j c i).releaseFenceFd) = new at hsum ⊢
  generalize (∑ i, holding .dmabufFence (s.dmabufCompletions i).releaseFenceFd) = old at hsum ⊢
  calc _ = (new + holding .dmabufFence (s.dmabufCompletions j).releaseFenceFd) +
        (holding .ahbAcquire s.pendingAhb.acquireFenceFd +
          holding .ahbFence s.pendingAhbReleaseFence + registryHeld s.dmabufs) := by abel
    _ = _ := by rw [hsum]; abel

theorem HandleStep.conserves (h : HandleStep s next op status effects s' next')
    (hs : s.WellFormed) (huse : s.inUse = true) :
    gainedIn effects + s.held = settledIn effects + droppedIn effects + s'.held := by
  cases h with
  | failed _ _ hbalance =>
    simp [hbalance.balance,hbalance.plain.safe.droppedBy]
  | quiet => simp
  | oversized => simp [dequeuedEffects,Effect.gained,Effect.settled,Effect.dropped]
  | rejected _ _ _ _ hbalance =>
    have hb := hbalance.balance
    have hd := hbalance.plain.safe.droppedBy
    simp only [gainedBy_append,settledBy_append,droppedBy_append] at hb hd
    simp [Effect.gained,Effect.settled,Effect.dropped,hb,hd]
  | dequeuedBytes _ _ _ _ _ hbalance hsafe =>
    have hd := hsafe.droppedBy
    simp only [gainedBy_append,settledBy_append,droppedBy_append] at hbalance hd
    simp [Effect.gained,Effect.settled,Effect.dropped,hbalance,hd,held_setOutput]
  | dequeuedAhb =>
    simp [dequeuedEffects,Effect.gained,Effect.settled,Effect.dropped,held_setOutput]
  | releasedBytes => simp [held_setOutput]
  | releasedAhb _ _ _ hbalance =>
    simp [hbalance.balance,hbalance.plain.safe.droppedBy,Effect.gained,Effect.settled,
      Effect.dropped,held_setOutput]
  | primeSent _ _ _ _ hbalance hsafe =>
    simp [hbalance,hsafe.droppedBy,Effect.gained,Effect.settled,Effect.dropped,held_setOutput]
  | queuedAhb input hidle =>
    have hacquire := holding_of_neg .ahbAcquire (hs.fences.acquire (by simp [hidle]))
    have hrelease := holding_of_neg .ahbFence (hs.fences.release (by simp [hidle]))
    rw [held_of_inUse huse,held_of_inUse (s := s.withPendingAhb input) huse,hacquire,hrelease]
    simp [SessionSlot.withPendingAhb,SessionSlot.dmabufHeld,Effect.gained,Effect.settled,
      Effect.dropped]
  | completedAhb hcomplete taken htaken =>
    have hacquire := holding_of_neg .ahbAcquire (hs.fences.acquire (by simp [hcomplete]))
    subst htaken
    split
    · rw [held_of_inUse huse,held_of_inUse
        (s := ({ s with pendingAhbReleaseFence := -1 } : SessionSlot).clearPendingAhb) huse,
        hacquire]
      simp [SessionSlot.clearPendingAhb,SessionSlot.dmabufHeld,Effect.gained,Effect.settled,
        Effect.dropped]
    · rename_i hneg
      have hrelease := holding_of_neg .ahbFence (Int.not_le.mp hneg)
      rw [held_of_inUse huse,held_of_inUse (s := s.clearPendingAhb) huse,hacquire,hrelease]
      simp [SessionSlot.clearPendingAhb,SessionSlot.dmabufHeld,Effect.gained,Effect.settled,
        Effect.dropped,hrelease]
  | registered r i d hr hfree _ _ _ hgain hsettle hplain =>
    have hset := held_setRegistry hr huse (r.add i d)
    rw [held_add hfree] at hset
    simp only [gainedIn_fdEffects,settledIn_fdEffects,droppedIn_fdEffects,hgain,hsettle,
      hplain.safe.droppedBy,zero_add]
    apply add_right_cancel (b := r.held)
    rw [hset]
    abel
  | unregistered r i hr huse' _ _ hgain hsettle hplain =>
    have hset := held_setRegistry hr huse (r.drop i)
    have hdrop := held_drop huse'
    simp only [gainedIn_fdEffects,settledIn_fdEffects,droppedIn_fdEffects,hgain,hsettle,
      hplain.safe.droppedBy,zero_add,add_zero]
    apply add_right_cancel (b := r.held)
    rw [add_assoc,hset,← hdrop]
    abel
  | queuedDmabuf r i j fence hr _ _ hfree _ hbalance hplain =>
    have hset := held_setRegistry hr huse (r.mark i)
    rw [held_mark] at hset
    have hset' := add_right_cancel hset
    have hcomp := held_setCompletion (s := { s with dmabufs := some (r.mark i) }) j
      ⟨(r.entries i).descriptor.bufferId,Status.ok,0,fence,true⟩ huse
    simp only [hs.completions j hfree,CompletionSlot.free,holding_neg_one,add_zero] at hcomp
    rw [hcomp,hset']
    simp only [gainedIn_fdEffects,settledIn_fdEffects,droppedIn_fdEffects,hbalance,
      hplain.safe.droppedBy,add_zero]
    abel
  | completedDmabuf r i j hr =>
    have hset := held_setRegistry hr huse (r.unmark i)
    rw [held_unmark] at hset
    have hset' := add_right_cancel hset
    have hcomp := held_setCompletion (s := { s with dmabufs := some (r.unmark i) }) j
      CompletionSlot.free huse
    simp only [CompletionSlot.free,holding_neg_one,add_zero] at hcomp
    rw [hset'] at hcomp
    simp only [gainedIn_fdEffects,settledIn_fdEffects,droppedIn_fdEffects,gainedBy_fdEvent_reply,
      settledBy_fdEvent_reply,droppedBy_fdEvent_reply,add_zero,
      zero_add]
    rw [← hcomp,add_comm]
    rfl
  | flushed =>
    obtain ⟨hg,hset⟩ := outstandingEffects_weights s
    rw [hg,hset,droppedIn_outstandingEffects,held_of_inUse huse,
      held_of_inUse (s := s.clearOutstanding) huse]
    simp [SessionSlot.clearOutstanding,SessionSlot.dmabufHeld]
  | closed _ hgain hsettle hplain =>
    obtain ⟨hg,hset⟩ := outstandingEffects_weights s
    have hzero : SessionSlot.zero.held = 0 := rfl
    rw [gainedIn_append,settledIn_append,droppedIn_append,hg,hset,droppedIn_outstandingEffects,
      gainedIn_fdEffects,settledIn_fdEffects,
      droppedIn_fdEffects,hgain,hsettle,hplain.safe.droppedBy,held_of_inUse huse,hzero]
    simp

theorem AfterStep.conserves (h : AfterStep s op effects s') (hs : s.WellFormed)
    (huse : s.inUse = true) :
    gainedIn effects + s.held = settledIn effects + s'.held ∧ droppedIn effects = 0 := by
  cases h with
  | idle => simp
  | nativeSent =>
    simp [held_setOutput,Effect.gained,Effect.settled,Effect.dropped]
  | fatal _ hawait =>
    have hrelease := holding_of_neg .ahbFence (hs.fences.release (by simp [hawait]))
    rw [held_of_inUse huse,held_of_inUse (s := s.clearPendingAhb) huse]
    constructor
    · simp [SessionSlot.clearPendingAhb,SessionSlot.dmabufHeld,Effect.gained,Effect.settled,
        hrelease]
      abel
    · simp [Effect.dropped]
  | received status fence hawait =>
    have hrelease := holding_of_neg .ahbFence (hs.fences.release (by simp [hawait]))
    rw [held_of_inUse huse,held_of_inUse (s := s.withReceived status fence) huse]
    by_cases hrejected : receivedRejected status fence = true
    all_goals
      constructor
      · simp [SessionSlot.withReceived,SessionSlot.dmabufHeld,Effect.gained,Effect.settled,
          hrelease,normaliseReceived,hrejected]
        abel
      · simp [Effect.dropped,hrejected]

def Log.gained (log : Log) : Holding := Run.weight (fun x => x.2.gained) log
def Log.settled (log : Log) : Holding := Run.weight (fun x => x.2.settled) log
def Log.dropped (log : Log) : Holding := Run.weight (fun x => x.2.dropped) log
section
variable (k : Fin 4) (effects : List Effect)
theorem Log.gained_map :
    Log.gained (effects.map (Prod.mk k)) = gainedIn effects := Run.weight_map _ _ effects
theorem Log.settled_map :
    Log.settled (effects.map (Prod.mk k)) = settledIn effects := Run.weight_map _ _ effects
theorem Log.dropped_map :
    Log.dropped (effects.map (Prod.mk k)) = droppedIn effects := Run.weight_map _ _ effects
end

def Engine.held (e : Engine) : Holding := ∑ k, (e.sessions k).held

theorem Engine.held_setSession (e : Engine) (k : Fin 4) (s : SessionSlot) :
    (e.setSession k s).held + (e.sessions k).held = e.held + s.held :=
  Slots.sum_update_add e.sessions k s fun _ => SessionSlot.held

theorem held_fresh {handle : Pointer} {c : BackendConfig} {size : Nat} {dmabufs : Option Registry}
    (h : dmabufs = if c.transport == Transport.dmabuf then some Registry.empty else none)
    (id : UInt32) : ({ SessionSlot.fresh handle c size dmabufs with id := id } :
      SessionSlot).held = 0 := by
  have hregistry : registryHeld dmabufs = 0 := by
    rw [h]
    split
    · rfl
    · rfl
  simp [SessionSlot.held,SessionSlot.fresh,SessionSlot.dmabufHeld,CompletionSlot.free,hregistry]
variable {k : Fin 4}
private theorem setSession_conserves {lost : Holding}
    (h : gainedIn effects + (e.sessions k).held = settledIn effects + lost + s'.held) :
    gainedIn effects + e.held = settledIn effects + lost + (e.setSession k s').held := by
  apply add_right_cancel (b := (e.sessions k).held)
  calc gainedIn effects + e.held + (e.sessions k).held
      = gainedIn effects + (e.sessions k).held + e.held := by abel
    _ = settledIn effects + lost + (e.held + s'.held) := by rw [h]; abel
    _ = _ := by rw [← Engine.held_setSession]; abel

theorem EngineStep.conserves (h : EngineStep e op verdict log e') (he : e.WellFormed) :
    log.gained + e.held = log.settled + log.dropped + e'.held := by
  cases h with
  | refused | idle => simp [Log.gained,Log.settled,Log.dropped]
  | created k _ hfree handle c size dmabufs hs hempty =>
    rw [Engine.openSession_eq,hs]
    have hset := e.held_setSession k { SessionSlot.fresh handle c size dmabufs with
      id := (allocateSessionId (e.setSession k (SessionSlot.fresh handle c size dmabufs))).1 }
    have hold : (e.sessions k).held = 0 := by simp [SessionSlot.held,hfree]
    rw [hold,held_fresh hempty,add_zero,add_zero] at hset
    simp only [Log.gained,Log.settled,Log.dropped,Run.weight_nil,zero_add]
    exact hset.symm
  | handled k huse _ h =>
    rw [Log.gained_map,Log.settled_map,Log.dropped_map]
    exact setSession_conserves (h.conserves (he.session k huse) huse)
  | called k huse h =>
    obtain ⟨hbalance,hdrop⟩ := h.conserves (he.session k huse) huse
    rw [Log.gained_map,Log.settled_map,Log.dropped_map]
    exact setSession_conserves (by rw [hdrop,add_zero]; exact hbalance)

theorem Log.settled_add_dropped (log : Log) :
    Run.weight (fun x => x.2.settled + x.2.dropped) log = log.settled + log.dropped := by
  induction log with
  | nil => rfl
  | cons x log ih =>
    simp only [Log.settled,Log.dropped,Run.weight_cons] at ih ⊢
    rw [ih]
    abel

theorem EngineRun.conserves (h : EngineRun e log e') (he : e.WellFormed) :
    log.gained + e.held = log.settled + log.dropped + e'.held := by
  rw [← Log.settled_add_dropped]
  refine Run.Trace.conserves h Engine.WellFormed _ _ Engine.held
    (fun _ _ _ ⟨_,_,hstep⟩ => hstep.wellFormed) ?_ he
  rintro e log e' ⟨op,verdict,hstep⟩ he
  rw [Log.settled_add_dropped]
  exact hstep.conserves he

theorem sessionEngineDestroy_conserves (b : BackendOps ω) (os : Os ω) (w : ω) (e : Engine) :
    let log := (sessionEngineDestroy b os w e).2
    log.gained = 0 ∧ log.settled = e.held ∧ log.dropped = 0 := by
  obtain ⟨torn,hlive,hdead,hlog⟩ := sessionEngineDestroy_log b os w e
  have htorn : ∀ k, gainedIn (torn k) = 0 ∧ settledIn (torn k) = (e.sessions k).held ∧
      droppedIn (torn k) = 0 := by
    intro k
    cases huse : (e.sessions k).inUse with
    | true =>
      obtain ⟨events,heq,hgain,hsettle,hplain⟩ := hlive k huse
      obtain ⟨hg,hset⟩ := outstandingEffects_weights (e.sessions k)
      simp only [heq,gainedIn_append,settledIn_append,droppedIn_append,hg,hset,
        droppedIn_outstandingEffects,gainedIn_fdEffects,settledIn_fdEffects,
        droppedIn_fdEffects,hgain,hsettle,hplain.safe.droppedBy,held_of_inUse huse,add_zero,
        and_self]
    | false => simp [hdead k huse,SessionSlot.held,huse]
  intro log
  simp only [log,hlog,Log.gained,Log.settled,Log.dropped,Run.weight_flatMap]
  refine ⟨?_,?_,?_⟩
  · refine sum_eq_zero fun x hx => ?_
    obtain ⟨k, -,rfl⟩ := mem_map.mp hx
    exact (Log.gained_map k _).trans (htorn k).1
  · rw [Engine.held,Fin.sum_univ_def]
    exact congrArg List.sum (map_congr_left fun k _ =>
      (Log.settled_map k _).trans (htorn k).2.1)
  · refine sum_eq_zero fun x hx => ?_
    obtain ⟨k, -,rfl⟩ := mem_map.mp hx
    exact (Log.dropped_map k _).trans (htorn k).2.2

def fdCount (event : FdEvent) (log : Log) : Nat := log.countP fun x => x.2 == .fd event
variable (event : FdEvent)
theorem fdCount_append (xs ys : Log) :
    fdCount event (xs ++ ys) = fdCount event xs + fdCount event ys := List.countP_append

theorem fdCount_cons (x : Fin 4 × Effect) (xs : Log) :
    fdCount event (x :: xs) = fdCount event xs + if x.2 = .fd event then 1 else 0 := by
  rw [fdCount,List.countP_cons,fdCount]
  simp
variable (src : FdSource) (fd : Fd)
theorem count_weight {f : Effect → Holding} {event : FdEvent} (log : Log)
    (h : ∀ effect, Multiset.count (src, fd) (f effect) = if effect = .fd event then 1 else 0) :
    Multiset.count (src, fd) (Run.weight (fun x => f x.2) log) = fdCount event log := by
  induction log with
  | nil => rfl
  | cons x log ih => rw [Run.weight_cons,Multiset.count_add,h,ih,fdCount_cons,Nat.add_comm]

theorem count_gained (log : Log) :
    Multiset.count (src, fd) log.gained = fdCount (.gain src fd) log := by
  refine count_weight src fd log fun effect => ?_
  cases effect with
  | fd event =>
    cases event <;> simp [Effect.gained,FdEvent.gained,Multiset.count_singleton,Prod.ext_iff,
      eq_comm]
  | _ => simp [Effect.gained]

theorem count_settled (log : Log) :
    Multiset.count (src, fd) log.settled =
      fdCount (.close src fd) log + fdCount (.reply src fd) log + fdCount (.give src fd) log := by
  induction log with
  | nil => rfl
  | cons x log ih =>
    simp only [Log.settled,Run.weight_cons,Multiset.count_add] at ih ⊢
    simp only [fdCount_cons,ih]
    obtain ⟨k,effect⟩ := x
    cases effect with
    | fd event =>
      cases event <;> simp [Effect.settled,FdEvent.settled,Multiset.count_singleton,Prod.ext_iff,
        eq_comm] <;> omega
    | _ => simp [Effect.settled]
variable {ev : FdEvent}
theorem Safe.isOrderly {events : List FdEvent} (h : Safe events)
    (hev : ev ∈ events) : ev.isOrderly = true := FdEvent.isOrderly_of_isSafe (h ev hev)

theorem fd_mem_fdEffects {events : List FdEvent} :
    .fd ev ∈ fdEffects events ↔ ev ∈ events := by
  simp [fdEffects]

theorem mem_fdEvent {event : FdSource → Fd → FdEvent} {src : FdSource} {fd : Fd}
    (h : ev ∈ fdEvent event src fd) : ev = event src fd := by
  unfold fdEvent at h
  split at h
  · exact mem_singleton.mp h
  · cases h

theorem mem_outstandingEffects (h : .fd ev ∈ outstandingEffects s) :
    ∃ src fd, ev = .close src fd := by
  simp only [outstandingEffects,mem_append,mem_singleton,reduceCtorEq,or_false,
    fd_mem_fdEffects] at h
  obtain hout | hacquire | hrelease := h
  · obtain ⟨j, -,hj⟩ := mem_flatMap.mp hout
    split at hj
    · cases mem_singleton.mp hj
    · cases hj
  · exact ⟨_,_,mem_fdEvent hacquire⟩
  · exact ⟨_,_,mem_fdEvent hrelease⟩

theorem HandleStep.fences (h : HandleStep s next op status effects s' next')
    (hev : .fd ev ∈ effects) :
    ev.isOrderly = true ∧ ((∃ src fd, ev = .reply src fd) → status = .ok) := by
  have hplain : ∀ {events : List FdEvent}, Plain events → ev ∈ events →
      ev.isOrderly = true ∧ ((∃ src fd, ev = .reply src fd) → status = .ok) := by
    intro events hp hmem
    refine ⟨Safe.isOrderly hp.safe hmem,?_⟩
    rintro ⟨src,fd,rfl⟩
    cases hp _ hmem
  cases h with
  | failed _ _ hbalance => exact hplain hbalance.plain (fd_mem_fdEffects.mp hev)
  | oversized =>
    simp only [dequeuedEffects,cons_append,mem_cons,mem_append,reduceCtorEq,false_or,
      fd_mem_fdEffects] at hev
    obtain hev | hev := hev <;> rw [mem_fdEvent hev] <;> exact ⟨rfl,by rintro ⟨_,_,⟨⟩⟩⟩
  | rejected _ _ _ _ hbalance =>
    simp only [cons_append,mem_cons,mem_append,reduceCtorEq,false_or,fd_mem_fdEffects] at hev
    exact hplain hbalance.plain (mem_append.mpr hev)
  | dequeuedBytes _ _ _ _ _ _ hsafe =>
    simp only [cons_append,mem_cons,mem_append,reduceCtorEq,false_or,fd_mem_fdEffects] at hev
    exact ⟨Safe.isOrderly hsafe (mem_append.mpr hev),fun _ => rfl⟩
  | dequeuedAhb =>
    simp only [dequeuedEffects,cons_append,mem_cons,mem_append,reduceCtorEq,false_or,
      fd_mem_fdEffects] at hev
    obtain hev | hev := hev <;> rw [mem_fdEvent hev] <;> exact ⟨rfl,fun _ => rfl⟩
  | quiet | releasedBytes => cases hev
  | releasedAhb _ _ _ hbalance =>
    simp only [mem_append,mem_singleton,reduceCtorEq,or_false,fd_mem_fdEffects] at hev
    exact hplain hbalance.plain hev
  | primeSent _ _ _ _ _ hsafe =>
    simp only [mem_append,mem_singleton,reduceCtorEq,or_false,fd_mem_fdEffects] at hev
    exact ⟨Safe.isOrderly hsafe hev,fun _ => rfl⟩
  | queuedAhb =>
    simp only [mem_append,mem_singleton,reduceCtorEq,or_false,fd_mem_fdEffects] at hev
    rw [mem_fdEvent hev]
    exact ⟨rfl,fun _ => rfl⟩
  | completedAhb =>
    simp only [mem_cons,reduceCtorEq,false_or,fd_mem_fdEffects] at hev
    rw [mem_fdEvent hev]
    exact ⟨rfl,fun _ => rfl⟩
  | registered | unregistered | queuedDmabuf => exact hplain ‹_› (fd_mem_fdEffects.mp hev)
  | completedDmabuf =>
    rw [mem_fdEvent (fd_mem_fdEffects.mp hev)]
    exact ⟨rfl,fun _ => rfl⟩
  | flushed =>
    obtain ⟨src,fd,rfl⟩ := mem_outstandingEffects hev
    exact ⟨rfl,fun _ => rfl⟩
  | closed _ _ _ hp =>
    obtain hev | hev := mem_append.mp hev
    · obtain ⟨src,fd,rfl⟩ := mem_outstandingEffects hev
      exact ⟨rfl,fun _ => rfl⟩
    · exact hplain hp (fd_mem_fdEffects.mp hev)

theorem AfterStep.fences (h : AfterStep s op effects s') (hev : .fd ev ∈ effects) :
    ev.isOrderly = true ∧ ∀ src fd, ev ≠ .reply src fd := by
  cases h with
  | idle => cases hev
  | nativeSent => simp at hev
  | fatal =>
    simp only [mem_append,mem_singleton,reduceCtorEq,or_false,fd_mem_fdEffects] at hev
    obtain (hev | hev) | hev := hev <;> rw [mem_fdEvent hev] <;> exact ⟨rfl,by simp⟩
  | received =>
    simp only [mem_append,mem_singleton,reduceCtorEq,or_false,fd_mem_fdEffects] at hev
    obtain (hev | hev) | hev := hev
    · rw [mem_fdEvent hev]
      exact ⟨rfl,by simp⟩
    · rw [mem_fdEvent hev]
      exact ⟨rfl,by simp⟩
    · split at hev
      · rw [mem_fdEvent hev]
        exact ⟨rfl,by simp⟩
      · cases hev

theorem EngineStep.fences (h : EngineStep e op verdict log e') (hev : (k, .fd ev) ∈ log) :
    ev.isOrderly = true ∧ ((∃ src fd, ev = .reply src fd) → verdict = some Status.ok) := by
  cases h with
  | refused | idle | created => cases hev
  | handled _ _ _ h =>
    obtain ⟨x,hx,heq⟩ := mem_map.mp hev
    cases heq
    obtain ⟨hgive,hreply⟩ := h.fences hx
    exact ⟨hgive,fun hr => congrArg some (hreply hr)⟩
  | called _ _ h =>
    obtain ⟨x,hx,heq⟩ := mem_map.mp hev
    cases heq
    obtain ⟨hgive,hreply⟩ := h.fences hx
    exact ⟨hgive,fun ⟨src,fd,hr⟩ => absurd hr (hreply src fd)⟩

theorem step_reply_ok {st : ω × Engine} {call : Call} (he : st.2.WellFormed)
    {src : FdSource} {fd : Fd} (hmem : (k, .fd (.reply src fd)) ∈ (step b os st call).2) :
    ∃ req reply, call = .handle req reply ∧
    (sessionEngineHandle b os st.1 st.2 req reply).status = .ok := by
  obtain ⟨verdict,h,hhandled⟩ := step_engineStep b os st.1 call he
  exact hhandled ((h.fences hmem).2 ⟨src,fd,rfl⟩)

theorem sessionEngineDestroy_fences (b : BackendOps ω) (os : Os ω) (w : ω) (e : Engine) (hev : (k, .fd ev) ∈ (sessionEngineDestroy b os w e).2) :
    ev.isOrderly = true ∧ ∀ src fd, ev ≠ .reply src fd := by
  obtain ⟨torn,hlive,hdead,hlog⟩ := sessionEngineDestroy_log b os w e
  rw [hlog] at hev
  obtain ⟨k', -,hk⟩ := mem_flatMap.mp hev
  obtain ⟨x,hx,heq⟩ := mem_map.mp hk
  cases heq
  cases huse : (e.sessions k).inUse with
  | false =>
    rw [hdead k huse] at hx
    cases hx
  | true =>
    obtain ⟨events,heq, -, -,hplain⟩ := hlive k huse
    rw [heq] at hx
    obtain hx | hx := mem_append.mp hx
    · obtain ⟨src,fd,rfl⟩ := mem_outstandingEffects hx
      exact ⟨rfl,by simp⟩
    · have hmem := fd_mem_fdEffects.mp hx
      refine ⟨Safe.isOrderly hplain.safe hmem,?_⟩
      rintro src fd rfl
      cases hplain _ hmem

theorem EngineRun.isOrderly (h : EngineRun e log e') (he : e.WellFormed) (hev : (k, .fd ev) ∈ log) : ev.isOrderly = true := by
  refine Run.Trace.forall_mem h Engine.WellFormed
    (fun x => ∀ ev, x.2 = .fd ev → ev.isOrderly = true)
    (fun _ _ _ ⟨_,_,hstep⟩ => hstep.wellFormed) ?_ he _ hev ev rfl
  rintro e log e' ⟨op,verdict,hstep⟩ he ⟨k,x⟩ hx ev rfl
  exact (hstep.fences hx).1

theorem fdCount_eq_zero {event : FdEvent} {log : Log} (h : ∀ k, (k, .fd event) ∉ log) :
    fdCount event log = 0 := by
  apply List.countP_eq_zero.mpr
  rintro ⟨k,effect⟩ hmem heq
  have heq : effect = .fd event := by simpa using heq
  exact h k (heq ▸ hmem)

theorem count_dropped (log : Log) :
    Multiset.count (src, fd) log.dropped = fdCount (.drop src fd) log := by
  refine count_weight src fd log fun effect => ?_
  cases effect with
  | fd event =>
    cases event <;> simp [Effect.dropped,FdEvent.dropped,Multiset.count_singleton,Prod.ext_iff,
      eq_comm]
  | _ => simp [Effect.dropped]

theorem held_create : Engine.create.held = 0 := by
  simp [Engine.held,Engine.create,SessionSlot.held,SessionSlot.zero]

theorem EngineRun.count_le (h : EngineRun Engine.create log e) (src : FdSource) (fd : Fd) :
    fdCount (.close src fd) log + fdCount (.reply src fd) log + fdCount (.give src fd) log +
      fdCount (.drop src fd) log ≤ fdCount (.gain src fd) log := by
  have hrun := congrArg (Multiset.count (src, fd)) (h.conserves Engine.wellFormed_create)
  simp only [held_create,Multiset.count_add,Multiset.count_zero,count_gained,count_settled,
    count_dropped] at hrun
  omega

theorem EngineRun.count_life (h : EngineRun Engine.create log e) (b : BackendOps ω) (os : Os ω)
    (w : ω) (src : FdSource) (fd : Fd) :
    let life := log ++ (sessionEngineDestroy b os w e).2
    fdCount (.gain src fd) life = fdCount (.close src fd) life + fdCount (.reply src fd) life +
      fdCount (.give src fd) life + fdCount (.drop src fd) life := by
  obtain ⟨hgain,hsettle,hdrop⟩ := sessionEngineDestroy_conserves b os w e
  have hrun := congrArg (Multiset.count (src, fd)) (h.conserves Engine.wellFormed_create)
  replace hgain := congrArg (Multiset.count (src, fd)) hgain
  replace hsettle := congrArg (Multiset.count (src, fd)) hsettle
  replace hdrop := congrArg (Multiset.count (src, fd)) hdrop
  simp only [held_create,Multiset.count_add,Multiset.count_zero,count_gained,count_settled,
    count_dropped] at hrun hgain hsettle hdrop
  simp only [fdCount_append]
  omega

theorem EngineRun.fdCount_life_eq_zero (h : EngineRun Engine.create log e) (b : BackendOps ω)
    (os : Os ω) (w : ω) (event : FdEvent) (hevent : event.isOrderly = false) :
    fdCount event (log ++ (sessionEngineDestroy b os w e).2) = 0 := by
  refine fdCount_eq_zero fun k hmem => ?_
  have horderly : event.isOrderly = true := by
    obtain hmem | hmem := mem_append.mp hmem
    · exact h.isOrderly Engine.wellFormed_create hmem
    · exact (sessionEngineDestroy_fences b os w e hmem).1
  rw [hevent] at horderly
  cases horderly
end LinDeX.SessionEngine
