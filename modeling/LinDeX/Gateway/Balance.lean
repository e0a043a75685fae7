import LinDeX.Gateway.Ledger
import LinDeX.Repack.Steps

/-!
# The balance of a worker

The leases of the pool and the ledger of the upstream connection agree with the output records of a
worker. In the middle of a request they may be off, and a tally says by how much.
-/
namespace LinDeX.Gateway
open Repack Program Function Multiset
open scoped BigOperators
variable {ω : Type}
def Output.lease (o : Output) : Multiset UInt64 :=
  if o.repackLeaseToken = 0 then 0 else {o.repackLeaseToken}
def Output.tracked (o : Output) : Multiset Handle :=
  if o.used = true ∧ o.upstreamReleased = false then {(o.sessionId, o.bufferId)} else 0

/-- A record with a lease is in use and its source, if any, has gone back. So has that of a
reservation, which has none. -/
structure Output.Sound (o : Output) : Prop where
  used : o.repackLeaseToken ≠ 0 → o.used = true
  released : o.repackLeaseToken ≠ 0 → o.upstreamReleased = true
  reservation : o.reservation = true → o.upstreamReleased = true

def leases (outputs : Fin cacheSlots → Output) : Multiset UInt64 := ∑ i, (outputs i).lease
def tracked (outputs : Fin cacheSlots → Output) : Multiset Handle := ∑ i, (outputs i).tracked
@[simp] theorem Output.lease_empty : Output.empty.lease = 0 := rfl
@[simp] theorem Output.tracked_empty : Output.empty.tracked = 0 := rfl

theorem Output.Sound.empty : Output.empty.Sound := by
  refine ⟨fun h => absurd rfl h,fun h => absurd rfl h,?_⟩
  intro h
  cases h

section
variable {o : Output}
theorem Output.tracked_of_released (h : o.upstreamReleased = true) : o.tracked = 0 := by
  rw [Output.tracked,if_neg]
  rintro ⟨_,hnot⟩
  cases h.symm.trans hnot

theorem Output.tracked_of_unused (h : o.used = false) : o.tracked = 0 := by
  rw [Output.tracked,if_neg]
  rintro ⟨hused,_⟩
  cases h.symm.trans hused

theorem Output.lease_eq_singleton (h : o.repackLeaseToken ≠ 0) :
    o.lease = {o.repackLeaseToken} := if_neg h
end

theorem mem_leases {outputs : Fin cacheSlots → Output} {token : UInt64} :
    token ∈ leases outputs ↔ ∃ i, token ∈ (outputs i).lease := by
  rw [leases,mem_sum]
  simp only [Finset.mem_univ,true_and]

theorem mem_tracked {outputs : Fin cacheSlots → Output} {h : Handle} :
    h ∈ tracked outputs ↔ ∃ i, h ∈ (outputs i).tracked := by
  rw [tracked,mem_sum]
  simp only [Finset.mem_univ,true_and]

theorem leases_update (outputs : Fin cacheSlots → Output) (i : Fin cacheSlots) (o : Output) :
    leases (update outputs i o) + (outputs i).lease = leases outputs + o.lease :=
  Slots.sum_update_add outputs i o fun _ => Output.lease

theorem tracked_update (outputs : Fin cacheSlots → Output) (i : Fin cacheSlots) (o : Output) :
    tracked (update outputs i o) + (outputs i).tracked = tracked outputs + o.tracked :=
  Slots.sum_update_add outputs i o fun _ => Output.tracked

/-- How far the books are off: leases and outputs that a record still lists although they are gone,
and those that no record lists yet. -/
structure Tally where
  leasesOwed : Multiset UInt64 := 0
  leasesHeld : Multiset UInt64 := 0
  outputsOwed : Multiset Handle := 0
  outputsHeld : Multiset Handle := 0

structure LeaseBook (t : Tally) (c : Worker ω) : Prop where
  balance : liveTokens c.pool.leases + t.leasesOwed = leases c.outputs + t.leasesHeld
  distinct : (liveTokens c.pool.leases).Nodup
  nonzero : (0 : UInt64) ∉ liveTokens c.pool.leases
  attached : liveTokens c.pool.leases ≠ 0 → c.pool.attached = true

def Dead (c : Worker ω) : Prop := Traffic.poisoned ∈ c.traffic

/-- The broker's side. -/
structure OutputBook (t : Tally) (c : Worker ω) (l : Ledger) : Prop where
  accepted : Run.accepts Ledger.step Ledger.start c.traffic = some l
  conserved : l.Conserved
  up : l.link = .up ↔ c.connected = true
  down : l.link = .down ↔ Dead c
  balance : ¬ Dead c → l.outstanding + t.outputsOwed = tracked c.outputs + t.outputsHeld

structure Balanced (t : Tally) (c : Worker ω) : Prop where
  records : ∀ i, (c.outputs i).Sound
  leases : LeaseBook t c
  outputs : ∃ l, OutputBook t c l

structure Quiet (c c' : Worker ω) : Prop where
  pool : c'.pool = c.pool
  outputs : c'.outputs = c.outputs
  connected : c'.connected = c.connected
  traffic : c'.traffic = c.traffic

structure Steady (c c' : Worker ω) : Prop where
  connected : c'.connected = c.connected
  traffic : c'.traffic = c.traffic

theorem Quiet.steady {c c' : Worker ω} (h : Quiet c c') : Steady c c' := ⟨h.connected,h.traffic⟩
theorem Steady.trans {c c' c'' : Worker ω} (h : Steady c c') (h' : Steady c' c'') : Steady c c'' :=
  ⟨h'.connected.trans h.connected,h'.traffic.trans h.traffic⟩
theorem Steady.dead_iff {c c' : Worker ω} (h : Steady c c') : Dead c' ↔ Dead c := by
  rw [Dead,Dead,h.traffic]

theorem Balanced.create (w : ω) : Balanced {} (Worker.create w) := by
  have hlive : liveTokens (Worker.create w).pool.leases = 0 :=
    Finset.sum_eq_zero fun _ _ => LeaseKey.held_clear
  refine ⟨fun _ => .empty,⟨?_,?_,?_,?_⟩,Ledger.start,rfl,rfl,?_,?_,?_⟩
  · rw [hlive]
    exact congrArg (· + 0) (Finset.sum_eq_zero fun _ _ => Output.lease_empty).symm
  · rw [hlive]
    exact nodup_zero
  · rw [hlive]
    exact notMem_zero 0
  · exact fun h => absurd hlive h
  · exact ⟨nofun,nofun⟩
  · refine ⟨nofun,fun h => ?_⟩
    cases h
  · intro _
    exact congrArg (· + 0) (Finset.sum_eq_zero fun _ _ => Output.tracked_empty).symm

theorem OutputBook.congr {t u : Tally} {c c' : Worker ω} {l : Ledger} (h : OutputBook t c l)
    (hsteady : Steady c c')
    (hbalance : ¬ Dead c → l.outstanding + u.outputsOwed = tracked c'.outputs + u.outputsHeld) :
    OutputBook u c' l := by
  refine ⟨hsteady.traffic ▸ h.accepted,h.conserved,?_,?_,?_⟩
  · rw [hsteady.connected]
    exact h.up
  · rw [hsteady.dead_iff]
    exact h.down
  · rw [hsteady.dead_iff]
    exact hbalance

theorem Balanced.quiet {t : Tally} {c c' : Worker ω} (h : Balanced t c) (hq : Quiet c c') :
    Balanced t c' := by
  obtain ⟨l,hl⟩ := h.outputs
  refine ⟨hq.outputs ▸ h.records,?_,l,hl.congr hq.steady ?_⟩
  · obtain ⟨hbalance,hdistinct,hnonzero,hattached⟩ := h.leases
    rw [← hq.pool] at hbalance hdistinct hnonzero hattached
    rw [← hq.outputs] at hbalance
    exact ⟨hbalance,hdistinct,hnonzero,hattached⟩
  · rw [hq.outputs]
    exact hl.balance

theorem Balanced.of_dead {t u : Tally} {c : Worker ω} (h : Balanced t c) (hdead : Dead c)
    (howed : u.leasesOwed = t.leasesOwed) (hheld : u.leasesHeld = t.leasesHeld) :
    Balanced u c := by
  obtain ⟨l,hl⟩ := h.outputs
  refine ⟨h.records,?_,l,hl.congr ⟨rfl,rfl⟩ fun hnot => absurd hdead hnot⟩
  obtain ⟨hbalance,hdistinct,hnonzero,hattached⟩ := h.leases
  rw [← howed,← hheld] at hbalance
  exact ⟨hbalance,hdistinct,hnonzero,hattached⟩

theorem Balanced.cancel {t u : Tally} {c : Worker ω} (h : Balanced t c) (p : Multiset Handle)
    (hlo : u.leasesOwed = t.leasesOwed) (hlh : u.leasesHeld = t.leasesHeld)
    (howed : t.outputsOwed = u.outputsOwed + p) (hheld : t.outputsHeld = u.outputsHeld + p) :
    Balanced u c := by
  obtain ⟨l,hl⟩ := h.outputs
  refine ⟨h.records,?_,l,hl.congr ⟨rfl,rfl⟩ fun hnot => ?_⟩
  · obtain ⟨hbalance,hdistinct,hnonzero,hattached⟩ := h.leases
    rw [← hlo,← hlh] at hbalance
    exact ⟨hbalance,hdistinct,hnonzero,hattached⟩
  · have hbalance := hl.balance hnot
    rw [howed,hheld,← add_assoc,← add_assoc] at hbalance
    exact add_right_cancel hbalance

def quietly : Frame (Worker ω) where
  rel := Quiet
  refl _ := ⟨rfl,rfl,rfl,rfl⟩
  trans h h' := ⟨h'.pool.trans h.pool,h'.outputs.trans h.outputs,
    h'.connected.trans h.connected,h'.traffic.trans h.traffic⟩

theorem outside_quiet {α : Type} (f : ω → ω × α) : Keeps quietly (outside f) :=
  fun _ => ⟨rfl,rfl,rfl,rfl⟩
variable (env : Env ω)
theorem closeFds_quiet (fds : List Fd) : Keeps quietly (closeFds env fds) :=
  outside_quiet _
theorem closeMessage_quiet (m : Message) : Keeps quietly (closeMessage env m) :=
  closeFds_quiet env _
theorem sendMessage_quiet (m : Message) : Keeps quietly (sendMessage env m) :=
  outside_quiet _
variable (request : Message)
theorem sendStatusReply_quiet (status : Status)
    (detail : UInt32) : Keeps quietly (sendStatusReply env request status detail) :=
  sendMessage_quiet env _

theorem refuse_quiet (status : Status) (e : Errno) :
    Keeps quietly (refuse env request status e) :=
  (closeMessage_quiet env request).bind fun _ => sendStatusReply_quiet env request status _

theorem passOn_quiet (reply : Message) : Keeps quietly (passOn env reply) :=
  (sendMessage_quiet env reply).bind fun _ =>
    (closeMessage_quiet env reply).bind fun _ => .pure _

theorem sendCachedPrime_quiet (output : Output) :
    Keeps quietly (sendCachedPrime env request output) := by
  refine (Keeps.read _).bind fun encoded => ?_
  cases encoded with
  | none => exact sendStatusReply_quiet env request _ _
  | some encoded => exact sendMessage_quiet env _

theorem allocateReservationId_quiet (sessionId : UInt32) :
    Keeps quietly (allocateReservationId sessionId : Prog ω UInt64) := by
  intro c
  unfold allocateReservationId
  dsimp only
  split
  · exact ⟨rfl,rfl,rfl,rfl⟩
  · exact ⟨rfl,rfl,rfl,rfl⟩

theorem transferUpstream_quiet (sessionId : UInt32) (bufferId : UInt64) :
    Keeps quietly (transferUpstream env sessionId bufferId) :=
  (outside_quiet _).bind fun _ => (outside_quiet _).bind fun _ => (Keeps.read _).bind fun _ =>
    (Keeps.read _).bind fun _ => (closeFds_quiet env _).bind fun _ => Keeps.pure _

section
variable {t : Tally} {c : Worker ω}
variable {u : Tally}
theorem Balanced.setOutput (h : Balanced t c) (i : Fin cacheSlots) {o : Output} (hsound : o.Sound)
    (hlease : u.leasesOwed + (c.outputs i).lease + t.leasesHeld =
      t.leasesOwed + o.lease + u.leasesHeld)
    (htracked : Dead c ∨ u.outputsOwed + (c.outputs i).tracked + t.outputsHeld =
      t.outputsOwed + o.tracked + u.outputsHeld) :
    Balanced u { c with outputs := update c.outputs i o } := by
  obtain ⟨l,hl⟩ := h.outputs
  refine ⟨fun j => ?_,⟨?_,h.leases.distinct,h.leases.nonzero,h.leases.attached⟩,l,
    hl.congr ⟨rfl,rfl⟩ fun hnot => ?_⟩
  · exact Slots.forall_update (P := fun _ => Output.Sound) h.records hsound j
  · have hbalance := h.leases.balance
    have hupdate := leases_update c.outputs i o
    apply add_right_cancel (b := (c.outputs i).lease + t.leasesHeld)
    calc liveTokens c.pool.leases + u.leasesOwed + ((c.outputs i).lease + t.leasesHeld)
        = liveTokens c.pool.leases + (u.leasesOwed + (c.outputs i).lease + t.leasesHeld) := by
          abel
      _ = (liveTokens c.pool.leases + t.leasesOwed) + o.lease + u.leasesHeld := by
          rw [hlease]
          abel
      _ = (Gateway.leases c.outputs + o.lease) + t.leasesHeld + u.leasesHeld := by
          rw [hbalance]
          abel
      _ = _ := by
          rw [← hupdate]
          abel
  · have hbalance := hl.balance hnot
    have hupdate := tracked_update c.outputs i o
    have hmoved := htracked.resolve_left hnot
    apply add_right_cancel (b := (c.outputs i).tracked + t.outputsHeld)
    calc l.outstanding + u.outputsOwed + ((c.outputs i).tracked + t.outputsHeld)
        = l.outstanding + (u.outputsOwed + (c.outputs i).tracked + t.outputsHeld) := by abel
      _ = (l.outstanding + t.outputsOwed) + o.tracked + u.outputsHeld := by
          rw [hmoved]
          abel
      _ = (tracked c.outputs + o.tracked) + t.outputsHeld + u.outputsHeld := by
          rw [hbalance]
          abel
      _ = _ := by
          rw [← hupdate]
          abel
variable {w : ω} {p : Pool cacheSlots}
theorem Balanced.setPool (h : Balanced t c)
    (hbalance : liveTokens p.leases + u.leasesOwed = Gateway.leases c.outputs + u.leasesHeld)
    (hdistinct : (liveTokens p.leases).Nodup) (hnonzero : (0 : UInt64) ∉ liveTokens p.leases)
    (hattached : liveTokens p.leases ≠ 0 → p.attached = true)
    (howed : u.outputsOwed = t.outputsOwed) (hheld : u.outputsHeld = t.outputsHeld) :
    Balanced u { c with world := w, pool := p } := by
  obtain ⟨l,hl⟩ := h.outputs
  refine ⟨h.records,⟨hbalance,hdistinct,hnonzero,hattached⟩,l,hl.congr ⟨rfl,rfl⟩ fun hnot => ?_⟩
  rw [howed,hheld]
  exact hl.balance hnot

theorem Balanced.setPool_of_eq (h : Balanced t c)
    (hlive : liveTokens p.leases = liveTokens c.pool.leases)
    (hattached : c.pool.attached = true → p.attached = true) :
    Balanced t { c with world := w, pool := p } := by
  refine h.setPool ?_ ?_ ?_ ?_ rfl rfl
  · rw [hlive]
    exact h.leases.balance
  · rw [hlive]
    exact h.leases.distinct
  · rw [hlive]
    exact h.leases.nonzero
  · rw [hlive]
    exact fun hne => hattached (h.leases.attached hne)

theorem onPool_leased {f : ω → Pool cacheSlots → Repack.Outcome ω cacheSlots Repacked}
    {width height : UInt32} {signature : Signature}
    {Q : Except Errno Repacked → Worker ω → Prop} (h : Balanced t c)
    (hstep : LeaseStep c.pool width height signature (f c.world c.pool))
    (herror : ∀ e c', Balanced t c' → c'.outputs = c.outputs → Steady c c' → Q (.error e) c')
    (hok : ∀ r c', r.leaseToken ≠ 0 →
      Balanced { t with leasesHeld := t.leasesHeld + {r.leaseToken} } c' →
      c'.outputs = c.outputs → Steady c c' → Q (.ok r) c') : Ends (onPool f) Q c := by
  change Q (f c.world c.pool).result
    { c with world := (f c.world c.pool).world, pool := (f c.world c.pool).pool }
  unfold LeaseStep at hstep
  generalize f c.world c.pool = out at hstep ⊢
  obtain ⟨w,p,result⟩ := out
  cases result with
  | error e =>
    obtain ⟨hlive,hattached⟩ := liveTokens_refused hstep
    exact herror e _ (h.setPool_of_eq hlive hattached) rfl ⟨rfl,rfl⟩
  | ok r =>
    obtain ⟨i,slot,hleased,_⟩ := hstep
    have hlive : liveTokens p.leases = liveTokens c.pool.leases + {r.leaseToken} := by
      rw [hleased.wrote.leases]
      exact liveTokens_acquire r.leaseToken hleased.fresh.free
    refine hok r _ hleased.fresh.ne_zero (h.setPool ?_ ?_ ?_ ?_ rfl rfl) rfl ⟨rfl,rfl⟩
    · rw [hlive,← add_assoc,← h.leases.balance]
      abel
    · rw [hlive,nodup_add]
      refine ⟨h.leases.distinct,nodup_singleton _,?_⟩
      rw [disjoint_singleton]
      exact hleased.fresh.notMem
    · rw [hlive,mem_add,mem_singleton]
      rintro (hzero | hzero)
      · exact h.leases.nonzero hzero
      · exact hleased.fresh.ne_zero hzero.symm
    · exact fun _ => hleased.wrote.attached

theorem Balanced.endLease (h : Balanced t c) {i : Fin cacheSlots}
    {token : UInt64} {slot : Destination} (hkey : c.pool.leases i = ⟨true,token⟩)
    (hwrote : Wrote c.pool p i .clear slot)
    (hleases : u.leasesOwed + t.leasesHeld = t.leasesOwed + u.leasesHeld + {token})
    (howed : u.outputsOwed = t.outputsOwed) (hheld : u.outputsHeld = t.outputsHeld) :
    Balanced u { c with world := w, pool := p } ∧ token ∉ liveTokens p.leases := by
  have hlive := liveTokens_clear hkey
  rw [← hwrote.leases] at hlive
  have hdistinct := h.leases.distinct
  rw [← hlive,nodup_add,disjoint_singleton] at hdistinct
  refine ⟨h.setPool ?_ hdistinct.1 ?_ (fun _ => hwrote.attached) howed hheld,hdistinct.2.2⟩
  · have hbalance := h.leases.balance
    rw [← hlive] at hbalance
    apply add_right_cancel (b := t.leasesHeld)
    calc liveTokens p.leases + u.leasesOwed + t.leasesHeld
        = liveTokens p.leases + (u.leasesOwed + t.leasesHeld) := add_assoc _ _ _
      _ = (liveTokens p.leases + {token} + t.leasesOwed) + u.leasesHeld := by
          rw [hleases]
          abel
      _ = _ := by
          rw [hbalance]
          abel
  · intro hzero
    apply h.leases.nonzero
    rw [← hlive]
    exact mem_add.mpr (.inl hzero)
variable (env : Env ω) {Q : Unit → Worker ω → Prop}
theorem discardLease_ends {token : UInt64}
    (h : Balanced t c) (hne : token ≠ 0) (howed : t.leasesOwed = 0)
    (hheld : t.leasesHeld = u.leasesHeld + {token}) (howed' : u.leasesOwed = 0)
    (hoo : u.outputsOwed = t.outputsOwed) (hoh : u.outputsHeld = t.outputsHeld)
    (hQ : ∀ c', Balanced u c' → c'.outputs = c.outputs → Steady c c' → Q () c') :
    Ends (discardLease env token) Q c := by
  have hlive : token ∈ liveTokens c.pool.leases := by
    have hbalance := h.leases.balance
    rw [howed,add_zero] at hbalance
    rw [hbalance,hheld]
    simp
  have hattached := h.leases.attached fun hzero => by
    rw [hzero] at hlive
    exact notMem_zero _ hlive
  have hok := poolDiscard_isOk env.gpu env.os c.world hattached hne hlive
  have hstep := poolDiscard_step env.gpu env.os c.world c.pool token
  unfold EndStep at hstep
  change Q () { c with
    world := (poolDiscard env.gpu env.os c.world c.pool token).world
    pool := (poolDiscard env.gpu env.os c.world c.pool token).pool }
  rw [hok] at hstep
  obtain ⟨i,slot,hkey,hwrote,_⟩ := hstep
  refine hQ _ (h.endLease hkey hwrote ?_ hoo hoh).1 rfl ⟨rfl,rfl⟩
  rw [howed,howed',hheld,zero_add,zero_add]

theorem forgetOutput_ends (i : Fin cacheSlots) (h : Balanced t c)
    (hlease : u.leasesOwed + (c.outputs i).lease + t.leasesHeld = t.leasesOwed + u.leasesHeld)
    (htracked : Dead c ∨ u.outputsOwed + (c.outputs i).tracked + t.outputsHeld =
      t.outputsOwed + u.outputsHeld)
    (hQ : ∀ c', Balanced u c' → c'.outputs = update c.outputs i .empty → Steady c c' →
      Q () c') : Ends (forgetOutput env i) Q c := by
  refine .bind (.read (.bind ((closeFds_quiet env _).ends fun _ c1 hq => ?_)))
  refine .update (hQ _ ((h.quiet hq).setOutput i .empty ?_ ?_) ?_
    ⟨hq.connected,hq.traffic⟩)
  · rw [hq.outputs,Output.lease_empty,add_zero]
    exact hlease
  · rw [hq.outputs,Output.tracked_empty,add_zero,hq.steady.dead_iff]
    exact htracked
  · rw [hq.outputs]

theorem discardOutput_ends (i : Fin cacheSlots) (owed : Multiset Handle) (h : Balanced t c)
    (hlease : t.leasesOwed = 0 ∨ t.leasesOwed = (c.outputs i).lease ∧
    (c.outputs i).repackLeaseToken ∉ liveTokens c.pool.leases)
    (htracked : Dead c ∨ owed + (c.outputs i).tracked = t.outputsOwed)
    (hQ : ∀ c', Balanced { t with leasesOwed := 0, outputsOwed := owed } c' →
      c'.outputs = update c.outputs i .empty → Steady c c' → Q () c') :
    Ends (discardOutput env i) Q c := by
  have htracked' : Dead c ∨ owed + (c.outputs i).tracked + t.outputsHeld =
      t.outputsOwed + t.outputsHeld := htracked.imp_right fun heq => by rw [heq]
  refine .bind (.read (.bind ?_))
  by_cases hzero : (c.outputs i).repackLeaseToken = 0
  · have hnone : (c.outputs i).lease = 0 := if_pos hzero
    rw [Program.whenever,if_neg (not_not.mpr hzero)]
    refine .pure (forgetOutput_ends env i h ?_ htracked' hQ)
    rcases hlease with howed | ⟨howed, -⟩ <;> rw [howed,hnone] <;> simp
  · rw [Program.whenever,if_pos hzero]
    have hsingle := Output.lease_eq_singleton hzero
    have hstep := poolDiscard_step env.gpu env.os c.world c.pool (c.outputs i).repackLeaseToken
    have hok := fun hattached => poolDiscard_isOk (p := c.pool) env.gpu env.os c.world hattached hzero
    change Ends (forgetOutput env i) Q { c with
      world := (poolDiscard env.gpu env.os c.world c.pool (c.outputs i).repackLeaseToken).world
      pool := (poolDiscard env.gpu env.os c.world c.pool (c.outputs i).repackLeaseToken).pool }
    generalize poolDiscard env.gpu env.os c.world c.pool (c.outputs i).repackLeaseToken = d at *
    unfold EndStep at hstep
    rcases hlease with howed | ⟨howed,hgone⟩
    · -- The lease is live: it goes with the record.
      have hlive : (c.outputs i).repackLeaseToken ∈ liveTokens c.pool.leases := by
        have hbalance := h.leases.balance
        rw [howed,add_zero] at hbalance
        rw [hbalance]
        refine mem_add.mpr (.inl (mem_leases.mpr ⟨i,?_⟩))
        rw [hsingle]
        exact mem_singleton_self _
      have hattached := h.leases.attached fun hempty => by
        rw [hempty] at hlive
        exact notMem_zero _ hlive
      rw [hok hattached hlive] at hstep
      obtain ⟨j,slot,hkey,hwrote,_⟩ := hstep
      have hended := (h.endLease (w := d.world) (u := { t with leasesOwed := (c.outputs i).lease })
        hkey hwrote (by
          rw [howed,hsingle]
          abel) rfl rfl).1
      exact forgetOutput_ends (u := { t with leasesOwed := 0, outputsOwed := owed }) env i hended
        (congrArg (· + t.leasesHeld) (zero_add _)) htracked'
        fun c' hbalanced houtputs hsteady =>
          hQ c' hbalanced houtputs ⟨hsteady.connected,hsteady.traffic⟩
    · -- The lease is gone and the pool does not find it.
      have hsame : d.pool = c.pool := by
        split at hstep
        · exact hstep
        · obtain ⟨j,slot,hkey,_⟩ := hstep
          exact absurd (mem_liveTokens.mpr ⟨j,by rw [hkey],by rw [hkey]⟩) hgone
      have hpool := h.setPool_of_eq (w := d.world) (p := d.pool) (by rw [hsame])
        (by rw [hsame]; exact id)
      refine forgetOutput_ends (u := { t with leasesOwed := 0, outputsOwed := owed }) env i hpool
        ?_ htracked' fun c' hbalanced houtputs hsteady =>
          hQ c' hbalanced houtputs ⟨hsteady.connected,hsteady.traffic⟩
      rw [howed]
      exact congrArg (· + t.leasesHeld) (zero_add _)
end
end LinDeX.Gateway
