import LinDeX.Gateway.Balance

/-!
# Every request keeps the balance

Each handler is followed with the tally of what it holds. It ends with the books in balance whatever
the broker answers, and with a failure if it has poisoned the connection.
-/
namespace LinDeX.Gateway
open Bytes Dmabuf Repack Program Function Multiset
variable {ω : Type}
section
variable {t : Tally} {c : Worker ω}
theorem OutputBook.snoc {u : Tally} {l l' : Ledger} {e : Traffic} (h : OutputBook t c l)
    (hstep : l.step e = some l') (hconserved : l'.Conserved) (hlink : l'.link = .up)
    (hevent : e ≠ .poisoned) (hlive : ¬ Dead c)
    (hbalance : l'.outstanding + u.outputsOwed = tracked c.outputs + u.outputsHeld) :
    OutputBook u { c with connected := true, traffic := c.traffic ++ [e] } l' := by
  have hdead : ¬ Dead { c with connected := true, traffic := c.traffic ++ [e] } := by
    intro hmem
    rcases List.mem_append.mp hmem with hmem | hmem
    · exact hlive hmem
    · exact hevent (List.mem_singleton.mp hmem).symm
  refine ⟨accepts_snoc h.accepted hstep,hconserved,iff_of_true hlink rfl,?_,fun _ => hbalance⟩
  rw [hlink]
  exact iff_of_false (by decide) hdead

theorem dead_snoc {event : Traffic} {b : Bool} (hevent : event ≠ .poisoned) (hlive : ¬ Dead c) :
    ¬ Dead { c with connected := b, traffic := c.traffic ++ [event] } := by
  intro hmem
  rcases List.mem_append.mp hmem with hmem | hmem
  · exact hlive hmem
  · exact hevent (List.mem_singleton.mp hmem).symm

theorem LeaseBook.congr {u : Tally} {c' : Worker ω} (h : LeaseBook t c) (hpool : c'.pool = c.pool)
    (houtputs : c'.outputs = c.outputs) (howed : u.leasesOwed = t.leasesOwed)
    (hheld : u.leasesHeld = t.leasesHeld) : LeaseBook u c' := by
  obtain ⟨hbalance,hdistinct,hnonzero,hattached⟩ := h
  rw [← hpool] at hbalance hdistinct hnonzero hattached
  rw [← houtputs,← howed,← hheld] at hbalance
  exact ⟨hbalance,hdistinct,hnonzero,hattached⟩
variable (env : Env ω) {Q : Bool → Worker ω → Prop}
theorem ensureUpstream_ends (h : Balanced t c) (hlive : ¬ Dead c)
    (hfail : ∀ c', Balanced t c' → Q false c')
    (hok : ∀ c', Balanced t c' → c'.outputs = c.outputs → c'.connected = true → ¬ Dead c' →
      Q true c') : Ends (ensureUpstream env) Q c := by
  refine .read_bind ?_
  cases hconnected : c.connected with
  | true => exact .pure (hok c h rfl hconnected hlive)
  | false =>
    rw [if_neg (by decide)]
    refine .bind ((outside_quiet env.connect).ends fun ok c1 hq => .bind ?_)
    have hlive1 : ¬ Dead c1 := fun hdead => hlive (hq.steady.dead_iff.mp hdead)
    have hbalanced := h.quiet hq
    cases ok with
    | false =>
      rw [Program.whenever,if_neg (by decide)]
      exact .pure (.pure (hfail c1 hbalanced))
    | true =>
      rw [Program.whenever,if_pos rfl]
      refine .update (.pure (hok _ ?_ hq.outputs rfl ?_))
      · obtain ⟨l,hl⟩ := hbalanced.outputs
        have hclosed : l.link = .closed := by
          have hup : l.link ≠ .up := by
            rw [Ne,hl.up,hq.connected,hconnected]
            decide
          have hdown : l.link ≠ .down := fun hlink => hlive1 (hl.down.mp hlink)
          cases hlink : l.link
          · rfl
          · exact absurd hlink hup
          · exact absurd hlink hdown
        refine ⟨hbalanced.records,hbalanced.leases.congr rfl rfl rfl rfl,
          { l with link := .up },hl.snoc (if_pos hclosed) hl.conserved rfl (by simp) hlive1 ?_⟩
        exact hl.balance hlive1
      · exact dead_snoc (by simp) hlive1

def Opened (c : Worker ω) : Prop := c.connected = true ∨ Dead c

theorem Steady.opened {c' : Worker ω} (h : Steady c c') (hopened : Opened c) : Opened c' := by
  rw [Opened,h.connected,h.dead_iff]
  exact hopened

theorem poisonUpstream_ends {Q : Unit → Worker ω → Prop} (h : Balanced t c)
    (hQ : ∀ c', Balanced t c' → c'.outputs = c.outputs → (Opened c → Dead c') → Q () c') :
    Ends (poisonUpstream : Prog ω Unit) Q c := by
  refine .update ?_
  split
  · rename_i hconnected
    have hdead : Dead { c with connected := false, traffic := c.traffic ++ [.poisoned] } :=
      List.mem_append_right _ (List.mem_singleton_self _)
    refine hQ _ ?_ rfl fun _ => hdead
    obtain ⟨l,hl⟩ := h.outputs
    refine ⟨h.records,h.leases.congr rfl rfl rfl rfl,{ l with link := .down },
      accepts_snoc hl.accepted (if_pos (hl.up.mpr hconnected)),hl.conserved,?_,?_,?_⟩
    · exact ⟨nofun,nofun⟩
    · exact iff_of_true rfl hdead
    · exact fun hnot => absurd hdead hnot
  · rename_i hconnected
    exact hQ c h rfl fun hopened => hopened.resolve_left hconnected

def settled (request reply : Message) (outputs : Fin cacheSlots → Output) : Tally :=
  match Opcode.ofCode request.header.opcode with
  | some .dequeueOutput =>
    match dequeuedHandle request reply with
    | some h => { outputsHeld := {h} }
    | none => {}
  | some .releaseOutput =>
    if replyStatusIsOk reply ∧ namedHandle request ∈ tracked outputs then
      { outputsOwed := {namedHandle request} }
    else {}
  | some .flush | some .closeSession =>
    if replyStatusIsOk reply then
      { outputsOwed := (tracked outputs).filter fun h => h.1 = request.header.sessionId }
    else {}
  | _ => {}
variable (request reply : Message)
theorem settled_leases (outputs : Fin cacheSlots → Output) :
    (settled request reply outputs).leasesOwed = 0 ∧
    (settled request reply outputs).leasesHeld = 0 := by
  unfold settled
  split
  · split <;> exact ⟨rfl,rfl⟩
  · split <;> exact ⟨rfl,rfl⟩
  · split <;> exact ⟨rfl,rfl⟩
  · split <;> exact ⟨rfl,rfl⟩
  · exact ⟨rfl,rfl⟩
variable {outputs : Fin cacheSlots → Output}
theorem answer_outstanding {l : Ledger}
    (h : l.outstanding = tracked outputs) (request reply : Message) :
    (l.answer request reply).outstanding + (settled request reply outputs).outputsOwed =
      tracked outputs + (settled request reply outputs).outputsHeld := by
  have hclear : (l.clear request.header.sessionId).outstanding +
      (tracked outputs).filter (fun h => h.1 = request.header.sessionId) = tracked outputs := by
    rw [Ledger.clear,← h,add_comm,filter_add_not]
  have hsame : l.outstanding + 0 = tracked outputs + 0 := congrArg (· + 0) h
  unfold Ledger.answer settled
  generalize Opcode.ofCode request.header.opcode = op
  cases op with
  | none => exact hsame
  | some op =>
    cases op with
    | dequeueOutput =>
      generalize dequeuedHandle request reply = dequeued
      cases dequeued with
      | some p => exact (add_zero _).trans (congrArg (· + {p}) h)
      | none => exact hsame
    | releaseOutput =>
      dsimp only
      by_cases hok : replyStatusIsOk reply = true
      · by_cases hmem : namedHandle request ∈ tracked outputs
        · rw [if_pos hok,if_pos ⟨hok,hmem⟩,Ledger.giveBack,if_pos (h ▸ hmem),h,add_comm,
            singleton_add,cons_erase hmem,add_zero]
        · rw [if_pos hok,if_neg fun hboth => hmem hboth.2,Ledger.giveBack,if_neg (h ▸ hmem),h]
      · rw [if_neg hok,if_neg fun hboth => hok hboth.1,h]
    | flush | closeSession =>
      dsimp only
      split
      · exact hclear.trans (add_zero _).symm
      · exact hsame
    | _ => exact hsame

theorem settled_withMinor (minor : UInt16) (outputs : Fin cacheSlots → Output) :
    settled request (Message.withMinor reply minor) outputs = settled request reply outputs := rfl

theorem exchangeUpstream_ends
    {Q : Option Message → Worker ω → Prop} (h : Balanced {} c) (hlive : ¬ Dead c)
    (hnone : ∀ c', Balanced {} c' → Q none c')
    (hsome : ∀ reply c', Balanced (settled request reply c.outputs) c' → c'.outputs = c.outputs →
      c'.connected = true → ¬ Dead c' → Q (some reply) c') :
    Ends (exchangeUpstream env request) Q c := by
  refine .bind (ensureUpstream_ends env h hlive (fun c1 h1 => .pure (hnone c1 h1)) ?_)
  intro c1 h1 houtputs1 hconnected1 hlive1
  rw [if_neg (by decide)]
  refine .bind ((outside_quiet _).ends fun incoming c2 hq2 => .read_bind ?_)
  refine .bind ((closeFds_quiet env _).ends fun _ c3 hq3 => ?_)
  have hq : Quiet c1 c3 := quietly.trans hq2 hq3
  have h3 := h1.quiet hq
  split
  · exact .bind (poisonUpstream_ends h3 fun c4 h4 _ _ => .pure (hnone c4 h4))
  · rename_i reply _
    split
    · refine .bind ((closeMessage_quiet env reply).ends fun _ c4 hq4 => ?_)
      exact .bind (poisonUpstream_ends (h3.quiet hq4) fun c5 h5 _ _ =>
        Ends.pure (hnone c5 h5))
    · have hlive3 : ¬ Dead c3 := fun hdead => hlive1 (hq.steady.dead_iff.mp hdead)
      have hconnected3 : c3.connected = true := hq.connected.trans hconnected1
      have houtputs3 : c3.outputs = c.outputs := hq.outputs.trans houtputs1
      refine .bind (.update (.pure (hsome _ _ ?_ houtputs3 hconnected3 ?_)))
      · rw [settled_withMinor]
        obtain ⟨hlo,hlh⟩ := settled_leases request reply c.outputs
        obtain ⟨l,hl⟩ := h3.outputs
        have hup := hl.up.mpr hconnected3
        have houtstanding : l.outstanding = tracked c.outputs := by
          have hbalance := hl.balance hlive3
          rw [houtputs3] at hbalance
          exact add_right_cancel hbalance
        refine ⟨h3.records,h3.leases.congr rfl rfl hlo hlh,l.answer request reply,?_⟩
        have hbook := hl.snoc (u := settled request reply c.outputs)
          (e := .answered request reply) (if_pos hup) (hl.conserved.answer request reply)
          ((l.answer_link request reply).trans hup) nofun hlive3
          (houtputs3 ▸ answer_outstanding houtstanding request reply)
        rwa [← hconnected3] at hbook
      · exact dead_snoc nofun hlive3
variable (sessionId : UInt32) (bufferId : UInt64)
theorem releaseUpstreamOutput_ends (fence : Fd) (h : Balanced t c) (hconnected : c.connected = true)
    (hlive : ¬ Dead c) (howed : t.outputsOwed = 0)
    (hmem : (sessionId, bufferId) ∈ tracked c.outputs + t.outputsHeld)
    (hfail : ∀ c', Balanced t c' → c'.outputs = c.outputs → Dead c' → Q false c')
    (hok : ∀ c', Balanced { t with outputsOwed := {(sessionId, bufferId)} } c' →
      c'.outputs = c.outputs → c'.connected = true → ¬ Dead c' → Q true c') :
    Ends (releaseUpstreamOutput env sessionId bufferId fence) Q c := by
  refine .bind ((outside_quiet _).ends fun requestId c1 hq1 => .bind ?_)
  refine (outside_quiet _).ends fun incoming c2 hq2 => .bind (.read (.bind ?_))
  refine (closeFds_quiet env _).ends fun _ c3 hq3 => ?_
  have hq : Quiet c c3 := quietly.trans hq1 (quietly.trans hq2 hq3)
  have h3 := h.quiet hq
  have hconnected3 : c3.connected = true := hq.connected.trans hconnected
  have hlive3 : ¬ Dead c3 := fun hdead => hlive (hq.steady.dead_iff.mp hdead)
  split
  · refine .bind (.update (.pure (hok _ ?_ hq.outputs hconnected3 ?_)))
    · obtain ⟨l,hl⟩ := h3.outputs
      have hup := hl.up.mpr hconnected3
      have hbalance := hl.balance hlive3
      rw [howed,add_zero] at hbalance
      have hout : (sessionId, bufferId) ∈ l.outstanding := by
        rw [hbalance,hq.outputs]
        exact hmem
      refine ⟨h3.records,h3.leases.congr rfl rfl rfl rfl,l.giveBack (sessionId, bufferId),?_⟩
      have hbook := hl.snoc (u := { t with outputsOwed := {(sessionId, bufferId)} })
        (e := .released sessionId bufferId) (if_pos ⟨hup,hout⟩)
        (hl.conserved.giveBack _) ((l.giveBack_link _).trans hup) nofun hlive3 (by
          rw [Ledger.giveBack,if_pos hout,← hbalance,add_comm,singleton_add,cons_erase hout])
      rwa [← hconnected3] at hbook
    · exact dead_snoc nofun hlive3
  · exact .bind (poisonUpstream_ends h3 fun c4 h4 houtputs4 hdead4 =>
      Ends.pure (hfail c4 h4 (houtputs4.trans hq.outputs) (hdead4 (.inl hconnected3))))

/-- The record that `allocate_output` leaves. -/
def newOutput (sessionId : UInt32) (bufferId : UInt64) : Output :=
  { Output.empty with used := true, sessionId := sessionId, bufferId := bufferId }

theorem newOutput_sound : (newOutput sessionId bufferId).Sound :=
  ⟨fun h => absurd rfl h,fun h => absurd rfl h,nofun⟩

theorem allocateOutput_ends {Q : Except Errno (Fin cacheSlots) → Worker ω → Prop} (h : Balanced t c)
    (howed : t.leasesOwed = 0) (herror : ∀ e, Q (.error e) c)
    (hok : ∀ i c', Balanced { t with outputsOwed := t.outputsOwed + {(sessionId, bufferId)} } c' →
      c'.outputs i = newOutput sessionId bufferId → Steady c c' → Q (.ok i) c') :
    Ends (allocateOutput env sessionId bufferId) Q c := by
  refine .read_bind ?_
  split
  · exact .pure (herror _)
  split
  · exact .pure (herror _)
  · rename_i i hfind
    have hunused : (c.outputs i).used = false := by simpa using Slots.find_some hfind
    refine .bind (discardOutput_ends env i t.outputsOwed h (.inl howed)
      (.inr (by rw [Output.tracked_of_unused hunused,add_zero])) fun c1 h1 houtputs1 hsteady => ?_)
    have hempty : c1.outputs i = .empty := by rw [houtputs1,update_self]
    refine .bind (.update (.pure (hok i _ ?_ (update_self _ _ _)
      ⟨hsteady.connected,hsteady.traffic⟩)))
    refine h1.setOutput i (newOutput_sound ..) ?_ (.inr ?_)
    · rw [hempty]
      exact congrArg (· + t.leasesHeld) (congrArg (· + 0) howed)
    · rw [hempty]
      exact congrArg (· + t.outputsHeld) (add_zero _)

/-- A handler is done: the books are in balance, and a success leaves the connection alive. -/
def Done (ok : Bool) (c : Worker ω) : Prop := Balanced {} c ∧ (ok = true → ¬ Dead c)

theorem Balanced.live (h : Balanced t c) (hconnected : c.connected = true) : ¬ Dead c := by
  obtain ⟨l,hl⟩ := h.outputs
  intro hdead
  cases (hl.up.mpr hconnected).symm.trans (hl.down.mpr hdead)

theorem done_of_quiet {m : Prog ω Bool} (hm : Keeps quietly m) (h : Balanced {} c)
    (hlive : ¬ Dead c) : Ends m Done c :=
  hm.ends fun _ _ hq => ⟨h.quiet hq,fun _ hdead => hlive (hq.steady.dead_iff.mp hdead)⟩

/-- The start of every handler that forwards its request. -/
theorem exchanged_ends {rest : Option Message → Prog ω Bool} (h : Balanced {} c) (hlive : ¬ Dead c)
    (hnone : rest none = pure false)
    (hsome : ∀ reply c', Balanced (settled request reply c.outputs) c' → c'.outputs = c.outputs →
      c'.connected = true → Ends (rest (some reply)) Done c') :
    Ends (do
      let reply? ← exchangeUpstream env request
      closeMessage env request
      rest reply?) Done c := by
  refine .bind (exchangeUpstream_ends env request h hlive (fun c1 h1 => ?_)
    fun reply c1 h1 houtputs hconnected _ => ?_)
  · refine .bind ((closeMessage_quiet env request).ends fun _ c2 hq => ?_)
    rw [hnone]
    exact ⟨h1.quiet hq,nofun⟩
  · exact .bind ((closeMessage_quiet env request).ends fun _ c2 hq =>
      hsome reply c2 (h1.quiet hq) (hq.outputs.trans houtputs) (hq.connected.trans hconnected))

theorem forwardRequest_ends (h : Balanced {} c)
    (hlive : ¬ Dead c) (hsettled : ∀ reply, settled request reply c.outputs = {}) :
    Ends (forwardRequest env request) Done c := by
  refine exchanged_ends env request h hlive rfl fun reply c1 h1 _ hconnected => ?_
  rw [hsettled] at h1
  exact done_of_quiet (passOn_quiet env reply) h1 (h1.live hconnected)

theorem handleHello_ends
    (hop : Opcode.ofCode request.header.opcode = some .hello) (h : Balanced {} c)
    (hlive : ¬ Dead c) : Ends (handleHello env request) Done c := by
  refine exchanged_ends env request h hlive rfl fun reply c1 h1 _ hconnected => ?_
  rw [settled,hop] at h1
  dsimp only
  split
  · exact done_of_quiet (passOn_quiet env _) h1 (h1.live hconnected)
  · exact done_of_quiet (passOn_quiet env _) h1 (h1.live hconnected)

theorem handleTransferPrime_ends
    (hop : Opcode.ofCode request.header.opcode = some .transferPrime) (h : Balanced {} c)
    (hlive : ¬ Dead c) : Ends (handleTransferPrime env request) Done c := by
  unfold handleTransferPrime
  split
  · exact done_of_quiet (refuse_quiet env request _ _) h hlive
  · refine .read_bind ?_
    split
    · exact forwardRequest_ends env request h hlive fun reply => by rw [settled,hop]
    · exact done_of_quiet (sendCachedPrime_quiet env request _) h hlive

theorem reservationOutput_sound (id ptsNs : UInt64) (r : Repacked) :
    (reservationOutput sessionId id ptsNs r).Sound := ⟨fun _ => rfl,fun _ => rfl,fun _ => rfl⟩

theorem handleReserveLinear_ends (h : Balanced {} c)
    (hlive : ¬ Dead c) : Ends (handleReserveLinear env request) Done c := by
  refine .read_bind ?_
  split
  · exact done_of_quiet (refuse_quiet env request _ _) h hlive
  refine .bind ((allocateReservationId_quiet _).ends fun id c1 hq1 => .bind ?_)
  have h1 := h.quiet hq1
  have hlive1 : ¬ Dead c1 := fun hdead => hlive (hq1.steady.dead_iff.mp hdead)
  refine onPool_leased h1 (reserve_step env.gpu env.os c1.world c1.pool _ _ id)
    (fun e c2 h2 _ hsteady => ?_) fun r c2 htoken h2 _ hsteady => ?_
  · exact done_of_quiet (refuse_quiet env request _ _) h2 fun hdead =>
      hlive1 (hsteady.dead_iff.mp hdead)
  have hlive2 : ¬ Dead c2 := fun hdead => hlive1 (hsteady.dead_iff.mp hdead)
  refine .bind (allocateOutput_ends env _ id h2 rfl (fun e => ?_) fun i c3 h3 hi hsteady3 => ?_)
  · refine .bind (discardLease_ends (u := {}) env h2 htoken rfl rfl rfl rfl rfl
      fun c3 h3 _ hsteady3 => ?_)
    refine .bind ((closeFds_quiet env _).ends fun _ c4 hq4 => ?_)
    exact done_of_quiet (refuse_quiet env request _ _) (h3.quiet hq4) fun hdead =>
      hlive2 (hsteady3.dead_iff.mp (hq4.steady.dead_iff.mp hdead))
  · generalize houtput : reservationOutput request.header.sessionId id _ r = output
    have hreleased : output.upstreamReleased = true := by rw [← houtput]; rfl
    have hlease : output.lease = {r.leaseToken} := by
      rw [← houtput]
      exact if_neg htoken
    have hsound : output.Sound := houtput ▸ reservationOutput_sound _ _ _ _
    have h4 : Balanced {} { c3 with outputs := update c3.outputs i output } := by
      refine h3.setOutput i hsound ?_ (.inr ?_)
      · rw [hi,hlease]
        simp [newOutput,Output.lease,Output.empty]
      · rw [hi,Output.tracked_of_released hreleased]
        simp [newOutput,Output.tracked,Output.empty]
    have hlive3 : ¬ Dead c3 := fun hdead => hlive2 (hsteady3.dead_iff.mp hdead)
    refine .bind (.update (.bind ((sendCachedPrime_quiet env request output).ends
      fun sent c5 hq5 => .bind ((closeMessage_quiet env request).ends fun _ c6 hq6 => ?_))))
    have hq : Quiet _ c6 := quietly.trans hq5 hq6
    have h6 := h4.quiet hq
    have hi6 : c6.outputs i = output := by
      rw [hq.outputs]
      exact update_self _ _ _
    have hlive6 : ¬ Dead c6 := fun hdead => hlive3 (hq.steady.dead_iff.mp hdead)
    refine .bind ?_
    unfold Program.whenever
    split
    · rename_i hsent
      refine discardOutput_ends env i 0 h6 (.inl rfl) (.inr ?_) fun c7 h7 _ _ =>
        Ends.pure ⟨h7,?_⟩
      · rw [hi6,Output.tracked_of_released hreleased]
        rfl
      · rw [hsent]
        exact fun hdone => Bool.noConfusion hdone
    · exact .pure (.pure ⟨h6,fun _ => hlive6⟩)

/-- What `goto fail_output` may rely on: the output is held, unless the connection is given up. -/
structure Failed (sessionId : UInt32) (failure : Failure) (held : Multiset Handle) (c : Worker ω) :
    Prop where
  balanced : Balanced { outputsHeld := held } c
  opened : Opened c
  held : failure.errno = .eproto ∨
    failure.bufferId ≠ 0 ∧ held = {(sessionId, failure.bufferId)}
  reservation : ∀ i, failure.reservation = some i → (c.outputs i).tracked = 0

theorem discardRecord_ends (record : Option (Fin cacheSlots))
    {Q : Unit → Worker ω → Prop} (h : Balanced t c) (howed : t.leasesOwed = 0)
    (htracked : ∀ i, record = some i → Dead c ∨ (c.outputs i).tracked = 0)
    (hQ : ∀ c', Balanced t c' → (∀ i, record = some i → c'.outputs i = .empty) → Steady c c' →
      Q () c') : Ends (discardRecord env record) Q c := by
  cases record with
  | none => exact hQ c h nofun ⟨rfl,rfl⟩
  | some i =>
    refine discardOutput_ends env i t.outputsOwed h (.inl howed) ?_
      fun c' h' houtputs hsteady => hQ c' ?_ ?_ hsteady
    · exact (htracked i rfl).imp_right fun hzero => by rw [hzero,add_zero]
    · rw [← howed] at h'
      exact h'
    · rintro j ⟨⟩
      rw [houtputs,update_self]

theorem giveBack_ends (hne : bufferId ≠ 0)
    (h : Balanced { outputsHeld := {(sessionId, bufferId)} } c) (hopened : Opened c)
    (hfail : ∀ c', Balanced {} c' → Dead c' → Q false c')
    (hok : ∀ c', Balanced {} c' → ¬ Dead c' → Q true c') :
    Ends (giveBack env sessionId bufferId) Q c := by
  refine .read_bind ?_
  rw [if_neg hne]
  by_cases hconnected : c.connected = true
  · rw [if_pos hconnected]
    refine releaseUpstreamOutput_ends env sessionId bufferId (-1) h hconnected (h.live hconnected)
      rfl (mem_add.mpr (.inr (mem_singleton_self _)))
      (fun c1 h1 _ hdead => hfail c1 (h1.of_dead hdead rfl rfl) hdead)
      fun c1 h1 _ _ hlive => hok c1 ?_ hlive
    exact h1.cancel {(sessionId, bufferId)} rfl rfl (zero_add _).symm (zero_add _).symm
  · rw [if_neg hconnected]
    have hdead := hopened.resolve_left hconnected
    exact .pure (hfail c (h.of_dead hdead rfl rfl) hdead)

theorem failOutput_ends (failure : Failure)
    {held : Multiset Handle} (h : Failed request.header.sessionId failure held c) :
    Ends (failOutput env request reply failure) Done c := by
  refine .bind (discardRecord_ends env failure.reservation h.balanced rfl
    (fun i hi => .inr (h.reservation i hi)) fun c1 h1 _ hsteady => ?_)
  refine .bind ((closeFds_quiet env _).ends fun _ c2 hq2 => .bind ?_)
  refine (closeMessage_quiet env reply).ends fun _ c3 hq3 => ?_
  have hq : Quiet c1 c3 := quietly.trans hq2 hq3
  have h3 := h1.quiet hq
  have hopened : Opened c3 := hq.steady.opened (hsteady.opened h.opened)
  split
  · exact .bind (poisonUpstream_ends h3 fun c4 h4 _ hdead =>
      Ends.pure ⟨h4.of_dead (hdead hopened) rfl rfl,nofun⟩)
  · rename_i herrno
    obtain ⟨hne,rfl⟩ := h.held.resolve_left herrno
    refine .bind (giveBack_ends env _ _ hne h3 hopened (fun c4 h4 hdead => ?_)
      fun c4 h4 hlive => ?_)
    · exact .bind (poisonUpstream_ends h4 fun c5 h5 _ _ => .pure ⟨h5,nofun⟩)
    · exact done_of_quiet (sendStatusReply_quiet env request _ _) h4 hlive

/-- What a source that was dequeued has come to: a record that accounts for it, or it is held. -/
def Placed (p : Handle) (reservation : Option (Fin cacheSlots)) :
    Except Errno Message → Worker ω → Prop
  | .ok _, c => Balanced {} c ∧ ¬ Dead c
  | .error _, c => Balanced { outputsHeld := {p} } c ∧ Opened c ∧
      ∀ i, reservation = some i → (c.outputs i).tracked = 0

def LeaseGone (token : UInt64) (owed : Multiset UInt64) (c : Worker ω) : Prop :=
  owed = 0 ∨ owed = {token} ∧ token ∉ liveTokens c.pool.leases

theorem onPool_reserved {f : ω → Pool cacheSlots → Repack.Outcome ω cacheSlots Repacked}
    {token : UInt64} {Q : Except Errno Repacked → Worker ω → Prop} (h : Balanced t c)
    (howed : t.leasesOwed = 0) (hstep : ReservedStep c.pool token (f c.world c.pool))
    (herror : ∀ e owed c', Balanced { t with leasesOwed := owed } c' → LeaseGone token owed c' →
      c'.outputs = c.outputs → Steady c c' → Q (.error e) c')
    (hok : ∀ r c', r.leaseToken = token → Balanced t c' → c'.outputs = c.outputs → Steady c c' →
      Q (.ok r) c') : Ends (onPool f) Q c := by
  change Q (f c.world c.pool).result
    { c with world := (f c.world c.pool).world, pool := (f c.world c.pool).pool }
  generalize f c.world c.pool = out at hstep ⊢
  obtain ⟨w,p,result⟩ := out
  have hsame : { t with leasesOwed := 0 } = t := by rw [← howed]
  rcases hstep with ⟨hkept,e,rfl⟩ | ⟨i,hkey,hslot⟩
  · refine herror e 0 _ ?_ (.inl rfl) rfl ⟨rfl,rfl⟩
    rw [hsame]
    exact h.setPool_of_eq (by rw [hkept.leases]) hkept.attached
  · unfold SlotStep at hslot
    cases result with
    | error e =>
      obtain ⟨hbalanced,hgone⟩ := h.endLease (w := w) (u := { t with leasesOwed := {token} })
        hkey hslot (by
          rw [howed,zero_add,add_comm]) rfl rfl
      exact herror e {token} _ hbalanced (.inr ⟨rfl,hgone⟩) rfl ⟨rfl,rfl⟩
    | ok r =>
      obtain ⟨htoken,slot,hwrote,_⟩ := hslot
      have hleases : p.leases = c.pool.leases := by
        rw [hwrote.leases,← hkey,update_eq_self]
      exact hok r _ htoken (h.setPool_of_eq (by rw [hleases]) fun _ => hwrote.attached) rfl
        ⟨rfl,rfl⟩

theorem replaceFailed_none_ends (cached : Option (Fin cacheSlots)) (token : UInt64)
    (fds : List Fd) (e : Errno) {p : Handle}
    (h : Balanced { leasesHeld := if token = 0 then 0 else {token}, outputsHeld := {p} } c)
    (hopened : Opened c) (hcached : ∀ i, cached = some i → Dead c) :
    Ends (replaceFailed env none cached token fds e) (Placed p none) c := by
  have hfinish (c1 : Worker ω) (h1 : Balanced { outputsHeld := {p} } c1) (hsteady : Steady c c1) :
      Ends (do
        closeFds env fds
        discardRecord env (if (none : Option (Fin cacheSlots)) = none then cached else none)
        let e ← errnoAfter env e
        return .error e) (Placed p none) c1 := by
    refine .bind ((closeFds_quiet env fds).ends fun _ c2 hq => .bind ?_)
    rw [if_pos rfl]
    refine discardRecord_ends env cached (h1.quiet hq) rfl (fun i hi => .inl ?_)
      fun c3 h3 _ hsteady3 => ?_
    · exact hq.steady.dead_iff.mpr (hsteady.dead_iff.mpr (hcached i hi))
    · exact .bind (.read (.pure
        ⟨h3,hsteady3.opened (hq.steady.opened (hsteady.opened hopened)),nofun⟩))
  refine .bind (.pure (.bind ?_))
  unfold Program.whenever
  split
  · rename_i hand
    rw [if_neg hand.2] at h
    exact discardLease_ends (u := { outputsHeld := {p} }) env h hand.2 rfl (zero_add _).symm rfl
      rfl rfl fun c1 h1 _ hsteady => hfinish c1 h1 hsteady
  · rename_i hand
    rw [if_pos (by_contra fun hne => hand ⟨rfl,hne⟩)] at h
    exact .pure (hfinish c h ⟨rfl,rfl⟩)
variable (i : Fin cacheSlots)
theorem replaceFailed_some_ends
    (cached : Option (Fin cacheSlots)) (token : UInt64) (fds : List Fd) (e : Errno) {p : Handle}
    {owed : Multiset UInt64} (h : Balanced { leasesOwed := owed, outputsHeld := {p} } c)
    (hgone : owed = 0 ∨ owed = (c.outputs i).lease ∧
      (c.outputs i).repackLeaseToken ∉ liveTokens c.pool.leases)
    (htracked : (c.outputs i).tracked = 0) (hopened : Opened c) :
    Ends (replaceFailed env (some i) cached token fds e) (Placed p (some i)) c := by
  refine .bind (discardOutput_ends env i 0 h hgone (.inr ?_)
    fun c1 h1 houtputs hsteady => .bind ?_)
  · rw [htracked]
    rfl
  rw [Program.whenever,if_neg (by simp)]
  refine .pure (.bind ((closeFds_quiet env fds).ends fun _ c2 hq => .bind ?_))
  rw [if_neg (by simp)]
  refine .pure (.bind (.read (.pure
    ⟨h1.quiet hq,hq.steady.opened (hsteady.opened hopened),?_⟩)))
  rintro j ⟨⟩
  rw [hq.outputs,houtputs,update_self]
  rfl
variable (source : Descriptor)
variable (bufferId : UInt64)
theorem replaceDequeueWithLinear_none_ends
    (h : Balanced { outputsHeld := {(request.header.sessionId, bufferId)} } c)
    (hconnected : c.connected = true) :
    Ends (replaceDequeueWithLinear env request reply source bufferId none)
      (Placed (request.header.sessionId, bufferId) none) c := by
  have hopened : Opened c := .inl hconnected
  refine .bind ?_
  unfold repackSource
  refine onPool_leased h (repackLinearPooled_step env.gpu env.os c.world c.pool source _ bufferId)
    (fun e c1 h1 _ hsteady => ?_) fun r c1 htoken h1 _ hsteady => ?_
  · refine replaceFailed_none_ends env none 0 [] e ?_ (hsteady.opened hopened) nofun
    rw [if_pos rfl]
    exact h1
  have hheld : (0 : Multiset UInt64) + {r.leaseToken} =
      if r.leaseToken = 0 then 0 else {r.leaseToken} := by rw [if_neg htoken,zero_add]
  have hopened1 := hsteady.opened hopened
  rw [show ({ outputsHeld := _ } : Tally).leasesHeld + {r.leaseToken} =
    if r.leaseToken = 0 then 0 else {r.leaseToken} from hheld] at h1
  refine .read_bind ?_
  split
  · exact replaceFailed_none_ends env none _ _ _ h1 hopened1 nofun
  refine .bind (allocateOutput_ends env _ bufferId h1 rfl (fun e => ?_)
    fun i c2 h2 hi hsteady2 => ?_)
  · exact replaceFailed_none_ends env none _ _ _ h1 hopened1 nofun
  have h2' : Balanced { leasesHeld := if r.leaseToken = 0 then 0 else {r.leaseToken} } c2 :=
    h2.cancel {(request.header.sessionId, bufferId)} rfl rfl rfl (zero_add _).symm
  have hconnected2 : c2.connected = true :=
    hsteady2.connected.trans (hsteady.connected.trans hconnected)
  have htracked : (c2.outputs i).tracked = {(request.header.sessionId, bufferId)} := by
    rw [hi]
    rfl
  refine .bind (releaseUpstreamOutput_ends env _ bufferId _ h2' hconnected2
    (h2'.live hconnected2) rfl ?_ (fun c3 h3 _ hdead => ?_) fun c3 h3 houtputs3 _ hlive3 => ?_)
  · refine mem_add.mpr (.inl (mem_tracked.mpr ⟨i,?_⟩))
    rw [htracked]
    exact mem_singleton_self _
  · exact replaceFailed_none_ends env (some i) _ _ _ (h3.of_dead hdead rfl rfl) (.inr hdead)
      fun _ _ => hdead
  · have hi3 : c3.outputs i = newOutput request.header.sessionId bufferId := by
      rw [houtputs3,hi]
    refine .bind (.read (.bind (.update ?_)))
    rw [hi3]
    have h4 := h3.setOutput (u := {}) i
      (o := linearOutput (newOutput request.header.sessionId bufferId) false bufferId r)
      ⟨fun _ => rfl,fun _ => rfl,nofun⟩ (by
        rw [hi3,← hheld]
        simp [linearOutput,newOutput,Output.lease,Output.empty,htoken]) (.inr (by
        rw [← houtputs3] at htracked
        rw [htracked]
        rfl))
    refine .bind ((closeFds_quiet env _).ends fun _ c5 hq5 => .bind ?_)
    refine (closeMessage_quiet env reply).ends fun _ c6 hq6 => .pure ?_
    have hq : Quiet _ c6 := quietly.trans hq5 hq6
    exact ⟨h4.quiet hq,fun hdead => hlive3 (hq.steady.dead_iff.mp hdead)⟩

theorem replaceDequeueWithLinear_some_ends (i : Fin cacheSlots)
    (h : Balanced { outputsHeld := {(request.header.sessionId, bufferId)} } c)
    (hconnected : c.connected = true) (hreservation : (c.outputs i).reservation = true) :
    Ends (replaceDequeueWithLinear env request reply source bufferId (some i))
      (Placed (request.header.sessionId, bufferId) (some i)) c := by
  have hopened : Opened c := .inl hconnected
  have hreleased := (h.records i).reservation hreservation
  have htracked := Output.tracked_of_released hreleased
  refine .bind (.bind (.read (.read_bind ?_)))
  split
  · exact .pure (replaceFailed_some_ends env i none 0 [] _ h (.inl rfl) htracked hopened)
  rename_i hvalid
  have htoken : (c.outputs i).repackLeaseToken ≠ 0 := by
    intro hzero
    simp [hzero] at hvalid
  refine onPool_reserved h rfl (repackLinearReserved_step env.gpu env.os c.world c.pool _ source _
    bufferId) (fun e owed c1 h1 hgone houtputs1 hsteady => ?_)
    fun r c1 hr h1 houtputs1 hsteady => ?_
  · refine replaceFailed_some_ends env i none 0 [] e h1 ?_ ?_ (hsteady.opened hopened)
    · rw [houtputs1,Output.lease_eq_singleton htoken]
      exact hgone
    · rw [houtputs1]
      exact htracked
  have htracked1 : (c1.outputs i).tracked = 0 := by rw [houtputs1,htracked]
  have hopened1 := hsteady.opened hopened
  have hconnected1 : c1.connected = true := hsteady.connected.trans hconnected
  refine .read_bind ?_
  split
  · exact replaceFailed_some_ends env i none _ _ _ h1 (.inl rfl) htracked1 hopened1
  refine .bind (.bind (.read (.pure ?_)))
  split
  · exact replaceFailed_some_ends env i none _ _ _ h1 (.inl rfl) htracked1 hopened1
  rename_i j hj
  obtain rfl : i = j := by
    split at hj
    · cases hj
    · exact Except.ok.inj hj
  refine .bind (releaseUpstreamOutput_ends env _ bufferId _ h1 hconnected1
    (h1.live hconnected1) rfl (mem_add.mpr (.inr (mem_singleton_self _)))
    (fun c2 h2 houtputs2 hdead => ?_) fun c2 h2 houtputs2 _ hlive2 => ?_)
  · refine replaceFailed_some_ends env i _ _ _ _ h2 (.inl rfl) ?_ (.inr hdead)
    rw [houtputs2]
    exact htracked1
  · have h2' : Balanced {} c2 := h2.cancel {(request.header.sessionId, bufferId)} rfl rfl
      (zero_add _).symm (zero_add _).symm
    have htracked2 : (c2.outputs i).tracked = 0 := by rw [houtputs2,htracked1]
    refine .bind (.read (.bind (.update ?_)))
    have h3 := h2'.setOutput (u := {}) i
      (o := linearOutput (c2.outputs i) true bufferId r)
      ⟨(h2'.records i).used,fun _ => rfl,nofun⟩ rfl (.inr (by
        rw [htracked2,Output.tracked_of_released rfl]))
    refine .bind ((closeFds_quiet env _).ends fun _ c5 hq5 => .bind ?_)
    refine (closeMessage_quiet env reply).ends fun _ c6 hq6 => .pure ?_
    have hq : Quiet _ c6 := quietly.trans hq5 hq6
    exact ⟨h3.quiet hq,fun hdead => hlive2 (hq.steady.dead_iff.mp hdead)⟩

theorem cacheDirect_ends {Q : Except Errno Unit → Worker ω → Prop}
    (h : Balanced { outputsHeld := {(sessionId, bufferId)} } c) (herror : ∀ e, Q (.error e) c)
    (hok : ∀ c', Balanced {} c' → Steady c c' → Q (.ok ()) c') :
    Ends (cacheDirect env sessionId source bufferId) Q c := by
  refine .bind (allocateOutput_ends env sessionId bufferId h rfl
    (fun e => .pure (herror e)) fun i c1 h1 hi hsteady => ?_)
  have h1' : Balanced {} c1 :=
    h1.cancel {(sessionId, bufferId)} rfl rfl rfl (zero_add _).symm
  refine .bind (.read (.bind (.update (.pure (hok _ ?_
    ⟨hsteady.connected,hsteady.traffic⟩)))))
  rw [hi]
  refine h1'.setOutput i ⟨fun hne => absurd rfl hne,fun hne => absurd rfl hne,nofun⟩ ?_ (.inr ?_)
  · rw [hi]
    rfl
  · rw [hi]
    rfl

theorem placeSource_ends (reservation : Option (Fin cacheSlots))
    (h : Balanced { outputsHeld := {(request.header.sessionId, bufferId)} } c)
    (hconnected : c.connected = true)
    (hreservation : ∀ i, reservation = some i → (c.outputs i).reservation = true) :
    Ends (placeSource env request reply source bufferId reservation)
      (Placed (request.header.sessionId, bufferId) reservation) c := by
  have hheld (e : Errno) : Placed (request.header.sessionId, bufferId) reservation (.error e) c :=
    ⟨h,.inl hconnected,fun i hi =>
      Output.tracked_of_released ((h.records i).reservation (hreservation i hi))⟩
  have hdirect : Ends (do
      let cached ← cacheDirect env request.header.sessionId source bufferId
      return cached.map fun _ => reply : Prog ω (Except Errno Message))
      (Placed (request.header.sessionId, bufferId) reservation) c := by
    refine .bind (cacheDirect_ends env _ source bufferId h (fun e => .pure (hheld e))
      fun c1 h1 hsteady => .pure ⟨h1,fun hdead => ?_⟩)
    exact h.live hconnected (hsteady.dead_iff.mp hdead)
  have hreplace : Ends (replaceDequeueWithLinear env request reply source bufferId reservation)
      (Placed (request.header.sessionId, bufferId) reservation) c := by
    cases hr : reservation with
    | none => exact replaceDequeueWithLinear_none_ends env request reply source bufferId h hconnected
    | some i =>
      exact replaceDequeueWithLinear_some_ends env request reply source bufferId i h hconnected
        (hreservation i hr)
  unfold placeSource
  split
  · split
    · split
      · exact .pure (hheld _)
      · refine .bind (.mono hreplace fun replaced c1 hplaced => ?_)
        refine .bind ((closeFds_quiet env _).ends fun _ c2 hq => .pure ?_)
        cases replaced with
        | ok _ =>
          exact ⟨hplaced.1.quiet hq,fun hdead => hplaced.2 (hq.steady.dead_iff.mp hdead)⟩
        | error _ =>
          refine ⟨hplaced.1.quiet hq,hq.steady.opened hplaced.2.1,fun i hi => ?_⟩
          rw [hq.outputs]
          exact hplaced.2.2 i hi
    · exact hdirect
  · split
    · split
      · exact .pure (hheld _)
      · exact hdirect
    · exact .pure (hheld _)

theorem findReservation_reservation {sessionId : UInt32} {ptsNs : UInt64} {i : Fin cacheSlots}
    (h : findReservation outputs sessionId ptsNs = some i) : (outputs i).reservation = true := by
  have hfound := Slots.find_some h
  simp only [Bool.and_eq_true] at hfound
  exact hfound.1.1.2

theorem dequeuedHandle_of_valid {reply : Message}
    (h : ¬ (!readyShapeValid reply || getU64 reply.payload 0 == 0) = true) :
    dequeuedHandle request reply =
        some (request.header.sessionId, getU64 reply.payload 0) ∧ getU64 reply.payload 0 ≠ 0 := by
  simp only [readyShapeValid,Bool.not_not,Bool.or_eq_true,bne_iff_ne,ne_eq,beq_iff_eq,not_or,
    not_not] at h
  obtain ⟨⟨⟨⟨⟨hsize,htransport⟩,_⟩,_⟩,_⟩,hid⟩ := h
  exact ⟨if_pos ⟨hsize,htransport,hid⟩,hid⟩

/-- How `take_output` leaves the books. -/
def Taken (sessionId : UInt32) : Except Failure Message → Worker ω → Prop
  | .ok _, c => Balanced {} c ∧ ¬ Dead c
  | .error failure, c => ∃ held, Failed sessionId failure held c

theorem takeOutput_ends
    (hop : Opcode.ofCode request.header.opcode = some .dequeueOutput) (h : Balanced (settled request reply outputs) c)
    (hconnected : c.connected = true) :
    Ends (takeOutput env request reply) (Taken request.header.sessionId) c := by
  unfold takeOutput
  dsimp only
  split
  · refine .pure ⟨(settled request reply outputs).outputsHeld,?_,.inl hconnected,.inl rfl,nofun⟩
    rw [settled,hop] at h ⊢
    dsimp only at h ⊢
    split at h
    · exact h
    · exact h
  · rename_i hvalid
    obtain ⟨hhandle,hne⟩ := dequeuedHandle_of_valid request hvalid
    rw [settled,hop] at h
    rw [hhandle] at h
    refine .bind (.read (.bind ((transferUpstream_quiet env _ _).ends
      fun transferred c1 hq => ?_)))
    have h1 := h.quiet hq
    have hconnected1 : c1.connected = true := hq.connected.trans hconnected
    have hreservation (i : Fin cacheSlots) (hi : findReservation c.outputs request.header.sessionId
        (getU64 reply.payload 8) = some i) : (c1.outputs i).reservation = true := by
      rw [hq.outputs]
      exact findReservation_reservation hi
    have htracked (c2 : Worker ω) (houtputs : c2.outputs = c1.outputs) (i : Fin cacheSlots)
        (hi : findReservation c.outputs request.header.sessionId (getU64 reply.payload 8) =
          some i) : (c2.outputs i).tracked = 0 := by
      rw [houtputs]
      exact Output.tracked_of_released ((h1.records i).reservation (hreservation i hi))
    obtain ⟨status,source⟩ := transferred
    cases status with
    | error e =>
      refine .bind (poisonUpstream_ends h1 fun c2 h2 houtputs2 hdead => ?_)
      exact .bind (.read (.pure ⟨_,h2,.inr (hdead (.inl hconnected1)),
        .inr ⟨hne,rfl⟩,htracked c2 houtputs2⟩))
    | ok status =>
      refine .read_bind ?_
      split
      · exact .pure ⟨_,h1,.inl hconnected1,.inr ⟨hne,rfl⟩,htracked c1 rfl⟩
      · refine .bind (.mono (placeSource_ends env request reply source _ _ h1 hconnected1
          hreservation) fun placed c2 hplaced => ?_)
        cases placed with
        | ok reply => exact .pure hplaced
        | error e =>
          exact .pure ⟨_,hplaced.1,hplaced.2.1,.inr ⟨hne,rfl⟩,hplaced.2.2⟩

theorem handleDequeue_ends
    (hop : Opcode.ofCode request.header.opcode = some .dequeueOutput) (h : Balanced {} c)
    (hlive : ¬ Dead c) : Ends (handleDequeue env request) Done c := by
  refine exchanged_ends env request h hlive rfl fun reply c2 h2 _ hconnected => ?_
  dsimp only
  split
  · rename_i hpass
    have hnone : dequeuedHandle request reply = none := by
      refine if_neg fun hready => ?_
      rw [passesThrough,hready.1] at hpass
      cases hpass
    rw [settled,hop] at h2
    dsimp only at h2
    rw [hnone] at h2
    exact done_of_quiet (passOn_quiet env reply) h2 (h2.live hconnected)
  · refine .bind (.mono (takeOutput_ends env request reply hop h2 hconnected)
      fun taken c3 htaken => ?_)
    cases taken with
    | ok reply => exact done_of_quiet (passOn_quiet env reply) htaken.1 htaken.2
    | error failure =>
      obtain ⟨held,hfailed⟩ := htaken
      exact failOutput_ends env request reply failure hfailed

theorem findOutput_some {sessionId : UInt32}
    {bufferId : UInt64} {i : Fin cacheSlots} (h : findOutput outputs sessionId bufferId = some i) :
    (outputs i).used = true ∧ (outputs i).sessionId = sessionId ∧
    (outputs i).bufferId = bufferId := by
  have hfound := Slots.find_some h
  simp only [Bool.and_eq_true,beq_iff_eq] at hfound
  exact ⟨hfound.1.1,hfound.1.2,hfound.2⟩

theorem findOutput_none {sessionId : UInt32}
    {bufferId : UInt64} (h : findOutput outputs sessionId bufferId = none) :
    (sessionId, bufferId) ∉ tracked outputs := by
  rw [mem_tracked]
  rintro ⟨i,hi⟩
  have hnot := Slots.find_none h i
  unfold Output.tracked at hi
  split at hi
  · rename_i hused
    cases mem_singleton.mp hi
    simp [hused.1] at hnot
  · cases hi

theorem releaseLinear_ends
    (hreleased : (c.outputs i).upstreamReleased = true) (h : Balanced {} c) (hlive : ¬ Dead c) :
    Ends (releaseLinear env request i (c.outputs i)) Done c := by
  have htracked := Output.tracked_of_released hreleased
  have herror (e : Errno) (c1 : Worker ω) (h1 : Balanced {} c1) (houtputs : c1.outputs = c.outputs)
      (hsteady : Steady c c1) : Ends (do
        closeMessage env request
        discardOutput env i
        sendStatusReply env request Status.internal (errnoNumber e)) Done c1 := by
    refine .bind ((closeMessage_quiet env request).ends fun _ c2 hq => .bind ?_)
    refine discardOutput_ends env i 0 (h1.quiet hq) (.inl rfl) (.inr ?_)
      fun c3 h3 _ hsteady3 => ?_
    · rw [hq.outputs,houtputs,htracked]
      rfl
    · exact done_of_quiet (sendStatusReply_quiet env request _ _) h3 fun hdead =>
        hlive (hsteady.dead_iff.mp (hq.steady.dead_iff.mp (hsteady3.dead_iff.mp hdead)))
  refine .bind (.read_bind ?_)
  split
  · exact .pure (herror _ c h rfl ⟨rfl,rfl⟩)
  · rename_i htoken
    have hne : (c.outputs i).repackLeaseToken ≠ 0 := by simpa using htoken
    generalize (if request.header.fdCount == 1 then request.fd 0 else -1) = fence
    have hstep := poolRelease_step env.gpu env.os c.world c.pool (c.outputs i).repackLeaseToken fence
    unfold EndStep at hstep
    change Ends _ Done { c with
      world := (poolRelease env.gpu env.os c.world c.pool (c.outputs i).repackLeaseToken fence).world
      pool := (poolRelease env.gpu env.os c.world c.pool (c.outputs i).repackLeaseToken fence).pool }
    dsimp only [onPool]
    generalize poolRelease env.gpu env.os c.world c.pool (c.outputs i).repackLeaseToken fence = out
      at hstep ⊢
    obtain ⟨w,p,result⟩ := out
    cases result with
    | error e =>
      refine herror e _ (h.setPool_of_eq ?_ ?_) rfl ⟨rfl,rfl⟩
      · rw [show p = c.pool from hstep]
      · rw [show p = c.pool from hstep]
        exact id
    | ok _ =>
      obtain ⟨j,slot,hkey,hwrote,_⟩ := hstep
      have h1 := (h.endLease (w := w)
        (u := { leasesOwed := {(c.outputs i).repackLeaseToken} }) hkey hwrote rfl rfl rfl).1
      refine .bind ((closeMessage_quiet env request).ends fun _ c2 hq => .bind ?_)
      refine forgetOutput_ends (u := {}) env i (h1.quiet hq) ?_ (.inr ?_)
        fun c3 h3 _ hsteady3 => ?_
      · rw [hq.outputs,Output.lease_eq_singleton hne]
        exact congrArg (· + 0) (zero_add _)
      · rw [hq.outputs]
        exact congrArg (· + 0) ((zero_add _).trans htracked)
      · exact done_of_quiet (sendStatusReply_quiet env request _ _) h3 fun hdead =>
          hlive (hq.steady.dead_iff.mp (hsteady3.dead_iff.mp hdead))

/-- The end of a handler that does something if the broker has agreed. -/
theorem relayed_ends {act : Prog ω Unit} (reply : Message) (h : Balanced t c)
    (hconnected : c.connected = true)
    (hok : replyStatusIsOk reply = true → ∀ c', Balanced t c' → c'.outputs = c.outputs →
      Ends act (fun _ c'' => Balanced {} c'' ∧ c''.connected = c'.connected) c')
    (hfail : ¬ replyStatusIsOk reply = true → t = {}) :
    Ends (do
      let sent ← sendMessage env reply
      Program.whenever (replyStatusIsOk reply = true) act
      closeMessage env reply
      return sent) Done c := by
  refine .bind ((sendMessage_quiet env reply).ends fun sent c1 hq => .bind ?_)
  have hfinish (c2 : Worker ω) (h2 : Balanced {} c2) (hconnected2 : c2.connected = c1.connected) :=
    done_of_quiet (.bind (closeMessage_quiet env reply) fun _ => .pure sent) h2
      (h2.live (hconnected2.trans (hq.connected.trans hconnected)))
  unfold Program.whenever
  split
  · rename_i hyes
    exact (hok hyes c1 (h.quiet hq) hq.outputs).mono fun _ c2 h2 => hfinish c2 h2.1 h2.2
  · rename_i hno
    exact .pure (hfinish c1 (hfail hno ▸ h.quiet hq) rfl)

theorem handleReleaseOutput_ends
    (hop : Opcode.ofCode request.header.opcode = some .releaseOutput) (h : Balanced {} c)
    (hlive : ¬ Dead c) : Ends (handleReleaseOutput env request) Done c := by
  unfold handleReleaseOutput
  split
  · exact done_of_quiet (refuse_quiet env request _ _) h hlive
  refine .read_bind ?_
  split
  · rename_i hfind
    refine forwardRequest_ends env request h hlive fun reply => ?_
    rw [settled,hop]
    exact if_neg fun hand => findOutput_none hfind hand.2
  · rename_i i hfind
    obtain ⟨hused,hsession,hbuffer⟩ := findOutput_some hfind
    split
    · rename_i hreleased
      exact releaseLinear_ends env request i hreleased h hlive
    · rename_i hreleased
      have htracked : (c.outputs i).tracked = {namedHandle request} := by
        rw [Output.tracked,if_pos ⟨hused,by simpa using hreleased⟩,hsession,hbuffer]
        rfl
      have hmem : namedHandle request ∈ tracked c.outputs := by
        refine mem_tracked.mpr ⟨i,?_⟩
        rw [htracked]
        exact mem_singleton_self _
      refine exchanged_ends env request h hlive rfl fun reply c1 h1 houtputs hconnected => ?_
      rw [settled,hop] at h1
      refine relayed_ends env reply h1 hconnected (fun hok c2 h2 houtputs2 => ?_) fun hfail => ?_
      · rw [if_pos ⟨hok,hmem⟩] at h2
        refine discardOutput_ends env i 0 h2 (.inl rfl) (.inr ?_)
          fun c3 h3 _ hsteady => ⟨h3,hsteady.connected⟩
        rw [houtputs2,houtputs,htracked]
        exact zero_add _
      · exact if_neg fun hand => hfail hand.1
end
end LinDeX.Gateway
