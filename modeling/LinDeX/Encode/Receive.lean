import LinDeX.Encode.Books

/-!
# Waiting for output follows the ledger

A round of the loop in `sync_surface_locked` is one act of the ledger: the output of the oldest
frame is stored, the wait blocks, or all frames of the context fail.
-/
namespace LinDeX.Encode
open Vaapi Dmabuf Program Run Function List
variable {ω α : Type} {s t u : Machine ω} {L M : Ledger} {i : Fin 4} {k : Fin 64} {e : Waiting}
  {rest : List Waiting}

def books : Abstraction (Machine ω) Ledger Event where
  step := Act
  standsFor s L := Books s.runtime L
  log := Machine.events

def eosKept : Frame (Machine ω) where
  rel s t := ∀ i, (t.runtime.contexts i).eos = (s.runtime.contexts i).eos ∨
    (t.runtime.contexts i).eos = EosState.init
  refl _ _ := .inl rfl
  trans h h' i := (h' i).elim (fun hsame => (h i).imp hsame.trans hsame.trans) .inr

def Moves (s : Machine ω) (L : Ledger) (t : Machine ω) (M : Ledger) : Prop :=
  books.Goes s L t M ∧ eosKept.rel s t
theorem Moves.books (h : Moves s L t M) : Books t.runtime M := h.1.1
theorem Moves.trans {N : Ledger} (h : Moves s L t M) (h' : Moves t M u N) : Moves s L u N :=
  ⟨h.1.trans h'.1,eosKept.trans h.2 h'.2⟩
theorem eosKept_of_contexts (h : t.runtime.contexts = s.runtime.contexts) : eosKept.rel s t :=
  fun i => .inl (by rw [h])

theorem Moves.act {events : List Event} (hact : Act L events M)
    (hevents : t.events = s.events ++ events) (hbooks : Books t.runtime M)
    (heos : eosKept.rel s t) : Moves s L t M := ⟨.act hact hevents hbooks,heos⟩

theorem Moves.idle (hevents : t.events = s.events) (hbooks : Books t.runtime L)
    (heos : eosKept.rel s t) : Moves s L t L := ⟨.idle hevents hbooks,heos⟩
theorem Moves.refl (h : Books s.runtime L) : Moves s L s L := .idle rfl h (eosKept.refl s)

theorem Books.of_quiet (h : Books s.runtime L) (hst : quiet.rel s t) : Books t.runtime L := by
  obtain ⟨hcontexts,hsurfaces,hbuffers, -⟩ := quiet_iff.mp hst
  refine h.change rfl (fun i => ?_) (fun k => .inl (hsurfaces k)) (fun b => .inl ?_) fun b hb => ?_
  · rw [hcontexts]
    exact h.fits i
  · rw [hbuffers]
  · rw [hbuffers] at hb ⊢
    exact h.held b hb

theorem Moves.of_quiet (h : Books s.runtime L) (hst : quiet.rel s t) : Moves s L t L :=
  .idle (quiet_iff.mp hst).2.2.2 (h.of_quiet hst) (eosKept_of_contexts (quiet_iff.mp hst).1)
theorem Moves.of_silent (h : Books s.runtime L) (hst : silent.rel s t) : Moves s L t L :=
  .of_quiet h (quiet_of_silent hst)

structure Received (i : Fin 4) (s : Machine ω) (parts : List Part) (t : Machine ω) : Prop where
  runtime : t.runtime = s.runtime
  events : t.events = s.events ++ deliveries i parts

section
variable (env : Env ω)
theorem Received.of_silent (h : silent.rel s t) : Received i s [] t :=
  ⟨(silent_iff.mp h).1,(silent_iff.mp h).2.trans (append_nil _).symm⟩

theorem Received.trans {parts later : List Part} (h : Received i s parts t)
    (h' : Received i t later u) : Received i s (parts ++ later) u :=
  ⟨h'.runtime.trans h.runtime,by
    rw [h'.events,h.events,append_assoc,deliveries,deliveries,deliveries,map_append]⟩

theorem appendOutput_received (coded : CodedOutput) (part : ClientOutput) (s : Machine ω) :
    Ends (appendOutput env i coded part) (fun r t =>
      (Received i s [] t ∧ ∃ e, r = .error e) ∨ ∃ p, Received i s [p] t ∧
      ∀ output q, r = .ok (output, q) →
        q = p ∧ output.segments = coded.segments ++ [p.bytes]) s := by
  unfold appendOutput
  split
  · exact .pure (.inl ⟨.of_silent (silent.refl s),_,rfl⟩)
  refine .bind ((mapPart_silent env part).ends fun bytes t1 h1 => ?_)
  split
  · exact .pure (.inl ⟨.of_silent h1,_,rfl⟩)
  rename_i bytes
  refine .bind (.update (.bind (.read (.bind ?_))))
  refine (io_silent _).ends fun reply t2 h2 => ?_
  have hreceived : Received i s [⟨part.flags,bytes⟩] t2 := by
    obtain ⟨hruntime1,hevents1⟩ := silent_iff.mp h1
    obtain ⟨hruntime2,hevents2⟩ := silent_iff.mp h2
    exact ⟨hruntime2.trans hruntime1,hevents2.trans (congrArg (· ++ _) hevents1)⟩
  refine .inr ⟨⟨part.flags,bytes⟩,?_⟩
  split
  · exact ⟨hreceived,fun output q h => by cases h⟩
  · refine ⟨hreceived,fun output q h => ?_⟩
    dsimp only [Pure.pure,StateT.pure] at h
    split at h
    · obtain ⟨rfl,rfl⟩ := Prod.mk.inj (Except.ok.inj h)
      exact ⟨rfl,rfl⟩
    · cases h

/-- What `broker_receive` hands back, given the parts taken before. -/
structure Collected (i : Fin 4) (before : List Part) (s : Machine ω)
    (r : Except Errno CodedOutput) (t : Machine ω) (parts : List Part) : Prop where
  received : Received i s parts t
  unfinished : Unfinished (before ++ parts)
  unit : ∀ output, r = .ok output →
    IsUnit (before ++ parts) ∧ output.segments = (before ++ parts).map Part.bytes

theorem unfinished_of_none {parts : List Part} (h : ∀ p ∈ parts, p.last = false) :
    Unfinished parts := fun p hp => h p (dropLast_subset _ hp)

theorem unfinished_append_one {before : List Part} (h : ∀ p ∈ before, p.last = false) (p : Part) :
    Unfinished (before ++ [p]) := by
  intro q hq
  rw [dropLast_concat] at hq
  exact h q hq

theorem receiveLoop_collected (timeoutMs : UInt32) (deadline : UInt64) (rounds : Nat)
    (output : CodedOutput) (before : List Part) (hbefore : ∀ p ∈ before, p.last = false)
    (houtput : output.segments = before.map Part.bytes) (s : Machine ω) :
    Ends (receiveLoop env i timeoutMs deadline rounds output)
      (fun r t => ∃ parts, Collected i before s r t parts) s := by
  induction rounds generalizing output before s with
  | zero =>
    refine .pure ⟨[],.of_silent (silent.refl s),?_,fun _ h => by cases h⟩
    exact unfinished_of_none (by rwa [append_nil])
  | succ rounds ih =>
    -- nothing more was taken, and the loop gives up
    have hstop {t : Machine ω} (h : silent.rel s t) (e : Errno) :
        ∃ parts, Collected i before s (.error e) t parts :=
      ⟨[],.of_silent h,unfinished_of_none (by rwa [append_nil]),fun _ h => by cases h⟩
    refine .bind (.read (.bind ((io_silent _).ends fun dequeued t1 h1 => ?_)))
    split
    · exact .pure (hstop h1 _)
    split
    · split
      · exact .pure (hstop h1 _)
      refine .bind ((waitRetry_silent env _).ends fun waited t2 h2 => ?_)
      have h12 := silent.trans h1 h2
      split
      · exact .pure (hstop h12 _)
      refine (ih output before hbefore houtput t2).mono fun r t hr => ?_
      obtain ⟨parts,hparts⟩ := hr
      exact ⟨parts,(Received.of_silent h12).trans hparts.received,hparts.unfinished,hparts.unit⟩
    split
    · exact .pure (hstop h1 _)
    refine .bind ((appendOutput_received env output _ t1).mono fun appended t2 h2 => ?_)
    refine .bind ((outputClose_silent env _).ends fun _ t3 h3 => ?_)
    obtain ⟨hsilent,e,rfl⟩ | ⟨p,hp,hvalue⟩ := h2
    · refine .pure ⟨[],?_,unfinished_of_none (by rwa [append_nil]),fun _ h => by cases h⟩
      exact (Received.of_silent h1).trans (hsilent.trans (.of_silent h3))
    have htaken : Received i s [p] t3 :=
      (Received.of_silent h1).trans (hp.trans (.of_silent h3))
    split
    · exact .pure ⟨[p],htaken,unfinished_append_one hbefore p,fun _ h => by cases h⟩
    rename_i output' q
    obtain ⟨rfl,hsegments⟩ := hvalue output' q rfl
    have hsegments' : output'.segments = (before ++ [q]).map Part.bytes := by
      rw [hsegments,houtput,map_append]
      rfl
    split
    · rename_i hlast
      refine .pure ⟨[q],htaken,unfinished_append_one hbefore q,fun o ho => ?_⟩
      obtain rfl := Except.ok.inj ho
      exact ⟨⟨before,q,rfl,hlast,hbefore⟩,hsegments'⟩
    · rename_i hlast
      have hnone : ∀ p ∈ before ++ [q], p.last = false := by
        intro p hp
        obtain hp | hp := mem_append.mp hp
        · exact hbefore p hp
        · rw [mem_singleton.mp hp]
          exact Bool.eq_false_iff.mpr hlast
      refine (ih output' (before ++ [q]) hnone hsegments' t3).mono fun r t hr => ?_
      obtain ⟨parts,hparts⟩ := hr
      have hassoc : before ++ [q] ++ parts = before ++ (q :: parts) := by simp
      refine ⟨q :: parts,htaken.trans hparts.received,?_,fun o ho => ?_⟩
      · exact hassoc ▸ hparts.unfinished
      · exact hassoc ▸ hparts.unit o ho

theorem brokerReceive_collected (timeoutMs : UInt32) (s : Machine ω) :
    Ends (brokerReceive env i timeoutMs) (fun r t => ∃ parts, Collected i [] s r t parts) s := by
  have hstop {t : Machine ω} (h : silent.rel s t) (e : Errno) :
      ∃ parts, Collected i [] s (.error e) t parts :=
    ⟨[],.of_silent h,unfinished_of_none (fun _ h => absurd h not_mem_nil),fun _ h => by cases h⟩
  refine .read_bind ?_
  split
  · exact .pure (hstop (silent.refl s) _)
  refine .bind ((nowMs_silent env).ends fun now t1 h1 => ?_)
  split
  · exact .pure (hstop h1 _)
  split
  · exact .pure (hstop h1 _)
  refine (receiveLoop_collected env timeoutMs _ _ CodedOutput.empty []
    (fun _ h => absurd h not_mem_nil) rfl t1).mono fun r t hr => ?_
  obtain ⟨parts,hparts⟩ := hr
  exact ⟨parts,(Received.of_silent h1).trans hparts.received,hparts.unfinished,hparts.unit⟩
end

theorem setQueue_eq_self (h : L.queue i = []) : L.setQueue i [] = L := by
  unfold Ledger.setQueue
  rw [← h,update_eq_self]

theorem Books.any_pendingFor {rt : Runtime} (h : Books rt L) :
    (List.finRange 64).any (pendingFor rt i) = true ↔ L.queue i ≠ [] := by
  rw [any_eq_true]
  constructor
  · rintro ⟨k, -,hk⟩
    obtain ⟨e,he, -⟩ := h.pendingFor_iff.mp hk
    exact ne_nil_of_mem he
  · intro hne
    obtain ⟨e,he⟩ := exists_mem_of_ne_nil _ hne
    obtain ⟨k,b,hkb⟩ := h.enters i e he
    exact ⟨k,mem_finRange k,h.pendingFor_iff.mpr ⟨e,he,b,hkb⟩⟩

theorem eosKept_failPending (hruntime : t.runtime = failPending s.runtime i) :
    eosKept.rel s t := by
  intro j
  refine .inl ?_
  rw [hruntime]
  by_cases hj : j = i
  · subst hj
    simp only [failPending,update_self]
  · simp only [failPending,update_of_ne hj]

/-- After `mark_context_pending_error` no frame of the context waits. -/
structure GivenUp (i : Fin 4) (L : Ledger) (s t : Machine ω) : Prop where
  books : Books t.runtime (L.setQueue i [])
  events : t.events = s.events ++ if L.queue i = [] then [] else [.abandoned i]
  eos : eosKept.rel s t

theorem markContextPendingError_givenUp (i : Fin 4) (h : Books s.runtime L) :
    Ends (markContextPendingError i) (fun _ t => GivenUp i L s t) s := by
  refine .bind (.read (.bind ?_))
  unfold whenever
  by_cases hne : L.queue i = []
  · rw [if_neg fun hany => h.any_pendingFor.mp hany hne]
    refine .pure (.update ⟨h.failed i,?_,eosKept_failPending rfl⟩)
    rw [if_pos hne,append_nil]
  · rw [if_pos (h.any_pendingFor.mpr hne)]
    refine .update (.update ⟨h.failed i,?_,eosKept_failPending rfl⟩)
    rw [if_neg hne]

/-- The broker handed over parts that are not accounted for yet. -/
structure Taken (i : Fin 4) (s : Machine ω) (L : Ledger) (parts : List Part) (t : Machine ω) :
    Prop where
  books : Books t.runtime L
  events : t.events = s.events ++ deliveries i parts
  eos : eosKept.rel s t
  owners : ∀ k, (t.runtime.surfaces k).used = (s.runtime.surfaces k).used ∧
    (t.runtime.surfaces k).ownerContext = (s.runtime.surfaces k).ownerContext

namespace Taken
variable {parts : List Part}
theorem of_received (h : Books s.runtime L) (hreceived : Received i s parts t) :
    Taken i s L parts t where
  books := hreceived.runtime ▸ h
  events := hreceived.events
  eos := eosKept_of_contexts (by rw [hreceived.runtime])
  owners := fun k => by rw [hreceived.runtime]; exact ⟨rfl,rfl⟩

theorem of_quiet (h : Taken i s L parts t) (htu : quiet.rel t u) : Taken i s L parts u := by
  obtain ⟨hcontexts,hsurfaces, -,hevents⟩ := quiet_iff.mp htu
  refine ⟨h.books.of_quiet htu,hevents.trans h.events,
    eosKept.trans h.eos (eosKept_of_contexts hcontexts),fun k => ?_⟩
  have hbook := hsurfaces k
  simp only [Surface.book,Prod.mk.injEq] at hbook
  exact ⟨hbook.1.trans (h.owners k).1,hbook.2.2.1.trans (h.owners k).2⟩

theorem noteEos (h : Taken i s L parts t) (c : Prop) [Decidable c] :
    Ends (whenever c (modifyContext i fun c => { c with brokerEosReceived := true }) : Prog ω Unit)
      (fun _ u => Taken i s L parts u) t := by
  unfold whenever
  split
  · have hfits := h.books.fits i
    refine .update ⟨h.books.setContext ⟨hfits.count,hfits.bound,hfits.sorted,hfits.indexed,
      hfits.live,hfits.session,hfits.active⟩,h.events,eosKept.trans h.eos fun j => .inl ?_,h.owners⟩
    by_cases hj : j = i
    · subst hj
      simp only [Runtime.setContext,update_self]
    · simp only [Runtime.setContext,update_of_ne hj]
  · exact .pure h

theorem givenUp (h : Taken i s L parts t) (hne : L.queue i ≠ []) (hu : GivenUp i L t u) :
    Moves s L u (L.setQueue i []) := by
  refine .act (.fail parts hne) ?_ hu.books (eosKept.trans h.eos hu.eos)
  rw [hu.events,if_neg hne,h.events,append_assoc]
end Taken

/-- A round that ends the loop: the wait blocked, or the frames of the context failed. -/
def Stopped (i : Fin 4) (s : Machine ω) (L : Ledger) (r : Option VaStatus) (t : Machine ω) : Prop :=
  ∃ M, Moves s L t M ∧ (M = L ∨ M = L.setQueue i []) ∧
    ∃ status, r = some status ∧ status ≠ .success

section
variable (env : Env ω) {parts : List Part}
theorem failRound_stopped (h : Taken i s L parts t) (hne : L.queue i ≠ []) {status : VaStatus}
    (hstatus : status ≠ .success) : Ends (failRound i status) (Stopped i s L) t := by
  refine .bind ((markContextPendingError_givenUp i h.books).mono fun _ u hu => ?_)
  exact .pure ⟨_,h.givenUp hne hu,.inr rfl,status,rfl,hstatus⟩

theorem endRound_stopped (h : Taken i s L parts t) (hparts : Unfinished parts)
    (hne : L.queue i ≠ []) (e : Errno) : Ends (endRound i e) (Stopped i s L) t := by
  unfold endRound
  split
  · refine .bind (.update (.pure ⟨L,?_,.inl rfl,.timedOut,rfl,by decide⟩))
    refine .act (.block (i := i) hparts) ?_ h.books h.eos
    rw [h.events,append_assoc]
  · exact failRound_stopped h hne (by decide)

theorem closeFrameSession_moves (h : Books s.runtime L) :
    Ends (closeFrameSession env i) (fun _ t => Moves s L t L ∧ t.events = s.events ∧
    ∀ k, (t.runtime.surfaces k).used = (s.runtime.surfaces k).used ∧
    (t.runtime.surfaces k).ownerContext = (s.runtime.surfaces k).ownerContext) s := by
  refine .read_bind ?_
  unfold whenever
  split
  · rename_i hdone
    have hempty : L.queue i = [] := by
      have hcount := (h.fits i).count
      rw [hdone.2] at hcount
      exact length_eq_zero_iff.mp hcount.symm
    refine .bind ((brokerClose_silent env _).ends fun _ t1 h1 => ?_)
    obtain ⟨hruntime,hevents⟩ := silent_iff.mp h1
    refine .bind (.update (.update ⟨.idle hevents ?_ ?_,hevents,fun k => ?_⟩))
    · refine (show Books t1.runtime L from hruntime ▸ h).change rfl (fun j => ?_) (fun k => .inl ?_)
        (fun b => .inl rfl) fun b hb => ?_
      · by_cases hj : j = i
        · subst hj
          rw [hempty]
          refine .nil ?_
          simp only [Runtime.setContext,update_self,hruntime]
          exact hdone.2
        · simpa only [Runtime.setContext,update_of_ne hj,hruntime] using h.fits j
      · dsimp only
        split <;> rfl
      · exact (hruntime ▸ h).held b hb
    · intro j
      refine .inl ?_
      by_cases hj : j = i
      · subst hj
        simp only [Runtime.setContext,update_self,hruntime]
      · simp only [Runtime.setContext,update_of_ne hj,hruntime]
    · dsimp only [Runtime.setContext]
      rw [hruntime]
      split <;> exact ⟨rfl,rfl⟩
  · exact .pure ⟨.refl h,rfl,fun k => ⟨rfl,rfl⟩⟩

structure Stored (i : Fin 4) (rest : List Waiting) (s : Machine ω) (L : Ledger) (t : Machine ω)
    (M : Ledger) : Prop where
  moves : Moves s L t M
  queue : M.queue = (L.setQueue i rest).queue
  owners : ∀ k, (t.runtime.surfaces k).used = (s.runtime.surfaces k).used ∧
    (t.runtime.surfaces k).ownerContext = (s.runtime.surfaces k).ownerContext

theorem settle_owners (rt : Runtime) (i : Fin 4) (k : Fin 64) (b : Fin 256) (output : CodedOutput)
    (k' : Fin 64) : ((settle rt i k b output).surfaces k').used = (rt.surfaces k').used ∧
    ((settle rt i k b output).surfaces k').ownerContext = (rt.surfaces k').ownerContext := by
  by_cases hk : k' = k
  · rw [hk,settle_surface_self]
    exact ⟨rfl,rfl⟩
  · rw [settle_surface_of_ne _ _ _ hk]
    exact ⟨rfl,rfl⟩

theorem eosKept_settle {b : Fin 256} {output : CodedOutput}
    (hruntime : t.runtime = settle s.runtime i k b output) : eosKept.rel s t := by
  intro j
  refine .inl ?_
  rw [hruntime]
  by_cases hj : j = i
  · subst hj
    simp only [settle,update_self]
  · simp only [settle,update_of_ne hj]

theorem store_stored {output : CodedOutput} {b : Fin 256} (h : Taken i s L parts t)
    (hqueue : L.queue i = e :: rest) (hkb : Enters t.runtime i e k b) (hunit : IsUnit parts)
    (houtput : output.segments = parts.map Part.bytes)
    (hevents : u.events = t.events ++ [.stored i e.surface e.buffer output])
    (hruntime : u.runtime = settle t.runtime i k b output) :
    Ends (closeFrameSession env i) (fun _ v => ∃ M, Stored i rest s L v M) u := by
  have hbooks := h.books.settled hqueue hkb output
  rw [← hruntime] at hbooks
  have hmoves : Moves s L u ((L.setQueue i rest).setHeld b output.segments) := by
    refine .act (.store hqueue (getBuffer_eq_some.mp hkb.buffer).1 hunit houtput) ?_ hbooks
      (eosKept.trans h.eos (eosKept_settle hruntime))
    rw [hevents,h.events,append_assoc]
  refine (closeFrameSession_moves env hbooks).mono fun _ v hv => ⟨_,hmoves.trans hv.1,rfl,?_⟩
  intro k'
  have hsettle := settle_owners t.runtime i k b output k'
  rw [← hruntime] at hsettle
  exact ⟨((hv.2.2 k').1.trans hsettle.1).trans (h.owners k').1,
    ((hv.2.2 k').2.trans hsettle.2).trans (h.owners k').2⟩

theorem syncRound_moves (h : Books s.runtime L) (hqueue : L.queue i = e :: rest)
    (timeoutMs : UInt32) :
    Ends (syncRound env i timeoutMs) (fun r t =>
      (r = none ∧ ∃ M, Stored i rest s L t M) ∨ Stopped i s L r t) s := by
  have hne : L.queue i ≠ [] := hqueue ▸ cons_ne_nil _ _
  refine .bind ((brokerReceive_collected ..).mono fun received t1 hr => ?_)
  obtain ⟨parts,hreceived,hunfinished,hunit⟩ := hr
  have htaken1 := Taken.of_received h hreceived
  split
  · exact (endRound_stopped htaken1 hunfinished hne _).mono fun _ _ => .inr
  rename_i output
  obtain ⟨hisUnit,houtput⟩ := hunit output rfl
  refine .bind ((htaken1.noteEos _).mono fun _ t2 htaken2 => ?_)
  have hfail {t : Machine ω} (ht : Taken i s L parts t) {status : VaStatus}
      (hstatus : status ≠ .success) : Ends (failRound i status) (fun r t =>
        (r = none ∧ ∃ M, Stored i rest s L t M) ∨ Stopped i s L r t) t :=
    (failRound_stopped ht hne hstatus).mono fun _ _ => .inr
  split
  · exact hfail htaken2 (by decide)
  refine .read_bind ?_
  obtain ⟨k,b,holdest,hkb⟩ := htaken2.books.oldest hqueue
  rw [holdest]
  dsimp only
  rw [hkb.coded,hkb.buffer]
  dsimp only
  rw [if_neg (not_not.mpr hkb.type)]
  refine .bind ((linkWait_quiet env k timeoutMs).ends fun waited t3 h3 => ?_)
  have htaken3 := htaken2.of_quiet h3
  split
  · exact (endRound_stopped htaken3 hunfinished hne _).mono fun _ _ => .inr
  split
  · exact hfail htaken3 (by decide)
  obtain ⟨-,hsurfaces,hbuffers, -⟩ := quiet_iff.mp h3
  have hkb3 : Enters t3.runtime i e k b := hkb.congr (hsurfaces k) (by rw [hbuffers])
  refine .bind (.update (.bind (.update (.bind ?_))))
  refine (store_stored env htaken3 hqueue hkb3 hisUnit houtput ?_ rfl).mono fun _ t ht => ?_
  · rw [hkb.pending]
  · exact .pure (.inl ⟨rfl,ht⟩)

theorem Books.head_of_waits {rt : Runtime} (h : Books rt L) (hused : (rt.surfaces k).used = true)
    (howner : idIndex 4 typeContext (rt.surfaces k).ownerContext = some i)
    (hstate : (rt.surfaces k).state = .pending) : ∃ e rest, L.queue i = e :: rest := by
  obtain ⟨j,e,he,b,hkb⟩ := h.frame_of_surface ⟨hused,hstate⟩
  have hij : j = i := Option.some.inj (hkb.owner.symm.trans howner)
  subst hij
  exact exists_cons_of_ne_nil (ne_nil_of_mem he)

theorem syncLoop_moves (timeoutMs : UInt32) (rounds : Nat) (h : Books s.runtime L)
    (hused : (s.runtime.surfaces k).used = true)
    (howner : idIndex 4 typeContext (s.runtime.surfaces k).ownerContext = some i) :
    Ends (syncLoop env i k timeoutMs rounds) (fun _ t => ∃ M, Moves s L t M) s := by
  induction rounds generalizing s L with
  | zero => exact .pure ⟨L,.refl h⟩
  | succ rounds ih =>
    refine .read_bind ?_
    split
    · rename_i hpending
      obtain ⟨e,rest,hqueue⟩ := h.head_of_waits hused howner hpending
      refine .bind ((syncRound_moves env h hqueue timeoutMs).mono fun r t hr => ?_)
      obtain ⟨rfl,M,hM⟩ | ⟨M,hM, -,status,rfl, -⟩ := hr
      · refine (ih hM.moves.books ((hM.owners k).1.trans hused)
          ((hM.owners k).2 ▸ howner)).mono fun _ u hu => ?_
        obtain ⟨N,hN⟩ := hu
        exact ⟨N,hM.moves.trans hN⟩
      · exact .pure ⟨M,hM⟩
    · exact .pure ⟨L,.refl h⟩

theorem Books.served {rt : Runtime} (h : Books rt L) (hk : (rt.surfaces k).Waits) :
    ∃ i, (getContext rt (rt.surfaces k).ownerContext).filter (fun i =>
      (rt.contexts i).brokerOpen && (rt.contexts i).pendingCount != 0) = some i ∧
      idIndex 4 typeContext (rt.surfaces k).ownerContext = some i := by
  obtain ⟨i,e,he,b,hkb⟩ := h.frame_of_surface hk
  have hlive := (h.fits i).live (ne_nil_of_mem he)
  have hcount : (rt.contexts i).pendingCount ≠ 0 := by
    intro hzero
    have hlength := (h.fits i).count
    rw [hzero] at hlength
    exact ne_nil_of_mem he (length_eq_zero_iff.mp hlength.symm)
  refine ⟨i,Option.filter_eq_some_iff.mpr ⟨?_,?_⟩,hkb.owner⟩
  · exact getContext_eq_some.mpr ⟨hkb.owner,hlive.1⟩
  · simp [hlive.2,hcount]

theorem syncSurfaceLocked_moves (h : Books s.runtime L)
    (hused : (s.runtime.surfaces k).used = true) (timeoutMs : UInt32) :
    Ends (syncSurfaceLocked env k timeoutMs) (fun _ t => ∃ M, Moves s L t M) s := by
  refine .read_bind ?_
  split
  · exact .pure ⟨L,.refl h⟩
  · exact .pure ⟨L,.refl h⟩
  · exact .pure ⟨L,.refl h⟩
  · rename_i hpending
    obtain ⟨i,hserved,howner⟩ := h.served ⟨hused,hpending⟩
    rw [hserved]
    exact syncLoop_moves env timeoutMs syncRounds h hused howner
end
end LinDeX.Encode
