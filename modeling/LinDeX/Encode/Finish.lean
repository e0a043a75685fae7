import LinDeX.Encode.Receive

/-!
# The end of a context follows the ledger

A context that is destroyed waits for its frames and for the end of the stream, and gives up what
does not come in time. Whichever way this ends, no frame of the context waits any more.
-/
namespace LinDeX.Encode
open Vaapi Dmabuf Program Run Function List
variable {ω α : Type} {s t u : Machine ω} {L M : Ledger} {i : Fin 4} {k : Fin 64}
def eosOthers (i : Fin 4) : Frame (Machine ω) where
  rel s t := ∀ j, j ≠ i → (t.runtime.contexts j).eos = (s.runtime.contexts j).eos ∨
    (t.runtime.contexts j).eos = EosState.init
  refl _ _ _ := .inl rfl
  trans h h' j hj := (h' j hj).elim (fun hsame => (h j hj).imp hsame.trans hsame.trans) .inr

theorem eosOthers_of_kept (h : eosKept.rel s t) : (eosOthers i).rel s t := fun j _ => h j

/-- No frame of the context waits, and parts that the broker handed over are for none. -/
structure Finished (i : Fin 4) (s : Machine ω) (L : Ledger) (t : Machine ω) (M : Ledger)
    (parts : List Part) : Prop where
  books : Books t.runtime M
  queue : M.queue i = []
  trace : ∃ events, Trace Act L events M ∧ t.events = s.events ++ events ++ deliveries i parts
  eos : (eosOthers i).rel s t

theorem Finished.of_moves (h : Moves s L t M) (hqueue : M.queue i = []) :
    Finished i s L t M [] := by
  obtain ⟨⟨hbooks,events,htrace,hevents⟩,heos⟩ := h
  exact ⟨hbooks,hqueue,⟨events,htrace,hevents.trans (append_nil _).symm⟩,eosOthers_of_kept heos⟩

structure Idles (i : Fin 4) (L : Ledger) (s t : Machine ω) : Prop where
  books : Books t.runtime L
  events : t.events = s.events
  eos : (eosOthers i).rel s t

theorem Idles.trans (h : Idles i L s t) (h' : Idles i L t u) : Idles i L s u :=
  ⟨h'.books,h'.events.trans h.events,(eosOthers i).trans h.eos h'.eos⟩

theorem Idles.of_silent (h : Books s.runtime L) (hst : silent.rel s t) : Idles i L s t :=
  ⟨(silent_iff.mp hst).1 ▸ h,(silent_iff.mp hst).2,
    eosOthers_of_kept (eosKept_of_contexts (by rw [(silent_iff.mp hst).1]))⟩

structure Progress (i : Fin 4) (s : Machine ω) (L : Ledger) (t : Machine ω) (M : Ledger) :
    Prop where
  books : Books t.runtime M
  trace : ∃ events, Trace Act L events M ∧ t.events = s.events ++ events
  eos : (eosOthers i).rel s t

theorem Progress.of_moves (h : Moves s L t M) : Progress i s L t M :=
  ⟨h.books,h.1.2,eosOthers_of_kept h.2⟩

theorem Progress.idles (h : Progress i s L t M) (h' : Idles i M t u) : Progress i s L u M := by
  obtain ⟨events,htrace,hevents⟩ := h.trace
  exact ⟨h'.books,⟨events,htrace,h'.events.trans hevents⟩,(eosOthers i).trans h.eos h'.eos⟩
variable {parts : List Part}
theorem Progress.finished {N : Ledger} (h : Progress i s L t M)
    (h' : Finished i t M u N parts) : Finished i s L u N parts := by
  obtain ⟨events,htrace,hevents⟩ := h.trace
  obtain ⟨later,htrace',hevents'⟩ := h'.trace
  refine ⟨h'.books,h'.queue,⟨events ++ later,htrace.append htrace',?_⟩,
    (eosOthers i).trans h.eos h'.eos⟩
  rw [hevents',hevents]
  simp only [append_assoc]

theorem Finished.idles (h : Finished i s L t M parts) (h' : Idles i M t u) :
    Finished i s L u M parts := by
  obtain ⟨events,htrace,hevents⟩ := h.trace
  exact ⟨h'.books,h.queue,⟨events,htrace,h'.events.trans hevents⟩,(eosOthers i).trans h.eos h'.eos⟩

theorem Taken.finished (h : Taken i s L parts t) (hqueue : L.queue i = []) :
    Finished i s L t L parts :=
  ⟨h.books,hqueue,⟨[],.nil L,by rw [h.events,append_nil]⟩,eosOthers_of_kept h.eos⟩

theorem modifyEos_idles (h : Books s.runtime L) (f : EosState → EosState) :
    Ends (modifyEos i f) (fun _ t => Idles i L s t ∧
    (t.runtime.contexts i).eos = f (s.runtime.contexts i).eos) s := by
  have hfits := h.fits i
  refine .update ⟨⟨h.setContext ⟨hfits.count,hfits.bound,hfits.sorted,hfits.indexed,
    hfits.live,hfits.session,hfits.active⟩,rfl,fun j hj => .inl ?_⟩,?_⟩
  · exact congrArg Context.eos (update_of_ne hj ..)
  · simp only [Runtime.setContext,update_self]

theorem GivenUp.progress (h : GivenUp i L s t) : Progress i s L t (L.setQueue i []) := by
  refine ⟨h.books,?_,eosOthers_of_kept h.eos⟩
  by_cases hempty : L.queue i = []
  · rw [setQueue_eq_self hempty]
    exact ⟨[],.nil L,by rw [h.events,if_pos hempty]⟩
  · exact ⟨_,.single (.fail [] hempty),by rw [h.events,if_neg hempty]; rfl⟩

theorem GivenUp.finished (h : GivenUp i L s t) : Finished i s L t (L.setQueue i []) [] := by
  obtain ⟨events,htrace,hevents⟩ := h.progress.trace
  exact ⟨h.books,Ledger.setQueue_self ..,⟨events,htrace,hevents.trans (append_nil _).symm⟩,
    eosOthers_of_kept h.eos⟩

theorem GivenUp.idles (h : GivenUp i L s t) (hempty : L.queue i = []) : Idles i L s t :=
  ⟨setQueue_eq_self hempty ▸ h.books,by rw [h.events,if_pos hempty,append_nil],
    eosOthers_of_kept h.eos⟩

theorem failOnce_givenUp (h : Books s.runtime L)
    (hfailed : (s.runtime.contexts i).eos.failedClosed = false) (e : Errno) :
    Ends (failOnce i e) (fun _ t => ∃ s', Idles i L s s' ∧ GivenUp i L s' t) s := by
  refine .read_bind ?_
  rw [if_neg (by rw [hfailed]; decide)]
  refine .bind ((modifyEos_idles h _).mono fun _ t1 h1 => ?_)
  refine .bind ((markContextPendingError_givenUp i h1.1.books).mono fun _ t2 h2 => ?_)
  exact .pure ⟨t1,h1.1,h2⟩

theorem failOnce_finished (h : Books s.runtime L)
    (hfailed : (s.runtime.contexts i).eos.failedClosed = false) (e : Errno) :
    Ends (failOnce i e) (fun _ t => ∃ M parts, Finished i s L t M parts) s := by
  refine (failOnce_givenUp h hfailed e).mono fun _ t ht => ?_
  obtain ⟨s',hidle,hgiven⟩ := ht
  have hprogress : Progress i s L s' L := Progress.idles (.of_moves (.refl h)) hidle
  exact ⟨_,[],hprogress.finished hgiven.finished⟩

theorem failOnce_idles (h : Books s.runtime L) (hempty : L.queue i = []) (e : Errno) :
    Ends (failOnce i e) (fun _ t => Idles i L s t) s := by
  by_cases hfailed : (s.runtime.contexts i).eos.failedClosed = false
  · refine (failOnce_givenUp h hfailed e).mono fun _ t ht => ?_
    obtain ⟨s',hidle,hgiven⟩ := ht
    exact hidle.trans (hgiven.idles hempty)
  · refine .read_bind ?_
    rw [if_pos (by simpa using hfailed)]
    exact .pure (.of_silent h (silent.refl s))

section
variable (env : Env ω)
theorem contextEosDrainOnce_moves (timeoutMs : UInt32) (h : Books s.runtime L) :
    Ends (contextEosDrainOnce env i timeoutMs) (fun r t =>
      (∃ M, Moves s L t M ∧ (r = .ok true → M.queue i = [])) ∨
      (L.queue i = [] ∧ r ≠ .ok false ∧ ∃ parts, Taken i s L parts t)) s := by
  refine .read_bind ?_
  split
  · split
    · exact .pure (.inl ⟨L,.refl h,fun hno => by cases hno⟩)
    rename_i k hk
    have hused : (s.runtime.surfaces k).used = true := by
      have hpending := (findOldestPendingSurface_oldest s.runtime i).mem k hk
      obtain ⟨e, -,b,hkb⟩ := h.pendingFor_iff.mp hpending
      exact hkb.waits.1
    refine .bind ((syncSurfaceLocked_moves env h hused timeoutMs).mono fun status t1 h1 => ?_)
    obtain ⟨M,hM⟩ := h1
    split
    · exact .pure (.inl ⟨M,hM,fun hno => by cases hno⟩)
    refine .read_bind ?_
    split
    · exact .pure (.inl ⟨M,hM,fun hno => by cases hno⟩)
    · rename_i hnot
      refine .pure (.inl ⟨M,hM,fun hreceived => ?_⟩)
      have hcount : (t1.runtime.contexts i).pendingCount = 0 :=
        not_not.mp fun hne => hnot ⟨Except.ok.inj hreceived,hne⟩
      have hlength := (hM.books.fits i).count
      rw [hcount] at hlength
      exact length_eq_zero_iff.mp hlength.symm
  · rename_i hnone
    have hempty : L.queue i = [] := by
      have hlength := (h.fits i).count
      have hzero : (s.runtime.contexts i).pendingCount.toNat = 0 := by
        have hle := UInt32.le_iff_toNat_le.mp (UInt32.not_lt.mp hnone)
        exact Nat.le_zero.mp hle
      rw [hzero] at hlength
      exact length_eq_zero_iff.mp hlength.symm
    refine .bind ((brokerReceive_collected ..).mono fun received t1 hr => ?_)
    obtain ⟨parts,hreceived, -, -⟩ := hr
    have htaken := Taken.of_received h hreceived
    iterate 2
      split
      · exact .pure (.inr ⟨hempty,by simp,parts,htaken⟩)
    · have hnoted := htaken.noteEos True
      unfold whenever at hnoted
      rw [if_pos trivial] at hnoted
      refine .bind (hnoted.mono fun _ t2 h2 => ?_)
      exact .pure (.inr ⟨hempty,by simp,parts,h2⟩)

theorem eosKept.unfailed (h : eosKept.rel s t)
    (hfailed : (s.runtime.contexts i).eos.failedClosed = false) :
    (t.runtime.contexts i).eos.failedClosed = false := by
  obtain hsame | hinit := h i
  · rw [hsame,hfailed]
  · rw [hinit]
    rfl

theorem eosKept.unreceived (h : eosKept.rel s t)
    (hreceived : (s.runtime.contexts i).eos.eosReceived ≠ true) :
    (t.runtime.contexts i).eos.eosReceived ≠ true := by
  obtain hsame | hinit := h i
  · rwa [hsame]
  · rw [hinit]
    exact Bool.false_ne_true
variable (deadline : UInt64) (rounds : Nat)
theorem eosLoop_idles (h : Books s.runtime L)
    (hempty : L.queue i = []) (hreceived : (s.runtime.contexts i).eos.eosReceived = true) :
    Ends (eosLoop env i deadline rounds) (fun _ t => Idles i L s t) s := by
  cases rounds with
  | zero => exact failOnce_idles h hempty _
  | succ rounds =>
    refine .read_bind ?_
    rw [if_pos hreceived]
    exact .pure (.of_silent h (silent.refl s))

theorem noteReceived_idles (h : Books s.runtime L) (hempty : L.queue i = []) :
    Ends (do
      whenever (true = true) (modifyEos i fun eos => { eos with eosReceived := true })
      eosLoop env i deadline rounds) (fun _ t => Idles i L s t) s := by
  unfold whenever
  rw [if_pos rfl]
  refine .bind ((modifyEos_idles h _).mono fun _ t ht => ?_)
  refine (eosLoop_idles env deadline rounds ht.1.books hempty ?_).mono fun _ u hu => ht.1.trans hu
  rw [ht.2]

theorem eosLoop_finished (h : Books s.runtime L)
    (hfailed : (s.runtime.contexts i).eos.failedClosed = false)
    (hreceived : (s.runtime.contexts i).eos.eosReceived ≠ true) :
    Ends (eosLoop env i deadline rounds) (fun _ t => ∃ M parts, Finished i s L t M parts) s := by
  induction rounds generalizing s L with
  | zero => exact failOnce_finished h hfailed _
  | succ rounds ih =>
    refine .read_bind ?_
    rw [if_neg hreceived]
    refine Ends.bind ((nowMs_silent env).ends fun now t1 h1 => ?_)
    have hmoves1 := Moves.of_silent h h1
    have hgive {t : Machine ω} {M : Ledger} (ht : Moves s L t M) (e : Errno) :
        Ends (failOnce i e) (fun _ t => ∃ M parts, Finished i s L t M parts) t := by
      refine (failOnce_finished ht.books (eosKept.unfailed ht.2 hfailed) e).mono fun _ u hu => ?_
      obtain ⟨N,parts,hN⟩ := hu
      exact ⟨N,parts,(Progress.of_moves ht).finished hN⟩
    split
    · exact hgive hmoves1 _
    split
    · exact hgive hmoves1 _
    refine .bind ((contextEosDrainOnce_moves env _ hmoves1.books).mono fun drained t2 h2 => ?_)
    obtain ⟨M,hM,hdone⟩ | ⟨hempty,hnot,parts,htaken⟩ := h2
    · have hmoves2 := hmoves1.trans hM
      split
      · exact hgive hmoves2 _
      rename_i received
      cases received with
      | true =>
        refine (noteReceived_idles env deadline rounds hM.books (hdone rfl)).mono fun _ t ht => ?_
        exact ⟨M,[],(Finished.of_moves hmoves2 (hdone rfl)).idles ht⟩
      | false =>
        refine (ih hM.books (eosKept.unfailed hmoves2.2 hfailed)
          (eosKept.unreceived hmoves2.2 hreceived)).mono fun _ t ht => ?_
        obtain ⟨N,parts,hN⟩ := ht
        exact ⟨N,parts,(Progress.of_moves hmoves2).finished hN⟩
    · have hfinished := (Progress.of_moves hmoves1).finished (htaken.finished hempty)
      split
      · exact (failOnce_idles htaken.books hempty _).mono fun _ t ht =>
          ⟨L,parts,hfinished.idles ht⟩
      rename_i received
      cases received with
      | true =>
        exact (noteReceived_idles env deadline rounds htaken.books hempty).mono fun _ t ht =>
          ⟨L,parts,hfinished.idles ht⟩
      | false => exact absurd rfl hnot

theorem eosSignal_idles (ptsNs : UInt64) (h : Books s.runtime L) :
    Ends (eosSignal env i ptsNs) (fun _ t => Idles i L s t ∧
    (t.runtime.contexts i).eos.failedClosed = (s.runtime.contexts i).eos.failedClosed ∧
    (t.runtime.contexts i).eos.eosReceived = (s.runtime.contexts i).eos.eosReceived) s := by
  refine .read_bind ?_
  split
  · exact .pure ⟨.of_silent h (silent.refl s),rfl,rfl⟩
  refine .bind ((modifyEos_idles h _).mono fun _ t1 h1 => ?_)
  refine .bind ((brokerSignalEos_silent env _ _).ends fun signalled t2 h2 => ?_)
  have hsame : (t2.runtime.contexts i).eos = (t1.runtime.contexts i).eos := by
    rw [(silent_iff.mp h2).1]
  have hidle := h1.1.trans (.of_silent h1.1.books h2)
  split
  · refine .pure ⟨hidle,?_,?_⟩ <;> rw [hsame,h1.2]
  · refine .bind ((modifyEos_idles hidle.books _).mono fun _ t3 h3 => .pure ?_)
    refine ⟨hidle.trans h3.1,?_,?_⟩ <;> rw [h3.2,hsame,h1.2]

theorem eosFinish_finished (ptsNs : UInt64) (timeoutMs : UInt32) (h : Books s.runtime L)
    (heos : (s.runtime.contexts i).eos = EosState.init) :
    Ends (eosFinish env i ptsNs timeoutMs) (fun _ t => ∃ M parts, Finished i s L t M parts) s := by
  apply Ends.read_bind
  rw [heos,if_neg (by decide),if_neg (by decide)]
  refine .bind ((eosSignal_idles env ptsNs h).mono fun signalled t1 h1 => ?_)
  have hprogress1 : Progress i s L t1 L := Progress.idles (.of_moves (.refl h)) h1.1
  have hfailed1 : (t1.runtime.contexts i).eos.failedClosed = false := by
    rw [h1.2.1,heos]
    rfl
  have hreceived1 : (t1.runtime.contexts i).eos.eosReceived ≠ true := by
    rw [h1.2.2,heos]
    exact Bool.false_ne_true
  have hlift {t : Machine ω} {β : Type} {m : Prog ω β} (ht : silent.rel t1 t)
      (hm : Ends m (fun _ u => ∃ M parts, Finished i t L u M parts) t) :
      Ends m (fun _ u => ∃ M parts, Finished i s L u M parts) t := by
    refine hm.mono fun _ u hu => ?_
    obtain ⟨M,parts,hM⟩ := hu
    exact ⟨M,parts,(hprogress1.idles (.of_silent hprogress1.books ht)).finished hM⟩
  split
  · exact hlift (silent.refl _) (failOnce_finished hprogress1.books hfailed1 _)
  refine Ends.bind ((nowMs_silent env).ends fun now t2 h2 => ?_)
  have hmoves2 := Moves.of_silent hprogress1.books h2
  have hfailed2 := eosKept.unfailed hmoves2.2 hfailed1
  iterate 2
    split
    · exact hlift h2 (failOnce_finished hmoves2.books hfailed2 _)
  · exact hlift h2 (eosLoop_finished env _ _ hmoves2.books hfailed2
      (eosKept.unreceived hmoves2.2 hreceived1))

theorem markContextPendingError_emptied (h : Moves s L t M) (status : VaStatus) :
    Ends (do
      markContextPendingError i
      return status : Prog ω VaStatus) (fun _ u => ∃ N, Moves s L u N ∧ N.queue i = []) t := by
  refine .bind ((markContextPendingError_givenUp i h.books).mono fun _ u hu => .pure ?_)
  refine ⟨M.setQueue i [],h.trans ⟨⟨hu.books,hu.progress.trace⟩,hu.eos⟩,?_⟩
  exact Ledger.setQueue_self ..

theorem drainLoop_emptied (h : Books s.runtime L) :
    Ends (drainLoop env i deadline rounds) (fun _ t => ∃ M, Moves s L t M ∧ M.queue i = []) s := by
  induction rounds generalizing s L with
  | zero => exact markContextPendingError_emptied (.refl h) _
  | succ rounds ih =>
    refine .read_bind ?_
    split
    · rename_i hcount
      have hlength := (h.fits i).count
      rw [hcount] at hlength
      exact .pure ⟨L,.refl h,length_eq_zero_iff.mp hlength.symm⟩
    refine Ends.bind ((nowMs_silent env).ends fun now t1 h1 => ?_)
    have hmoves1 := Moves.of_silent h h1
    split
    · exact markContextPendingError_emptied hmoves1 _
    · exact markContextPendingError_emptied hmoves1 _
    rename_i k now hk hnow
    have hused : (t1.runtime.surfaces k).used = true := by
      obtain ⟨e, -,b,hkb⟩ := h.pendingFor_iff.mp
        ((findOldestPendingSurface_oldest s.runtime i).mem k hk)
      rw [(silent_iff.mp h1).1]
      exact hkb.waits.1
    refine .bind ((syncSurfaceLocked_moves env hmoves1.books hused _).mono fun st t2 h2 => ?_)
    obtain ⟨M,hM⟩ := h2
    split
    · exact markContextPendingError_emptied (hmoves1.trans hM) _
    refine (ih hM.books).mono fun _ t ht => ?_
    obtain ⟨N,hN,hempty⟩ := ht
    exact ⟨N,(hmoves1.trans hM).trans hN,hempty⟩

theorem drainFrameSessionLocked_emptied (h : Books s.runtime L) :
    Ends (drainFrameSessionLocked env i) (fun _ t => ∃ M, Moves s L t M ∧ M.queue i = []) s := by
  refine Ends.bind ((nowMs_silent env).ends fun now t1 h1 => ?_)
  have hmoves1 := Moves.of_silent h h1
  iterate 2
    split
    · exact markContextPendingError_emptied hmoves1 _
  refine (drainLoop_emptied env _ _ hmoves1.books).mono fun _ t ht => ?_
  obtain ⟨M,hM,hempty⟩ := ht
  exact ⟨M,hmoves1.trans hM,hempty⟩

theorem finishContextLocked_finished (h : Books s.runtime L)
    (heos : (s.runtime.contexts i).eos = EosState.init) :
    Ends (finishContextLocked env i) (fun _ t => ∃ M parts, Finished i s L t M parts) s := by
  refine .read_bind ?_
  split
  · rename_i hclosed
    refine .pure ⟨L,[],.of_moves (.refl h) (not_not.mp fun hne => ?_)⟩
    rw [((h.fits i).live hne).2] at hclosed
    exact absurd hclosed (by decide)
  split
  · refine (drainFrameSessionLocked_emptied env h).mono fun _ t ht => ?_
    obtain ⟨M,hM,hempty⟩ := ht
    exact ⟨M,[],.of_moves hM hempty⟩
  · refine .bind ((eosFinish_finished env _ _ h heos).mono fun r t ht => ?_)
    split <;> exact .pure ht

theorem disownSurface_books (k : Fin 64) (h : Books s.runtime L) (hempty : L.queue i = []) :
    Ends (disownSurface env i k) (fun _ t => Books t.runtime L ∧ t.events = s.events ∧
    t.runtime.contexts = s.runtime.contexts) s := by
  refine .read_bind ?_
  by_cases howned : ownedBy s.runtime i k = true
  · have hidle : (s.runtime.surfaces k).state ≠ .pending := by
      intro hpending
      have hwaits : pendingFor s.runtime i k = true := by
        simp only [pendingFor,howned,hpending,Bool.true_and,beq_self_eq_true]
      obtain ⟨e,he, -⟩ := h.pendingFor_iff.mp hwaits
      rw [hempty] at he
      exact not_mem_nil he
    unfold whenever
    rw [if_pos howned]
    -- what becomes of the registration leaves the surface without a frame
    have hunregistered : Ends (whenever ((s.runtime.contexts i).brokerOpen = true ∧
        (s.runtime.surfaces k).link.registered = true) (do
          let unregistered ← linkUnregister env i k imageSyncTimeoutMs
          whenever (unregistered ≠ .ok ()) (modifySurface k fun v =>
            { v with link := { v.link with registered := false }, state := .error })))
        (fun _ t => Books t.runtime L ∧ t.events = s.events ∧
          t.runtime.contexts = s.runtime.contexts ∧ (t.runtime.surfaces k).state ≠ .pending) s := by
      unfold whenever
      split
      · refine .bind ((linkUnregister_quiet env i k _).ends fun r t1 h1 => ?_)
        obtain ⟨hcontexts,hsurfaces, -,hevents⟩ := quiet_iff.mp h1
        have hstate : (t1.runtime.surfaces k).state ≠ .pending := by
          have hbook := hsurfaces k
          simp only [Surface.book,Prod.mk.injEq] at hbook
          rwa [hbook.2.1]
        split
        · refine .update ⟨(h.of_quiet h1).setSurface (.inr ⟨fun hw => hstate hw.2,?_⟩),
            hevents,hcontexts,?_⟩
          · exact fun hw => absurd hw.2 (by simp)
          · rw [setSurface_self]
            simp
        · exact .pure ⟨h.of_quiet h1,hevents,hcontexts,hstate⟩
      · exact .pure ⟨h,rfl,rfl,hidle⟩
    refine .bind (hunregistered.mono fun _ t ht => ?_)
    obtain ⟨hbooks,hevents,hcontexts,hstate⟩ := ht
    refine .update ⟨hbooks.setSurface (.inr ⟨fun hw => hstate hw.2,fun hw => ?_⟩),hevents,
      hcontexts⟩
    have hpending := hw.2
    dsimp only at hpending
    rw [if_neg hstate] at hpending
    exact hstate hpending
  · unfold whenever
    rw [if_neg howned]
    exact .pure ⟨h,rfl,rfl⟩

theorem forM_disownSurface_books (slots : List (Fin 64)) (h : Books s.runtime L)
    (hempty : L.queue i = []) :
    Ends (slots.forM (disownSurface env i)) (fun _ t => Books t.runtime L ∧ t.events = s.events ∧
    t.runtime.contexts = s.runtime.contexts) s := by
  refine .forM (I := fun _ (t : Machine ω) => Books t.runtime L ∧ t.events = s.events ∧
    t.runtime.contexts = s.runtime.contexts) (fun k _ t ht => ?_) ⟨h,rfl,rfl⟩
  refine (disownSurface_books env k ht.1 hempty).mono fun _ u hu => ?_
  exact ⟨hu.1,hu.2.1.trans ht.2.1,hu.2.2.trans ht.2.2⟩

theorem closeContextLocked_moves {parts : List Part} (h : Finished i s L t M parts) :
    Ends (closeContextLocked env i) (fun _ u => books.Goes s L u M ∧
    (eosOthers i).rel s u ∧ (u.runtime.contexts i) = Context.closed) t := by
  refine .bind ((forM_disownSurface_books env _ h.books h.queue).mono fun _ t1 h1 => ?_)
  obtain ⟨hbooks1,hevents1,hcontexts1⟩ := h1
  have hclose : Keeps silent (whenever ((t1.runtime.contexts i).brokerOpen = true)
      (brokerClose env (t1.runtime.contexts i).broker)) := .whenever (brokerClose_silent env _)
  refine .bind (.read (.bind (hclose.ends fun _ t2 h2 => ?_)))
  obtain ⟨hruntime2,hevents2⟩ := silent_iff.mp h2
  have hbooks2 : Books t2.runtime M := hruntime2 ▸ hbooks1
  obtain ⟨events,htrace,hevents⟩ := h.trace
  refine .bind (.update (.update ⟨⟨hbooks2.setContext ?_,?_⟩,?_,?_⟩))
  · rw [h.queue]
    exact .nil rfl
  · refine ⟨events ++ (deliveries i parts ++ [.closed i]),
      htrace.append (.single (.finish parts h.queue)),?_⟩
    rw [hevents2,hevents1,hevents]
    simp only [append_assoc]
    rfl
  · refine (eosOthers i).trans h.eos fun j hj => .inl ?_
    simp only [Runtime.setContext,update_of_ne hj,hruntime2,hcontexts1]
  · simp only [Runtime.setContext,update_self]

theorem destroyContext_goes (contextId : UInt32) (h : Books s.runtime L)
    (heos : ∀ i, (s.runtime.contexts i).eos = EosState.init) :
    Ends (destroyContext env contextId) (fun _ t => (∃ M, books.Goes s L t M) ∧
    (∀ i, (t.runtime.contexts i).eos = EosState.init) ∧
    ∀ i, idIndex 4 typeContext contextId = some i → (t.runtime.contexts i).used = false) s := by
  refine .read_bind ?_
  split
  · rename_i hnone
    refine Ends.pure ⟨⟨L,(Moves.refl h).1⟩,heos,fun i hi => ?_⟩
    refine Bool.eq_false_iff.mpr fun hused => ?_
    rw [getContext_eq_some.mpr ⟨hi,hused⟩] at hnone
    cases hnone
  rename_i i hi
  refine .bind ((finishContextLocked_finished env h (heos i)).mono fun status t1 h1 => ?_)
  obtain ⟨M,parts,hM⟩ := h1
  refine .bind ((closeContextLocked_moves env hM).mono fun _ t2 h2 => .pure ?_)
  obtain ⟨hgoes,hothers,hclosed⟩ := h2
  refine ⟨⟨M,hgoes⟩,fun j => ?_,fun j hj => ?_⟩
  · by_cases hji : j = i
    · rw [hji,hclosed]
      rfl
    · exact (hothers j hji).elim (fun hsame => hsame.trans (heos j)) id
  · have hji : j = i := Option.some.inj (hj.symm.trans (getContext_eq_some.mp hi).1)
    rw [hji,hclosed]
    rfl
end
end LinDeX.Encode
