import LinDeX.Repack.Extent

/-!
# Lease tokens

The token counter of a pool moves by one with every lease, so that a token is above all earlier
ones, and a token that has ended stays ended.
-/
namespace LinDeX.Repack
open Dmabuf Function Multiset
variable {ω : Type} {n : Nat}
structure Counted (p : Pool n) : Prop where
  nodup : (liveTokens p.leases).Nodup
  range : ∀ token ∈ liveTokens p.leases, 0 < token.toNat ∧ token.toNat ≤ p.nextToken.toNat

theorem succToken_toNat {t : UInt64} (h : t.toNat < 2 ^ 64 - 1) :
    (succToken t).toNat = t.toNat + 1 := by
  have hadd : (t + 1).toNat = (t.toNat + 1) % 2 ^ 64 := UInt64.toNat_add t 1
  rw [Nat.mod_eq_of_lt (by omega)] at hadd
  unfold succToken
  rw [if_neg,hadd]
  intro hzero
  rw [hzero] at hadd
  have hnone : (0 : UInt64).toNat = 0 := rfl
  omega
variable {p : Pool n}
theorem Counted.allocateToken (h : Counted p) (hnext : p.nextToken.toNat < 2 ^ 64 - 1) :
    allocateToken p.leases p.nextToken = (succToken p.nextToken, succToken p.nextToken) := by
  have hfree : tokenTaken p.leases (succToken p.nextToken) = false := by
    refine tokenTaken_eq_false_iff.mpr fun i hleased htoken => ?_
    have hlive := (h.range _ (mem_liveTokens.mpr ⟨i,hleased,htoken⟩)).2
    rw [succToken_toNat hnext] at hlive
    omega
  unfold Repack.allocateToken
  rw [Allocator.scan,if_neg (by simp [hfree])]

theorem Counted.leaseAcquire (h : Counted p) (hnext : p.nextToken.toNat < 2 ^ 64 - 1) :
    (∃ i, (p.leases i).leased = false ∧
        (leaseAcquire p.leases p.nextToken).result = .ok (i, succToken p.nextToken) ∧
        (leaseAcquire p.leases p.nextToken).next = succToken p.nextToken) ∨
      (∀ i, (p.leases i).leased = true) ∧
      (leaseAcquire p.leases p.nextToken).result = .error .enospc ∧
      (leaseAcquire p.leases p.nextToken).next = p.nextToken := by
  unfold Repack.leaseAcquire
  cases hfind : Fin.find? fun i => !(p.leases i).leased with
  | none => exact .inr ⟨fun i => by simpa using Slots.find_none hfind i,rfl,rfl⟩
  | some i =>
    refine .inl ⟨i,by simpa using Slots.find_some hfind,?_⟩
    rw [h.allocateToken hnext]
    simp [succToken_ne_zero]

/-- What a call does to the tokens: leases end, or the counter moves as `lease_acquire` moves it
and the token it stops at may be leased, if a slot was free. -/
def Ticks (p p' : Pool n) : Prop :=
  p'.nextToken = p.nextToken ∧ liveTokens p'.leases ≤ liveTokens p.leases ∨
    p'.nextToken = (leaseAcquire p.leases p.nextToken).next ∧
      (liveTokens p'.leases ≤ liveTokens p.leases ∨
        (∃ i, (p.leases i).leased = false) ∧
          liveTokens p'.leases ≤ liveTokens p.leases + {p'.nextToken})
variable (gpu : Gpu ω) (os : Os ω) (w : ω)
theorem provideDestination_nextToken (p : Pool n) (i : Fin n)
    (width height : UInt32) (signature : Signature) :
    (provideDestination gpu os w p i width height signature).pool.nextToken = p.nextToken := by
  unfold provideDestination createDestination
  split
  · rfl
  dsimp only
  split
  · rfl
  · split
    · rfl
    · split <;> rfl

theorem copyInto_nextToken (p : Pool n) (i : Fin n)
    (token : UInt64) (source : Descriptor) (fence : Fd) (bufferId : UInt64) :
    (copyInto gpu os w p i token source fence bufferId).pool.nextToken = p.nextToken := by
  unfold copyInto
  split
  · rfl
  · split <;> rfl

theorem reserveInto_nextToken (p : Pool n) (i : Fin n)
    (token : UInt64) (width height : UInt32) (reservationId : UInt64) :
    (reserveInto gpu os w p i token width height reservationId).pool.nextToken = p.nextToken := by
  have hprovide := provideDestination_nextToken gpu os w p i width height
    (reserveSignature width height reservationId)
  unfold reserveInto
  split
  · rename_i hout
    rw [hout] at hprovide
    exact hprovide
  · rename_i hout
    rw [hout] at hprovide
    split <;> exact hprovide

theorem repackInto_nextToken (p : Pool n) (i : Fin n)
    (requested token : UInt64) (source : Descriptor) (fence : Fd) (bufferId : UInt64) :
    (repackInto gpu os w p i requested token source fence bufferId).pool.nextToken =
      p.nextToken := by
  have hprovide := provideDestination_nextToken gpu os w p i (Signature.make source).width
    (Signature.make source).height (.make source)
  unfold repackInto
  dsimp only
  split
  · split
    · rfl
    · exact copyInto_nextToken ..
  · split
    · rename_i hout
      rw [hout] at hprovide
      exact hprovide
    · rename_i hout
      rw [hout] at hprovide
      exact (copyInto_nextToken ..).trans hprovide

/-- The counter after a call that leases a slot: as `lease_acquire` leaves it if that was reached,
and then it is the token. -/
def Numbered (p : Pool n) (out : Outcome ω n Repacked) : Prop :=
  (out.pool.nextToken = p.nextToken ∨
      out.pool.nextToken = (leaseAcquire p.leases p.nextToken).next) ∧
    ∀ r, out.result = .ok r → out.pool.nextToken = r.leaseToken ∧
      out.pool.nextToken = (leaseAcquire p.leases p.nextToken).next
variable {p' : Pool n}
theorem numbered_acquire {rest : Fin n → UInt64 → Outcome ω n Repacked} {w : ω}
    (hleases : p'.leases = p.leases) (hnext : p'.nextToken = p.nextToken)
    (hrest : ∀ i token, (rest i token).pool.nextToken = (leaseAcquire p'.leases p'.nextToken).next ∧
    ∀ r, (rest i token).result = .ok r → r.leaseToken = token) :
    Numbered p (match (leaseAcquire p'.leases p'.nextToken).result with
      | .error e => ⟨w,p'.withLeases (leaseAcquire p'.leases p'.nextToken),.error e⟩
      | .ok (i, token) => rest i token) := by
  rw [hleases,hnext] at hrest ⊢
  cases hresult : (leaseAcquire p.leases p.nextToken).result with
  | error e => exact ⟨.inr rfl,fun r hr => by cases hr⟩
  | ok leased =>
    obtain ⟨i,token⟩ := leased
    obtain ⟨hkept,htoken⟩ := hrest i token
    refine ⟨.inr hkept,fun r hr => ⟨?_,hkept⟩⟩
    rw [htoken r hr]
    exact hkept.trans (leaseAcquire_ok hresult).2.2.2

theorem numbered_refused (e : Errno) (hnext : p'.nextToken = p.nextToken) :
    Numbered p (⟨w,p',.error e⟩ : Outcome ω n Repacked) :=
  ⟨.inl hnext,fun r hr => by cases hr⟩

theorem reserveInto_leaseToken (p : Pool n) (i : Fin n)
    (token : UInt64) (width height : UInt32) (reservationId : UInt64) (r : Repacked)
    (hr : (reserveInto gpu os w p i token width height reservationId).result = .ok r) :
    r.leaseToken = token := by
  unfold reserveInto at hr
  split at hr
  · cases hr
  · split at hr
    · cases hr
    · cases hr
      rfl

theorem copyInto_leaseToken (p : Pool n) (i : Fin n)
    (token : UInt64) (source : Descriptor) (fence : Fd) (bufferId : UInt64) (r : Repacked)
    (hr : (copyInto gpu os w p i token source fence bufferId).result = .ok r) :
    r.leaseToken = token := by
  unfold copyInto at hr
  split at hr
  · cases hr
  · split at hr
    · cases hr
    · cases hr
      rfl

theorem reserve_numbered (p : Pool n) (width height : UInt32)
    (reservationId : UInt64) : Numbered p (reserve gpu os w p width height reservationId) := by
  unfold reserve
  split
  · exact numbered_refused w _ rfl
  obtain ⟨⟨hleases, -, -⟩,hnext, -⟩ := attach_kept gpu w p
  generalize p.attach gpu w = out at hnext hleases ⊢
  obtain ⟨w1,p1,result⟩ := out
  cases result with
  | error e => exact numbered_refused w1 e hnext
  | ok _ =>
    refine numbered_acquire hleases hnext fun i token => ⟨?_,?_⟩
    · exact reserveInto_nextToken ..
    · exact reserveInto_leaseToken gpu os w1 _ i token width height reservationId

theorem repackLinearPooled_numbered (p : Pool n)
    (source : Descriptor) (fence : Fd) (bufferId : UInt64) :
    Numbered p (repackLinearPooled gpu os w p source fence bufferId) := by
  refine repackLinearPooledInternal_cases (fun w' p' e _ hnext => numbered_refused w' e hnext)
    fun w' p' hkept hnext _ => ?_
  refine numbered_acquire hkept.leases hnext fun i token => ⟨?_,fun r hr => ?_⟩
  · exact repackInto_nextToken ..
  · unfold repackInto at hr
    rw [if_neg (by simp)] at hr
    split at hr
    · cases hr
    · exact copyInto_leaseToken _ _ _ _ _ _ _ _ _ r hr

theorem repackLinearReserved_nextToken (p : Pool n)
    (token : UInt64) (source : Descriptor) (fence : Fd) (bufferId : UInt64) :
    (repackLinearReserved gpu os w p token source fence bufferId).pool.nextToken = p.nextToken := by
  unfold repackLinearReserved
  split
  · rfl
  rename_i hne
  refine repackLinearPooledInternal_cases (P := fun out => out.pool.nextToken = p.nextToken)
    (fun _ _ _ _ hnext => hnext) fun w' p' _ hnext _ => ?_
  have hlease : (repackLease p' token).next = p'.nextToken := by
    rw [repackLease,if_pos (by simpa using hne)]
  split
  · exact hlease.trans hnext
  · exact (repackInto_nextToken ..).trans (hlease.trans hnext)

theorem LeaseStep.ticks {width height : UInt32} {signature : Signature}
    {out : Outcome ω n Repacked} (h : LeaseStep p width height signature out)
    (hnumbered : Numbered p out) : Ticks p out.pool := by
  unfold LeaseStep at h
  split at h
  · have hlive := (liveTokens_refused h).1
    rcases hnumbered.1 with hkept | hmoved
    · exact .inl ⟨hkept,hlive.le⟩
    · exact .inr ⟨hmoved,.inl hlive.le⟩
  · rename_i r hr
    obtain ⟨i,slot,hleased,_⟩ := h
    obtain ⟨htoken,hmoved⟩ := hnumbered.2 r hr
    refine .inr ⟨hmoved,.inr ⟨⟨i,hleased.fresh.free⟩,?_⟩⟩
    rw [htoken,hleased.wrote.leases,liveTokens_acquire _ hleased.fresh.free]

theorem Wrote.liveTokens_le {i : Fin n} {key : LeaseKey} {slot : Destination}
    (h : Wrote p p' i key slot) (hkey : key = .clear ∨ key = p.leases i) :
    liveTokens p'.leases ≤ liveTokens p.leases := by
  rw [h.leases]
  rcases hkey with rfl | rfl
  · have hsum := Slots.sum_update_add p.leases i .clear fun _ => LeaseKey.held
    rw [LeaseKey.held_clear,add_zero] at hsum
    exact le_of_le_of_eq (le_add_right _ _) hsum
  · rw [update_eq_self]

theorem poolRelease_nextToken (p : Pool n) (token : UInt64)
    (fence : Fd) : (poolRelease gpu os w p token fence).pool.nextToken = p.nextToken := by
  unfold poolRelease
  dsimp only
  split
  · rfl
  split
  · split <;> rfl
  split
  · rfl
  · split
    · rfl
    · split <;> rfl

theorem poolDiscard_nextToken (p : Pool n) (token : UInt64) :
    (poolDiscard gpu os w p token).pool.nextToken = p.nextToken := by
  unfold poolDiscard
  split
  · rfl
  · split <;> rfl

theorem EndStep.ticks {token : UInt64} {out : Outcome ω n Unit}
    (h : EndStep p token out) (hnext : out.pool.nextToken = p.nextToken) : Ticks p out.pool := by
  unfold EndStep at h
  split at h
  · exact .inl ⟨hnext,by rw [h]⟩
  · obtain ⟨i,slot,_,hwrote,_⟩ := h
    exact .inl ⟨hnext,hwrote.liveTokens_le (.inl rfl)⟩

theorem ReservedStep.ticks {token : UInt64} {out : Outcome ω n Repacked}
    (h : ReservedStep p token out) (hnext : out.pool.nextToken = p.nextToken) :
    Ticks p out.pool := by
  refine .inl ⟨hnext,?_⟩
  rcases h with ⟨hkept,_⟩ | ⟨i,hkey,hstep⟩
  · rw [hkept.leases]
  · unfold SlotStep at hstep
    split at hstep
    · exact hstep.liveTokens_le (.inl rfl)
    · obtain ⟨_,slot,hwrote,_⟩ := hstep
      exact hwrote.liveTokens_le (.inr hkey.symm)
variable (s : Running ω n)
theorem step_ticks (op : Op) :
    Ticks s.2 (step gpu os s op).1.2 := by
  cases op with
  | reserve => exact (reserve_step gpu os ..).ticks (reserve_numbered ..)
  | repack => exact (repackLinearPooled_step gpu os ..).ticks (repackLinearPooled_numbered ..)
  | repackReserved =>
    exact (repackLinearReserved_step gpu os ..).ticks (repackLinearReserved_nextToken ..)
  | release => exact (poolRelease_step gpu os ..).ticks (poolRelease_nextToken ..)
  | discard => exact (poolDiscard_step gpu os ..).ticks (poolDiscard_nextToken ..)

/-- How often the counter has moved in a history, which is once for every lease acquired. -/
def acquisitions (gpu : Gpu ω) (os : Os ω) : Running ω n → List Op → Nat
  | _, [] => 0
  | s, op :: ops =>
    (if (step gpu os s op).1.2.nextToken = s.2.nextToken then 0 else 1) +
      acquisitions gpu os (step gpu os s op).1 ops

/-- What holds between two pools of a history: the tokens up to the counter of the first that are
live in the second were live in the first. -/
def Ages (p p' : Pool n) : Prop :=
  p.nextToken.toNat ≤ p'.nextToken.toNat ∧
    ∀ token ∈ liveTokens p'.leases, token.toNat ≤ p.nextToken.toNat → token ∈ liveTokens p.leases

theorem Ages.trans {p p' p'' : Pool n} (h : Ages p p') (h' : Ages p' p'') : Ages p p'' :=
  ⟨h.1.trans h'.1,fun token hlive hle => h.2 token (h'.2 token hlive (hle.trans h.1)) hle⟩

theorem Counted.ended (h : Counted p) (hkept : p'.nextToken = p.nextToken)
    (hlive : liveTokens p'.leases ≤ liveTokens p.leases) : Counted p' where
  nodup := nodup_of_le hlive h.nodup
  range := fun token htoken => hkept ▸ h.range token (mem_of_le hlive htoken)

theorem Counted.advanced (h : Counted p) (hnext : p'.nextToken.toNat = p.nextToken.toNat + 1)
    (hlive : liveTokens p'.leases ≤ liveTokens p.leases + {p'.nextToken}) :
    Counted p' ∧ Ages p p' := by
  have hmem (token : UInt64) (htoken : token ∈ liveTokens p'.leases) :
      token ∈ liveTokens p.leases ∨ token = p'.nextToken := by
    simpa using mem_of_le hlive htoken
  refine ⟨⟨nodup_of_le hlive ?_,fun token htoken => ?_⟩,by omega,fun token htoken hle => ?_⟩
  · rw [nodup_add,disjoint_singleton]
    refine ⟨h.nodup,nodup_singleton _,fun hold => ?_⟩
    have hrange := (h.range _ hold).2
    omega
  · rcases hmem token htoken with hold | rfl
    · have hrange := h.range token hold
      omega
    · omega
  · refine (hmem token htoken).resolve_right fun heq => ?_
    rw [heq] at hle
    omega

theorem Ticks.counted (h : Ticks p p') (hcounted : Counted p)
    (hnext : p.nextToken.toNat < 2 ^ 64 - 1) :
    Counted p' ∧ Ages p p' ∧ p'.nextToken.toNat = p.nextToken.toNat +
      (if p'.nextToken = p.nextToken then 0 else 1) := by
  have hended (hkept : p'.nextToken = p.nextToken)
      (hlive : liveTokens p'.leases ≤ liveTokens p.leases) : Counted p' ∧ Ages p p' ∧
      p'.nextToken.toNat = p.nextToken.toNat +
        (if p'.nextToken = p.nextToken then 0 else 1) :=
    ⟨hcounted.ended hkept hlive,⟨by rw [hkept],fun _ htoken _ => mem_of_le hlive htoken⟩,
      by rw [if_pos hkept,hkept,add_zero]⟩
  rcases h with ⟨hkept,hlive⟩ | ⟨hmoved,hlive⟩
  · exact hended hkept hlive
  rcases hcounted.leaseAcquire hnext with ⟨_,_,_,hsucc⟩ | ⟨hfull,_,hsame⟩
  · have hvalue : p'.nextToken.toNat = p.nextToken.toNat + 1 := by
      rw [hmoved,hsucc,succToken_toNat hnext]
    have hne : p'.nextToken ≠ p.nextToken := fun heq => by
      rw [heq] at hvalue
      omega
    have hadd : liveTokens p'.leases ≤ liveTokens p.leases + {p'.nextToken} :=
      hlive.elim (fun hle => hle.trans (le_add_right _ _)) And.right
    obtain ⟨hafter,hages⟩ := hcounted.advanced hvalue hadd
    exact ⟨hafter,hages,by rw [if_neg hne,hvalue]⟩
  · refine hended (hmoved.trans hsame) (hlive.resolve_right ?_)
    rintro ⟨⟨i,hfree⟩,_⟩
    rw [hfull i] at hfree
    cases hfree

theorem acquisitions_append (ops ops' : List Op) :
    acquisitions gpu os s (ops ++ ops') =
      acquisitions gpu os s ops + acquisitions gpu os (Run.run (step gpu os) s ops).1 ops' := by
  induction ops generalizing s with
  | nil => simp [acquisitions]
  | cons op ops ih =>
    rw [List.cons_append,acquisitions,acquisitions,ih,Run.run_cons,add_assoc]

theorem acquisitions_left {gpu : Gpu ω} {os : Os ω} {s : Running ω n} {ops ops' : List Op}
    {bound : Nat} (h : acquisitions gpu os s (ops ++ ops') < bound) :
    acquisitions gpu os s ops < bound := by
  rw [acquisitions_append] at h
  omega

theorem history_concat (ops : List Op) (op : Op) :
    history gpu os n w (ops ++ [op]) = (step gpu os (history gpu os n w ops) op).1 := by
  unfold history
  rw [Run.run_append]
  rfl

theorem run_counted {ops : List Op}
    (hcounted : Counted s.2) (hfew : s.2.nextToken.toNat + acquisitions gpu os s ops < 2 ^ 64 - 1) :
    Counted (Run.run (step gpu os) s ops).1.2 ∧ Ages s.2 (Run.run (step gpu os) s ops).1.2 ∧
    (Run.run (step gpu os) s ops).1.2.nextToken.toNat =
      s.2.nextToken.toNat + acquisitions gpu os s ops := by
  induction ops generalizing s with
  | nil => exact ⟨hcounted,⟨le_rfl,fun _ hlive _ => hlive⟩,rfl⟩
  | cons op ops ih =>
    rw [acquisitions,← add_assoc] at hfew
    obtain ⟨hstep,hages,hvalue⟩ := (step_ticks gpu os s op).counted hcounted (by omega)
    rw [← hvalue] at hfew
    obtain ⟨hrest,hrestAges,hrestValue⟩ := ih _ hstep hfew
    rw [Run.run_cons,acquisitions,← add_assoc,← hvalue]
    exact ⟨hrest,hages.trans hrestAges,hrestValue⟩

theorem counted_create (n : Nat) : Counted (Pool.create n) := by
  have hnone : liveTokens (Pool.create n).leases = 0 := by simp [liveTokens,Pool.create]
  refine ⟨?_,fun token hlive => ?_⟩
  · rw [hnone]
    exact nodup_zero
  · rw [hnone] at hlive
    cases hlive

theorem history_counted {gpu : Gpu ω} {os : Os ω} {w : ω} {before after : List Op}
    (hfew : acquisitions gpu os (w, Pool.create n) (before ++ after) < 2 ^ 64 - 1) :
    Counted (history gpu os n w before).2 ∧
    Ages (history gpu os n w before).2 (history gpu os n w (before ++ after)).2 ∧
    (history gpu os n w (before ++ after)).2.nextToken.toNat < 2 ^ 64 - 1 := by
  have hzero : (Pool.create n).nextToken.toNat = 0 := rfl
  rw [acquisitions_append] at hfew
  have hfirst : (Pool.create n).nextToken.toNat + acquisitions gpu os (w, Pool.create n) before <
      2 ^ 64 - 1 := by
    rw [hzero]
    omega
  obtain ⟨hcounted,_,hvalue⟩ := run_counted gpu os (w, Pool.create n) (counted_create n) hfirst
  rw [hzero,zero_add] at hvalue
  rw [← hvalue] at hfew
  obtain ⟨_,hages,hlater⟩ := run_counted gpu os _ hcounted hfew
  unfold history
  rw [Run.run_append]
  exact ⟨hcounted,hages,hlater ▸ hfew⟩

/-- `lease_find` knows the token. -/
def Resolves (p : Pool n) (token : UInt64) : Prop := ∃ i, leaseFind p.leases token = .ok i

theorem Counted.resolves_iff (h : Counted p) {token : UInt64} :
    Resolves p token ↔ token ∈ liveTokens p.leases := by
  constructor
  · rintro ⟨i,hi⟩
    rw [mem_liveTokens]
    have hkey := (leaseFind_ok hi).1
    exact ⟨i,by rw [hkey],by rw [hkey]⟩
  · intro hlive
    have hne : token ≠ 0 := fun hzero => by
      have hpos := (h.range token hlive).1
      rw [hzero] at hpos
      exact absurd hpos (by decide)
    obtain ⟨i,hleased,htoken⟩ := mem_liveTokens.mp hlive
    cases hfind : leaseFind p.leases token with
    | error e => exact absurd htoken (leaseFind_error hfind hne i hleased)
    | ok j => exact ⟨j,hfind⟩

theorem Ages.not_resolves (h : Ages p p') (hcounted : Counted p)
    (hcounted' : Counted p') {token : UInt64} (hle : token.toNat ≤ p.nextToken.toNat)
    (hended : ¬ Resolves p token) : ¬ Resolves p' token := by
  rw [hcounted.resolves_iff] at hended
  rw [hcounted'.resolves_iff]
  exact fun hlive => hended (h.2 token hlive hle)

theorem Counted.token_inj (h : Counted p) {i j : Fin n}
    (hi : (p.leases i).leased = true) (hj : (p.leases j).leased = true)
    (htoken : (p.leases i).token = (p.leases j).token) : i = j := by
  by_contra hne
  have hkey : p.leases i = ⟨true,(p.leases j).token⟩ := by rw [← hi,← htoken]
  have hnodup := h.nodup
  rw [← liveTokens_clear hkey,nodup_add,disjoint_singleton] at hnodup
  refine hnodup.2.2 (mem_liveTokens.mpr ⟨j,?_,?_⟩)
  · rw [update_of_ne (Ne.symm hne),hj]
  · rw [update_of_ne (Ne.symm hne)]

theorem EndStep.not_resolves {token : UInt64} {out : Outcome ω n Unit}
    (h : EndStep p token out) (hcounted : Counted p) (hcounted' : Counted out.pool)
    (hok : out.errors = []) :
    token.toNat ≤ p.nextToken.toNat ∧ ¬ Resolves out.pool token := by
  unfold EndStep at h
  unfold Outcome.errors at hok
  split at h
  · rename_i hresult
    rw [hresult] at hok
    cases hok
  obtain ⟨i,slot,hkey,hwrote,_⟩ := h
  have hlive : token ∈ liveTokens p.leases :=
    mem_liveTokens.mpr ⟨i,by rw [hkey],by rw [hkey]⟩
  refine ⟨(hcounted.range token hlive).2,?_⟩
  have hnodup := hcounted.nodup
  rw [← liveTokens_clear hkey,nodup_add,disjoint_singleton] at hnodup
  rw [hcounted'.resolves_iff,hwrote.leases]
  exact hnodup.2.2

theorem Refused.leases_iff (h : Refused p p') (i : Fin n) (token : UInt64) :
    p'.leases i = ⟨true,token⟩ ↔ p.leases i = ⟨true,token⟩ := by
  cases h with
  | kept hkept => rw [hkept.leases]
  | emptied j hfree hwrote =>
    rw [hwrote.leases]
    rcases eq_or_ne i j with rfl | hne
    · rw [update_self]
      refine iff_of_false (fun h => ?_) (fun h => ?_)
      · cases h
      · rw [h] at hfree
        cases hfree
    · rw [update_of_ne hne]

def Op.ends (token : UInt64) : Op → Prop
  | .release token' _ => token' = token
  | .discard token' => token' = token
  | _ => False

theorem step_ends {gpu : Gpu ω} {os : Os ω} {s : Running ω n} {op : Op} {token : UInt64}
    (hends : op.ends token) (hcounted : Counted s.2)
    (hcounted' : Counted (step gpu os s op).1.2) (hok : (step gpu os s op).2 = []) :
    token.toNat ≤ s.2.nextToken.toNat ∧ ¬ Resolves (step gpu os s op).1.2 token := by
  cases op with
  | release _ fence =>
    cases hends
    exact (poolRelease_step ..).not_resolves hcounted hcounted' hok
  | discard =>
    cases hends
    exact (poolDiscard_step ..).not_resolves hcounted hcounted' hok
  | reserve => cases hends
  | repack => cases hends
  | repackReserved => cases hends

/-- The leases of a pool that has handed out fewer than `2 ^ 64 - 1` of them. A slot can be leased
exactly when one is free. Live tokens are not zero and differ from slot to slot. A token that has
ended, through its holder or a failed repack, is not found again. A repack without a reservation
that fails ends with the leases it began with. -/
theorem history_leases (gpu : Gpu ω) (os : Os ω) (n : Nat) (w : ω) (ops : List Op)
    (hfew : acquisitions gpu os (w, Pool.create n) ops < 2 ^ 64 - 1) :
    let s := history gpu os n w ops
    let acquired := (leaseAcquire s.2.leases s.2.nextToken).result
    ((∃ lease, acquired = .ok lease) ↔ ∃ i, (s.2.leases i).leased = false) ∧
      acquired ≠ .error .eoverflow ∧
      (∀ i, (s.2.leases i).leased = true → (s.2.leases i).token ≠ 0) ∧
      (∀ i j, (s.2.leases i).leased = true → (s.2.leases j).leased = true →
        (s.2.leases i).token = (s.2.leases j).token → i = j) ∧
      (∀ before between after token, ops = before ++ between ++ after →
        Resolves (history gpu os n w before).2 token →
        ¬ Resolves (history gpu os n w (before ++ between)).2 token → ¬ Resolves s.2 token) ∧
      (∀ before op after token, ops = before ++ [op] ++ after → op.ends token →
        (step gpu os (history gpu os n w before) op).2 = [] → ¬ Resolves s.2 token) ∧
      ∀ source fence bufferId e,
        (repackLinearPooled gpu os s.1 s.2 source fence bufferId).result = .error e →
        ∀ i token,
          (repackLinearPooled gpu os s.1 s.2 source fence bufferId).pool.leases i = ⟨true,token⟩ ↔
            s.2.leases i = ⟨true,token⟩ := by
  intro s acquired
  have hall : acquisitions gpu os (w, Pool.create n) (ops ++ []) < 2 ^ 64 - 1 := by
    rwa [List.append_nil]
  obtain ⟨hcounted,_,hnext⟩ := history_counted hall
  rw [List.append_nil] at hnext
  -- The exits of `lease_acquire`, and with them the first two parts.
  have hacquire : (∃ i lease, (s.2.leases i).leased = false ∧ acquired = .ok lease) ∨
      (∀ i, (s.2.leases i).leased = true) ∧ acquired = .error .enospc := by
    rcases hcounted.leaseAcquire hnext with ⟨i,hfree,hok,_⟩ | ⟨hfull,herror,_⟩
    · exact .inl ⟨i,_,hfree,hok⟩
    · exact .inr ⟨hfull,herror⟩
  refine ⟨?_,?_,fun i hi hzero => ?_,fun i j => hcounted.token_inj,?_,?_,?_⟩
  · rcases hacquire with ⟨i,lease,hfree,hok⟩ | ⟨hfull,herror⟩
    · exact ⟨fun _ => ⟨i,hfree⟩,fun _ => ⟨lease,hok⟩⟩
    · apply iff_of_false
      · rintro ⟨lease,hok⟩
        rw [herror] at hok
        cases hok
      · rintro ⟨i,hfree⟩
        rw [hfull i] at hfree
        cases hfree
  · intro hover
    rcases hacquire with ⟨i,lease,hfree,hok⟩ | ⟨hfull,herror⟩
    · rw [hok] at hover
      cases hover
    · rw [herror] at hover
      cases hover
  · have hpos := (hcounted.range 0 (mem_liveTokens.mpr ⟨i,hi,hzero⟩)).1
    exact absurd hpos (by decide)
  · rintro before between after token rfl hfound hended
    obtain ⟨hmiddle,hages,_⟩ := history_counted hfew
    obtain ⟨hfirst,hbetween,_⟩ := history_counted (acquisitions_left hfew)
    rw [hfirst.resolves_iff] at hfound
    exact hages.not_resolves hmiddle hcounted ((hfirst.range token hfound).2.trans hbetween.1) hended
  · rintro before op after token rfl hends hok
    obtain ⟨hmiddle,hages,_⟩ := history_counted hfew
    obtain ⟨hfirst,hstep,_⟩ := history_counted (acquisitions_left hfew)
    rw [history_concat] at hmiddle hages hstep
    obtain ⟨hle,hended⟩ := step_ends hends hfirst hmiddle hok
    exact hages.not_resolves hmiddle hcounted (hle.trans hstep.1) hended
  · intro source fence bufferId e herror
    have hstep := repackLinearPooled_step gpu os s.1 s.2 source fence bufferId
    unfold LeaseStep at hstep
    rw [herror] at hstep
    exact hstep.leases_iff

/-- Two frames are repacked and the first is released: one slot is free, the token of the released
lease has ended. -/
theorem history_leases_two_frames :
    let ops : List Op := [.repack (compressedFrame 1920 1080) (-1) 5,
      .repack (compressedFrame 1280 720) (-1) 6,.release 1 (-1)]
    acquisitions linearGpu idleOs ((), Pool.create 2) ops = 2 ∧
      ((∃ lease, (leaseAcquire (history linearGpu idleOs 2 () ops).2.leases
          (history linearGpu idleOs 2 () ops).2.nextToken).result = .ok lease) ↔
        ∃ i, ((history linearGpu idleOs 2 () ops).2.leases i).leased = false) ∧
      ¬ Resolves (history linearGpu idleOs 2 () ops).2 1 := by
  have hruns : acquisitions linearGpu idleOs ((), Pool.create 2)
        [.repack (compressedFrame 1920 1080) (-1) 5,.repack (compressedFrame 1280 720) (-1) 6,
          .release 1 (-1)] = 2 ∧
      (step linearGpu idleOs (history linearGpu idleOs 2 ()
        [.repack (compressedFrame 1920 1080) (-1) 5,.repack (compressedFrame 1280 720) (-1) 6])
        (.release 1 (-1))).2 = [] := by
    decide +kernel
  have hleases := history_leases linearGpu idleOs 2 ()
    [.repack (compressedFrame 1920 1080) (-1) 5,.repack (compressedFrame 1280 720) (-1) 6,
      .release 1 (-1)] (by rw [hruns.1]; decide)
  exact ⟨hruns.1,hleases.1,hleases.2.2.2.2.2.1
    [.repack (compressedFrame 1920 1080) (-1) 5,.repack (compressedFrame 1280 720) (-1) 6]
    (.release 1 (-1)) [] 1 rfl rfl hruns.2⟩
end LinDeX.Repack
