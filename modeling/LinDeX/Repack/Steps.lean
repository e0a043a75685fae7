import LinDeX.Repack.Pool

/-!
# What a call on the pool does

Every call either leaves leases and destinations alone or rewrites the lease and the destination
of one slot. The lemmas say which slot that is and what is written to it.
-/
namespace LinDeX.Repack
open Dmabuf Function
variable {ω : Type} {n : Nat}
structure Kept (p p' : Pool n) : Prop where
  leases : p'.leases = p.leases
  destinations : p'.destinations = p.destinations
  attached : p.attached = true → p'.attached = true

structure Wrote (p p' : Pool n) (i : Fin n) (key : LeaseKey) (slot : Destination) : Prop where
  leases : p'.leases = update p.leases i key
  destinations : p'.destinations = update p.destinations i slot
  attached : p'.attached = true

def Destination.Sound (slot : Destination) : Prop :=
  slot.signatureValid = true → slot.extent = (slot.signature.width, slot.signature.height)
def Destination.shape (slot : Destination) : Bool × Signature × (UInt32 × UInt32) :=
  (slot.signatureValid, slot.signature, slot.extent)

structure Made (signature : Signature) (slot : Destination) : Prop where
  valid : slot.signatureValid = true
  signature_eq : slot.signature = signature
  extent : slot.extent = (signature.width, signature.height)

def Provided (before : Destination) (width height : UInt32) (signature : Signature)
    (slot : Destination) : Prop :=
  if before.sized width height then slot = before else Made signature slot

/-- A call that fails without a lease of its own: nothing, or a free slot loses its image. -/
inductive Refused (p p' : Pool n) : Prop
  | kept (h : Kept p p')
  | emptied (i : Fin n) (hfree : (p.leases i).leased = false) (h : Wrote p p' i .clear .empty)

structure Leased (p p' : Pool n) (i : Fin n) (token : UInt64) (slot : Destination) : Prop where
  fresh : Fresh p.leases i token
  first : Fin.find? (fun i => !(p.leases i).leased) = some i
  wrote : Wrote p p' i ⟨true,token⟩ slot

/-- What is left of a call once it holds the lease of a slot, by its result: the slot is given up,
or it stays leased with a destination of which `Good` holds. -/
def SlotStep (p : Pool n) (i : Fin n) (token : UInt64) (Good : Destination → Prop)
    (out : Outcome ω n Repacked) : Prop :=
  match out.result with
  | .error _ => Wrote p out.pool i .clear .empty
  | .ok r => r.leaseToken = token ∧ ∃ slot, Wrote p out.pool i ⟨true,token⟩ slot ∧ Good slot

def Shaped (before : Destination) (width height : UInt32) (signature : Signature)
    (slot : Destination) : Prop :=
  ∃ provided, Provided before width height signature provided ∧ slot.shape = provided.shape

def LeaseStep (p : Pool n) (width height : UInt32) (signature : Signature)
    (out : Outcome ω n Repacked) : Prop :=
  match out.result with
  | .error _ => Refused p out.pool
  | .ok r => ∃ i slot, Leased p out.pool i r.leaseToken slot ∧
      Shaped (p.destinations i) width height signature slot

/-- The pool after `advc_repack_lease_acquire`. -/
def Pool.withLeases (p : Pool n) (acquired : Acquired n) : Pool n :=
  { p with leases := acquired.keys, nextToken := acquired.next }

def ReservedStep (p : Pool n) (token : UInt64) (out : Outcome ω n Repacked) : Prop :=
  Kept p out.pool ∧ (∃ e, out.result = .error e) ∨
    ∃ i, p.leases i = ⟨true,token⟩ ∧
      SlotStep p i token (fun slot => slot.shape = (p.destinations i).shape) out

def EndStep (p : Pool n) (token : UInt64) (out : Outcome ω n Unit) : Prop :=
  match out.result with
  | .error _ => out.pool = p
  | .ok _ => ∃ i slot, p.leases i = ⟨true,token⟩ ∧ Wrote p out.pool i .clear slot ∧
      (slot = .empty ∨ slot.shape = (p.destinations i).shape)

theorem Destination.Sound.of_shape {slot slot' : Destination} (h : slot.Sound)
    (hshape : slot'.shape = slot.shape) : slot'.Sound := by
  obtain ⟨hvalid,hsignature,hextent⟩ : _ ∧ _ ∧ _ := by
    simpa only [Destination.shape,Prod.mk.injEq] using hshape
  intro hv
  rw [hextent,hsignature]
  exact h (hvalid ▸ hv)

theorem Destination.Sound.empty : Destination.empty.Sound := nofun
theorem Kept.refl (p : Pool n) : Kept p p := ⟨rfl,rfl,id⟩
variable {p p' p'' : Pool n}
theorem Kept.trans (h : Kept p p') (h' : Kept p' p'') : Kept p p'' :=
  ⟨h'.leases.trans h.leases,h'.destinations.trans h.destinations,h'.attached ∘ h.attached⟩
variable {key : LeaseKey} {slot : Destination} {signature : Signature} {width height : UInt32}
  {token : UInt64}
variable {i : Fin n}
theorem Kept.wrote (h : Kept p p') (h' : Wrote p' p'' i key slot) : Wrote p p'' i key slot :=
  ⟨h.leases ▸ h'.leases,h.destinations ▸ h'.destinations,h'.attached⟩

theorem Wrote.trans {key' : LeaseKey} {slot' : Destination} (h : Wrote p p' i key slot)
    (h' : Wrote p' p'' i key' slot') :
    Wrote p p'' i key' slot' := by
  refine ⟨?_,?_,h'.attached⟩
  · rw [h'.leases,h.leases,update_idem]
  · rw [h'.destinations,h.destinations,update_idem]

theorem Wrote.lease (h : Wrote p p' i key slot) : p'.leases i = key := by
  rw [h.leases,update_self]
theorem Wrote.destination (h : Wrote p p' i key slot) : p'.destinations i = slot := by
  rw [h.destinations,update_self]
variable (gpu : Gpu ω) (os : Os ω) (w : ω)
theorem drop_wrote (i : Fin n) (h : p.attached = true) :
    Wrote p (p.drop os w i).2 i .clear .empty := ⟨rfl,rfl,h⟩
theorem fail_wrote {α : Type} (i : Fin n) (e : Errno) (h : p.attached = true) :
    Wrote p (p.fail os w i e : Outcome ω n α).pool i .clear .empty := drop_wrote os w i h

theorem Made.sound (h : Made signature slot) :
    slot.Sound := by
  intro _
  rw [h.extent,h.signature_eq]

theorem Provided.sound {before : Destination}
    (h : Provided before width height signature slot) (hbefore : before.Sound) : slot.Sound := by
  unfold Provided at h
  split at h
  · rwa [h]
  · exact h.sound

theorem createDestination_wrote (i : Fin n)
    (signature : Signature) (hattached : p.attached = true) :
    ∃ slot, Wrote p (createDestination gpu os w p i signature).pool i (p.leases i) slot ∧
    ((createDestination gpu os w p i signature).result = .ok () → Made signature slot) := by
  have hlease : p.leases = update p.leases i (p.leases i) :=
    (update_eq_self i p.leases).symm
  unfold createDestination
  split
  · exact ⟨_,⟨hlease,rfl,hattached⟩,nofun⟩
  · split
    · exact ⟨_,⟨hlease,rfl,hattached⟩,nofun⟩
    split
    · exact ⟨_,⟨hlease,rfl,hattached⟩,nofun⟩
    · exact ⟨_,⟨hlease,rfl,hattached⟩,fun _ => ⟨rfl,rfl,rfl⟩⟩

theorem provideDestination_wrote (i : Fin n)
    (width height : UInt32) (signature : Signature) (hattached : p.attached = true) :
    ∃ slot,
      Wrote p (provideDestination gpu os w p i width height signature).pool i (p.leases i) slot ∧
      ((provideDestination gpu os w p i width height signature).result = .ok () →
        Provided (p.destinations i) width height signature slot) := by
  unfold provideDestination Provided
  split
  · refine ⟨p.destinations i,⟨?_,?_,hattached⟩,fun _ => rfl⟩
    · exact (update_eq_self i p.leases).symm
    · exact (update_eq_self i p.destinations).symm
  · have hdestroyed : Wrote p (destroyDestination os w p i).2 i (p.leases i) .empty :=
      ⟨(update_eq_self i p.leases).symm,rfl,hattached⟩
    obtain ⟨slot,hwrote,hmade⟩ := createDestination_wrote gpu os
      (destroyDestination os w p i).1 (p := (destroyDestination os w p i).2) i signature hattached
    exact ⟨slot,hdestroyed.trans hwrote,hmade⟩

theorem attach_kept (p : Pool n) :
    Kept p (p.attach gpu w).pool ∧ (p.attach gpu w).pool.nextToken = p.nextToken ∧
    ((p.attach gpu w).result = .ok () → (p.attach gpu w).pool.attached = true) := by
  unfold Pool.attach
  split
  · exact ⟨.refl p,rfl,fun _ => ‹_›⟩
  · split
    · exact ⟨.refl p,rfl,nofun⟩
    · exact ⟨⟨rfl,rfl,fun _ => rfl⟩,rfl,fun _ => rfl⟩

theorem takeSource_kept (p : Pool n) (identity : Identity)
    (signature : Signature) (source : Descriptor) :
    Kept p (takeSource gpu w p identity signature source).pool ∧
    (takeSource gpu w p identity signature source).pool.nextToken = p.nextToken ∧
    (takeSource gpu w p identity signature source).pool.attached = p.attached := by
  unfold takeSource
  split
  · exact ⟨.refl p,rfl,rfl⟩
  · exact ⟨⟨rfl,rfl,id⟩,rfl,rfl⟩
  · dsimp only
    split <;> exact ⟨⟨rfl,rfl,id⟩,rfl,rfl⟩

theorem liveTokens_refused (h : Refused p p') :
    liveTokens p'.leases = liveTokens p.leases ∧ (p.attached = true → p'.attached = true) := by
  cases h with
  | kept hkept => exact ⟨by rw [hkept.leases],hkept.attached⟩
  | emptied i hfree hwrote =>
    refine ⟨?_,fun _ => hwrote.attached⟩
    have hsum := Slots.sum_update_add p.leases i .clear fun _ => LeaseKey.held
    rw [LeaseKey.held_of_free hfree,LeaseKey.held_clear,add_zero,add_zero] at hsum
    rw [hwrote.leases]
    exact hsum

theorem Kept.refused (h : Kept p p') (h' : Refused p' p'') : Refused p p'' := by
  cases h' with
  | kept hkept => exact .kept (h.trans hkept)
  | emptied i hfree hwrote => exact .emptied i (h.leases ▸ hfree) (h.wrote hwrote)

theorem Kept.leased (h : Kept p p') (h' : Leased p' p'' i token slot) : Leased p p'' i token slot :=
  ⟨h.leases ▸ h'.fresh,h.leases ▸ h'.first,h.wrote h'.wrote⟩

variable {out : Outcome ω n Repacked}
theorem Wrote.slotStep {Good : Destination → Prop}
    (h : Wrote p p' i key slot) (h' : SlotStep p' i token Good out) :
    SlotStep p i token Good out := by
  unfold SlotStep at h' ⊢
  split at h'
  · exact h.trans h'
  · obtain ⟨htoken,slot',hwrote,hgood⟩ := h'
    exact ⟨htoken,slot',h.trans hwrote,hgood⟩

theorem SlotStep.mono {Good Good' : Destination → Prop} (h : SlotStep p i token Good out)
    (himp : ∀ slot, Good slot → Good' slot) : SlotStep p i token Good' out := by
  unfold SlotStep at h ⊢
  split at h
  · exact h
  · obtain ⟨htoken,slot,hwrote,hgood⟩ := h
    exact ⟨htoken,slot,hwrote,himp slot hgood⟩

theorem fail_slotStep (i : Fin n) (token : UInt64)
    (Good : Destination → Prop) (e : Errno) (h : p.attached = true) :
    SlotStep p i token Good (p.fail os w i e) := fail_wrote os w i e h

theorem Shaped.sound {before : Destination}
    (h : Shaped before width height signature slot) (hbefore : before.Sound) : slot.Sound := by
  obtain ⟨provided,hprovided,hshape⟩ := h
  exact (hprovided.sound hbefore).of_shape hshape

theorem Kept.leaseStep (h : Kept p p') (h' : LeaseStep p' width height signature out) :
    LeaseStep p width height signature out := by
  unfold LeaseStep at h' ⊢
  split at h'
  · exact h.refused h'
  · obtain ⟨i,slot,hleased,hshaped⟩ := h'
    exact ⟨i,slot,h.leased hleased,h.destinations ▸ hshaped⟩

theorem leaseStep_acquire
    {rest : Fin n → UInt64 → Outcome ω n Repacked} {w : ω} (hattached : p.attached = true)
    (h : ∀ i token, (p.withLeases (leaseAcquire p.leases p.nextToken)).leases i = ⟨true,token⟩ →
      SlotStep (p.withLeases (leaseAcquire p.leases p.nextToken)) i token
        (Shaped (p.destinations i) width height signature) (rest i token)) :
    LeaseStep p width height signature
      (match (leaseAcquire p.leases p.nextToken).result with
        | .error e => ⟨w,p.withLeases (leaseAcquire p.leases p.nextToken),.error e⟩
        | .ok (i, token) => rest i token) := by
  cases hresult : (leaseAcquire p.leases p.nextToken).result with
  | error e => exact .kept ⟨leaseAcquire_error hresult,rfl,id⟩
  | ok r =>
    obtain ⟨i,token⟩ := r
    obtain ⟨hfresh,hkeys,hfirst, -⟩ := leaseAcquire_ok hresult
    have hwrote : Wrote p (p.withLeases (leaseAcquire p.leases p.nextToken)) i ⟨true,token⟩
        (p.destinations i) :=
      ⟨hkeys,(update_eq_self i p.destinations).symm,hattached⟩
    have hstep := hwrote.slotStep (h i token hwrote.lease)
    dsimp only
    unfold LeaseStep
    unfold SlotStep at hstep
    split at hstep
    · exact .emptied i hfresh.free hstep
    · obtain ⟨rfl,slot,hslot,hshaped⟩ := hstep
      exact ⟨i,slot,⟨hfresh,hfirst,hslot⟩,hshaped⟩

theorem provideDestination_slotStep (width height : UInt32) (signature : Signature)
    {rest : ω → Pool n → Outcome ω n Repacked} (hattached : p.attached = true)
    (hlease : p.leases i = ⟨true,token⟩)
    (h : ∀ w' p', p'.attached = true → p'.leases i = ⟨true,token⟩ →
      SlotStep p' i token (fun slot => slot.shape = (p'.destinations i).shape) (rest w' p')) :
    SlotStep p i token (Shaped (p.destinations i) width height signature)
      (match provideDestination gpu os w p i width height signature with
        | ⟨w,p,.error e⟩ => p.fail os w i e
        | ⟨w,p,.ok ()⟩ => rest w p) := by
  obtain ⟨slot,hwrote,hprovided⟩ :=
    provideDestination_wrote gpu os w i width height signature hattached
  rw [hlease] at hwrote
  generalize provideDestination gpu os w p i width height signature = out at hwrote hprovided ⊢
  obtain ⟨w',p',result⟩ := out
  cases result with
  | error e => exact hwrote.slotStep (fail_slotStep os w' i token _ e hwrote.attached)
  | ok _ =>
    refine hwrote.slotStep ((h w' p' hwrote.attached hwrote.lease).mono fun slot' hshape => ?_)
    rw [hwrote.destination] at hshape
    exact ⟨slot,hprovided rfl,hshape⟩

theorem copyInto_slotStep (source : Descriptor) (fence : Fd) (bufferId : UInt64)
    (hattached : p.attached = true) (hlease : p.leases i = ⟨true,token⟩) :
    SlotStep p i token (fun slot => slot.shape = (p.destinations i).shape)
      (copyInto gpu os w p i token source fence bufferId) := by
  unfold copyInto
  generalize exportDestination gpu os w (p.destinations i) source bufferId = exported
  obtain ⟨w1,exported⟩ := exported
  cases exported with
  | error e => exact fail_slotStep os w1 i token _ e hattached
  | ok d =>
    dsimp only
    generalize gpu.copy w1 (p.destinations i) source fence = copied
    obtain ⟨w2,copied⟩ := copied
    cases copied with
    | error e => exact fail_slotStep os _ i token _ e hattached
    | ok fences =>
      have hleases : p.leases = update p.leases i ⟨true,token⟩ := by
        rw [← hlease,update_eq_self]
      exact ⟨rfl,_,⟨hleases,rfl,hattached⟩,rfl⟩

theorem reserve_step (p : Pool n) (width height : UInt32) (reservationId : UInt64) :
    LeaseStep p width height (reserveSignature width height reservationId)
      (reserve gpu os w p width height reservationId) := by
  unfold reserve
  split
  · exact .kept (.refl p)
  obtain ⟨hkept, -,hattached⟩ := attach_kept gpu w p
  generalize p.attach gpu w = out at hkept hattached ⊢
  obtain ⟨w1,p1,result⟩ := out
  cases result with
  | error e => exact .kept hkept
  | ok _ =>
    refine hkept.leaseStep (leaseStep_acquire (hattached rfl) fun i token hlease => ?_)
    refine provideDestination_slotStep gpu os w1 width height _ (hattached rfl) hlease
      fun w2 p2 hattached2 hlease2 => ?_
    generalize exportDestination gpu os w2 (p2.destinations i)
      (reserveMetadata width height reservationId) reservationId = exported
    obtain ⟨w3,exported⟩ := exported
    cases exported with
    | error e => exact fail_slotStep os w3 i token _ e hattached2
    | ok d =>
      have hleases : p2.leases = update p2.leases i ⟨true,token⟩ := by
        rw [← hlease2,update_eq_self]
      exact ⟨rfl,p2.destinations i,
        ⟨hleases,(update_eq_self i p2.destinations).symm,hattached2⟩,rfl⟩

theorem repackLinearPooledInternal_cases {gpu : Gpu ω} {os : Os ω} {w : ω}
    {requested : UInt64} {source : Descriptor} {fence : Fd} {bufferId : UInt64}
    {P : Outcome ω n Repacked → Prop}
    (hrefused : ∀ w' p' e, Kept p p' → p'.nextToken = p.nextToken → P ⟨w',p',.error e⟩)
    (hlease : ∀ w' p', Kept p p' → p'.nextToken = p.nextToken → p'.attached = true →
      P (match (repackLease p' requested).result with
        | .error e => ⟨w',p'.withLeases (repackLease p' requested),.error e⟩
        | .ok (i, token) => repackInto gpu os w' (p'.withLeases (repackLease p' requested)) i
            requested token source fence bufferId)) :
    P (repackLinearPooledInternal gpu os w p requested source fence bufferId) := by
  unfold repackLinearPooledInternal
  iterate 3
    split
    · exact hrefused _ _ _ (.refl p) rfl
  rename_i identity _
  obtain ⟨hkept,hnext,hattached⟩ := attach_kept gpu w p
  generalize p.attach gpu w = out at hkept hattached hnext ⊢
  obtain ⟨w1,p1,result⟩ := out
  cases result with
  | error e => exact hrefused _ _ _ hkept hnext
  | ok _ =>
    dsimp only
    obtain ⟨hsource,hnext',hattached'⟩ := takeSource_kept gpu w1 p1 identity (.make source) source
    generalize takeSource gpu w1 p1 identity (.make source) source = out at *
    obtain ⟨w2,p2,result⟩ := out
    cases result with
    | error e => exact hrefused _ _ _ (hkept.trans hsource) (hnext'.trans hnext)
    | ok _ =>
      exact hlease w2 p2 (hkept.trans hsource) (hnext'.trans hnext) (hattached'.trans (hattached rfl))

theorem repackLinearPooled_step (p : Pool n)
    (source : Descriptor) (fence : Fd) (bufferId : UInt64) :
    LeaseStep p source.width source.height (.make source)
      (repackLinearPooled gpu os w p source fence bufferId) := by
  unfold repackLinearPooled
  refine repackLinearPooledInternal_cases (fun w' p' e hkept _ => .kept hkept)
    fun w' p' hkept _ hattached => hkept.leaseStep ?_
  refine leaseStep_acquire hattached fun i token hlease => ?_
  exact provideDestination_slotStep gpu os w' source.width source.height (.make source) hattached
    hlease fun w2 p2 => copyInto_slotStep gpu os w2 source fence bufferId

theorem repackLinearReserved_step (p : Pool n) (token : UInt64)
    (source : Descriptor) (fence : Fd) (bufferId : UInt64) :
    ReservedStep p token (repackLinearReserved gpu os w p token source fence bufferId) := by
  unfold repackLinearReserved
  split
  · exact .inl ⟨.refl p,_,rfl⟩
  rename_i hne
  refine repackLinearPooledInternal_cases (fun w' p' e hkept _ => .inl ⟨hkept,e,rfl⟩)
    fun w' p' hkept _ hattached => ?_
  have hlease : repackLease p' token =
      ⟨p'.leases,p'.nextToken,(leaseFind p'.leases token).map fun i => (i, token)⟩ :=
    if_pos (by simpa using hne)
  rw [hlease]
  cases hfind : leaseFind p'.leases token with
  | error e => exact .inl ⟨hkept,e,rfl⟩
  | ok i =>
    obtain ⟨hkey, -⟩ := leaseFind_ok hfind
    have hself : Wrote p p' i ⟨true,token⟩ (p'.destinations i) := by
      refine ⟨?_,?_,hattached⟩
      · rw [← hkept.leases,← hkey,update_eq_self]
      · rw [← hkept.destinations,update_eq_self]
    refine .inr ⟨i,hkept.leases ▸ hkey,?_⟩
    rw [← hkept.destinations]
    apply hself.slotStep
    change SlotStep p' i token _ (repackInto gpu os w' p' i token token source fence bufferId)
    unfold repackInto
    rw [if_pos (by simpa using hne)]
    split
    · exact fail_slotStep os w' i token _ .eproto hattached
    · exact copyInto_slotStep gpu os w' source fence bufferId hattached hkey

theorem find_ok {gpu : Gpu ω} {w : ω}
    (h : p.find gpu w token = .ok i) : p.attached = true ∧ p.leases i = ⟨true,token⟩ := by
  unfold Pool.find at h
  split at h
  · cases h
  · rename_i hattached
    exact ⟨by simpa using hattached,(leaseFind_ok h).1⟩

theorem poolRelease_step (p : Pool n) (token : UInt64)
    (fence : Fd) : EndStep p token (poolRelease gpu os w p token fence) := by
  have hfinish {w' w'' : ω} {duplicate : Fd} {i : Fin n} (hfind : p.find gpu w' token = .ok i) :
      EndStep p token ⟨w'',{ p with
          destinations := update p.destinations i
            { p.destinations i with pendingReleaseFence := duplicate }
          leases := update p.leases i .clear },.ok ()⟩ := by
    obtain ⟨hattached,hkey⟩ := find_ok hfind
    exact ⟨i,_,hkey,⟨rfl,rfl,hattached⟩,.inr rfl⟩
  unfold poolRelease
  dsimp only
  split
  · exact rfl
  split
  · split
    · exact rfl
    · rename_i hfind
      exact hfinish hfind
  split
  · exact rfl
  generalize os.dup w fence = dup
  obtain ⟨w',dup⟩ := dup
  cases dup with
  | error e => exact rfl
  | ok duplicate =>
    dsimp only
    split
    · exact rfl
    · rename_i hfind
      exact hfinish hfind

theorem poolDiscard_step (p : Pool n) (token : UInt64) :
    EndStep p token (poolDiscard gpu os w p token) := by
  unfold poolDiscard
  split
  · exact rfl
  cases hfind : p.find gpu w token with
  | error e => exact rfl
  | ok i =>
    obtain ⟨hattached,hkey⟩ := find_ok hfind
    exact ⟨i,.empty,hkey,drop_wrote os w i hattached,.inl rfl⟩

theorem poolDiscard_isOk
    (hattached : p.attached = true) (hne : token ≠ 0) (hlive : token ∈ liveTokens p.leases) :
    (poolDiscard gpu os w p token).result = .ok () := by
  unfold poolDiscard
  rw [if_neg (by simpa using hne)]
  cases hfind : p.find gpu w token with
  | error e =>
    unfold Pool.find at hfind
    rw [if_neg (by simp [hattached])] at hfind
    obtain ⟨i,hleased,htoken⟩ := mem_liveTokens.mp hlive
    exact absurd htoken (leaseFind_error hfind hne i hleased)
  | ok i => rfl
end LinDeX.Repack
