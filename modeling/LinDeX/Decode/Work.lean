import LinDeX.Decode.Frames

/-!
# What the other calls leave alone

Nearly all work of the runtime keeps the buffers, the identity of the contexts and the owners of
waiting surfaces. A surface starts waiting only when a context ends a picture.
-/
namespace LinDeX.Decode
open Vaapi Dmabuf Program Function
variable {ω α : Type} {s t u : Machine ω}
theorem Runtime.setSurface_self (rt : Runtime) (k : Fin 64) (v : Surface) :
    (rt.setSurface k v).surfaces k = v := update_self ..
theorem Runtime.setSurface_of_ne (rt : Runtime) {k k' : Fin 64} (v : Surface) (h : k' ≠ k) :
    (rt.setSurface k v).surfaces k' = rt.surfaces k' := update_of_ne h ..

def Surface.released (v : Surface) : Surface :=
  { v with
    brokerBufferId := 0, primeReserved := false, ownerContext := 0, ownerSession := 0,
    acquireFenceFd := -1, prime := Descriptor.closed, state := .idle, ptsNs := 0 }

def Released (k : Fin 64) (s t : Machine ω) : Prop :=
  t.runtime = s.runtime.setSurface k (s.runtime.surfaces k).released ∧ t.events = s.events

section
variable (env : Env ω)
theorem returnLease_silent (lease : Option (Fd × UInt32 × UInt64)) :
    Keeps silent (returnLease env lease) := by
  cases lease with
  | none => exact .pure _
  | some lease => exact .bind (io_silent _) fun _ => .pure _

theorem noteReturn_silent (rt : Runtime) (k : Fin 64) :
    Keeps silent (noteReturn rt k : Prog ω Unit) := by
  unfold noteReturn
  split
  · exact note_silent _
  · exact .pure _

theorem releaseSurfaceOutput_released (k : Fin 64) (s : Machine ω) :
    Ends (releaseSurfaceOutput env k) (fun _ t => Released k s t) s := by
  refine .bind (.read (.bind ?_))
  refine (returnLease_silent env _).ends fun _ t0 h0 => ?_
  refine .bind ((noteReturn_silent _ k).ends fun _ t1 h1 => ?_)
  obtain ⟨hruntime1,hevents1⟩ := silent_iff.mp (silent.trans h0 h1)
  refine .bind (.update (.bind (.read_bind ?_)))
  refine .bind ((closeFd_silent env _).ends fun _ t2 h2 => ?_)
  refine .bind ((descriptorClose_silent env _).ends fun _ t3 h3 => ?_)
  obtain ⟨hruntime3,hevents3⟩ := silent_iff.mp (silent.trans h2 h3)
  refine .update (.update ⟨?_,hevents3.trans hevents1⟩)
  simp only [hruntime3,hruntime1,Runtime.setSurface,Surface.released,update_idem,update_self]
end

def Context.identity (c : Context) : Bool × DecodeCodec × UInt32 :=
  (c.used, c.codec, c.brokerSession)
def Surface.Waiting (v : Surface) : Prop := v.used ∧ v.state = .pending

/-- What a call may do to the runtime; `who` may let surfaces wait for it. -/
structure Work (who : Option (Fin 4 × UInt32)) (s t : Machine ω) : Prop where
  buffers : t.runtime.buffers = s.runtime.buffers
  identity : ∀ j, (t.runtime.contexts j).identity = (s.runtime.contexts j).identity
  surfaces : ∀ k, (t.runtime.surfaces k).Waiting →
    ((s.runtime.surfaces k).Waiting ∧
      (t.runtime.surfaces k).ownerContext = (s.runtime.surfaces k).ownerContext ∧
      (t.runtime.surfaces k).ownerSession = (s.runtime.surfaces k).ownerSession) ∨
    ∃ i id, who = some (i, id) ∧ (t.runtime.surfaces k).ownerContext = id ∧
      (t.runtime.surfaces k).ownerSession = (s.runtime.contexts i).brokerSession
  events : ∀ e ∈ t.events, e ∈ s.events ∨ e = .nullDereference

theorem Work.brokerSession {who : Option (Fin 4 × UInt32)} (h : Work who s t) (j : Fin 4) :
    (t.runtime.contexts j).brokerSession = (s.runtime.contexts j).brokerSession := by
  have hidentity := h.identity j
  simp only [Context.identity,Prod.mk.injEq] at hidentity
  exact hidentity.2.2

theorem Work.trans {who : Option (Fin 4 × UInt32)} (h : Work who s t) (h' : Work who t u) :
    Work who s u := by
  refine ⟨h'.buffers.trans h.buffers,fun j => (h'.identity j).trans (h.identity j),
    fun k hk => ?_,fun e he => ?_⟩
  · rcases h'.surfaces k hk with ⟨hwaits,hcontext,hsession⟩ | ⟨i,id,hwho,hcontext,hsession⟩
    · rcases h.surfaces k hwaits with ⟨hwaits',hcontext',hsession'⟩ |
        ⟨i,id,hwho,hcontext',hsession'⟩
      · exact .inl ⟨hwaits',hcontext.trans hcontext',hsession.trans hsession'⟩
      · exact .inr ⟨i,id,hwho,hcontext.trans hcontext',hsession.trans hsession'⟩
    · exact .inr ⟨i,id,hwho,hcontext,hsession.trans (h.brokerSession i)⟩
  · rcases h'.events e he with he | he
    · exact h.events e he
    · exact .inr he

def work (who : Option (Fin 4 × UInt32)) : Frame (Machine ω) where
  rel := Work who
  refl _ := ⟨rfl,fun _ => rfl,fun _ h => .inl ⟨h,rfl,rfl⟩,fun _ h => .inl h⟩
  trans := Work.trans

section
variable {who : Option (Fin 4 × UInt32)}
/-- A change of surfaces and of nothing else is work if no surface waits afterwards that did not
wait for the same owner before. -/
theorem Work.of_surfaces (hbuffers : t.runtime.buffers = s.runtime.buffers)
    (hcontexts : t.runtime.contexts = s.runtime.contexts) (hevents : t.events = s.events)
    (hsurfaces : ∀ k, t.runtime.surfaces k = s.runtime.surfaces k ∨
    ¬ (t.runtime.surfaces k).Waiting) : Work who s t := by
  refine ⟨hbuffers,fun j => by rw [hcontexts],fun k hk => ?_,fun e he => ?_⟩
  · rcases hsurfaces k with hsame | hnot
    · rw [hsame] at hk ⊢
      exact .inl ⟨hk,rfl,rfl⟩
    · exact absurd hk hnot
  · rw [hevents] at he
    exact .inl he

theorem Work.of_silent (h : silent.rel s t) : Work who s t := by
  obtain ⟨hruntime,hevents⟩ := silent_iff.mp h
  exact .of_surfaces (by rw [hruntime]) (by rw [hruntime]) hevents fun k => .inl (by rw [hruntime])

theorem Work.of_drained {i : Fin 4} (h : Drained i s t) : Work who s t := by
  refine ⟨h.buffers,fun j => ?_,fun k hk => ?_,fun e he => .inl (h.events ▸ he)⟩
  · by_cases hj : j = i
    · subst hj
      have hidentity := congrArg Context.identity h.context
      exact hidentity
    · rw [h.contexts j hj]
  · cases h.surfaces k with
    | kept hsame =>
      rw [hsame] at hk ⊢
      exact .inl ⟨hk,rfl,rfl⟩
    | settled _ _ _ _ hstate => exact absurd hk.2 hstate

theorem Work.of_released {k : Fin 64} (h : Released k s t) : Work who s t := by
  obtain ⟨hruntime,hevents⟩ := h
  refine .of_surfaces (by rw [hruntime]; rfl) (by rw [hruntime]; rfl) hevents fun k' => ?_
  rw [hruntime]
  by_cases hk : k' = k
  · subst hk
    rw [Runtime.setSurface_self]
    exact .inr fun hwaits => nomatch hwaits.2
  · exact .inl (Runtime.setSurface_of_ne _ _ hk)

theorem keeps_work_of_silent {m : Prog ω α} (h : Keeps silent m) : Keeps (work who) m :=
  h.mono fun _ _ => Work.of_silent
theorem keeps_work_of_drained {i : Fin 4} {m : Prog ω α} (h : Keeps (drained i) m) :
    Keeps (work who) m := h.mono fun _ _ => Work.of_drained
theorem io_work (f : ω → ω × α) : Keeps (work who) (io f) := keeps_work_of_silent (io_silent f)
theorem tell_work (f : ω → ω) : Keeps (work who) (tell f) := keeps_work_of_silent (tell_silent f)
theorem note_work (r : Traffic) : Keeps (work who) (note r : Prog ω Unit) :=
  keeps_work_of_silent (note_silent r)

theorem modifyContext_work (i : Fin 4) {f : Context → Context}
    (h : ∀ c, (f c).identity = c.identity) :
    Keeps (work who) (modifyContext i f : Prog ω Unit) := by
  refine .update fun s =>
    ⟨rfl,fun j => ?_,fun _ hk => .inl ⟨hk,rfl,rfl⟩,fun _ he => .inl he⟩
  by_cases hj : j = i
  · subst hj
    simp only [update_self,h]
  · simp only [update_of_ne hj]
variable (env : Env ω)
theorem releaseSurfaceOutput_work (k : Fin 64) :
    Keeps (work who) (releaseSurfaceOutput env k) :=
  Keeps.of_ends fun s => (releaseSurfaceOutput_released env k s).mono fun _ _ => Work.of_released

theorem drainOneOutput_work (i : Fin 4) : Keeps (work who) (drainOneOutput env i) :=
  keeps_work_of_drained (drainOneOutput_drained env i)

theorem syncReady_work (fence : Fd) (start limit : UInt64) :
    Keeps (work who) (syncReady env fence start limit) := by
  refine .bind (io_work _) fun dup => ?_
  cases dup with
  | none => exact .pure _
  | some fd =>
    have hclose : Keeps (work who) (closeFd env fd) :=
      keeps_work_of_silent (closeFd_silent env fd)
    refine .bind (io_work _) fun now => ?_
    refine .ite (.bind hclose fun _ => .pure _) ?_
    refine .bind (.ite (.pure _) (io_work _)) fun waited => ?_
    exact .bind hclose fun _ => .pure _
variable (surfaceId : UInt32)
theorem syncLoop_work (start limit : UInt64) (rounds : Nat) :
    Keeps (work who) (syncLoop env surfaceId start limit rounds) := by
  induction rounds with
  | zero => exact .pure _
  | succ rounds ih =>
    refine .read_bind fun rt => ?_
    split
    · exact .pure _
    split
    · exact .pure _
    · exact .ite (.pure _)
        (.bind (syncReady_work env _ _ _) fun _ => .pure _)
    · exact .pure _
    split
    · exact .pure _
    refine .bind (drainOneOutput_work env _) fun _ => ?_
    refine .bind (io_work _) fun now => .ite (.pure _) ?_
    exact .bind (tell_work _) fun _ => ih

theorem syncSurface_work (timeoutNs : UInt64) (rounds : Nat) :
    Keeps (work who) (syncSurface env surfaceId timeoutNs rounds) :=
  Keeps.bind (io_work _) fun _ => syncLoop_work env _ _ _ _

theorem queryLoop_work (i : Fin 4) (k : Fin 64) (rounds : Nat) :
    Keeps (work who) (queryLoop env i k rounds) := by
  induction rounds with
  | zero => exact .pure _
  | succ rounds ih =>
    refine .read_bind fun v => .ite ?_ (.pure _)
    exact .bind (drainOneOutput_work env i) fun _ => .ite ih (.pure _)

theorem querySurfaceStatus_work :
    Keeps (work who) (querySurfaceStatus env surfaceId) := by
  refine .read_bind fun rt => ?_
  split
  · exact .pure _
  refine .bind ?_ fun _ => .read_bind fun v =>
    Keeps.ite (.pure _) (.pure _)
  unfold queryDrain
  split
  · exact .pure _
  · exact .whenever (queryLoop_work env _ _ _)

theorem startPicture_work (i : Fin 4) (k : Fin 64) (target : UInt32) :
    Keeps (work who) (startPicture env i k target) := by
  refine .read_bind fun v => .ite (.pure _) ?_
  refine .bind (releaseSurfaceOutput_work env k) fun _ => ?_
  refine .bind (modifyContext_work i fun _ => rfl) fun _ => ?_
  exact .bind (note_work _) fun _ => .pure _

theorem beginPicture_work (contextId target : UInt32) (rounds : Nat) :
    Keeps (work who) (beginPicture env contextId target rounds) := by
  have hstart (i : Fin 4) (k : Fin 64) : Keeps (work who) (do
      let status ← startPicture env i k target
      return some status) := .bind (startPicture_work env i k target) fun _ => .pure _
  refine .read_bind fun rt => ?_
  split
  · exact .pure _
  refine .ite (hstart _ _) ?_
  refine .bind (syncSurface_work env _ _ _) fun synced => ?_
  split
  · exact .pure _
  · refine .read_bind fun rt => ?_
    split
    · exact .pure _
    · exact hstart _ _
  · exact .pure _

theorem queueBytesWithDrain_work (i : Fin 4) (data : List UInt8) (pts : UInt64) (flags : UInt32)
    (attempts : Nat) : Keeps (work who) (queueBytesWithDrain env i data pts flags attempts) :=
  keeps_work_of_drained (queueBytesWithDrain_drained env i data pts flags attempts)

theorem setNextPts_work (pts : UInt64) (s : Machine ω) :
    Work who s { s with runtime := { s.runtime with nextPtsNs := pts } } :=
  Work.of_surfaces rfl rfl rfl fun _ => .inl rfl

theorem takePts_work (i : Fin 4) (k : Fin 64) :
    Keeps (work who) (takePts i k : Prog ω (Option UInt64)) := by
  unfold takePts
  refine .read_bind fun rt => .ite (.pure _) ?_
  refine .bind (.update fun s => setNextPts_work _ s) fun _ => ?_
  exact .bind (note_work _) fun _ => .pure _
end

section
variable (env : Env ω) (i : Fin 4) (contextId : UInt32)
variable (k : Fin 64)
theorem modifySurface_work {f : Surface → Surface} (session : UInt32)
    (hcontext : ∀ v, (f v).ownerContext = contextId) (hsession : ∀ v, (f v).ownerSession = session)
    (s : Machine ω) (hs : (s.runtime.contexts i).brokerSession = session) :
    Ends (modifySurface k f) (fun _ t => Work (some (i, contextId)) s t) s := by
  refine .update ⟨rfl,fun _ => rfl,fun k' hk => ?_,fun _ he => .inl he⟩
  by_cases hkk : k' = k
  · subst hkk
    have hself : update s.runtime.surfaces k' (f (s.runtime.surfaces k')) k' =
        f (s.runtime.surfaces k') := update_self ..
    exact .inr ⟨i,contextId,rfl,(congrArg Surface.ownerContext hself).trans (hcontext _),
      (congrArg Surface.ownerSession hself).trans ((hsession _).trans hs.symm)⟩
  · have hne : update s.runtime.surfaces k (f (s.runtime.surfaces k)) k' =
        s.runtime.surfaces k' := update_of_ne hkk ..
    exact .inl ⟨hne ▸ hk,congrArg Surface.ownerContext hne,congrArg Surface.ownerSession hne⟩
variable (pts : UInt64)
theorem reserveSurfaceLinear_work :
    Keeps (work (some (i, contextId))) (reserveSurfaceLinear env i contextId k pts) := by
  refine .of_ends fun s => .bind (.read (.read_bind ?_))
  split
  · exact .pure ((work _).refl s)
  refine .bind ((io_silent _).ends fun reserved t ht => ?_)
  have hwork : Work (some (i, contextId)) s t := .of_silent ht
  split
  · refine .bind ((descriptorClose_silent env _).ends fun _ u hu => ?_)
    exact .pure (hwork.trans (.of_silent hu))
  · refine .bind ((note_silent _).ends fun _ t' ht' => ?_)
    have hwork' : Work (some (i, contextId)) s t' := hwork.trans (.of_silent ht')
    refine .bind (.mono ?_ fun _ u (hu : Work _ t' u) => .pure (hwork'.trans hu))
    exact modifySurface_work i contextId k _ (fun _ => rfl) (fun _ => rfl) t'
      (hwork'.brokerSession i)

theorem queueAccessUnit_work (bytes : List UInt8) (pts : UInt64) (flags : UInt32) :
    Keeps (work (some (i, contextId))) (queueAccessUnit env i contextId k bytes pts flags) := by
  refine .bind (reserveSurfaceLinear_work env i contextId k pts) fun reserved => ?_
  refine .ite (.pure _) ?_
  refine .bind (queueBytesWithDrain_work env i _ _ _ _) fun queued => ?_
  refine .ite (.pure _) (.read_bind fun v => ?_)
  exact .bind (.whenever (releaseSurfaceOutput_work env k)) fun _ => .pure _

theorem markPending_work :
    Keeps (work (some (i, contextId))) (markPending i contextId k pts : Prog ω Unit) := by
  refine .of_ends fun s => .read_bind ?_
  exact modifySurface_work i contextId k _ (fun _ => rfl) (fun _ => rfl) s rfl

theorem submitHevc_work (unit : AccessUnit) (config : List UInt8) :
    Keeps (work (some (i, contextId))) (submitHevc env i contextId k unit config) := by
  refine .bind (takePts_work i k) fun pts => ?_
  cases pts with
  | none => exact .pure _
  | some pts =>
    refine .read_bind fun c => ?_
    refine .bind (.ite (queueBytesWithDrain_work env i _ _ _ _) (.pure _))
      fun sent => .ite (.pure _) ?_
    refine .bind (modifyContext_work i fun _ => rfl) fun _ => ?_
    refine .bind (queueAccessUnit_work env i contextId k _ _ _) fun queued => ?_
    refine .ite (.pure _) ?_
    exact .bind (markPending_work i contextId k pts) fun _ => .pure _
variable (data : List UInt8)
theorem endHevcPicture_work :
    Keeps (work (some (i, contextId))) (endHevcPicture env i contextId k data) := by
  refine .read_bind fun c => .bind (io_work _) fun slices => ?_
  refine .ite (.pure _) ?_
  split
  · exact .pure _
  refine .bind (io_work _) fun unit => ?_
  split
  · exact .pure _
  split
  · exact .pure _
  exact .ite (.pure _) (.ite (.pure _) (submitHevc_work env i contextId _ _ _))

theorem endVp9Picture_work :
    Keeps (work (some (i, contextId))) (endVp9Picture env i contextId k data) := by
  refine .read_bind fun c => ?_
  split
  · refine .bind (io_work _) fun unit => ?_
    split
    · exact .pure _
    refine .ite (.pure _) (.bind (takePts_work i k) fun pts => ?_)
    cases pts with
    | none => exact .pure _
    | some pts =>
      refine .bind (queueAccessUnit_work env i contextId k _ _ _) fun queued => ?_
      refine .ite (.pure _) ?_
      refine .bind (modifyContext_work i fun _ => rfl) fun _ => ?_
      exact .bind (markPending_work i contextId k pts) fun _ => .pure _
  · exact .pure _

theorem submitH264_work (unit : AccessUnit) (config : List UInt8) (changed : Bool) :
    Keeps (work (some (i, contextId))) (submitH264 env i contextId k unit config changed) := by
  refine .bind (note_work _) fun _ => ?_
  refine .bind (takePts_work i k) fun pts => ?_
  cases pts with
  | none => exact .pure _
  | some pts =>
    refine .read_bind fun c => .read_bind fun inbandSet => ?_
    refine .bind (.ite (io_work _) (.pure _)) fun prepended => ?_
    cases prepended with
    | error e => exact .pure _
    | ok bytes =>
      refine .bind (.ite (queueBytesWithDrain_work env i _ _ _ _) (.pure _))
        fun sent => .ite (.pure _) ?_
      refine .bind (.whenever (modifyContext_work i fun _ => rfl)) fun _ => ?_
      refine .bind (queueAccessUnit_work env i contextId k _ _ _) fun queued => ?_
      refine .ite (.pure _) ?_
      refine .bind (.whenever (modifyContext_work i fun _ => rfl)) fun _ => ?_
      exact .bind (markPending_work i contextId k pts) fun _ => .pure _

theorem learnPpsDefaults_identity (refs : ReferenceOverride) (active : UInt8 × UInt8)
    (c : Context) : (learnPpsDefaults refs active c).identity = c.identity := by
  unfold learnPpsDefaults
  split <;> rfl

theorem endH264Picture_work (profile : VaProfile) (data : List UInt8) :
    Keeps (work (some (i, contextId))) (endH264Picture env i contextId k profile data) := by
  refine .read_bind fun c => .bind (io_work _) fun slices => ?_
  refine .ite (.pure _) ?_
  split
  · exact .pure _
  refine .bind (io_work _) fun unit => ?_
  split
  · exact .pure _
  have hrestriction (n : UInt8) :
      Keeps (work (some (i, contextId))) (bitstreamRestriction env profile n) :=
    Keeps.read_bind fun _ => .read_bind fun _ =>
      Keeps.read_bind fun _ => .read_bind fun _ =>
        Keeps.read_bind fun _ => .pure _
  refine .bind (hrestriction _) fun restriction => ?_
  dsimp only
  split
  · exact .pure _
  refine .bind (modifyContext_work i (learnPpsDefaults_identity _ _)) fun _ => ?_
  refine .read_bind fun c => ?_
  split
  · exact .pure _
  exact .ite (.pure _) (submitH264_work env i contextId _ _ _ _)

theorem endActivePicture_work (rt : Runtime) :
    Keeps (work (some (i, contextId))) (endActivePicture env rt i contextId) := by
  unfold endActivePicture
  dsimp only
  split
  · refine .ite (.pure _) ?_
    split
    · exact endHevcPicture_work env i contextId _ _
    · exact endVp9Picture_work env i contextId _ _
    · exact endH264Picture_work env i contextId _ _ _
  · exact .pure _

theorem endPicture_work (s : Machine ω) :
    Ends (endPicture env contextId)
      (fun _ t => ∃ who, Work who s t ∧
      ∀ i id, who = some (i, id) → id = contextId ∧ getContext s.runtime id = some i) s := by
  refine .read_bind ?_
  split
  · exact .pure ⟨none,(work _).refl s,nofun⟩
  rename_i i hi
  split
  · exact .pure ⟨none,(work _).refl s,nofun⟩
  have hend : Keeps (work (some (i, contextId))) (do
      let status ← endActivePicture env s.runtime i contextId
      modifyContext i resetStaging
      return status : Prog ω VaStatus) :=
    Keeps.bind (endActivePicture_work env i contextId s.runtime) fun _ =>
      Keeps.bind (modifyContext_work i fun _ => rfl) fun _ => .pure _
  refine hend.ends fun _ t ht => ⟨some (i, contextId),ht,fun j id hwho => ?_⟩
  cases hwho
  exact ⟨rfl,hi⟩
end
end LinDeX.Decode
