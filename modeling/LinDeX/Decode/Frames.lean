import LinDeX.Decode.Submit

/-!
# What draining leaves alone

Input and output alone changes nothing but the world and the traffic, `silent`. Draining a context
may settle surfaces that wait for its session, and nothing else, `drained`.
-/
namespace LinDeX.Decode
open Vaapi Dmabuf Program Function
variable {ω α : Type} {s t u : Machine ω}
/-- Only the world and the record of the traffic change. -/
def silent : Frame (Machine ω) := Frame.same fun s => (s.runtime, s.events)

theorem silent_iff : silent.rel s t ↔ t.runtime = s.runtime ∧ t.events = s.events :=
  Prod.ext_iff
theorem io_silent (f : ω → ω × α) : Keeps silent (io f) := fun _ => rfl
theorem tell_silent (f : ω → ω) : Keeps silent (tell f) := fun _ => rfl
theorem note_silent (r : Traffic) : Keeps silent (note r : Prog ω Unit) := fun _ => rfl

section
variable (env : Env ω)
theorem closeFd_silent (fd : Fd) : Keeps silent (closeFd env fd) :=
  Keeps.ite (tell_silent _) (.pure _)
theorem descriptorClose_silent (d : Descriptor) : Keeps silent (descriptorClose env d) :=
  Keeps.forM (closeFd_silent env)
theorem outputClose_silent (output : ClientOutput) : Keeps silent (outputClose env output) :=
  Keeps.bind (closeFd_silent env _) fun _ => closeFd_silent env _

theorem convertLinear_silent (route : SurfaceRoute) (source : Descriptor) (fence : Fd) :
    Keeps silent (convertLinear env route source fence) := by
  unfold convertLinear
  split
  · exact io_silent _
  · exact io_silent _
  · exact .pure _
end

def Surface.label (s : Surface) : Bool × UInt32 × UInt32 × UInt64 × UInt32 × UInt32 :=
  (s.used, s.width, s.height, s.ptsNs, s.ownerContext, s.ownerSession)
def Runtime.setSurface (rt : Runtime) (k : Fin 64) (v : Surface) : Runtime :=
  { rt with surfaces := update rt.surfaces k v }

/-- A conversion either fails and changes nothing, or makes the surface ready. -/
inductive Converted (k : Fin 64) (s : Machine ω) : Bool → Machine ω → Prop
  | refused {t : Machine ω} (h : silent.rel s t) : Converted k s false t
  | adopted {t : Machine ω} (v : Surface) (hruntime : t.runtime = s.runtime.setSurface k v)
      (hlabel : v.label = (s.runtime.surfaces k).label) (hready : v.state = .ready)
      (hevents : t.events = s.events) : Converted k s true t

section
variable (env : Env ω) {k : Fin 64}
theorem Converted.of_silent {ok : Bool} (hst : silent.rel s t) (h : Converted k t ok u) :
    Converted k s ok u := by
  obtain ⟨hruntime,hevents⟩ := silent_iff.mp hst
  cases h with
  | refused h => exact .refused (silent.trans hst h)
  | adopted v hv hlabel hready he =>
    exact .adopted v (by rw [hv,hruntime]) (by rw [hlabel,hruntime]) hready
      (he.trans hevents)

theorem adoptConversion_converted (i : Fin 4) (bufferId : UInt64) (source : Descriptor)
    (conversion : Conversion) (s : Machine ω) :
    Ends (adoptConversion env i k bufferId source conversion) (Converted k s) s := by
  have hquiet (c : Prop) [Decidable c] (f : ω → ω × Reply) (r : Reply) :
      Keeps silent (if c then io f else pure r) := .ite (io_silent _) (.pure _)
  refine .bind (.read (.bind (.read (.bind ((hquiet _ _ _).ends ?_)))))
  intro released t1 h1
  refine .bind ((closeFd_silent env _).ends fun _ t2 h2 => ?_)
  have h12 := silent.trans h1 h2
  split
  · refine .bind ((note_silent _).ends fun _ t3 h3 => ?_)
    refine .bind ((descriptorClose_silent env source).ends fun _ t3 h4 => ?_)
    obtain ⟨hruntime,hevents⟩ := silent_iff.mp (silent.trans h12 (silent.trans h3 h4))
    refine .bind (.update (.pure ?_))
    refine .adopted
      { t3.runtime.surfaces k with
        prime := conversion.linear, acquireFenceFd := conversion.acquireFenceFd, state := .ready }
      ?_ ?_ rfl hevents
    · rw [← hruntime]
      rfl
    · rw [← hruntime]
      rfl
  · refine .bind ((closeFd_silent env _).ends fun _ t3 h3 => ?_)
    refine .bind ((descriptorClose_silent env _).ends fun _ t4 h4 => ?_)
    refine .bind ((descriptorClose_silent env _).ends fun _ t5 h5 => ?_)
    exact .refused (silent.trans h12 (silent.trans h3 (silent.trans h4 h5)))

theorem convertReserved_converted (output : ClientOutput) (s : Machine ω) :
    Ends (convertReserved env k output) (fun r t => Converted k s r.1 t) s := by
  refine .bind (.read (.read_bind ?_))
  split
  · exact .pure (.refused (silent.refl s))
  · exact .bind (.update (.pure (.adopted _ rfl rfl rfl rfl)))

theorem convertOutput_converted (i : Fin 4) (output : ClientOutput) (s : Machine ω) :
    Ends (convertOutput env i k output) (fun r t => Converted k s r.1 t) s := by
  refine .read_bind ?_
  split
  · exact convertReserved_converted env output s
  split
  · exact .pure (.refused (silent.refl s))
  refine .bind (.read (.bind ((io_silent _).ends fun prime t1 h1 => ?_)))
  split
  · exact .pure (.refused h1)
  refine .bind (.read (.read_bind ?_))
  dsimp only
  split
  · refine .bind (.update (.pure (.of_silent h1 (.adopted _ rfl rfl rfl rfl))))
  refine .bind ((convertLinear_silent env _ _ _).ends fun conversion t2 h2 => ?_)
  refine .bind (.mono (adoptConversion_converted env i _ _ conversion t2) fun ok t h => ?_)
  exact .pure (.of_silent (silent.trans h1 h2) h)
end

inductive SurfaceDrained (session : UInt32) (a b : Surface) : Prop
  | kept (h : b = a)
  | settled (hused : a.used) (hpending : a.state = .pending) (hsession : a.ownerSession = session)
      (hlabel : b.label = a.label) (hstate : b.state ≠ .pending)

theorem SurfaceDrained.trans {session : UInt32} {a b c : Surface}
    (h : SurfaceDrained session a b) (h' : SurfaceDrained session b c) :
    SurfaceDrained session a c := by
  cases h with
  | kept h => exact h ▸ h'
  | settled hused hpending hsession hlabel hstate =>
    cases h' with
    | kept h' => exact h' ▸ .settled hused hpending hsession hlabel hstate
    | settled _ hpending' => exact absurd hpending' hstate

def Context.withoutEos (c : Context) : Context := { c with eos := EosState.init }

/-- What draining context `i` may do. -/
structure Drained (i : Fin 4) (s t : Machine ω) : Prop where
  buffers : t.runtime.buffers = s.runtime.buffers
  configs : t.runtime.configs = s.runtime.configs
  context : (t.runtime.contexts i).withoutEos = (s.runtime.contexts i).withoutEos
  contexts : ∀ j, j ≠ i → t.runtime.contexts j = s.runtime.contexts j
  surfaces : ∀ k, SurfaceDrained (s.runtime.contexts i).brokerSession (s.runtime.surfaces k)
    (t.runtime.surfaces k)
  events : t.events = s.events

theorem Drained.brokerSession {i : Fin 4} (h : Drained i s t) :
    (t.runtime.contexts i).brokerSession = (s.runtime.contexts i).brokerSession := by
  have hsession := congrArg Context.brokerSession h.context
  exact hsession

def drained (i : Fin 4) : Frame (Machine ω) where
  rel := Drained i
  refl _ := ⟨rfl,rfl,rfl,fun _ _ => rfl,fun _ => .kept rfl,rfl⟩
  trans h h' :=
    ⟨h'.buffers.trans h.buffers,h'.configs.trans h.configs,h'.context.trans h.context,
      fun j hj => (h'.contexts j hj).trans (h.contexts j hj),
      fun k => (h.surfaces k).trans (h.brokerSession ▸ h'.surfaces k),h'.events.trans h.events⟩

theorem Drained.of_silent {i : Fin 4} (h : silent.rel s t) : Drained i s t := by
  obtain ⟨hruntime,hevents⟩ := silent_iff.mp h
  refine ⟨?_,?_,?_,fun j _ => ?_,fun k => .kept ?_,hevents⟩ <;> rw [hruntime]

theorem Drained.of_surface {i : Fin 4} {k : Fin 64} {v : Surface}
    (hruntime : t.runtime = s.runtime.setSurface k v) (hevents : t.events = s.events)
    (hk : SurfaceDrained (s.runtime.contexts i).brokerSession (s.runtime.surfaces k) v) :
    Drained i s t := by
  refine ⟨?_,?_,?_,fun j _ => ?_,fun k' => ?_,hevents⟩ <;> rw [hruntime]
  · rfl
  · rfl
  · rfl
  · rfl
  · by_cases hkk : k' = k
    · subst hkk
      simpa only [Runtime.setSurface,update_self] using hk
    · exact .kept (update_of_ne hkk _ _)

section
variable (env : Env ω) (i : Fin 4)
theorem keeps_drained_of_silent {m : Prog ω α} (h : Keeps silent m) : Keeps (drained i) m :=
  h.mono fun _ _ => Drained.of_silent

theorem awaitingSurface_some {rt : Runtime} {session : UInt32} {pts : UInt64} {k : Fin 64}
    (h : awaitingSurface rt session pts = some k) :
    (rt.surfaces k).used ∧ (rt.surfaces k).state = .pending ∧
    (rt.surfaces k).ownerSession = session := by
  have hk := Fin.eq_true_of_find?_eq_some h
  simp only [Bool.and_eq_true,decide_eq_true_eq,beq_iff_eq] at hk
  exact ⟨hk.1.1.1,hk.1.1.2,hk.2⟩

theorem deliverOutput_drained (output : ClientOutput) :
    Keeps (drained i) (deliverOutput env i output) := by
  refine .of_ends fun s => .read_bind ?_
  split
  · exact .pure ((drained i).refl s)
  rename_i k hk
  obtain ⟨hused,hpending,hsession⟩ := awaitingSurface_some hk
  refine .bind (.mono (convertOutput_converted ..) fun r t h => ?_)
  cases hr : r.1 with
  | true =>
    rw [hr] at h
    cases h with
    | adopted _ hruntime hlabel hready hevents =>
      refine .bind (.update (.pure (Drained.of_surface hruntime hevents ?_)))
      exact .settled hused hpending hsession hlabel (by rw [hready]; decide)
  | false =>
    rw [hr] at h
    cases h with
    | refused h =>
      obtain ⟨hruntime,hevents⟩ := silent_iff.mp h
      refine .bind (.update (.pure ?_))
      refine Drained.of_surface (k := k)
        (v := { s.runtime.surfaces k with state := .error }) ?_ hevents
        (.settled hused hpending hsession rfl nofun)
      rw [← hruntime]
      rfl

theorem onMachine_keeps {F : Frame (Machine ω)} {m : Prog ω α} (h : Keeps F m) :
    Keeps (F.on Adapter.machine) (onMachine m) := fun a => h a.machine

theorem adapter_keeps {F : Frame (Machine ω)} {f : Adapter ω → Adapter ω}
    (h : ∀ a, (f a).machine = a.machine) : Keeps (F.on Adapter.machine) (update f) := by
  refine .update fun a => ?_
  show F.rel a.machine (f a).machine
  rw [h]
  exact F.refl _

theorem failPending_drained (session : UInt32) (v : Surface) :
    SurfaceDrained session v (failPending session v) := by
  unfold failPending
  split
  · rename_i h
    exact .settled h.1 h.2.1 h.2.2 rfl nofun
  · exact .kept rfl

theorem privateEosOps_within : (privateEosOps env i).Within ((drained i).on Adapter.machine) where
  trySignal := by
    refine .bind (onMachine_keeps (.read _)) fun c => ?_
    exact .bind (onMachine_keeps (keeps_drained_of_silent i (io_silent _)))
      fun _ => .pure _
  tryDequeue := by
    refine .read_bind fun a => .ite (.pure _) ?_
    refine .bind (onMachine_keeps (.read _)) fun c => ?_
    refine .bind (onMachine_keeps (keeps_drained_of_silent i (io_silent _))) fun r => ?_
    refine .bind (adapter_keeps fun _ => rfl) fun _ => ?_
    refine .ite (.pure _) (.ite (.pure _) (.ite (.pure _) ?_))
    refine .bind (onMachine_keeps (keeps_drained_of_silent i (note_silent _))) fun _ => ?_
    exact .bind (adapter_keeps fun _ => rfl) fun _ => .pure _
  handleFrame _ := by
    refine .read_bind fun a => .ite (.pure _) ?_
    refine .bind (onMachine_keeps (deliverOutput_drained env i _)) fun r => ?_
    refine .bind (adapter_keeps fun _ => rfl) fun _ => .ite (.pure _) ?_
    refine .bind (onMachine_keeps (keeps_drained_of_silent i (outputClose_silent env _)))
      fun _ => ?_
    exact .bind (adapter_keeps fun _ => rfl) fun _ => .pure _
  releaseOutput _ := by
    refine .read_bind fun a => .ite (.pure _) ?_
    refine .bind (onMachine_keeps (.read _)) fun c => ?_
    refine .bind (onMachine_keeps (keeps_drained_of_silent i (io_silent _))) fun r => ?_
    refine .bind (onMachine_keeps (keeps_drained_of_silent i (note_silent _))) fun _ => ?_
    refine .bind (onMachine_keeps (keeps_drained_of_silent i (outputClose_silent env _)))
      fun _ => ?_
    exact .bind (adapter_keeps fun _ => rfl) fun _ => .pure _
  markRemainingPendingFailed :=
    onMachine_keeps (.update fun s =>
      ⟨rfl,rfl,rfl,fun _ _ => rfl,fun _ => failPending_drained _ _,rfl⟩)

theorem setEos_drained (state : EosState) :
    Keeps (drained i) (modifyContext i fun c => { c with eos := state } : Prog ω Unit) := by
  refine .update fun s => ⟨rfl,rfl,?_,fun j hj => ?_,fun _ => .kept rfl,rfl⟩
  · simp only [update_self,Context.withoutEos]
  · exact update_of_ne hj _ _

theorem withAdapter_drained {drive : EosState → StateM (Adapter ω) EosReturn}
    (h : ∀ state, Keeps ((drained i).on Adapter.machine) (drive state)) :
    Keeps (drained i) (withAdapter i drive) := by
  refine .of_ends fun s => .bind (.read (.read_bind ?_))
  have hdrive := h (s.runtime.contexts i).eos ⟨s,ClientOutput.none,false⟩
  refine .bind (.update (.bind ?_))
  exact (setEos_drained i _).ends fun _ t ht => .pure ((drained i).trans hdrive ht)

theorem privateEosProgressLocked_drained (maxOutputs : Nat) (status : Option EosStatus) :
    Keeps (drained i) (privateEosProgressLocked env i maxOutputs status) := by
  have hdrive := withAdapter_drained i fun state =>
    eosStateProgress_within status (privateEosOps_within env i) maxOutputs state
  refine .bind hdrive fun ended => .read_bind fun c => ?_
  refine .bind (keeps_drained_of_silent i (.whenever ?_)) fun _ => .pure _
  refine .bind (io_silent _) fun _ => .bind (note_silent _) fun _ => ?_
  exact outputClose_silent env _

theorem privateEosDrainOne_drained : Keeps (drained i) (privateEosDrainOne env i) := by
  refine .bind (privateEosProgressLocked_drained env i 1 _) fun ended => ?_
  cases ended.result <;> exact .pure _

theorem drainOneOutput_drained : Keeps (drained i) (drainOneOutput env i) := by
  refine .read_bind fun c => .ite (privateEosDrainOne_drained env i) ?_
  refine .bind (keeps_drained_of_silent i (io_silent _)) fun dequeued => ?_
  refine .ite (.pure _) (.ite (.pure _) ?_)
  refine .bind (keeps_drained_of_silent i (note_silent _)) fun _ => ?_
  refine .bind (deliverOutput_drained env i _) fun delivered => ?_
  have hclose := keeps_drained_of_silent i (outputClose_silent env delivered.2)
  refine .ite (.bind hclose fun _ => .pure _) ?_
  refine .bind (keeps_drained_of_silent i (.whenever ?_)) fun _ => ?_
  · exact .bind (io_silent _) fun _ => note_silent _
  · exact .bind hclose fun _ => .pure _

theorem queueBytes_drained (data : List UInt8) (pts : UInt64) (flags : UInt32) :
    Keeps (drained i) (queueBytes env i data pts flags) := by
  refine .read_bind fun c => ?_
  refine .bind (.ite (.pure _) (keeps_drained_of_silent i (io_silent _))) ?_
  intro fd
  cases fd with
  | error e => exact .pure _
  | ok fd =>
    refine .bind (keeps_drained_of_silent i (io_silent _)) fun reply => ?_
    refine .bind (keeps_drained_of_silent i (closeFd_silent env fd)) fun _ => ?_
    refine .bind (keeps_drained_of_silent i (.whenever (note_silent _))) fun _ => ?_
    exact .pure _

theorem queueBytesWithDrain_drained (data : List UInt8) (pts : UInt64) (flags : UInt32)
    (attempts : Nat) :
    Keeps (drained i) (queueBytesWithDrain env i data pts flags attempts) := by
  induction attempts with
  | zero => exact .pure _
  | succ attempts ih =>
    refine .bind (queueBytes_drained env i data pts flags) fun failure => ?_
    cases failure with
    | none => exact .pure _
    | some e =>
      refine .ite (.pure _) ?_
      refine .bind (drainOneOutput_drained env i) fun drained => ?_
      refine .ite (.pure _) ?_
      exact .bind (keeps_drained_of_silent i (.whenever (tell_silent _)))
        fun _ => ih
end
end LinDeX.Decode
