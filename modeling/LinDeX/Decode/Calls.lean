import LinDeX.Decode.Work

/-!
# What a call does

One inversion for all calls: a call works within the frame of the previous section, opens or
closes a context, changes one buffer, or copies out of buffers into a context.
-/
namespace LinDeX.Decode
open Vaapi Dmabuf Program Bytes Function List
variable {ω α : Type} {s t u : Machine ω}
section
variable (env : Env ω) {who : Option (Fin 4 × UInt32)}
theorem modifyConfig_work (c : Fin 8) (f : Config → Config) :
    Keeps (work who) (modifyConfig c f : Prog ω Unit) :=
  Keeps.update fun _ => Work.of_surfaces rfl rfl rfl fun _ => .inl rfl

theorem createConfig_work (profile : VaProfile) (entrypoint : VaEntrypoint)
    (attributes : List ConfigAttrib) :
    Keeps (work who) (createConfig profile entrypoint attributes : Prog ω _) := by
  refine .read_bind fun rt => .ite (.pure _) ?_
  refine .ite (.pure _) (.ite (.pure _) ?_)
  split
  · exact .pure _
  · exact .bind (modifyConfig_work _ _) fun _ => .pure _

theorem destroyConfig_work (configId : UInt32) :
    Keeps (work who) (destroyConfig configId : Prog ω _) := by
  refine .read_bind fun rt => ?_
  split
  · exact .pure _
  · exact .ite (.pure _) (.bind (modifyConfig_work _ _) fun _ => .pure _)

theorem modifySurfaces_work {f : Runtime → Fin 64 → Surface}
    (h : ∀ rt k, f rt k = rt.surfaces k ∨ ¬ (f rt k).Waiting) :
    Keeps (work who) (modifyRuntime fun rt => { rt with surfaces := f rt } : Prog ω Unit) :=
  Keeps.update fun _ => Work.of_surfaces rfl rfl rfl (h _)

theorem createSurfaces_work (format width height : UInt32) (count : Nat)
    (attributes : List SurfaceAttrib) :
    Keeps (work who) (createSurfaces format width height count attributes : Prog ω _) := by
  have hset (allocated : List (Fin 64)) (v : Surface) (hv : ¬ v.Waiting) :
      Keeps (work who) (modifyRuntime fun rt =>
        { rt with surfaces := fun k => if k ∈ allocated then v else rt.surfaces k } :
          Prog ω Unit) := by
    refine modifySurfaces_work fun rt k => ?_
    by_cases hk : k ∈ allocated
    · simp only [hk,if_true]
      exact .inr hv
    · simp only [hk,if_false]
      exact .inl trivial
  refine .read_bind fun rt => ?_
  refine .ite (.pure _) (.ite (.pure _) ?_)
  split
  · exact .pure _
  refine .ite (.bind (hset _ _ ?_) fun _ => .pure _)
    (.bind (hset _ _ ?_) fun _ => .pure _)
  · exact fun h => nomatch h.1
  · exact fun h => nomatch h.2

theorem destroySurface_work (id : UInt32) : Keeps (work who) (destroySurface env id) := by
  refine .read_bind fun rt => ?_
  split
  · refine .update fun s =>
      ⟨rfl,fun _ => rfl,fun _ hk => .inl ⟨hk,rfl,rfl⟩,fun e he => ?_⟩
    simpa only [mem_append,mem_singleton] using he
  · rename_i k _
    refine .bind (releaseSurfaceOutput_work env k) fun _ => ?_
    refine modifySurfaces_work (f := fun rt => update rt.surfaces k Surface.zero) ?_
    intro rt k'
    by_cases hk : k' = k
    · subst hk
      rw [update_self]
      exact .inr fun h => nomatch h.1
    · exact .inl (update_of_ne hk ..)

theorem destroySurfaces_work (ids : List UInt32) :
    Keeps (work who) (destroySurfaces env ids) :=
  Keeps.read_bind fun _ => .ite (.pure _)
    (.bind (.forM (destroySurface_work env)) fun _ => .pure _)

theorem signalEosPrivate_work (contextId : UInt32) (status : Option EosStatus) :
    Keeps (work who) (signalEosPrivate env contextId status) := by
  refine .read_bind fun enabled => .ite (.pure _) ?_
  refine .read_bind fun rt => ?_
  split
  · exact .pure _
  rename_i i _
  refine .ite (.pure _) (.bind ?_ fun _ => .pure _)
  exact keeps_work_of_drained (withAdapter_drained i fun state =>
    eosStateSignal_within status (privateEosOps_within env i) state)

theorem progressEosPrivate_work (contextId : UInt32) (maxOutputs : Nat)
    (status : Option EosStatus) :
    Keeps (work who) (progressEosPrivate env contextId maxOutputs status) := by
  refine .read_bind fun enabled => .ite (.pure _) ?_
  refine .read_bind fun rt => ?_
  split
  · exact .pure _
  · exact .bind (keeps_work_of_drained (privateEosProgressLocked_drained env _ _ _))
      fun _ => .pure _
end

structure Opened (i : Fin 4) (s t : Machine ω) : Prop where
  free : (s.runtime.contexts i).used = false
  contexts : ∀ j, j ≠ i → t.runtime.contexts j = s.runtime.contexts j
  buffers : t.runtime.buffers = s.runtime.buffers
  surfaces : t.runtime.surfaces = s.runtime.surfaces
  events : t.events = s.events

/-- A context that was opened took the first free slot and decodes what its configuration says. -/
structure Configured (configId : UInt32) (i : Fin 4) (s t : Machine ω) : Prop where
  first : Fin.find? (fun i => !(s.runtime.contexts i).used) = some i
  codec : (t.runtime.contexts i).used = true → ∃ g, getConfig s.runtime configId = some g ∧
    (t.runtime.contexts i).codec = codecForProfile (s.runtime.configs g).profile

structure Closed (i : Fin 4) (id : UInt32) (s t : Machine ω) : Prop where
  closed : (t.runtime.contexts i).used = false
  contexts : ∀ j, j ≠ i → t.runtime.contexts j = s.runtime.contexts j
  buffers : t.runtime.buffers = s.runtime.buffers
  surfaces : ∀ k, (t.runtime.surfaces k).Waiting →
    t.runtime.surfaces k = s.runtime.surfaces k ∧ (t.runtime.surfaces k).ownerContext ≠ id
  events : t.events = s.events

section
variable (env : Env ω)
theorem connectBroker_silent : Keeps silent (connectBroker env) := by
  refine .bind (io_silent _) fun connected => ?_
  split
  · exact .pure _
  refine .bind (io_silent _) fun greeting => ?_
  split
  · exact .bind (tell_silent _) fun _ => .pure _
  · exact .ite (.bind (tell_silent _) fun _ => .pure _) (.pure _)

theorem Opened.of_update {i : Fin 4} {c : Context} (hst : silent.rel s t)
    (hfree : (s.runtime.contexts i).used = false)
    (hu : u.runtime = { t.runtime with contexts := update t.runtime.contexts i c })
    (hevents : u.events = t.events) : Opened i s u := by
  obtain ⟨hruntime,hevents'⟩ := silent_iff.mp hst
  rw [hruntime] at hu
  refine ⟨hfree,fun j hj => ?_,?_,?_,hevents.trans hevents'⟩ <;> rw [hu]
  exact update_of_ne hj ..

theorem applyModifierMode_codec {mode : ModifierMode} {consumer : ConsumerPolicy} {c c' : Context}
    (h : applyModifierMode mode consumer c = some c') : c'.codec = c.codec := by
  unfold applyModifierMode at h
  split at h
  · obtain ⟨-,hc⟩ := Option.ite_none_left_eq_some.mp h
    cases hc
    rfl
  all_goals
    cases h
    rfl

theorem openContext_opened (i : Fin 4) (configId : UInt32) (profile : VaProfile)
    (width height : UInt32) (fd : Fd) (features : UInt64) (s : Machine ω)
    (hfree : (s.runtime.contexts i).used = false) :
    Ends (openContext env i configId profile width height fd features)
      (fun _ t => silent.rel s t ∨ Opened i s t ∧ ((t.runtime.contexts i).used = true →
        (t.runtime.contexts i).codec = codecForProfile profile)) s := by
  refine .bind ((io_silent _).ends fun created t1 h1 => ?_)
  split
  · exact .bind ((tell_silent _).ends fun _ t2 h2 => .pure (.inl (silent.trans h1 h2)))
  refine .bind (.read (.read_bind ?_))
  split
  · refine .bind ((io_silent _).ends fun _ t2 h2 => ?_)
    refine .bind ((tell_silent _).ends fun _ t3 h3 => ?_)
    refine .bind (.update (.pure (.inr ⟨?_,fun hused => ?_⟩)))
    · exact .of_update (silent.trans h1 (silent.trans h2 h3)) hfree rfl rfl
    · exact absurd ((congrArg Context.used (update_self ..)).symm.trans hused) Bool.false_ne_true
  · rename_i c hc
    refine .bind (.update (.bind (.update (.pure (.inr ⟨?_,fun _ => ?_⟩)))))
    · exact .of_update h1 hfree rfl rfl
    · dsimp only
      rw [update_self]
      exact applyModifierMode_codec hc

theorem createContext_opened (configId : UInt32) (width height : Int) (targets : List UInt32)
    (s : Machine ω) :
    Ends (createContext env configId width height targets)
      (fun _ t => silent.rel s t ∨ ∃ i, Opened i s t ∧ Configured configId i s t) s := by
  unfold createContext
  split
  · exact .pure (.inl (silent.refl s))
  refine .read_bind ?_
  dsimp only
  split
  · exact .pure (.inl (silent.refl s))
  rename_i g hconfig
  iterate 3
    split
    · exact .pure (.inl (silent.refl s))
  rename_i i hi
  have hfree : (s.runtime.contexts i).used = false := by
    simpa only [Bool.not_eq_true'] using Fin.eq_true_of_find?_eq_some hi
  refine .bind ((connectBroker_silent env).ends fun connected t1 h1 => ?_)
  cases connected with
  | none => exact .pure (.inl h1)
  | some connected =>
    obtain ⟨hruntime,hevents⟩ := silent_iff.mp h1
    have hfree1 : (t1.runtime.contexts i).used = false := by rw [hruntime]; exact hfree
    refine (openContext_opened env i _ _ _ _ _ _ t1 hfree1).mono fun _ t ht => ?_
    rcases ht with ht | ⟨ht,hcodec⟩
    · exact .inl (silent.trans h1 ht)
    · refine .inr ⟨i,⟨hfree,fun j hj => ?_,?_,?_,ht.events.trans hevents⟩,hi,fun hused => ?_⟩
      · rw [ht.contexts j hj,hruntime]
      · rw [ht.buffers,hruntime]
      · rw [ht.surfaces,hruntime]
      · exact ⟨_,hconfig,hcodec hused⟩

structure Releases (s t : Machine ω) : Prop where
  contexts : t.runtime.contexts = s.runtime.contexts
  buffers : t.runtime.buffers = s.runtime.buffers
  surfaces : ∀ k, t.runtime.surfaces k = s.runtime.surfaces k ∨
    t.runtime.surfaces k = (s.runtime.surfaces k).released
  events : t.events = s.events

def releases : Frame (Machine ω) where
  rel := Releases
  refl _ := ⟨rfl,rfl,fun _ => .inl rfl,rfl⟩
  trans h h' := by
    refine ⟨h'.contexts.trans h.contexts,h'.buffers.trans h.buffers,fun k => ?_,
      h'.events.trans h.events⟩
    rcases h'.surfaces k with hk | hk
    · rw [hk]
      exact h.surfaces k
    · rcases h.surfaces k with hk' | hk'
      · exact .inr (by rw [hk,hk'])
      · exact .inr (by rw [hk,hk']; rfl)

theorem Releases.of_released {k : Fin 64} (h : Released k s t) : Releases s t := by
  obtain ⟨hruntime,hevents⟩ := h
  refine ⟨by rw [hruntime]; rfl,by rw [hruntime]; rfl,fun k' => ?_,hevents⟩
  rw [hruntime]
  by_cases hk : k' = k
  · subst hk
    exact .inr (Runtime.setSurface_self ..)
  · exact .inl (Runtime.setSurface_of_ne _ _ hk)

def Surface.OwnedBy (contextId : UInt32) (v : Surface) : Prop :=
  v.used ∧ v.ownerContext = contextId

theorem Releases.ownedBy {contextId : UInt32} (h : Releases s t) (hid : contextId ≠ 0)
    {k : Fin 64} (hk : (t.runtime.surfaces k).OwnedBy contextId) :
    t.runtime.surfaces k = s.runtime.surfaces k := by
  rcases h.surfaces k with h | h
  · exact h
  · rw [h] at hk
    exact absurd hk.2.symm hid

variable (contextId : UInt32)
theorem releaseOwned_releases (hid : contextId ≠ 0) (k : Fin 64)
    (s : Machine ω) :
    Ends (releaseOwned env contextId k)
      (fun _ t => Releases s t ∧ ¬ (t.runtime.surfaces k).OwnedBy contextId) s := by
  refine .read_bind ?_
  split
  · refine (releaseSurfaceOutput_released env k s).mono fun _ t ht => ⟨.of_released ht,?_⟩
    rw [ht.1,Runtime.setSurface_self]
    exact fun howned => hid howned.2.symm
  · rename_i hnot
    exact .pure ⟨releases.refl s,hnot⟩

theorem forM_releaseOwned_releases (hid : contextId ≠ 0)
    (ks : List (Fin 64)) (s : Machine ω) :
    Ends (ks.forM (releaseOwned env contextId))
      (fun _ t => Releases s t ∧ ∀ k ∈ ks, ¬ (t.runtime.surfaces k).OwnedBy contextId) s := by
  induction ks generalizing s with
  | nil => exact .pure ⟨releases.refl s,nofun⟩
  | cons k ks ih =>
    refine .bind ((releaseOwned_releases env contextId hid k s).mono fun _ t1 h1 => ?_)
    refine (ih t1).mono fun _ t2 h2 => ⟨releases.trans h1.1 h2.1,fun k' hk' => ?_⟩
    rcases mem_cons.mp hk' with rfl | hk'
    · exact fun howned => h1.2 (h2.1.ownedBy hid howned ▸ howned)
    · exact h2.2 k' hk'

theorem getContext_ne_zero {rt : Runtime} {contextId : UInt32} {i : Fin 4}
    (h : getContext rt contextId = some i) : contextId ≠ 0 := by
  intro hzero
  subst hzero
  have hindex := (Option.filter_eq_some_iff.mp h).1
  exact nomatch hindex

theorem destroyContext_closed (s : Machine ω) :
    Ends (destroyContext env contextId)
      (fun _ t => t = s ∨ ∃ i, getContext s.runtime contextId = some i ∧
      Closed i contextId s t) s := by
  apply Ends.read_bind
  split
  · exact Ends.pure (.inl rfl)
  rename_i i hi
  refine Ends.bind ((forM_releaseOwned_releases env contextId (getContext_ne_zero hi) _ s).mono
    fun _ t1 h1 => ?_)
  refine Ends.bind (Ends.update (Ends.read_bind ?_))
  refine Ends.bind ((io_silent _).ends fun _ t2 h2 => ?_)
  refine Ends.bind ((io_silent _).ends fun closed t3 h3 => ?_)
  have hquiet (c : Prop) [Decidable c] (f : ω → ω × Bool) :
      Keeps silent (if c then io f else pure false) := Keeps.ite (io_silent _) (Keeps.pure _)
  refine Ends.bind ((hquiet _ _).ends fun recycled t4 h4 => ?_)
  refine Ends.bind ((Keeps.whenever (tell_silent _)).ends fun _ t5 h5 => ?_)
  obtain ⟨hruntime,hevents⟩ := silent_iff.mp
    (silent.trans h2 (silent.trans h3 (silent.trans h4 h5)))
  refine Ends.bind (Ends.update (Ends.bind (Ends.update (Ends.pure (.inr ⟨i,hi,?_⟩)))))
  refine ⟨?_,fun j hj => ?_,?_,fun k hk => ?_,?_⟩
  · simp only [update_self]
    rfl
  · simp only [hruntime,update_of_ne hj,h1.1.contexts]
  · simp only [hruntime,h1.1.buffers]
  · simp only [hruntime] at hk ⊢
    have howned : (t1.runtime.surfaces k).ownerContext ≠ contextId := fun howner =>
      h1.2 k (mem_finRange k) ⟨hk.1,howner⟩
    rcases h1.1.surfaces k with hsame | hreleased
    · exact ⟨hsame,howned⟩
    · rw [hreleased] at hk
      exact nomatch hk.2
  · exact hevents.trans h1.1.events
end

def Runtime.setBuffer (rt : Runtime) (b : Fin 256) (x : Buffer) : Runtime :=
  { rt with buffers := update rt.buffers b x }

inductive BufferStep (libva : Libva) (rt : Runtime) (x y : Buffer) : Prop
  | cleared (h : y.used = false)
  | created (i : Fin 4) (hi : getContext rt y.contextId = some i)
      (hshape : bufferShapeSupported libva (rt.contexts i).codec y.type y.elementSize
        y.capacityElements)
      (hlength : y.data.length = y.elementSize.toNat * y.capacityElements.toNat)
      (hnumber : y.numElements = y.capacityElements)
  | changed (hused : x.used) (htype : y.type = x.type) (hcontext : y.contextId = x.contextId)
      (helement : y.elementSize = x.elementSize)
      (hcapacity : y.capacityElements = x.capacityElements)
      (hlength : y.data.length = x.data.length)
      (hnumber : y.numElements = x.numElements ∨ y.numElements ≤ y.capacityElements)

def Rebuffered (libva : Libva) (b : Fin 256) (s t : Machine ω) : Prop :=
  (∃ y, t.runtime = s.runtime.setBuffer b y ∧ BufferStep libva s.runtime (s.runtime.buffers b) y) ∧
    t.events = s.events

section
variable (env : Env ω)
theorem blockOf_length (size : Nat) (data : Option (List UInt8)) :
    (blockOf size data).length = size := by
  cases data with
  | none => exact length_replicate
  | some data =>
    simp only [blockOf,length_append,length_take,zeros,length_replicate]
    omega

theorem getBuffer_used {rt : Runtime} {bufferId : UInt32} {b : Fin 256}
    (h : getBuffer rt bufferId = some b) : (rt.buffers b).used := by
  simpa using (Option.filter_eq_some_iff.mp h).2

theorem createBuffer_rebuffered (contextId : UInt32) (type : VaBufferType)
    (size numElements : UInt32) (data : Option (List UInt8)) (s : Machine ω) :
    Ends (createBuffer env contextId type size numElements data)
      (fun _ t => t = s ∨ ∃ b, Rebuffered env.libva b s t) s := by
  unfold createBuffer
  split
  · exact .pure (.inl rfl)
  dsimp only
  split
  · exact .pure (.inl rfl)
  refine .read_bind ?_
  split
  · exact .pure (.inl rfl)
  rename_i i hi
  split
  · exact .pure (.inl rfl)
  rename_i hshape
  split
  · exact .pure (.inl rfl)
  rename_i b _
  refine .bind (.update (.bind ((io_silent _).ends fun allocated t ht => ?_)))
  obtain ⟨hruntime,hevents⟩ := silent_iff.mp ht
  split
  · exact .pure (.inr ⟨b,⟨_,hruntime,.cleared rfl⟩,hevents⟩)
  · let y : Buffer := ⟨true,contextId,type,size,numElements,numElements,
      blockOf (size.toNat * numElements.toNat) data,false⟩
    refine .bind (.update (.pure (.inr ⟨b,⟨y,?_,?_⟩,hevents⟩)))
    · simp only [hruntime,update_idem]
      rfl
    · exact .created i hi (by simpa using hshape) (blockOf_length _ data) rfl

theorem bufferSetNumElements_rebuffered (bufferId numElements : UInt32) (s : Machine ω) :
    Ends (bufferSetNumElements bufferId numElements)
      (fun _ t => t = s ∨ ∃ b, Rebuffered env.libva b s t) s := by
  unfold bufferSetNumElements
  split
  · exact .pure (.inl rfl)
  refine .read_bind ?_
  split
  · exact .pure (.inl rfl)
  rename_i b hb
  split
  · exact .pure (.inl rfl)
  rename_i hnumber
  refine .bind (.update (.pure (.inr ⟨b,⟨_,rfl,?_⟩,rfl⟩)))
  exact .changed (getBuffer_used hb) rfl rfl rfl rfl rfl (.inr (UInt32.not_lt.mp hnumber))

theorem mapping_rebuffered (bufferId : UInt32) (s : Machine ω) :
    Ends (mapBuffer bufferId) (fun _ t => t = s ∨ ∃ b, Rebuffered env.libva b s t) s ∧
      Ends (unmapBuffer bufferId) (fun _ t => t = s ∨ ∃ b, Rebuffered env.libva b s t) s := by
  constructor
  all_goals
    refine .read_bind ?_
    split
    · exact .pure (.inl rfl)
    rename_i b hb
    split
    · exact .pure (.inl rfl)
    refine .bind (.update (.pure (.inr ⟨b,⟨_,rfl,?_⟩,rfl⟩)))
    exact .changed (getBuffer_used hb) rfl rfl rfl rfl rfl (.inl rfl)

theorem writeMapped_rebuffered (bufferId : UInt32) (bytes : List UInt8) (s : Machine ω) :
    Ends (writeMapped bufferId bytes) (fun _ t => t = s ∨ ∃ b, Rebuffered env.libva b s t) s := by
  refine .read_bind ?_
  split
  · exact .pure (.inl rfl)
  rename_i b hb
  split
  · refine .update (.inr ⟨b,⟨_,rfl,?_⟩,rfl⟩)
    refine .changed (getBuffer_used hb) rfl rfl rfl rfl ?_ (.inl rfl)
    simp only [length_append,length_take,length_drop]
    omega
  · exact .pure (.inl rfl)

theorem destroyBuffer_rebuffered (bufferId : UInt32) (s : Machine ω) :
    Ends (destroyBuffer bufferId) (fun _ t => t = s ∨ ∃ b, Rebuffered env.libva b s t) s := by
  refine .read_bind ?_
  split
  · exact .pure (.inl rfl)
  · exact .bind (.update (.pure
      (.inr ⟨_,⟨_,rfl,.cleared rfl⟩,rfl⟩)))
end

/-- What `render_picture` copies out of a buffer for a context of this codec. -/
inductive Copy (libva : Libva) (codec : DecodeCodec) (x : Buffer) : Event → Prop
  | picture (htype : x.type = .pictureParameter) :
      Copy libva codec x (.copied .pictureParameter (libva.pictureSize codec) x.data.length)
  | iqMatrix (htype : x.type = .iqMatrix) (hcodec : codec ≠ .vp9) :
      Copy libva codec x (.copied .iqMatrix (libva.iqSize codec) x.data.length)
  | sliceParameter (htype : x.type = .sliceParameter)
      (hsize : x.elementSize.toNat = libva.sliceSize codec) :
      Copy libva codec x (.copied .sliceParameter (x.numElements.toNat * libva.sliceSize codec)
        x.data.length)
  | sliceData (htype : x.type = .sliceData) :
      Copy libva codec x (.copied .sliceData (x.elementSize.toNat * x.numElements.toNat)
        x.data.length)

/-- What rendering into context `i` under an id may do. -/
structure Rendered (libva : Libva) (i : Fin 4) (contextId : UInt32) (s t : Machine ω) : Prop where
  identity : ∀ j, (t.runtime.contexts j).identity = (s.runtime.contexts j).identity
  buffers : t.runtime.buffers = s.runtime.buffers
  surfaces : t.runtime.surfaces = s.runtime.surfaces
  events : ∀ e ∈ t.events, e ∈ s.events ∨ ∃ b, (s.runtime.buffers b).used ∧
    (s.runtime.buffers b).contextId = contextId ∧
    Copy libva (s.runtime.contexts i).codec (s.runtime.buffers b) e

theorem Rendered.codec {libva : Libva} {i : Fin 4} {contextId : UInt32}
    (h : Rendered libva i contextId s t) (j : Fin 4) :
    (t.runtime.contexts j).codec = (s.runtime.contexts j).codec := by
  have hidentity := h.identity j
  simp only [Context.identity,Prod.mk.injEq] at hidentity
  exact hidentity.2.1

def rendered (libva : Libva) (i : Fin 4) (contextId : UInt32) : Frame (Machine ω) where
  rel := Rendered libva i contextId
  refl _ := ⟨fun _ => rfl,rfl,rfl,fun _ he => .inl he⟩
  trans h h' := by
    refine ⟨fun j => (h'.identity j).trans (h.identity j),h'.buffers.trans h.buffers,
      h'.surfaces.trans h.surfaces,fun e he => ?_⟩
    rcases h'.events e he with he | ⟨b,hused,hcontext,hcopy⟩
    · exact h.events e he
    · rw [h.buffers] at hused hcontext hcopy
      rw [h.codec] at hcopy
      exact .inr ⟨b,hused,hcontext,hcopy⟩

section
variable (env : Env ω) (i : Fin 4) (contextId : UInt32)
theorem Rendered.of_silent {libva : Libva} (h : silent.rel s t) :
    Rendered libva i contextId s t := by
  obtain ⟨hruntime,hevents⟩ := silent_iff.mp h
  refine ⟨fun j => ?_,?_,?_,fun e he => .inl (hevents ▸ he)⟩ <;> rw [hruntime]

theorem Rendered.modifyContext {libva : Libva} {i : Fin 4} {contextId : UInt32}
    {f : Context → Context} {v : α} (h : Rendered libva i contextId s t)
    (hf : ∀ c, (f c).identity = c.identity) :
    Ends (do modifyContext i f; return v) (fun _ u => Rendered libva i contextId s u) t := by
  refine .bind (.update (.pure ((rendered libva i contextId).trans h ?_)))
  refine ⟨fun k => ?_,rfl,rfl,fun _ he => .inl he⟩
  by_cases hk : k = i
  · subst hk
    simp only [update_self,hf]
  · simp only [update_of_ne hk]

theorem copyFrom_rendered {b : Fin 256} {size : Nat} {Q : List UInt8 → Machine ω → Prop}
    (hused : (s.runtime.buffers b).used) (hcontext : (s.runtime.buffers b).contextId = contextId)
    (hcopy : Copy env.libva (s.runtime.contexts i).codec (s.runtime.buffers b)
      (.copied (s.runtime.buffers b).type size (s.runtime.buffers b).data.length))
    (h : ∀ bytes t, Rendered env.libva i contextId s t → Q bytes t) :
    Ends (copyFrom (s.runtime.buffers b) size) Q s := by
  refine .bind (.update (.pure (h _ _ ⟨fun _ => rfl,rfl,rfl,fun e he => ?_⟩)))
  rcases mem_append.mp he with he | he
  · exact .inl he
  · rw [mem_singleton.mp he]
    exact .inr ⟨b,hused,hcontext,hcopy⟩
variable {i contextId} {b : Fin 256} (hused : (s.runtime.buffers b).used)
  (hcontext : (s.runtime.buffers b).contextId = contextId)

include hused hcontext
theorem renderPictureParameter_rendered (htype : (s.runtime.buffers b).type = .pictureParameter) :
    Ends (renderPictureParameter env i (s.runtime.buffers b))
      (fun _ t => Rendered env.libva i contextId s t) s := by
  refine .read_bind ?_
  split
  · exact .pure ((rendered _ _ _).refl s)
  refine .bind (copyFrom_rendered env i contextId hused hcontext ?_ fun bytes t ht => ?_)
  · rw [htype]
    exact .picture htype
  · apply ht.modifyContext
    exact fun _ => rfl

theorem renderIqMatrix_rendered (htype : (s.runtime.buffers b).type = .iqMatrix) :
    Ends (renderIqMatrix env i (s.runtime.buffers b))
      (fun _ t => Rendered env.libva i contextId s t) s := by
  refine .read_bind ?_
  iterate 2
    split
    · exact .pure ((rendered _ _ _).refl s)
  rename_i hcodec
  refine .bind (copyFrom_rendered env i contextId hused hcontext ?_ fun bytes t ht => ?_)
  · rw [htype]
    exact .iqMatrix htype hcodec
  · apply ht.modifyContext
    exact fun _ => rfl

theorem appendSliceParameters_rendered (htype : (s.runtime.buffers b).type = .sliceParameter) :
    Ends (appendSliceParameters env i (s.runtime.buffers b))
      (fun _ t => Rendered env.libva i contextId s t) s := by
  refine .read_bind ?_
  dsimp only
  split
  · exact .pure ((rendered _ _ _).refl s)
  rename_i hcheck
  simp only [not_or,ne_eq,not_not] at hcheck
  refine .bind ((io_silent _).ends fun grown t1 h1 => ?_)
  obtain ⟨hruntime,hevents⟩ := silent_iff.mp h1
  have hrendered : Rendered env.libva i contextId s t1 := .of_silent i contextId h1
  split
  · exact .pure hrendered
  rw [← hruntime] at hused hcontext htype ⊢
  refine .bind (copyFrom_rendered env i contextId hused hcontext ?_ fun bytes t ht => ?_)
  · rw [htype,hruntime]
    exact .sliceParameter (hruntime ▸ htype) hcheck.2.1
  · apply ((rendered _ _ _).trans hrendered ht).modifyContext
    exact fun _ => rfl

theorem setSliceData_rendered (htype : (s.runtime.buffers b).type = .sliceData) :
    Ends (setSliceData env i (s.runtime.buffers b))
      (fun _ t => Rendered env.libva i contextId s t) s := by
  refine .read_bind ?_
  dsimp only
  split
  · exact .pure ((rendered _ _ _).refl s)
  refine .bind ((io_silent _).ends fun spans t1 h1 => ?_)
  iterate 2
    split
    · exact .pure (.of_silent i contextId h1)
  refine .bind ((io_silent _).ends fun grown t2 h2 => ?_)
  obtain ⟨hruntime,hevents⟩ := silent_iff.mp (silent.trans h1 h2)
  have hrendered : Rendered env.libva i contextId s t2 :=
    .of_silent i contextId (silent.trans h1 h2)
  split
  · exact .pure hrendered
  rw [← hruntime] at hused hcontext htype ⊢
  refine .bind (copyFrom_rendered env i contextId hused hcontext ?_ fun bytes t ht => ?_)
  · rw [htype]
    exact .sliceData htype
  · apply ((rendered _ _ _).trans hrendered ht).modifyContext
    exact fun _ => rfl

omit hused hcontext
theorem renderBuffer_rendered (bufferId : UInt32) (s : Machine ω) :
    Ends (renderBuffer env i contextId bufferId)
      (fun _ t => Rendered env.libva i contextId s t) s := by
  refine .read_bind ?_
  split
  · exact .pure ((rendered _ _ _).refl s)
  rename_i b hb
  have hused := getBuffer_used hb
  dsimp only
  split
  · exact .pure ((rendered _ _ _).refl s)
  rename_i hcontext
  simp only [ne_eq,not_not] at hcontext
  split
  · exact .pure ((rendered _ _ _).refl s)
  split
  · rename_i htype
    exact renderPictureParameter_rendered env hused hcontext htype
  · rename_i htype
    exact renderIqMatrix_rendered env hused hcontext htype
  · rename_i htype
    exact .bind (appendSliceParameters_rendered env hused hcontext htype)
  · rename_i htype
    exact .bind (setSliceData_rendered env hused hcontext htype)
  · exact .pure ((rendered _ _ _).refl s)

theorem renderBuffers_rendered (bufferIds : List UInt32) :
    Keeps (rendered env.libva i contextId) (renderBuffers env i contextId bufferIds) := by
  induction bufferIds with
  | nil => exact .pure _
  | cons bufferId rest ih =>
    refine .bind (.of_ends (renderBuffer_rendered env bufferId)) fun status => ?_
    exact .ite (.pure _) ih
end

inductive CallStep (libva : Libva) (call : Call) (s t : Machine ω) : Prop
  | works (who : Option (Fin 4 × UInt32)) (h : Work who s t)
      (hwho : ∀ i id, who = some (i, id) → getContext s.runtime id = some i)
  | opens (i : Fin 4) (h : Opened i s t) (configId : UInt32) (width height : Int)
      (targets : List UInt32) (hcall : call = .createContext configId width height targets)
      (hconfigured : Configured configId i s t)
  | closes (i : Fin 4) (id : UInt32) (hi : getContext s.runtime id = some i) (h : Closed i id s t)
  | rebuffers (b : Fin 256) (h : Rebuffered libva b s t)
  | renders (i : Fin 4) (id : UInt32) (hi : getContext s.runtime id = some i)
      (h : Rendered libva i id s t)

section
variable (env : Env ω)
variable {call : Call}
theorem CallStep.refl {libva : Libva} (s : Machine ω) : CallStep libva call s s :=
  .works none ((work none).refl s) nofun

theorem CallStep.of_work {m : Prog ω α} (h : Keeps (work none) m) (s : Machine ω) :
    Ends (discard m) (fun _ t => CallStep env.libva call s t) s :=
  .works none (h s) nofun

theorem CallStep.of_rebuffered {m : Prog ω α}
    (h : Ends m (fun _ t => t = s ∨ ∃ b, Rebuffered env.libva b s t) s) :
    Ends m (fun _ t => CallStep env.libva call s t) s := by
  refine h.mono fun _ t ht => ?_
  rcases ht with rfl | ⟨b,ht⟩
  · exact .refl _
  · exact .rebuffers b ht

variable (contextId : UInt32)
theorem renderPicture_callStep (bufferIds : List UInt32) (s : Machine ω) :
    Ends (renderPicture env contextId bufferIds) (fun _ t => CallStep env.libva call s t) s := by
  refine .read_bind ?_
  split
  · exact .pure (.refl s)
  rename_i i hi
  split
  · exact .pure (.refl s)
  · exact .renders i contextId hi (renderBuffers_rendered ..)

theorem createContext_callStep (configId : UInt32) (width height : Int) (targets : List UInt32)
    (s : Machine ω) :
    Ends (createContext env configId width height targets)
      (fun _ t => CallStep env.libva (.createContext configId width height targets) s t) s := by
  refine (createContext_opened ..).mono fun _ t ht => ?_
  rcases ht with ht | ⟨i,ht,hconfigured⟩
  · exact .works none (.of_silent ht) nofun
  · exact .opens i ht configId width height targets rfl hconfigured

theorem destroyContext_callStep (s : Machine ω) :
    Ends (destroyContext env contextId) (fun _ t => CallStep env.libva call s t) s := by
  refine (destroyContext_closed ..).mono fun _ t ht => ?_
  rcases ht with rfl | ⟨i,hi,ht⟩
  · exact .refl _
  · exact .closes i contextId hi ht

theorem endPicture_callStep (s : Machine ω) :
    Ends (endPicture env contextId) (fun _ t => CallStep env.libva call s t) s := by
  refine (endPicture_work ..).mono fun _ t ht => ?_
  obtain ⟨who,hwork,hwho⟩ := ht
  exact .works who hwork fun i id h => (hwho i id h).2

theorem prog_callStep (s : Machine ω) :
    Ends (call.prog env) (fun _ t => CallStep env.libva call s t) s := by
  cases call with
  | createConfig => exact .of_work env (createConfig_work _ _ _) s
  | destroyConfig => exact .of_work env (destroyConfig_work _) s
  | createSurfaces => exact .of_work env (createSurfaces_work _ _ _ _ _) s
  | destroySurfaces => exact .of_work env (destroySurfaces_work env _) s
  | createContext => exact createContext_callStep ..
  | destroyContext => exact destroyContext_callStep ..
  | createBuffer contextId type size numElements data =>
    exact .of_rebuffered env (createBuffer_rebuffered env contextId type size numElements data s)
  | setNumElements => exact .of_rebuffered env (bufferSetNumElements_rebuffered env _ _ s)
  | mapBuffer => exact .of_rebuffered env (mapping_rebuffered env _ s).1
  | writeMapped => exact .of_rebuffered env (writeMapped_rebuffered env _ _ s)
  | unmapBuffer => exact .of_rebuffered env (mapping_rebuffered env _ s).2
  | destroyBuffer => exact .of_rebuffered env (destroyBuffer_rebuffered env _ s)
  | beginPicture => exact .of_work env (beginPicture_work env _ _ _) s
  | renderPicture => exact renderPicture_callStep ..
  | endPicture => exact endPicture_callStep ..
  | syncSurface => exact .of_work env (syncSurface_work env _ _ _) s
  | querySurfaceStatus => exact .of_work env (querySurfaceStatus_work env _) s
  | signalEos => exact .of_work env (signalEosPrivate_work env _ _) s
  | progressEos => exact .of_work env (progressEosPrivate_work env _ _ _) s

theorem step_callStep (s : Machine ω) :
    CallStep env.libva call { s with events := [] } (step env s call).1 :=
  prog_callStep env _
end
end LinDeX.Decode
