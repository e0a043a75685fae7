import LinDeX.Encode.Picture

/-!
# What input and output leave alone

Most of what the runtime does to its surroundings changes only the world, `silent`. What it does to
the dma-bufs and fences of a surface changes nothing that the tables say of frames, `quiet`.
-/
namespace LinDeX.Encode
open Vaapi Dmabuf Program Function
variable {ω α : Type} {s t u : Machine ω}
/-- Only the world changes. -/
def silent : Frame (Machine ω) := Frame.same fun s => (s.runtime, s.events)

theorem silent_iff : silent.rel s t ↔ t.runtime = s.runtime ∧ t.events = s.events :=
  Prod.ext_iff
theorem io_silent (f : ω → ω × α) : Keeps silent (io f) := fun _ => rfl
theorem tell_silent (f : ω → ω) : Keeps silent (tell f) := fun _ => rfl
variable (rt : Runtime) (k : Fin 64) (v : Surface)
@[simp] theorem setSurface_self : (rt.setSurface k v).surfaces k = v := update_self ..
theorem setSurface_of_ne {k k' : Fin 64} (h : k' ≠ k) :
    (rt.setSurface k v).surfaces k' = rt.surfaces k' := update_of_ne h ..

@[simp] theorem setSurface_setSurface (v v' : Surface) :
    (rt.setSurface k v).setSurface k v' = rt.setSurface k v' := by
  simp only [Runtime.setSurface,update_idem]

section
variable (env : Env ω)
variable (fd : Fd)
theorem closeFd_silent : Keeps silent (closeFd env fd) :=
  Keeps.ite (tell_silent _) (.pure _)
variable (d : Descriptor)
theorem descriptorClose_silent : Keeps silent (descriptorClose env d) :=
  Keeps.forM (closeFd_silent env)
theorem outputClose_silent (output : ClientOutput) : Keeps silent (outputClose env output) :=
  Keeps.bind (closeFd_silent env _) fun _ => closeFd_silent env _
theorem nowMs_silent : Keeps silent (nowMs env) :=
  Keeps.bind (io_silent _) fun _ => .pure _

theorem waitRetry_silent (deadline : UInt64) : Keeps silent (waitRetry env deadline) := by
  refine .bind (nowMs_silent env) fun now => ?_
  split
  · exact .pure _
  · exact .ite (.pure _) (io_silent _)
variable (b : Broker)
theorem brokerClose_silent : Keeps silent (brokerClose env b) := by
  refine .bind (.whenever ?_) fun _ => closeFd_silent env _
  exact .bind (io_silent _) fun _ => .pure _

theorem negotiate_silent (mime : String) (width height framerateMilli : UInt32) :
    Keeps silent (negotiate env fd mime width height framerateMilli) := by
  refine .bind (io_silent _) fun answer => ?_
  split
  · exact .pure _
  refine .read_bind fun left => .ite (.pure _) ?_
  refine .bind (io_silent _) fun caps => ?_
  split
  · exact .pure _
  · exact .pure _

theorem brokerOpen_silent (codec : EncodeCodec)
    (encodeProfile width height bitrate framerateMilli : UInt32) :
    Keeps silent (brokerOpen env codec encodeProfile width height bitrate framerateMilli) := by
  have hclose {α : Type} (b : Broker) (r : α) :
      Keeps silent (do brokerClose env b; return r : Prog ω α) :=
    Keeps.bind (brokerClose_silent env b) fun _ => .pure _
  refine .ite (.pure _) ?_
  split
  · exact .pure _
  refine .bind (io_silent _) fun connected => ?_
  split
  · exact .pure _
  refine .bind (negotiate_silent env _ _ _ _ _) fun negotiated => ?_
  split
  · exact hclose _ _
  refine .bind (io_silent _) fun created => ?_
  split
  · exact hclose _ _
  · exact .ite (hclose _ _) (.pure _)

theorem brokerRegisterSurface_silent (d : Descriptor) :
    Keeps silent (brokerRegisterSurface env b d) := by
  refine .ite (.pure _) (.bind (io_silent _) fun answer => ?_)
  split <;> exact .pure _

theorem brokerUnregisterSurface_silent (bufferId : UInt64) :
    Keeps silent (brokerUnregisterSurface env b bufferId) := by
  refine .ite (.pure _) (.bind (io_silent _) fun answer => ?_)
  split <;> exact .pure _

theorem brokerSignalEos_silent (ptsNs : UInt64) :
    Keeps silent (brokerSignalEos env b ptsNs) := by
  refine .ite (.pure _) (.bind (io_silent _) fun answer => ?_)
  split <;> exact .pure _

theorem mapPart_silent (part : ClientOutput) : Keeps silent (mapPart env part) := by
  refine .ite (.pure _) (.bind (io_silent _) fun mapped => ?_)
  split <;> exact .pure _

theorem waitSyncFile_silent (timeoutMs : UInt32) :
    Keeps silent (waitSyncFile env fd timeoutMs) := by
  refine .ite (.pure _) (.read_bind fun valid => ?_)
  split
  · exact .pure _
  · exact .bind (io_silent _) fun _ => .pure _

theorem exportImplicitReadFence_silent :
    Keeps silent (exportImplicitReadFence env d) := by
  refine .ite (.pure _) (.bind (io_silent _) fun exported => ?_)
  split
  · exact .pure _
  refine .ite (.pure _) (.read_bind fun valid => ?_)
  split
  · exact .bind (closeFd_silent env _) fun _ => .pure _
  · exact .pure _

theorem surfaceAllocateLinear_silent (id width height : UInt32) :
    Keeps silent (surfaceAllocateLinear env id width height) := by
  refine .bind (io_silent _) fun allocated => ?_
  split
  · exact .pure _
  refine .read_bind fun valid => .ite ?_ (.pure _)
  exact .bind (descriptorClose_silent env _) fun _ => .pure _

theorem acquirePrime_silent (id width height : UInt32) (attributes : List SurfaceAttrib)
    (index count : Nat) : Keeps silent (acquirePrime env id width height attributes index count) := by
  refine .ite (.bind (io_silent _) fun imported => ?_)
    (.bind (surfaceAllocateLinear_silent env _ _ _) fun _ => .pure _)
  split
  · exact .pure _
  refine .read_bind fun rt => .ite ?_ (.pure _)
  exact .bind (descriptorClose_silent env _) fun _ => .pure _
variable (k : Fin 64)
theorem checkWriteExport_silent : Keeps silent (checkWriteExport env k) := by
  refine .read_bind fun rt => .ite (.pure _) ?_
  refine .bind (exportImplicitReadFence_silent env _) fun fenced => ?_
  split
  · exact .pure _
  · exact .bind (closeFd_silent env _) fun _ => .pure _

theorem duplicateFds_silent (slots : List (Fin 4)) (fds : List Fd) :
    Keeps silent (duplicateFds env d slots fds) := by
  induction slots generalizing fds with
  | nil => exact .pure _
  | cons j slots ih =>
    refine .bind (io_silent _) fun dup => ?_
    cases dup with
    | none => exact .pure _
    | some fd => exact ih _

def Cleared (k : Fin 64) (s t : Machine ω) : Prop :=
  t.runtime = s.runtime.setSurface k Surface.zero ∧ t.events = s.events

theorem linkClose_closed (s : Machine ω) :
    Ends (linkClose env k) (fun _ t => t.runtime = s.runtime.setSurface k
      { s.runtime.surfaces k with link := Link.init none } ∧ t.events = s.events) s := by
  refine .bind (.read (.bind ?_))
  refine (closeFd_silent env _).ends fun _ t1 h1 => .bind ?_
  refine (closeFd_silent env _).ends fun _ t2 h2 => .update ?_
  obtain ⟨hruntime,hevents⟩ := silent_iff.mp (silent.trans h1 h2)
  exact ⟨by rw [hruntime],hevents⟩

theorem clearSurface_cleared (s : Machine ω) :
    Ends (clearSurface env k) (fun _ t => Cleared k s t) s := by
  refine .bind ((linkClose_closed env k s).mono fun _ t1 h1 => ?_)
  refine .bind (.read (.bind ?_))
  refine (descriptorClose_silent env _).ends fun _ t2 h2 => .bind ?_
  refine (descriptorClose_silent env _).ends fun _ t3 h3 => .update ?_
  obtain ⟨hruntime,hevents⟩ := silent_iff.mp (silent.trans h2 h3)
  refine ⟨?_,hevents.trans h1.2⟩
  show t3.runtime.setSurface k Surface.zero = _
  rw [hruntime,h1.1,setSurface_setSurface]
end

def Surface.book (v : Surface) : Bool × SurfaceState × UInt32 × UInt32 × UInt64 :=
  (v.used, v.state, v.ownerContext, v.codedBuffer, v.submitIndex)

/-- At most the dma-bufs and the fences of surfaces change. -/
def quiet : Frame (Machine ω) :=
  Frame.same fun s => (s.runtime.contexts, fun k => (s.runtime.surfaces k).book,
    s.runtime.buffers, s.events)

theorem quiet_iff : quiet.rel s t ↔ t.runtime.contexts = s.runtime.contexts ∧
    (∀ k, (t.runtime.surfaces k).book = (s.runtime.surfaces k).book) ∧
    t.runtime.buffers = s.runtime.buffers ∧ t.events = s.events := by
  simp only [quiet,Frame.same,Prod.mk.injEq,funext_iff]

theorem quiet_of_silent (h : silent.rel s t) : quiet.rel s t := by
  obtain ⟨hruntime,hevents⟩ := silent_iff.mp h
  refine quiet_iff.mpr ⟨?_,fun k => ?_,?_,hevents⟩ <;> rw [hruntime]

theorem keeps_quiet_of_silent {m : Prog ω α} (h : Keeps silent m) : Keeps quiet m :=
  h.mono fun _ _ => quiet_of_silent

theorem modifySurface_quiet {f : Surface → Surface} (h : ∀ v, (f v).book = v.book) :
    Keeps quiet (modifySurface k f : Prog ω Unit) := by
  refine .update fun s => quiet_iff.mpr ⟨rfl,fun k' => ?_,rfl,rfl⟩
  by_cases hk : k' = k
  · subst hk
    rw [setSurface_self,h]
  · exact congrArg Surface.book (setSurface_of_ne _ _ hk)

section
variable (env : Env ω)
variable (k : Fin 64)
theorem modifyLink_quiet (f : Link → Link) :
    Keeps quiet (modifyLink k f : Prog ω Unit) := modifySurface_quiet k fun _ => rfl

theorem linkSetAcquireFence_quiet (fence : Fd) :
    Keeps quiet (linkSetAcquireFence env k fence) := by
  refine .read_bind fun v => .ite (.pure _) ?_
  refine .read_bind fun valid => ?_
  split
  · exact .pure _
  refine .bind (keeps_quiet_of_silent (closeFd_silent env _)) fun _ => ?_
  exact .bind (modifyLink_quiet k _) fun _ => .pure _
variable (i : Fin 4)
variable (k : Fin 64)
theorem linkRegister_quiet : Keeps quiet (linkRegister env i k) := by
  refine .read_bind fun c => .read_bind fun v => ?_
  split
  · exact .pure _
  refine .read_bind fun valid => .ite (.pure _) ?_
  refine .bind (keeps_quiet_of_silent (brokerRegisterSurface_silent env _ _)) fun r => ?_
  split
  · exact .pure _
  · exact .bind (modifyLink_quiet k _) fun _ => .pure _

theorem linkWait_quiet (timeoutMs : UInt32) :
    Keeps quiet (linkWait env k timeoutMs) := by
  refine .ite (.pure _) (.read_bind fun v => ?_)
  refine .ite (.pure _) ?_
  refine .bind (keeps_quiet_of_silent (waitSyncFile_silent env _ _)) fun r => ?_
  split
  · exact .pure _
  refine .bind (keeps_quiet_of_silent (closeFd_silent env _)) fun _ => ?_
  exact .bind (modifyLink_quiet k _) fun _ => .pure _

theorem linkUnregister_quiet (timeoutMs : UInt32) :
    Keeps quiet (linkUnregister env i k timeoutMs) := by
  refine .read_bind fun v => .ite (.pure _) ?_
  refine .bind (.ite (linkWait_quiet env k timeoutMs) (.pure _)) fun waited => ?_
  split
  · exact .pure _
  refine .read_bind fun c => ?_
  refine .bind (keeps_quiet_of_silent (brokerUnregisterSurface_silent env _ _)) fun r => ?_
  split
  · exact .pure _
  · exact .bind (modifyLink_quiet k _) fun _ => .pure _

theorem linkClose_quiet : Keeps quiet (linkClose env k) := by
  refine .read_bind fun v => ?_
  refine .bind (keeps_quiet_of_silent (closeFd_silent env _)) fun _ => ?_
  exact .bind (keeps_quiet_of_silent (closeFd_silent env _)) fun _ => modifyLink_quiet k _

theorem takeAcquireFence_quiet : Keeps quiet (takeAcquireFence env k) := by
  refine .read_bind fun v => ?_
  refine .bind (keeps_quiet_of_silent (exportImplicitReadFence_silent env _)) fun r => ?_
  split
  · exact .pure _
  refine .bind (linkSetAcquireFence_quiet env k _) fun r => ?_
  split
  · exact .bind (keeps_quiet_of_silent (closeFd_silent env _)) fun _ => .pure _
  · exact .pure _

theorem adoptConverted_quiet (converted : Descriptor) :
    Keeps quiet (adoptConverted env i k converted) := by
  refine .read_bind fun v => .read_bind fun same => ?_
  refine .ite (.pure _) ?_
  refine .bind (.ite (linkUnregister_quiet env i k _) (.pure _)) fun r => ?_
  split
  · exact .pure _
  refine .bind (linkClose_quiet env k) fun _ => ?_
  refine .bind (keeps_quiet_of_silent (descriptorClose_silent env _)) fun _ => ?_
  exact .bind (modifySurface_quiet k fun _ => rfl) fun _ => .pure _

theorem repackInput_quiet : Keeps quiet (repackInput env i k) := by
  refine .read_bind fun v => ?_
  refine .bind (keeps_quiet_of_silent (exportImplicitReadFence_silent env _)) fun r => ?_
  split
  · exact .pure _
  refine .bind ?_ fun c => ?_
  · split
    · exact .pure _
    · exact keeps_quiet_of_silent (io_silent _)
  refine .bind (keeps_quiet_of_silent (closeFd_silent env _)) fun _ => ?_
  refine .read_bind fun valid => .read_bind fun left => ?_
  refine .bind ?_ fun adopted => ?_
  · exact .ite (.pure _)
      (.ite (.pure _) (adoptConverted_quiet env i k _))
  refine .bind ?_ fun fenced => ?_
  · split
    · exact .pure _
    · exact linkSetAcquireFence_quiet env k _
  refine .bind (.whenever (keeps_quiet_of_silent (closeFd_silent env _))) fun _ => ?_
  refine .bind (keeps_quiet_of_silent (closeFd_silent env _)) fun _ => ?_
  refine .bind (.whenever (keeps_quiet_of_silent (descriptorClose_silent env _)))
    fun _ => .pure _

theorem prepareEncodeInput_quiet :
    Keeps quiet (prepareEncodeInput env i k) := by
  refine .read_bind fun rt => .ite (.pure _) ?_
  refine .read_bind fun valid => .read_bind fun imports => ?_
  refine .read_bind fun repacks => ?_
  split
  · exact takeAcquireFence_quiet env k
  · exact repackInput_quiet env i k
  · exact .pure _
end
end LinDeX.Encode
