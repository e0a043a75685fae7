import LinDeX.Dmabuf.Invariant
import LinDeX.Dmabuf.Recorded
import LinDeX.Dmabuf.Registration
import LinDeX.System.FileTable

/-!
# Runs of registry calls

Calls come in any order, each in whatever world it finds.
-/
namespace LinDeX.Dmabuf
variable {ω α : Type} {os : Os ω} {r : Registry}
inductive Call (ω : Type)
  | register (allowed : ω → Descriptor → ω × Int × Option Errno) (d : Descriptor)
  | unregister (id : UInt64)
  | begin (s : Submission)
  | finish (id : UInt64)

/-- A result reduced to what the caller holds from then on. -/
def RegistryResult.giving (x : RegistryResult ω α) (f : α → Holding) : RegistryResult ω Holding :=
  ⟨x.world,x.registry,x.events,x.result.map f⟩

def Call.run (os : Os ω) (w : ω) (r : Registry) : Call ω → RegistryResult ω Holding
  | .register allowed d => (Dmabuf.register os allowed w r d).giving fun _ => 0
  | .unregister id => (Dmabuf.unregister os w r id).giving fun _ => 0
  | .begin s => (Dmabuf.begin os w r s).giving fun job => holding .jobAcquire job.acquireFenceFd
  | .finish id =>
    RegistryResult.giving ⟨w,(Dmabuf.finish r id).1,[],(Dmabuf.finish r id).2⟩ fun _ => 0

/-- The same call in a world with a record. -/
def Call.recorded : Call ω → Call (ω × List Note)
  | .register allowed d => .register (fun w d => unnoted w.2 (allowed w.1 d)) d
  | .unregister id => .unregister id
  | .begin s => .begin s
  | .finish id => .finish id

theorem Call.run_noted (w : ω) (l : List Note) (c : Call ω) :
    c.recorded.run os.recorded (w, l) r = (c.run os w r).noted l := by
  cases c with
  | register allowed d => exact congrArg (RegistryResult.giving · _) (register_noted allowed d)
  | unregister id => exact congrArg (RegistryResult.giving · _) (unregister_noted id)
  | begin s => exact congrArg (RegistryResult.giving · _) (begin_noted s)
  | finish id => simp [Call.recorded,Call.run,RegistryResult.giving]

/-- What holds of every call: a failure changes nothing, and no descriptor is lost. -/
structure Sound (r : Registry) (x : RegistryResult ω Holding) : Prop where
  wellFormed : x.registry.WellFormed
  failed : ∀ e, x.result = .error e → x.registry = r ∧ gainedBy x.events = settledBy x.events
  balance : gainedBy x.events + r.held =
    settledBy x.events + (x.registry.held + x.result.toOption.getD 0)

section
variable {x : RegistryResult ω α} {f : α → Holding}
theorem sound_of_error {e : Errno} (hr : r.WellFormed) (hresult : x.result = .error e)
    (hreg : x.registry = r) (hevents : gainedBy x.events = settledBy x.events) :
    Sound r (x.giving f) where
  wellFormed := hreg ▸ hr
  failed _ _ := ⟨hreg,hevents⟩
  balance := by
    simp only [RegistryResult.giving,hresult,hreg,hevents]
    exact congrArg _ (add_zero _).symm

theorem sound_of_ok {a : α} (hresult : x.result = .ok a) (hwell : x.registry.WellFormed)
    (hbalance : gainedBy x.events + r.held = settledBy x.events + (x.registry.held + f a)) :
    Sound r (x.giving f) where
  wellFormed := hwell
  failed e h := by
    simp only [RegistryResult.giving,hresult] at h
    cases h
  balance := by
    simp only [RegistryResult.giving,hresult]
    exact hbalance
end

theorem finish_cases (r : Registry) (id : UInt64) :
    (∃ e, finish r id = (r, .error e)) ∨
      ∃ i, finish r id = (r.unmark i, .ok ()) ∧ (r.entries i).inFlight = true := by
  unfold finish
  iterate 3
    split
    · exact .inl ⟨_,rfl⟩
  · rename_i i _ hflight
    exact .inr ⟨i,rfl,by simpa using hflight⟩

theorem Call.run_sound (hr : r.WellFormed) (w : ω) (c : Call ω) : Sound r (c.run os w r) := by
  cases c with
  | register allowed d =>
    obtain ⟨e,hresult,hreg,hevents, -⟩ | ⟨i,d',hresult,hreg,hfree,hid,hnew,hgain,hsettle, -⟩ :=
      register_cases os hr allowed w d
    · exact sound_of_error hr hresult hreg hevents
    · apply sound_of_ok hresult
      · rw [hreg]
        exact hr.add hfree hid hnew
      · rw [hreg,hgain,hsettle,held_add hfree,zero_add,add_zero,add_comm]
  | unregister id =>
    obtain ⟨e,hresult,hreg,hevents⟩ | ⟨i,hresult,hreg,huse, -,hflight,hgain,hsettle, -⟩ :=
      unregister_cases os w r id
    · exact sound_of_error hr hresult hreg (by rw [hevents]; rfl)
    · apply sound_of_ok hresult
      · rw [hreg]
        exact hr.drop huse hflight
      · rw [hreg,hgain,hsettle,← held_drop huse,zero_add,add_zero,add_comm]
  | begin s =>
    obtain ⟨e,hresult,hreg,hevents⟩ | ⟨i,job,hresult,hreg,huse, -,hflight, -, -,hevents⟩ :=
      begin_cases os w r s
    · exact sound_of_error hr hresult hreg (by rw [hevents]; rfl)
    · apply sound_of_ok hresult
      · rw [hreg]
        exact hr.mark huse hflight
      · rw [hreg,hevents,gainedBy_fdEvent_gain,settledBy_fdEvent_gain,held_mark,zero_add,add_comm]
  | finish id =>
    obtain ⟨e,heq⟩ | ⟨i,heq,hflight⟩ := finish_cases r id
    · exact sound_of_error hr (congrArg Prod.snd heq) (congrArg Prod.fst heq) rfl
    · apply sound_of_ok (congrArg Prod.snd heq)
      · rw [heq]
        exact hr.unmark hflight
      · rw [held_finish,add_zero]
        rfl

/-- One call, with what callers hold besides the registry. -/
def CallStep (os : Os ω) (s : Registry × Holding) (log : List FdEvent) (s' : Registry × Holding) :
    Prop :=
  ∃ w c, let x := Call.run os w s.1 c
    log = x.events ∧ s' = (x.registry, s.2 + x.result.toOption.getD 0)

theorem Registry.WellFormed.find_unused (hr : r.WellFormed)
    (hcount : r.registeredCount < maxRegisteredDmabufs) :
    ∃ i, (Fin.find? fun i => !(r.entries i).inUse) = some i := by
  cases hfind : Fin.find? fun i => !(r.entries i).inUse with
  | some i => exact ⟨i,rfl⟩
  | none =>
    have huse (i : Fin 16) : (r.entries i).inUse = true := by simpa using Slots.find_none hfind i
    simp only [hr.registered,huse] at hcount
    exact absurd hcount (by decide)

/-- Whatever was called before, the registry is well formed, and every descriptor that was opened is
closed once or still held; what the events say of a call is what the kernel was asked to do. -/
theorem registry_runs (os : Os ω) {log : List FdEvent} {given : Holding}
    (h : Run.Trace (CallStep os) (.empty, 0) log (r, given)) :
    r.WellFormed ∧ (∀ i, (r.entries i).inFlight = true → (r.entries i).inUse = true) ∧
    (r.registeredCount < maxRegisteredDmabufs →
      ∃ i, (Fin.find? fun i => !(r.entries i).inUse) = some i) ∧
    (∀ w id, (unregister os w r id).result = .ok () → 0 < r.registeredCount) ∧
    (∀ id, (finish r id).2 = .ok () → 0 < r.inflightCount) ∧
    (∀ w c, Sound r (Call.run os w r c)) ∧
    gainedBy log = settledBy log + (r.held + given) ∧
    (∀ w, gainedBy (registryDestroy os w r).2 = 0 ∧
      settledBy (registryDestroy os w r).2 = r.held) ∧
    (∀ w l c, Call.run os.recorded (w, l) r c.recorded = (Call.run os w r c).noted l) ∧
    ∀ w l, registryDestroy os.recorded (w, l) r =
      noted l (registryDestroy os w r) (fdNotes (registryDestroy os w r).2) := by
  have hinv : ∀ s log s', CallStep os s log s' → s.1.WellFormed → s'.1.WellFormed := by
    rintro s _ _ ⟨w,c,rfl,rfl⟩ hs
    exact (Call.run_sound hs w c).wellFormed
  have hr : r.WellFormed := h.invariant (fun s => s.1.WellFormed) hinv Registry.wellFormed_empty
  have hledger := h.conserves (fun s => s.1.WellFormed) FdEvent.gained FdEvent.settled
    (fun s => s.1.held + s.2) hinv
    (by
      rintro s _ _ ⟨w,c,rfl,rfl⟩ hs
      rw [← add_assoc]
      refine (congrArg (· + s.2) (Call.run_sound hs w c).balance).trans ?_
      rw [add_comm s.2,add_assoc,add_assoc]
      rfl)
    Registry.wellFormed_empty
  refine ⟨hr,fun i => hr.inUse_of_inFlight,hr.find_unused,?_,?_,Call.run_sound hr,?_,
    fun w => ⟨(registryDestroy_events os w r).1,(registryDestroy_events os w r).2.1⟩,
    Call.run_noted,fun _ _ => registryDestroy_noted⟩
  · intro w id hok
    obtain ⟨e,hresult, -⟩ | ⟨i, -, -,huse, -⟩ := unregister_cases os w r id
    · rw [hok] at hresult
      cases hresult
    · exact hr.registeredCount_pos huse
  · intro id hok
    obtain ⟨e,heq⟩ | ⟨i, -,hflight⟩ := finish_cases r id
    · rw [heq] at hok
      cases hok
    · exact hr.inflightCount_pos hflight
  · have hempty : Registry.empty.held = 0 := rfl
    rwa [hempty,add_zero,add_zero] at hledger

theorem registry_runs_twoObjects : ∃ log r,
    Run.Trace (CallStep tableOs) (.empty, 0) log (r, 0) ∧ r.registeredCount = 1 ∧
      gainedBy log = settledBy log + (r.held + 0) := by
  have hcall : CallStep tableOs (.empty, 0) _ (_, 0) :=
    ⟨⟨[],by simp⟩,.register (fun w _ => (w, 1, none)) twoObjects,rfl,rfl⟩
  exact ⟨_,_,.single hcall,by decide,(registry_runs tableOs (.single hcall)).2.2.2.2.2.2.1⟩
end LinDeX.Dmabuf
