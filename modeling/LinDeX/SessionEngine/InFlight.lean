import LinDeX.SessionEngine.Invariant
import LinDeX.SessionEngine.Mock

/-!
# Failed requests and buffers in flight

A request that fails leaves the engine as it found it. In a DMABUF session the registry entries
in flight and the completion slots in use are two views of one set of buffers.
-/
namespace LinDeX.SessionEngine
open Dmabuf
open scoped BigOperators
variable {ω : Type} {b : BackendOps ω} {os : Os ω} {e e' : Engine} {s s' : SessionSlot}
  {next next' : UInt64} {status : Status} {effects : List Effect} {log : Log}
  {op : Option Opcode}

theorem HandleStep.error_unchanged (h : HandleStep s next op status effects s' next')
    (hstatus : status ≠ .ok) : s' = s ∧ next' = next := by
  cases h with
  | failed | oversized | rejected => exact ⟨rfl,rfl⟩
  | _ => exact absurd rfl hstatus

theorem EngineStep.error_unchanged (h : EngineStep e op (some status) log e')
    (hstatus : status ≠ .ok) : e' = e := by
  cases h with
  | refused => rfl
  | created => exact absurd rfl hstatus
  | handled _ _ _ h =>
    obtain ⟨rfl,rfl⟩ := h.error_unchanged hstatus
    simp [Engine.setSession]

/-- Error atomicity: a request that is not answered `OK` changes no session slot and no counter,
whatever the backend did on the way. -/
theorem sessionEngineHandle_error_atomic (b : BackendOps ω) (os : Os ω) {e : Engine}
    (he : Reachable b os e) (w : ω) (req reply : Message)
    (hstatus : (sessionEngineHandle b os w e req reply).status ≠ .ok) :
    (sessionEngineHandle b os w e req reply).engine = e :=
  (sessionEngineHandle_step he.wellFormed).error_unchanged hstatus

/-- A dequeue whose output has a flag outside the protocol, on a decode session. -/
theorem sessionEngineHandle_error_atomic_dequeue :
    let b := mockBackend (mockOutput Transport.aHardwareBuffer 64 5 7) (.ok, -1)
    let e := (runCalls b mockOs () [.request createDecode]).1.2
    let req := mockRequest 5 1 [] []
    (sessionEngineHandle b mockOs () e req (mockReply req)).status = .noResource ∧
      (sessionEngineHandle b mockOs () e req (mockReply req)).engine = e := by
  intro b e req
  have hstatus : (sessionEngineHandle b mockOs () e req (mockReply req)).status =
      Status.noResource := by decide +kernel
  exact ⟨hstatus,sessionEngineHandle_error_atomic b mockOs ⟨(),_,rfl⟩ () req (mockReply req)
    (by rw [hstatus]; decide)⟩

section InFlight
variable {r : Registry} {c : Fin 4 → CompletionSlot}
def flightIds (r : Registry) : Finset UInt64 :=
  (Finset.univ.filter fun i => (r.entries i).inFlight = true).image fun i =>
    (r.entries i).descriptor.bufferId

theorem InFlightMatch.flightIds_eq (h : InFlightMatch r c) :
    flightIds r =
      (Finset.univ.filter fun j => (c j).inUse = true).image fun j => (c j).bufferId := by
  ext id
  simp only [flightIds,Finset.mem_image,Finset.mem_filter,Finset.mem_univ,true_and]
  constructor
  · rintro ⟨i,hi,rfl⟩
    exact h.completionOf i hi
  · rintro ⟨j,hj,rfl⟩
    exact h.entryOf j hj

theorem inflightCount_eq_card (hr : r.WellFormed) :
    r.inflightCount = (Finset.univ.filter fun i => (r.entries i).inFlight = true).card := by
  rw [hr.inflight,Finset.card_filter]
  apply Finset.sum_congr rfl
  intro i _
  cases (r.entries i).inFlight <;> rfl

theorem card_flightIds (hr : r.WellFormed) : (flightIds r).card = r.inflightCount := by
  rw [inflightCount_eq_card hr,flightIds]
  apply Finset.card_image_of_injOn
  intro i hi i' hi' hid
  replace hi := (Finset.mem_filter.mp (Finset.mem_coe.mp hi)).2
  replace hi' := (Finset.mem_filter.mp (Finset.mem_coe.mp hi')).2
  exact hr.idInj i i' (hr.inUse_of_inFlight hi) (hr.inUse_of_inFlight hi') hid

theorem InFlightMatch.card_completions (h : InFlightMatch r c) (hr : r.WellFormed) :
    r.inflightCount = (Finset.univ.filter fun j => (c j).inUse = true).card := by
  rw [← card_flightIds hr,h.flightIds_eq]
  apply Finset.card_image_of_injOn
  intro j hj j' hj' hid
  replace hj := (Finset.mem_filter.mp (Finset.mem_coe.mp hj)).2
  replace hj' := (Finset.mem_filter.mp (Finset.mem_coe.mp hj')).2
  exact h.idInj j j' hj hj' hid
end InFlight

theorem handleCompleteDmabuf_ne_internal (hs : s.WellFormed) (w : ω) (req reply : Message) :
    (handleCompleteDmabuf w s req reply).status ≠ .internal := by
  unfold handleCompleteDmabuf
  split
  · exact (by decide : Status.unsupported ≠ .internal)
  rename_i r hr
  split
  · exact (by decide : Status.unsupported ≠ .internal)
  split
  · exact (by decide : Status.badMessage ≠ .internal)
  dsimp only
  split
  · exact (by decide : Status.badMessage ≠ .internal)
  split
  · exact (by decide : Status.wouldBlock ≠ .internal)
  rename_i j hfind
  obtain ⟨huse,hid⟩ := findDmabufCompletion_some hfind
  obtain ⟨i, -, -,hfinish⟩ := finish_completion hs hr huse
  rw [← hid,hfinish]
  exact (by decide : Status.ok ≠ .internal)

theorem handleUnregisterDmabuf_not_pending (hs : s.WellFormed) {w : ω} {req reply : Message}
    (hok : (handleUnregisterDmabuf os w s req reply).status = .ok) (j : Fin 4)
    (huse : (s.dmabufCompletions j).inUse = true) :
    (s.dmabufCompletions j).bufferId ≠ Bytes.getU64 req.payload 0 := by
  intro hpending
  unfold handleUnregisterDmabuf at hok
  split at hok
  · exact absurd hok (by decide : Status.unsupported ≠ .ok)
  rename_i r hr
  split at hok
  · exact absurd hok (by decide : Status.unsupported ≠ .ok)
  split at hok
  · exact absurd hok (dmabufErrnoStatus_ne_ok _)
  rename_i id hdecode
  have hid : id = Bytes.getU64 req.payload 0 := by
    unfold unregisterDecode at hdecode
    iterate 2
      split at hdecode
      · cases hdecode
    · cases hdecode
      rfl
  dsimp only at hok
  obtain ⟨err,hresult, -⟩ | ⟨i, -, -,hused,hentry,hflight, -⟩ := unregister_cases os w r id
  · rw [hresult] at hok
    exact absurd hok (dmabufErrnoStatus_ne_ok _)
  · -- the completion names an entry in flight, which must be the one just dropped
    obtain ⟨i',hi',hid'⟩ := (hs.inFlight r hr).entryOf j huse
    have hsame : i' = i := (hs.registry r hr).idInj i' i
      ((hs.registry r hr).inUse_of_inFlight hi') hused
      (hid'.trans (hpending.trans (hid.symm.trans hentry.symm)))
    rw [hsame,hflight] at hi'
    cases hi'

/-- The in-flight bijection of every DMABUF session in every state the engine can reach. -/
theorem dmabufSession_inFlight_bijection (b : BackendOps ω) (os : Os ω) {e : Engine}
    (he : Reachable b os e) (k : Fin 4) (huse : (e.sessions k).inUse = true)
    (htransport : (e.sessions k).transport = Transport.dmabuf) :
    let s := e.sessions k
    ∃ r, s.dmabufs = some r ∧
      (∀ i, (r.entries i).inFlight = true → ∃! j, (s.dmabufCompletions j).inUse = true ∧
        (s.dmabufCompletions j).bufferId = (r.entries i).descriptor.bufferId) ∧
      (∀ j, (s.dmabufCompletions j).inUse = true → ∃! i, (r.entries i).inFlight = true ∧
        (r.entries i).descriptor.bufferId = (s.dmabufCompletions j).bufferId) ∧
      r.inflightCount = (Finset.univ.filter fun i => (r.entries i).inFlight = true).card ∧
      r.inflightCount =
        (Finset.univ.filter fun j => (s.dmabufCompletions j).inUse = true).card ∧
      r.inflightCount ≤ maxInflightDmabufs ∧
      (∀ j j', (s.dmabufCompletions j).inUse = true → (s.dmabufCompletions j').inUse = true →
        (s.dmabufCompletions j).bufferId = (s.dmabufCompletions j').bufferId → j = j') ∧
      (∀ (w : ω) req reply, (handleCompleteDmabuf w s req reply).status ≠ .internal) ∧
      (∀ w req reply, (handleUnregisterDmabuf os w s req reply).status = .ok →
        ∀ j, (s.dmabufCompletions j).inUse = true →
          (s.dmabufCompletions j).bufferId ≠ Bytes.getU64 req.payload 0) := by
  intro s
  have hs : s.WellFormed := he.wellFormed.session k huse
  obtain ⟨r,hr⟩ : ∃ r, s.dmabufs = some r := by
    rw [← Option.isSome_iff_exists,hs.hasRegistry]
    simpa using htransport
  have hmatch := hs.inFlight r hr
  have hwf := hs.registry r hr
  refine ⟨r,hr,fun i hi => ?_,fun j hj => ?_,inflightCount_eq_card hwf,
    hmatch.card_completions hwf,?_,hmatch.idInj,handleCompleteDmabuf_ne_internal hs,
    fun w req reply hok => handleUnregisterDmabuf_not_pending hs hok⟩
  · obtain ⟨j,hj,hid⟩ := hmatch.completionOf i hi
    exact ⟨j,⟨hj,hid⟩,fun j' h' => hmatch.idInj j' j h'.1 hj (h'.2.trans hid.symm)⟩
  · obtain ⟨i,hi,hid⟩ := hmatch.entryOf j hj
    exact ⟨i,⟨hi,hid⟩,fun i' h' => hwf.idInj i' i (hwf.inUse_of_inFlight h'.1)
      (hwf.inUse_of_inFlight hi) (h'.2.trans hid.symm)⟩
  · rw [hmatch.card_completions hwf]
    exact (Finset.card_filter_le _ _).trans (by simp [maxInflightDmabufs])

/-- One buffer registered and submitted: it is in flight and waits for its completion. -/
theorem dmabufSession_inFlight_bijection_submitted :
    let b := mockBackend (mockOutput 0 0 0 (-1)) (.ok, -1)
    let e := (runCalls b mockOs () [.request (createEncode Transport.dmabuf),
      .request (registerDmabuf 1 77 9),.request (queueDmabuf 1 77)]).1.2
    (e.sessions 0).transport = Transport.dmabuf ∧
      ∃ r, (e.sessions 0).dmabufs = some r ∧ r.inflightCount = 1 ∧
        r.inflightCount =
          (Finset.univ.filter fun j => ((e.sessions 0).dmabufCompletions j).inUse = true).card := by
  intro b e
  obtain ⟨huse,htransport,hone⟩ : (e.sessions 0).inUse = true ∧
      (e.sessions 0).transport = Transport.dmabuf ∧
      (e.sessions 0).dmabufs.map Registry.inflightCount = some 1 := by
    decide +kernel
  obtain ⟨r,hr, -, -, -,hcount, -⟩ := dmabufSession_inFlight_bijection b mockOs
    (e := e) ⟨(),_,rfl⟩ 0 huse htransport
  refine ⟨htransport,r,hr,?_,hcount⟩
  rw [hr] at hone
  simpa using hone
end LinDeX.SessionEngine
