import LinDeX.Encode.Frames
import LinDeX.Encode.Ledger

/-!
# The tables of the encode runtime as a ledger

A frame that waits stands in three tables: its surface names the coded buffer, the buffer names the
surface, and the context counts it. `Books` says that they do this for exactly the frames in the
queues of a ledger.
-/
namespace LinDeX.Encode
open Vaapi Function List
variable {rt rt' : Runtime} {L L' : Ledger} {i j : Fin 4} {k : Fin 64} {b : Fin 256} {e f : Waiting}
def Surface.Waits (v : Surface) : Prop := v.used = true ∧ v.state = .pending
def Buffer.Awaits (v : Buffer) : Prop := v.used = true ∧ v.pendingSurface ≠ invalidId
def Buffer.book (v : Buffer) : Bool × EncBufferType × UInt32 × UInt32 :=
  (v.used, v.type, v.ownerContext, v.pendingSurface)

structure Enters (rt : Runtime) (i : Fin 4) (e : Waiting) (k : Fin 64) (b : Fin 256) : Prop where
  surface : getSurface rt e.surface = some k
  buffer : getBuffer rt e.buffer = some b
  state : (rt.surfaces k).state = .pending
  owner : idIndex 4 typeContext (rt.surfaces k).ownerContext = some i
  coded : (rt.surfaces k).codedBuffer = e.buffer
  index : (rt.surfaces k).submitIndex = e.index
  type : (rt.buffers b).type = .coded
  context : (rt.buffers b).ownerContext = (rt.surfaces k).ownerContext
  pending : (rt.buffers b).pendingSurface = e.surface

def Broker.Valid (b : Broker) : Prop := 0 ≤ b.fd ∧ b.sessionId ≠ 0

/-- A context counts the frames of its queue and could serve them, and leaves room for the picture
that it is working on. -/
structure Context.Fits (c : Context) (q : List Waiting) : Prop where
  count : c.pendingCount.toNat = q.length
  bound : q.length ≤ 4
  sorted : q.Pairwise fun e f => e.index < f.index
  indexed : ∀ e ∈ q, e.index < c.frameIndex
  live : q ≠ [] → c.used = true ∧ c.brokerOpen = true
  session : q ≠ [] → c.broker.Valid
  active : c.pictureActive = true → q.length < 4 ∧ ∀ e ∈ q, e.surface ≠ c.target

structure Books (rt : Runtime) (L : Ledger) : Prop where
  enters : ∀ i, ∀ e ∈ L.queue i, ∃ k b, Enters rt i e k b
  fits : ∀ i, (rt.contexts i).Fits (L.queue i)
  waiting : ∀ k, (rt.surfaces k).Waits → ∃ i, ∃ e ∈ L.queue i, getSurface rt e.surface = some k
  awaited : ∀ b, (rt.buffers b).Awaits → ∃ i, ∃ e ∈ L.queue i, getBuffer rt e.buffer = some b
  held : ∀ b, (rt.buffers b).used = true → (rt.buffers b).output.segments = L.held b
variable {id : UInt32}
theorem getSurface_eq_some :
    getSurface rt id = some k ↔ idIndex 64 typeSurface id = some k ∧ (rt.surfaces k).used = true :=
  Option.filter_eq_some_iff

theorem getBuffer_eq_some :
    getBuffer rt id = some b ↔ idIndex 256 typeBuffer id = some b ∧ (rt.buffers b).used = true :=
  Option.filter_eq_some_iff

theorem getContext_eq_some :
    getContext rt id = some i ↔ idIndex 4 typeContext id = some i ∧ (rt.contexts i).used = true :=
  Option.filter_eq_some_iff

theorem idIndex_ne_invalid (h : idIndex 64 typeSurface id = some k) :
    id ≠ invalidId := by
  rintro rfl
  exact absurd h (by decide +revert)

theorem idIndex_context_zero : idIndex 4 typeContext 0 = none := by decide

theorem getSurface_inj {id id' : UInt32} (h : getSurface rt id = some k)
    (h' : getSurface rt id' = some k) : id = id' :=
  idIndex_inj (getSurface_eq_some.mp h).1 (getSurface_eq_some.mp h').1

namespace Enters
theorem waits (h : Enters rt i e k b) : (rt.surfaces k).Waits :=
  ⟨(getSurface_eq_some.mp h.surface).2,h.state⟩

theorem awaits (h : Enters rt i e k b) : (rt.buffers b).Awaits :=
  ⟨(getBuffer_eq_some.mp h.buffer).2,by
    rw [h.pending]
    exact idIndex_ne_invalid (getSurface_eq_some.mp h.surface).1⟩

theorem eq_of_surface {b' : Fin 256} (h : Enters rt i e k b) (h' : Enters rt j f k b') :
    i = j ∧ e = f ∧ b = b' := by
  have hi : i = j := Option.some.inj (h.owner.symm.trans h'.owner)
  have hsurface : e.surface = f.surface := getSurface_inj h.surface h'.surface
  have hbuffer : e.buffer = f.buffer := h.coded.symm.trans h'.coded
  have hindex : e.index = f.index := h.index.symm.trans h'.index
  refine ⟨hi,?_,Option.some.inj (h.buffer.symm.trans (hbuffer ▸ h'.buffer))⟩
  obtain ⟨_,_,_⟩ := e
  obtain ⟨_,_,_⟩ := f
  simp_all

theorem eq_of_buffer {k' : Fin 64} (h : Enters rt i e k b) (h' : Enters rt j f k' b) :
    i = j ∧ e = f ∧ k = k' := by
  have hk : k = k' := Option.some.inj
    (h.surface.symm.trans ((h.pending.symm.trans h'.pending) ▸ h'.surface))
  subst hk
  exact ⟨(h.eq_of_surface h').1,(h.eq_of_surface h').2.1,rfl⟩

theorem congr (h : Enters rt i e k b) (hk : (rt'.surfaces k).book = (rt.surfaces k).book)
    (hb : (rt'.buffers b).book = (rt.buffers b).book) : Enters rt' i e k b := by
  simp only [Surface.book,Buffer.book,Prod.mk.injEq] at hk hb
  obtain ⟨hused,hstate,howner,hcoded,hindex⟩ := hk
  obtain ⟨hused',htype,hcontext,hpending⟩ := hb
  exact
    { surface := getSurface_eq_some.mpr
        ⟨(getSurface_eq_some.mp h.surface).1,hused.trans (getSurface_eq_some.mp h.surface).2⟩
      buffer := getBuffer_eq_some.mpr
        ⟨(getBuffer_eq_some.mp h.buffer).1,hused'.trans (getBuffer_eq_some.mp h.buffer).2⟩
      state := hstate.trans h.state
      owner := howner ▸ h.owner
      coded := hcoded.trans h.coded
      index := hindex.trans h.index
      type := htype.trans h.type
      context := by rw [hcontext,howner,h.context]
      pending := hpending.trans h.pending }
end Enters

namespace Books
theorem frame_of_surface (h : Books rt L) (hk : (rt.surfaces k).Waits) :
    ∃ i, ∃ e ∈ L.queue i, ∃ b, Enters rt i e k b := by
  obtain ⟨i,e,he,hsurface⟩ := h.waiting k hk
  obtain ⟨k',b,hb⟩ := h.enters i e he
  have hkk : k' = k := Option.some.inj (hb.surface.symm.trans hsurface)
  exact ⟨i,e,he,b,hkk ▸ hb⟩

theorem frame_of_buffer (h : Books rt L) (hb : (rt.buffers b).Awaits) :
    ∃ i, ∃ e ∈ L.queue i, ∃ k, Enters rt i e k b := by
  obtain ⟨i,e,he,hbuffer⟩ := h.awaited b hb
  obtain ⟨k,b',hk⟩ := h.enters i e he
  have hbb : b' = b := Option.some.inj (hk.buffer.symm.trans hbuffer)
  exact ⟨i,e,he,k,hbb ▸ hk⟩

theorem change (h : Books rt L) (hqueue : L'.queue = L.queue)
    (hfits : ∀ i, (rt'.contexts i).Fits (L.queue i))
    (hsurfaces : ∀ k, (rt'.surfaces k).book = (rt.surfaces k).book ∨
    ¬ (rt.surfaces k).Waits ∧ ¬ (rt'.surfaces k).Waits)
    (hbuffers : ∀ b, (rt'.buffers b).book = (rt.buffers b).book ∨
    ¬ (rt.buffers b).Awaits ∧ ¬ (rt'.buffers b).Awaits)
    (hheld : ∀ b, (rt'.buffers b).used = true → (rt'.buffers b).output.segments = L'.held b) :
    Books rt' L' := by
  have henters : ∀ i, ∀ e ∈ L.queue i, ∃ k b, Enters rt i e k b ∧ Enters rt' i e k b := by
    intro i e he
    obtain ⟨k,b,hkb⟩ := h.enters i e he
    exact ⟨k,b,hkb,hkb.congr ((hsurfaces k).resolve_right fun hno => hno.1 hkb.waits)
      ((hbuffers b).resolve_right fun hno => hno.1 hkb.awaits)⟩
  refine ⟨?_,?_,?_,?_,hheld⟩
  · intro i e he
    obtain ⟨k,b, -,hkb⟩ := henters i e (hqueue ▸ he)
    exact ⟨k,b,hkb⟩
  · exact fun i => hqueue ▸ hfits i
  · intro k hk
    have hbook := (hsurfaces k).resolve_right fun hno => hno.2 hk
    simp only [Surface.book,Prod.mk.injEq] at hbook
    obtain ⟨i,e,he,b,hb⟩ := h.frame_of_surface ⟨hbook.1 ▸ hk.1,hbook.2.1 ▸ hk.2⟩
    obtain ⟨k',b',hold,hnew⟩ := henters i e he
    have hkk : k' = k := Option.some.inj (hold.surface.symm.trans hb.surface)
    exact ⟨i,e,hqueue ▸ he,hkk ▸ hnew.surface⟩
  · intro b hb
    have hbook := (hbuffers b).resolve_right fun hno => hno.2 hb
    simp only [Buffer.book,Prod.mk.injEq] at hbook
    obtain ⟨i,e,he,k,hk⟩ := h.frame_of_buffer ⟨hbook.1 ▸ hb.1,hbook.2.2.2 ▸ hb.2⟩
    obtain ⟨k',b',hold,hnew⟩ := henters i e he
    have hbb : b' = b := Option.some.inj (hold.buffer.symm.trans hk.buffer)
    exact ⟨i,e,hqueue ▸ he,hbb ▸ hnew.buffer⟩

theorem setContext {c : Context} (h : Books rt L) (hc : c.Fits (L.queue i)) :
    Books (rt.setContext i c) L := by
  refine h.change rfl (fun j => ?_) (fun _ => .inl rfl) (fun _ => .inl rfl) h.held
  by_cases hj : j = i
  · subst hj
    simpa only [Runtime.setContext,update_self] using hc
  · simpa only [Runtime.setContext,update_of_ne hj] using h.fits j

theorem setSurface {v : Surface} (h : Books rt L)
    (hv : v.book = (rt.surfaces k).book ∨ ¬ (rt.surfaces k).Waits ∧ ¬ v.Waits) :
    Books (rt.setSurface k v) L := by
  refine h.change rfl h.fits (fun k' => ?_) (fun _ => .inl rfl) h.held
  by_cases hk : k' = k
  · subst hk
    simpa only [Runtime.setSurface,update_self] using hv
  · simp only [Runtime.setSurface,update_of_ne hk,true_or]

theorem setBuffer {v : Buffer} (h : Books rt L)
    (hv : v.book = (rt.buffers b).book ∨ ¬ (rt.buffers b).Awaits ∧ ¬ v.Awaits)
    (hheld : v.used = true → v.output.segments = L'.held b)
    (hother : ∀ b', b' ≠ b → L'.held b' = L.held b') (hqueue : L'.queue = L.queue) :
    Books (rt.setBuffer b v) L' := by
  refine h.change hqueue h.fits (fun _ => .inl rfl) (fun b' => ?_) fun b' => ?_
  all_goals by_cases hb : b' = b
  · subst hb
    simpa only [Runtime.setBuffer,update_self] using hv
  · simp only [Runtime.setBuffer,update_of_ne hb,true_or]
  · subst hb
    simpa only [Runtime.setBuffer,update_self] using hheld
  · simpa only [Runtime.setBuffer,update_of_ne hb,hother b' hb] using h.held b'
end Books

theorem getSurface_congr (h : ∀ k, (rt'.surfaces k).used = (rt.surfaces k).used) :
    getSurface rt' = getSurface rt := by
  funext id
  simp only [getSurface,h]

theorem getBuffer_congr (h : ∀ b, (rt'.buffers b).used = (rt.buffers b).used) :
    getBuffer rt' = getBuffer rt := by
  funext id
  simp only [getBuffer,h]

namespace Books
theorem pendingFor_iff (h : Books rt L) :
    pendingFor rt i k = true ↔ ∃ e ∈ L.queue i, ∃ b, Enters rt i e k b := by
  simp only [pendingFor,ownedBy,Bool.and_eq_true,bne_iff_ne,beq_iff_eq]
  constructor
  · rintro ⟨⟨⟨hused, -⟩,hcontext⟩,hstate⟩
    obtain ⟨j,e,he,b,hkb⟩ := h.frame_of_surface ⟨hused,hstate⟩
    have hij : j = i := Option.some.inj (hkb.owner.symm.trans (getContext_eq_some.mp hcontext).1)
    subst hij
    exact ⟨e,he,b,hkb⟩
  · rintro ⟨e,he,b,hkb⟩
    refine ⟨⟨⟨hkb.waits.1,fun hzero => ?_⟩,?_⟩,hkb.state⟩
    · have howner := hkb.owner
      rw [hzero,idIndex_context_zero] at howner
      cases howner
    · exact getContext_eq_some.mpr ⟨hkb.owner,((h.fits i).live (ne_nil_of_mem he)).1⟩

theorem entry_unique (h : Books rt L) {e : Waiting} {rest : List Waiting}
    (hqueue : L.queue i = e :: rest) : e ∉ rest := fun hmem => by
  have hsorted := (h.fits i).sorted
  rw [hqueue] at hsorted
  exact absurd ((pairwise_cons.mp hsorted).1 e hmem) (UInt64.lt_irrefl _)
end Books

/-- The frame that `end_picture` submits. -/
def Context.entry (c : Context) : Waiting := ⟨c.target,c.frame.codedBuffer,c.frameIndex⟩

theorem Context.Fits.push {c c' : Context} {q : List Waiting} (h : c.Fits q)
    (hactive : c.pictureActive = true) (hindex : c.frameIndex.toNat + 1 < 2 ^ 64)
    (hcount : c'.pendingCount = c.pendingCount + 1) (hnext : c'.frameIndex = c.frameIndex + 1)
    (hlive : c'.used = true ∧ c'.brokerOpen = true) (hsession : c'.broker.Valid)
    (hdone : c'.pictureActive = false) :
    c'.Fits (q ++ [c.entry]) := by
  have hlt := (h.active hactive).1
  have hindex' : c'.frameIndex.toNat = c.frameIndex.toNat + 1 := by
    rw [hnext,UInt64.toNat_add]
    exact Nat.mod_eq_of_lt hindex
  refine ⟨?_,?_,?_,?_,fun _ => hlive,fun _ => hsession,
    fun hno => absurd (hdone.symm.trans hno) Bool.false_ne_true⟩
  · rw [hcount,UInt32.toNat_add,length_append,length_singleton,h.count]
    exact Nat.mod_eq_of_lt (by simp only [UInt32.reduceToNat]; omega)
  · rw [length_append,length_singleton]
    omega
  · refine pairwise_append.mpr ⟨h.sorted,pairwise_singleton _ _,fun f hf g hg => ?_⟩
    obtain rfl := mem_singleton.mp hg
    exact h.indexed f hf
  · intro f hf
    rw [UInt64.lt_iff_toNat_lt,hindex']
    obtain hf | hf := mem_append.mp hf
    · exact Nat.lt_succ_of_lt (UInt64.lt_iff_toNat_lt.mp (h.indexed f hf))
    · obtain rfl := mem_singleton.mp hf
      exact Nat.lt_succ_self _

section
variable (rt : Runtime) (i : Fin 4) (k : Fin 64) (b : Fin 256) (ptsNs : UInt64)
theorem enqueueFrame_surface_self : (enqueueFrame rt i k b ptsNs).surfaces k = { rt.surfaces k with
        codedBuffer := (rt.contexts i).entry.buffer, ptsNs := ptsNs,
        submitIndex := (rt.contexts i).entry.index, state := .pending } := update_self ..

theorem enqueueFrame_buffer_self : (enqueueFrame rt i k b ptsNs).buffers b = { rt.buffers b with
        output := CodedOutput.empty, pendingSurface := (rt.contexts i).entry.surface } :=
  update_self ..
variable {k b}
theorem enqueueFrame_surface_of_ne {k' : Fin 64} (h : k' ≠ k) :
    (enqueueFrame rt i k b ptsNs).surfaces k' = rt.surfaces k' := update_of_ne h ..
theorem enqueueFrame_buffer_of_ne {b' : Fin 256} (h : b' ≠ b) :
    (enqueueFrame rt i k b ptsNs).buffers b' = rt.buffers b' := update_of_ne h ..
variable (k b)
theorem enqueueFrame_getSurface : getSurface (enqueueFrame rt i k b ptsNs) = getSurface rt := by
  refine getSurface_congr fun k' => ?_
  by_cases hk : k' = k
  · rw [hk,enqueueFrame_surface_self]
  · rw [enqueueFrame_surface_of_ne _ _ _ hk]

theorem enqueueFrame_getBuffer : getBuffer (enqueueFrame rt i k b ptsNs) = getBuffer rt := by
  refine getBuffer_congr fun b' => ?_
  by_cases hb : b' = b
  · rw [hb,enqueueFrame_buffer_self]
  · rw [enqueueFrame_buffer_of_ne _ _ _ hb]
end

structure Submittable (rt : Runtime) (i : Fin 4) (k : Fin 64) (b : Fin 256) : Prop where
  used : (rt.contexts i).used = true
  opened : (rt.contexts i).brokerOpen = true
  active : (rt.contexts i).pictureActive = true
  surface : getSurface rt (rt.contexts i).target = some k
  buffer : getBuffer rt (rt.contexts i).frame.codedBuffer = some b
  owner : idIndex 4 typeContext (rt.surfaces k).ownerContext = some i
  ready : codedBufferReady (rt.buffers b) (rt.surfaces k).ownerContext = true

namespace Books
theorem surface_free (h : Books rt L) (hs : Submittable rt i k b) : ¬ (rt.surfaces k).Waits := by
  intro hwaits
  obtain ⟨j,f,hf,b',hkb⟩ := h.frame_of_surface hwaits
  have hij : j = i := Option.some.inj (hkb.owner.symm.trans hs.owner)
  subst hij
  exact ((h.fits j).active hs.active).2 f hf (getSurface_inj hkb.surface hs.surface)

theorem mem_push {f : Waiting} (e : Waiting) (hf : f ∈ L.queue j) :
    f ∈ ((L.setQueue i (L.queue i ++ [e])).setHeld b []).queue j := by
  rw [Ledger.setHeld_queue]
  by_cases hj : j = i
  · subst hj
    rw [Ledger.setQueue_self]
    exact mem_append_left _ hf
  · rwa [Ledger.setQueue_of_ne _ _ hj]

theorem enqueue (h : Books rt L) (hs : Submittable rt i k b) (hsession : (rt.contexts i).broker.Valid)
    (hindex : (rt.contexts i).frameIndex.toNat + 1 < 2 ^ 64) (ptsNs : UInt64) :
    Books (enqueueFrame rt i k b ptsNs)
      ((L.setQueue i (L.queue i ++ [(rt.contexts i).entry])).setHeld b []) := by
  have hready := hs.ready
  simp only [codedBufferReady,Bool.and_eq_true,beq_iff_eq] at hready
  obtain ⟨⟨⟨hcontext,htype⟩, -⟩,hfree⟩ := hready
  have hkfree := h.surface_free hs
  have hbfree : ¬ (rt.buffers b).Awaits := fun hawaits => hawaits.2 hfree
  have hnew : Enters (enqueueFrame rt i k b ptsNs) i (rt.contexts i).entry k b := by
    refine ⟨?_,?_,?_,?_,?_,?_,?_,?_,?_⟩
    · rw [enqueueFrame_getSurface]
      exact hs.surface
    · rw [enqueueFrame_getBuffer]
      exact hs.buffer
    all_goals simp only [enqueueFrame_surface_self,enqueueFrame_buffer_self]
    · exact hs.owner
    · exact htype
    · exact hcontext
  have hin : (rt.contexts i).entry ∈
      ((L.setQueue i (L.queue i ++ [(rt.contexts i).entry])).setHeld b []).queue i := by
    rw [Ledger.setHeld_queue,Ledger.setQueue_self]
    exact mem_append_right _ mem_cons_self
  -- the frames that waited before are on other surfaces and for other buffers
  have hold : ∀ j, ∀ f ∈ L.queue j, ∃ k' b', Enters (enqueueFrame rt i k b ptsNs) j f k' b' := by
    intro j f hf
    obtain ⟨k',b',hkb⟩ := h.enters j f hf
    have hkk : k' ≠ k := fun hkk => hkfree (hkk ▸ hkb.waits)
    have hbb : b' ≠ b := fun hbb => hbfree (hbb ▸ hkb.awaits)
    exact ⟨k',b',hkb.congr (by rw [enqueueFrame_surface_of_ne _ _ _ hkk])
      (by rw [enqueueFrame_buffer_of_ne _ _ _ hbb])⟩
  refine ⟨?_,?_,?_,?_,?_⟩
  · intro j f hf
    rw [Ledger.setHeld_queue] at hf
    by_cases hj : j = i
    · subst hj
      rw [Ledger.setQueue_self] at hf
      obtain hf | hf := mem_append.mp hf
      · exact hold j f hf
      · exact ⟨k,b,mem_singleton.mp hf ▸ hnew⟩
    · rw [Ledger.setQueue_of_ne _ _ hj] at hf
      exact hold j f hf
  · intro j
    rw [Ledger.setHeld_queue]
    by_cases hj : j = i
    · subst hj
      rw [Ledger.setQueue_self]
      simp only [enqueueFrame,update_self]
      exact (h.fits j).push hs.active hindex rfl rfl ⟨hs.used,hs.opened⟩ hsession rfl
    · rw [Ledger.setQueue_of_ne _ _ hj]
      simpa only [enqueueFrame,update_of_ne hj] using h.fits j
  · intro k' hk'
    by_cases hkk : k' = k
    · exact ⟨i,_,hin,hkk ▸ hnew.surface⟩
    · rw [enqueueFrame_surface_of_ne _ _ _ hkk] at hk'
      obtain ⟨j,f,hf,hfk⟩ := h.waiting k' hk'
      exact ⟨j,f,mem_push _ hf,by rwa [enqueueFrame_getSurface]⟩
  · intro b' hb'
    by_cases hbb : b' = b
    · exact ⟨i,_,hin,hbb ▸ hnew.buffer⟩
    · rw [enqueueFrame_buffer_of_ne _ _ _ hbb] at hb'
      obtain ⟨j,f,hf,hfb⟩ := h.awaited b' hb'
      exact ⟨j,f,mem_push _ hf,by rwa [enqueueFrame_getBuffer]⟩
  · intro b' hb'
    by_cases hbb : b' = b
    · rw [hbb,enqueueFrame_buffer_self,Ledger.setHeld_self]
      rfl
    · rw [enqueueFrame_buffer_of_ne _ _ _ hbb] at hb' ⊢
      rw [Ledger.setHeld_of_ne _ _ hbb]
      exact h.held b' hb'
end Books
variable {c : Context}
theorem Context.Fits.pop {e : Waiting} {rest : List Waiting} (h : c.Fits (e :: rest)) :
    Context.Fits { c with
      pendingCount := if 0 < c.pendingCount then c.pendingCount - 1 else 0 } rest := by
  have hcount := h.count
  have hbound := h.bound
  rw [length_cons] at hcount hbound
  refine ⟨?_,by omega,h.sorted.of_cons,fun f hf => h.indexed f (mem_cons_of_mem _ hf),
    fun _ => h.live (cons_ne_nil _ _),fun _ => h.session (cons_ne_nil _ _),
    fun hactive => ?_⟩
  · have hpos : 0 < c.pendingCount := by
      rw [UInt32.lt_iff_toNat_lt,hcount]
      exact Nat.succ_pos _
    have hone : (1 : UInt32) ≤ c.pendingCount := by
      rw [UInt32.le_iff_toNat_le,hcount]
      exact Nat.succ_le_succ (Nat.zero_le _)
    simp only [if_pos hpos]
    rw [UInt32.toNat_sub_of_le _ _ hone,hcount]
    rfl
  · obtain ⟨hlt,htarget⟩ := h.active hactive
    rw [length_cons] at hlt
    exact ⟨by omega,fun f hf => htarget f (mem_cons_of_mem _ hf)⟩

section
variable (rt : Runtime) (i : Fin 4) (k : Fin 64) (b : Fin 256) (output : CodedOutput)
theorem settle_surface_self :
    (settle rt i k b output).surfaces k = { rt.surfaces k with state := .ready } :=
  update_self ..

theorem settle_buffer_self : (settle rt i k b output).buffers b = { rt.buffers b with
        output := { output with ptsNs := mediaCodecPtsNs (rt.surfaces k).ptsNs }
        pendingSurface := invalidId } := update_self ..
variable {k b}
theorem settle_surface_of_ne {k' : Fin 64} (h : k' ≠ k) :
    (settle rt i k b output).surfaces k' = rt.surfaces k' := update_of_ne h ..
theorem settle_buffer_of_ne {b' : Fin 256} (h : b' ≠ b) :
    (settle rt i k b output).buffers b' = rt.buffers b' := update_of_ne h ..
variable (k b)
theorem settle_getSurface : getSurface (settle rt i k b output) = getSurface rt := by
  refine getSurface_congr fun k' => ?_
  by_cases hk : k' = k
  · rw [hk,settle_surface_self]
  · rw [settle_surface_of_ne _ _ _ hk]

theorem settle_getBuffer : getBuffer (settle rt i k b output) = getBuffer rt := by
  refine getBuffer_congr fun b' => ?_
  by_cases hb : b' = b
  · rw [hb,settle_buffer_self]
  · rw [settle_buffer_of_ne _ _ _ hb]
end

namespace Books
variable {rest : List Waiting}
theorem of_mem_pop {f : Waiting} (hqueue : L.queue i = e :: rest)
    (hf : f ∈ (L.setQueue i rest).queue j) : f ∈ L.queue j := by
  by_cases hj : j = i
  · subst hj
    rw [Ledger.setQueue_self] at hf
    rw [hqueue]
    exact mem_cons_of_mem _ hf
  · rwa [Ledger.setQueue_of_ne _ _ hj] at hf

theorem mem_pop {f : Waiting} (hqueue : L.queue i = e :: rest)
    (hf : f ∈ L.queue j) (hne : ¬ (i = j ∧ e = f)) : f ∈ (L.setQueue i rest).queue j := by
  by_cases hj : j = i
  · subst hj
    rw [Ledger.setQueue_self]
    rw [hqueue] at hf
    exact (mem_cons.mp hf).resolve_left fun hfe => hne ⟨rfl,hfe.symm⟩
  · rwa [Ledger.setQueue_of_ne _ _ hj]

theorem settled (h : Books rt L) (hqueue : L.queue i = e :: rest)
    (he : Enters rt i e k b) (output : CodedOutput) :
    Books (settle rt i k b output) ((L.setQueue i rest).setHeld b output.segments) := by
  -- a frame that is left is on another surface and for another buffer
  have hleft : ∀ j, ∀ f ∈ (L.setQueue i rest).queue j,
      ∃ k' b', Enters (settle rt i k b output) j f k' b' := by
    intro j f hf
    obtain ⟨k',b',hkb⟩ := h.enters j f (of_mem_pop hqueue hf)
    have hne : ¬ (j = i ∧ f = e) := by
      rintro ⟨rfl,rfl⟩
      rw [Ledger.setQueue_self] at hf
      exact h.entry_unique hqueue hf
    have hkk : k' ≠ k := by
      rintro rfl
      exact hne ⟨(hkb.eq_of_surface he).1,(hkb.eq_of_surface he).2.1⟩
    have hbb : b' ≠ b := by
      rintro rfl
      exact hne ⟨(hkb.eq_of_buffer he).1,(hkb.eq_of_buffer he).2.1⟩
    exact ⟨k',b',hkb.congr (by rw [settle_surface_of_ne _ _ _ hkk])
      (by rw [settle_buffer_of_ne _ _ _ hbb])⟩
  refine ⟨hleft,?_,?_,?_,?_⟩
  · intro j
    rw [Ledger.setHeld_queue]
    by_cases hj : j = i
    · subst hj
      rw [Ledger.setQueue_self]
      simp only [settle,update_self]
      exact (hqueue ▸ h.fits j).pop
    · rw [Ledger.setQueue_of_ne _ _ hj]
      simpa only [settle,update_of_ne hj] using h.fits j
  · intro k' hk'
    by_cases hkk : k' = k
    · rw [hkk,settle_surface_self] at hk'
      exact absurd hk'.2 (by simp)
    · rw [settle_surface_of_ne _ _ _ hkk] at hk'
      obtain ⟨j,f,hf,hfk⟩ := h.waiting k' hk'
      refine ⟨j,f,mem_pop hqueue hf fun heq => hkk ?_,by rwa [settle_getSurface]⟩
      exact Option.some.inj (hfk.symm.trans (heq.2 ▸ he.surface))
  · intro b' hb'
    by_cases hbb : b' = b
    · rw [hbb,settle_buffer_self] at hb'
      exact absurd rfl hb'.2
    · rw [settle_buffer_of_ne _ _ _ hbb] at hb'
      obtain ⟨j,f,hf,hfb⟩ := h.awaited b' hb'
      refine ⟨j,f,mem_pop hqueue hf fun heq => hbb ?_,by rwa [settle_getBuffer]⟩
      exact Option.some.inj (hfb.symm.trans (heq.2 ▸ he.buffer))
  · intro b' hb'
    by_cases hbb : b' = b
    · rw [hbb,settle_buffer_self,Ledger.setHeld_self]
    · rw [settle_buffer_of_ne _ _ _ hbb] at hb' ⊢
      rw [Ledger.setHeld_of_ne _ _ hbb]
      exact h.held b' hb'
end Books

theorem Context.Fits.nil (hcount : c.pendingCount = 0) : c.Fits [] where
  count := congrArg UInt32.toNat hcount
  bound := Nat.zero_le _
  sorted := List.Pairwise.nil
  indexed := fun _ hf => absurd hf not_mem_nil
  live := fun hno => absurd rfl hno
  session := fun hno => absurd rfl hno
  active := fun _ => ⟨Nat.zero_lt_succ _,fun _ hf => absurd hf not_mem_nil⟩

namespace Books
theorem mem_clear {f : Waiting} :
    f ∈ (L.setQueue i []).queue j ↔ j ≠ i ∧ f ∈ L.queue j := by
  by_cases hj : j = i
  · subst hj
    rw [Ledger.setQueue_self]
    exact iff_of_false not_mem_nil fun h => h.1 rfl
  · rw [Ledger.setQueue_of_ne _ _ hj]
    exact (and_iff_right hj).symm
end Books

section
variable (rt : Runtime) (i : Fin 4)
theorem failPending_surface {k : Fin 64} (h : pendingFor rt i k = false) :
    (failPending rt i).surfaces k = rt.surfaces k := by
  simp only [failPending,h,Bool.false_eq_true,if_false]

theorem failPending_buffer {b : Fin 256}
    (h : ∀ k, pendingFor rt i k = true → getBuffer rt (rt.surfaces k).codedBuffer ≠ some b) :
    (failPending rt i).buffers b = rt.buffers b := by
  refine if_neg fun hany => ?_
  obtain ⟨k, -,hk⟩ := any_eq_true.mp hany
  simp only [Bool.and_eq_true,beq_iff_eq] at hk
  exact h k hk.1 hk.2

theorem failPending_pendingSurface {k : Fin 64} {b : Fin 256} (hk : pendingFor rt i k = true)
    (hb : getBuffer rt (rt.surfaces k).codedBuffer = some b) :
    ((failPending rt i).buffers b).pendingSurface = invalidId := by
  have hany : ((List.finRange 64).any fun k =>
      pendingFor rt i k && getBuffer rt (rt.surfaces k).codedBuffer == some b) = true :=
    any_eq_true.mpr ⟨k,mem_finRange k,by simp [hk,hb]⟩
  simp only [failPending,hany,if_true]

theorem failPending_getSurface : getSurface (failPending rt i) = getSurface rt := by
  refine getSurface_congr fun k => ?_
  simp only [failPending]
  split <;> rfl

theorem failPending_used (b : Fin 256) : ((failPending rt i).buffers b).used = (rt.buffers b).used ∧
    ((failPending rt i).buffers b).output = (rt.buffers b).output := by
  simp only [failPending]
  split <;> exact ⟨rfl,rfl⟩
end

namespace Books
theorem failed (h : Books rt L) (i : Fin 4) : Books (failPending rt i) (L.setQueue i []) := by
  -- frames of other contexts are on other surfaces and for other buffers
  have hleft : ∀ j, ∀ f ∈ (L.setQueue i []).queue j,
      ∃ k b, Enters (failPending rt i) j f k b := by
    intro j f hf
    obtain ⟨hj,hf⟩ := mem_clear.mp hf
    obtain ⟨k,b,hkb⟩ := h.enters j f hf
    refine ⟨k,b,hkb.congr ?_ ?_⟩
    · rw [failPending_surface]
      refine Bool.eq_false_iff.mpr fun hpending => ?_
      obtain ⟨g, -,b',hg⟩ := h.pendingFor_iff.mp hpending
      exact hj (hkb.eq_of_surface hg).1
    · rw [failPending_buffer]
      intro k' hpending hcoded
      obtain ⟨g, -,b',hg⟩ := h.pendingFor_iff.mp hpending
      rw [hg.coded,hg.buffer,Option.some.injEq] at hcoded
      subst hcoded
      exact hj (hkb.eq_of_buffer hg).1
  refine ⟨hleft,?_,?_,?_,?_⟩
  · intro j
    by_cases hj : j = i
    · subst hj
      rw [Ledger.setQueue_self]
      simp only [failPending,update_self]
      exact .nil rfl
    · rw [Ledger.setQueue_of_ne _ _ hj]
      simpa only [failPending,update_of_ne hj] using h.fits j
  · intro k hk
    cases hpending : pendingFor rt i k with
    | true =>
      simp only [failPending,hpending,if_true] at hk
      exact absurd hk.2 (by simp)
    | false =>
      rw [failPending_surface rt i hpending] at hk
      obtain ⟨j,f,hf,b,hkb⟩ := h.frame_of_surface hk
      refine ⟨j,f,mem_clear.mpr ⟨?_,hf⟩,by rw [failPending_getSurface]; exact hkb.surface⟩
      rintro rfl
      rw [h.pendingFor_iff.mpr ⟨f,hf,b,hkb⟩] at hpending
      cases hpending
  · intro b hb
    by_cases hcoded : ∃ k, pendingFor rt i k = true ∧
        getBuffer rt (rt.surfaces k).codedBuffer = some b
    · obtain ⟨k,hpending,hkb⟩ := hcoded
      exact absurd (failPending_pendingSurface rt i hpending hkb) hb.2
    · have hother : ∀ k, pendingFor rt i k = true →
          getBuffer rt (rt.surfaces k).codedBuffer ≠ some b :=
        fun k hpending hkb => hcoded ⟨k,hpending,hkb⟩
      rw [failPending_buffer rt i hother] at hb
      obtain ⟨j,f,hf,k,hkb⟩ := h.frame_of_buffer hb
      refine ⟨j,f,mem_clear.mpr ⟨?_,hf⟩,?_⟩
      · rintro rfl
        exact hother k (h.pendingFor_iff.mpr ⟨f,hf,b,hkb⟩) (hkb.coded ▸ hkb.buffer)
      · rw [getBuffer_congr fun b => (failPending_used rt i b).1]
        exact hkb.buffer
  · intro b hb
    rw [(failPending_used rt i b).1] at hb
    rw [(failPending_used rt i b).2]
    exact h.held b hb
end Books

structure Oldest (rt : Runtime) (among : Fin 64 → Prop) (found : Option (Fin 64)) : Prop where
  of_none : found = none → ∀ k, ¬ among k
  mem : ∀ o, found = some o → among o
  le : ∀ o, found = some o → ∀ k, among k →
    (rt.surfaces o).submitIndex ≤ (rt.surfaces k).submitIndex

theorem Oldest.step {among : Fin 64 → Prop} {found : Option (Fin 64)}
    (h : Oldest rt among found) (k : Fin 64) :
    Oldest rt (fun x => among x ∨ x = k ∧ pendingFor rt i k = true) (olderPending rt i found k) := by
  unfold olderPending
  split
  · rename_i hno
    have hno : pendingFor rt i k ≠ true := by simpa using hno
    refine ⟨fun hnone x hx => ?_,fun o ho => .inl (h.mem o ho),fun o ho x hx => ?_⟩
    · exact h.of_none hnone x (hx.resolve_right fun hk => hno hk.2)
    · exact h.le o ho x (hx.resolve_right fun hk => hno hk.2)
  · rename_i hyes
    have hyes : pendingFor rt i k = true := by simpa using hyes
    split
    · refine ⟨fun hnone => absurd hnone (Option.some_ne_none k),fun o ho => ?_,fun o ho x hx => ?_⟩
      · exact .inr ⟨(Option.some.inj ho).symm,hyes⟩
      · obtain hx | hx := hx
        · exact absurd hx (h.of_none rfl x)
        · rw [hx.1,Option.some.inj ho]
          exact UInt64.le_refl _
    · rename_i m
      split
      · rename_i hlt
        refine ⟨fun hnone => absurd hnone (Option.some_ne_none k),fun o ho => ?_,fun o ho x hx => ?_⟩
        · exact .inr ⟨(Option.some.inj ho).symm,hyes⟩
        · rw [← Option.some.inj ho]
          obtain hx | hx := hx
          · exact UInt64.le_of_lt (UInt64.lt_of_lt_of_le hlt (h.le m rfl x hx))
          · rw [hx.1]
            exact UInt64.le_refl _
      · rename_i hge
        refine ⟨fun hnone => absurd hnone (Option.some_ne_none m),fun o ho => .inl (h.mem o ho),
          fun o ho x hx => ?_⟩
        obtain hx | hx := hx
        · exact h.le o ho x hx
        · rw [← Option.some.inj ho,hx.1]
          exact UInt64.not_lt.mp hge

theorem Oldest.loop {among : Fin 64 → Prop} {found : Option (Fin 64)}
    (h : Oldest rt among found) (slots : List (Fin 64)) :
    Oldest rt (fun x => among x ∨ x ∈ slots ∧ pendingFor rt i x = true)
      (slots.foldl (olderPending rt i) found) := by
  induction slots generalizing among found with
  | nil => simpa using h
  | cons k slots ih =>
    have hrest := ih (h.step (i := i) k)
    have hset : (fun x => (among x ∨ x = k ∧ pendingFor rt i k = true) ∨
        x ∈ slots ∧ pendingFor rt i x = true) =
        fun x => among x ∨ x ∈ k :: slots ∧ pendingFor rt i x = true := by
      funext x
      rw [mem_cons,or_and_right,or_assoc]
      refine propext (or_congr_right (or_congr_left (and_congr_right fun hx => ?_)))
      rw [hx]
    rwa [hset] at hrest

theorem findOldestPendingSurface_oldest (rt : Runtime) (i : Fin 4) :
    Oldest rt (fun k => pendingFor rt i k = true) (findOldestPendingSurface rt i) := by
  have hempty : Oldest rt (fun _ => False) none :=
    ⟨fun _ _ h => h,fun o ho => absurd ho (Option.some_ne_none o).symm,
      fun o ho => absurd ho (Option.some_ne_none o).symm⟩
  have hloop := hempty.loop (i := i) (List.finRange 64)
  simp only [mem_finRange,true_and,false_or] at hloop
  exact hloop

namespace Books
theorem oldest (h : Books rt L) {rest : List Waiting} (hqueue : L.queue i = e :: rest) :
    ∃ k b, findOldestPendingSurface rt i = some k ∧ Enters rt i e k b := by
  have hmem : e ∈ L.queue i := hqueue ▸ mem_cons_self
  obtain ⟨k,b,hkb⟩ := h.enters i e hmem
  have hpending : pendingFor rt i k = true := h.pendingFor_iff.mpr ⟨e,hmem,b,hkb⟩
  have holdest := findOldestPendingSurface_oldest rt i
  cases hfind : findOldestPendingSurface rt i with
  | none => exact absurd hpending (holdest.of_none hfind k)
  | some o =>
    obtain ⟨f,hf,b',hob⟩ := h.pendingFor_iff.mp (holdest.mem o hfind)
    have hle := holdest.le o hfind k hpending
    rw [hob.index,hkb.index] at hle
    -- every other frame of the queue was submitted after the one at its head
    have hfe : f = e := by
      rw [hqueue] at hf
      obtain hf | hf := mem_cons.mp hf
      · exact hf
      · have hsorted := (h.fits i).sorted
        rw [hqueue] at hsorted
        exact absurd hle (UInt64.not_le.mpr ((pairwise_cons.mp hsorted).1 f hf))
    exact ⟨o,b',rfl,hfe ▸ hob⟩

theorem start (policy : Policy) (mode : ModifierMode) (writeExportReady : Bool) :
    Books (Runtime.create policy mode writeExportReady) ⟨fun _ => [],fun _ => []⟩ where
  enters _ _ he := absurd he not_mem_nil
  fits _ := .nil rfl
  waiting _ hk := absurd hk.1 Bool.false_ne_true
  awaited _ hb := absurd hb.1 Bool.false_ne_true
  held _ _ := rfl
end Books
end LinDeX.Encode
