import LinDeX.Decode.Calls
import LinDeX.Decode.Mock

/-!
# Copies out of application buffers

`render_picture` copies whole structures out of buffers whose size was checked against the codec
of the context they were created for. A buffer outlives its context, and ids of contexts are
reused.
-/
namespace LinDeX.Decode
open Vaapi Dmabuf Program
variable {ω : Type} {s t : Machine ω}
def Buffer.Fits (libva : Libva) (codec : DecodeCodec) (x : Buffer) : Prop :=
  (x.type = .pictureParameter → libva.pictureSize codec ≤ x.data.length) ∧
    (x.type = .iqMatrix → codec ≠ .vp9 → libva.iqSize codec ≤ x.data.length)

def Buffer.WellSized (x : Buffer) : Prop :=
  x.data.length = x.elementSize.toNat * x.capacityElements.toNat ∧
    x.numElements ≤ x.capacityElements

structure BuffersSafe (libva : Libva) (rt : Runtime) : Prop where
  wellSized : ∀ b, (rt.buffers b).used → (rt.buffers b).WellSized
  fits : ∀ b i, (rt.buffers b).used → idIndex 4 typeContext (rt.buffers b).contextId = some i →
    (rt.contexts i).used → (rt.buffers b).Fits libva (rt.contexts i).codec

def Event.ReadsInside : Event → Prop
  | .copied _ size block => size ≤ block
  | .nullDereference => True

/-- A call that opens a context finds no buffer under its id that is too small for the codec of the
configuration. -/
def OpensCleanly (env : Env ω) (s : Machine ω) (call : Call) : Prop :=
  match call with
  | .createContext configId _ _ _ =>
    ∀ i g, Fin.find? (fun i => !(s.runtime.contexts i).used) = some i →
      getConfig s.runtime configId = some g →
      ((step env s call).1.runtime.contexts i).used →
      ∀ b, (s.runtime.buffers b).used →
        idIndex 4 typeContext (s.runtime.buffers b).contextId = some i →
        (s.runtime.buffers b).Fits env.libva (codecForProfile (s.runtime.configs g).profile)
  | _ => True

instance (libva : Libva) (codec : DecodeCodec) (x : Buffer) : Decidable (x.Fits libva codec) :=
  inferInstanceAs (Decidable (_ ∧ _))
instance (env : Env ω) (s : Machine ω) (call : Call) : Decidable (OpensCleanly env s call) := by
  unfold OpensCleanly
  split <;> infer_instance
variable {codec : DecodeCodec} {x : Buffer}
theorem fits_of_shape {libva : Libva}
    (hshape : bufferShapeSupported libva codec x.type x.elementSize x.capacityElements)
    (hlength : x.data.length = x.elementSize.toNat * x.capacityElements.toNat) :
    x.Fits libva codec := by
  refine ⟨fun htype => ?_,fun htype _ => ?_⟩
  · simp only [htype,bufferShapeSupported,Bool.and_eq_true,beq_iff_eq] at hshape
    rw [hlength,hshape.1,hshape.2]
    simp
  · simp only [htype,bufferShapeSupported,Bool.and_eq_true,beq_iff_eq] at hshape
    rw [hlength,hshape.1.2,hshape.2]
    simp

theorem Buffer.Fits.congr {libva : Libva} {x y : Buffer}
    (h : x.Fits libva codec) (htype : y.type = x.type)
    (hlength : y.data.length = x.data.length) : y.Fits libva codec := by
  unfold Buffer.Fits at h ⊢
  rw [htype,hlength]
  exact h

theorem Copy.readsInside {libva : Libva} {e : Event}
    (h : Copy libva codec x e) (hsize : x.WellSized) (hfits : x.Fits libva codec) :
    e.ReadsInside := by
  obtain ⟨hlength,hnumber⟩ := hsize
  have hnumber : x.numElements.toNat ≤ x.capacityElements.toNat := hnumber
  cases h with
  | picture htype => exact hfits.1 htype
  | iqMatrix htype hcodec => exact hfits.2 htype hcodec
  | sliceParameter _ helement =>
    rw [hlength,helement,Nat.mul_comm]
    exact Nat.mul_le_mul_left _ hnumber
  | sliceData =>
    rw [hlength]
    exact Nat.mul_le_mul_left _ hnumber

section
variable {libva : Libva}
variable {rt : Runtime}
theorem getContext_index {id : UInt32} {i : Fin 4} (h : getContext rt id = some i) :
    idIndex 4 typeContext id = some i ∧ (rt.contexts i).used := by
  obtain ⟨hindex,hused⟩ := Option.filter_eq_some_iff.mp h
  exact ⟨hindex,by simpa using hused⟩

theorem BuffersSafe.of_buffers {rt rt' : Runtime} (h : BuffersSafe libva rt)
    (hbuffers : rt'.buffers = rt.buffers) (hcontexts : ∀ b i, (rt'.buffers b).used →
      idIndex 4 typeContext (rt'.buffers b).contextId = some i → (rt'.contexts i).used →
      ((rt.contexts i).used ∧ (rt'.contexts i).codec = (rt.contexts i).codec) ∨
      (rt'.buffers b).Fits libva (rt'.contexts i).codec) :
    BuffersSafe libva rt' := by
  refine ⟨fun b hb => ?_,fun b i hb hi hused => ?_⟩
  · rw [hbuffers] at hb ⊢
    exact h.wellSized b hb
  · rcases hcontexts b i hb hi hused with ⟨hused',hcodec⟩ | hfits
    · rw [hbuffers] at hb hi ⊢
      rw [hcodec]
      exact h.fits b i hb hi hused'
    · exact hfits

theorem identity_eq {c c' : Context} (h : c'.identity = c.identity) :
    c'.used = c.used ∧ c'.codec = c.codec ∧ c'.brokerSession = c.brokerSession := by
  simpa only [Context.identity,Prod.mk.injEq] using h

theorem BuffersSafe.of_identity {rt rt' : Runtime} (h : BuffersSafe libva rt)
    (hbuffers : rt'.buffers = rt.buffers)
    (hidentity : ∀ i, (rt'.contexts i).identity = (rt.contexts i).identity) :
    BuffersSafe libva rt' := by
  refine h.of_buffers hbuffers fun b i _ _ hused => .inl ?_
  obtain ⟨hsame,hcodec,_⟩ := identity_eq (hidentity i)
  exact ⟨hsame ▸ hused,hcodec⟩

theorem BufferStep.safe {b : Fin 256} {y : Buffer} (h : BuffersSafe libva rt)
    (hstep : BufferStep libva rt (rt.buffers b) y) (hused : y.used) :
    y.WellSized ∧ ∀ i, idIndex 4 typeContext y.contextId = some i → (rt.contexts i).used →
      y.Fits libva (rt.contexts i).codec := by
  cases hstep with
  | cleared hcleared => rw [hcleared] at hused; cases hused
  | created i hi hshape hlength hnumber =>
    refine ⟨⟨hlength,hnumber ▸ UInt32.le_refl _⟩,fun j hj _ => ?_⟩
    have hij : i = j := Option.some.inj ((getContext_index hi).1.symm.trans hj)
    exact hij ▸ fits_of_shape hshape hlength
  | changed hbefore htype hcontext helement hcapacity hlength hnumber =>
    obtain ⟨hsize,hle⟩ := h.wellSized b hbefore
    refine ⟨⟨by rw [hlength,helement,hcapacity]; exact hsize,?_⟩,fun i hi hc => ?_⟩
    · rcases hnumber with hnumber | hnumber
      · rw [hnumber,hcapacity]
        exact hle
      · exact hnumber
    · rw [hcontext] at hi
      exact (h.fits b i hbefore hi hc).congr htype hlength

theorem CallStep.safe {call : Call} (hstep : CallStep libva call s t)
    (h : BuffersSafe libva s.runtime)
    (hopen : ∀ configId width height targets, call = .createContext configId width height targets →
      ∀ i g, Fin.find? (fun i => !(s.runtime.contexts i).used) = some i →
      getConfig s.runtime configId = some g → (t.runtime.contexts i).used →
      ∀ b, (s.runtime.buffers b).used →
        idIndex 4 typeContext (s.runtime.buffers b).contextId = some i →
        (s.runtime.buffers b).Fits libva (codecForProfile (s.runtime.configs g).profile)) :
    BuffersSafe libva t.runtime := by
  cases hstep with
  | works _ hwork => exact h.of_identity hwork.buffers hwork.identity
  | renders _ _ _ hrendered => exact h.of_identity hrendered.buffers hrendered.identity
  | opens i hopened configId width height targets hcall hconfigured =>
    refine h.of_buffers hopened.buffers fun b j hb hj hused => ?_
    by_cases hji : j = i
    · subst hji
      obtain ⟨g,hg,hcodec⟩ := hconfigured.codec hused
      rw [hcodec]
      rw [hopened.buffers] at hb hj ⊢
      exact .inr (hopen _ _ _ _ hcall j g hconfigured.first hg hused b hb hj)
    · rw [hopened.contexts j hji] at hused ⊢
      exact .inl ⟨hused,rfl⟩
  | closes i _ _ hclosed =>
    refine h.of_buffers hclosed.buffers fun b j hb hj hused => .inl ?_
    have hji : j ≠ i := by
      rintro rfl
      rw [hclosed.closed] at hused
      cases hused
    rw [hclosed.contexts j hji] at hused ⊢
    exact ⟨hused,rfl⟩
  | rebuffers b hrebuffered =>
    obtain ⟨⟨y,hruntime,hbuffer⟩,_⟩ := hrebuffered
    have hself : t.runtime.buffers b = y := by rw [hruntime]; exact Function.update_self ..
    have hother (b' : Fin 256) (hb : b' ≠ b) :
        t.runtime.buffers b' = s.runtime.buffers b' := by
      rw [hruntime]
      exact Function.update_of_ne hb ..
    have hcontexts : t.runtime.contexts = s.runtime.contexts := by rw [hruntime]; rfl
    refine ⟨fun b' hused => ?_,fun b' i hused hi hc => ?_⟩
    · by_cases hb : b' = b
      · subst hb
        rw [hself] at hused ⊢
        exact (hbuffer.safe h hused).1
      · rw [hother b' hb] at hused ⊢
        exact h.wellSized b' hused
    · rw [hcontexts] at hc ⊢
      by_cases hb : b' = b
      · subst hb
        rw [hself] at hused hi ⊢
        exact (hbuffer.safe h hused).2 i hi hc
      · rw [hother b' hb] at hused hi ⊢
        exact h.fits b' i hused hi hc

theorem CallStep.readsInside {call : Call} (hstep : CallStep libva call s t)
    (h : BuffersSafe libva s.runtime)
    (hempty : s.events = []) : ∀ e ∈ t.events, e.ReadsInside := by
  have hnone (hevents : t.events = s.events) : ∀ e ∈ t.events, e.ReadsInside := by
    rw [hevents,hempty]
    exact nofun
  cases hstep with
  | works _ hwork =>
    intro e he
    rcases hwork.events e he with he | rfl
    · rw [hempty] at he
      cases he
    · trivial
  | opens _ hopened => exact hnone hopened.events
  | closes _ _ _ hclosed => exact hnone hclosed.events
  | rebuffers _ hrebuffered => exact hnone hrebuffered.2
  | renders i _ hi hrendered =>
    intro e he
    rcases hrendered.events e he with he | ⟨b,hused,hcontext,hcopy⟩
    · rw [hempty] at he
      cases he
    · obtain ⟨hindex,hlive⟩ := getContext_index hi
      exact hcopy.readsInside (h.wellSized b hused)
        (h.fits b i hused (hcontext ▸ hindex) hlive)
end

theorem Machine.create_safe {env : Env ω} {policy : Policy} {w : ω} {s₀ : Machine ω}
    (h : Machine.create env policy w = some s₀) : BuffersSafe env.libva s₀.runtime := by
  obtain ⟨p,_,rfl⟩ := Option.map_eq_some_iff.mp h
  exact ⟨fun _ hused => (nomatch hused),fun _ _ hused => (nomatch hused)⟩

/-- In a run that opens contexts cleanly, no copy reads past the end of a buffer. -/
theorem runCalls_copies_inside (env : Env ω) (policy : Policy) (w : ω) (s₀ : Machine ω)
    (hcreate : Machine.create env policy w = some s₀) (calls : List Call)
    (hclean : Run.RunAllowed (step env) (OpensCleanly env) s₀ calls) (type : VaBufferType)
    (size block : Nat) (hcopied : Event.copied type size block ∈ (runCalls env s₀ calls).2) :
    size ≤ block := by
  refine Run.run_forall_mem (fun s => BuffersSafe env.libva s.runtime) Event.ReadsInside
    (fun s call hs hallowed => ?_) (fun s call hs => ?_) s₀ calls (Machine.create_safe hcreate)
    hclean _ hcopied
  · refine (step_callStep env s).safe hs ?_
    rintro configId width height targets rfl
    exact hallowed
  · exact (step_callStep env s).readsInside hs rfl

def renderCalls : List Call :=
  [.createConfig .h264Main .vld [],.createContext (makeId typeConfig 0) 1920 1080 [],
    .createBuffer (makeId typeContext 0) .pictureParameter 672 1 none,
    .createSurfaces rtFormatYuv420 1920 1080 1 [],
    .beginPicture (makeId typeContext 0) (makeId typeSurface 0) 1,
    .renderPicture (makeId typeContext 0) [makeId typeBuffer 0]]

theorem runCalls_copies_inside_renderCalls :
    Event.copied .pictureParameter 672 672 ∈ (runCalls mockEnv mockMachine renderCalls).2 ∧
    672 ≤ 672 :=
  have hcopied : Event.copied .pictureParameter 672 672 ∈
      (runCalls mockEnv mockMachine renderCalls).2 := by decide +kernel
  ⟨hcopied,runCalls_copies_inside mockEnv mockPolicy ⟨[]⟩ mockMachine rfl renderCalls
    (by decide +kernel) _ _ _ hcopied⟩

/-- An application that keeps the picture parameters of a VP9 context, closes it, and renders them
into the H.264 context that takes its slot. -/
def staleCalls : List Call :=
  [.createConfig .vp9Profile0 .vld [],.createConfig .h264Main .vld [],
    .createContext (makeId typeConfig 0) 1920 1080 [],
    .createBuffer (makeId typeContext 0) .pictureParameter 92 1 none,
    .destroyContext (makeId typeContext 0),
    .createContext (makeId typeConfig 1) 1920 1080 [],
    .createSurfaces rtFormatYuv420 1920 1080 1 [],
    .beginPicture (makeId typeContext 0) (makeId typeSurface 0) 1,
    .renderPicture (makeId typeContext 0) [makeId typeBuffer 0]]

/-- 672 bytes are copied out of a buffer of 92. -/
theorem runCalls_staleCalls_overread :
    Machine.create mockEnv mockPolicy ⟨[]⟩ = some mockMachine ∧
    Event.copied .pictureParameter 672 92 ∈ (runCalls mockEnv mockMachine staleCalls).2 :=
  ⟨rfl,by decide +kernel⟩
end LinDeX.Decode
