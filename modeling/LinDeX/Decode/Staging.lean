import LinDeX.Decode.Buffers

/-!
# Staging the slices of a picture

Slice parameters give offsets into the data buffer that follows them. The runtime appends the data
buffers of a picture to one block and moves the offsets there.
-/
namespace LinDeX.Decode
open Vaapi Dmabuf Program Function List
variable {ω : Type}
instance (x : Buffer) : Decidable x.WellSized := inferInstanceAs (Decidable (_ ∧ _))

inductive SliceBuffer where
  | parameters (x : Buffer) (wellSized : x.WellSized)
  | data (x : Buffer) (wellSized : x.WellSized)

/-- `render_picture` for a buffer of slices. -/
def renderSlices (env : Env ω) (i : Fin 4) : SliceBuffer → Prog ω (Option Errno)
  | .parameters x _ => appendSliceParameters env i x
  | .data x _ => setSliceData env i x

def Buffer.bytes (x : Buffer) : List UInt8 :=
  x.data.take (x.elementSize.toNat * x.numElements.toNat)

def Buffer.slices (libva : Libva) (codec : DecodeCodec) (x : Buffer) : List SliceParameter :=
  (List.range x.numElements.toNat).map fun j =>
    libva.sliceParameter codec ((x.bytes.drop (j * libva.sliceSize codec)).take
      (libva.sliceSize codec))

structure Submitted where
  bound : List (SliceParameter × List UInt8)
  pending : List SliceParameter

def Submitted.empty : Submitted := ⟨[],[]⟩

def Submitted.add (libva : Libva) (codec : DecodeCodec) (a : Submitted) : SliceBuffer → Submitted
  | .parameters x _ => { a with pending := a.pending ++ x.slices libva codec }
  | .data x _ => ⟨a.bound ++ a.pending.map fun p => (p, x.bytes),[]⟩

def stage (env : Env ω) (i : Fin 4) (s : Machine ω) (x : SliceBuffer) :
    Machine ω × List SliceBuffer :=
  let r := renderSlices env i x s
  (r.2, if r.1 = none then [x] else [])

def slice (data : List UInt8) (offset size : Nat) : List UInt8 := (data.drop offset).take size

/-- The slice `q` designates in `block` what the slice `p` designates in `data`; it is the same slice
apart from the offset, which is a sum without overflow. -/
structure Placed (block : List UInt8) (p : SliceParameter) (data : List UInt8)
    (q : SliceParameter) : Prop where
  same : q = { p with sliceDataOffset := q.sliceDataOffset }
  designated : p.sliceDataOffset.toNat + p.sliceDataSize.toNat ≤ data.length
  inside : q.sliceDataOffset.toNat + q.sliceDataSize.toNat ≤ block.length
  offset : ∃ start, q.sliceDataOffset.toNat = start + p.sliceDataOffset.toNat ∧
    start + data.length ≤ block.length ∧ slice block start data.length = data
  bytes : slice block q.sliceDataOffset.toNat q.sliceDataSize.toNat =
    slice data p.sliceDataOffset.toNat p.sliceDataSize.toNat

def Context.block (c : Context) : List UInt8 := c.sliceData.getD []

structure Staged (c : Context) (a : Submitted) : Prop where
  boundCount : c.sliceDataBoundCount = a.bound.length
  count : c.sliceCount = a.bound.length + a.pending.length
  block : c.block.length = c.sliceDataSize
  limit : c.sliceDataSize ≤ inputLimit
  slices : ∃ placed, c.sliceParameters c.codec = placed ++ a.pending ∧
    List.Forall₂ (fun x q => Placed c.block x.1 x.2 q) a.bound placed

/-- No slice is staged, as after `begin_picture`. -/
structure NothingStaged (c : Context) : Prop where
  boundCount : c.sliceDataBoundCount = 0
  count : c.sliceCount = 0
  data : c.sliceData = none
  size : c.sliceDataSize = 0
  slices : c.sliceParameters c.codec = []

private theorem slice_append {block more : List UInt8} {offset size : Nat}
    (h : offset + size ≤ block.length) : slice (block ++ more) offset size = slice block offset size := by
  rw [slice,slice,drop_append_of_le_length (by omega),
    take_append_of_le_length (by rw [length_drop]; omega)]

private theorem slice_append_add (block data : List UInt8) (offset size : Nat) :
    slice (block ++ data) (block.length + offset) size = slice data offset size := by
  rw [slice,slice,drop_length_add_append]

private theorem slice_whole (data : List UInt8) : slice data 0 data.length = data := take_length

theorem Placed.append {block data : List UInt8} {p q : SliceParameter}
    (h : Placed block p data q) (more : List UInt8) : Placed (block ++ more) p data q := by
  obtain ⟨start,hoffset,hlength,hstart⟩ := h.offset
  have hgrows : block.length ≤ (block ++ more).length := by
    rw [length_append]
    exact Nat.le_add_right _ _
  refine ⟨h.same,h.designated,Nat.le_trans h.inside hgrows,
    ⟨start,hoffset,Nat.le_trans hlength hgrows,?_⟩,?_⟩
  · rw [slice_append hlength,hstart]
  · rw [slice_append h.inside,h.bytes]

private theorem rebaseSliceOffsets_placed {spans rebased : List SliceParameter}
    {block data : List UInt8} {maximum : Nat}
    (h : rebaseSliceOffsets spans block.length data.length maximum = some rebased) :
    List.Forall₂ (fun p q => Placed (block ++ data) p data q) spans rebased := by
  unfold rebaseSliceOffsets at h
  split at h
  · cases h
  rename_i hsizes
  split at h
  · cases h
  rename_i hspans
  cases h
  rw [forall₂_map_right_iff,forall₂_same]
  intro p hp
  have hspan : ¬_ := fun hbad => hspans (any_eq_true.mpr ⟨p,hp,hbad⟩)
  simp only [Bool.or_eq_true,decide_eq_true_eq,not_or,Nat.not_lt] at hspan
  obtain ⟨⟨⟨hoffset, -⟩,hsize⟩,hwrap⟩ := hspan
  have hsum : (UInt32.ofNat (block.length + p.sliceDataOffset.toNat)).toNat =
      block.length + p.sliceDataOffset.toNat := by
    rw [UInt32.toNat_ofNat']
    exact Nat.mod_eq_of_lt (by omega)
  refine ⟨rfl,by omega,?_,⟨block.length,hsum,length_append.ge,?_⟩,?_⟩
  · dsimp only
    rw [hsum,length_append]
    omega
  · have hwhole := slice_append_add block data 0 data.length
    rwa [Nat.add_zero,slice_whole] at hwhole
  · dsimp only
    rw [hsum,slice_append_add]

section
variable (env : Env ω) (i : Fin 4) (x : Buffer) (s : Machine ω)
private theorem appendSliceParameters_ends :
    Ends (appendSliceParameters env i x) (fun r t =>
      (∀ e, r = some e → t.runtime = s.runtime) ∧ (r = none →
        (s.runtime.contexts i).sliceDataBoundCount = (s.runtime.contexts i).sliceCount ∧
        t.runtime.contexts i =
          { s.runtime.contexts i with
            sliceParameters := update (s.runtime.contexts i).sliceParameters
              (s.runtime.contexts i).codec
              ((s.runtime.contexts i).sliceParameters (s.runtime.contexts i).codec ++
                x.slices env.libva (s.runtime.contexts i).codec)
            sliceCount := (s.runtime.contexts i).sliceCount + x.numElements.toNat })) s := by
  refine .read_bind ?_
  dsimp only
  split
  · exact .pure ⟨fun _ _ => rfl,nofun⟩
  rename_i hcheck
  simp only [not_or,ne_eq,not_not] at hcheck
  refine .bind ((io_silent _).ends fun grown t1 h1 => ?_)
  obtain ⟨hruntime, -⟩ := silent_iff.mp h1
  split
  · exact .pure ⟨fun _ _ => hruntime,nofun⟩
  refine .bind (.bind (.update (.pure ?_)))
  refine .bind (.update (.pure ⟨nofun,fun _ => ⟨hcheck.1,?_⟩⟩))
  simp only [update_self,hruntime,Buffer.slices,Buffer.bytes,hcheck.2.1,
    Nat.mul_comm (env.libva.sliceSize _)]

private theorem setSliceData_ends (hx : x.WellSized) :
    Ends (setSliceData env i x) (fun r t =>
      (∀ e, r = some e → t.runtime = s.runtime) ∧
      (r = none → ∃ rebased, (s.runtime.contexts i).sliceDataSize + x.bytes.length ≤ inputLimit ∧
      rebaseSliceOffsets (((s.runtime.contexts i).sliceParameters
        (s.runtime.contexts i).codec).drop (s.runtime.contexts i).sliceDataBoundCount)
        (s.runtime.contexts i).sliceDataSize x.bytes.length inputLimit = some rebased ∧
      t.runtime.contexts i =
        { s.runtime.contexts i with
          sliceData := some ((s.runtime.contexts i).block ++ x.bytes)
          sliceParameters := update (s.runtime.contexts i).sliceParameters
            (s.runtime.contexts i).codec
            (((s.runtime.contexts i).sliceParameters (s.runtime.contexts i).codec).take
              (s.runtime.contexts i).sliceDataBoundCount ++ rebased)
          sliceDataSize := (s.runtime.contexts i).sliceDataSize + x.bytes.length
          sliceDataBoundCount := (s.runtime.contexts i).sliceCount })) s := by
  have hlength : x.bytes.length = x.elementSize.toNat * x.numElements.toNat := by
    have hnumber : x.numElements.toNat ≤ x.capacityElements.toNat := hx.2
    rw [Buffer.bytes,length_take,hx.1]
    exact Nat.min_eq_left (Nat.mul_le_mul_left _ hnumber)
  rw [hlength]
  refine .read_bind ?_
  dsimp only
  split
  · exact .pure ⟨fun _ _ => rfl,nofun⟩
  rename_i hcheck
  refine .bind ((io_silent _).ends fun spans t1 h1 => ?_)
  iterate 2
    split
    · exact .pure ⟨fun _ _ => (silent_iff.mp h1).1,nofun⟩
  rename_i rebased hrebased
  refine .bind ((io_silent _).ends fun grown t2 h2 => ?_)
  obtain ⟨hruntime, -⟩ := silent_iff.mp (silent.trans h1 h2)
  split
  · exact .pure ⟨fun _ _ => hruntime,nofun⟩
  refine .bind (.bind (.update (.pure ?_)))
  refine .bind (.update (.pure ⟨nofun,fun _ => ⟨rebased,by omega,hrebased,?_⟩⟩))
  simp only [update_self,hruntime,Buffer.bytes,Context.block]
end

private theorem renderSlices_refused (env : Env ω) (i : Fin 4) (x : SliceBuffer) (s : Machine ω)
    {e : Errno}
    (h : (renderSlices env i x s).1 = some e) :
    (renderSlices env i x s).2.runtime = s.runtime := by
  cases x with
  | parameters x => exact (appendSliceParameters_ends env i x s).1 e h
  | data x hx => exact (setSliceData_ends env i x s hx).1 e h

theorem Buffer.slices_length (libva : Libva) (codec : DecodeCodec) (x : Buffer) :
    (x.slices libva codec).length = x.numElements.toNat := by
  rw [Buffer.slices,length_map,length_range]

private theorem renderSlices_staged {env : Env ω} {i : Fin 4} {x : SliceBuffer} {s : Machine ω}
    {a : Submitted} (h : Staged (s.runtime.contexts i) a)
    (haccepted : (renderSlices env i x s).1 = none) :
    Staged ((renderSlices env i x s).2.runtime.contexts i)
      (a.add env.libva (s.runtime.contexts i).codec x) ∧
      ((renderSlices env i x s).2.runtime.contexts i).codec = (s.runtime.contexts i).codec := by
  obtain ⟨placed,hslices,hplaced⟩ := h.slices
  have hlength := hplaced.length_eq
  cases x with
  | parameters x hx =>
    obtain ⟨-,hends⟩ := appendSliceParameters_ends env i x s
    obtain ⟨hbound,hcontext⟩ := hends haccepted
    change (renderSlices env i (.parameters x hx) s).2.runtime.contexts i = _ at hcontext
    rw [hcontext]
    refine ⟨⟨h.boundCount,?_,h.block,h.limit,placed,?_,hplaced⟩,rfl⟩
    · dsimp only [Submitted.add]
      rw [length_append,Buffer.slices_length,h.count,Nat.add_assoc]
    · dsimp only [Submitted.add]
      rw [update_self,hslices,append_assoc]
  | data x hx =>
    obtain ⟨-,hends⟩ := setSliceData_ends env i x s hx
    obtain ⟨rebased,hlimit,hrebased,hcontext⟩ := hends haccepted
    change (renderSlices env i (.data x hx) s).2.runtime.contexts i = _ at hcontext
    rw [hcontext]
    have htake : (placed ++ a.pending).take a.bound.length = placed := take_left' hlength.symm
    have hdrop : (placed ++ a.pending).drop a.bound.length = a.pending :=
      drop_left' hlength.symm
    rw [hslices,h.boundCount,hdrop,← h.block] at hrebased
    have hnew := rebaseSliceOffsets_placed hrebased
    refine ⟨⟨?_,?_,?_,hlimit,placed ++ rebased,?_,?_⟩,rfl⟩
    · dsimp only [Submitted.add]
      rw [length_append,length_map,h.count]
    · dsimp only [Submitted.add]
      rw [length_append,length_map,h.count,length_nil,Nat.add_zero]
    · change ((s.runtime.contexts i).block ++ x.bytes).length = _
      rw [length_append,h.block]
    · dsimp only [Submitted.add]
      rw [update_self,hslices,h.boundCount,htake,append_nil]
    · apply rel_append
      · exact hplaced.imp fun _ _ hp => hp.append x.bytes
      · rw [forall₂_map_left_iff]
        exact hnew

section
variable (env : Env ω) (i : Fin 4)
private theorem stage_staged {s : Machine ω} {a : Submitted} (h : Staged (s.runtime.contexts i) a)
    (x : SliceBuffer) :
    Staged ((stage env i s x).1.runtime.contexts i)
      ((stage env i s x).2.foldl (Submitted.add env.libva (s.runtime.contexts i).codec) a) ∧
      ((stage env i s x).1.runtime.contexts i).codec = (s.runtime.contexts i).codec := by
  cases hresult : (renderSlices env i x s).1 with
  | none =>
    have hlog : (stage env i s x).2 = [x] := if_pos hresult
    rw [hlog]
    exact renderSlices_staged h hresult
  | some e =>
    have hlog : (stage env i s x).2 = [] := if_neg (by rw [hresult]; nofun)
    have hsame : (stage env i s x).1.runtime = s.runtime := renderSlices_refused env i x s hresult
    rw [hlog,hsame]
    exact ⟨h,rfl⟩

private theorem run_staged {s : Machine ω} {a : Submitted} (h : Staged (s.runtime.contexts i) a)
    (buffers : List SliceBuffer) :
    Staged ((Run.run (stage env i) s buffers).1.runtime.contexts i)
      ((Run.run (stage env i) s buffers).2.foldl
        (Submitted.add env.libva (s.runtime.contexts i).codec) a) := by
  induction buffers generalizing s a with
  | nil => exact h
  | cons x buffers ih =>
    obtain ⟨hstaged,hcodec⟩ := stage_staged env i h x
    rw [Run.run_cons,List.foldl_append,← hcodec]
    rw [← hcodec] at hstaged
    exact ih hstaged

private theorem renderSlices_buffers (x : SliceBuffer) :
    Keeps (.same fun s : Machine ω => s.runtime.buffers) (renderSlices env i x) := by
  have hio {α : Type} (f : ω → ω × α) :
      Keeps (.same fun s : Machine ω => s.runtime.buffers) (io f) := fun _ => rfl
  have hcopy (x : Buffer) (size : Nat) :
      Keeps (.same fun s : Machine ω => s.runtime.buffers) (copyFrom x size) := fun _ => rfl
  have hmodify (f : Context → Context) :
      Keeps (.same fun s : Machine ω => s.runtime.buffers) (modifyContext i f) := fun _ => rfl
  cases x with
  | parameters x =>
    refine .read_bind fun c => .ite (.pure _) (.bind (hio _) fun grown => .ite (.pure _) ?_)
    exact .bind (hcopy x _) fun bytes => .bind (hmodify _) fun _ => .pure _
  | data x =>
    refine .read_bind fun c => .ite (.pure _) (.bind (hio _) fun spans => .ite (.pure _) ?_)
    split
    · exact .pure _
    · refine .bind (hio _) fun grown => .ite (.pure _) ?_
      exact .bind (hcopy x _) fun bytes => .bind (hmodify _) fun _ => .pure _

/-- The buffer that `render_picture` takes for the identifier. -/
def Names (rt : Runtime) (contextId id : UInt32) (x : SliceBuffer) : Prop :=
  ∃ b, getBuffer rt id = some b ∧ (rt.buffers b).contextId = contextId ∧
    (rt.buffers b).mapped = false ∧
    match x with
    | .parameters y _ => y = rt.buffers b ∧ y.type = .sliceParameter
    | .data y _ => y = rt.buffers b ∧ y.type = .sliceData

theorem Names.of_buffers {rt rt' : Runtime} {contextId : UInt32}
    (h : rt'.buffers = rt.buffers) : Names rt' contextId = Names rt contextId := by
  funext id x
  unfold Names getBuffer
  rw [h]

private theorem renderBuffer_stage {contextId id : UInt32} {x : SliceBuffer} {s : Machine ω}
    (h : Names s.runtime contextId id x) :
    (renderBuffer env i contextId id s).2 = (stage env i s x).1 := by
  obtain ⟨b,hb,hcontext,hmapped,hx⟩ := h
  have hends : Ends (renderBuffer env i contextId id)
      (fun _ t => t = (renderSlices env i x s).2) s := by
    refine .read_bind ?_
    rw [hb]
    dsimp only
    rw [if_neg (not_not.mpr hcontext),hmapped,if_neg Bool.false_ne_true]
    cases x with
    | parameters y =>
      obtain ⟨rfl,htype⟩ := hx
      rw [htype]
      exact .bind rfl
    | data y =>
      obtain ⟨rfl,htype⟩ := hx
      rw [htype]
      exact .bind rfl
  exact hends

/-- The loop of `render_picture` stages the buffers up to the first one that it fails at. -/
private theorem renderBuffers_stage {contextId : UInt32} {ids : List UInt32}
    {buffers : List SliceBuffer}
    {s : Machine ω} (h : List.Forall₂ (Names s.runtime contextId) ids buffers) :
    ∃ count, Ends (renderBuffers env i contextId ids) (fun status t =>
      t = (Run.run (stage env i) s (buffers.take count)).1 ∧
        (status = .success → buffers.length ≤ count)) s := by
  induction ids generalizing s buffers with
  | nil =>
    cases h
    exact ⟨0,rfl,fun _ => Nat.le_refl 0⟩
  | cons id ids ih =>
    cases h with
    | @cons _ x _ buffers hfirst hrest =>
      have hstep : Ends (renderBuffer env i contextId id) (fun status t =>
          status = (renderBuffer env i contextId id s).1 ∧ t = (stage env i s x).1) s :=
        ⟨rfl,renderBuffer_stage env i hfirst⟩
      rw [← Names.of_buffers (renderSlices_buffers env i x s)] at hrest
      obtain ⟨count,hcount⟩ := ih hrest
      by_cases hok : (renderBuffer env i contextId id s).1 = .success
      · refine ⟨count + 1,.bind (hstep.mono fun status t hst => ?_)⟩
        rw [hst.1,hst.2,if_neg (not_not.mpr hok)]
        exact .mono hcount fun _ _ h => ⟨h.1,fun hdone => Nat.succ_le_succ (h.2 hdone)⟩
      · refine ⟨1,.bind (hstep.mono fun status t hst => ?_)⟩
        rw [hst.1,hst.2,if_pos hok]
        exact .pure ⟨rfl,fun hdone => absurd hdone hok⟩

/-- Whatever buffers of slices are rendered into a picture, the context holds those it accepted: the
slices with data designate the bytes that they designated in the data buffer of their own, all
slices stand in the order of submission, and a buffer that is refused changes nothing. What
`render_picture` does with a list of such buffers is to render a front of it, and all if it
succeeds. -/
theorem slices_staged (s : Machine ω) (hstart : NothingStaged (s.runtime.contexts i))
    (buffers : List SliceBuffer) :
    let r := Run.run (stage env i) s buffers
    let c := r.1.runtime.contexts i
    Staged c (r.2.foldl (Submitted.add env.libva (s.runtime.contexts i).codec) Submitted.empty) ∧
      c.sliceDataBoundCount ≤ c.sliceCount ∧
      (∀ x e, (renderSlices env i x r.1).1 = some e →
        (renderSlices env i x r.1).2.runtime = r.1.runtime) ∧
      ∀ contextId ids, getContext s.runtime contextId = some i →
        (s.runtime.contexts i).pictureActive = true →
        List.Forall₂ (Names s.runtime contextId) ids buffers →
        ∃ count, Ends (renderPicture env contextId ids) (fun status t =>
          t = (Run.run (stage env i) s (buffers.take count)).1 ∧
            (status = .success → buffers.length ≤ count)) s := by
  have hempty : Staged (s.runtime.contexts i) Submitted.empty := by
    refine ⟨hstart.boundCount,hstart.count,?_,?_,[],hstart.slices,.nil⟩
    · rw [Context.block,hstart.data,hstart.size]
      rfl
    · rw [hstart.size]
      exact Nat.zero_le _
  have hstaged := run_staged env i hempty buffers
  refine ⟨hstaged,?_,fun x e hrefused => renderSlices_refused env i x _ hrefused,
    fun contextId ids hcontext hactive hnames => ?_⟩
  · rw [hstaged.boundCount,hstaged.count]
    exact Nat.le_add_right _ _
  · obtain ⟨count,hcount⟩ := renderBuffers_stage env i hnames
    refine ⟨count,.read_bind ?_⟩
    rw [hcontext]
    dsimp only
    rw [hactive,if_neg (by decide)]
    exact hcount
end

def oneSlice : Buffer :=
  { used := true, contextId := makeId typeContext 0, type := .sliceParameter, elementSize := 3128
    capacityElements := 1, numElements := 1, mapped := false
    data := [2,0,0,0,1,0,0,0] ++ List.replicate 3120 0 }

def threeBytes : Buffer :=
  { used := true, contextId := makeId typeContext 0, type := .sliceData, elementSize := 1
    capacityElements := 3, numElements := 3, data := [7,8,9], mapped := false }

def twoSlices : List SliceBuffer :=
  [.parameters oneSlice (by decide +kernel),.data threeBytes (by decide +kernel),
    .parameters oneSlice (by decide +kernel),.data threeBytes (by decide +kernel)]

theorem slices_staged_twoSlices : (Run.run (stage mockEnv 0) mockMachine twoSlices).2.length = 4 ∧
    Staged ((Run.run (stage mockEnv 0) mockMachine twoSlices).1.runtime.contexts 0)
      ((Run.run (stage mockEnv 0) mockMachine twoSlices).2.foldl
        (Submitted.add mockLibva .h264) Submitted.empty) :=
  ⟨by decide +kernel,(slices_staged mockEnv 0 mockMachine ⟨rfl,rfl,rfl,rfl,rfl⟩ twoSlices).1⟩
end LinDeX.Decode
