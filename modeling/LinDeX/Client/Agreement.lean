import LinDeX.Client.Delivery
import LinDeX.Client.Replies
import LinDeX.SessionEngine.Mock
import LinDeX.SessionEngine.Sessions
import LinDeX.System.FileTable

/-!
# What the engine answers and what the client makes of it

The replies of `handle_dequeue`, `handle_complete_dmabuf` and `handle_transfer_prime` go to the
client, which lays out the records on its own; what one side writes, the other reads.
-/
namespace LinDeX.Client
open Bytes Dmabuf SessionEngine List Transport
variable {ω ω' : Type}
section
variable {os : Os ω} (k : os.Files)
theorem writeAllAt_file {fd : Fd} {f : File} (fuel : Nat) {w w' : ω} {data : List UInt8}
    {done : Nat} (hfile : k.file w fd = some f) (hroom : done + data.length ≤ f.content.length)
    (h : writeAllAt os fd fuel w data done = (w', true)) :
    k.file w' fd = some { f with content := Buffer.Write.apply f.content ⟨done,data⟩ } := by
  induction fuel generalizing w f data done with
  | zero =>
    cases data with
    | nil =>
      cases h
      simpa [Buffer.Write.apply] using hfile
    | cons byte data => cases h
  | succ fuel ih =>
    cases data with
    | nil =>
      cases h
      simpa [Buffer.Write.apply] using hfile
    | cons byte data =>
      obtain ⟨hle,hwritten⟩ := k.pwrite (byte :: data) done hfile
      have hwritten := hwritten hroom
      unfold writeAllAt at h
      dsimp only at h
      split at h
      · cases h
      generalize (os.pwrite w fd (byte :: data) done).2 = n at hle hwritten h
      have hlength : ((byte :: data).take n).length = n := length_take_of_le hle
      have hfirst : done + ((byte :: data).take n).length ≤ f.content.length := by omega
      have hstored := ih hwritten (by
        rw [Buffer.Write.length_apply hfirst,length_drop]
        omega) h
      have hsecond : Buffer.Fills [⟨done + n,(byte :: data).drop n⟩]
          (done + ((byte :: data).take n).length) ((byte :: data).drop n) := by
        rw [hlength]
        exact .single _ _
      have hfills := (Buffer.Fills.single done ((byte :: data).take n)).append hsecond
      have hstore := hfills.store f.content (by rwa [take_append_drop])
      rw [take_append_drop] at hstore
      rw [hstored,← hstore]
      rfl

def sealedFile (data : List UInt8) (size : Nat) : File :=
  ⟨Buffer.Write.apply (zeros size) ⟨0,data.take size⟩,outputSeals⟩

theorem sealedFile_length (data : List UInt8) (size : Nat) :
    (sealedFile data size).content.length = size := by
  have hlength : (zeros size).length = size := length_replicate
  have hfits : 0 + (data.take size).length ≤ (zeros size).length := by
    rw [hlength,length_take]
    omega
  exact (Buffer.Write.length_apply (w := ⟨0,data.take size⟩) hfits).trans hlength

theorem sealedFile_sealed (data : List UInt8) (size : Nat) : (sealedFile data size).Sealed :=
  (by decide : outputSeals &&& contentSeals = contentSeals)

theorem fillSealedOutput_file {w : ω} {data : List UInt8} {size : Nat} {fd : Fd}
    (hnew : k.file w fd = some ⟨[],0⟩) (h : (fillSealedOutput os w fd data size).2 = true) :
    k.file (fillSealedOutput os w fd data size).1 fd = some (sealedFile data size) := by
  revert h
  unfold fillSealedOutput
  generalize htruncate : os.ftruncate w fd size = truncate
  obtain ⟨w1,ok⟩ := truncate
  cases ok with
  | false => exact nofun
  | true =>
  have hsized := k.ftruncate size hnew htruncate
  simp only [if_true]
  generalize hwrite : writeAllAt os fd size w1 (data.take size) 0 = write
  obtain ⟨w2,ok⟩ := write
  cases ok with
  | false => exact nofun
  | true =>
  have hwritten := writeAllAt_file k size hsized (by simp [zeros]) hwrite
  simp only [if_true]
  intro hsealed
  rw [k.addSeals hwritten (Prod.ext rfl hsealed)]
  simp [sealedFile,outputSeals]

theorem createSealedOutput_file {w w' : ω} {data : List UInt8} {size fd : Nat}
    {events : List FdEvent} (h : createSealedOutput os w data size = (w', some fd, events)) :
    k.file w' fd = some (sealedFile data size) := by
  unfold createSealedOutput at h
  split at h
  · cases h
  rename_i w1 fd' hcreate
  dsimp only at h
  split at h
  swap
  · cases h
  rename_i hfilled
  simp only [Prod.mk.injEq,Option.some.injEq] at h
  obtain ⟨rfl,rfl, -⟩ := h
  exact fillSealedOutput_file k (k.memfdCreate hcreate) hfilled
end

section
variable (id : UInt64) (o : BackendOutput)
def outputWord : Nat → UInt32
  | 0 => id.toUInt32
  | 1 => (id >>> 32).toUInt32
  | 2 => o.ptsNs.toUInt32
  | 3 => (o.ptsNs >>> 32).toUInt32
  | 4 => (UInt64.ofNat o.size).toUInt32
  | 5 => (UInt64.ofNat o.size >>> 32).toUInt32
  | 6 => o.flags
  | 7 => o.transport
  | 8 => o.width
  | 9 => o.height
  | 10 => o.androidFormat
  | 14 => o.layers
  | 15 => o.stride
  | 16 => o.usage.toUInt32
  | 17 => (o.usage >>> 32).toUInt32
  | 27 => if 0 ≤ o.acquireFenceFd then FdRole.acquireFence else FdRole.none
  | 28 => o.sliceHeight
  | 29 => o.cropLeft
  | 30 => o.cropTop
  | 31 => o.cropRight
  | 32 => o.cropBottom
  | _ => 0

def outputOrder : List Nat :=
  [0,1,2,3,4,5,6,7,8,9,10,15,14,16,17,27,28,29,30,31,32]

theorem outputPayload_eq :
    outputPayload id o = putWords (zeros 136) (outputOrder.map fun i => (i, outputWord id o i)) := by
  simp [outputPayload,putWords,putU64,outputOrder,outputWord]

theorem outputPayload_length : (outputPayload id o).length = 136 := by
  rw [outputPayload_eq,putWords_length,zeros,length_replicate]

theorem word_outputPayload {i : Nat} (hi : i < 34) :
    word (outputPayload id o) i = outputWord id o i := by
  rw [outputPayload_eq]
  refine word_putWords_zeros (outputWord id o) (by decide) fun hmem => ?_
  have hrest : ∀ i < 34, i ∉ outputOrder →
      i = 11 ∨ i = 12 ∨ i = 13 ∨ (18 ≤ i ∧ i ≤ 26) ∨ i = 33 := by decide
  obtain rfl | rfl | rfl | ⟨hlow,hhigh⟩ | rfl := hrest i hi hmem
  · rfl
  · rfl
  · rfl
  · interval_cases i <;> rfl
  · rfl
end

def outputSize (o : BackendOutput) : Nat := if o.transport = bytes then 136 else 112

structure OutputRecord (reply : Message) (id : UInt64) (o : BackendOutput) : Prop where
  word : ∀ i, 4 * i + 4 ≤ outputSize o → getU32 reply.payload (4 * i) = outputWord id o i
  payloadSize : reply.header.payloadSize = UInt32.ofNat (outputSize o)
  fdCount : reply.header.fdCount =
    if o.transport = bytes ∨ 0 ≤ o.acquireFenceFd then 1 else 0

section
variable {id : UInt64} {o : BackendOutput} {reply req : Message} {stack : List UInt8}
  {dg : Datagram}

theorem outputSize_le : outputSize o ≤ 136 := by
  unfold outputSize
  split <;> decide

/-- What the engine may put into a reply: a memfd or an acquire fence, but not both. -/
structure Produced (o : BackendOutput) (fd : Fd) : Prop where
  transport : o.transport = bytes ∨ o.transport = aHardwareBuffer
  fd : 0 ≤ fd ↔ o.transport = bytes
  fence : o.transport = bytes → o.acquireFenceFd < 0
  size : o.size ≤ maxOutputBytes
  noData : o.transport = aHardwareBuffer → o.size = 0
  flags : o.flags &&& ~~~(Flag.endOfStream ||| Flag.keyFrame ||| Flag.codecConfig) = 0

def outputFds (o : BackendOutput) (fd : Fd) : List Fd :=
  if 0 ≤ fd then [fd] else if 0 ≤ o.acquireFenceFd then [o.acquireFenceFd] else []

theorem outputFds_length {fd : Fd} (h : Produced o fd) : (outputFds o fd).length =
      if o.transport = bytes ∨ 0 ≤ o.acquireFenceFd then 1 else 0 := by
  unfold outputFds
  by_cases hbytes : o.transport = bytes
  · rw [if_pos (h.fd.mpr hbytes),if_pos (.inl hbytes)]
    rfl
  · rw [if_neg fun hfd => hbytes (h.fd.mp hfd)]
    by_cases hfence : 0 ≤ o.acquireFenceFd <;> simp [hbytes,hfence]

section
variable {base : Message} {fd : Fd}
theorem outputReply_payload : (outputReply base id o fd).payload =
    (outputPayload id o).take (outputSize o) := by
  by_cases hbytes : o.transport = bytes <;> simp [outputReply,outputSize,hbytes]

theorem outputReply_payloadSize :
    (outputReply base id o fd).header.payloadSize = UInt32.ofNat (outputSize o) := by
  by_cases hbytes : o.transport = bytes <;> simp [outputReply,outputSize,hbytes]

theorem outputSize_toNat : (UInt32.ofNat (outputSize o)).toNat = outputSize o :=
  UInt32.toNat_ofNat_of_lt' (Nat.lt_of_le_of_lt outputSize_le (by decide))

theorem outputReply_fdCount : (outputReply base id o fd).header.fdCount =
    if o.transport = bytes ∨ 0 ≤ o.acquireFenceFd then 1 else 0 := by
  by_cases hbytes : o.transport = bytes <;> simp [outputReply,hbytes]

theorem outputReply_fds (hbase : base.fds = []) :
    (outputReply base id o fd).fds = outputFds o fd := by
  simp only [outputReply,outputFds,hbase]

theorem outputReply_sendable (hbase : base.fds = []) (h : Produced o fd)
    (hvalid : headerValidate { base.header with payloadSize := 0, fdCount := 0 } = true) :
    Sendable (outputReply base id o fd) := by
  refine ⟨?_,?_,?_⟩
  · have hsize : ¬maxPayload < (outputReply base id o fd).header.payloadSize.toNat := by
      rw [outputReply_payloadSize,outputSize_toNat]
      exact Nat.not_lt.mpr (Nat.le_trans outputSize_le (by decide))
    have hcount : ¬maxFds < (outputReply base id o fd).header.fdCount.toNat := by
      rw [outputReply_fdCount]
      split <;> decide
    simp only [headerValidate,hsize,hcount] at hvalid ⊢
    exact hvalid
  · rw [outputReply_payloadSize,outputSize_toNat,outputReply_payload,length_take,
      outputPayload_length]
    exact Nat.le_min.mpr ⟨Nat.le_refl _,outputSize_le⟩
  · rw [outputReply_fdCount,outputReply_fds hbase,outputFds_length h]
    split <;> rfl

theorem outputReply_record :
    OutputRecord (received (outputReply base id o fd) 136 stack dg) id o := by
  refine ⟨fun i hi => ?_,@outputReply_payloadSize id o base fd,@outputReply_fdCount id o base fd⟩
  have hle : outputSize o ≤ 136 := outputSize_le
  have hlength : ((outputPayload id o).take (outputSize o)).length = outputSize o := by
    rw [length_take,outputPayload_length,Nat.min_eq_left hle]
  dsimp only [received]
  rw [outputReply_payloadSize,outputSize_toNat,outputReply_payload,take_of_length_le hlength.le,
    getU32_append_left (by omega)]
  have hwhole : getU32 (outputPayload id o) (4 * i) =
      getU32 ((outputPayload id o).take (outputSize o)) (4 * i) := by
    conv_lhs => rw [← take_append_drop (outputSize o) (outputPayload id o)]
    exact getU32_append_left (by omega)
  rw [← hwhole]
  exact word_outputPayload id o (by omega)
end

theorem OutputRecord.getU64 (h : OutputRecord reply id o) {i : Nat} {v : UInt64}
    (hi : 4 * i + 8 ≤ 112) (hlow : outputWord id o i = v.toUInt32)
    (hhigh : outputWord id o (i + 1) = (v >>> 32).toUInt32) :
    Bytes.getU64 reply.payload (4 * i) = v := by
  have hle : 112 ≤ outputSize o := by
    unfold outputSize
    split <;> decide
  exact getU64_of_words ((h.word i (by omega)).trans hlow)
    ((h.word (i + 1) (by omega)).trans hhigh)

theorem OutputRecord.getU32 (h : OutputRecord reply id o) {i : Nat} (hi : 4 * i + 4 ≤ 112) :
    Bytes.getU32 reply.payload (4 * i) = outputWord id o i := by
  have hle : 112 ≤ outputSize o := by
    unfold outputSize
    split <;> decide
  exact h.word i (by omega)

theorem outputShapeValid_record {fd : Fd} (h : OutputRecord reply id o) (hproduced : Produced o fd) :
    outputShapeValid reply = true ↔ (o.transport = bytes → o.layers = 0 ∧ o.usage = 0) := by
  have htransport := h.getU32 (i := 7) (by decide)
  have hplanes := h.getU32 (i := 18) (by decide)
  have hrole := h.getU32 (i := 27) (by decide)
  have hfourcc := h.getU32 (i := 11) (by decide)
  have hmodifier := h.getU64 (i := 12) (v := 0) (by decide) rfl rfl
  have hlayers := h.getU32 (i := 14) (by decide)
  have husage := h.getU64 (i := 16) (v := o.usage) (by decide) rfl rfl
  simp only [Nat.reduceMul,outputWord] at htransport hplanes hrole hfourcc hmodifier hlayers husage
  unfold outputShapeValid
  dsimp only
  rw [htransport,hplanes,hrole,hfourcc,hmodifier,hlayers,husage,h.payloadSize,h.fdCount]
  rcases hproduced.transport with hbytes | hahb
  · have hfence : ¬0 ≤ o.acquireFenceFd := Int.not_le.mpr (hproduced.fence hbytes)
    have hreserved := h.word 33 (by rw [outputSize,if_pos hbytes])
    simp only [Nat.reduceMul,outputWord] at hreserved
    simp [hbytes,hfence,hreserved,outputSize,bytes,aHardwareBuffer,FdRole.none,FdRole.acquireFence]
  · by_cases hfence : 0 ≤ o.acquireFenceFd <;>
      simp [hahb,hfence,outputSize,bytes,aHardwareBuffer,FdRole.none,FdRole.acquireFence]

theorem outputContentValid_record {os : Os ω} {k : os.Files} {w : ω} {fd : Fd}
    (h : OutputRecord reply id o) (hproduced : Produced o fd) (hid : id ≠ 0)
    (hfile : o.transport = bytes → ∃ f, k.file w (reply.fd 0) = some f ∧ f.Sealed ∧
    f.content.length = o.size) : outputContentValid os w reply = true := by
  have htransport := h.getU32 (i := 7) (by decide)
  have hident := h.getU64 (i := 0) (v := id) (by decide) rfl rfl
  have hsize := h.getU64 (i := 4) (v := UInt64.ofNat o.size) (by decide) rfl rfl
  have hflags := h.getU32 (i := 6) (by decide)
  simp only [Nat.reduceMul,outputWord] at htransport hident hsize hflags
  have hlimit := hproduced.size
  have hnat : (UInt64.ofNat o.size).toNat = o.size :=
    UInt64.toNat_ofNat_of_lt' (Nat.lt_of_le_of_lt hlimit (by decide))
  unfold outputContentValid
  dsimp only
  rw [htransport,hident,hsize,hflags,hproduced.flags,hnat]
  rcases hproduced.transport with hbytes | hahb
  · obtain ⟨f,hf,hsealed,hlength⟩ := hfile hbytes
    have hseals : f.seals &&& requiredSeals = requiredSeals := hsealed
    rw [k.getSeals hf,k.fstat hf]
    simp [hbytes,hid,hseals,hlength,Nat.not_lt.mpr hlimit,bytes,aHardwareBuffer]
  · simp [hahb,hid,hproduced.noData hahb,bytes,aHardwareBuffer]
end

def describedOutput (id : UInt64) (o : BackendOutput) (dataFd fence : Fd) : Output where
  bufferId := id
  ptsNs := o.ptsNs
  size := UInt64.ofNat o.size
  flags := o.flags
  width := o.width
  height := o.height
  androidFormat := o.androidFormat
  stride := o.stride
  layers := o.layers
  usage := o.usage
  sliceHeight := o.sliceHeight
  cropLeft := o.cropLeft
  cropTop := o.cropTop
  cropRight := o.cropRight
  cropBottom := o.cropBottom
  dataFd := dataFd
  transport := o.transport
  acquireFenceFd := fence

def Output.fullAllocation (output : Output) : Output :=
  { output with
    sliceHeight := output.height
    cropLeft := 0
    cropTop := 0
    cropRight := if output.width > 0 then output.width - 1 else 0
    cropBottom := if output.height > 0 then output.height - 1 else 0 }

def clientOutput (id : UInt64) (o : BackendOutput) (fd : Fd) : Output :=
  if o.transport = bytes then describedOutput id o fd (-1)
  else (describedOutput id o (-1) (if 0 ≤ o.acquireFenceFd then fd else -1)).fullAllocation

theorem readOutput_record {id : UInt64} {o : BackendOutput} {reply : Message}
    (h : OutputRecord reply id o) (htransport : o.transport = bytes ∨
    o.transport = aHardwareBuffer) :
    readOutput reply = clientOutput id o (reply.fd 0) := by
  have hident := h.getU64 (i := 0) (v := id) (by decide) rfl rfl
  have hpts := h.getU64 (i := 2) (v := o.ptsNs) (by decide) rfl rfl
  have hsize := h.getU64 (i := 4) (v := UInt64.ofNat o.size) (by decide) rfl rfl
  have husage := h.getU64 (i := 16) (v := o.usage) (by decide) rfl rfl
  have h6 := h.getU32 (i := 6) (by decide)
  have h7 := h.getU32 (i := 7) (by decide)
  have h8 := h.getU32 (i := 8) (by decide)
  have h9 := h.getU32 (i := 9) (by decide)
  have h10 := h.getU32 (i := 10) (by decide)
  have h14 := h.getU32 (i := 14) (by decide)
  have h15 := h.getU32 (i := 15) (by decide)
  simp only [Nat.reduceMul,outputWord] at hident hpts hsize husage h6 h7 h8 h9 h10 h14 h15
  unfold readOutput clientOutput
  dsimp only
  rw [hident,hpts,hsize,husage,h6,h7,h8,h9,h10,h14,h15,h.fdCount]
  rcases htransport with hbytes | hahb
  · have hword (i : Nat) (hi : i < 34) := h.word i (by rw [outputSize,if_pos hbytes]; omega)
    have h28 := hword 28 (by decide)
    have h29 := hword 29 (by decide)
    have h30 := hword 30 (by decide)
    have h31 := hword 31 (by decide)
    have h32 := hword 32 (by decide)
    simp only [Nat.reduceMul,outputWord] at h28 h29 h30 h31 h32
    simp [hbytes,h28,h29,h30,h31,h32,describedOutput]
  · have hne : o.transport ≠ bytes := by
      rw [hahb]
      decide
    by_cases hfence : 0 ≤ o.acquireFenceFd <;>
      simp [hne,hfence,describedOutput,Output.fullAllocation]
end LinDeX.Client
