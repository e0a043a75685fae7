import LinDeX.Android.MapperMetadata
import LinDeX.Dmabuf.Descriptor

/-!
# Exporting an Android buffer

`android_export_prime`, with a log of its accesses to the entries of the native handle. The loops
that fill the diagnostics go by a number that is compared with the handle only later.
-/
namespace LinDeX.Android
open Dmabuf
/-- `struct advc_native_handle`; the memory from `data` on does not end with the handle. -/
structure NativeHandle where
  (numFds numInts : Int)
  data : Nat → Int

/-- The fields of `struct stat` that are read. -/
structure FileInfo where
  (dev ino : UInt64)
  size : Int

structure Metadata where
  (width height layers : UInt64)
  fourcc : UInt32
  (modifier allocationSize : UInt64)
  stride : UInt32
  layouts : List PlaneLayout
  crops : List Crop

/-- What the mapper, the metadata decoders and the kernel answer during one call. -/
structure Mapper where
  rawHandle : Bool
  imported : Option NativeHandle
  transportSize : Option (UInt32 × UInt32)
  qtiDataFd : Option Int
  isOpen : Int → Bool
  fstat : Int → Option FileInfo
  dup : Int → Option Nat
  metadata : Except String Metadata

structure PublicMetadata where
  (width height layers stride cropLeft cropTop cropWidth cropHeight : UInt32)

/-- An entry is read, or what it holds is handed to the kernel as a descriptor. -/
inductive Access where
  | read (index : Nat)
  | descriptor (index : Nat)
  deriving DecidableEq

/-- An entry is read and handed to the kernel. -/
def passed (i : Nat) : List Access := [.read i,.descriptor i]

section
variable (m : Mapper)
def qtiInfo (fd : Int) : Option FileInfo :=
  if 0 ≤ fd ∧ m.isOpen fd then m.fstat fd else none

def fileSize (info : Option FileInfo) : UInt64 :=
  match info with
  | some info => if 0 < info.size then UInt64.ofInt info.size else 0
  | none => 0

def sameFile (info : FileInfo) (fd : Int) : Bool :=
  match m.fstat fd with
  | some other => other.dev == info.dev && other.ino == info.ino
  | none => false

/-- The search for the QTI descriptor: `count` entries from `i` on. -/
def findTransport (h : NativeHandle) (fd : Int) : Nat → Nat → List Access × Int
  | 0, _ => ([], -1)
  | count + 1, i =>
    if h.data i = fd then ([.read i], Int.bmod i (2 ^ 32))
    else
      match qtiInfo m fd with
      | none => ((findTransport h fd count (i + 1)).map (.read i :: ·) id)
      | some info =>
        if sameFile m info (h.data i) then (passed i, Int.bmod i (2 ^ 32))
        else (findTransport h fd count (i + 1)).map (passed i ++ ·) id

def qtiTransport (h : NativeHandle) (transportFds : UInt32) : List Access × Int :=
  match m.qtiDataFd with
  | none => ([], -1)
  | some fd => findTransport m h fd transportFds.toNat 0

def transportValid (h : NativeHandle) (transportFds transportInts : UInt32) : Bool :=
  decide (transportFds ≠ 0 ∧ transportFds.toNat ≤ maxDmabufObjects ∧ 1 ≤ h.numFds ∧
    (transportFds.toNat : Int) ≤ h.numFds ∧ 0 ≤ h.numInts ∧ (transportInts.toNat : Int) ≤ h.numInts)
end

def checkMetadata (p : PublicMetadata) (a : Metadata) : Except String Unit :=
  let crop := a.crops.headD ⟨0,0,0,0⟩
  if a.width ≠ p.width.toUInt64 then .error "mapper-width-public-mismatch"
  else if a.height ≠ p.height.toUInt64 then .error "mapper-height-public-mismatch"
  else if a.layers ≠ 1 ∨ a.layers ≠ p.layers.toUInt64 then .error "mapper-layers-public-mismatch"
  else if a.stride ≠ p.stride then .error "mapper-stride-public-mismatch"
  else if a.fourcc = 0 ∨ a.modifier = 0xffffffffffffffff ∨ a.allocationSize = 0 ∨
      maxDmabufObjectBytes < a.allocationSize then .error "invalid-standard-metadata"
  else if a.width.toNat < p.cropLeft.toNat + p.cropWidth.toNat ∨
      a.height.toNat < p.cropTop.toNat + p.cropHeight.toNat ∨
      (p.cropLeft.toNat : Int) < crop.left ∨ (p.cropTop.toNat : Int) < crop.top ∨
      crop.right < p.cropLeft.toNat + p.cropWidth.toNat ∨
      crop.bottom < p.cropTop.toNat + p.cropHeight.toNat then .error "logical-crop-mapper-mismatch"
  else .ok ()

def checkStandard (a : Metadata) (transportFds : UInt32) : Except String Unit :=
  if a.fourcc = drmFormatNv12 ∧ a.modifier = drmModQcomCompressed then
    .error "qti-nv12-ubwc-normalization-rejected"
  else if a.crops.length ≠ a.layouts.length then .error "crop-plane-count-mismatch"
  else if transportFds ≠ 1 then .error "ambiguous-multi-fd-layout"
  else if (a.layouts.zip a.crops).any fun (l, c) => decide (a.allocationSize ≤ l.offsetBytes ∨
      a.allocationSize - l.offsetBytes < l.totalSizeBytes ∨ 0xffffffff < l.strideBytes ∨
      (l.widthSamples.toNat : Int) < c.right ∨ (l.heightSamples.toNat : Int) < c.bottom) then
    .error "invalid-plane-extent"
  else .ok ()

def primeDescriptor (d : Descriptor) (p : PublicMetadata) (a : Metadata) (fd : Nat)
    (planes : List Plane) : Descriptor :=
  { d with
    width := a.width.toUInt32, height := a.height.toUInt32, drmFourcc := a.fourcc
    explicitFlags := explicitAll, drmModifier := a.modifier, cropLeft := p.cropLeft
    cropTop := p.cropTop, cropWidth := p.cropWidth, cropHeight := p.cropHeight, objectCount := 1
    planeCount := UInt32.ofNat planes.length
    objects := Function.update d.objects 0 ⟨fd,a.allocationSize⟩
    planes := fun i => planes.getD i.val (d.planes i) }

def duplicate (m : Mapper) (h : NativeHandle) (i : Nat) (status : String)
    (descriptor : Nat → Descriptor) : List Access × Except String Descriptor :=
  (passed i, match m.dup (h.data i) with
    | none => .error status
    | some fd => .ok (descriptor fd))

def nv12Input (m : Mapper) (h : NativeHandle) (transportFds : UInt32) (a : Metadata) : Nv12Input :=
  { fourcc := a.fourcc, modifier := a.modifier, allocationSize := a.allocationSize
    width := a.width.toUInt32, height := a.height.toUInt32, stride := a.stride
    transportFds := transportFds
    transportFdSizes := (List.range (min transportFds.toNat maxDmabufObjects)).map fun i =>
      fileSize (m.fstat (h.data i))
    qtiDataFdTransportIndex := (qtiTransport m h transportFds).2
    qtiDataFdValid := (m.qtiDataFd.bind (qtiInfo m)).isSome
    qtiDataFdSize := fileSize (m.qtiDataFd.bind (qtiInfo m))
    layouts := a.layouts, crops := a.crops }

def exportLayouts (m : Mapper) (p : PublicMetadata) (d : Descriptor) (h : NativeHandle)
    (transportFds : UInt32) : List Access × Except String Descriptor :=
  match m.metadata with
  | .error status => ([], .error status)
  | .ok a =>
    match checkMetadata p a, qtiNv12Normalize (nv12Input m h transportFds a),
        checkStandard a transportFds with
    | .error status, _, _ => ([], .error status)
    | .ok _, .ok n, _ =>
      duplicate m h n.imageTransportIndex.toNat "qti-image-fd-duplicate-failed" fun fd =>
        primeDescriptor d p a fd [⟨0,n.planeOffsets.1,n.planeStrides.1⟩,
          ⟨0,n.planeOffsets.2,n.planeStrides.2⟩]
    | .ok _, .error _, .error status => ([], .error status)
    | .ok _, .error _, .ok _ =>
      duplicate m h 0 "prime-fd-duplicate-failed" fun fd =>
        primeDescriptor d p a fd
          (a.layouts.map fun l => ⟨0,l.offsetBytes,l.strideBytes.toUInt32⟩)

def androidExportPrime (m : Mapper) (p : PublicMetadata) (d : Descriptor) :
    List Access × Except String Descriptor :=
  if !m.rawHandle then ([], .error "native-handle-unavailable")
  else
    match m.imported, m.transportSize with
    | none, _ => ([], .error "import-buffer-failed")
    | some _, none => ([], .error "transport-size-query-failed")
    | some h, some (transportFds, transportInts) =>
      let log := (qtiTransport m h transportFds).1 ++
        (List.range (min transportFds.toNat maxDmabufObjects)).flatMap passed
      if !transportValid h transportFds transportInts then
        (log, .error "invalid-transport-size")
      else (exportLayouts m p d h transportFds).map (log ++ ·) id

def Access.InRange (h : NativeHandle) : Access → Prop
  | .read i => (i : Int) < h.numFds + h.numInts
  | .descriptor i => (i : Int) < h.numFds

instance (h : NativeHandle) : (access : Access) → Decidable (access.InRange h)
  | .read _ => inferInstanceAs (Decidable (_ < _))
  | .descriptor _ => inferInstanceAs (Decidable (_ < _))

/-- Entry `i` ends the search for the QTI descriptor. -/
def Ends (m : Mapper) (h : NativeHandle) (fd : Int) (i : Nat) : Prop :=
  h.data i = fd ∨ ∃ info, qtiInfo m fd = some info ∧ sameFile m info (h.data i)

/-- The entries up to the end of the search belong to the handle, and those whose file is looked at
are descriptors. -/
def SearchInRange (m : Mapper) (h : NativeHandle) (transportFds : UInt32) : Prop :=
  ∀ fd, m.qtiDataFd = some fd → ∀ i < transportFds.toNat, (∀ j < i, ¬Ends m h fd j) →
    Access.InRange h (.read i) ∧
    (h.data i ≠ fd → (qtiInfo m fd).isSome → Access.InRange h (.descriptor i))

private theorem findTransport_inRange_iff (m : Mapper) (h : NativeHandle) (fd : Int)
    (count i : Nat) :
    (∀ access ∈ (findTransport m h fd count i).1, access.InRange h) ↔
    ∀ k < count, (∀ j < k, ¬Ends m h fd (i + j)) → Access.InRange h (.read (i + k)) ∧
      (h.data (i + k) ≠ fd → (qtiInfo m fd).isSome → Access.InRange h (.descriptor (i + k))) := by
  induction count generalizing i with
  | zero => simp [findTransport]
  | succ count ih =>
    -- the search goes on behind `i` unless `i` ends it
    have hrest (hgo : ¬Ends m h fd i) (k : Nat) :
        (∀ j < k + 1, ¬Ends m h fd (i + j)) ↔ ∀ j < k, ¬Ends m h fd (i + (j + 1)) := by
      simp only [Nat.forall_lt_succ_left,Nat.add_zero,hgo,not_false_eq_true,true_and]
    have hstop (hend : Ends m h fd i) {P : Nat → Prop} :
        ∀ k < count, (∀ j < k + 1, ¬Ends m h fd (i + j)) → P k :=
      fun k _ hall => absurd hend (hall 0 (Nat.succ_pos k))
    have htail (hgo : ¬Ends m h fd i) := (ih (i + 1)).trans (by
      simp only [hrest hgo,Nat.add_right_comm i 1,Nat.add_assoc i _ 1] : _ ↔
        ∀ k < count, (∀ j < k + 1, ¬Ends m h fd (i + j)) → Access.InRange h (.read (i + (k + 1))) ∧
        (h.data (i + (k + 1)) ≠ fd → (qtiInfo m fd).isSome →
          Access.InRange h (.descriptor (i + (k + 1)))))
    rw [Nat.forall_lt_succ_left,findTransport]
    split
    · rename_i heq
      rw [and_iff_left (hstop (.inl heq))]
      simp [heq]
    rename_i hne
    split
    · rename_i hinfo
      have hgo : ¬Ends m h fd i := by simp [Ends,hne,hinfo]
      rw [← htail hgo]
      simp [hinfo]
    · rename_i info hinfo
      split
      · rename_i hsame
        rw [and_iff_left (hstop (.inr ⟨info,hinfo,hsame⟩))]
        simp [hne,hinfo,passed]
      · rename_i hsame
        have hgo : ¬Ends m h fd i := by simp [Ends,hne,hinfo,hsame]
        rw [← htail hgo]
        simp [hinfo,hne,and_assoc,passed]

private theorem qtiNv12Normalize_index {a : Nv12Input} {n : Nv12Layout}
    (h : qtiNv12Normalize a = .ok n) :
    n.imageTransportIndex.toNat < a.transportFds.toNat := by
  unfold qtiNv12Normalize at h
  split at h
  · cases h
  rename_i hsupported
  simp only [Bool.not_eq_true',Bool.not_eq_false] at hsupported
  obtain ⟨-, -, -, -, -, -, -, -, -, -,hindex, -⟩ := of_decide_eq_true hsupported
  split at h
  · cases h
  split at h
  · split at h
    · cases h
    split at h
    · cases h
    cases h
    rw [UInt32.toNat_ofNat_of_lt' (Nat.lt_trans hindex a.transportFds.toNat_lt)]
    exact hindex
  · cases h

private theorem exportLayouts_inRange {m : Mapper} {h : NativeHandle}
    {transportFds transportInts : UInt32}
    (hvalid : transportValid h transportFds transportInts) (p : PublicMetadata) (d : Descriptor) :
    ∀ access ∈ (exportLayouts m p d h transportFds).1, access.InRange h := by
  obtain ⟨-, -,hfds,hle,hints, -⟩ := of_decide_eq_true hvalid
  unfold exportLayouts
  split
  · simp
  split
  · simp
  · rename_i n _ hn
    have hindex : n.imageTransportIndex.toNat < transportFds.toNat := qtiNv12Normalize_index hn
    simp only [duplicate,passed,List.forall_mem_cons,Access.InRange]
    exact ⟨by omega,by omega,nofun⟩
  · simp
  · simp only [duplicate,passed,List.forall_mem_cons,Access.InRange]
    exact ⟨by omega,by omega,nofun⟩

/-- No access leaves the handle if and only if the two loops that fill the diagnostics stay inside.
Everything behind the check of the transport size does. -/
theorem androidExportPrime_inRange_iff (m : Mapper) (p : PublicMetadata) (d : Descriptor)
    {h : NativeHandle} (himported : m.imported = some h) :
    (∀ access ∈ (androidExportPrime m p d).1, access.InRange h) ↔
    (m.rawHandle → ∀ size, m.transportSize = some size → SearchInRange m h size.1 ∧
      ∀ i < min size.1.toNat maxDmabufObjects,
        Access.InRange h (.read i) ∧ Access.InRange h (.descriptor i)) := by
  have hsearch (transportFds : UInt32) :
      (∀ access ∈ (qtiTransport m h transportFds).1, access.InRange h) ↔
      SearchInRange m h transportFds := by
    unfold qtiTransport SearchInRange
    split
    · rename_i hnone
      simp [hnone]
    · rename_i fd hfd
      simp [hfd,findTransport_inRange_iff]
  unfold androidExportPrime
  rw [himported]
  cases hraw : m.rawHandle with
  | false => simp
  | true =>
    cases hsize : m.transportSize with
    | none => simp
    | some size =>
      obtain ⟨transportFds,transportInts⟩ := size
      have hlog : (∀ access ∈ (qtiTransport m h transportFds).1 ++
          (List.range (min transportFds.toNat maxDmabufObjects)).flatMap passed,
          access.InRange h) ↔ SearchInRange m h transportFds ∧
          ∀ i < min transportFds.toNat maxDmabufObjects,
            Access.InRange h (.read i) ∧ Access.InRange h (.descriptor i) := by
        rw [List.forall_mem_append,hsearch,List.forall_mem_flatMap]
        simp only [List.mem_range,passed,List.forall_mem_cons,List.not_mem_nil,false_imp_iff,
          implies_true,and_true]
      simp only [Bool.not_true,Bool.false_eq_true,if_false,forall_const,Option.some.injEq,
        forall_eq',← hlog]
      split
      · exact Iff.rfl
      · rename_i hvalid
        have hlayouts := exportLayouts_inRange (m := m) (by simpa using hvalid) p d
        rw [Prod.map_fst,List.forall_mem_append]
        exact and_iff_left fun access haccess => hlayouts access haccess

def oneFd : NativeHandle := ⟨1,0,fun _ => 5⟩

def reportingMapper (transportFds : UInt32) : Mapper :=
  { rawHandle := true, imported := some oneFd, transportSize := some (transportFds, 0)
    qtiDataFd := some 9, isOpen := fun _ => false, fstat := fun _ => none, dup := fun _ => none
    metadata := .error "width-metadata-unavailable" }

def plainMetadata : PublicMetadata := ⟨16,16,1,16,0,0,16,16⟩

def twoFds : NativeHandle := ⟨2,1,fun i => 5 + i⟩

/-- The second descriptor is the one that the mapper names. -/
def searchingMapper : Mapper :=
  { reportingMapper 2 with
    imported := some twoFds, qtiDataFd := some 6, isOpen := fun _ => true
    fstat := fun fd => some ⟨0,UInt64.ofInt fd,64⟩ }

theorem androidExportPrime_inRange_twoFds : searchingMapper.imported = some twoFds ∧
    (androidExportPrime searchingMapper plainMetadata .zero).1 =
      passed 0 ++ [.read 1] ++ passed 0 ++ passed 1 ∧
    ∀ access ∈ (androidExportPrime searchingMapper plainMetadata .zero).1,
      access.InRange twoFds := by
  refine ⟨rfl,by decide,(androidExportPrime_inRange_iff _ _ _ rfl).mpr fun _ size hsize => ?_⟩
  cases hsize
  have hinside : ∀ i < 2,
      Access.InRange twoFds (.read i) ∧ Access.InRange twoFds (.descriptor i) := by
    decide
  exact ⟨fun fd _ i hi _ => ⟨(hinside i hi).1,fun _ _ => (hinside i hi).2⟩,hinside⟩

/-- When the mapper reports two descriptors, both loops go on to the entry behind the handle, and
only then is the size refused. -/
theorem androidExportPrime_behindHandle :
    (androidExportPrime (reportingMapper 2) plainMetadata .zero).1 =
      [.read 0,.read 1] ++ passed 0 ++ passed 1 ∧
    ¬Access.InRange oneFd (.read 1) ∧ ¬Access.InRange oneFd (.descriptor 1) := by
  decide
end LinDeX.Android
