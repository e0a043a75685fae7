import LinDeX.Vaapi.Policy
import Mathlib

/-!
# NV12 surfaces as PRIME descriptors

The validator of linear NV12 images in `advc_vaapi_image.c` and the import of descriptors, which
compares the modifiers of all declared objects before it looks at their number.
-/
namespace LinDeX.Vaapi
open Dmabuf
def planeExtent (offset : UInt64) (pitch rows rowBytes : UInt32) (objectSize : UInt64) : Bool :=
  let last := pitch.toUInt64 * (rows - 1).toUInt64
  !(rows == 0 || rowBytes == 0 || pitch < rowBytes || offset > objectSize) &&
    !(last > objectSize - offset || rowBytes.toUInt64 > objectSize - offset - last)

def planeRows (d : Descriptor) (i : Fin 4) : UInt32 := if i = 0 then d.height else d.height / 2

def validateLinearNv12 (cloexec : Fd → Bool) (d : Descriptor) (requireOneObject : Bool) : Bool :=
  !(!descriptorValidate cloexec d || d.drmFourcc != fourccNv12 || d.drmModifier != 0 ||
      d.planeCount != 2 || (requireOneObject && d.objectCount != 1) || (d.width &&& 1) != 0 ||
      (d.height &&& 1) != 0) &&
    [0,1].all fun i => planeExtent (d.planes i).offset (d.planes i).pitch (planeRows d i) d.width
      (Descriptor.objectOf d (d.planes i)).size

/-- The end of the last row of plane `i`. -/
def planeEnd (d : Descriptor) (i : Fin 4) : Nat :=
  (d.planes i).offset.toNat + (d.planes i).pitch.toNat * ((planeRows d i).toNat - 1) + d.width.toNat

/-- Both planes lie inside objects of the descriptor and do not share a byte. -/
structure PlanesApart (d : Descriptor) : Prop where
  objects : ∀ i ∈ [(0 : Fin 4),1], (d.planes i).objectIndex < d.objectCount
  inside : ∀ i ∈ [(0 : Fin 4),1], planeEnd d i ≤ (Descriptor.objectOf d (d.planes i)).size.toNat
  apart : (d.planes 0).objectIndex = (d.planes 1).objectIndex →
    Disjoint (Set.Ico (d.planes 0).offset.toNat (planeEnd d 0))
      (Set.Ico (d.planes 1).offset.toNat (planeEnd d 1))

section
variable {cloexec : Fd → Bool} {d : Descriptor}
private theorem mul_toNat (a b : UInt32) : (a.toUInt64 * b.toUInt64).toNat = a.toNat * b.toNat := by
  rw [UInt64.toNat_mul,UInt32.toNat_toUInt64,UInt32.toNat_toUInt64]
  apply Nat.mod_eq_of_lt
  calc a.toNat * b.toNat < 2 ^ 32 * 2 ^ 32 := Nat.mul_lt_mul'' a.toNat_lt b.toNat_lt
    _ = 2 ^ 64 := by norm_num

private theorem planeExtent_iff {offset : UInt64} {pitch rows rowBytes : UInt32}
    {objectSize : UInt64} :
    planeExtent offset pitch rows rowBytes objectSize ↔
    0 < rows.toNat ∧ 0 < rowBytes.toNat ∧ rowBytes.toNat ≤ pitch.toNat ∧
    offset.toNat + pitch.toNat * (rows.toNat - 1) + rowBytes.toNat ≤ objectSize.toNat := by
  have hpos (x : UInt32) : x ≠ 0 ↔ 0 < x.toNat := by
    rw [Nat.pos_iff_ne_zero]
    exact not_congr UInt32.toNat_inj.symm
  simp only [planeExtent,Bool.and_eq_true,Bool.not_eq_true',Bool.or_eq_false_iff,
    beq_eq_false_iff_ne,decide_eq_false_iff_not,gt_iff_lt,UInt32.not_lt,UInt64.not_lt,hpos,
    UInt32.le_iff_toNat_le,UInt64.le_iff_toNat_le,and_assoc]
  refine and_congr_right fun hrows => and_congr_right fun _ => and_congr_right fun _ => ?_
  have hlast : (pitch.toUInt64 * (rows - 1).toUInt64).toNat = pitch.toNat * (rows.toNat - 1) := by
    have hone : (1 : UInt32) ≤ rows := UInt32.le_iff_toNat_le.mpr hrows
    rw [mul_toNat,UInt32.toNat_sub_of_le _ _ hone]
    rfl
  by_cases hoffset : offset.toNat ≤ objectSize.toNat
  · have hsub := UInt64.toNat_sub_of_le _ _ (UInt64.le_iff_toNat_le.mpr hoffset)
    rw [hlast,hsub]
    by_cases hfits : pitch.toNat * (rows.toNat - 1) ≤ objectSize.toNat - offset.toNat
    · rw [UInt64.toNat_sub_of_le _ _ (UInt64.le_iff_toNat_le.mpr (by rw [hlast,hsub]; exact hfits)),
        hlast,hsub,UInt32.toNat_toUInt64]
      omega
    · omega
  · omega

private theorem planeIndex_lt (h : descriptorValidate cloexec d) {i : Fin 4}
    (hi : i.val < d.planeCount.toNat) : (d.planes i).objectIndex < d.objectCount := by
  simp only [descriptorValidate,Bool.and_eq_true,List.all_eq_true] at h
  have hplane := h.2 i (List.mem_finRange i)
  rw [planeValid,if_pos hi] at hplane
  simp only [Bool.and_eq_true,Bool.not_eq_true',Bool.or_eq_false_iff,decide_eq_false_iff_not,
    ge_iff_le,UInt32.not_le] at hplane
  exact hplane.1.1.1

private theorem validateLinearNv12_iff {requireOneObject : Bool} :
    validateLinearNv12 cloexec d requireOneObject ↔
    (descriptorValidate cloexec d ∧ d.drmFourcc = fourccNv12 ∧ d.drmModifier = 0 ∧
    d.planeCount = 2 ∧ (requireOneObject → d.objectCount = 1) ∧ d.width &&& 1 = 0 ∧
    d.height &&& 1 = 0) ∧ ∀ i ∈ [(0 : Fin 4),1], planeExtent (d.planes i).offset
      (d.planes i).pitch (planeRows d i) d.width (Descriptor.objectOf d (d.planes i)).size := by
  cases requireOneObject <;> simp [validateLinearNv12,and_assoc]

/-- A linear image has planes of the right extent; whether they overlap is not looked at. -/
private theorem validateLinearNv12_planesApart {requireOneObject : Bool}
    (h : validateLinearNv12 cloexec d requireOneObject) :
    PlanesApart d ↔ (d.planes 0).objectIndex ≠ (d.planes 1).objectIndex ∨
    planeEnd d 0 ≤ (d.planes 1).offset.toNat ∨ planeEnd d 1 ≤ (d.planes 0).offset.toNat := by
  obtain ⟨⟨hvalid, -, -,hcount, -⟩,hextent⟩ := validateLinearNv12_iff.mp h
  have hobjects : ∀ i ∈ [(0 : Fin 4),1], (d.planes i).objectIndex < d.objectCount := by
    intro i hi
    apply planeIndex_lt hvalid
    rw [hcount]
    fin_cases hi <;> decide
  have hinside : ∀ i ∈ [(0 : Fin 4),1], (d.planes i).offset.toNat < planeEnd d i ∧
      planeEnd d i ≤ (Descriptor.objectOf d (d.planes i)).size.toNat := by
    intro i hi
    obtain ⟨-,hwidth, -,hend⟩ := planeExtent_iff.mp (hextent i hi)
    exact ⟨by unfold planeEnd; omega,hend⟩
  have hapart : Disjoint (Set.Ico (d.planes 0).offset.toNat (planeEnd d 0))
      (Set.Ico (d.planes 1).offset.toNat (planeEnd d 1)) ↔
      planeEnd d 0 ≤ (d.planes 1).offset.toNat ∨ planeEnd d 1 ≤ (d.planes 0).offset.toNat := by
    have h0 := (hinside 0 (by simp)).1
    have h1 := (hinside 1 (by simp)).1
    rw [Set.Ico_disjoint_Ico]
    omega
  constructor
  · intro hsafe
    by_cases hsame : (d.planes 0).objectIndex = (d.planes 1).objectIndex
    · exact .inr (hapart.mp (hsafe.apart hsame))
    · exact .inl hsame
  · intro hor
    refine ⟨hobjects,fun i hi => (hinside i hi).2,fun hsame => hapart.mpr ?_⟩
    exact hor.resolve_left fun hne => hne hsame

private theorem selectSurfaceRoute_directLinear {valid : Bool} {consumer : ConsumerPolicy}
    (h : selectSurfaceRoute valid d consumer = .directLinear) :
    valid ∧ d.drmFourcc = fourccNv12 ∧ d.drmModifier = 0 ∧ linearNv12Compatible d := by
  unfold selectSurfaceRoute at h
  split at h
  · cases h
  rename_i hhead
  split at h
  · rename_i hlinear
    simp only [Bool.or_eq_true,Bool.not_eq_true',bne_iff_ne,not_or,not_not,
      Bool.not_eq_false] at hhead
    simp only [Bool.and_eq_true,beq_iff_eq] at hlinear
    exact ⟨hhead.1,hhead.2,hlinear.1.1,hlinear.1.2⟩
  split at h
  · split at h
    · cases h
    split at h
    · cases h
    split at h <;> cases h
  · cases h

private theorem end_toNat {offset : UInt64} {pitch rows : UInt32}
    (h : offset ≤ offset + pitch.toUInt64 * rows.toUInt64) :
    (offset + pitch.toUInt64 * rows.toUInt64).toNat = offset.toNat + pitch.toNat * rows.toNat := by
  have hbound := mul_toNat pitch rows
  have hlt := (pitch.toUInt64 * rows.toUInt64).toNat_lt
  rw [UInt64.le_iff_toNat_le,UInt64.toNat_add] at h
  rw [UInt64.toNat_add,← hbound]
  have hoffset := offset.toNat_lt
  omega

private theorem directLinear_apart {consumer : ConsumerPolicy}
    (h : selectSurfaceRoute (descriptorValidate cloexec d) d consumer = .directLinear) :
    validateLinearNv12 cloexec d false ∧ ((d.planes 0).objectIndex ≠ (d.planes 1).objectIndex ∨
    planeEnd d 0 ≤ (d.planes 1).offset.toNat) := by
  obtain ⟨hvalid,hfourcc,hmodifier,hlinear⟩ := selectSurfaceRoute_directLinear h
  have hsize : 16 ≤ d.width.toNat ∧ 16 ≤ d.height.toNat := by
    simp only [descriptorValidate,headValid,Bool.and_eq_true,Bool.not_eq_true',
      Bool.or_eq_false_iff,decide_eq_false_iff_not,UInt32.not_lt,UInt32.le_iff_toNat_le,
      and_assoc] at hvalid
    exact ⟨hvalid.2.1,hvalid.2.2.2.1⟩
  simp only [linearNv12Compatible,exactNv12Planes,Bool.and_eq_true,Bool.not_eq_true',
    Bool.or_eq_false_iff,Bool.not_eq_false',Bool.and_eq_false_imp,beq_iff_eq,decide_eq_true_eq,
    decide_eq_false_iff_not,gt_iff_lt,ge_iff_le,UInt64.not_lt,and_assoc] at hlinear
  obtain ⟨hcount, -,hwidth,hheight,hpitch0,hpitch1, -, -,hwrap0,hwrap1,hend0,hend1,
    hapart⟩ := hlinear
  have hplane (i : Fin 4) (hrows : 0 < (planeRows d i).toNat) (hpitch : d.width ≤ (d.planes i).pitch)
      (hwrap : (d.planes i).offset ≤
        (d.planes i).offset + (d.planes i).pitch.toUInt64 * (planeRows d i).toUInt64)
      (hend : (d.planes i).offset + (d.planes i).pitch.toUInt64 * (planeRows d i).toUInt64 ≤
        (Descriptor.objectOf d (d.planes i)).size) :
      planeExtent (d.planes i).offset (d.planes i).pitch (planeRows d i) d.width
        (Descriptor.objectOf d (d.planes i)).size ∧
      planeEnd d i ≤ (d.planes i).offset.toNat + (d.planes i).pitch.toNat * (planeRows d i).toNat := by
    rw [UInt64.le_iff_toNat_le,end_toNat hwrap] at hend
    rw [UInt32.le_iff_toNat_le] at hpitch
    obtain ⟨rows,hr⟩ := Nat.exists_eq_add_one.mpr hrows
    rw [planeExtent_iff,planeEnd,hr,Nat.add_sub_cancel]
    rw [hr,Nat.mul_add_one] at hend
    rw [Nat.mul_add_one]
    omega
  have hhalf : (d.height / 2).toNat = d.height.toNat / 2 := UInt32.toNat_div _ _
  obtain ⟨hextent0,hluma⟩ := hplane 0 (by rw [planeRows,if_pos rfl]; omega) hpitch0 hwrap0 hend0
  obtain ⟨hextent1, -⟩ := hplane 1 (by rw [planeRows,if_neg (by decide),hhalf]; omega) hpitch1
    hwrap1 hend1
  refine ⟨validateLinearNv12_iff.mpr ⟨⟨hvalid,hfourcc,hmodifier,hcount,nofun,hwidth,hheight⟩,
    by simpa using ⟨hextent0,hextent1⟩⟩,?_⟩
  by_cases hsame : (d.planes 0).objectIndex = (d.planes 1).objectIndex
  · have hafter := UInt64.le_iff_toNat_le.mp (hapart hsame)
    rw [end_toNat hwrap0] at hafter
    exact .inr (Nat.le_trans hluma hafter)
  · exact .inl hsame

/-- A descriptor on the direct linear route passes the validator and has its planes apart. One that
only the validator accepts has planes inside their objects, and apart if and only if they lie in
different objects or one ends before the other begins. -/
theorem linearNv12_rules (cloexec : Fd → Bool) (d : Descriptor) :
    (∀ consumer, selectSurfaceRoute (descriptorValidate cloexec d) d consumer = .directLinear →
      validateLinearNv12 cloexec d false ∧ PlanesApart d) ∧
    ∀ requireOneObject, validateLinearNv12 cloexec d requireOneObject →
      (PlanesApart d ↔ (d.planes 0).objectIndex ≠ (d.planes 1).objectIndex ∨
      planeEnd d 0 ≤ (d.planes 1).offset.toNat ∨ planeEnd d 1 ≤ (d.planes 0).offset.toNat) := by
  refine ⟨fun consumer h => ?_,fun _ => validateLinearNv12_planesApart⟩
  obtain ⟨hlinear,hapart⟩ := directLinear_apart h
  exact ⟨hlinear,(validateLinearNv12_planesApart hlinear).mpr (hapart.imp_right .inl)⟩

def linearImage (chromaOffset : UInt64) : Descriptor :=
  { Descriptor.zero with
    bufferId := 1, width := 16, height := 16, drmFourcc := fourccNv12
    explicitFlags := explicitAll, cropWidth := 16, cropHeight := 16, objectCount := 1
    planeCount := 2
    objects := fun i => if i = 0 then ⟨3,384⟩ else ⟨-1,0⟩
    planes := fun i =>
      if i = 0 then ⟨0,0,16⟩ else if i = 1 then ⟨0,chromaOffset,16⟩ else ⟨0,0,0⟩ }

theorem linearNv12_rules_linearImage :
    selectSurfaceRoute (descriptorValidate (fun _ => true) (linearImage 256)) (linearImage 256)
      ⟨true,false,false,false⟩ = .directLinear ∧
    validateLinearNv12 (fun _ => true) (linearImage 256) false ∧ PlanesApart (linearImage 256) := by
  have hroute : selectSurfaceRoute (descriptorValidate (fun _ => true) (linearImage 256))
      (linearImage 256) ⟨true,false,false,false⟩ = .directLinear := by decide +kernel
  exact ⟨hroute,(linearNv12_rules _ _).1 _ hroute⟩

/-- The validator accepts an image whose chroma plane lies on the luma plane. -/
theorem validateLinearNv12_overlap :
    validateLinearNv12 (fun _ => true) (linearImage 0) true ∧ ¬PlanesApart (linearImage 0) := by
  have hvalid : validateLinearNv12 (fun _ => true) (linearImage 0) true := by decide +kernel
  refine ⟨hvalid,?_⟩
  rw [validateLinearNv12_planesApart hvalid]
  decide +kernel
end

structure PrimeObject where
  fd : Fd
  size : UInt32
  modifier : UInt64

structure PrimeLayer where
  (drmFormat numPlanes : UInt32)
  (objectIndex offset pitch : Fin 4 → UInt32)

/-- `VADRMPRIMESurfaceDescriptor`. -/
structure Prime where
  (fourcc width height numObjects : UInt32)
  objects : Fin 4 → PrimeObject
  numLayers : UInt32
  layers : Fin 4 → PrimeLayer

def drmFormatR8 : UInt32 := 0x20203852
def drmFormatGr88 : UInt32 := 0x38385247
def PrimeLayer.plane (l : PrimeLayer) (p : Fin 4) : Plane :=
  ⟨l.objectIndex p,(l.offset p).toUInt64,l.pitch p⟩
def setPlanes (d : Descriptor) (planes : Fin 4 → Plane) : Descriptor :=
  { d with planes := fun p => if p.val < 2 then planes p else d.planes p }

def copyPrimeLayout (prime : Prime) (d : Descriptor) : Option Descriptor :=
  let l := prime.layers
  if prime.numLayers = 1 ∧ (l 0).drmFormat = fourccNv12 ∧ (l 0).numPlanes = 2 then
    some (setPlanes d (l 0).plane)
  else if prime.numLayers = 2 ∧ (l 0).drmFormat = drmFormatR8 ∧ (l 1).drmFormat = drmFormatGr88 ∧
      (l 0).numPlanes = 1 ∧ (l 1).numPlanes = 1 then
    some (setPlanes d fun p => (l p).plane 0)
  else none

def statusFromErrno : Errno → VaStatus
  | .enomem => .allocationFailed
  | .etimedout => .timedOut
  | .enotsup => .unsupportedRtFormat
  | .ebusy => .surfaceBusy
  | .einval | .eoverflow | .ebadf => .invalidParameter
  | _ => .operationFailed

/-- How an import ends, and the descriptors that it duplicated and closed on the way. -/
structure Imported where
  result : Except VaStatus Descriptor
  opened : List Fd := []
  closed : List Fd := []

section
variable (dup : Nat → Fd → Except Errno Fd) (cloexec : Fd → Bool)
variable (prime : Prime) (bufferId : UInt64) (width height : UInt32)
def importArgumentsValid : Bool :=
  !(bufferId == 0 || width < 16 || height < 16 || width > 8192 || height > 8192 ||
    (width &&& 1) != 0 || (height &&& 1) != 0 || prime.fourcc != fourccNv12 ||
    prime.width != width || prime.height != height)

def importedHead (modifier : UInt64) : Descriptor :=
  { Descriptor.zero with
    bufferId, width, height, drmFourcc := fourccNv12, explicitFlags := explicitAll
    drmModifier := modifier, cropWidth := width, cropHeight := height
    objectCount := prime.numObjects, planeCount := 2, colorPrimaries := 1, colorTransfer := 2
    colorMatrix := 3, colorRange := 2, chromaHorizontal := 2, chromaVertical := 2
    objects := fun _ => ⟨-1,0⟩ }

/-- The loop over the objects from object `i` on; `dup i` answers the `i`-th duplication and `none`
reads behind the four objects. -/
def importObjects : Nat → Nat → Descriptor → Option (List Fd × Descriptor × Option VaStatus)
  | 0, _, d => some ([], d, none)
  | count + 1, i, d =>
    if h : i < 4 then
      let o := prime.objects ⟨i,h⟩
      if o.fd < 0 ∨ o.size = 0 ∨ o.modifier ≠ 0 then some ([], d, some .unsupportedRtFormat)
      else
        match dup i o.fd with
        | .error e => some ([], d, some (statusFromErrno e))
        | .ok fd =>
          (importObjects count (i + 1) (d.setObject ⟨i,h⟩ ⟨fd,o.size.toUInt64⟩)).map
            (Prod.map (fd :: ·) id)
    else none

def primeImportNv12Linear : Option Imported :=
  if !importArgumentsValid prime bufferId width height || prime.numObjects == 0 ||
      prime.numObjects > 4 then some { result := .error .invalidParameter }
  else
    (importObjects dup prime prime.numObjects.toNat 0
      (importedHead prime bufferId width height 0)).map fun
    | (opened, d, some status) => ⟨.error status,opened,closableFds d⟩
    | (opened, d, none) =>
      match copyPrimeLayout prime d with
      | none => ⟨.error .unsupportedRtFormat,opened,closableFds d⟩
      | some d =>
        if validateLinearNv12 cloexec d false then ⟨.ok d,opened,[]⟩
        else ⟨.error .unsupportedRtFormat,opened,closableFds d⟩

def primeImportNv12Modifier (allowedModifier : UInt64) : Option Imported :=
  let o := prime.objects 0
  if allowedModifier = 0 then primeImportNv12Linear dup cloexec prime bufferId width height
  else if allowedModifier ≠ qcomCompressed ∨ !importArgumentsValid prime bufferId width height ∨
      prime.numObjects ≠ 1 ∨ o.fd < 0 ∨ o.size = 0 ∨ o.modifier ≠ allowedModifier then
    some { result := .error .unsupportedRtFormat }
  else
    match dup 0 o.fd with
    | .error e => some { result := .error (statusFromErrno e) }
    | .ok fd =>
      let d := (importedHead prime bufferId width height allowedModifier).setObject 0
        ⟨fd,o.size.toUInt64⟩
      match copyPrimeLayout prime d with
      | none => some ⟨.error .unsupportedRtFormat,[fd],closableFds d⟩
      | some d =>
        if ([0,1].all fun i => (d.planes i).objectIndex == 0 && (d.planes i).pitch != 0 &&
            decide ((d.planes i).offset < (d.objects 0).size)) && descriptorValidate cloexec d then
          some ⟨.ok d,[fd],[]⟩
        else some ⟨.error .unsupportedRtFormat,[fd],closableFds d⟩
end

/-- `VAGenericValue`; a pointer leads to the array of descriptors. -/
inductive GenericValue where
  | integer (value : UInt32)
  | pointer (primes : Option (Nat → Prime))
  | other

/-- `VASurfaceAttrib`. -/
inductive ImportAttrib where
  | memoryType (value : GenericValue)
  | externalBufferDescriptor (value : GenericValue)
  | pixelFormat (value : GenericValue)
  | usageHint (value : GenericValue)
  | none
  | unknown

def memTypeDrmPrime2 : UInt32 := 0x40000000

/-- The attribute loop: whether there was a memory type, and the descriptors. -/
def scanAttributes : Bool → Option (Nat → Prime) → List ImportAttrib →
    Except VaStatus (Bool × Option (Nat → Prime))
  | haveMemoryType, primes, [] => .ok (haveMemoryType, primes)
  | haveMemoryType, primes, first :: rest =>
    match first with
    | .memoryType (.integer value) =>
      if haveMemoryType ∨ value ≠ memTypeDrmPrime2 then .error .unsupportedMemoryType
      else scanAttributes true primes rest
    | .memoryType _ => .error .unsupportedMemoryType
    | .externalBufferDescriptor (.pointer (some found)) =>
      if primes.isSome then .error .invalidParameter
      else scanAttributes haveMemoryType (some found) rest
    | .externalBufferDescriptor _ => .error .invalidParameter
    | .pixelFormat (.integer value) =>
      if value ≠ fourccNv12 then .error .unsupportedRtFormat
      else scanAttributes haveMemoryType primes rest
    | .pixelFormat _ => .error .unsupportedRtFormat
    | .usageHint (.integer _) | .none => scanAttributes haveMemoryType primes rest
    | .usageHint _ => .error .invalidParameter
    | .unknown => .error .attrNotSupported

/-- The loop over the modifiers from object `i` on; `none` reads behind the four objects. -/
def modifiersAgree (prime : Prime) : Nat → Nat → Option Bool
  | 0, _ => some true
  | count + 1, i =>
    if h : i < 4 then
      if (prime.objects ⟨i,h⟩).modifier ≠ (prime.objects 0).modifier then some false
      else modifiersAgree prime count (i + 1)
    else none

section
variable (dup : Nat → Fd → Except Errno Fd) (cloexec : Fd → Bool)
variable (format width height : UInt32) (attributes : List ImportAttrib)
variable (surfaceIndex numSurfaces : UInt32) (bufferId : UInt64)
/-- The descriptor that the attributes name. -/
def attributedPrime : Except VaStatus Prime :=
  if format ≠ rtFormatYuv420 ∨ attributes = [] ∨ surfaceIndex ≥ numSurfaces ∨ numSurfaces = 0 then
    .error .invalidParameter
  else
    match scanAttributes false none attributes with
    | .error status => .error status
    | .ok (true, some primes) =>
      let prime := primes surfaceIndex.toNat
      if prime.numObjects = 0 then .error .invalidParameter else .ok prime
    | .ok _ => .error .invalidParameter

/-- `none` reads outside the arrays of the descriptor. -/
def primeImportSurfaceAttributes : Option Imported :=
  match attributedPrime format attributes surfaceIndex numSurfaces with
  | .error status => some { result := .error status }
  | .ok prime =>
    match modifiersAgree prime (prime.numObjects.toNat - 1) 1 with
    | none => none
    | some false => some { result := .error .unsupportedRtFormat }
    | some true => primeImportNv12Modifier dup cloexec prime bufferId width height
        (prime.objects 0).modifier

private theorem modifiersAgree_eq_none {prime : Prime} {count i : Nat} (hi : i ≤ 4) :
    modifiersAgree prime count i = none ↔ 4 < i + count ∧
    ∀ j : Fin 4, i ≤ j.val → (prime.objects j).modifier = (prime.objects 0).modifier := by
  induction count generalizing i with
  | zero => simpa [modifiersAgree] using fun h => absurd h (by omega)
  | succ count ih =>
    rw [modifiersAgree]
    split
    · rename_i hlt
      split
      · rename_i hne
        simpa using fun _ => ⟨⟨i,hlt⟩,Nat.le_refl i,hne⟩
      · rename_i heq
        refine (ih hlt).trans (and_congr (by omega) ⟨fun h j hj => ?_,fun h j hj => h j (by omega)⟩)
        rcases Nat.eq_or_lt_of_le hj with hij | hij
        · obtain rfl : j = ⟨i,hlt⟩ := Fin.ext hij.symm
          exact not_not.mp heq
        · exact h j hij
    · simp only [true_iff]
      exact ⟨by omega,fun j hj => absurd j.isLt (by omega)⟩

private theorem importObjects_isSome {prime : Prime} {count i : Nat} {d : Descriptor}
    (h : i + count ≤ 4) :
    (importObjects dup prime count i d).isSome := by
  induction count generalizing i d with
  | zero => rfl
  | succ count ih =>
    rw [importObjects,dif_pos (by omega)]
    dsimp only
    split
    · rfl
    split
    · rfl
    · rw [Option.isSome_map]
      exact ih (by omega)

private theorem primeImportNv12Modifier_isSome {prime : Prime} {modifier : UInt64} :
    (primeImportNv12Modifier dup cloexec prime bufferId width height modifier).isSome := by
  unfold primeImportNv12Modifier primeImportNv12Linear
  dsimp only
  split
  · split
    · rfl
    rename_i hvalid
    simp only [Bool.or_eq_true,decide_eq_true_eq,not_or,gt_iff_lt,UInt32.not_lt] at hvalid
    have hfour : prime.numObjects.toNat ≤ 4 := hvalid.2
    rw [Option.isSome_map]
    exact importObjects_isSome dup (by omega)
  · repeat' split
    all_goals rfl

private theorem primeImportNv12Modifier_valid {prime : Prime} {modifier : UInt64}
    {imported : Imported}
    {d : Descriptor} (h : primeImportNv12Modifier dup cloexec prime bufferId width height modifier =
      some imported) (hd : imported.result = .ok d) : descriptorValidate cloexec d := by
  unfold primeImportNv12Modifier at h
  dsimp only at h
  split at h
  · unfold primeImportNv12Linear at h
    split at h
    · cases h
      cases hd
    obtain ⟨⟨opened,d',status⟩, -,rfl⟩ := Option.map_eq_some_iff.mp h
    cases status with
    | some status => cases hd
    | none =>
      dsimp only at hd
      split at hd
      · cases hd
      split at hd
      · rename_i hvalid
        cases hd
        exact (validateLinearNv12_iff.mp hvalid).1.1
      · cases hd
  iterate 3
    split at h
    · cases h
      cases hd
  split at h
  · rename_i hvalid
    cases h
    cases hd
    exact (Bool.and_eq_true_iff.mp hvalid).2
  · cases h
    cases hd

/-- An import reads outside the descriptor if and only if more than four objects are declared and the
four that there are have the same modifier. What it returns is valid. -/
theorem primeImportSurfaceAttributes_bounds :
    ((primeImportSurfaceAttributes dup cloexec format width height attributes surfaceIndex
      numSurfaces bufferId).isSome ↔
      ∀ prime, attributedPrime format attributes surfaceIndex numSurfaces = .ok prime →
      prime.numObjects ≤ 4 ∨ ∃ i, (prime.objects i).modifier ≠ (prime.objects 0).modifier) ∧
    ∀ imported d, primeImportSurfaceAttributes dup cloexec format width height attributes
      surfaceIndex numSurfaces bufferId = some imported → imported.result = .ok d →
      descriptorValidate cloexec d := by
  unfold primeImportSurfaceAttributes
  cases hprime : attributedPrime format attributes surfaceIndex numSurfaces with
  | error status =>
    refine ⟨by simp,fun imported d himported hd => ?_⟩
    cases himported
    cases hd
  | ok prime =>
    have hnone : modifiersAgree prime (prime.numObjects.toNat - 1) 1 = none ↔
        ¬(prime.numObjects ≤ 4 ∨ ∃ i, (prime.objects i).modifier ≠ (prime.objects 0).modifier) := by
      rw [modifiersAgree_eq_none (by decide),not_or,not_exists,UInt32.le_iff_toNat_le]
      refine and_congr (by change _ ↔ ¬prime.numObjects.toNat ≤ 4; omega)
        ⟨fun h i => not_not.mpr ?_,fun h i _ => not_not.mp (h i)⟩
      by_cases hi : i = 0
      · rw [hi]
      · exact h i (Nat.pos_of_ne_zero fun hz => hi (Fin.ext hz))
    simp only [Except.ok.injEq,forall_eq']
    rw [iff_not_comm.mp hnone]
    cases hagree : modifiersAgree prime (prime.numObjects.toNat - 1) 1 with
    | none => exact ⟨by simp,nofun⟩
    | some agree =>
      refine ⟨by cases agree <;> simp [primeImportNv12Modifier_isSome],
        fun imported d himported hd => ?_⟩
      cases agree with
      | false =>
        cases himported
        cases hd
      | true => exact primeImportNv12Modifier_valid _ _ _ _ _ himported hd

def sharedPrime (numObjects : UInt32) : Prime :=
  { fourcc := fourccNv12, width := 16, height := 16, numObjects := numObjects
    objects := fun _ => ⟨5,384,0⟩, numLayers := 1
    layers := fun _ => ⟨fourccNv12,2,fun _ => 0,fun p => if p = 0 then 0 else 256,fun _ => 16⟩ }

def importShared (numObjects : UInt32) : Option Imported :=
  primeImportSurfaceAttributes (fun _ _ => .ok 7) (fun _ => true) rtFormatYuv420 16 16
    [.memoryType (.integer memTypeDrmPrime2),
      .externalBufferDescriptor (.pointer (some fun _ => sharedPrime numObjects))] 0 1 1

theorem primeImportSurfaceAttributes_bounds_shared :
    ∃ imported d, importShared 1 = some imported ∧ imported.result = .ok d ∧
    descriptorValidate (fun _ => true) d := by
  have hok : (importShared 1).any fun imported => imported.result.toBool := by decide +kernel
  obtain ⟨imported,himported,hresult⟩ := (Option.any_eq_true _ _).mp hok
  cases hd : imported.result with
  | error status =>
    rw [hd] at hresult
    cases hresult
  | ok d =>
    exact ⟨imported,d,himported,hd,
      (primeImportSurfaceAttributes_bounds _ _ _ _ _ _ _ _ _).2 imported d himported hd⟩

/-- With five objects declared, the modifier of a fifth one is read. -/
theorem importShared_outside : importShared 5 = none := rfl
end
end LinDeX.Vaapi
