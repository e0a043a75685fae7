import LinDeX.Repack.Cache
import LinDeX.System.Kernel

/-!
# The pool of linear destinations

The repack pool of `turnip_prime_import.c`: compressed dma-bufs are imported and copied into linear
destinations, which are leased under a token. Any answer of the Vulkan driver may be a failure.
-/
namespace LinDeX.Repack
open Dmabuf Function
variable {ω : Type} {n : Nat}
/-- The part of `VkSubresourceLayout` that is read. -/
structure Layout where
  (offset rowPitch : UInt64)
  deriving DecidableEq, Repr

/-- The planes of an image are written as numerals of `Fin 2`. -/
instance two_neZero : NeZero (2 : Nat) := ⟨Nat.succ_ne_zero 1⟩

structure Memory where
  size : UInt64
  layouts : Fin 2 → Layout

/-- `struct repack_destination_slot`; `extent` is the extent that `image` was created with. -/
structure Destination where
  signature : Signature
  (signatureValid hasContent : Bool)
  pendingReleaseFence : Fd
  extent : UInt32 × UInt32
  memory : Memory
  submitted : Bool

def Destination.empty : Destination :=
  { signature := Signature.zero
    signatureValid := false
    hasContent := false
    pendingReleaseFence := -1
    extent := (0, 0)
    memory := ⟨0,fun _ => ⟨0,0⟩⟩
    submitted := false }

/-- `struct repack_source_slot`: what a live import was made from. -/
structure Import where
  identity : Identity
  signature : Signature

/-- `struct advc_turnip_linear_repack_pool` with `n` slots. -/
structure Pool (n : Nat) where
  attached : Bool
  (useClock nextToken : UInt64)
  sources : Fin n → Option Import
  sourceKeys : Fin n → SourceKey
  destinations : Fin n → Destination
  leases : Fin n → LeaseKey

def Pool.create (n : Nat) : Pool n :=
  { attached := false
    useClock := 0
    nextToken := 0
    sources := fun _ => none
    sourceKeys := fun _ => SourceKey.zero
    destinations := fun _ => Destination.empty
    leases := fun _ => LeaseKey.clear }

structure Gpu (ω : Type) where
  /-- `initialize_repack_shared`. -/
  attach : ω → ω × Except Errno Unit
  /-- `fstat`, as far as it identifies the file. -/
  fileIdentity : ω → Fd → Except Errno Identity
  /-- `create_repack_source_locked`. -/
  importSource : ω → Descriptor → ω × Except Errno Unit
  /-- Image, memory, command pool, semaphores and fence of a destination of the given extent. -/
  createImage : ω → UInt32 → UInt32 → ω × Except Errno Memory
  /-- `get_memory_fd` and `set_cloexec`. -/
  exportMemory : ω → Destination → ω × Except Errno Nat
  /-- From the wait for the slot's last submission to the validation of both fences: the acquire
  fence and the release fence of the source. -/
  copy : ω → Destination → Descriptor → Fd → ω × Except Errno (Nat × Nat)
  /-- `errno`, where no call of the code at hand has set it. -/
  errno : ω → Errno

/-- `struct advc_turnip_linear_repack_result`. -/
structure Repacked where
  descriptor : Descriptor
  (acquireFence sourceReleaseFence : Fd)
  leaseToken : UInt64

/-- The descriptors that `advc_turnip_linear_repack_close` closes. -/
def Repacked.fds (r : Repacked) : List Fd :=
  closableFds r.descriptor ++ [r.acquireFence,r.sourceReleaseFence].filter fun fd => decide (0 ≤ fd)

structure Outcome (ω : Type) (n : Nat) (α : Type) where
  world : ω
  pool : Pool n
  result : Except Errno α
variable (gpu : Gpu ω) (os : Os ω) (w : ω) (p : Pool n) (i : Fin n)
/-- `destroy_repack_destination_locked`. -/
def destroyDestination : ω × Pool n :=
  (os.closeIfOpen w (p.destinations i).pendingReleaseFence,
    { p with destinations := update p.destinations i .empty })

def Pool.drop : ω × Pool n :=
  let (w, p) := destroyDestination os w p i
  (w, { p with leases := update p.leases i .clear })

def memoryValid (m : Memory) : Bool :=
  (List.finRange 2).all fun i =>
    let l := m.layouts i
    !(l.rowPitch == 0 || l.rowPitch > 0xffffffff || l.offset ≥ m.size ||
      l.rowPitch > m.size - l.offset)

/-- `create_repack_destination_locked`. -/
def createDestination (signature : Signature) : Outcome ω n Unit :=
  match gpu.createImage w signature.width signature.height with
  | (w, .error e) =>
    let (w, p) := destroyDestination os w p i
    ⟨w,p,.error e⟩
  | (w, .ok memory) =>
    if memory.size == 0 || memory.size > maxDmabufObjectBytes then
      let (w, p) := destroyDestination os w p i
      ⟨w,p,.error .eoverflow⟩
    else if !memoryValid memory then
      let (w, p) := destroyDestination os w p i
      ⟨w,p,.error .eproto⟩
    else
      let slot := { p.destinations i with
        signature := signature
        signatureValid := true
        extent := (signature.width, signature.height)
        memory := memory
        pendingReleaseFence := -1 }
      ⟨w,{ p with destinations := update p.destinations i slot },.ok ()⟩
variable (slot : Destination)
/-- The descriptor that `export_repack_destination_locked` fills in. -/
def exportedDescriptor (source : Descriptor) (bufferId : UInt64) (fd : Nat) :
    Descriptor :=
  let plane (i : Fin 2) : Plane :=
    ⟨0,(slot.memory.layouts i).offset,(slot.memory.layouts i).rowPitch.toUInt32⟩
  { bufferId := bufferId
    width := source.width
    height := source.height
    drmFourcc := source.drmFourcc
    explicitFlags := explicitAll
    drmModifier := 0
    cropLeft := source.cropLeft
    cropTop := source.cropTop
    cropWidth := source.cropWidth
    cropHeight := source.cropHeight
    objectCount := 1
    planeCount := 2
    colorPrimaries := source.colorPrimaries
    colorTransfer := source.colorTransfer
    colorMatrix := source.colorMatrix
    colorRange := source.colorRange
    chromaHorizontal := source.chromaHorizontal
    chromaVertical := source.chromaVertical
    objects := fun i => if i = 0 then ⟨fd,slot.memory.size⟩ else ⟨-1,0⟩
    planes := fun i => if i = 0 then plane 0 else if i = 1 then plane 1 else ⟨0,0,0⟩ }

/-- `advc_dmabuf_descriptor_close`. -/
def closeDescriptor (d : Descriptor) : ω := (closableFds d).foldl os.close w

/-- `export_repack_destination_locked`. -/
def exportDestination (source : Descriptor) (bufferId : UInt64) : ω × Except Errno Descriptor :=
  match gpu.exportMemory w slot with
  | (w, .error e) => (w, .error e)
  | (w, .ok fd) =>
    let d := exportedDescriptor slot source bufferId fd
    if descriptorValidate (os.cloexec w) d then (w, .ok d)
    else (closeDescriptor os w d, .error .einval)

/-- `attach_repack_pool_locked`. -/
def Pool.attach (gpu : Gpu ω) (w : ω) (p : Pool n) : Outcome ω n Unit :=
  if p.attached then ⟨w,p,.ok ()⟩
  else
    match gpu.attach w with
    | (w, .error e) => ⟨w,p,.error e⟩
    | (w, .ok ()) => ⟨w,{ p with attached := true },.ok ()⟩

/-- `(side + 15u) & ~15u`. -/
def align16 (side : UInt32) : UInt32 := (side + 15) &&& ~~~15

def nv12 : UInt32 := 0x3231564e
def qcomCompressed : UInt64 := 0x0500000000000001
variable (width height : UInt32) (reservationId : UInt64)
/-- `metadata` of `advc_turnip_linear_repack_pool_reserve`. -/
def reserveMetadata : Descriptor :=
  { Descriptor.zero.clearFds with
    bufferId := reservationId
    width := width
    height := height
    drmFourcc := nv12
    explicitFlags := explicitAll
    cropWidth := width
    cropHeight := height
    objectCount := 1
    planeCount := 2 }

/-- The signature of `allocation_metadata`. -/
def reserveSignature : Signature :=
  .make { reserveMetadata width height reservationId with
          width := align16 width
          height := align16 height
          cropWidth := align16 width
          cropHeight := align16 height }

def Destination.sized : Bool :=
  !(!slot.signatureValid || slot.signature.width != width || slot.signature.height != height)

/-- The slot is used as it is if it was made for the given size, and made anew otherwise. -/
def provideDestination (signature : Signature) : Outcome ω n Unit :=
  if (p.destinations i).sized width height then ⟨w,p,.ok ()⟩
  else
    let (w, p) := destroyDestination os w p i
    createDestination gpu os w p i signature

def reserveArgumentsValid : Bool :=
  !(reservationId == 0 || width < 16 || width > 8192 || height < 16 || height > 8192 ||
    (width &&& 1) != 0 || (height &&& 1) != 0)

def Pool.fail {α : Type} (os : Os ω) (w : ω) (p : Pool n) (i : Fin n) (e : Errno) :
    Outcome ω n α :=
  let (w, p) := p.drop os w i
  ⟨w,p,.error e⟩

/-- `advc_turnip_linear_repack_pool_reserve` from the leased slot on. -/
def reserveInto (token : UInt64)
    (width height : UInt32) (reservationId : UInt64) : Outcome ω n Repacked :=
  match provideDestination gpu os w p i width height
      (reserveSignature width height reservationId) with
  | ⟨w,p,.error e⟩ => p.fail os w i e
  | ⟨w,p,.ok ()⟩ =>
    match exportDestination gpu os w (p.destinations i)
        (reserveMetadata width height reservationId) reservationId with
    | (w, .error e) => p.fail os w i e
    | (w, .ok d) => ⟨w,p,.ok ⟨d, -1, -1,token⟩⟩

def reserve : Outcome ω n Repacked :=
  if !reserveArgumentsValid width height reservationId then ⟨w,p,.error .einval⟩
  else
    match p.attach gpu w with
    | ⟨w,p,.error e⟩ => ⟨w,p,.error e⟩
    | ⟨w,p,.ok ()⟩ =>
      let acquired := leaseAcquire p.leases p.nextToken
      let p := { p with leases := acquired.keys, nextToken := acquired.next }
      match acquired.result with
      | .error e => ⟨w,p,.error e⟩
      | .ok (i, token) => reserveInto gpu os w p i token width height reservationId

/-- `advc_repack_fd_identity_from_fd`. -/
def fdIdentity (fd : Fd) : Except Errno Identity :=
  if fd < 0 then .error .einval else gpu.fileIdentity w fd

def repackArgumentsValid (cloexec : Fd → Bool) (source : Descriptor) (fence : Fd)
    (bufferId : UInt64) : Bool :=
  !(bufferId == 0 || fence < -1 || !descriptorValidate cloexec source ||
    source.drmFourcc != nv12 || source.drmModifier != qcomCompressed || source.objectCount != 1 ||
    source.planeCount != 2 || (source.planes 0).objectIndex != 0 ||
    (source.planes 1).objectIndex != 0 || (source.width &&& 1) != 0 || (source.height &&& 1) != 0)

/-- The source slot of a repack: an exact match is used, any other slot is imported anew. -/
def takeSource (identity : Identity) (signature : Signature)
    (source : Descriptor) : Outcome ω n (Fin n) :=
  let touch (p : Pool n) (i : Fin n) : Pool n :=
    { p with
      useClock := p.useClock + 1
      sourceKeys := update p.sourceKeys i
        { p.sourceKeys i with lastUse := p.useClock + 1 } }
  match sourceKeySelect p.sourceKeys identity signature with
  | (none, _) => ⟨w,p,.error .enospc⟩
  | (some i, true) => ⟨w,touch p i,.ok i⟩
  | (some i, false) =>
    let p := { p with
      sources := update p.sources i none
      sourceKeys := update p.sourceKeys i SourceKey.zero }
    match gpu.importSource w source with
    | (w, .error e) => ⟨w,p,.error e⟩
    | (w, .ok ()) =>
      let p := { p with
        sources := update p.sources i (some ⟨identity,signature⟩)
        sourceKeys := update p.sourceKeys i ⟨true,identity,signature,0⟩ }
      ⟨w,touch p i,.ok i⟩

def slotAdmits (signature : Signature) : Bool :=
  !(!slot.signatureValid || slot.signature.width < signature.width ||
    slot.signature.height < signature.height)

/-- The export and the copy of `repack_linear_pooled_internal`. -/
def copyInto (token : UInt64)
    (source : Descriptor) (fence : Fd) (bufferId : UInt64) : Outcome ω n Repacked :=
  match exportDestination gpu os w (p.destinations i) source bufferId with
  | (w, .error e) => p.fail os w i e
  | (w, .ok d) =>
    match gpu.copy w (p.destinations i) source fence with
    | (w, .error e) => p.fail os (closeDescriptor os w d) i e
    | (w, .ok (acquire, release)) =>
      let slot := { p.destinations i with
        submitted := true
        pendingReleaseFence := -1
        hasContent := true }
      ⟨w,{ p with destinations := update p.destinations i slot },.ok ⟨d,acquire,release,token⟩⟩

def repackLease (requested : UInt64) : Acquired n :=
  if requested != 0 then
    ⟨p.leases,p.nextToken,(leaseFind p.leases requested).map fun i => (i, requested)⟩
  else leaseAcquire p.leases p.nextToken

/-- `repack_linear_pooled_internal` from the leased slot on. -/
def repackInto (requested token : UInt64)
    (source : Descriptor) (fence : Fd) (bufferId : UInt64) : Outcome ω n Repacked :=
  let signature := Signature.make source
  if requested != 0 then
    if !slotAdmits (p.destinations i) signature then p.fail os w i .eproto
    else copyInto gpu os w p i token source fence bufferId
  else
    match provideDestination gpu os w p i signature.width signature.height signature with
    | ⟨w,p,.error e⟩ => p.fail os w i e
    | ⟨w,p,.ok ()⟩ => copyInto gpu os w p i token source fence bufferId

def repackLinearPooledInternal (requested : UInt64)
    (source : Descriptor) (fence : Fd) (bufferId : UInt64) : Outcome ω n Repacked :=
  if !repackArgumentsValid (os.cloexec w) source fence bufferId then ⟨w,p,.error .einval⟩
  else if decide (0 ≤ fence) && !os.syncFileValidate w fence then ⟨w,p,.error (gpu.errno w)⟩
  else
    match fdIdentity gpu w (source.objects 0).fd with
    | .error e => ⟨w,p,.error e⟩
    | .ok identity =>
      match p.attach gpu w with
      | ⟨w,p,.error e⟩ => ⟨w,p,.error e⟩
      | ⟨w,p,.ok ()⟩ =>
        match takeSource gpu w p identity (.make source) source with
        | ⟨w,p,.error e⟩ => ⟨w,p,.error e⟩
        | ⟨w,p,.ok _⟩ =>
          let acquired := repackLease p requested
          let p := { p with leases := acquired.keys, nextToken := acquired.next }
          match acquired.result with
          | .error e => ⟨w,p,.error e⟩
          | .ok (i, token) => repackInto gpu os w p i requested token source fence bufferId

def repackLinearPooled (source : Descriptor)
    (fence : Fd) (bufferId : UInt64) : Outcome ω n Repacked :=
  repackLinearPooledInternal gpu os w p 0 source fence bufferId

def repackLinearReserved (token : UInt64)
    (source : Descriptor) (fence : Fd) (bufferId : UInt64) : Outcome ω n Repacked :=
  if token == 0 then ⟨w,p,.error .einval⟩
  else repackLinearPooledInternal gpu os w p token source fence bufferId

def Pool.find (token : UInt64) : Except Errno (Fin n) :=
  if !p.attached then .error (gpu.errno w) else leaseFind p.leases token

def poolRelease (token : UInt64) (fence : Fd) :
    Outcome ω n Unit :=
  let finish (w : ω) (duplicate : Fd) : Outcome ω n Unit :=
    match p.find gpu w token with
    | .error e => ⟨os.closeIfOpen w duplicate,p,.error e⟩
    | .ok i =>
      let slot := p.destinations i
      ⟨os.closeIfOpen w slot.pendingReleaseFence,{ p with
          destinations := update p.destinations i
            { slot with pendingReleaseFence := duplicate }
          leases := update p.leases i .clear },.ok ()⟩
  if token == 0 || decide (fence < -1) then ⟨w,p,.error .einval⟩
  else if fence < 0 then finish w (-1)
  else if !os.syncFileValidate w fence then ⟨w,p,.error (gpu.errno w)⟩
  else
    match os.dup w fence with
    | (w, .error e) => ⟨w,p,.error e⟩
    | (w, .ok duplicate) => finish w duplicate

def poolDiscard (token : UInt64) :
    Outcome ω n Unit :=
  if token == 0 then ⟨w,p,.error .einval⟩
  else
    match p.find gpu w token with
    | .error e => ⟨w,p,.error e⟩
    | .ok i =>
      let (w, p) := p.drop os w i
      ⟨w,p,.ok ()⟩
end LinDeX.Repack
