import LinDeX.Dmabuf.Descriptor
import LinDeX.System.Kernel

/-!
# The dma-buf registry

Second half of `dmabuf_ingress.c`: registered buffers, each with duplicated object descriptors,
and the in-flight mark that pins a buffer between submission and completion.
-/
namespace LinDeX.Dmabuf
variable {ω : Type}
structure Entry where
  descriptor : Descriptor
  (inFlight inUse : Bool)
  deriving DecidableEq

def Entry.zero : Entry := ⟨Descriptor.zero,false,false⟩

/-- `struct advc_dmabuf_registry`, its callback apart. -/
structure Registry where
  entries : Fin 16 → Entry
  (registeredCount inflightCount : Nat)
  deriving DecidableEq

/-- The registry `calloc` returns. -/
def Registry.empty : Registry := ⟨fun _ => Entry.zero,0,0⟩
variable (r : Registry)
def Registry.setEntry (i : Fin 16) (e : Entry) : Registry :=
  { r with entries := Function.update r.entries i e }
variable (id : UInt64)
def findEntry : Option (Fin 16) :=
  Fin.find? fun i => (r.entries i).inUse && (r.entries i).descriptor.bufferId == id

/-- The descriptors `close_descriptor` closes. -/
def declaredFds (d : Descriptor) : List Fd :=
  ((List.finRange 4).filter fun i =>
    i.val < d.objectCount.toNat && decide (0 ≤ (d.objects i).fd)).map fun i => (d.objects i).fd
variable (os : Os ω) (w : ω)
/-- `close_descriptor` of a record that is cleared right after. -/
def closeDescriptor (d : Descriptor) : ω × List FdEvent :=
  ((declaredFds d).foldl os.close w, (declaredFds d).map (FdEvent.close .registryObject))

/-- The object loop of `advc_dmabuf_registry_register`. -/
def dupObjects (os : Os ω) (src : Descriptor) :
    List (Fin 4) → ω → Descriptor → List FdEvent → ω × Descriptor × List FdEvent × Option Errno
  | [], w, d, events => (w, d, events, none)
  | i :: is, w, d, events =>
    if i.val < src.objectCount.toNat then
      match os.dup w (src.objects i).fd with
      | (w, .error e) => (w, d, events, some e)
      | (w, .ok fd) =>
        dupObjects os src is w (d.setObject i { d.objects i with fd := fd })
          (events ++ [.gain .registryObject fd])
    else dupObjects os src is w d events

structure RegistryResult (ω α : Type) where
  world : ω
  registry : Registry
  events : List FdEvent
  result : Except Errno α

/-- `advc_dmabuf_registry_register`; `allowed` is the policy callback with the `errno` it sets. -/
def register (allowed : ω → Descriptor → ω × Int × Option Errno) (w : ω)
    (r : Registry) (d : Descriptor) : RegistryResult ω Unit :=
  if !descriptorValidate (os.cloexec w) d then ⟨w,r,[],.error .einval⟩
  else if (findEntry r d.bufferId).isSome then ⟨w,r,[],.error .eexist⟩
  else if r.registeredCount ≥ maxRegisteredDmabufs then ⟨w,r,[],.error .enospc⟩
  else
    let answer := allowed w d
    let w := answer.1
    if answer.2.1 ≤ 0 then
      ⟨w,r,[],.error (if answer.2.1 = 0 then .enotsup else answer.2.2.getD .eio)⟩
    else
      match Fin.find? fun i => !(r.entries i).inUse with
      | none => ⟨w,r,[],.error .enospc⟩
      | some i =>
        let copy := dupObjects os d (List.finRange 4) w d.clearFds []
        match copy.2.2.2 with
        | some e =>
          let closed := closeDescriptor os copy.1 copy.2.1
          ⟨closed.1,r.setEntry i Entry.zero,copy.2.2.1 ++ closed.2,.error e⟩
        | none =>
          ⟨copy.1,{ r.setEntry i ⟨copy.2.1,false,true⟩ with
            registeredCount := r.registeredCount + 1 },copy.2.2.1,.ok ()⟩

def unregister (r : Registry) (id : UInt64) : RegistryResult ω Unit :=
  if id == 0 then ⟨w,r,[],.error .einval⟩
  else
    match findEntry r id with
    | none => ⟨w,r,[],.error .enoent⟩
    | some i =>
      if (r.entries i).inFlight then ⟨w,r,[],.error .ebusy⟩
      else
        let closed := closeDescriptor os w (r.entries i).descriptor
        ⟨closed.1,{ r.setEntry i Entry.zero with
          registeredCount := r.registeredCount - 1 },closed.2,.ok ()⟩

structure Job where
  (bufferId ptsNs : UInt64)
  acquireFenceFd : Fd
  descriptor : Option Descriptor
  deriving DecidableEq

/-- The fence copy of `advc_dmabuf_registry_begin`: `-1` when there is none to copy. -/
def dupFence (fence : Fd) : ω × Except Errno Fd :=
  if 0 ≤ fence then
    match os.dup w fence with
    | (w, .error e) => (w, .error e)
    | (w, .ok fd) => (w, .ok fd)
  else (w, .ok (-1))

def begin (r : Registry) (s : Submission) : RegistryResult ω Job :=
  if s.bufferId == 0 || s.ptsNs > int64Max || s.acquireFenceFd < -1 ||
      (decide (0 ≤ s.acquireFenceFd) && !os.syncFileValidate w s.acquireFenceFd) then
    ⟨w,r,[],.error .einval⟩
  else
    match findEntry r s.bufferId with
    | none => ⟨w,r,[],.error .enoent⟩
    | some i =>
      if (r.entries i).inFlight then ⟨w,r,[],.error .ebusy⟩
      else if r.inflightCount ≥ maxInflightDmabufs then ⟨w,r,[],.error .eagain⟩
      else
        match dupFence os w s.acquireFenceFd with
        | (w, .error e) => ⟨w,r,[],.error e⟩
        | (w, .ok fence) =>
          ⟨w,{ r.setEntry i { r.entries i with inFlight := true } with
              inflightCount := r.inflightCount + 1 },
            fdEvent .gain .jobAcquire fence,
            .ok ⟨s.bufferId,s.ptsNs,fence,some (r.entries i).descriptor⟩⟩

def finish : Registry × Except Errno Unit :=
  if id == 0 then (r, .error .einval)
  else
    match findEntry r id with
    | none => (r, .error .enoent)
    | some i =>
      if !(r.entries i).inFlight then (r, .error .ealready)
      else
        ({ r.setEntry i { r.entries i with inFlight := false } with
          inflightCount := r.inflightCount - 1 }, .ok ())

/-- `advc_dmabuf_registry_destroy`: the objects of every used entry are closed. -/
def registryDestroy (r : Registry) : ω × List FdEvent :=
  (List.finRange 16).foldl (fun acc i =>
    if (r.entries i).inUse then
      let closed := closeDescriptor os acc.1 (r.entries i).descriptor
      (closed.1, acc.2 ++ closed.2)
    else acc) (w, [])
end LinDeX.Dmabuf
