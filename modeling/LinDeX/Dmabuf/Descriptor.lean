import LinDeX.Protocol.Wire
import Mathlib.Data.Fintype.Pi

/-!
# dma-buf descriptors

The record layer of `dmabuf_ingress.c`: structural validation, the 256-byte registration record
and the two small records that name a registered buffer.
-/
namespace LinDeX.Dmabuf
open Bytes
/-- Object and plane numbers are written as numerals of `Fin 4`. -/
instance four_neZero : NeZero (4 : Nat) := ⟨Nat.succ_ne_zero 3⟩

structure Object where
  fd : Fd
  size : UInt64
  deriving DecidableEq, Repr

structure Plane where
  objectIndex : UInt32
  offset : UInt64
  pitch : UInt32
  deriving DecidableEq, Repr

structure Descriptor where
  bufferId : UInt64
  (width height drmFourcc explicitFlags : UInt32)
  drmModifier : UInt64
  (cropLeft cropTop cropWidth cropHeight objectCount planeCount colorPrimaries : UInt32)
  (colorTransfer colorMatrix colorRange chromaHorizontal chromaVertical : UInt32)
  objects : Fin 4 → Object
  planes : Fin 4 → Plane
  deriving DecidableEq

/-- The descriptor after `memset(d, 0, sizeof(*d))`. -/
def Descriptor.zero : Descriptor :=
  { bufferId := 0, width := 0, height := 0, drmFourcc := 0, explicitFlags := 0, drmModifier := 0,
    cropLeft := 0, cropTop := 0, cropWidth := 0, cropHeight := 0, objectCount := 0,
    planeCount := 0, colorPrimaries := 0, colorTransfer := 0, colorMatrix := 0, colorRange := 0,
    chromaHorizontal := 0, chromaVertical := 0, objects := fun _ => ⟨0,0⟩,
    planes := fun _ => ⟨0,0,0⟩ }
variable (d : Descriptor) (i : Fin 4)
def Descriptor.setObject (o : Object) : Descriptor :=
  { d with objects := Function.update d.objects i o }

/-- Every object descriptor reset to `-1`, sizes kept. -/
def Descriptor.clearFds : Descriptor :=
  { d with objects := fun i => { d.objects i with fd := -1 } }

/-- The first `count` object descriptors reset to `-1`. -/
def Descriptor.dropFds (count : Nat) : Descriptor :=
  { d with objects := fun i => if i.val < count then { d.objects i with fd := -1 }
      else d.objects i }

def explicitAll : UInt32 := 7

def validColor : Bool :=
  !(d.colorPrimaries > 4 || d.colorTransfer > 5 || d.colorMatrix > 4 || d.colorRange > 2 ||
      d.chromaHorizontal > 2 || d.chromaVertical > 2) &&
    !(d.colorMatrix == 1 && (d.chromaHorizontal != 0 || d.chromaVertical != 0))

/-- The head checks of `advc_dmabuf_descriptor_validate`. -/
def headValid : Bool :=
  !(d.bufferId == 0 || d.width < 16 || d.width > 8192 || d.height < 16 || d.height > 8192 ||
    d.drmFourcc == 0 || d.drmModifier == 0xffffffffffffffff || d.explicitFlags != explicitAll ||
    d.objectCount == 0 || d.objectCount > 4 || d.planeCount == 0 || d.planeCount > 4 ||
    d.cropWidth == 0 || d.cropHeight == 0 || !validColor d)

def cropValid : Bool :=
  !(d.cropLeft.toUInt64 + d.cropWidth.toUInt64 > d.width.toUInt64 ||
    d.cropTop.toUInt64 + d.cropHeight.toUInt64 > d.height.toUInt64)
variable (cloexec : Fd → Bool)
/-- Object `i` of the two object loops: a live close-on-exec descriptor unlike the earlier ones
below `object_count`, an untouched record from there on. -/
def objectValid (d : Descriptor) (i : Fin 4) : Bool :=
  let o := d.objects i
  if i.val < d.objectCount.toNat then
    (decide (0 ≤ o.fd) && cloexec o.fd) && o.size != 0 && !(o.size > maxDmabufObjectBytes) &&
      (List.finRange 4).all fun j => !(j < i && (d.objects j).fd == o.fd)
  else o.fd == -1 && o.size == 0

/-- Plane `i` of the two plane loops. -/
def planeValid : Bool :=
  let p := d.planes i
  if i.val < d.planeCount.toNat then
    !(p.objectIndex ≥ d.objectCount || p.pitch == 0 || p.pitch > maxDmabufPitch) &&
      (let size := (d.objects (Fin.ofNat 4 p.objectIndex.toNat)).size
       !(p.offset ≥ size || p.pitch.toUInt64 > size - p.offset))
  else p.objectIndex == 0 && p.offset == 0 && p.pitch == 0

/-- `advc_dmabuf_descriptor_validate`; `cloexec` answers `fcntl(fd, F_GETFD) & FD_CLOEXEC`.
Every failure sets `EINVAL`, so the order of the checks is not observable. -/
def descriptorValidate (d : Descriptor) : Bool :=
  headValid d && cropValid d && (List.finRange 4).all (objectValid cloexec d) &&
    (List.finRange 4).all (planeValid d)

/-- Objects that `advc_dmabuf_descriptor_close` closes: declared, not negative, and not equal to
an earlier declared one. -/
def closableFds : List Fd :=
  (List.finRange 4).filterMap fun i =>
    if i.val < d.objectCount.toNat && decide (0 ≤ (d.objects i).fd) &&
        (List.finRange 4).all fun j => !(j < i && (d.objects j).fd == (d.objects i).fd)
    then some (d.objects i).fd else none

def objectRecord : Nat := 96 + i.val * 16
def planeRecord : Nat := 160 + i.val * 24
variable (p : List UInt8)
def putHead (d : Descriptor) : List UInt8 :=
  let p := putU64 p 0 d.bufferId
  let p := putU32 p 8 d.width
  let p := putU32 p 12 d.height
  let p := putU32 p 16 d.drmFourcc
  let p := putU32 p 20 d.explicitFlags
  let p := putU64 p 24 d.drmModifier
  let p := putU32 p 32 d.cropLeft
  let p := putU32 p 36 d.cropTop
  let p := putU32 p 40 d.cropWidth
  let p := putU32 p 44 d.cropHeight
  let p := putU32 p 48 d.objectCount
  let p := putU32 p 52 d.planeCount
  let p := putU32 p 56 d.colorPrimaries
  let p := putU32 p 60 d.colorTransfer
  let p := putU32 p 64 d.colorMatrix
  let p := putU32 p 68 d.colorRange
  let p := putU32 p 72 d.chromaHorizontal
  putU32 p 76 d.chromaVertical

def putObject (i : Fin 4) : List UInt8 :=
  if i.val < d.objectCount.toNat then
    putU64 (putU32 p (objectRecord i) (UInt32.ofNat i.val)) (objectRecord i + 8)
      (d.objects i).size
  else p

def putPlane (i : Fin 4) : List UInt8 :=
  if i.val < d.planeCount.toNat then
    putU32 (putU64 (putU32 p (planeRecord i) (d.planes i).objectIndex) (planeRecord i + 8)
      (d.planes i).offset) (planeRecord i + 16) (d.planes i).pitch
  else p

/-- `advc_dmabuf_registration_encode`: the payload and the descriptors sent with it. -/
def registrationEncode (d : Descriptor) : Option (List UInt8 × List Fd) :=
  if descriptorValidate cloexec d then
    let p := putHead (zeros 256) d
    let p := (List.finRange 4).foldl (putObject d) p
    let p := (List.finRange 4).foldl (putPlane d) p
    some (p, ((List.finRange 4).filter fun i => i.val < d.objectCount.toNat).map
      fun i => (d.objects i).fd)
  else none

/-- The fixed fields of `advc_dmabuf_registration_decode`, before objects and planes. -/
def getHead : Descriptor :=
  { Descriptor.zero with
    bufferId := getU64 p 0
    width := getU32 p 8
    height := getU32 p 12
    drmFourcc := getU32 p 16
    explicitFlags := getU32 p 20
    drmModifier := getU64 p 24
    cropLeft := getU32 p 32
    cropTop := getU32 p 36
    cropWidth := getU32 p 40
    cropHeight := getU32 p 44
    objectCount := getU32 p 48
    planeCount := getU32 p 52
    colorPrimaries := getU32 p 56
    colorTransfer := getU32 p 60
    colorMatrix := getU32 p 64
    colorRange := getU32 p 68
    chromaHorizontal := getU32 p 72
    chromaVertical := getU32 p 76
    objects := fun _ => ⟨-1,0⟩ }
variable (fds : List Fd) (fdCount : UInt16)
/-- One round of the object loop; the second component is the bitmask `fd_indices`. -/
def decodeObject (acc : Option (Descriptor × UInt32)) (i : Fin 4) : Option (Descriptor × UInt32) :=
  acc.bind fun (d, fdIndices) =>
    let record := objectRecord i
    if i.val < d.objectCount.toNat then
      let fdIndex := getU32 p record
      if !zeroRange p (record + 4) 4 || fdIndex ≥ fdCount.toUInt32 ||
          (fdIndices &&& ((1 : UInt32) <<< fdIndex)) != 0 then none
      else
        some (d.setObject i ⟨fds.getD fdIndex.toNat (-1),getU64 p (record + 8)⟩,
          fdIndices ||| ((1 : UInt32) <<< fdIndex))
    else if !zeroRange p record 16 then none
    else some (d, fdIndices)

def decodePlane (acc : Option Descriptor) (i : Fin 4) : Option Descriptor :=
  acc.bind fun d =>
    let record := planeRecord i
    if i.val < d.planeCount.toNat then
      if !zeroRange p (record + 4) 4 || !zeroRange p (record + 20) 4 then none
      else
        some { d with
          planes := Function.update d.planes i
            ⟨getU32 p record,getU64 p (record + 8),getU32 p (record + 16)⟩ }
    else if !zeroRange p record 24 then none
    else some d
variable (payload : List UInt8) (payloadSize : UInt32)
/-- `advc_dmabuf_registration_decode`. Every failure sets `EINVAL`. -/
def registrationDecode (fds : List Fd) (fdCount : UInt16) : Except Errno Descriptor :=
  if payloadSize != 256 || fdCount > 4 then .error .einval
  else
    let d := getHead payload
    if !zeroRange payload 80 16 || d.objectCount != fdCount.toUInt32 || d.objectCount == 0 ||
        d.objectCount > 4 || d.planeCount == 0 || d.planeCount > 4 then .error .einval
    else
      match (List.finRange 4).foldl (decodeObject payload fds fdCount) (some (d, 0)) with
      | none => .error .einval
      | some (d, _) =>
        match (List.finRange 4).foldl (decodePlane payload) (some d) with
        | none => .error .einval
        | some d => if descriptorValidate cloexec d then .ok d else .error .einval

/-- A round of the object loop on what the caller's descriptor holds: the round that refuses the
record leaves it as it is, and ends the loop. -/
def decodeObjectLeft (acc : Descriptor × UInt32 × Bool) (i : Fin 4) : Descriptor × UInt32 × Bool :=
  if acc.2.2 then
    match decodeObject p fds fdCount (some (acc.1, acc.2.1)) i with
    | some (d, fdIndices) => (d, fdIndices, true)
    | none => (acc.1, acc.2.1, false)
  else acc

def decodePlaneLeft (acc : Descriptor × Bool) (i : Fin 4) : Descriptor × Bool :=
  if acc.2 then
    match decodePlane p (some acc.1) i with
    | some d => (d, true)
    | none => (acc.1, false)
  else acc

/-- What `advc_dmabuf_registration_decode` leaves in the descriptor of its caller, whatever it
returns: it is written as the record is read, and not cleared when the record is refused. -/
def registrationLeft (before : Descriptor) (payload : List UInt8) (payloadSize : UInt32)
    (fds : List Fd) (fdCount : UInt16) : Descriptor :=
  if payloadSize != 256 || fdCount > 4 then before
  else
    let d := getHead payload
    if !zeroRange payload 80 16 || d.objectCount != fdCount.toUInt32 || d.objectCount == 0 ||
        d.objectCount > 4 || d.planeCount == 0 || d.planeCount > 4 then d
    else
      let objects := (List.finRange 4).foldl (decodeObjectLeft payload fds fdCount) (d, 0, true)
      if objects.2.2 then
        ((List.finRange 4).foldl (decodePlaneLeft payload) (objects.1, true)).1
      else objects.1

def completionValidate (syncFile : Fd → Bool) (payload : List UInt8) (payloadSize : UInt32)
    (fds : List Fd) (fdCount : UInt16) : Bool :=
  if payloadSize != 24 || fdCount > 1 then false
  else
    let role := getU32 payload 16
    let status := getU32 payload 8
    !(getU64 payload 0 == 0 || status > Status.internal || !zeroRange payload 20 4 ||
      (fdCount == 0 && role != FdRole.none) ||
      (fdCount == 1 && (role != FdRole.releaseFence || status != Status.ok ||
        !syncFile (fds.getD 0 (-1)))))

structure Submission where
  (bufferId ptsNs : UInt64)
  acquireFenceFd : Fd
  deriving DecidableEq, Repr

/-- `advc_dmabuf_submission_decode`; `syncFile` answers `advc_dmabuf_sync_file_validate`. -/
def submissionDecode (syncFile : Fd → Bool) (payload : List UInt8) (payloadSize : UInt32)
    (fds : List Fd) (fdCount : UInt16) : Except Errno Submission :=
  if payloadSize != 32 || fdCount > 1 then .error .einval
  else
    let role := getU32 payload 20
    if getU64 payload 0 == 0 || getU64 payload 8 > int64Max || getU32 payload 16 != 0 ||
        !zeroRange payload 24 8 || (fdCount == 0 && role != FdRole.none) ||
        (fdCount == 1 && role != FdRole.acquireFence) ||
        (fdCount == 1 && !syncFile (fds.getD 0 (-1))) then .error .einval
    else
      .ok ⟨getU64 payload 0,getU64 payload 8,if fdCount == 1 then fds.getD 0 (-1) else -1⟩

def unregisterDecode (fdCount : UInt16) :
    Except Errno UInt64 :=
  if payloadSize != 8 || fdCount != 0 then .error .einval
  else if getU64 payload 0 == 0 then .error .einval
  else .ok (getU64 payload 0)
end LinDeX.Dmabuf
