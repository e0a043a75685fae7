import LinDeX.Dmabuf.Descriptor

/-!
# Objects and services of the VA-API driver

What the decode and the encode runtime share: libva's codes, the ids of driver objects, the client
library and the process around the driver, both over a state `ω`.
-/
namespace LinDeX.Vaapi
open Dmabuf
/-- `VAStatus`, as far as the runtimes return it. -/
inductive VaStatus where
  | success | operationFailed | allocationFailed | invalidConfig | invalidContext | invalidSurface
  | invalidBuffer | invalidParameter | maxNumExceeded | unsupportedProfile | unsupportedEntrypoint
  | unsupportedRtFormat | unsupportedBufferType | unsupportedMemoryType | attrNotSupported
  | resolutionNotSupported | surfaceBusy | decodingError | encodingError | notEnoughBuffer
  | timedOut
  deriving DecidableEq, Repr

/-- `VAProfile`; `other` keeps the profiles the driver does not know. -/
inductive VaProfile where
  | h264ConstrainedBaseline | h264Main | hevcMain | vp9Profile0
  | other (code : Nat)
  deriving DecidableEq, Repr

inductive VaEntrypoint where
  | vld | encSlice
  | other (code : Nat)
  deriving DecidableEq, Repr

/-- `VABufferType` of a decode buffer. -/
inductive VaBufferType where
  | pictureParameter | iqMatrix | sliceParameter | sliceData
  | other (code : Nat)
  deriving DecidableEq, Repr

def rtFormatYuv420 : UInt32 := 1
def memTypeVa : UInt32 := 1
/-- `VA_FOURCC_NV12`, also `ADVC_DRM_FORMAT_NV12`. -/
def fourccNv12 : UInt32 := 0x3231564e
/-- `VA_INVALID_SURFACE` and `VA_INVALID_ID`. -/
def invalidId : UInt32 := 0xffffffff
def qcomCompressed : UInt64 := 0x0500000000000001
def indexMask : UInt32 := 0x00ffffff
def makeId (type : UInt32) (index : Nat) : UInt32 := type ||| (UInt32.ofNat index + 1)

/-- `id_index`: the slot an id of this type names. -/
def idIndex (limit : Nat) (type id : UInt32) : Option (Fin limit) :=
  if (id &&& ~~~indexMask) != type then none
  else
    let low := id &&& indexMask
    if low == 0 then none
    else if h : low.toNat - 1 < limit then some ⟨low.toNat - 1,h⟩ else none

theorem idIndex_inj {limit : Nat} {type a b : UInt32} {i : Fin limit}
    (ha : idIndex limit type a = some i) (hb : idIndex limit type b = some i) : a = b := by
  have hparts {id : UInt32} (h : idIndex limit type id = some i) :
      id &&& ~~~indexMask = type ∧ (id &&& indexMask).toNat = i.val + 1 := by
    unfold idIndex at h
    split at h
    · cases h
    rename_i htype
    dsimp only at h
    split at h
    · cases h
    rename_i hzero
    split at h
    · have hi := congrArg Fin.val (Option.some.inj h)
      have hne : (id &&& indexMask).toNat ≠ 0 := fun hz =>
        hzero (beq_iff_eq.mpr (UInt32.toNat_inj.mp hz))
      exact ⟨by simpa using htype,by dsimp only at hi; omega⟩
    · cases h
  have hsplit (id : UInt32) : (id &&& ~~~indexMask) ||| (id &&& indexMask) = id := by
    refine UInt32.toBitVec_inj.mp (BitVec.eq_of_getLsbD_eq fun j hj => ?_)
    simp only [UInt32.toBitVec_or,UInt32.toBitVec_and,UInt32.toBitVec_not,BitVec.getLsbD_or,
      BitVec.getLsbD_and,BitVec.getLsbD_not,hj,decide_true,Bool.true_and]
    cases indexMask.toBitVec.getLsbD j <;> simp
  rw [← hsplit a,← hsplit b,(hparts ha).1,(hparts hb).1,
    UInt32.toNat_inj.mp ((hparts ha).2.trans (hparts hb).2.symm)]

/-- What a client call returns: a protocol status, or `-1` with `errno`. -/
inductive Reply where
  | status (code : Status)
  | failed (errno : Errno)
  deriving DecidableEq, Repr

def Reply.ok : Reply := .status Status.ok

structure SessionConfig where
  mime : String
  (direction width height : UInt32)
  bitrate : UInt32 := 0
  framerateMilli : UInt32 := 0
  colorFormat : UInt32 := 0
  transport : UInt32
  encodeProfile : UInt32 := 0
  flags : UInt32 := 0
  deriving DecidableEq, Repr

/-- `struct advc_client_input`; inline bytes or a sealed memfd that holds them. -/
structure ClientInput where
  data : Option (List UInt8)
  size : Nat
  dataFd : Fd
  bufferId : UInt64 := 0
  ptsNs : UInt64
  flags : UInt32
  deriving DecidableEq, Repr

/-- `struct advc_client_output`, as far as the runtimes read it. -/
structure ClientOutput where
  (bufferId ptsNs size : UInt64)
  flags : UInt32
  dataFd : Fd
  transport : UInt32
  acquireFenceFd : Fd
  deriving DecidableEq, Repr

def ClientOutput.none : ClientOutput := ⟨0,0,0,0, -1,0, -1⟩

/-- `advc/client.h` on a connected socket. -/
structure Client (ω : Type) where
  /-- `advc_client_connect_bounded` to the runtime's socket path. -/
  connectBounded : ω → ω × Option Fd
  hello : ω → Fd → UInt64 → ω × Option (UInt64 × UInt32)
  createSession : ω → Fd → SessionConfig → ω × Reply × UInt32
  queueInput : ω → Fd → UInt32 → ClientInput → ω × Reply
  dequeueOutput : ω → Fd → UInt32 → ω × Reply × ClientOutput
  releaseOutput : ω → Fd → UInt32 → UInt64 → ω × Reply
  releaseOutputFenced : ω → Fd → UInt32 → UInt64 → Fd → ω × Reply
  transferPrime : ω → Fd → UInt32 → UInt64 → ω × Reply × Descriptor
  reserveLinear : ω → Fd → UInt32 → UInt64 → UInt32 → UInt32 → ω × Reply × Descriptor
  flush : ω → Fd → UInt32 → ω × Reply
  closeSession : ω → Fd → UInt32 → ω × Reply
  /-- `advc_client_recycle_broker_socket` took the socket. -/
  recycleBrokerSocket : ω → Fd → ω × Bool

/-- What `poll` on one descriptor reports. -/
inductive PollResult where
  | ready | timedOut | failed
  deriving DecidableEq, Repr

structure Conversion where
  ok : Bool
  linear : Descriptor
  (acquireFenceFd releaseFenceFd : Fd)

structure Process (ω : Type) where
  getenv : ω → String → Option String
  malloc : ω → Nat → ω × Bool
  close : ω → Fd → ω
  /-- `fcntl(fd, F_DUPFD_CLOEXEC, 0)`. -/
  dup : ω → Fd → ω × Option Fd
  /-- `fcntl(fd, F_GETFD)` succeeds and reports `FD_CLOEXEC`. -/
  cloexec : ω → Fd → Bool
  monotonicNs : ω → ω × UInt64
  /-- `poll` for input, with a timeout in milliseconds. -/
  poll : ω → Fd → Nat → ω × PollResult
  nanosleep : ω → ω
  /-- `create_sealed_memfd`. -/
  createSealedMemfd : ω → List UInt8 → ω × Except Errno Fd
  /-- `advc_vaapi_gpu_repack_linear`, present in builds with in-process repacking. -/
  gpuRepackLinear : Option (ω → Descriptor → Fd → ω × Conversion)
  /-- `advc_vaapi_cpu_copy_linear`, a weak symbol. -/
  cpuCopyLinear : Option (ω → Descriptor → Fd → ω × Conversion)
end LinDeX.Vaapi
