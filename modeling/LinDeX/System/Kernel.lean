import LinDeX.Protocol.Wire

/-!
# The kernel as seen by the broker

`ω` is the state of everything outside the modelled code, and `Os ω` answers the system calls from
it. Calls that are retried on `EINTR` are answered once, after the retries.
-/
namespace LinDeX
/-- What `fstat` reports about an input descriptor. -/
structure FileStat where
  isRegular : Bool
  size : Int
  deriving DecidableEq, Repr

structure Os (ω : Type) where
  /-- `fcntl(fd, F_DUPFD_CLOEXEC, 0)`. -/
  dup : ω → Fd → ω × Except Errno Nat
  close : ω → Fd → ω
  /-- `fcntl(fd, F_GETFD)` succeeds and reports `FD_CLOEXEC`. -/
  cloexec : ω → Fd → Bool
  /-- `ioctl(fd, SYNC_IOC_FILE_INFO)` succeeds. -/
  syncFileInfo : ω → Fd → Bool
  memfdCreate : ω → ω × Option Nat
  ftruncate : ω → Fd → Nat → ω × Bool
  /-- `pwrite(fd, data, size, offset)`; `0` is an error or no progress. -/
  pwrite : ω → Fd → List UInt8 → Nat → ω × Nat
  /-- `fcntl(fd, F_ADD_SEALS, SHRINK | GROW | WRITE | SEAL)`. -/
  addSeals : ω → Fd → ω × Bool
  fstat : ω → Fd → Option FileStat
  /-- `fcntl(fd, F_GET_SEALS)`. -/
  getSeals : ω → Fd → Option UInt32
  /-- `pread(fd, size, offset)`; the empty list is an error or the end of the file. -/
  pread : ω → Fd → Nat → Nat → ω × List UInt8
  malloc : ω → Nat → ω × Bool
  /-- `calloc` of a registry. -/
  callocRegistry : ω → ω × Except Errno Unit
  /-- `advc_send_message` of a reply. -/
  sendMessage : ω → Message → ω × Bool

def Os.syncFileValidate {ω : Type} (os : Os ω) (w : ω) (fd : Fd) : Bool :=
  decide (0 ≤ fd) && os.cloexec w fd && os.syncFileInfo w fd

inductive FdSource where
  /-- Acquire fence of an output returned by `dequeue_output`. -/
  | outputFence
  /-- Release fence returned by `submit_dmabuf`. -/
  | dmabufFence
  /-- Release fence returned by `receive_ahb_input`. -/
  | ahbFence
  /-- Duplicate of the acquire fence of a `QUEUE_AHB` request. -/
  | ahbAcquire
  /-- Duplicate of the acquire fence of a `QUEUE_DMABUF` request. -/
  | jobAcquire
  /-- Duplicate of the release fence of a `RELEASE_OUTPUT` request. -/
  | releaseDup
  | sealedOutput
  | registryObject
  /-- A dma-buf object exported by `export_decode_prime`. -/
  | primeObject
  deriving DecidableEq, Repr

def FdSource.fromBackend : FdSource → Bool
  | .outputFence | .dmabufFence | .ahbFence => true
  | _ => false

inductive FdEvent where
  | gain (src : FdSource) (fd : Fd)
  | close (src : FdSource) (fd : Fd)
  | reply (src : FdSource) (fd : Fd)
  | give (src : FdSource) (fd : Fd)
  | drop (src : FdSource) (fd : Fd)
  deriving DecidableEq, Repr

def fdEvent (event : FdSource → Fd → FdEvent) (src : FdSource) (fd : Fd) : List FdEvent :=
  if 0 ≤ fd then [event src fd] else []
def Os.closeIfOpen {ω : Type} (os : Os ω) (w : ω) (fd : Fd) : ω :=
  if 0 ≤ fd then os.close w fd else w
end LinDeX
