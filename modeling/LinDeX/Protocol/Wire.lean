import LinDeX.Library.Bytes

/-!
# The ADVC wire protocol

Constants and records of `advc/protocol.h`. A status, a transport or a descriptor role is the
32-bit number on the wire: a backend may hand over any number, and the code compares it as such.
-/
namespace LinDeX
/-- A file descriptor; negative values are not descriptors. -/
abbrev Fd := Int

/-- An opaque C pointer; `0` is `NULL`. -/
abbrev Pointer := Nat

abbrev Status := UInt32

namespace Status
def ok : Status := 0
def badMessage : Status := 1
def unsupported : Status := 2
def noResource : Status := 3
def codecError : Status := 4
def wouldBlock : Status := 6
def internal : Status := 7
theorem badMessage_ne_ok : badMessage ≠ ok := by decide
theorem unsupported_ne_ok : unsupported ≠ ok := by decide
theorem noResource_ne_ok : noResource ≠ ok := by decide
theorem wouldBlock_ne_ok : wouldBlock ≠ ok := by decide
theorem internal_ne_ok : internal ≠ ok := by decide
end Status

/-- Numbers that `errno` takes in the modelled code; `other` keeps the rest. -/
inductive Errno where
  | einval | ebadf | eexist | enoent | ebusy | ealready | enospc | enomem | eagain | enotsup
  | eio | etimedout | eoverflow | eproto
  | other (code : Nat)
  deriving DecidableEq, Repr

inductive Opcode where
  | hello | queryCapabilities | createSession | queueInput | dequeueOutput | releaseOutput
  | flush | closeSession | transferAhb | ping | queueAhb | completeAhb | registerDmabuf
  | unregisterDmabuf | queueDmabuf | completeDmabuf | transferPrime | reserveLinear
  deriving DecidableEq, Repr

/-- `enum advc_opcode`: the opcode a 16-bit header field stands for. -/
def Opcode.ofCode (code : UInt16) : Option Opcode :=
  match code.toNat with
  | 1 => some .hello
  | 2 => some .queryCapabilities
  | 3 => some .createSession
  | 4 => some .queueInput
  | 5 => some .dequeueOutput
  | 6 => some .releaseOutput
  | 7 => some .flush
  | 8 => some .closeSession
  | 9 => some .transferAhb
  | 10 => some .ping
  | 11 => some .queueAhb
  | 12 => some .completeAhb
  | 13 => some .registerDmabuf
  | 14 => some .unregisterDmabuf
  | 15 => some .queueDmabuf
  | 16 => some .completeDmabuf
  | 17 => some .transferPrime
  | 18 => some .reserveLinear
  | _ => none

namespace Direction
def decode : UInt32 := 1
def encode : UInt32 := 2
end Direction

namespace Transport
def bytes : UInt32 := 1
def dmabuf : UInt32 := 2
def aHardwareBuffer : UInt32 := 3
def brokerEglSurface : UInt32 := 4
def androidAhbSurface : UInt32 := 5
end Transport

namespace FdRole
def none : UInt32 := 0
def inputData : UInt32 := 1
def acquireFence : UInt32 := 32
def releaseFence : UInt32 := 33
end FdRole

namespace Flag
def endOfStream : UInt32 := 1
def keyFrame : UInt32 := 2
def codecConfig : UInt32 := 4
def ahbFollows : UInt32 := 16
end Flag

namespace Feature
def dmabuf : UInt64 := (1 : UInt64) <<< 1
def nativeFence : UInt64 := (1 : UInt64) <<< 2
def decode : UInt64 := (1 : UInt64) <<< 4
def encode : UInt64 := (1 : UInt64) <<< 5
def brokerEglSurface : UInt64 := (1 : UInt64) <<< 6
def androidAhbSurface : UInt64 := (1 : UInt64) <<< 7
def dmabufEgl : UInt64 := (1 : UInt64) <<< 8
def dmabufVulkan : UInt64 := (1 : UInt64) <<< 9
def decodePrime : UInt64 := (1 : UInt64) <<< 10
def asyncDecodePrime : UInt64 := (1 : UInt64) <<< 11
def decodeQcomModifier : UInt64 := (1 : UInt64) <<< 12
def encodeQcomModifier : UInt64 := (1 : UInt64) <<< 13
end Feature

namespace EncodeProfile
def none : UInt32 := 0
def h264ConstrainedBaseline : UInt32 := 1
def h264Main : UInt32 := 2
def h264High : UInt32 := 3
def hevcMain : UInt32 := 4
end EncodeProfile

namespace ColorFormat
def yuv420Planar : UInt32 := 19
def yuv420Semiplanar : UInt32 := 21
end ColorFormat

def versionMajor : UInt16 := 1
def versionMinor : UInt16 := 8
def maxPayload : Nat := 1024 * 1024
def maxFds : Nat := 8
def maxMime : Nat := 64
def maxSessions : Nat := 4
def maxOutstandingOutputs : Nat := 8
def maxInputBytes : UInt64 := 16 * 1024 * 1024
def maxOutputBytes : Nat := 16 * 1024 * 1024
def maxEncodeBitrate : UInt32 := 200000000
def maxRegisteredDmabufs : Nat := 16
def maxInflightDmabufs : Nat := 4
def maxDmabufObjects : Nat := 4
def maxDmabufPlanes : Nat := 4
def maxDmabufObjectBytes : UInt64 := 1073741824
def maxDmabufPitch : UInt32 := 1048576
def int64Max : UInt64 := 0x7fffffffffffffff

structure Header where
  versionMajor : UInt16 := 1
  versionMinor : UInt16
  messageType : UInt16 := 1
  opcode : UInt16
  requestId : UInt32 := 0
  sessionId : UInt32
  flags : UInt32 := 0
  payloadSize : UInt32 := 0
  fdCount : UInt16 := 0
  reserved : UInt16 := 0
  deriving DecidableEq, Repr

/-- `struct advc_message`. The payload list holds the bytes of the buffer that are in use. -/
structure Message where
  header : Header
  payload : List UInt8 := []
  payloadCapacity : Nat := maxPayload
  fds : List Fd := []
  deriving DecidableEq, Repr

def Message.fd (m : Message) (i : Nat) : Fd := m.fds.getD i (-1)
def statusPayload (status detail : UInt32) : List UInt8 :=
  Bytes.putU32 (Bytes.putU32 (Bytes.zeros 8) 0 status) 4 detail

def writeStatus (reply : Message) (status detail : UInt32) : Message :=
  { reply with
    header := { reply.header with payloadSize := 8 }
    payload := statusPayload status detail }
end LinDeX
