import LinDeX.SessionEngine.Engine
import LinDeX.Library.Words

/-!
# Session configurations of the client library

The checks that `advc_client_create_session` makes before it sends anything, and the request it
then builds.
-/
namespace LinDeX.Client
open Bytes List Transport
def e2big : Errno := .other 7

/-- `struct advc_client_session_config`. The mime type is a C string: its bytes end before the
first zero. -/
structure SessionConfig where
  mime : List UInt8
  (direction width height bitrate framerateMilli colorFormat transport encodeProfile flags : UInt32)
  mimeIsString : 0 ∉ mime

def SessionConfig.mimeLength (c : SessionConfig) : Nat := min c.mime.length maxMime
def defaultTransport (transport : UInt32) : UInt32 :=
  if transport == 0 then bytes else transport

def SessionConfig.frameBytes (c : SessionConfig) : UInt64 :=
  let pixels := c.width.toUInt64 * c.height.toUInt64
  pixels + pixels / 2

def encodeFrameSize (c : SessionConfig) : Except Errno Nat :=
  if c.direction != Direction.encode ||
      (c.mime != ascii "video/avc" && c.mime != ascii "video/hevc") || c.flags != 0 ||
      c.width < 16 || c.width > 8192 || c.height < 16 || c.height > 8192 ||
      (c.width &&& 1) != 0 || (c.height &&& 1) != 0 || c.bitrate == 0 ||
      c.bitrate > maxEncodeBitrate || c.framerateMilli < 1000 || c.framerateMilli > 240000 ||
      (c.colorFormat != ColorFormat.yuv420Planar &&
        c.colorFormat != ColorFormat.yuv420Semiplanar) then .error .einval
  else if c.frameBytes > maxInputBytes then .error e2big
  else .ok c.frameBytes.toNat

def decodeSessionCheck (c : SessionConfig) : Except Errno Unit :=
  if c.colorFormat != 0 || c.encodeProfile != EncodeProfile.none ||
      (c.transport != 0 && c.transport != bytes &&
        c.transport != aHardwareBuffer) then .error .einval
  else .ok ()

def encodeSessionCheck (c : SessionConfig) : Except Errno Unit :=
  let transport := defaultTransport c.transport
  if (c.mime == ascii "video/avc" && c.encodeProfile != EncodeProfile.h264ConstrainedBaseline &&
        c.encodeProfile != EncodeProfile.h264Main && c.encodeProfile != EncodeProfile.h264High) ||
      (c.mime == ascii "video/hevc" && c.encodeProfile != EncodeProfile.hevcMain) ||
      (c.mime != ascii "video/avc" && c.mime != ascii "video/hevc") then .error .enotsup
  else if transport != bytes && transport != brokerEglSurface &&
      transport != androidAhbSurface && transport != dmabuf then
    .error .enotsup
  else if transport == brokerEglSurface || transport == androidAhbSurface ||
      transport == dmabuf then
    if c.colorFormat != 0 || c.flags != 0 || c.width < 16 || c.width > 8192 || c.height < 16 ||
        c.height > 8192 || (c.width &&& 1) != 0 || (c.height &&& 1) != 0 || c.bitrate == 0 ||
        c.bitrate > maxEncodeBitrate || c.framerateMilli < 1000 || c.framerateMilli > 240000 ||
        (c.mime != ascii "video/avc" && c.mime != ascii "video/hevc") then .error .einval
    else .ok ()
  else (encodeFrameSize c).map fun _ => ()

/-- The checks of `advc_client_create_session`. -/
def createSessionCheck (c : SessionConfig) : Except Errno Unit :=
  if c.mimeLength == 0 || decide (maxMime ≤ c.mimeLength) || c.mime.take 6 != ascii "video/" then
    .error .einval
  else if c.direction == Direction.decode then decodeSessionCheck c
  else if c.direction == Direction.encode then encodeSessionCheck c
  else .error .einval

def copyAt (p : List UInt8) (off : Nat) (bytes : List UInt8) : List UInt8 :=
  p.take off ++ bytes ++ p.drop (off + bytes.length)

def createSessionPayload (c : SessionConfig) : List UInt8 :=
  let p := putU32 (zeros 100) 0 c.direction
  let p := putU32 p 4 c.width
  let p := putU32 p 8 c.height
  let p := putU32 p 12 c.bitrate
  let p := putU32 p 16 c.framerateMilli
  let p := putU32 p 20 c.flags
  let p := copyAt p 24 (c.mime.take c.mimeLength)
  let p := putU32 p 88 c.colorFormat
  let p := putU32 p 92 (defaultTransport c.transport)
  putU32 p 96 c.encodeProfile

/-- The request that `transaction_ex` makes of it. -/
def createSessionRequest (c : SessionConfig) (requestId : UInt32) : Message where
  header :=
    { versionMinor := versionMinor
      opcode := 3
      requestId := requestId
      sessionId := 0
      payloadSize := 100 }
  payload := createSessionPayload c

section
variable {p bytes : List UInt8} {off : Nat}
theorem byteAt_copyAt (h : off + bytes.length ≤ p.length) (i : Nat) :
    byteAt (copyAt p off bytes) i =
      if off ≤ i ∧ i < off + bytes.length then byteAt bytes (i - off) else byteAt p i := by
  have htake : (p.take off).length = off := by
    rw [length_take]
    omega
  unfold byteAt copyAt
  rw [append_assoc,List.getD_eq_getElem?_getD,List.getElem?_append,htake]
  by_cases hlow : i < off
  · rw [if_pos hlow,if_neg (by omega),List.getElem?_take_of_lt hlow,List.getD_eq_getElem?_getD]
  rw [if_neg hlow,List.getElem?_append]
  by_cases hhigh : i - off < bytes.length
  · rw [if_pos hhigh,if_pos (by omega),List.getD_eq_getElem?_getD]
  · rw [if_neg hhigh,if_neg (by omega),List.getElem?_drop,List.getD_eq_getElem?_getD]
    congr 2
    omega

theorem copyAt_length (h : off + bytes.length ≤ p.length) :
    (copyAt p off bytes).length = p.length := by
  simp only [copyAt,length_append,length_take,length_drop]
  omega

theorem drop_copyAt (h : off + bytes.length ≤ p.length) :
    (copyAt p off bytes).drop off = bytes ++ p.drop (off + bytes.length) := by
  have htake : (p.take off).length = off := by
    rw [length_take]
    omega
  rw [copyAt,append_assoc,drop_append_of_le_length (by omega),
    drop_eq_nil_of_le (by omega),nil_append]

theorem word_copyAt (h : off + bytes.length ≤ p.length) {w : Nat}
    (hw : 4 * w + 4 ≤ off ∨ off + bytes.length ≤ 4 * w) :
    word (copyAt p off bytes) w = word p w := by
  unfold word
  rw [getU32_eq_ofBytes,getU32_eq_ofBytes]
  simp only [byteAt_copyAt h]
  rw [if_neg (by omega),if_neg (by omega),if_neg (by omega),if_neg (by omega)]
end

section
variable (c : SessionConfig)
def createSessionHead : List UInt8 :=
  putU32 (putU32 (putU32 (putU32 (putU32 (putU32 (zeros 100) (4 * 0) c.direction)
    (4 * 1) c.width) (4 * 2) c.height) (4 * 3) c.bitrate) (4 * 4) c.framerateMilli) (4 * 5) c.flags

theorem createSessionHead_length : (createSessionHead c).length = 100 := by
  simp only [createSessionHead,putU32_length,zeros,length_replicate]

theorem createSessionPayload_eq : createSessionPayload c =
    putU32 (putU32 (putU32 (copyAt (createSessionHead c) 24 (c.mime.take c.mimeLength))
      (4 * 22) c.colorFormat) (4 * 23) (defaultTransport c.transport)) (4 * 24)
      c.encodeProfile := rfl

theorem mimeBytes_length : (c.mime.take c.mimeLength).length = c.mimeLength := by
  rw [length_take]
  unfold SessionConfig.mimeLength
  omega

theorem mimeBytes_fit : 24 + (c.mime.take c.mimeLength).length ≤ (createSessionHead c).length := by
  have hle : c.mimeLength ≤ 64 := Nat.min_le_right _ _
  rw [mimeBytes_length,createSessionHead_length]
  omega

theorem word_createSessionPayload {w : Nat} (hw : w < 6 ∨ 22 ≤ w) :
    word (createSessionPayload c) w =
      if w = 24 then c.encodeProfile else if w = 23 then defaultTransport c.transport
      else if w = 22 then c.colorFormat else word (createSessionHead c) w := by
  have hfit := mimeBytes_fit c
  have hle : c.mimeLength ≤ 64 := Nat.min_le_right _ _
  have hlength := copyAt_length hfit
  rw [createSessionHead_length] at hlength
  rw [createSessionPayload_eq,word_putU32 _ _ _ (by rw [putU32_length,putU32_length,hlength]),
    word_putU32 _ _ _ (by rw [putU32_length,hlength]; decide),
    word_putU32 _ _ _ (by rw [hlength]; decide),word_copyAt hfit]
  rw [mimeBytes_length]
  omega

theorem word_createSessionHead {w : Nat} :
    word (createSessionHead c) w =
      if w = 5 then c.flags else if w = 4 then c.framerateMilli else if w = 3 then c.bitrate
      else if w = 2 then c.height else if w = 1 then c.width else if w = 0 then c.direction
      else word (zeros 100) w := by
  have hfits {k : Nat} (hk : k < 6) : 4 * k + 4 ≤ (zeros 100).length := by
    rw [zeros,length_replicate]
    omega
  unfold createSessionHead
  rw [word_putU32,word_putU32,word_putU32,word_putU32,word_putU32,word_putU32]
  all_goals
    repeat rw [putU32_length]
    exact hfits (by decide)

theorem createSessionHead_drop {n : Nat} (hn : 24 ≤ n) :
    (createSessionHead c).drop n = zeros (100 - n) := by
  unfold createSessionHead
  rw [drop_putU32 _ _ (by omega),drop_putU32 _ _ (by omega),drop_putU32 _ _ (by omega),
    drop_putU32 _ _ (by omega),drop_putU32 _ _ (by omega),drop_putU32 _ _ (by omega),zeros,
    drop_replicate,zeros]

theorem createSessionPayload_take : (createSessionPayload c).take 88 =
    (copyAt (createSessionHead c) 24 (c.mime.take c.mimeLength)).take 88 := by
  rw [createSessionPayload_eq,take_putU32 _ _ (by omega),take_putU32 _ _ (by omega),
    take_putU32 _ _ (by omega)]

theorem createSessionPayload_mime : ((createSessionPayload c).drop 24).take 64 =
    c.mime.take c.mimeLength ++ zeros (64 - c.mimeLength) := by
  have hle : c.mimeLength ≤ 64 := Nat.min_le_right _ _
  have hlength := mimeBytes_length c
  have hfield (p : List UInt8) : (p.drop 24).take 64 = (p.take 88).drop 24 := by
    rw [drop_take]
  rw [hfield,createSessionPayload_take,← hfield,drop_copyAt (mimeBytes_fit c),hlength,
    createSessionHead_drop c (by omega),take_append,hlength,
    take_of_length_le (by omega),zeros,take_replicate,zeros]
  congr 2
  omega
end
end LinDeX.Client
