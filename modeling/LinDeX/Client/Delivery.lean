import LinDeX.Client.Transaction
import LinDeX.Library.Words

/-!
# Records on their way

`advc_send_message` on one side of the socket and `advc_receive_message` on the other: a message
whose header is valid arrives as it was sent, with its descriptors under new numbers.
-/
namespace LinDeX.Client
open Bytes
def headerBytes (h : Header) : List UInt8 :=
  let p := putU32 (zeros headerSize) 0 magic
  let p := putU16 p 4 h.versionMajor
  let p := putU16 p 6 h.versionMinor
  let p := putU16 p 8 h.messageType
  let p := putU16 p 10 h.opcode
  let p := putU32 p 12 h.requestId
  let p := putU32 p 16 h.sessionId
  let p := putU32 p 20 h.flags
  let p := putU32 p 24 h.payloadSize
  let p := putU16 p 28 h.fdCount
  putU16 p 30 0

theorem headerEncode_eq (h : Header) :
    headerEncode h = if headerValidate h then some (headerBytes h) else none := rfl
theorem headerBytes_length (h : Header) : (headerBytes h).length = headerSize := by
  simp only [headerBytes,putU16_length,putU32_length,zeros,List.length_replicate]

theorem getU16_headerBytes (h : Header) :
    getU16 (headerBytes h) 4 = h.versionMajor ∧ getU16 (headerBytes h) 6 = h.versionMinor ∧
    getU16 (headerBytes h) 8 = h.messageType ∧ getU16 (headerBytes h) 10 = h.opcode ∧
    getU16 (headerBytes h) 28 = h.fdCount ∧ getU16 (headerBytes h) 30 = 0 := by
  refine ⟨?_,?_,?_,?_,?_,?_⟩ <;> apply getU16_of_bytes <;>
    simp (disch := simp [headerSize,zeros]) [headerBytes,byteAt_putU16,byteAt_putU32]

theorem getU32_headerBytes (h : Header) :
    getU32 (headerBytes h) 0 = magic ∧ getU32 (headerBytes h) 12 = h.requestId ∧
    getU32 (headerBytes h) 16 = h.sessionId ∧ getU32 (headerBytes h) 20 = h.flags ∧
    getU32 (headerBytes h) 24 = h.payloadSize := by
  refine ⟨?_,?_,?_,?_,?_⟩ <;> apply getU32_of_bytes <;>
    simp (disch := simp [headerSize,zeros]) [headerBytes,byteAt_putU16,byteAt_putU32]

theorem headerDecode_headerBytes {h : Header} (hvalid : headerValidate h = true)
    (rest : List UInt8) : headerDecode (headerBytes h ++ rest) = some h := by
  have hlength := headerBytes_length h
  have h16 {off : Nat} (hoff : off + 2 ≤ headerSize) :
      getU16 (headerBytes h ++ rest) off = getU16 (headerBytes h) off :=
    getU16_append_left (hlength ▸ hoff)
  have h32 {off : Nat} (hoff : off + 4 ≤ headerSize) :
      getU32 (headerBytes h ++ rest) off = getU32 (headerBytes h) off :=
    getU32_append_left (hlength ▸ hoff)
  obtain ⟨hmajor,hminor,htype,hopcode,hfds,hreserved⟩ := getU16_headerBytes h
  obtain ⟨hmagic,hrequest,hsession,hflags,hpayload⟩ := getU32_headerBytes h
  have hzero : h.reserved = 0 := by
    simp only [headerValidate,Bool.not_eq_true',Bool.or_eq_false_iff,bne_eq_false_iff_eq]
      at hvalid
    exact hvalid.2
  have hheader : ({ h with reserved := 0 } : Header) = h := by rw [← hzero]
  unfold headerDecode
  rw [h32 (by decide),hmagic,h16 (by decide),hmajor,h16 (by decide),hminor,h16 (by decide),
    htype,h16 (by decide),hopcode,h32 (by decide),hrequest,h32 (by decide),hsession,
    h32 (by decide),hflags,h32 (by decide),hpayload,h16 (by decide),hfds,h16 (by decide),
    hreserved]
  simp only [bne_self_eq_false,Bool.false_eq_true,if_false,hheader,hvalid,if_true]

/-- `advc_send_message`: the bytes of the record and the descriptors that go with it. -/
def sendMessage (m : Message) : Option (List UInt8 × List Fd) :=
  (headerEncode m.header).map fun header =>
    (header ++ m.payload.take m.header.payloadSize.toNat, m.fds.take m.header.fdCount.toNat)

structure Sendable (m : Message) : Prop where
  header : headerValidate m.header = true
  payload : m.header.payloadSize.toNat ≤ m.payload.length
  fds : m.header.fdCount.toNat = m.fds.length

structure Delivers (m : Message) (dg : Datagram) : Prop where
  bytes : ∃ fds, sendMessage m = some (dg.bytes, fds)
  fds : dg.fds.length = m.fds.length
  whole : dg.truncated = false

def received (m : Message) (capacity : Nat) (stack : List UInt8) (dg : Datagram) : Message where
  header := m.header
  payload := m.payload.take m.header.payloadSize.toNat ++ stack.drop m.header.payloadSize.toNat
  payloadCapacity := capacity
  fds := dg.installed
variable {m : Message}
theorem sendMessage_sendable (h : Sendable m) :
    sendMessage m = some (headerBytes m.header ++ m.payload.take m.header.payloadSize.toNat,
      m.fds) := by
  rw [sendMessage,headerEncode_eq,if_pos h.header,Option.map_some,h.fds,List.take_length]
variable {dg : Datagram}
theorem receiveMessage_delivered (h : Sendable m)
    (hdg : Delivers m dg) {capacity : Nat} (hcapacity : m.header.payloadSize.toNat ≤ capacity)
    (stack : List UInt8) :
    receiveMessage capacity stack (.ok dg) =
      ⟨.ok (received m capacity stack dg),dg.installed,[]⟩ := by
  obtain ⟨fds,hsent⟩ := hdg.bytes
  rw [sendMessage_sendable h,Option.some.injEq,Prod.mk.injEq] at hsent
  have hheader := headerBytes_length m.header
  have hpayload : (m.payload.take m.header.payloadSize.toNat).length =
      m.header.payloadSize.toNat := List.length_take_of_le h.payload
  have hbytes : dg.bytes.length = headerSize + m.header.payloadSize.toNat := by
    rw [← hsent.1,List.length_append,hheader,hpayload]
  have hdrop : dg.bytes.drop headerSize = m.payload.take m.header.payloadSize.toNat := by
    rw [← hsent.1,← hheader,List.drop_left]
  have hcount : dg.fds.length = m.header.fdCount.toNat := hdg.fds.trans h.fds.symm
  have hmax : m.header.fdCount.toNat ≤ maxFds := by
    have hvalid := h.header
    simp only [headerValidate,Bool.not_eq_true',Bool.or_eq_false_iff,decide_eq_false_iff_not,
      Nat.not_lt] at hvalid
    exact hvalid.1.2
  have hdecode : headerDecode dg.bytes = some m.header := by
    rw [← hsent.1]
    exact headerDecode_headerBytes h.header _
  unfold receiveMessage
  have hsize : headerSize = 32 := rfl
  simp only [hbytes,hdg.whole,hdecode,hdrop,hpayload,hcount]
  rw [if_neg (by omega),if_neg (by omega),if_neg (by simp [hsize]),if_neg (by simp; omega)]
  rfl

theorem transactionEx_delivered (h : Sendable m)
    (hdg : Delivers m dg) (capacity : Nat) (hcapacity : m.header.payloadSize.toNat ≤ capacity)
    {opcode : UInt16} {sessionId requestId : UInt32} {requireMinor : Bool}
    (hmatches : replyMatches opcode sessionId requestId requireMinor m.header = true)
    (stack : List UInt8) :
    transactionEx opcode sessionId requestId requireMinor capacity stack (.ok dg) =
      ⟨.ok (received m capacity stack dg),dg.installed,[]⟩ := by
  unfold transactionEx
  rw [receiveMessage_delivered h hdg hcapacity]
  exact if_pos hmatches

theorem received_wellCounted (h : Sendable m) (hdg : Delivers m dg)
    (capacity : Nat) (stack : List UInt8) :
    WellCounted (received m capacity stack dg) dg.installed := by
  have hlength : dg.installed.length = m.header.fdCount.toNat := by
    rw [Datagram.installed_length,hdg.fds,h.fds]
  refine ⟨rfl,hlength.symm,?_,dg.installed_nonneg⟩
  have hvalid := h.header
  simp only [headerValidate,Bool.not_eq_true',Bool.or_eq_false_iff,decide_eq_false_iff_not,
    Nat.not_lt] at hvalid
  rw [hlength]
  exact hvalid.1.2
end LinDeX.Client
