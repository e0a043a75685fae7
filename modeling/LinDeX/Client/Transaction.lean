import LinDeX.System.Kernel

/-!
# Transactions of the client library

`advc_receive_message` and `transaction_ex`: one request is sent, one record comes back, with
descriptors that the kernel has just installed. The server decides everything else about it.
-/
namespace LinDeX.Client
open Bytes
def econnreset : Errno := .other 104
def emsgsize : Errno := .other 90

/-- A record from the socket. Installed descriptors are never negative, and the kernel hands them
over in one `SCM_RIGHTS` block; `truncated` is `MSG_TRUNC` or `MSG_CTRUNC`. -/
structure Datagram where
  bytes : List UInt8
  fds : List Nat
  truncated : Bool
  deriving DecidableEq, Repr
variable (dg : Datagram)
def Datagram.installed : List Fd := dg.fds.map Int.ofNat
def headerSize : Nat := 32
def magic : UInt32 := 0x43564441

def headerValidate (h : Header) : Bool :=
  !(h.versionMajor != versionMajor || h.messageType < 1 || h.messageType > 3 || h.opcode < 1 ||
    h.opcode > 18 || decide (maxPayload < h.payloadSize.toNat) ||
    decide (maxFds < h.fdCount.toNat) || h.reserved != 0)

def headerDecode (p : List UInt8) : Option Header :=
  if getU32 p 0 != magic then none
  else
    let h : Header :=
      { versionMajor := getU16 p 4
        versionMinor := getU16 p 6
        messageType := getU16 p 8
        opcode := getU16 p 10
        requestId := getU32 p 12
        sessionId := getU32 p 16
        flags := getU32 p 20
        payloadSize := getU32 p 24
        fdCount := getU16 p 28
        reserved := getU16 p 30 }
    if headerValidate h then some h else none

def headerEncode (h : Header) : Option (List UInt8) :=
  if headerValidate h then
    let p := putU32 (zeros headerSize) 0 magic
    let p := putU16 p 4 h.versionMajor
    let p := putU16 p 6 h.versionMinor
    let p := putU16 p 8 h.messageType
    let p := putU16 p 10 h.opcode
    let p := putU32 p 12 h.requestId
    let p := putU32 p 16 h.sessionId
    let p := putU32 p 20 h.flags
    let p := putU32 p 24 h.payloadSize
    let p := putU16 p 28 h.fdCount
    some (putU16 p 30 0)
  else none

/-- A reply, or the failure of the transaction, with the descriptors that came in and those that
were closed on the way. -/
structure Transaction where
  reply : Except Errno Message
  (received closed : List Fd)
variable (capacity : Nat) (stack : List UInt8) (incoming : Except Errno Datagram)
/-- `advc_receive_message` into a payload buffer; `stack` is what the buffer held before. -/
def receiveMessage :
    Transaction :=
  match incoming with
  | .error e => ⟨.error e,[],[]⟩
  | .ok dg =>
    let refuse : Transaction := ⟨.error emsgsize,dg.installed,dg.installed⟩
    -- The control messages of an empty record are not looked at.
    if dg.bytes.length = 0 then ⟨.error econnreset,dg.installed,[]⟩
    else if maxFds < dg.fds.length then refuse
    else if dg.truncated || decide (dg.bytes.length < headerSize) then refuse
    else
      match headerDecode dg.bytes with
      | none => refuse
      | some header =>
        if dg.bytes.length != headerSize + header.payloadSize.toNat ||
            dg.fds.length != header.fdCount.toNat ||
            decide (capacity < header.payloadSize.toNat) then refuse
        else
          let received := dg.bytes.drop headerSize
          ⟨.ok { header := header
                 payload := received ++ stack.drop received.length
                 payloadCapacity := capacity
                 fds := dg.installed },dg.installed,[]⟩

/-- `advc_close_message_fds`: the descriptors it closes. -/
def closeMessageFds (m : Message) : List Fd :=
  (m.fds.take (min m.header.fdCount.toNat maxFds)).filter fun fd => decide (0 ≤ fd)
variable (opcode : UInt16) (sessionId requestId : UInt32) (requireMinor : Bool)
def replyMatches (h : Header) : Bool :=
  !(h.messageType != 2 || h.opcode != opcode || h.requestId != requestId ||
    (if opcode == 9 || opcode == 11 then h.flags != 0 && h.flags != Flag.ahbFollows
      else h.flags != 0) ||
    (requireMinor && h.versionMinor != versionMinor) ||
    (opcode != 3 && h.sessionId != sessionId))

/-- `transaction_ex` after the request has been sent; a failure to send is one to receive. -/
def transactionEx
    (capacity : Nat) (stack : List UInt8) (incoming : Except Errno Datagram) : Transaction :=
  let t := receiveMessage capacity stack incoming
  match t.reply with
  | .error _ => t
  | .ok m =>
    if replyMatches opcode sessionId requestId requireMinor m.header then t
    else ⟨.error .eproto,t.received,closeMessageFds m⟩

def EmptyRecord : Prop :=
  ∃ dg, incoming = .ok dg ∧ dg.bytes = [] ∧ dg.fds ≠ []

structure WellCounted (m : Message) (received : List Fd) : Prop where
  fds : m.fds = received
  count : m.header.fdCount.toNat = received.length
  bound : received.length ≤ maxFds
  installed : ∀ fd ∈ received, 0 ≤ fd

theorem Datagram.installed_nonneg : ∀ fd ∈ dg.installed, 0 ≤ fd := by
  intro fd hfd
  obtain ⟨n,_,rfl⟩ := List.mem_map.mp hfd
  exact Int.natCast_nonneg n

theorem Datagram.installed_length : dg.installed.length = dg.fds.length :=
  List.length_map _

theorem WellCounted.closeMessageFds {m : Message} {received : List Fd}
    (h : WellCounted m received) : closeMessageFds m = received := by
  have hcount : min m.header.fdCount.toNat maxFds = received.length := by
    rw [h.count]
    exact Nat.min_eq_left h.bound
  rw [Client.closeMessageFds,hcount,h.fds,List.take_length]
  exact List.filter_eq_self.mpr fun fd hfd => decide_eq_true (h.installed fd hfd)

inductive Handled (incoming : Except Errno Datagram) (t : Transaction) : Prop
  /-- They are handed on with the reply. -/
  | kept (m : Message) (hreply : t.reply = .ok m) (hclosed : t.closed = [])
      (hcounted : WellCounted m t.received) (hrecord : ¬ EmptyRecord incoming)
  /-- They are closed. -/
  | refused (e : Errno) (hreply : t.reply = .error e) (hclosed : t.closed = t.received)
      (hrecord : t.received = [] ∨ ¬ EmptyRecord incoming)
  /-- They are forgotten. -/
  | dropped (e : Errno) (hreply : t.reply = .error e) (hclosed : t.closed = [])
      (hreceived : t.received ≠ []) (hrecord : EmptyRecord incoming)

theorem receiveMessage_handled :
    Handled incoming (receiveMessage capacity stack incoming) := by
  unfold receiveMessage
  split
  · rename_i e
    exact .refused e rfl rfl (.inl rfl)
  rename_i dg
  split
  · rename_i hempty
    have hbytes := List.length_eq_zero_iff.mp hempty
    by_cases hfds : dg.fds = []
    · have hinstalled : dg.installed = [] := by rw [Datagram.installed,hfds,List.map_nil]
      exact .refused econnreset rfl hinstalled.symm (.inl hinstalled)
    · exact .dropped econnreset rfl rfl (fun h => hfds (List.map_eq_nil_iff.mp h))
        ⟨dg,rfl,hbytes,hfds⟩
  rename_i hbytes
  have hrecord : ¬ EmptyRecord (.ok dg) := by
    rintro ⟨dg',heq,hempty,_⟩
    cases heq
    exact hbytes (by rw [hempty]; rfl)
  split
  · exact .refused emsgsize rfl rfl (.inr hrecord)
  rename_i hmax
  iterate 3
    split
    · exact .refused emsgsize rfl rfl (.inr hrecord)
  rename_i header _ hcheck
  simp only [Bool.or_eq_true,bne_iff_ne,not_or,ne_eq,not_not] at hcheck
  refine .kept _ rfl rfl ⟨rfl,?_,?_,dg.installed_nonneg⟩ hrecord
  · rw [Datagram.installed_length]
    exact hcheck.1.2.symm
  · rw [Datagram.installed_length]
    exact Nat.not_lt.mp hmax

theorem transactionEx_handled (capacity : Nat) (stack : List UInt8)
    (incoming : Except Errno Datagram) :
    Handled incoming
      (transactionEx opcode sessionId requestId requireMinor capacity stack incoming) := by
  have hreceive := receiveMessage_handled capacity stack incoming
  unfold transactionEx
  dsimp only
  split
  · exact hreceive
  rename_i m hm
  split
  · exact hreceive
  cases hreceive with
  | kept m' hreply _ hcounted hrecord =>
    obtain rfl : m = m' := Except.ok.inj (hm.symm.trans hreply)
    exact .refused .eproto rfl hcounted.closeMessageFds (.inr hrecord)
  | refused _ hreply => cases hm.symm.trans hreply
  | dropped _ hreply => cases hm.symm.trans hreply
end LinDeX.Client
