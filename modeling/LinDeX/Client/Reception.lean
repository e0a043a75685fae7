import LinDeX.Client.Delivery

/-!
# Control messages

`advc_receive_message` with the control buffer of `recvmsg` as it is: several control messages may
stand in it, but with no room for more descriptors than a message can hold.
-/
namespace LinDeX.Client
open List
/-- A control message: descriptors (`SCM_RIGHTS` of `SOL_SOCKET`), or any other with so many bytes
of data. -/
inductive ControlMessage where
  | rights (fds : List Nat)
  | other (size : Nat)
  deriving DecidableEq, Repr

def ControlMessage.dataSize : ControlMessage → Nat
  | .rights fds => 4 * fds.length
  | .other size => size

/-- `cmsg_len`, which is `CMSG_LEN` of the data. -/
def ControlMessage.cmsgLen (m : ControlMessage) : Nat := 16 + m.dataSize

/-- `CMSG_SPACE` of the data: the next header is aligned to eight bytes. -/
def ControlMessage.cmsgSpace (m : ControlMessage) : Nat := 16 + (m.dataSize + 7) / 8 * 8

/-- `CMSG_SPACE(sizeof(int) * ADVC_MAX_FDS)`. -/
def controlSize : Nat := (ControlMessage.rights (List.replicate maxFds 0)).cmsgSpace

def FitsIn : Nat → List ControlMessage → Prop
  | _, [] => True
  | room, m :: ms => m.cmsgLen ≤ room ∧ FitsIn (room - m.cmsgSpace) ms

/-- What `recvmsg` delivers. -/
structure Record where
  bytes : List UInt8
  control : List ControlMessage
  truncated : Bool
  deriving DecidableEq, Repr

def ControlMessage.fds : ControlMessage → List Nat
  | .rights fds => fds
  | .other _ => []

def Record.fds (r : Record) : List Nat := r.control.flatMap ControlMessage.fds

/-- The loop over the control messages: the descriptors in `m->fds`, or those that are closed when
the message has no room for them. -/
def storeFds : List ControlMessage → List Nat → Except (List Nat) (List Nat)
  | [], stored => .ok stored
  | .other _ :: ms, stored => storeFds ms stored
  | .rights fds :: ms, stored =>
    let count := ((ControlMessage.rights fds).cmsgLen - 16) / 4
    if maxFds < stored.length + count then .error (fds.take count)
    else storeFds ms (stored ++ fds.take count)

/-- `advc_receive_message` on a record with its control messages. Behind the loop it is
`receiveMessage` on the descriptors that were stored. -/
def receiveRecord (capacity : Nat) (stack : List UInt8) (incoming : Except Errno Record) :
    Transaction :=
  match incoming with
  | .error e => ⟨.error e,[],[]⟩
  | .ok r =>
    if r.bytes.length = 0 then ⟨.error econnreset,r.fds.map Int.ofNat,[]⟩
    else
      match storeFds r.control [] with
      | .error closed => ⟨.error emsgsize,r.fds.map Int.ofNat,closed.map Int.ofNat⟩
      | .ok stored => receiveMessage capacity stack (.ok ⟨r.bytes,stored,r.truncated⟩)

theorem rights_count (fds : List Nat) :
    ((ControlMessage.rights fds).cmsgLen - 16) / 4 = fds.length := by
  have hlen : (ControlMessage.rights fds).cmsgLen = 16 + 4 * fds.length := rfl
  omega
variable {ms : List ControlMessage}
theorem FitsIn.fds_length {room : Nat} (h : FitsIn room ms)
    (hne : ms ≠ []) : 4 * (ms.flatMap ControlMessage.fds).length + 16 ≤ room := by
  induction ms generalizing room with
  | nil => exact absurd rfl hne
  | cons m ms ih =>
    obtain ⟨hfirst,hrest⟩ := h
    have hdata : 4 * m.fds.length ≤ m.dataSize := by
      cases m with
      | rights => exact Nat.le_refl _
      | other => exact Nat.zero_le _
    rw [List.flatMap_cons,length_append]
    unfold ControlMessage.cmsgLen at hfirst
    unfold ControlMessage.cmsgSpace at hrest
    by_cases hlast : ms = []
    · rw [hlast,List.flatMap_nil,length_nil]
      omega
    · have hlater := ih hrest hlast
      omega

theorem FitsIn.fds_le (h : FitsIn controlSize ms) :
    (ms.flatMap ControlMessage.fds).length ≤ maxFds := by
  by_cases hne : ms = []
  · rw [hne]
    exact Nat.zero_le _
  · have hlength := h.fds_length hne
    have hsize : controlSize = 48 := by decide
    have hmax : maxFds = 8 := rfl
    omega

theorem storeFds_ok {stored : List Nat}
    (h : stored.length + (ms.flatMap ControlMessage.fds).length ≤ maxFds) :
    storeFds ms stored = .ok (stored ++ ms.flatMap ControlMessage.fds) := by
  induction ms generalizing stored with
  | nil => rw [storeFds,List.flatMap_nil,append_nil]
  | cons m ms ih =>
    rw [List.flatMap_cons,length_append] at h
    cases m with
    | other => exact ih (Nat.le_trans (by omega) h)
    | rights fds =>
      have hroom : stored.length + fds.length + (ms.flatMap ControlMessage.fds).length ≤
          maxFds := by
        rw [Nat.add_assoc]
        exact h
      rw [storeFds,rights_count,take_length,if_neg (by omega),
        ih (by rw [length_append]; exact hroom),append_assoc]
      rfl

theorem receiveRecord_eq {capacity : Nat} {stack : List UInt8} {r : Record}
    (hfits : FitsIn controlSize r.control) :
    receiveRecord capacity stack (.ok r) =
      receiveMessage capacity stack (.ok ⟨r.bytes,r.fds,r.truncated⟩) := by
  have hstored : storeFds r.control [] = .ok ([] ++ r.fds) :=
    storeFds_ok (by rw [length_nil,Nat.zero_add]; exact hfits.fds_le)
  unfold receiveRecord
  dsimp only
  split
  · rename_i hempty
    unfold receiveMessage
    dsimp only
    rw [if_pos hempty]
    rfl
  · rw [hstored]
    rfl

theorem receiveMessage_payload {capacity : Nat} {stack : List UInt8} {dg : Datagram} {m : Message}
    (h : (receiveMessage capacity stack (.ok dg)).reply = .ok m) :
    headerDecode dg.bytes = some m.header ∧
    m.payload.take m.header.payloadSize.toNat = dg.bytes.drop headerSize := by
  unfold receiveMessage at h
  dsimp only at h
  iterate 3
    split at h
    · cases h
  rename_i hshort
  split at h
  · cases h
  rename_i header hheader
  split at h
  · cases h
  rename_i hcheck
  cases h
  refine ⟨hheader,?_⟩
  simp only [Bool.or_eq_true,bne_iff_ne,not_or,ne_eq,not_not] at hcheck
  have hlength : (dg.bytes.drop headerSize).length = header.payloadSize.toNat := by
    rw [length_drop,hcheck.1.1]
    omega
  rw [← hlength,take_left]

/-- Reception of one record whose control messages fit the buffer. All descriptors are stored. A
message that is received owns them in order, with a header that counts them and the payload that
was sent. A failure has closed each of them, unless the record has no bytes and is given up before
its control messages are looked at. -/
theorem receiveRecord_accounts (capacity : Nat) (stack : List UInt8) (r : Record)
    (hfits : FitsIn controlSize r.control) :
    let t := receiveRecord capacity stack (.ok r)
    storeFds r.control [] = .ok r.fds ∧ r.fds.length ≤ maxFds ∧
      t.received = r.fds.map Int.ofNat ∧
      (∀ m, t.reply = .ok m →
        t.closed = [] ∧ m.fds = t.received ∧ m.header.fdCount.toNat = t.received.length ∧
          m.payload.take m.header.payloadSize.toNat = r.bytes.drop headerSize ∧
          ∀ sent : Message, Sendable sent →
            (∃ fds, sendMessage sent = some (r.bytes, fds)) →
            m.header = sent.header ∧ m.payload.take m.header.payloadSize.toNat =
              sent.payload.take sent.header.payloadSize.toNat) ∧
      ((∀ e, t.reply = .error e → t.closed = t.received) ↔ r.bytes ≠ [] ∨ r.fds = []) := by
  intro t
  have ht : t = receiveMessage capacity stack (.ok ⟨r.bytes,r.fds,r.truncated⟩) :=
    receiveRecord_eq hfits
  have hreceived : t.received = r.fds.map Int.ofNat := by
    rw [ht]
    unfold receiveMessage
    dsimp only
    repeat' split
    all_goals rfl
  refine ⟨?_,hfits.fds_le,hreceived,fun m hm => ?_,?_⟩
  · exact storeFds_ok (by rw [length_nil,Nat.zero_add]; exact hfits.fds_le)
  · have hhandled := receiveMessage_handled capacity stack (.ok ⟨r.bytes,r.fds,r.truncated⟩)
    rw [← ht] at hhandled
    obtain ⟨hdecode,hpayload⟩ := receiveMessage_payload (ht ▸ hm)
    cases hhandled with
    | refused _ hreply => cases hm.symm.trans hreply
    | dropped _ hreply => cases hm.symm.trans hreply
    | kept m' hreply hclosed hcounted =>
      obtain rfl : m = m' := Except.ok.inj (hm.symm.trans hreply)
      refine ⟨hclosed,hcounted.fds,hcounted.count,hpayload,fun sent hsent hbytes => ?_⟩
      obtain ⟨fds,hbytes⟩ := hbytes
      rw [sendMessage_sendable hsent,Option.some.injEq,Prod.mk.injEq] at hbytes
      rw [← hbytes.1,headerDecode_headerBytes hsent.header] at hdecode
      refine ⟨(Option.some.inj hdecode).symm,hpayload.trans ?_⟩
      rw [← hbytes.1,← headerBytes_length sent.header,drop_left]
  · have hhandled := receiveMessage_handled capacity stack (.ok ⟨r.bytes,r.fds,r.truncated⟩)
    rw [← ht] at hhandled
    have hfilled (hrecord : ¬EmptyRecord (.ok ⟨r.bytes,r.fds,r.truncated⟩)) :
        r.bytes ≠ [] ∨ r.fds = [] := by
      by_contra hempty
      rw [not_or,not_not] at hempty
      exact hrecord ⟨_,rfl,hempty⟩
    cases hhandled with
    | kept _ hreply _ _ hrecord =>
      refine iff_of_true (fun e he => ?_) (hfilled hrecord)
      cases hreply.symm.trans he
    | refused _ _ hclosed hrecord =>
      refine iff_of_true (fun _ _ => hclosed) ?_
      rcases hrecord with hnone | hrecord
      · exact .inr (map_eq_nil_iff.mp (hreceived.symm.trans hnone))
      · exact hfilled hrecord
    | dropped e hreply hclosed hkept hrecord =>
      obtain ⟨dg,heq,hempty,hfds⟩ := hrecord
      cases heq
      refine iff_of_false (fun hall => ?_) ?_
      · exact hkept ((hall e hreply).symm.trans hclosed)
      · rintro (hbytes | hnone)
        · exact hbytes hempty
        · exact hfds hnone

def splitRecord : Record :=
  { bytes := headerBytes { versionMinor := 0, opcode := 1, sessionId := 0, fdCount := 3 }
    control := [.rights [5],.rights [6,7]]
    truncated := false }

theorem receiveRecord_accounts_splitRecord :
    FitsIn controlSize splitRecord.control ∧
    (receiveRecord 0 [] (.ok splitRecord)).received = [5,6,7] ∧
    ∀ e, (receiveRecord 0 [] (.ok splitRecord)).reply = .error e →
      (receiveRecord 0 [] (.ok splitRecord)).closed =
        (receiveRecord 0 [] (.ok splitRecord)).received := by
  have hfits : FitsIn controlSize splitRecord.control := ⟨by decide,by decide,trivial⟩
  obtain ⟨_,_,hreceived,_,hclosed⟩ := receiveRecord_accounts 0 [] splitRecord hfits
  refine ⟨hfits,hreceived,hclosed.mpr (.inl ?_)⟩
  exact ne_nil_of_length_pos (by rw [splitRecord,headerBytes_length]; decide)

/-- A record of no bytes that brings a descriptor: it stays open. -/
theorem receiveRecord_empty :
    receiveRecord 264 [] (.ok ⟨[],[.rights [5]],false⟩) = ⟨.error econnreset,[5],[]⟩ := rfl
end LinDeX.Client
