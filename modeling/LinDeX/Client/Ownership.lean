import LinDeX.Client.Replies
import LinDeX.SessionEngine.Mock

/-!
# Who owns a received descriptor

Every descriptor that a reply brings in is closed by the client or owned by the value that the
caller gets, once, but for two kinds of replies.
-/
namespace LinDeX.Client
open Bytes Dmabuf List
variable {ω : Type}
section
variable {p : List UInt8} {fds : List Fd} {fdCount : UInt16}
/-- The record gets as far as its first object: what comes before it is in order, and so is the
first object record. -/
structure FirstObjectRead (p : List UInt8) (fdCount : UInt16) : Prop where
  reserved : zeroRange p 80 16 = true
  planes : (getHead p).planeCount ≠ 0 ∧ (getHead p).planeCount ≤ 4
  objectReserved : word p 25 = 0
  index : fdIndex p 0 < fdCount.toUInt32

theorem foldl_finRange_four {α : Type} (f : α → Fin 4 → α) (a : α) :
    (List.finRange 4).foldl f a = f (f (f (f a 0) 1) 2) 3 := rfl
theorem decodeObjectLeft_stopped (d : Descriptor) (m : UInt32) (i : Fin 4) :
    decodeObjectLeft p fds fdCount (d, m, false) i = (d, m, false) := rfl

theorem decodeObjectLeft_first (acc : Descriptor × UInt32 × Bool) {i : Fin 4} (hi : i ≠ 0) :
    (decodeObjectLeft p fds fdCount acc i).1.objects 0 = acc.1.objects 0 ∧
    (decodeObjectLeft p fds fdCount acc i).1.objectCount = acc.1.objectCount := by
  unfold decodeObjectLeft
  split
  · split
    · rename_i d m hround
      cases decodeObject_eq_some_iff i |>.mp hround with
      | used => exact ⟨Function.update_of_ne (Ne.symm hi) _ _,rfl⟩
      | unused => exact ⟨rfl,rfl⟩
    · exact ⟨rfl,rfl⟩
  · exact ⟨rfl,rfl⟩

theorem decodePlaneLeft_objects (acc : Descriptor × Bool) (i : Fin 4) :
    (decodePlaneLeft p acc i).1.objects = acc.1.objects ∧
    (decodePlaneLeft p acc i).1.objectCount = acc.1.objectCount := by
  unfold decodePlaneLeft
  split
  · split
    · rename_i d hround
      cases decodePlane_eq_some_iff i |>.mp hround <;> exact ⟨rfl,rfl⟩
    · exact ⟨rfl,rfl⟩
  · exact ⟨rfl,rfl⟩

theorem foldl_decodePlaneLeft_objects (acc : Descriptor × Bool) :
    ((List.finRange 4).foldl (decodePlaneLeft p) acc).1.objects = acc.1.objects ∧
    ((List.finRange 4).foldl (decodePlaneLeft p) acc).1.objectCount = acc.1.objectCount := by
  refine List.foldlRecOn (motive := fun a : Descriptor × Bool => a.1.objects = acc.1.objects ∧
    a.1.objectCount = acc.1.objectCount) _ _ ⟨rfl,rfl⟩ fun a ha i _ => ?_
  exact ⟨(decodePlaneLeft_objects a i).1.trans ha.1,(decodePlaneLeft_objects a i).2.trans ha.2⟩

theorem restLeft_first (acc : Descriptor × UInt32 × Bool) :
    let objects := decodeObjectLeft p fds fdCount (decodeObjectLeft p fds fdCount
      (decodeObjectLeft p fds fdCount acc 1) 2) 3
    let left := if objects.2.2 then
      ((List.finRange 4).foldl (decodePlaneLeft p) (objects.1, true)).1 else objects.1
    left.objects 0 = acc.1.objects 0 ∧ left.objectCount = acc.1.objectCount := by
  have hstep (acc : Descriptor × UInt32 × Bool) {i : Fin 4} (hi : i ≠ 0) :=
    @decodeObjectLeft_first p fds fdCount acc i hi
  intro objects left
  have hobjects : objects.1.objects 0 = acc.1.objects 0 ∧
      objects.1.objectCount = acc.1.objectCount := by
    have h3 := hstep (decodeObjectLeft p fds fdCount (decodeObjectLeft p fds fdCount acc 1) 2)
      (i := 3) (by decide)
    have h2 := hstep (decodeObjectLeft p fds fdCount acc 1) (i := 2) (by decide)
    have h1 := hstep acc (i := 1) (by decide)
    exact ⟨h3.1.trans (h2.1.trans h1.1),h3.2.trans (h2.2.trans h1.2)⟩
  have hplanes := foldl_decodePlaneLeft_objects (p := p) (objects.1, true)
  unfold left
  split
  · exact ⟨(congrFun hplanes.1 0).trans hobjects.1,hplanes.2.trans hobjects.2⟩
  · exact hobjects

theorem closableFds_eq_nil {d : Descriptor} (h : ∀ i, (d.objects i).fd = -1) :
    closableFds d = [] := by
  refine filterMap_eq_nil_iff.mpr fun i _ => if_neg ?_
  rw [h i]
  simp

theorem closableFds_ne_nil {d : Descriptor} (hcount : 0 < d.objectCount.toNat)
    (hfd : 0 ≤ (d.objects 0).fd) : closableFds d ≠ [] := by
  refine ne_nil_of_mem (a := (d.objects 0).fd) (mem_filterMap.mpr ⟨0,?_,if_pos ?_⟩)
  · exact mem_finRange 0
  · simp [hcount,hfd]

theorem closableFds_left_iff (hcount : fdCount ≤ 4)
    (hobjects : (getHead p).objectCount = fdCount.toUInt32) (hpos : (getHead p).objectCount ≠ 0)
    (hlength : fds.length = fdCount.toNat) (hinstalled : ∀ fd ∈ fds, 0 ≤ fd) :
    closableFds (registrationLeft emptyDescriptor p 256 fds fdCount) ≠ [] ↔
      FirstObjectRead p fdCount := by
  have hnat : (getHead p).objectCount.toNat = fdCount.toNat := by
    rw [hobjects,UInt16.toNat_toUInt32]
  have hzero : 0 < (getHead p).objectCount.toNat := by
    refine Nat.pos_of_ne_zero fun h => hpos ?_
    exact UInt32.toNat_inj.mp h
  have hfour : (getHead p).objectCount ≤ 4 := by
    rw [UInt32.le_iff_toNat_le,hnat]
    exact UInt16.le_iff_toNat_le.mp hcount
  unfold registrationLeft
  rw [if_neg (by simpa using UInt16.not_lt.mpr hcount)]
  dsimp only
  split
  · rename_i hhead
    refine iff_of_false (fun h => h (closableFds_eq_nil fun _ => rfl)) fun hread => ?_
    simp [hread.reserved,hobjects.symm,hpos,UInt32.not_lt.mpr hfour,hread.planes.1,
      UInt32.not_lt.mpr hread.planes.2] at hhead
  rename_i hhead
  simp only [Bool.or_eq_true,Bool.not_eq_true',bne_iff_ne,not_or,ne_eq,not_not,
    Bool.not_eq_false,beq_iff_eq,decide_eq_true_eq,gt_iff_lt,UInt32.not_lt] at hhead
  rw [foldl_finRange_four]
  cases hround : decodeObject p fds fdCount (some (getHead p, 0)) 0 with
  | none =>
    have hfirst : decodeObjectLeft p fds fdCount (getHead p, 0, true) 0 =
        (getHead p, 0, false) := by
      simp [decodeObjectLeft,hround]
    rw [hfirst,decodeObjectLeft_stopped,decodeObjectLeft_stopped,decodeObjectLeft_stopped]
    refine iff_of_false (fun h => h (closableFds_eq_nil fun _ => rfl)) fun hread => ?_
    have hsome := (@decodeObject_eq_some_iff p fds fdCount (getHead p) _ 0 _ 0).mpr (.used hzero hread.objectReserved hread.index
        (by rw [UInt32.zero_and]))
    rw [hround] at hsome
    cases hsome
  | some acc =>
    obtain ⟨d,m⟩ := acc
    have hfirst : decodeObjectLeft p fds fdCount (getHead p, 0, true) 0 = (d, m, true) := by
      simp [decodeObjectLeft,hround]
    rw [hfirst]
    cases decodeObject_eq_some_iff 0 |>.mp hround with
    | unused hi => exact absurd hzero hi
    | used _ hreserved hindex =>
      refine iff_of_true ?_ ⟨hhead.1.1.1.1.1,⟨hhead.1.2,hhead.2⟩,hreserved,hindex⟩
      have hmem : fds.getD (fdIndex p 0).toNat (-1) ∈ fds := by
        have hlt := UInt32.lt_iff_toNat_lt.mp hindex
        rw [UInt16.toNat_toUInt32,← hlength] at hlt
        rw [List.getD_eq_getElem?_getD,List.getElem?_eq_getElem hlt]
        exact List.getElem_mem hlt
      have hrest := @restLeft_first p fds fdCount
        ((getHead p).setObject 0 (readObject p fds 0), 0 ||| (1 : UInt32) <<< fdIndex p 0, true)
      apply closableFds_ne_nil
      · rw [hrest.2]
        exact hzero
      · rw [hrest.1]
        dsimp only [Descriptor.setObject]
        rw [Function.update_self]
        exact hinstalled _ hmem
end

structure Accounts where
  (received closed owned : List Fd)

def Accounts.Settled (a : Accounts) : Prop := (a.closed ++ a.owned).Perm a.received
def Result.accounts {α : Type} (owned : α → List Fd) (r : Result α) : Accounts :=
  ⟨r.received,r.closed,(r.value.map owned).getD []⟩
def live (fds : List Fd) : List Fd := fds.filter fun fd => decide (0 ≤ fd)
def Output.fds (o : Output) : List Fd := live [o.dataFd,o.acquireFenceFd]

inductive Call where
  | transferPrime (sessionId : UInt32) (bufferId : UInt64)
  | reserveLinear (sessionId : UInt32) (ptsNs : UInt64) (width height : UInt32)
  | dequeueOutput (sessionId : UInt32)
  | completeDmabuf (sessionId : UInt32) (bufferId : UInt64)
  | queryCapabilities
  deriving DecidableEq, Repr

def Call.accounts (os : Os ω) (w : ω) (requestId : UInt32) (stack : List UInt8)
    (incoming : Except Errno Datagram) : Call → Accounts
  | .transferPrime sessionId bufferId =>
    (Client.transferPrime os w requestId sessionId bufferId stack incoming).accounts
      registrationFds
  | .reserveLinear sessionId ptsNs width height =>
    (Client.reserveLinear os w requestId sessionId ptsNs width height stack incoming).accounts
      registrationFds
  | .dequeueOutput sessionId =>
    (Client.dequeueOutput os w requestId sessionId stack incoming).accounts Output.fds
  | .completeDmabuf sessionId bufferId =>
    (Client.completeDmabuf os w requestId sessionId bufferId stack incoming).accounts
      fun fd => live [fd]
  | .queryCapabilities =>
    (Client.queryCapabilities requestId stack incoming).accounts fun _ => []

section
variable {incoming : Except Errno Datagram} {t : Transaction} {m : Message}
/-- A call that hands its transaction's failure on, and settles what it gets with a reply unless
something specific happens. -/
theorem settled_iff_of_handled (h : Handled incoming t) {a : Accounts} {fault : Prop}
    (herror : ∀ e, t.reply = .error e → a = ⟨t.received,t.closed,[]⟩ ∧ ¬ fault)
    (hok : ∀ m, t.reply = .ok m → WellCounted m t.received → (a.Settled ↔ ¬ fault)) :
    a.Settled ↔ ¬ (EmptyRecord incoming ∧ a.received ≠ []) ∧ ¬ fault := by
  cases h with
  | kept m hreply _ hcounted hrecord =>
    rw [hok m hreply hcounted]
    exact ⟨fun h => ⟨fun hempty => hrecord hempty.1,h⟩,fun h => h.2⟩
  | refused e hreply hclosed hrecord =>
    obtain ⟨rfl,hfault⟩ := herror e hreply
    refine iff_of_true ?_ ⟨fun hempty => ?_,hfault⟩
    · rw [Accounts.Settled,append_nil,hclosed]
    · exact hrecord.elim hempty.2 fun h => h hempty.1
  | dropped e hreply hclosed hnil hrecord =>
    obtain ⟨rfl,_⟩ := herror e hreply
    refine iff_of_false (fun hsettled => hnil ?_) fun h => h.1 ⟨hrecord,hnil⟩
    rw [Accounts.Settled,append_nil,hclosed] at hsettled
    exact nil_perm.mp hsettled

theorem WellCounted.fds_eq_nil (h : WellCounted m t.received) (hcount : m.header.fdCount = 0) :
    t.received = [] := by
  apply length_eq_zero_iff.mp
  rw [← h.count,hcount]
  rfl

theorem WellCounted.fds_eq_singleton (h : WellCounted m t.received)
    (hcount : m.header.fdCount = 1) : t.received = [m.fd 0] ∧ 0 ≤ m.fd 0 := by
  have hlength : t.received.length = 1 := by
    rw [← h.count,hcount]
    rfl
  obtain ⟨fd,hfd⟩ := length_eq_one_iff.mp hlength
  have hzero : m.fd 0 = fd := by rw [Message.fd,h.fds,hfd]; rfl
  rw [hzero]
  exact ⟨hfd,h.installed fd (by rw [hfd]; exact mem_singleton_self fd)⟩

theorem protocolError_settled {α : Type} {value : α} {owned : α → List Fd}
    (hcounted : WellCounted m t.received) (howned : owned value = []) :
    ((protocolError value t (closeMessageFds m)).accounts owned).Settled := by
  simp only [Accounts.Settled,Result.accounts,protocolError,Option.map_some,Option.getD_some,
    howned,append_nil,hcounted.closeMessageFds]
  exact List.Perm.refl _

theorem statusResult_settled {α : Type} {value : α} {owned : α → List Fd}
    (hcounted : WellCounted m t.received) (howned : owned value = []) :
    ((statusResult value t m).accounts owned).Settled := by
  unfold statusResult parseStatusReply
  by_cases hcheck : (m.header.payloadSize != 8 || m.header.fdCount != 0) = true
  · rw [if_pos hcheck]
    exact protocolError_settled hcounted howned
  · rw [if_neg hcheck]
    simp only [Bool.or_eq_true,bne_iff_ne,not_or,ne_eq,not_not] at hcheck
    have hnil := hcounted.fds_eq_nil hcheck.2
    by_cases hstatus : getU32 m.payload 0 > Status.internal
    · rw [if_pos hstatus]
      simp [Accounts.Settled,Result.accounts,howned,hnil]
    · rw [if_neg hstatus]
      simp [Accounts.Settled,Result.accounts,howned,hnil]
variable {cloexec : Fd → Bool} {d : Descriptor}
theorem registrationFds_nodup
    (hvalid : descriptorValidate cloexec d = true) : (registrationFds d).Nodup := by
  simp only [descriptorValidate,Bool.and_eq_true,all_eq_true] at hvalid
  have hlt {i j : Fin 4} (hj : j.val < d.objectCount.toNat) (hij : i < j) :
      (d.objects i).fd ≠ (d.objects j).fd := by
    have hobject := hvalid.1.2 j (mem_finRange j)
    simp only [objectValid,if_pos hj,Bool.and_eq_true,all_eq_true,Bool.not_eq_true',
      Bool.and_eq_false_iff,decide_eq_false_iff_not,beq_eq_false_iff_ne] at hobject
    exact (hobject.2 i (mem_finRange i)).resolve_left (not_not_intro hij)
  refine List.Nodup.map_on (fun i hi j hj heq => ?_) ((nodup_finRange 4).filter _)
  have hi := of_decide_eq_true (mem_filter.mp hi).2
  have hj := of_decide_eq_true (mem_filter.mp hj).2
  rcases lt_trichotomy i j with h | h | h
  · exact absurd heq (hlt hj h)
  · exact h
  · exact absurd heq.symm (hlt hi h)

theorem registrationFds_perm {p : List UInt8} {fds : List Fd} {fdCount : UInt16}
    (hdecode : registrationDecode cloexec p 256 fds fdCount = .ok d)
    (hlength : fds.length = fdCount.toNat) :
    (registrationFds d).Perm fds ∧ d.objectCount.toNat = fds.length := by
  obtain ⟨hread,rfl,hvalid⟩ := registrationDecode_eq_ok_iff.mp hdecode
  have hcount : (readDescriptor p fds).objectCount.toNat = fds.length := by
    rw [hlength,← UInt16.toNat_toUInt32,← hread.objectCount]
    rfl
  refine ⟨(subperm_of_subset (registrationFds_nodup hvalid) ?_).perm_of_length_le ?_,hcount⟩
  · intro fd hfd
    obtain ⟨i,hi,rfl⟩ := mem_map.mp hfd
    have hi := of_decide_eq_true (mem_filter.mp hi).2
    have hobject : (readDescriptor p fds).objects i = readObject p fds i :=
      if_pos ⟨mem_finRange i,hi⟩
    have hindex := UInt32.lt_iff_toNat_lt.mp (hread.objects.index i (mem_finRange i) hi)
    rw [UInt16.toNat_toUInt32,← hlength] at hindex
    rw [hobject,readObject,List.getD_eq_getElem?_getD,List.getElem?_eq_getElem hindex]
    exact List.getElem_mem hindex
  · rw [registrationFds_length hvalid,hcount]

theorem closeMessageFds_taken {n : Nat} (hn : n = m.fds.length) :
    closeMessageFds { m with fds := m.fds.mapIdx fun i fd => if i < n then -1 else fd } = [] := by
  refine filter_eq_nil_iff.mpr fun fd hfd => ?_
  obtain ⟨i,hi,rfl⟩ := mem_mapIdx.mp (mem_of_mem_take hfd)
  rw [if_pos (hn ▸ hi)]
  decide

theorem descriptor_settled {p : List UInt8}
    {detail : Option UInt32} (hcounted : WellCounted m t.received)
    (hdecode : registrationDecode cloexec p 256 m.fds m.header.fdCount = .ok d) :
    (({ status := .ok Status.ok, detail := detail, value := some d, received := t.received,
        closed := closeMessageFds { m with fds := m.fds.mapIdx fun i fd =>
          if i < d.objectCount.toNat then -1 else fd } } : Result Descriptor).accounts
            registrationFds).Settled := by
  obtain ⟨hperm,hcount⟩ := registrationFds_perm hdecode (by rw [hcounted.count,hcounted.fds])
  rw [closeMessageFds_taken hcount]
  simp only [Accounts.Settled,Result.accounts,nil_append,Option.map_some,Option.getD_some]
  rw [← hcounted.fds]
  exact hperm

theorem emptyDescriptor_fds : registrationFds emptyDescriptor = [] := by decide
end

section
variable (os : Os ω) (w : ω) (requestId sessionId : UInt32) (stack : List UInt8)
  (incoming : Except Errno Datagram)

theorem settled_iff_of_invalid {α : Type} (owned : α → List Fd) {fault : Prop}
    (hfault : ¬ fault) : ((Result.invalid : Result α).accounts owned).Settled ↔
      ¬ (EmptyRecord incoming ∧ ((Result.invalid : Result α).accounts owned).received ≠ []) ∧
      ¬ fault :=
  iff_of_true (List.Perm.refl _) ⟨fun h => h.2 rfl,hfault⟩

/-- The common shape of the calls that cannot refuse a descriptor late. -/
theorem exchange_settled {α : Type} {owned : α → List Fd} {bad : Prop} [Decidable bad] {value : α}
    {t : Transaction} {f : Message → Result α} (hhandled : Handled incoming t)
    (hvalue : owned value = [])
    (hf : ∀ m, WellCounted m t.received → ((f m).accounts owned).Settled) :
    let a := Result.accounts owned (if bad then .invalid else match t.reply with
      | .error e => transportError value t e
      | .ok reply => f reply)
    a.Settled ↔ ¬ (EmptyRecord incoming ∧ a.received ≠ []) ∧ ¬ False := by
  split
  · exact settled_iff_of_invalid incoming _ not_false
  refine settled_iff_of_handled hhandled (fun e he => ?_)
    fun m hm hcounted => iff_of_true ?_ not_false
  · simp only [he]
    exact ⟨congrArg _ hvalue,not_false⟩
  · simp only [hm]
    exact hf m hcounted

theorem transferPrime_settled (bufferId : UInt64) :
    let a := (Call.transferPrime sessionId bufferId).accounts os w requestId stack incoming
    a.Settled ↔ ¬ (EmptyRecord incoming ∧ a.received ≠ []) ∧ ¬ False := by
  refine exchange_settled incoming (transactionEx_handled ..) emptyDescriptor_fds fun m hcounted => ?_
  dsimp only
  split
  · exact statusResult_settled hcounted emptyDescriptor_fds
  iterate 4
    split
    · exact protocolError_settled hcounted emptyDescriptor_fds
  rename_i d hdecode
  split
  · exact protocolError_settled hcounted emptyDescriptor_fds
  · exact descriptor_settled hcounted hdecode

variable {t : Transaction} {m : Message}
theorem readOutput_settled {detail : Option UInt32}
    (hcounted : WellCounted m t.received) (hshape : outputShapeValid m = true) :
    (({ status := .ok Status.ok, detail := detail, value := some (readOutput m),
        received := t.received } : Result Output).accounts Output.fds).Settled := by
  simp only [Accounts.Settled,Result.accounts,nil_append,Option.map_some,Option.getD_some,
    Output.fds,readOutput]
  simp only [outputShapeValid,Bool.not_eq_true',Bool.or_eq_false_iff] at hshape
  obtain ⟨⟨⟨⟨⟨⟨⟨⟨⟨hbytes,hbuffer⟩,hknown⟩,_⟩,_⟩,_⟩,_⟩,_⟩,_⟩,_⟩ := hshape
  by_cases htransport : getU32 m.payload 28 = Transport.bytes
  · simp only [htransport,beq_self_eq_true,Bool.true_and,Bool.or_eq_false_iff,
      bne_eq_false_iff_eq] at hbytes
    obtain ⟨hreceived,hfd⟩ := hcounted.fds_eq_singleton hbytes.2
    simp [htransport,live,hfd,hreceived]
  · have hahb : getU32 m.payload 28 = Transport.aHardwareBuffer := by
      simpa [htransport] using hknown
    simp only [hahb,beq_self_eq_true,Bool.true_and,Bool.or_eq_false_iff,bne_eq_false_iff_eq,
      decide_eq_false_iff_not,gt_iff_lt,UInt16.not_lt] at hbuffer
    have hne : (Transport.aHardwareBuffer == Transport.bytes) = false := by decide
    by_cases hcount : m.header.fdCount = 1
    · obtain ⟨hreceived,hfd⟩ := hcounted.fds_eq_singleton hcount
      simp [hahb,hne,hcount,live,hfd,hreceived]
    · have hzero : m.header.fdCount = 0 := by
        have hle := UInt16.le_iff_toNat_le.mp hbuffer.2
        have hnat : m.header.fdCount.toNat ≠ 1 := fun h => hcount (UInt16.toNat_inj.mp h)
        apply UInt16.toNat_inj.mp
        simp only [UInt16.reduceToNat] at hle ⊢
        omega
      simp [hahb,hne,hzero,live,hcounted.fds_eq_nil hzero]

theorem dequeueOutput_settled :
    let a := (Call.dequeueOutput sessionId).accounts os w requestId stack incoming
    a.Settled ↔ ¬ (EmptyRecord incoming ∧ a.received ≠ []) ∧ ¬ False := by
  refine exchange_settled incoming (transactionEx_handled ..) rfl fun m hcounted => ?_
  split
  · exact statusResult_settled hcounted rfl
  split
  · exact protocolError_settled hcounted rfl
  rename_i hshape
  split
  · exact protocolError_settled hcounted rfl
  · exact readOutput_settled hcounted (by simpa using hshape)

theorem completeDmabuf_settled (bufferId : UInt64) :
    let a := (Call.completeDmabuf sessionId bufferId).accounts os w requestId stack incoming
    a.Settled ↔ ¬ (EmptyRecord incoming ∧ a.received ≠ []) ∧ ¬ False := by
  refine exchange_settled incoming (transactionEx_handled ..) rfl fun m hcounted => ?_
  split
  · exact statusResult_settled hcounted rfl
  split
  · exact protocolError_settled hcounted rfl
  by_cases hcount : m.header.fdCount = 1
  · obtain ⟨hreceived,hfd⟩ := hcounted.fds_eq_singleton hcount
    have hfds : m.fds = [m.fd 0] := hcounted.fds.trans hreceived
    simp only [Accounts.Settled,Result.accounts,hcount,beq_self_eq_true,if_true,
      closeMessageFds,Option.map_some,Option.getD_some,hreceived,live]
    rw [hfds]
    simp [hfd,maxFds]
  · have hfence : (m.header.fdCount == 1) = false := beq_eq_false_iff_ne.mpr hcount
    simp only [Accounts.Settled,Result.accounts,hfence,Bool.false_eq_true,if_false,
      hcounted.closeMessageFds,Option.map_some,Option.getD_some]
    exact (append_nil _).symm ▸ List.Perm.refl _

theorem queryCapabilities_settled :
    let a := Call.queryCapabilities.accounts os w requestId stack incoming
    a.Settled ↔ ¬ (EmptyRecord incoming ∧ a.received ≠ []) ∧ ¬ False := by
  have hhandled := transactionEx_handled 2 0 requestId false (24 + Broker.maxCapabilities * 224)
    stack incoming
  dsimp only [Call.accounts]
  unfold queryCapabilities
  generalize transactionEx 2 0 requestId false (24 + Broker.maxCapabilities * 224) stack
    incoming = t at hhandled ⊢
  refine settled_iff_of_handled hhandled (fun e he => ?_)
    fun m hm hcounted => iff_of_true ?_ not_false
  · simp only [he]
    exact ⟨rfl,not_false⟩
  simp only [hm]
  split
  · simp only [Accounts.Settled,Result.accounts,hcounted.closeMessageFds]
    exact (append_nil _).symm ▸ List.Perm.refl _
  rename_i hcount
  have hnil := hcounted.fds_eq_nil (by simpa using hcount)
  have hempty {r : Result Broker.CapabilitySet} (hreceived : r.received = t.received)
      (hclosed : r.closed = []) : (r.accounts fun _ => []).Settled := by
    have howned : (r.value.map fun _ => ([] : List Fd)).getD [] = [] := by cases r.value <;> rfl
    rw [Accounts.Settled,Result.accounts,hclosed,hreceived,hnil,howned]
    exact List.Perm.refl _
  have hclosed : (parseStatusReply m).2 = [] := by
    unfold parseStatusReply
    split
    · rw [hcounted.closeMessageFds,hnil]
    · split <;> rfl
  split
  · split <;> rename_i hparse
    · exact hempty rfl ((congrArg Prod.snd hparse).symm.trans hclosed)
    · exact hempty rfl ((congrArg Prod.snd hparse).symm.trans hclosed)
  split
  · exact hempty rfl rfl
  split
  · exact hempty rfl rfl
  · exact hempty rfl rfl

structure RefusedLate (reply : Message) (width height : UInt32) : Prop where
  size : reply.header.payloadSize = 264
  flags : reply.header.flags = 0
  head : reserveHeadValid reply = true
  first : FirstObjectRead (descriptorPayload reply) reply.header.fdCount
  refused : ∀ d, registrationDecode (os.cloexec w) (descriptorPayload reply) 256 reply.fds
    reply.header.fdCount = .ok d → reserveMatches width height d = false

/-- A call of `advc_client_reserve_linear` that gets such a reply. -/
def Aliases : Call → Prop
  | .reserveLinear sessionId ptsNs width height =>
    (sessionId ≠ 0 ∧ ptsNs ≤ int64Max ∧ width ≠ 0 ∧ height ≠ 0 ∧ width &&& 1 = 0 ∧
      height &&& 1 = 0) ∧
    ∃ reply, (transactionEx 18 sessionId requestId true 264 stack incoming).reply = .ok reply ∧
      RefusedLate os w reply width height
  | _ => False

theorem refused_settled_iff (hcounted : WellCounted m t.received)
    (again : List Fd) :
    ((protocolError emptyDescriptor t (closeMessageFds m ++ again)).accounts
      registrationFds).Settled ↔ again = [] := by
  simp only [Accounts.Settled,Result.accounts,protocolError,Option.map_some,Option.getD_some,
    emptyDescriptor_fds,append_nil,hcounted.closeMessageFds]
  constructor
  · intro h
    have hlength := h.length_eq
    rw [length_append] at hlength
    exact length_eq_zero_iff.mp (by omega)
  · rintro rfl
    rw [append_nil]

theorem reserveHead_left (hcounted : WellCounted m t.received)
    (hhead : reserveHeadValid m = true) :
    closableFds (registrationLeft emptyDescriptor (descriptorPayload m) 256 m.fds
      m.header.fdCount) ≠ [] ↔ FirstObjectRead (descriptorPayload m) m.header.fdCount := by
  simp only [reserveHeadValid,Bool.not_eq_true',Bool.or_eq_false_iff,bne_eq_false_iff_eq,
    beq_eq_false_iff_ne,decide_eq_false_iff_not,gt_iff_lt,UInt32.not_lt] at hhead
  obtain ⟨⟨⟨_,hpos⟩,hle⟩,hcount⟩ := hhead
  refine closableFds_left_iff ?_ hcount.symm hpos ?_ ?_
  · rw [← hcount,UInt32.le_iff_toNat_le,UInt16.toNat_toUInt32] at hle
    exact UInt16.le_iff_toNat_le.mpr hle
  · rw [hcounted.fds,hcounted.count]
  · rw [hcounted.fds]
    exact hcounted.installed

theorem reserveLinear_settled (ptsNs : UInt64) (width height : UInt32) :
    let call := Call.reserveLinear sessionId ptsNs width height
    let a := call.accounts os w requestId stack incoming
    a.Settled ↔ ¬ (EmptyRecord incoming ∧ a.received ≠ []) ∧
      ¬ Aliases os w requestId stack incoming call := by
  have hhandled := transactionEx_handled 18 sessionId requestId true 264 stack incoming
  dsimp only [Call.accounts,Aliases]
  unfold reserveLinear
  generalize transactionEx 18 sessionId requestId true 264 stack incoming = t at hhandled ⊢
  split
  · rename_i hargs
    refine settled_iff_of_invalid incoming _ fun hfault => ?_
    obtain ⟨⟨hsession,hpts,hwidth,hheight,heven,heven'⟩,_⟩ := hfault
    simp [hsession,UInt64.not_lt.mpr hpts,hwidth,hheight,heven,heven'] at hargs
  rename_i hargs
  simp only [Bool.or_eq_true,bne_iff_ne,not_or,ne_eq,not_not,beq_iff_eq,decide_eq_true_eq,
    gt_iff_lt,UInt64.not_lt] at hargs
  refine settled_iff_of_handled hhandled (fun e he => ?_) fun m hm hcounted => ?_
  · simp only [he]
    refine ⟨rfl,?_⟩
    rintro ⟨_,reply,hreply,_⟩
    cases hreply
  have hfault : ((sessionId ≠ 0 ∧ ptsNs ≤ int64Max ∧ width ≠ 0 ∧ height ≠ 0 ∧ width &&& 1 = 0 ∧
      height &&& 1 = 0) ∧ ∃ reply, t.reply = .ok reply ∧ RefusedLate os w reply width height) ↔
      RefusedLate os w m width height := by
    constructor
    · rintro ⟨_,reply,hreply,hrefused⟩
      obtain rfl : m = reply := Except.ok.inj (hm.symm.trans hreply)
      exact hrefused
    · intro hrefused
      obtain ⟨⟨⟨⟨⟨hsession,hpts⟩,hwidth⟩,hheight⟩,heven⟩,heven'⟩ := hargs
      exact ⟨⟨hsession,hpts,hwidth,hheight,heven,heven'⟩,m,hm,hrefused⟩
  rw [hfault]
  simp only [hm]
  split
  · rename_i hsize
    refine iff_of_true (statusResult_settled hcounted emptyDescriptor_fds) fun hrefused => ?_
    rw [hrefused.size] at hsize
    cases hsize
  split
  · rename_i hsize
    refine iff_of_true (protocolError_settled hcounted emptyDescriptor_fds) fun hrefused => ?_
    simp [hrefused.size,hrefused.flags] at hsize
  rename_i hsize
  simp only [Bool.or_eq_true,bne_iff_ne,not_or,ne_eq,not_not] at hsize
  split
  · rename_i hhead
    rw [refused_settled_iff hcounted]
    refine iff_of_true (closableFds_eq_nil fun _ => rfl) fun hrefused => ?_
    rw [hrefused.head] at hhead
    cases hhead
  rename_i hhead
  have hhead : reserveHeadValid m = true := by simpa using hhead
  have hleft := reserveHead_left hcounted hhead
  split
  · rename_i hdecode
    rw [refused_settled_iff hcounted,← not_iff_not,not_not,← ne_eq,hleft]
    refine ⟨fun hfirst => ⟨hsize.1,hsize.2,hhead,hfirst,fun d hd => ?_⟩,fun h => h.first⟩
    rw [hdecode] at hd
    cases hd
  · rename_i d hdecode
    split
    · rename_i hmatch
      rw [refused_settled_iff hcounted,← not_iff_not,not_not,← ne_eq,hleft]
      refine ⟨fun hfirst => ⟨hsize.1,hsize.2,hhead,hfirst,fun d' hd => ?_⟩,fun h => h.first⟩
      obtain rfl : d = d' := Except.ok.inj (hdecode.symm.trans hd)
      simpa using hmatch
    · rename_i hmatch
      refine iff_of_true (descriptor_settled hcounted hdecode) fun hrefused => hmatch ?_
      rw [hrefused.refused d hdecode]
      rfl

/-- The account of a call is settled unless the record has no bytes but descriptors, or the call is
a reservation whose reply is refused after its first object was decoded. -/
theorem call_settled_iff (call : Call) : (call.accounts os w requestId stack incoming).Settled ↔
      ¬ (EmptyRecord incoming ∧ (call.accounts os w requestId stack incoming).received ≠ []) ∧
      ¬ Aliases os w requestId stack incoming call := by
  cases call with
  | transferPrime sessionId bufferId =>
    exact transferPrime_settled os w requestId sessionId stack incoming bufferId
  | reserveLinear sessionId ptsNs width height =>
    exact reserveLinear_settled os w requestId sessionId stack incoming ptsNs width height
  | dequeueOutput sessionId => exact dequeueOutput_settled os w requestId sessionId stack incoming
  | completeDmabuf sessionId bufferId =>
    exact completeDmabuf_settled os w requestId sessionId stack incoming bufferId
  | queryCapabilities => exact queryCapabilities_settled os w requestId stack incoming
end

def otherSizeReply : Datagram where
  bytes := (headerEncode
      { versionMinor := versionMinor, messageType := 2, opcode := 18, requestId := 7, sessionId := 1,
        payloadSize := 264, fdCount := 2 }).getD [] ++
    statusPayload Status.ok 0 ++ registrationPayload { twoObjects with width := 256 }
  fds := [5,7]
  truncated := false

theorem reserveLinear_otherSize_closes_twice :
    let a := (Call.reserveLinear 1 0 128 64).accounts SessionEngine.mockOs () 7 []
      (.ok otherSizeReply)
    (a.received = [5,7] ∧ a.closed = [5,7,5,7] ∧ a.owned = []) ∧ ¬ a.Settled := by
  intro a
  have hlists : a.received = [5,7] ∧ a.closed = [5,7,5,7] ∧ a.owned = [] := by
    decide +kernel
  refine ⟨hlists,fun hsettled => ?_⟩
  rw [Accounts.Settled,hlists.1,hlists.2.1,hlists.2.2] at hsettled
  exact absurd hsettled.length_eq (by decide)
end LinDeX.Client
