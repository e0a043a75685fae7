import Mathlib.Data.List.GetD
import Mathlib.Data.List.TakeWhile
import LinDeX.Client.Delivery
import LinDeX.Client.Replies
import LinDeX.SessionEngine.Mock

/-!
# Capabilities on their way

The broker writes its capabilities into a payload and `advc_client_query_capabilities` reads them
back. Both sides place an entry at the same offset, and a name ends inside its field on both.
-/
namespace LinDeX.Client
open Bytes Broker SessionEngine List
section
variable {p : List UInt8}
theorem foldl_putByte (off k : Nat) (s : List UInt8) (h : off + k + s.length ≤ p.length) :
    ((s.zipIdx k).foldl (fun p c => putByte p (off + c.2) c.1) p).length = p.length ∧
    ∀ j, byteAt ((s.zipIdx k).foldl (fun p c => putByte p (off + c.2) c.1) p) j =
      if off + k ≤ j ∧ j < off + k + s.length then s.getD (j - (off + k)) 0 else byteAt p j := by
  induction s generalizing p k with
  | nil =>
    refine ⟨rfl,fun j => (if_neg ?_).symm⟩
    rw [length_nil]
    omega
  | cons a s ih =>
    rw [length_cons] at h
    rw [List.zipIdx_cons,List.foldl_cons]
    obtain ⟨hlength,hbytes⟩ := ih (p := putByte p (off + k) a) (k + 1)
      (by rw [putByte_length]; omega)
    refine ⟨hlength.trans (putByte_length ..),fun j => ?_⟩
    rw [hbytes,byteAt_putByte _ _ _ (by omega),length_cons]
    by_cases hj : j = off + k
    · rw [if_neg (by omega),if_pos hj,if_pos (by omega),hj,Nat.sub_self,List.getD_cons_zero]
    · by_cases hin : off + (k + 1) ≤ j ∧ j < off + (k + 1) + s.length
      · have hsub : j - (off + k) = j - (off + (k + 1)) + 1 := by omega
        rw [if_pos hin,if_pos (by omega),hsub,List.getD_cons_succ]
      · rw [if_neg hin,if_neg hj,if_neg (by omega)]
variable {off size i j : Nat}
variable (src : List UInt8)
theorem putString_length (h : off + size ≤ p.length) :
    (putString p off size src).length = p.length := by
  have htake := length_take_le size (cString src)
  exact (foldl_putByte off 0 _ (by omega)).1

theorem byteAt_putString_other (h : off + size ≤ p.length)
    (hj : j < off ∨ off + size ≤ j) : byteAt (putString p off size src) j = byteAt p j := by
  have htake := length_take_le size (cString src)
  rw [putString,(foldl_putByte off 0 _ (by omega)).2,if_neg (by omega)]

theorem byteAt_putString {off size k : Nat} (h : off + size ≤ p.length)
    (hclear : byteAt p (off + k) = 0) :
    byteAt (putString p off size src) (off + k) = ((cString src).take size).getD k 0 := by
  have htake := length_take_le size (cString src)
  rw [putString,(foldl_putByte off 0 _ (by omega)).2]
  split
  · congr 1
    omega
  · rw [hclear,List.getD_eq_getElem?_getD,List.getElem?_eq_none (by omega)]
    rfl

theorem cString_field {src : List UInt8} (h : off + size ≤ p.length)
    (hname : (cString src).length < size)
    (hbytes : ∀ k < size, byteAt p (off + k) = (cString src).getD k 0) :
    cString ((p.drop off).take (size - 1)) = cString src := by
  have hlist : (p.drop off).take (size - 1) =
      cString src ++ List.replicate (size - 1 - (cString src).length) 0 := by
    refine ext_getElem ?_ fun k hk hk' => ?_
    · rw [length_take,length_drop,length_append,length_replicate]
      omega
    · rw [length_take,length_drop] at hk
      have hbyte := hbytes k (by omega)
      rw [byteAt,List.getD_eq_getElem _ _ (by omega)] at hbyte
      rw [List.getElem_take,List.getElem_drop,hbyte,List.getElem_append]
      split
      · rename_i hin
        exact List.getD_eq_getElem _ _ hin
      · rename_i hout
        rw [List.getElem_replicate,List.getD_eq_getElem?_getD,List.getElem?_eq_none (by omega)]
        rfl
  have hne : ∀ b ∈ cString src, (b != 0) = true := by
    intro b hb
    unfold cString at hb
    exact mem_takeWhile_imp (p := fun b => b != 0) hb
  conv_lhs => rw [hlist,cString]
  rw [List.takeWhile_append_of_pos hne,List.takeWhile_replicate,if_neg (by decide),append_nil]

structure HoldsEntry (p : List UInt8) (i : Nat) (c : CodecCapability) : Prop where
  mime : ∀ k < 64, byteAt p (24 + i * 224 + k) = ((cString c.mime).take 63).getD k 0
  codecName : ∀ k < 128, byteAt p (24 + i * 224 + 64 + k) = ((cString c.codecName).take 127).getD k 0
  direction : byteAt p (24 + i * 224 + 192) = c.direction
  acceleration : byteAt p (24 + i * 224 + 193) = c.acceleration
  lowLatency : byteAt p (24 + i * 224 + 194) = c.lowLatency
  securePlayback : byteAt p (24 + i * 224 + 195) = c.securePlayback
  maxWidth : getU32 p (24 + i * 224 + 196) = c.maxWidth
  maxHeight : getU32 p (24 + i * 224 + 200) = c.maxHeight
  maxFpsMilli : getU32 p (24 + i * 224 + 204) = c.maxFpsMilli
  flags : getU32 p (24 + i * 224 + 208) = c.flags
variable (v : UInt32)
theorem byteAt_putU32_other (h : off + 4 ≤ p.length)
    (hj : j < off ∨ off + 4 ≤ j) : byteAt (putU32 p off v) j = byteAt p j := by
  rw [byteAt_putU32 _ _ _ h,if_neg (by omega),if_neg (by omega),if_neg (by omega),
    if_neg (by omega)]

theorem byteAt_putByte_other (v : UInt8) (h : i < p.length) (hj : j ≠ i) :
    byteAt (putByte p i v) j = byteAt p j := by
  rw [byteAt_putByte _ _ _ h,if_neg hj]

theorem byteAt_putByte_self (v : UInt8) (h : i < p.length) :
    byteAt (putByte p i v) i = v := by
  rw [byteAt_putByte _ _ _ h,if_pos rfl]

theorem getU32_putU32 (h : off + 4 ≤ p.length) :
    getU32 (putU32 p off v) off = v := by
  apply getU32_of_bytes <;> rw [byteAt_putU32 _ _ _ h] <;> simp

theorem getU32_putU32_other {off off' : Nat} (h : off' + 4 ≤ p.length)
    (hoff : off + 4 ≤ off' ∨ off' + 4 ≤ off) : getU32 (putU32 p off' v) off = getU32 p off := by
  rw [getU32_eq_ofBytes,getU32_eq_ofBytes,byteAt_putU32_other v h (by omega),
    byteAt_putU32_other v h (by omega),byteAt_putU32_other v h (by omega),
    byteAt_putU32_other v h (by omega)]

theorem putNumbers_spec {e : Nat} (c : CodecCapability) (h : e + 224 ≤ p.length) :
    let q := putU32 (putU32 (putU32 (putU32 (putByte (putByte (putByte (putByte p (e + 192)
      c.direction) (e + 193) c.acceleration) (e + 194) c.lowLatency) (e + 195) c.securePlayback)
      (e + 196) c.maxWidth) (e + 200) c.maxHeight) (e + 204) c.maxFpsMilli) (e + 208) c.flags
    q.length = p.length ∧ (∀ j, j < e + 192 ∨ e + 212 ≤ j → byteAt q j = byteAt p j) ∧
      (byteAt q (e + 192) = c.direction ∧ byteAt q (e + 193) = c.acceleration ∧
        byteAt q (e + 194) = c.lowLatency ∧ byteAt q (e + 195) = c.securePlayback) ∧
      getU32 q (e + 196) = c.maxWidth ∧ getU32 q (e + 200) = c.maxHeight ∧
      getU32 q (e + 204) = c.maxFpsMilli ∧ getU32 q (e + 208) = c.flags := by
  intro q
  dsimp only [q]
  refine ⟨by simp only [putU32_length,putByte_length],fun j hj => ?_,⟨?_,?_,?_,?_⟩,?_,?_,?_,?_⟩
  · simp (disch := first | (simp only [putU32_length,putByte_length]; omega) | omega) only
      [byteAt_putU32_other,byteAt_putByte_other]
  -- A byte or a word is read back where it was written; what is written later stands elsewhere.
  iterate 4
    · simp (disch := first | (simp only [putU32_length,putByte_length]; omega) | omega) only
        [byteAt_putU32_other,byteAt_putByte_other,byteAt_putByte_self]
  iterate 4
    · simp (disch := first | (simp only [putU32_length,putByte_length]; omega) | omega) only
        [getU32_putU32_other,getU32_putU32]

theorem putCapability_spec (c : CodecCapability) (h : 24 + i * 224 + 224 ≤ p.length)
    (hclear : ∀ k < 224, byteAt p (24 + i * 224 + k) = 0) :
    (putCapability p i c).length = p.length ∧ HoldsEntry (putCapability p i c) i c ∧
    ∀ j, j < 24 + i * 224 ∨ 24 + i * 224 + 224 ≤ j →
      byteAt (putCapability p i c) j = byteAt p j := by
  have hmime : (putString p (24 + i * 224) 63 c.mime).length = p.length :=
    putString_length c.mime (by omega)
  have hname : (putString (putString p (24 + i * 224) 63 c.mime) (24 + i * 224 + 64) 127
      c.codecName).length = (putString p (24 + i * 224) 63 c.mime).length :=
    putString_length c.codecName (by omega)
  obtain ⟨hlength,hother,⟨hdirection,hacceleration,hlatency,hsecure⟩,hwidth,hheight,hfps,
    hflags⟩ := putNumbers_spec (p := putString (putString p (24 + i * 224) 63 c.mime)
      (24 + i * 224 + 64) 127 c.codecName) (e := 24 + i * 224) c (by omega)
  refine ⟨hlength.trans (hname.trans hmime),⟨fun k hk => ?_,fun k hk => ?_,hdirection,
    hacceleration,hlatency,hsecure,hwidth,hheight,hfps,hflags⟩,fun j hj => ?_⟩
  · refine (hother _ (by omega)).trans ?_
    rw [byteAt_putString_other _ (by omega) (by omega),byteAt_putString _ (by omega)
      (hclear k (by omega))]
  · refine (hother _ (by omega)).trans ?_
    rw [byteAt_putString _ (by omega)]
    rw [byteAt_putString_other _ (by omega) (by omega),Nat.add_assoc _ 64 k]
    exact hclear _ (by omega)
  · refine (hother j (by omega)).trans ?_
    rw [byteAt_putString_other _ (by omega) (by omega),
      byteAt_putString_other _ (by omega) (by omega)]

theorem getU32_congr {q : List UInt8}
    (h : ∀ k < 4, byteAt q (off + k) = byteAt p (off + k)) : getU32 q off = getU32 p off := by
  rw [getU32_eq_ofBytes,getU32_eq_ofBytes,h 1 (by decide),h 2 (by decide),h 3 (by decide),
    ← Nat.add_zero off,h 0 (by decide)]

theorem HoldsEntry.congr {q : List UInt8} {c : CodecCapability} (h : HoldsEntry p i c)
    (hsame : ∀ k < 224, byteAt q (24 + i * 224 + k) = byteAt p (24 + i * 224 + k)) :
    HoldsEntry q i c := by
  have hword {off : Nat} (hoff : off + 4 ≤ 224) :
      getU32 q (24 + i * 224 + off) = getU32 p (24 + i * 224 + off) := by
    refine getU32_congr fun k hk => ?_
    rw [Nat.add_assoc]
    exact hsame _ (by omega)
  refine ⟨fun k hk => ?_,fun k hk => ?_,?_,?_,?_,?_,?_,?_,?_,?_⟩
  · rw [hsame k (by omega),h.mime k hk]
  · rw [Nat.add_assoc,hsame (64 + k) (by omega),← Nat.add_assoc,h.codecName k hk]
  · rw [hsame 192 (by decide),h.direction]
  · rw [hsame 193 (by decide),h.acceleration]
  · rw [hsame 194 (by decide),h.lowLatency]
  · rw [hsame 195 (by decide),h.securePlayback]
  · rw [hword (by decide),h.maxWidth]
  · rw [hword (by decide),h.maxHeight]
  · rw [hword (by decide),h.maxFpsMilli]
  · rw [hword (by decide),h.flags]
variable (codecs : Fin 32 → CodecCapability)
/-- The loop of `write_capability_reply`. -/
def putCapabilities (entries : List (Fin 32)) (p : List UInt8) : List UInt8 :=
  entries.foldl (fun p (i : Fin 32) => putCapability p i.val (codecs i)) p

theorem putCapabilities_cons (i : Fin 32) (entries : List (Fin 32)) :
    putCapabilities codecs (i :: entries) p =
      putCapabilities codecs entries (putCapability p i.val (codecs i)) := by
  unfold putCapabilities
  rw [List.foldl_cons]

theorem putCapabilities_spec {entries : List (Fin 32)}
    (hnodup : entries.Nodup) (hroom : ∀ i ∈ entries, 24 + i.val * 224 + 224 ≤ p.length)
    (hclear : ∀ i ∈ entries, ∀ k < 224, byteAt p (24 + i.val * 224 + k) = 0) :
    (putCapabilities codecs entries p).length = p.length ∧
    (∀ i ∈ entries, HoldsEntry (putCapabilities codecs entries p) i.val (codecs i)) ∧
    ∀ j, (∀ i ∈ entries, j < 24 + i.val * 224 ∨ 24 + i.val * 224 + 224 ≤ j) →
      byteAt (putCapabilities codecs entries p) j = byteAt p j := by
  induction entries generalizing p with
  | nil => exact ⟨rfl,fun i hi => absurd hi not_mem_nil,fun _ _ => rfl⟩
  | cons i entries ih =>
    obtain ⟨hnotin,hrest⟩ := nodup_cons.mp hnodup
    obtain ⟨hlength,hholds,hother⟩ := putCapability_spec (codecs i)
      (hroom i mem_cons_self) (hclear i mem_cons_self)
    -- Two different entries do not overlap.
    have hapart {i' : Fin 32} (hi' : i' ∈ entries) {k : Nat} (hk : k < 224) :
        24 + i'.val * 224 + k < 24 + i.val * 224 ∨
          24 + i.val * 224 + 224 ≤ 24 + i'.val * 224 + k := by
      have hne : i'.val ≠ i.val := fun heq => hnotin (Fin.ext heq ▸ hi')
      omega
    obtain ⟨hlength',hholds',hother'⟩ := ih (p := putCapability p i.val (codecs i)) hrest
      (fun i' hi' => by rw [hlength]; exact hroom i' (mem_cons_of_mem _ hi'))
      (fun i' hi' k hk => by
        rw [hother _ (hapart hi' hk)]
        exact hclear i' (mem_cons_of_mem _ hi') k hk)
    rw [putCapabilities_cons]
    refine ⟨hlength'.trans hlength,fun i' hi' => ?_,fun j hj => ?_⟩
    · rcases mem_cons.mp hi' with rfl | hi'
      · refine hholds.congr fun k hk => hother' _ fun i'' hi'' => ?_
        have hne : i''.val ≠ i'.val := fun heq => hnotin (Fin.ext heq ▸ hi'')
        omega
      · exact hholds' i' hi'
    · exact (hother' j fun i' hi' => hj i' (mem_cons_of_mem _ hi')).trans
        (hother j (hj i mem_cons_self))

theorem HoldsEntry.readCapability {c : CodecCapability} (h : HoldsEntry p i c)
    (hroom : 24 + i * 224 + 224 ≤ p.length) (hmime : (cString c.mime).length < maxMime)
    (hname : (cString c.codecName).length < maxCodecName) :
    Client.readCapability p i =
      { c with mime := cString c.mime, codecName := cString c.codecName } := by
  have hsize : maxMime = 64 := rfl
  have hsize' : maxCodecName = 128 := rfl
  have hmimeBytes := h.mime
  have hnameBytes := h.codecName
  rw [take_of_length_le (by omega)] at hmimeBytes hnameBytes
  unfold Client.readCapability
  dsimp only
  rw [cString_field (by omega) hmime hmimeBytes,cString_field (by omega) hname hnameBytes,
    h.direction,
    h.acceleration,h.lowLatency,h.securePlayback,h.maxWidth,h.maxHeight,h.maxFpsMilli,h.flags]

theorem putPrefix_spec (count apiLevel : UInt32) (features : UInt64) (h : 24 ≤ p.length) :
    let q := putU64 (putU32 (putU32 (putU32 (putU32 p 0 Status.ok) 4 count) 8 apiLevel) 12 0) 16
      features
    q.length = p.length ∧ (∀ j, 24 ≤ j → byteAt q j = byteAt p j) ∧ getU32 q 4 = count ∧
      getU32 q 8 = apiLevel ∧ getU64 q 16 = features := by
  intro q
  dsimp only [q,putU64]
  refine ⟨by simp only [putU32_length],fun j hj => ?_,?_,?_,getU64_of_words (w := 4) ?_ ?_⟩
  · simp (disch := first | (simp only [putU32_length]; omega) | omega) only [byteAt_putU32_other]
  iterate 2
    · simp (disch := first | (simp only [putU32_length]; omega) | omega) only
        [getU32_putU32_other,getU32_putU32]
  iterate 2
    · unfold word
      simp (disch := first | (simp only [putU32_length]; omega) | omega) only
        [getU32_putU32_other,getU32_putU32]
end

structure HoldsCapabilities (p : List UInt8) (caps : CapabilitySet) : Prop where
  room : 24 + caps.count.toNat * 224 ≤ p.length
  count : getU32 p 4 = caps.count
  apiLevel : getU32 p 8 = caps.apiLevel
  features : getU64 p 16 = caps.transportFeatures
  entries : ∀ i : Fin 32, i.val < caps.count.toNat → HoldsEntry p i.val (caps.codecs i)
variable {caps : CapabilitySet}
theorem HoldsCapabilities.append {p : List UInt8}
    (h : HoldsCapabilities p caps) (rest : List UInt8) : HoldsCapabilities (p ++ rest) caps := by
  have hroom := h.room
  refine ⟨by rw [length_append]; omega,?_,?_,?_,fun i hi => ?_⟩
  · rw [getU32_append_left (by omega),h.count]
  · rw [getU32_append_left (by omega),h.apiLevel]
  · rw [getU64_append_left (by omega),h.features]
  · exact (h.entries i hi).congr fun k hk => byteAt_append_left (by omega)

theorem writeCapabilityReply_spec {reply : Message}
    (hcount : caps.count.toNat ≤ maxCapabilities) (hcapacity : reply.payloadCapacity = maxPayload) :
    ∃ payload, payload.length = 24 + caps.count.toNat * 224 ∧ HoldsCapabilities payload caps ∧
    writeCapabilityReply reply caps = some { reply with
      header := { reply.header with payloadSize := UInt32.ofNat (24 + caps.count.toNat * 224) }
      payload := payload } := by
  have hmax : maxCapabilities = 32 := rfl
  have hpayload : maxPayload = 1048576 := rfl
  have hzeros : (zeros (24 + caps.count.toNat * 224)).length = 24 + caps.count.toNat * 224 :=
    length_replicate
  have hclear (j : Nat) : byteAt (zeros (24 + caps.count.toNat * 224)) j = 0 := by
    simp [byteAt,zeros]
  obtain ⟨hlength,hother,hcountField,hapi,hfeatures⟩ := putPrefix_spec caps.count caps.apiLevel
    caps.transportFeatures (p := zeros (24 + caps.count.toNat * 224)) (by omega)
  have hindices (i : Fin 32) :
      i ∈ (List.finRange 32).take caps.count.toNat ↔ i.val < caps.count.toNat := by
    rw [mem_take_iff_getElem]
    constructor
    · rintro ⟨k,hk,rfl⟩
      rw [List.getElem_finRange]
      exact (Nat.lt_min.mp hk).1
    · intro hi
      exact ⟨i.val,by rw [length_finRange]; omega,List.getElem_finRange ..⟩
  obtain ⟨hfinal,hholds,hkept⟩ := putCapabilities_spec caps.codecs
    ((nodup_finRange 32).sublist (take_sublist caps.count.toNat _))
    (fun i hi => by
      have := (hindices i).mp hi
      rw [hlength,hzeros]
      omega)
    (fun i hi k hk => (hother _ (by omega)).trans (hclear _))
  have hfront {j : Nat} (hj : j < 24) := hkept j fun i _ => .inl (by omega)
  refine ⟨_,hfinal.trans (hlength.trans hzeros),⟨?_,?_,?_,?_,?_⟩,?_⟩
  · exact Nat.le_of_eq (hfinal.trans (hlength.trans hzeros)).symm
  · exact (getU32_congr fun k hk => hfront (by omega)).trans hcountField
  · exact (getU32_congr fun k hk => hfront (by omega)).trans hapi
  · refine Eq.trans ?_ hfeatures
    rw [getU64,getU64,getU32_congr fun k hk => hfront (by omega),
      getU32_congr fun k hk => hfront (by omega)]
  · exact fun i hi => hholds i ((hindices i).mpr hi)
  · unfold writeCapabilityReply
    dsimp only
    rw [if_neg (by simp only [hcapacity,Bool.or_eq_true,decide_eq_true_eq]; omega)]
    rfl
variable {ω : Type}
theorem queryCapabilities_parse {requestId : UInt32} {stack : List UInt8}
    {incoming : Except Errno Datagram} {reply : Message}
    (hreply : (transactionEx 2 0 requestId false (24 + maxCapabilities * 224) stack incoming).reply =
      .ok reply) (hfds : reply.header.fdCount = 0) (hcount : caps.count.toNat ≤ maxCapabilities)
    (hsize : reply.header.payloadSize = UInt32.ofNat (24 + caps.count.toNat * 224))
    (hholds : HoldsCapabilities reply.payload caps) :
    (queryCapabilities requestId stack incoming).status = .ok Status.ok ∧
    (queryCapabilities requestId stack incoming).value = some
      { caps with codecs := fun i =>
            if i.val < caps.count.toNat then readCapability reply.payload i.val
            else noCapability } := by
  have hmax : maxCapabilities = 32 := rfl
  have hnat : reply.header.payloadSize.toNat = 24 + caps.count.toNat * 224 := by
    rw [hsize,UInt32.toNat_ofNat']
    exact Nat.mod_eq_of_lt (by omega)
  have height : (reply.header.payloadSize == 8) = false := by
    rw [beq_eq_false_iff_ne]
    intro h
    rw [h] at hnat
    have : (8 : UInt32).toNat = 8 := rfl
    omega
  have hsmall : ¬reply.header.payloadSize < 24 := by
    rw [UInt32.lt_iff_toNat_lt,hnat]
    exact Nat.not_lt.mpr (Nat.le_add_right _ _)
  have hwords : reply.header.payloadSize = 24 + caps.count * 224 := by
    apply UInt32.toNat_inj.mp
    have h24 : (24 : UInt32).toNat = 24 := rfl
    have h224 : (224 : UInt32).toNat = 224 := rfl
    rw [hnat,UInt32.toNat_add,UInt32.toNat_mul,h24,h224]
    omega
  unfold queryCapabilities
  dsimp only
  rw [hreply]
  dsimp only
  rw [hfds,height,hholds.count,hholds.apiLevel,hholds.features]
  rw [if_neg (by decide),Bool.false_and,if_neg (by decide),if_neg hsmall,if_neg]
  · exact ⟨rfl,rfl⟩
  · simp only [Bool.or_eq_true,decide_eq_true_eq,bne_iff_ne,not_or,ne_eq,not_not]
    exact ⟨by omega,hwords⟩

theorem name_terminated (p : List UInt8) {size : Nat} (hsize : 0 < size) :
    (cString (p.take (size - 1))).length < size ∧ 0 ∉ cString (p.take (size - 1)) := by
  constructor
  · have hle : (cString (p.take (size - 1))).length ≤ (p.take (size - 1)).length :=
      (List.takeWhile_sublist _).length_le
    have htake := length_take_le (size - 1) p
    omega
  · intro hzero
    unfold cString at hzero
    have := mem_takeWhile_imp (p := fun b => b != 0) hzero
    exact absurd this (by decide)

theorem queryCapabilities_bounds {requestId : UInt32} {stack : List UInt8}
    {incoming : Except Errno Datagram}
    (h : (queryCapabilities requestId stack incoming).value = some caps) :
    caps.count.toNat ≤ maxCapabilities ∧ ∀ i : Fin 32, i.val < caps.count.toNat →
      ((caps.codecs i).mime.length < maxMime ∧ 0 ∉ (caps.codecs i).mime) ∧
      (caps.codecs i).codecName.length < maxCodecName ∧ 0 ∉ (caps.codecs i).codecName := by
  unfold queryCapabilities at h
  dsimp only at h
  split at h
  · cases h
  split at h
  · cases h
  split at h
  · split at h <;> cases h
  split at h
  · cases h
  split at h
  · cases h
  rename_i hcheck
  cases h
  simp only [Bool.or_eq_true,decide_eq_true_eq,not_or,Nat.not_lt] at hcheck
  refine ⟨hcheck.1,fun i hi => ?_⟩
  dsimp only at hi ⊢
  rw [if_pos hi]
  exact ⟨name_terminated _ (by decide),name_terminated _ (by decide)⟩

def visibleFeatures (p : Provider ω) (req : Message) (caps : CapabilitySet) : UInt64 :=
  featuresFor req.header.versionMinor (caps.transportFeatures &&& p.featureBits)

/-- Capabilities go over the wire: what the broker writes for a set with names that fit is accepted
by the client with the same count, level, visible features and entries. What the client accepts
from any peer is within bounds, with names that are strings. -/
theorem queryCapabilities_transfer (b : BackendOps ω) (os : Os ω) (p : Provider ω) (w : ω)
    (e : Engine) (req : Message) (stack : List UInt8)
    (hopcode : req.header.opcode = 2) (hsession : req.header.sessionId = 0)
    (hminor : req.header.versionMinor ≤ versionMinor) :
    (∀ w' caps dg, p.queryCapabilities w = (w', some caps) → caps.count.toNat ≤ maxCapabilities →
      (∀ i : Fin 32, i.val < caps.count.toNat → (cString (caps.codecs i).mime).length < maxMime ∧
      (cString (caps.codecs i).codecName).length < maxCodecName) →
      Delivers (buildReply b os p w e req).2.2.2 dg →
      ∃ caps', (queryCapabilities req.header.requestId stack (.ok dg)).status = .ok Status.ok ∧
      (queryCapabilities req.header.requestId stack (.ok dg)).value = some caps' ∧
      caps'.count = caps.count ∧ caps'.apiLevel = caps.apiLevel ∧
      caps'.transportFeatures = visibleFeatures p req caps ∧
      ∀ i : Fin 32, i.val < caps.count.toNat → caps'.codecs i =
        { caps.codecs i with
          mime := cString (caps.codecs i).mime
          codecName := cString (caps.codecs i).codecName }) ∧
    ∀ requestId incoming caps, (queryCapabilities requestId stack incoming).value = some caps →
      caps.count.toNat ≤ maxCapabilities ∧ ∀ i : Fin 32, i.val < caps.count.toNat →
        ((caps.codecs i).mime.length < maxMime ∧ 0 ∉ (caps.codecs i).mime) ∧
          (caps.codecs i).codecName.length < maxCodecName ∧ 0 ∉ (caps.codecs i).codecName := by
  refine ⟨fun w' caps dg hquery hcount hnames hdg => ?_,fun _ _ _ => queryCapabilities_bounds⟩
  let visible : CapabilitySet := { caps with transportFeatures := visibleFeatures p req caps }
  have hvisible : visible.count.toNat ≤ maxCapabilities := hcount
  have hcapacity : (initReply req).payloadCapacity = maxPayload := rfl
  obtain ⟨payload,hlength,hholds,hwrite⟩ := writeCapabilityReply_spec hvisible hcapacity
  have hreply : (buildReply b os p w e req).2.2.2 = { initReply req with
      header := { (initReply req).header with
        payloadSize := UInt32.ofNat (24 + caps.count.toNat * 224) }
      payload := payload } := by
    have hcode : Opcode.ofCode 2 = some .queryCapabilities := rfl
    unfold buildReply
    rw [if_neg (UInt16.not_lt.mpr hminor),hopcode,hcode]
    unfold queryReply
    rw [hquery]
    exact congrArg (Option.getD · _) hwrite
  rw [hreply] at hdg
  have hmax : maxCapabilities = 32 := rfl
  have hpayload : maxPayload = 1048576 := rfl
  have hsize : (UInt32.ofNat (24 + caps.count.toNat * 224)).toNat = 24 + caps.count.toNat * 224 := by
    rw [UInt32.toNat_ofNat']
    exact Nat.mod_eq_of_lt (by omega)
  have hsendable : Sendable { initReply req with
      header := { (initReply req).header with
        payloadSize := UInt32.ofNat (24 + caps.count.toNat * 224) }
      payload := payload } := by
    refine ⟨?_,Nat.le_of_eq (hsize.trans hlength.symm),rfl⟩
    simp only [headerValidate,initReply,hopcode,hsize,Bool.not_eq_true',Bool.or_eq_false_iff,
      decide_eq_false_iff_not,Nat.not_lt]
    exact ⟨⟨⟨by decide,by omega⟩,by decide⟩,by decide⟩
  have hmatches : replyMatches 2 0 req.header.requestId false
      { (initReply req).header with
        payloadSize := UInt32.ofNat (24 + caps.count.toNat * 224) } = true := by
    simp [replyMatches,initReply,hopcode,hsession]
  have htransaction := congrArg Transaction.reply (transactionEx_delivered hsendable hdg
    (24 + maxCapabilities * 224) (by rw [hsize]; omega) hmatches stack)
  have hreceived : HoldsCapabilities (payload.take (UInt32.ofNat (24 + caps.count.toNat * 224)).toNat
      ++ stack.drop (UInt32.ofNat (24 + caps.count.toNat * 224)).toNat) visible := by
    rw [take_of_length_le (Nat.le_of_eq (hlength.trans hsize.symm))]
    exact hholds.append _
  obtain ⟨hstatus,hvalue⟩ := queryCapabilities_parse htransaction rfl hvisible rfl hreceived
  refine ⟨_,hstatus,hvalue,rfl,rfl,rfl,fun i hi => ?_⟩
  dsimp only
  rw [if_pos hi]
  refine (hreceived.entries i hi).readCapability ?_ (hnames i hi).1 (hnames i hi).2
  have hroom : 24 + caps.count.toNat * 224 ≤ _ := hreceived.room
  exact Nat.le_trans (by omega) hroom

def plainCapability : CodecCapability :=
  ⟨ascii "video/avc",ascii "c2.qti.avc.decoder",1,2,1,0,4096,2304,60000,3⟩
def plainProvider : Provider Unit :=
  ⟨0x3fff,fun _ => ((), some ⟨34,1,0x31,fun _ => plainCapability⟩)⟩

def plainReply : Message :=
  (buildReply (mockBackend (mockOutput 0 0 0 (-1)) (0, -1)) mockOs plainProvider () .create
    (mockRequest 2 0 [] [])).2.2.2

def plainRecord : Datagram := ⟨((sendMessage plainReply).getD ([], [])).1,[],false⟩

theorem queryCapabilities_transfer_plain :
    ∃ caps, (queryCapabilities 0 [] (.ok plainRecord)).value = some caps ∧ caps.count = 1 ∧
    caps.transportFeatures = 0x31 ∧ (caps.codecs 0).mime = ascii "video/avc" ∧
    (caps.codecs 0).codecName.length < maxCodecName ∧ 0 ∉ (caps.codecs 0).codecName := by
  have hchecks : (sendMessage plainReply).isSome = true ∧ plainReply.fds = [] ∧
      featuresFor 8 (0x31 &&& 0x3fff) = 0x31 ∧
      (cString plainCapability.mime = ascii "video/avc") ∧
      (cString plainCapability.mime).length < maxMime ∧
      (cString plainCapability.codecName).length < maxCodecName := by
    decide +kernel
  obtain ⟨hsent,hfds,hfeatures,hname,hmime,hcodec⟩ := hchecks
  obtain ⟨sent,hsent⟩ := Option.isSome_iff_exists.mp hsent
  have hdelivers : Delivers plainReply plainRecord := by
    refine ⟨⟨sent.2,?_⟩,?_,rfl⟩
    · unfold plainRecord
      rw [hsent]
      rfl
    · rw [hfds]
      rfl
  obtain ⟨htransfer,hbounds⟩ := queryCapabilities_transfer
    (mockBackend (mockOutput 0 0 0 (-1)) (0, -1)) mockOs plainProvider () .create
    (mockRequest 2 0 [] []) [] rfl rfl (by decide)
  obtain ⟨caps,_,hvalue,hcount,_,hvisible,hentries⟩ := htransfer () _ plainRecord rfl (by decide)
    (fun _ _ => ⟨hmime,hcodec⟩) hdelivers
  have hfirst := ((hbounds _ _ caps hvalue).2 0 (by rw [hcount]; decide)).2
  refine ⟨caps,hvalue,hcount,hvisible.trans hfeatures,?_,hfirst⟩
  rw [hentries 0 (by decide)]
  exact hname
end LinDeX.Client
