import LinDeX.Broker.Reply
import LinDeX.Client.Delivery
import LinDeX.Client.Session
import LinDeX.Dmabuf.Registration
import LinDeX.SessionEngine.Mock
import LinDeX.SessionEngine.Sessions
import LinDeX.System.FileTable

/-!
# Input from the client to the backend

`advc_client_queue_input` on one side of the socket, `handle_queue` with `load_input` and
`read_all_at` on the other. The data goes along in the record or lies in a sealed file.
-/
namespace LinDeX.Client
open Bytes SessionEngine List Transport Flag
variable {ω ω₀ : Type}
/-- `struct advc_client_input`. `data` is the memory behind the pointer, `none` for `NULL`; there
are at least `size` bytes of it. -/
structure Input where
  data : Option (List UInt8)
  size : UInt64
  dataFd : Fd
  (dataOffset bufferId ptsNs : UInt64)
  flags : UInt32
  readable : ∀ bytes ∈ data, size.toNat ≤ bytes.length

def inputFlags : UInt32 := endOfStream ||| keyFrame ||| codecConfig

/-- The checks of `advc_client_queue_input` on inline data. -/
def inlineInputValid (input : Input) : Bool :=
  !((decide (0 < input.size) && input.data.isNone) || input.dataOffset != 0 ||
    decide (maxPayload - 48 < input.size.toNat))

/-- The checks of `advc_client_queue_input` on a descriptor. -/
def fdInputValid (os : Os ω) (w : ω) (input : Input) : Bool :=
  !(input.data.isSome || !((os.getSeals w input.dataFd).any fun seals => (seals &&& 14) == 14) ||
    !((os.fstat w input.dataFd).any fun st =>
      st.isRegular && !decide (st.size < 0) && !decide ((input.dataOffset.toNat : Int) > st.size) &&
        !decide ((input.size.toNat : Int) > st.size - input.dataOffset.toNat)))

def inputValid (os : Os ω) (w : ω) (input : Input) : Bool :=
  if input.dataFd < 0 then inlineInputValid input else fdInputValid os w input

/-- The payload of a `QUEUE_INPUT` request. -/
def queueInputPayload (input : Input) : List UInt8 :=
  let isInline := decide (input.dataFd < 0)
  let p := zeros (48 + if isInline then input.size.toNat else 0)
  let p := putU64 p 0 input.bufferId
  let p := putU64 p 8 input.ptsNs
  let p := putU64 p 16 (if isInline then 48 else input.dataOffset)
  let p := putU64 p 24 input.size
  let p := putU32 p 32 input.flags
  let p := putU32 p 36 (if isInline then FdRole.none else FdRole.inputData)
  if isInline && decide (0 < input.size) then
    copyAt p 48 ((input.data.getD []).take input.size.toNat)
  else p

/-- The request that `transaction_ex` makes of it. -/
def queueInputRequest (requestId sessionId : UInt32) (input : Input) : Message where
  header :=
    { versionMinor := versionMinor
      opcode := 4
      requestId := requestId
      sessionId := sessionId
      payloadSize := 48 + if input.dataFd < 0 then input.size.toUInt32 else 0
      fdCount := if input.dataFd < 0 then 0 else 1 }
  payload := queueInputPayload input
  fds := if input.dataFd < 0 then [] else [input.dataFd]

/-- `advc_client_queue_input` up to the request it sends. -/
def queueInput (os : Os ω) (w : ω) (requestId sessionId : UInt32) (input : Input) :
    ω × Except Errno Message :=
  if input.size > maxInputBytes then (w, .error .einval)
  else if input.flags &&& ~~~inputFlags != 0 then (w, .error .einval)
  else if !inputValid os w input then (w, .error .einval)
  else
    let allocated := os.malloc w (queueInputPayload input).length
    if !allocated.2 then (allocated.1, .error .enomem)
    else if sessionId == 0 then (allocated.1, .error .einval)
    else (allocated.1, .ok (queueInputRequest requestId sessionId input))

section
variable (input : Input)
def queueInputWord : Nat → UInt32
  | 0 => input.bufferId.toUInt32
  | 1 => (input.bufferId >>> 32).toUInt32
  | 2 => input.ptsNs.toUInt32
  | 3 => (input.ptsNs >>> 32).toUInt32
  | 4 => (if input.dataFd < 0 then 48 else input.dataOffset).toUInt32
  | 5 => ((if input.dataFd < 0 then 48 else input.dataOffset) >>> 32).toUInt32
  | 6 => input.size.toUInt32
  | 7 => (input.size >>> 32).toUInt32
  | 8 => input.flags
  | 9 => if input.dataFd < 0 then FdRole.none else FdRole.inputData
  | _ => 0

def queueInputHead : List UInt8 :=
  Dmabuf.putWords (zeros (48 + if input.dataFd < 0 then input.size.toNat else 0))
    ((List.range 10).map fun i => (i, queueInputWord input i))

theorem queueInputPayload_eq : queueInputPayload input =
    if input.dataFd < 0 ∧ 0 < input.size then
      copyAt (queueInputHead input) 48 ((input.data.getD []).take input.size.toNat)
    else queueInputHead input := by
  by_cases hinline : input.dataFd < 0 <;>
    simp [queueInputPayload,queueInputHead,Dmabuf.putWords,putU64,List.range_succ,
      queueInputWord,hinline]

theorem queueInputHead_length : (queueInputHead input).length =
    48 + if input.dataFd < 0 then input.size.toNat else 0 := by
  rw [queueInputHead,Dmabuf.putWords_length,zeros,length_replicate]

theorem word_queueInputHead {w : Nat} (hw : w < 12) :
    word (queueInputHead input) w = queueInputWord input w := by
  refine Dmabuf.word_putWords_zeros (queueInputWord input) (fun i hi => ?_) fun hrest => ?_
  · rw [mem_range] at hi
    omega
  · rw [mem_range] at hrest
    obtain rfl | rfl : w = 10 ∨ w = 11 := by omega
    · rfl
    · rfl

theorem inlineBytes_length (hdata : 0 < input.size → input.dataFd < 0 → input.data.isSome)
    (hinline : input.dataFd < 0) :
    ((input.data.getD []).take input.size.toNat).length = input.size.toNat := by
  cases hbytes : input.data with
  | none =>
    have hzero : input.size.toNat = 0 := by
      by_contra hne
      have hpos : 0 < input.size := UInt64.lt_iff_toNat_lt.mpr (Nat.pos_of_ne_zero hne)
      rw [hbytes] at hdata
      exact absurd (hdata hpos hinline) (by simp)
    simp [hzero]
  | some bytes => exact length_take_of_le (input.readable bytes hbytes)

section
variable {input} (hdata : 0 < input.size → input.dataFd < 0 → input.data.isSome)
include hdata
theorem inlineBytes_fit (hinline : input.dataFd < 0) :
    48 + ((input.data.getD []).take input.size.toNat).length ≤ (queueInputHead input).length := by
  rw [inlineBytes_length input hdata hinline,queueInputHead_length,if_pos hinline]

theorem queueInputPayload_length : (queueInputPayload input).length =
    48 + if input.dataFd < 0 then input.size.toNat else 0 := by
  rw [queueInputPayload_eq]
  split
  · rename_i h
    rw [copyAt_length (inlineBytes_fit hdata h.1),queueInputHead_length]
  · exact queueInputHead_length input

theorem word_queueInputPayload {w : Nat} (hw : w < 12) :
    word (queueInputPayload input) w = queueInputWord input w := by
  rw [queueInputPayload_eq]
  split
  · rename_i h
    rw [word_copyAt (inlineBytes_fit hdata h.1) (.inl (by omega)),word_queueInputHead input hw]
  · exact word_queueInputHead input hw

theorem queueInputPayload_drop (hinline : input.dataFd < 0) :
    (queueInputPayload input).drop 48 = (input.data.getD []).take input.size.toNat := by
  have hlength := inlineBytes_length input hdata hinline
  rw [queueInputPayload_eq]
  split
  · rw [drop_copyAt (inlineBytes_fit hdata hinline),drop_eq_nil_of_le,append_nil]
    rw [queueInputHead_length,if_pos hinline,hlength]
  · rename_i h
    have hzero : input.size.toNat = 0 := by
      by_contra hne
      exact h ⟨hinline,UInt64.lt_iff_toNat_lt.mpr (Nat.pos_of_ne_zero hne)⟩
    rw [drop_eq_nil_of_le,hzero,take_zero]
    rw [queueInputHead_length,if_pos hinline,hzero]
end
end

theorem readAllAt_file {os : Os ω} (k : os.Files) {fd : Fd} {f : File} {offset : Nat} (fuel : Nat)
    {w : ω} {done : List UInt8} (left : Nat) (hfile : k.file w fd = some f) (hfuel : left ≤ fuel)
    (hdone : done = (f.content.drop offset).take done.length)
    (hinside : offset + done.length + left ≤ f.content.length) :
    ∃ w', readAllAt os fd offset fuel w done left =
        (w', some ((f.content.drop offset).take (done.length + left))) ∧ k.file w' = k.file w := by
  induction fuel generalizing w done left with
  | zero =>
    obtain rfl : left = 0 := Nat.le_zero.mp hfuel
    exact ⟨w,by rw [readAllAt,Nat.add_zero,← hdone],rfl⟩
  | succ fuel ih =>
    cases left with
    | zero => exact ⟨w,by rw [readAllAt,Nat.add_zero,← hdone],rfl⟩
    | succ left =>
      obtain ⟨hne,⟨rest,hrest⟩,hkept⟩ := k.pread (left + 1) (offset + done.length) hfile
        (Nat.succ_pos left) (by omega)
      unfold readAllAt
      generalize os.pread w fd (left + 1) (offset + done.length) = r at hne hrest hkept
      obtain ⟨w',chunk⟩ := r
      dsimp only at hne hrest hkept ⊢
      have hlength : chunk.length ≤ left + 1 := by
        have h := congrArg List.length hrest
        rw [length_append,length_take] at h
        omega
      have hpos : 0 < chunk.length := length_pos_of_ne_nil hne
      have hchunk : chunk = (f.content.drop (offset + done.length)).take chunk.length := by
        have h := congrArg (List.take chunk.length) hrest
        rwa [take_left,take_take,Nat.min_eq_left hlength] at h
      have hnext : done ++ chunk = (f.content.drop offset).take (done ++ chunk).length := by
        rw [length_append,take_add,← hdone,drop_drop,← hchunk]
      obtain ⟨w'',hread,hkept'⟩ := ih (left + 1 - chunk.length) (by rw [hkept]; exact hfile)
        (by omega) hnext (by rw [length_append]; omega)
      refine ⟨w'',?_,hkept'.trans hkept⟩
      have htotal : (done ++ chunk).length + (left + 1 - chunk.length) =
          done.length + (left + 1) := by
        rw [length_append]
        omega
      rw [htotal] at hread
      simp only [take_of_length_le hlength,isEmpty_eq_false_iff.mpr hne,Bool.false_eq_true,
        if_false]
      exact hread

def Input.bytes {os : Os ω} (k : os.Files) (w : ω) (input : Input) : List UInt8 :=
  if input.dataFd < 0 then (input.data.getD []).take input.size.toNat
  else ((k.file w input.dataFd).map fun f =>
    (f.content.drop input.dataOffset.toNat).take input.size.toNat).getD []

structure Accepted {os : Os ω} (k : os.Files) (w : ω) (input : Input) : Prop where
  size : input.size ≤ maxInputBytes
  flags : input.flags &&& ~~~inputFlags = 0
  data : 0 < input.size → input.dataFd < 0 → input.data.isSome
  small : input.dataFd < 0 → input.size.toNat ≤ maxPayload - 48
  file : 0 ≤ input.dataFd → ∃ f, k.file w input.dataFd = some f ∧ f.Sealed ∧
    input.dataOffset.toNat + input.size.toNat ≤ f.content.length

theorem queueInput_ok {os : Os ω} (k : os.Files) {w w' : ω} {requestId sessionId : UInt32}
    {input : Input} {m : Message} (h : queueInput os w requestId sessionId input = (w', .ok m)) :
    m = queueInputRequest requestId sessionId input ∧ sessionId ≠ 0 ∧ k.file w' = k.file w ∧
    Accepted k w input := by
  unfold queueInput at h
  split at h
  · cases h
  rename_i hsize
  split at h
  · cases h
  rename_i hflags
  split at h
  · cases h
  rename_i hvalid
  dsimp only at h
  split at h
  · cases h
  split at h
  · cases h
  rename_i hsession
  rw [Prod.mk.injEq,Except.ok.injEq] at h
  refine ⟨h.2.symm,by simpa using hsession,?_,?_⟩
  · rw [← h.1]
    exact k.malloc w _
  rw [Bool.not_eq_true,Bool.not_eq_false',inputValid] at hvalid
  refine ⟨UInt64.not_lt.mp hsize,by simpa using hflags,fun hpos hinline => ?_,
    fun hinline => ?_,fun hfd => ?_⟩
  · rw [if_pos hinline] at hvalid
    simp only [inlineInputValid,Bool.not_eq_true',Bool.or_eq_false_iff,Bool.and_eq_false_imp,
      decide_eq_true_eq] at hvalid
    have hsome := hvalid.1.1 hpos
    simpa [Option.isNone_iff_eq_none,Option.ne_none_iff_isSome] using hsome
  · rw [if_pos hinline] at hvalid
    simp only [inlineInputValid,Bool.not_eq_true',Bool.or_eq_false_iff,decide_eq_false_iff_not,
      Nat.not_lt] at hvalid
    exact hvalid.2
  · rw [if_neg (Int.not_lt.mpr hfd)] at hvalid
    simp only [fdInputValid,Bool.not_eq_true',Bool.or_eq_false_iff,Bool.not_eq_false'] at hvalid
    obtain ⟨⟨-,hseals⟩,hstat⟩ := hvalid
    obtain ⟨seals,hget,hsealed⟩ := Option.any_eq_true _ _ |>.mp hseals
    obtain ⟨f,hf⟩ := k.isFile hget
    rw [k.getSeals hf,Option.some.injEq] at hget
    rw [k.fstat hf,Option.any_some] at hstat
    refine ⟨f,hf,?_,?_⟩
    · rw [File.Sealed,hget]
      exact beq_iff_eq.mp hsealed
    · simp only [Bool.and_eq_true,Bool.not_eq_true',decide_eq_false_iff_not] at hstat
      omega

section
variable {os₀ : Os ω₀} {k₀ : os₀.Files} {w₀ : ω₀} {os : Os ω} {k : os.Files} {w : ω}
  {input : Input} {requestId sessionId : UInt32} {dg : Datagram} {stack : List UInt8}

section
variable (requestId sessionId : UInt32)
theorem queueInputRequest_payloadSize (h : Accepted k₀ w₀ input) :
    (queueInputRequest requestId sessionId input).header.payloadSize.toNat =
      48 + if input.dataFd < 0 then input.size.toNat else 0 := by
  dsimp only [queueInputRequest]
  split
  · rename_i hinline
    have hsmall := h.small hinline
    rw [maxPayload] at hsmall
    rw [UInt32.toNat_add,UInt64.toNat_toUInt32]
    have h48 : (48 : UInt32).toNat = 48 := rfl
    rw [h48]
    omega
  · rfl

theorem queueInputRequest_length (h : Accepted k₀ w₀ input) :
    (queueInputRequest requestId sessionId input).payload.length =
      (queueInputRequest requestId sessionId input).header.payloadSize.toNat := by
  rw [queueInputRequest_payloadSize requestId sessionId h]
  exact queueInputPayload_length h.data

theorem queueInputRequest_sendable (h : Accepted k₀ w₀ input) :
    Sendable (queueInputRequest requestId sessionId input) := by
  have hsize := queueInputRequest_payloadSize requestId sessionId h
  refine ⟨?_,(queueInputRequest_length requestId sessionId h).ge,?_⟩
  · have hmax : ¬maxPayload <
        (queueInputRequest requestId sessionId input).header.payloadSize.toNat := by
      rw [hsize]
      split
      · rename_i hinline
        have hsmall := h.small hinline
        rw [maxPayload] at hsmall ⊢
        omega
      · decide
    have hfds : ¬maxFds < (queueInputRequest requestId sessionId input).header.fdCount.toNat := by
      dsimp only [queueInputRequest]
      split <;> decide
    simp only [headerValidate,hmax,hfds]
    rfl
  · dsimp only [queueInputRequest]
    split <;> rfl
end

structure InputRecord (req : Message) (input : Input) : Prop where
  ptsNs : getU64 req.payload 8 = input.ptsNs
  offset : getU64 req.payload 16 = if input.dataFd < 0 then 48 else input.dataOffset
  size : getU64 req.payload 24 = input.size
  flags : getU32 req.payload 32 = input.flags
  role : getU32 req.payload 36 = if input.dataFd < 0 then FdRole.none else FdRole.inputData
  reserved : zeroRange req.payload 40 8 = true
  payloadSize : req.header.payloadSize = 48 + if input.dataFd < 0 then input.size.toUInt32 else 0
  fdCount : req.header.fdCount = if input.dataFd < 0 then 0 else 1
  inlineData : input.dataFd < 0 → (req.payload.drop 48).take input.size.toNat =
    (input.data.getD []).take input.size.toNat

theorem queueInputRequest_record (h : Accepted k₀ w₀ input) :
    InputRecord (received (queueInputRequest requestId sessionId input) maxPayload stack dg)
      input := by
  have hlength := queueInputRequest_length requestId sessionId h
  have hsize := queueInputRequest_payloadSize requestId sessionId h
  have hpayload : (received (queueInputRequest requestId sessionId input) maxPayload stack
      dg).payload = queueInputPayload input ++ stack.drop (queueInputPayload input).length := by
    dsimp only [received]
    rw [← hlength,take_length]
    rfl
  have hlength' : (queueInputPayload input).length =
      48 + if input.dataFd < 0 then input.size.toNat else 0 := hlength.trans hsize
  have hword {i : Nat} (hi : i < 12) := word_queueInputPayload h.data hi
  have h32 {i : Nat} (hi : i < 12) :
      getU32 (received (queueInputRequest requestId sessionId input) maxPayload stack dg).payload
        (4 * i) = queueInputWord input i := by
    rw [hpayload,getU32_append_left (by omega)]
    exact hword hi
  have h64 {i : Nat} (hi : i + 1 < 12) {v : UInt64} (hlow : queueInputWord input i = v.toUInt32)
      (hhigh : queueInputWord input (i + 1) = (v >>> 32).toUInt32) :
      getU64 (received (queueInputRequest requestId sessionId input) maxPayload stack dg).payload
        (4 * i) = v := by
    rw [hpayload,getU64_append_left (by omega)]
    exact getU64_of_words ((hword (by omega)).trans hlow) ((hword hi).trans hhigh)
  refine ⟨h64 (i := 2) (by decide) rfl rfl,h64 (i := 4) (by decide) rfl rfl,
    h64 (i := 6) (by decide) rfl rfl,h32 (i := 8) (by decide),h32 (i := 9) (by decide),?_,rfl,
    rfl,fun hinline => ?_⟩
  · rw [hpayload,zeroRange_append_left (by omega)]
    refine (zeroRange_words_iff 10 2).mpr fun j hj => ?_
    rw [hword (by omega : 10 + j < 12)]
    obtain rfl | rfl : j = 0 ∨ j = 1 := by omega
    · rfl
    · rfl
  · have hbytes := inlineBytes_length input h.data hinline
    rw [hpayload,drop_append_of_le_length (by omega),queueInputPayload_drop h.data hinline,
      take_append_of_le_length hbytes.ge,take_of_length_le hbytes.le]

theorem loadInput_record {req : Message} (hrecord : InputRecord req input)
    (h : Accepted k₀ w₀ input)
    (hfile : 0 ≤ input.dataFd → k.file w (req.fd 0) = k₀.file w₀ input.dataFd)
    (hmalloc : ∀ size, (os.malloc w size).2 = true) :
    ∃ w', loadInput os w req = (w', .ok (input.size.toNat, input.bytes k₀ w₀)) ∧
    k.file w' = k.file w := by
  have hlarge : ¬req.header.payloadSize < 48 := by
    have hsize := queueInputRequest_payloadSize 0 0 h
    rw [hrecord.payloadSize,UInt32.lt_iff_toNat_lt]
    exact Nat.not_lt.mpr (Nat.le_trans (Nat.le_add_right 48 _) hsize.ge)
  have hlimit : ¬input.size > maxInputBytes := UInt64.not_lt.mpr h.size
  unfold loadInput
  rw [if_neg hlarge]
  rw [hrecord.reserved,hrecord.size,hrecord.offset,hrecord.role,hrecord.fdCount,
    hrecord.payloadSize,if_neg (by simp),if_neg hlimit]
  by_cases hinline : input.dataFd < 0
  · have hroom : ¬input.size > 0xffffffff - 48 := by
      refine UInt64.not_lt.mpr (UInt64.le_trans h.size ?_)
      decide
    simp only [if_pos hinline]
    rw [if_pos (beq_self_eq_true _),if_neg (by simpa using hroom),hrecord.inlineData hinline,Input.bytes,
      if_pos hinline]
    exact ⟨w,rfl,rfl⟩
  · obtain ⟨f,hf,hsealed,hinside⟩ := h.file (Int.not_lt.mp hinline)
    have hfd : k.file w (req.fd 0) = some f := (hfile (Int.not_lt.mp hinline)).trans hf
    have hbound := k.size_le hfd
    have hsum : (input.dataOffset + input.size).toNat =
        input.dataOffset.toNat + input.size.toNat := by
      rw [UInt64.toNat_add,Nat.mod_eq_of_lt]
      exact Nat.lt_of_le_of_lt (Nat.le_trans hinside hbound) (by decide)
    have husable : inputFdUsable os w (req.fd 0) input.dataOffset input.size = true := by
      have hoffset : ¬input.dataOffset > int64Max :=
        UInt64.not_lt.mpr (UInt64.le_iff_toNat_le.mpr (by omega))
      have hwrap : ¬input.dataOffset + input.size < input.dataOffset :=
        UInt64.not_lt.mpr (UInt64.le_iff_toNat_le.mpr (by omega))
      have hseals : inputFdIsSealed os w (req.fd 0) = true := by
        rw [inputFdIsSealed,k.getSeals hfd]
        exact beq_iff_eq.mpr hsealed
      rw [inputFdUsable,k.fstat hfd]
      simp only [hoffset,hwrap,hseals,hsum,decide_false,Bool.or_self,Bool.not_false,
        Bool.true_and,Bool.and_true,Bool.and_eq_true,Bool.not_eq_true',
        decide_eq_false_iff_not]
      omega
    obtain ⟨w',hread,hkept⟩ := readAllAt_file k input.size.toNat
      (w := (os.malloc w (if input.size > 0 then input.size.toNat else 1)).1) input.size.toNat
      (by rw [k.malloc]; exact hfd) (Nat.le_refl _)
      (show [] = (f.content.drop input.dataOffset.toNat).take 0 from rfl)
      (by simpa using hinside)
    simp only [if_neg hinline]
    rw [if_neg (by decide),if_pos (by decide),husable,if_neg (by decide),hmalloc,
      if_neg (by decide),hread,Input.bytes,if_neg hinline,hf]
    refine ⟨w',?_,hkept.trans (k.malloc _ _)⟩
    simp
end

def SessionAllows (s : SessionSlot) (flags : UInt32) (size : Nat) : Prop :=
  s.direction = Direction.encode.toUInt8 →
    (flags = endOfStream ∧ size = 0) ∨ (flags = 0 ∧ size = s.encodeFrameSize)

instance (s : SessionSlot) (flags : UInt32) (size : Nat) : Decidable (SessionAllows s flags size) :=
  inferInstanceAs (Decidable (_ → _))

theorem sessionAllows_iff (s : SessionSlot) (flags : UInt32) (size : Nat) :
    SessionAllows s flags size ↔ (s.direction == Direction.encode.toUInt8 &&
      (((flags &&& endOfStream) != 0 && (flags != endOfStream || size != 0)) ||
        ((flags &&& endOfStream) == 0 && (flags != 0 || size != s.encodeFrameSize)))) = false := by
  have heos : endOfStream &&& endOfStream ≠ 0 := by decide
  have hnone : (0 : UInt32) &&& endOfStream = 0 := by decide
  unfold SessionAllows
  by_cases hdirection : s.direction = Direction.encode.toUInt8
  · by_cases hflag : flags &&& endOfStream = 0
    · have hne : flags ≠ endOfStream := by
        rintro rfl
        exact heos hflag
      simp [hdirection,hflag,hne]
    · have hne : flags ≠ 0 := by
        rintro rfl
        exact hflag hnone
      simp [hdirection,hflag,hne]
  · simp [hdirection]

theorem handleQueue_record {b : BackendOps ω} {os₀ : Os ω₀} {k₀ : os₀.Files} {w₀ : ω₀} {os : Os ω}
    {k : os.Files} {w : ω} {s : SessionSlot} {input : Input} {req : Message} (reply : Message)
    (htransport : s.transport = bytes) (hrecord : InputRecord req input) (h : Accepted k₀ w₀ input)
    (hfile : 0 ≤ input.dataFd → k.file w (req.fd 0) = k₀.file w₀ input.dataFd)
    (hmalloc : ∀ size, (os.malloc w size).2 = true) :
    ∃ w', k.file w' = k.file w ∧ handleQueue b os w s req reply =
      if SessionAllows s input.flags input.size.toNat then
        let answer := b.queueInput w' s.backendHandle (input.bytes k₀ w₀) input.ptsNs input.flags
        ⟨answer.2,answer.1,s,if answer.2 == .ok then writeStatus reply answer.2 0 else reply,[]⟩
      else refuse Status.badMessage w' s reply := by
  obtain ⟨w',hload,hkept⟩ := loadInput_record hrecord h hfile hmalloc
  refine ⟨w',hkept,?_⟩
  unfold handleQueue
  dsimp only
  rw [htransport,if_neg (by simp [bytes,androidAhbSurface,dmabuf]),
    if_neg (by simp [bytes,brokerEglSurface]),hload]
  dsimp only
  rw [hrecord.flags,hrecord.ptsNs,if_neg (by simpa [inputFlags] using h.flags)]
  by_cases hallows : SessionAllows s input.flags input.size.toNat
  · rw [if_pos hallows,(sessionAllows_iff _ _ _).mp hallows,if_neg (by decide)]
  · rw [if_neg hallows,if_pos]
    exact Bool.eq_true_of_not_eq_false fun hfalse => hallows ((sessionAllows_iff _ _ _).mpr hfalse)

theorem Accepted.bytes_length {os : Os ω} {k : os.Files} {w : ω} {input : Input}
    (h : Accepted k w input) : (input.bytes k w).length = input.size.toNat := by
  unfold Input.bytes
  split
  · rename_i hinline
    exact inlineBytes_length input h.data hinline
  · rename_i hfd
    obtain ⟨f,hf, -,hinside⟩ := h.file (Int.not_lt.mp hfd)
    rw [hf,Option.map_some,Option.getD_some,length_take_of_le]
    rw [length_drop]
    omega

theorem queueInputRequest_file {os₀ : Os ω₀} {k₀ : os₀.Files} {w₀ : ω₀} {os : Os ω} {k : os.Files}
    {w : ω} {input : Input} {requestId sessionId : UInt32} {dg : Datagram} {stack : List UInt8}
    (hpassed : Passed k₀ w₀ k w (queueInputRequest requestId sessionId input).fds dg.fds)
    (hfd : 0 ≤ input.dataFd) :
    k.file w ((received (queueInputRequest requestId sessionId input) maxPayload stack dg).fd 0) =
      k₀.file w₀ input.dataFd := by
  have hsent : (queueInputRequest requestId sessionId input).fds = [input.dataFd] := by
    dsimp only [queueInputRequest]
    rw [if_neg (Int.not_lt.mpr hfd)]
  have hlength := hpassed.length
  rw [hsent] at hpassed hlength
  obtain ⟨fd,hfds⟩ := length_eq_one_iff.mp hlength
  have hfile := hpassed.file (input.dataFd, fd) (by rw [hfds]; simp)
  have hreceived : (received (queueInputRequest requestId sessionId input) maxPayload stack
      dg).fd 0 = fd := by
    simp [Message.fd,received,Datagram.installed,hfds]
  rw [hreceived]
  exact hfile

/-- Input transfer. Whatever input `advc_client_queue_input` accepts, the backend of a session of
the byte transport is called with exactly the bytes, the time and the flags of the caller, and its
status comes back; unless the session is an encoder and the input is neither a frame nor the end of
the stream. -/
theorem queueInput_transferred (b : BackendOps ω) {os₀ : Os ω₀} (k₀ : os₀.Files) {w₀ w₁ : ω₀}
    {os : Os ω} (k : os.Files) {w : ω} {e : Engine} (he : Reachable b os e) {input : Input}
    {requestId sessionId : UInt32} {request : Message}
    (haccepted : queueInput os₀ w₀ requestId sessionId input = (w₁, .ok request))
    {dg : Datagram} (hdelivers : Delivers request dg)
    (hpassed : Passed k₀ w₁ k w request.fds dg.fds) {i : Fin 4}
    (hsession : findSession e sessionId = some i) (htransport : (e.sessions i).transport = bytes)
    (hmalloc : ∀ size, (os.malloc w size).2 = true) (stack : List UInt8) :
    (input.bytes k₀ w₀).length = input.size.toNat ∧
    ∃ req, receiveMessage maxPayload stack (.ok dg) = ⟨.ok req,dg.installed,[]⟩ ∧
    ∃ w', k.file w' = k.file w ∧
    let r := sessionEngineHandle b os w e req (Broker.initReply req)
    r.engine = e ∧ r.log = [] ∧
      if SessionAllows (e.sessions i) input.flags input.size.toNat then
        (r.world, r.status) = b.queueInput w' (e.sessions i).backendHandle
          (input.bytes k₀ w₀) input.ptsNs input.flags
      else r.world = w' ∧ r.status = .badMessage := by
  obtain ⟨rfl, -,hkept,h⟩ := queueInput_ok k₀ haccepted
  refine ⟨h.bytes_length,_,receiveMessage_delivered
    (queueInputRequest_sendable requestId sessionId h) hdelivers ?_ _,?_⟩
  · rw [queueInputRequest_payloadSize requestId sessionId h,maxPayload]
    split
    · rename_i hinline
      have hsmall := h.small hinline
      rw [maxPayload] at hsmall
      omega
    · decide
  generalize hreq : received (queueInputRequest requestId sessionId input) maxPayload stack dg = req
  have hheader : req.header = (queueInputRequest requestId sessionId input).header := by
    rw [← hreq]
    rfl
  obtain ⟨w',hfiles,hqueue⟩ := handleQueue_record (b := b) (k := k) (w := w)
    (Broker.initReply req) htransport (hreq ▸ queueInputRequest_record h) h
    (fun hfd => by rw [← hreq,queueInputRequest_file hpassed hfd,hkept]) hmalloc
  refine ⟨w',hfiles,?_⟩
  have hidle : (e.sessions i).pendingAhbState = .none := by
    by_contra hpending
    have hsurface := (awaitsAhb_kept b os).reachable he i hpending
    rw [htransport] at hsurface
    exact absurd hsurface (by decide)
  have hopcode : Opcode.ofCode req.header.opcode = some .queueInput := by
    rw [hheader]
    rfl
  have hhandle : sessionEngineHandle b os w e req (Broker.initReply req) =
      let r := handleQueue b os w (e.sessions i) req (Broker.initReply req)
      ⟨r.status,r.world,{ e.setSession i r.session with nextOutputId := e.nextOutputId },r.reply,
        r.effects.map (Prod.mk i)⟩ := by
    unfold sessionEngineHandle
    rw [if_neg (by simp [Broker.initReply,maxPayload]),
      if_neg (by rw [hheader]; simp [queueInputRequest,versionMinor]),
      if_neg (by rw [hheader]; simp [queueInputRequest]),if_neg (by rw [hopcode]; decide)]
    have hid : req.header.sessionId = sessionId := by rw [hheader]; rfl
    rw [hid,hsession]
    dsimp only
    rw [if_neg (by simp [hidle]),dispatch]
    simp only [hopcode]
  have hsame : { e.setSession i (e.sessions i) with nextOutputId := e.nextOutputId } = e := by
    rw [Engine.setSession,Function.update_eq_self]
  rw [hhandle,hqueue]
  split
  · exact ⟨hsame,rfl,rfl⟩
  · exact ⟨hsame,rfl,rfl,rfl⟩

def expectingBackend (bytes : List UInt8) (ptsNs : UInt64) (flags : UInt32) :
    BackendOps FileTable where
  create w _ := (w, .ok, 1)
  queueInput w _ bytes' ptsNs' flags' :=
    (w, if bytes' = bytes ∧ ptsNs' = ptsNs ∧ flags' = flags then .ok else .codecError)
  dequeueOutput w _ := (w, .wouldBlock, mockOutput 0 0 0 (-1))
  releaseOutput w _ _ _ := w
  exportDecodePrime := none
  sendNativeBuffer := none
  receiveAhbInput := none
  dmabufFormatAllowed := none
  submitDmabuf := none
  flush w _ := (w, .ok)
  destroy w _ := w

def fileInput : Input where
  data := none
  size := 5
  dataFd := 0
  dataOffset := 2
  bufferId := 9
  ptsNs := 33000
  flags := keyFrame
  readable := nofun

def inputFile : File := ⟨[0,1,2,3,4,5,6,7],outputSeals⟩
def inputTable : FileTable := ⟨[inputFile],by decide⟩
def engineTable : FileTable := ⟨[⟨[],0⟩,inputFile],by decide⟩

def fileInputRecord : Datagram where
  bytes := ((sendMessage (queueInputRequest 3 1 fileInput)).map Prod.fst).getD []
  fds := [1]
  truncated := false

def createByteDecode : Message :=
  mockRequest 3 0 (createPayload Direction.decode "video/avc" bytes 0) []

/-- The five bytes reach the backend of a decoding session. -/
theorem queueInput_transferred_file :
    let b := expectingBackend [2,3,4,5,6] 33000 keyFrame
    let e := (runCalls b tableOs engineTable [.request createByteDecode]).1.2
    ∃ req, receiveMessage maxPayload [] (.ok fileInputRecord) = ⟨.ok req,[1],[]⟩ ∧
      (sessionEngineHandle b tableOs engineTable e req (Broker.initReply req)).status =
        Status.ok := by
  intro b e
  have hsession : findSession e 1 = some 0 ∧ (e.sessions 0).transport = bytes ∧
      (e.sessions 0).direction ≠ Direction.encode.toUInt8 := by
    decide +kernel
  have hpassed : Passed tableFiles inputTable tableFiles engineTable
      (queueInputRequest 3 1 fileInput).fds fileInputRecord.fds := by
    refine ⟨rfl,by decide,fun _ _ => rfl,?_,fun _ _ _ => rfl⟩
    intro p hp
    obtain rfl : p = (0, 1) := by simpa [fileInputRecord,queueInputRequest,fileInput] using hp
    rfl
  obtain ⟨-,req,hreceive,w', -, -, -,hcalled⟩ :=
    queueInput_transferred b tableFiles tableFiles (e := e) ⟨engineTable,_,rfl⟩
      (show queueInput tableOs inputTable 3 1 fileInput = _ from rfl)
      (show Delivers _ fileInputRecord from ⟨⟨_,rfl⟩,rfl,rfl⟩) hpassed hsession.1 hsession.2.1
      (fun _ => rfl) []
  refine ⟨req,hreceive,?_⟩
  have hallows : SessionAllows (e.sessions 0) fileInput.flags fileInput.size.toNat :=
    fun hencode => absurd hencode hsession.2.2
  rw [if_pos hallows] at hcalled
  exact congrArg Prod.snd hcalled
end LinDeX.Client
