import LinDeX.Bitstream.AccessUnit
import LinDeX.Bitstream.Writer

/-!
# What the writers write, as the slice readers read it

The readers stop at 31 leading zeros and after 128 bytes; the writers have neither limit.
-/
namespace LinDeX.AnnexB
open List
/-- Three bytes of which the first two are zero are left only where the third is larger than two. -/
theorem escape_noPattern {zeros : Nat} {payload : List UInt8} {b : UInt8} (hzeros : zeros ≤ 2)
    (hb : b ≤ 2) : ¬[0,0,b] <:+: List.replicate zeros 0 ++ escape zeros payload := by
  induction payload generalizing zeros with
  | nil =>
    intro h
    have hlength := h.length_le
    simp [escape] at hlength
    omega
  | cons byte rest ih =>
    have hthree : b ≠ 3 := fun h => absurd hb (by rw [h]; decide)
    have hnone := @ih 0 (by decide)
    have hone := @ih 1 (by decide)
    have htwo := @ih 2 (by decide)
    simp only [replicate_succ,List.replicate_zero,cons_append,nil_append] at hnone hone htwo
    -- What follows a zero byte is the case of one more zero, up to two of them.
    obtain rfl | rfl | rfl : zeros = 0 ∨ zeros = 1 ∨ zeros = 2 := by omega
    all_goals
      rcases eq_or_ne byte 0 with rfl | hbyte
      · simp_all [escape,replicate_succ,List.infix_cons_iff]
    · simpa [escape,hbyte,Ne.symm hbyte,List.infix_cons_iff] using hnone
    · simpa [escape,replicate_succ,hbyte,Ne.symm hbyte,List.infix_cons_iff] using hnone
    · by_cases hle : byte ≤ 3
      · simpa [escape,replicate_succ,hbyte,hle,Ne.symm hbyte,hthree,List.infix_cons_iff] using hnone
      · have hne : b ≠ byte := fun h => hle (h ▸ UInt8.le_trans hb (by decide))
        simpa [escape,replicate_succ,hbyte,hle,Ne.symm hbyte,hne,List.infix_cons_iff] using hnone
end LinDeX.AnnexB

namespace LinDeX.Bitstream
open Bits AnnexB AccessUnit List
variable {f : Format} {w w' : BitWriter} {before bits rest : List Bool} {value : Nat}
theorem pushByte_bind {output out : List UInt8} {byte : UInt8}
    {next : List UInt8 → Except Errno (List UInt8)} (h : (pushByte f output byte >>= next) = .ok out) :
    next (output ++ [byte]) = .ok out := by
  unfold pushByte at h
  split at h
  · cases h
  · exact h

theorem appendEscaped_inv {output out payload : List UInt8} {zeros : Nat}
    (h : appendEscaped f output zeros payload = .ok out) : out = output ++ escape zeros payload := by
  induction payload generalizing output zeros with
  | nil =>
    rw [escape,append_nil]
    exact (Except.ok.inj h).symm
  | cons byte rest ih =>
    rw [appendEscaped] at h
    rw [escape]
    split at h
    · rw [if_pos ‹_›,ih (pushByte_bind (pushByte_bind h)),append_assoc,append_assoc]
      rfl
    · rw [if_neg ‹_›,ih (pushByte_bind h),append_assoc]
      rfl

theorem appendAnnexbNal_escaped {output header out : List UInt8} (hsize : header.length ≤ 2)
    (hheader : header.getLast? ≠ some 0) (h : appendAnnexbNal f output header w = .ok out) :
    ∃ nal, out = output ++ framed nal ∧ (∀ b ≤ 2, ¬[0,0,b] <:+: nal) ∧
      readerBits ((nalUnit (framed nal)).drop header.length) =
        if w.data.take (w.bitCount / 8) = [] then .error .einval
        else .ok (ofBytes ((w.data.take (w.bitCount / 8)).take 128)) := by
  unfold appendAnnexbNal at h
  split at h
  · cases h
  split at h
  · cases h
  refine ⟨header ++ escape 0 (w.data.take (w.bitCount / 8)),?_,fun b hb => ?_,?_⟩
  · rw [appendEscaped_inv h,append_assoc]
    rfl
  · have hpayload := @escape_noPattern 0 (w.data.take (w.bitCount / 8)) b (Nat.zero_le 2) hb
    -- The last byte of the header separates its zeros from those of the payload.
    rcases header with _ | ⟨first,_ | ⟨second,_ | ⟨third,header⟩⟩⟩
    · exact hpayload
    · have hfirst : (0 : UInt8) ≠ first := fun hzero => hheader (by rw [← hzero]; rfl)
      simpa [List.infix_cons_iff,hfirst] using hpayload
    · have hsecond : (0 : UInt8) ≠ second := fun hzero => hheader (by rw [← hzero]; rfl)
      simpa [List.infix_cons_iff,hsecond] using hpayload
    · simp at hsize
  · change readerBits ((header ++ _).drop header.length) = _
    rw [drop_left,readerBits,unescape_escape]
    simp

theorem appendAnnexbNal_escaped_zeros :
    appendAnnexbNal ⟨1024,32,by decide⟩ [] [0x67] ⟨[0,0,0,0x80],32⟩ =
        .ok [0,0,0,1,0x67,0,0,3,0,0x80] ∧
      ∃ nal, [0,0,0,1,0x67,0,0,3,0,0x80] = [] ++ framed nal ∧ (∀ b ≤ 2, ¬[0,0,b] <:+: nal) ∧
        readerBits ((nalUnit (framed nal)).drop 1) = .ok (ofBytes [0,0,0,0x80]) :=
  ⟨rfl,appendAnnexbNal_escaped (by decide) (by decide)
    (show appendAnnexbNal ⟨1024,32,by decide⟩ [] [0x67] ⟨[0,0,0,0x80],32⟩ = _ from rfl)⟩

/-- `read_se`, which only the H.264 parser has. -/
def readSe : Reader Int := do
  let code ← AccessUnit.readUe
  if 0x7fffffff * 2 < code then throw .eoverflow
  else return if code &&& 1 ≠ 0 then ((code + 1) / 2).toNat else -((code / 2).toNat : Int)

theorem ueZeros_of_leadingZeros {zeros n : Nat} (h : leadingZeros bits = some (n, rest))
    (hn : zeros + n ≤ 31) : ueZeros zeros bits = .ok (zeros + n, rest) := by
  induction bits generalizing zeros n with
  | nil => cases h
  | cons bit bits ih =>
    cases bit with
    | true =>
      cases h
      rfl
    | false =>
      obtain ⟨⟨m,_⟩,hm,heq⟩ := Option.map_eq_some_iff.mp h
      cases heq
      rw [ueZeros,if_neg (by omega),ih hm (by omega)]
      congr 2
      omega

theorem shiftIn (s : Nat) (bit : Bool) :
    UInt32.ofNat s <<< 1 ||| bit.toUInt32 = .ofNat (2 * s + bit.toNat) := by
  apply UInt32.toNat_inj.mp
  have hlow : bit.toUInt32.toNat = bit.toNat := by cases bit <;> rfl
  have hbit := bit.toNat_le
  have heven : (s % 2 ^ 32) <<< 1 % 2 ^ 32 = 2 ^ 1 * (s % 2 ^ 31) := by
    rw [Nat.shiftLeft_eq]
    omega
  rw [UInt32.toNat_or,UInt32.toNat_shiftLeft,hlow,UInt32.toNat_ofNat',UInt32.toNat_ofNat']
  change (s % 2 ^ 32) <<< 1 % 2 ^ 32 ||| bit.toNat = _
  rw [heven,← Nat.two_pow_add_eq_or_of_lt (by omega)]
  omega

theorem ueSuffix_of_readBits {n suffix : Nat} (s : Nat) (h : readBits n bits = some (suffix, rest)) :
    ueSuffix n (.ofNat s) bits = .ok (.ofNat (s * 2 ^ n + suffix), rest) := by
  induction n generalizing s bits suffix with
  | zero =>
    cases h
    rw [Nat.pow_zero,Nat.mul_one]
    rfl
  | succ n ih =>
    obtain ⟨⟨bit,bits'⟩,hbit,h⟩ := Option.bind_eq_some_iff.mp h
    obtain ⟨⟨low,_⟩,hlow,h⟩ := Option.bind_eq_some_iff.mp h
    cases h
    cases bits with
    | nil => cases hbit
    | cons b bits =>
      cases hbit
      change ueSuffix n (UInt32.ofNat s <<< 1 ||| bit.toUInt32) bits' = _
      rw [shiftIn,ih _ hlow]
      grind

/-- Codes of up to 31 leading zeros are read as the general reader reads them. -/
theorem readUe_ue (rest : List Bool) (hvalue : value + 1 < 2 ^ 32) :
    AccessUnit.readUe (ue value ++ rest) = .ok (.ofNat value, rest) := by
  have h := Reads.ue value rest
  generalize ue value ++ rest = bits at *
  obtain ⟨⟨zeros,bits'⟩,hzeros,h⟩ := Option.bind_eq_some_iff.mp h
  obtain ⟨⟨suffix,_⟩,hsuffix,h⟩ := Option.bind_eq_some_iff.mp h
  cases h
  have hlt : zeros < 32 := (Nat.pow_lt_pow_iff_right (a := 2) (by decide)).mp (by omega)
  have hshift : (1 : UInt32) <<< zeros.toUInt32 = .ofNat (2 ^ zeros) := by
    have hcount : zeros % 2 ^ 32 % 32 = zeros := by omega
    apply UInt32.toNat_inj.mp
    rw [UInt32.toNat_shiftLeft,UInt32.toNat_ofNat']
    change 1 <<< (zeros % 2 ^ 32 % 32) % 2 ^ 32 = _
    rw [hcount,Nat.one_shiftLeft]
    rfl
  change (ueZeros 0 bits).bind (fun r => (ueSuffix r.1 (.ofNat 0) r.2).bind fun q =>
    .ok (1 <<< r.1.toUInt32 - 1 + q.1, q.2)) = _
  rw [@ueZeros_of_leadingZeros _ _ 0 _ hzeros (by omega),Nat.zero_add]
  change (ueSuffix zeros (.ofNat 0) bits').bind (fun q =>
    .ok (1 <<< zeros.toUInt32 - 1 + q.1, q.2)) = _
  rw [ueSuffix_of_readBits 0 hsuffix,Nat.zero_mul,Nat.zero_add,hshift,UInt32.ofNat_add,
    UInt32.ofNat_sub Nat.one_le_two_pow]
  rfl

theorem readUe_overflow (rest : List Bool) :
    AccessUnit.readUe (ue (2 ^ 32 - 1) ++ rest) = .error .eoverflow := by
  have hsize : (2 ^ 32 - 1 + 1).size = 32 + 1 := @Nat.size_pow 32
  rw [ue,hsize]
  rfl

theorem readSe_se {value : Int} (rest : List Bool) (hvalue : value.natAbs < 2 ^ 31) :
    readSe (se value ++ rest) = .ok (value, rest) := by
  have hcode : signedCode value ≤ 0x7fffffff * 2 := by
    unfold signedCode
    split <;> omega
  obtain ⟨code,hnat,heq⟩ : ∃ code : UInt32, code.toNat = signedCode value ∧
      UInt32.ofNat (signedCode value) = code :=
    ⟨_,UInt32.toNat_ofNat_of_lt' (by change _ < 2 ^ 32; omega),rfl⟩
  have hodd : (code &&& 1 ≠ 0) ↔ signedCode value % 2 = 1 := by
    rw [ne_eq,← UInt32.toNat_inj,UInt32.toNat_and,hnat]
    change ¬ signedCode value &&& 1 = 0 ↔ _
    rw [Nat.and_one_is_mod]
    omega
  have hup : ((code + 1) / 2).toNat = (signedCode value + 1) / 2 := by
    rw [UInt32.toNat_div,UInt32.toNat_add,hnat]
    change (signedCode value + 1) % 2 ^ 32 / 2 = _
    omega
  have hdown : (code / 2).toNat = signedCode value / 2 := by
    rw [UInt32.toNat_div,hnat]
    rfl
  change (AccessUnit.readUe (ue (signedCode value) ++ rest)).bind (fun r => _) = _
  rw [readUe_ue rest (by omega),heq]
  change (if 0x7fffffff * 2 < code then throw .eoverflow else
    Pure.pure (if code &&& 1 ≠ 0 then (((code + 1) / 2).toNat : Int) else -((code / 2).toNat : Int)) :
      Reader Int) rest = _
  rw [if_neg (by rw [UInt32.lt_iff_toNat_lt,hnat]; exact Nat.not_lt.mpr hcode),hup,hdown]
  refine congrArg (fun v => Except.ok (v, rest)) ?_
  simp only [hodd]
  unfold signedCode
  split <;> split <;> omega

/-- The reader finds the bits that were added where the writer stood, and then stands where the
writer stands. -/
theorem Holds.drop_eq (hw : Holds w before) (hw' : Holds w' (before ++ bits)) (later : List UInt8) :
    (ofBytes (w'.data ++ later)).drop w.bitCount =
      bits ++ (ofBytes (w'.data ++ later)).drop w'.bitCount := by
  obtain ⟨hcount,pad, -,hdata⟩ := hw'
  rw [ofBytes_append,hdata,hw.1,hcount,append_assoc,drop_left,append_assoc,drop_left]

theorem expGolomb_roundTrip (hw : Holds w before) :
    (∀ value < 2 ^ 32 - 1, before.length + (ue value).length ≤ 8 * f.capacity →
      ∃ w', putUe f value w = .ok ((), w') ∧ ∀ later,
        AccessUnit.readUe ((ofBytes (w'.data ++ later)).drop w.bitCount) =
          .ok (.ofNat value, (ofBytes (w'.data ++ later)).drop w'.bitCount)) ∧
    (∀ value : Int, value.natAbs ≤ 2 ^ 31 - 1 →
      before.length + (se value).length ≤ 8 * f.capacity →
      ∃ w', putSe f value w = .ok ((), w') ∧ ∀ later,
        readSe ((ofBytes (w'.data ++ later)).drop w.bitCount) =
          .ok (value, (ofBytes (w'.data ++ later)).drop w'.bitCount)) ∧
    (before.length + (ue (2 ^ 32 - 1)).length ≤ 8 * f.capacity →
      ∀ w' later, putUe f (2 ^ 32 - 1) w = .ok ((), w') →
        AccessUnit.readUe ((ofBytes (w'.data ++ later)).drop w.bitCount) = .error .eoverflow) ∧
    putSe f (-0x80000000) w = .error .eoverflow := by
  have hword : 2 ^ 32 ≤ 2 ^ f.word := Nat.pow_le_pow_right (by decide) f.wide
  refine ⟨?_,?_,?_,rfl⟩
  · intro value hvalue hroom
    obtain ⟨w',hrun,hw'⟩ := Writes.ue (by omega) w before hw hroom
    refine ⟨w',hrun,fun later => ?_⟩
    rw [hw.drop_eq hw']
    exact readUe_ue _ (by omega)
  · intro value hvalue hroom
    have hcode : signedCode value ≤ 2 ^ 32 - 2 := by
      unfold signedCode
      split <;> omega
    obtain ⟨w',hrun,hw'⟩ := Writes.se (by omega) (by omega) w before hw hroom
    refine ⟨w',hrun,fun later => ?_⟩
    rw [hw.drop_eq hw']
    exact readSe_se _ (by omega)
  · intro hroom w' later hrun
    have hsize : (2 ^ 32 - 1 + 1).size = 33 := @Nat.size_pow 32
    by_cases hwide : f.word < 33
    · -- The last zero is followed by a refusal to write 33 bits.
      rw [putUe,hsize,putBits,if_pos hwide] at hrun
      change (putZeros f 32 w).bind _ = _ at hrun
      cases h : putZeros f 32 w <;> rw [h] at hrun <;> cases hrun
    · have hlt : 2 ^ 32 - 1 + 1 < 2 ^ f.word :=
        show 2 ^ 32 < 2 ^ f.word from Nat.pow_lt_pow_right (by decide) (by omega)
      obtain ⟨w'',hrun',hw'⟩ := Writes.ue hlt w before hw hroom
      rw [hrun] at hrun'
      cases hrun'
      rw [hw.drop_eq hw']
      exact readUe_overflow _

theorem expGolomb_roundTrip_five :
    let f : Format := ⟨1024,32,by decide⟩
    (∃ w', putUe f 5 .empty = .ok ((), w') ∧ ∀ later,
      AccessUnit.readUe ((ofBytes (w'.data ++ later)).drop 0) =
        .ok (5, (ofBytes (w'.data ++ later)).drop w'.bitCount)) ∧
    (∃ w', putSe f (-3) .empty = .ok ((), w') ∧ ∀ later,
      readSe ((ofBytes (w'.data ++ later)).drop 0) =
        .ok (-3, (ofBytes (w'.data ++ later)).drop w'.bitCount)) ∧
    ∀ w' later, putUe f (2 ^ 32 - 1) .empty = .ok ((), w') →
      AccessUnit.readUe ((ofBytes (w'.data ++ later)).drop 0) = .error .eoverflow :=
  have h := expGolomb_roundTrip (f := ⟨1024,32,by decide⟩) Holds.empty
  ⟨h.1 5 (by decide) (by decide),h.2.1 (-3) (by decide) (by decide),h.2.2.1 (by decide)⟩
end LinDeX.Bitstream
