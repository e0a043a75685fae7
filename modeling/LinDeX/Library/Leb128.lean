import Mathlib.Data.Nat.Bitwise

/-!
# LEB128

Numbers in base 128, least significant digit first; every byte but the last has its highest bit
set. A reader may look at a bounded number of bytes only, and need not see the shortest code.
-/
namespace LinDeX.Leb128
/-- The shortest code of a number below `128 ^ digits`. -/
def encode : Nat → Nat → List UInt8
  | 0, _ => []
  | digits + 1, value =>
    if value / 128 = 0 then [UInt8.ofNat (value % 128)]
    else (UInt8.ofNat (value % 128) ||| 0x80) :: encode digits (value / 128)

def size : Nat → Nat → Nat
  | 0, _ => 0
  | digits + 1, value => if 128 ≤ value then size digits (value / 128) + 1 else 1

/-- The reader behind `i` digits that make up `decoded`: the number of bytes in all, and the value.
It looks at `left` more bytes at most. -/
def read : Nat → Nat → Nat → List UInt8 → Option (Nat × Nat)
  | 0, _, _, _ => none
  | _ + 1, _, _, [] => none
  | left + 1, i, decoded, byte :: rest =>
    let decoded := decoded ||| (byte &&& 0x7f).toNat <<< (7 * i)
    if byte &&& 0x80 = 0 then some (i + 1, decoded) else read left (i + 1) decoded rest

/-- `read` with its reads: `memory` is asked for the byte at an offset below `size`, and need not
have it. -/
def readAt (memory : Nat → Option UInt8) (size : Nat) :
    Nat → Nat → Nat → Option (Option (Nat × Nat))
  | 0, _, _ => some none
  | left + 1, i, decoded =>
    if size ≤ i then some none
    else (memory i).bind fun byte =>
      let decoded := decoded ||| (byte &&& 0x7f).toNat <<< (7 * i)
      if byte &&& 0x80 = 0 then some (some (i + 1, decoded))
      else readAt memory size left (i + 1) decoded

theorem low_digit : ∀ digit < 128, (UInt8.ofNat digit &&& 0x80 = 0) ∧
    (UInt8.ofNat digit &&& 0x7f).toNat = digit ∧ (UInt8.ofNat digit ||| 0x80) &&& 0x80 ≠ 0 ∧
    ((UInt8.ofNat digit ||| 0x80) &&& 0x7f).toNat = digit := by
  decide +kernel

theorem digit_lt (byte : UInt8) : (byte &&& 0x7f).toNat < 128 := by
  rw [UInt8.toNat_and]
  exact Nat.lt_of_le_of_lt Nat.and_le_right (by decide)

theorem or_digit {i decoded : Nat} (h : decoded < 128 ^ i) (digit : Nat) :
    decoded ||| digit <<< (7 * i) = decoded + 128 ^ i * digit := by
  have hpow : 128 ^ i = 2 ^ (7 * i) := by rw [Nat.pow_mul]
  rw [hpow] at h ⊢
  rw [Nat.or_comm,Nat.shiftLeft_eq,Nat.mul_comm digit,← Nat.two_pow_add_eq_or_of_lt h,Nat.add_comm]

theorem add_digit_lt {i decoded digit : Nat} (h : decoded < 128 ^ i) (hdigit : digit < 128) :
    decoded + 128 ^ i * digit < 128 ^ (i + 1) := by
  have hle : 128 ^ i * digit ≤ 128 ^ i * 127 := Nat.mul_le_mul_left _ (by omega)
  rw [Nat.pow_succ]
  omega

theorem read_encode {digits value left i decoded : Nat} (rest : List UInt8)
    (hvalue : value < 128 ^ digits) (hdigits : digits ≠ 0)
    (hleft : (encode digits value).length ≤ left) (hdecoded : decoded < 128 ^ i) :
    read left i decoded (encode digits value ++ rest) =
      some (i + (encode digits value).length, decoded + 128 ^ i * value) := by
  induction digits generalizing value left i decoded with
  | zero => exact absurd rfl hdigits
  | succ digits ih =>
    obtain ⟨hlast,hdigit,hmore,hdigit'⟩ := low_digit (value % 128) (Nat.mod_lt _ (by decide))
    rw [encode] at hleft ⊢
    split
    · rename_i hzero
      rw [if_pos hzero] at hleft
      obtain ⟨left,rfl⟩ := Nat.exists_eq_succ_of_ne_zero (Nat.ne_zero_of_lt hleft)
      have hsmall : value % 128 = value := by omega
      rw [List.singleton_append,read,if_pos hlast,hdigit,or_digit hdecoded,hsmall]
      rfl
    · rename_i hlarge
      rw [if_neg hlarge,List.length_cons] at hleft
      obtain ⟨left,rfl⟩ := Nat.exists_eq_succ_of_ne_zero (Nat.ne_zero_of_lt hleft)
      have hdiv : value / 128 < 128 ^ digits := by
        rw [Nat.pow_succ] at hvalue
        exact Nat.div_lt_of_lt_mul (by rwa [Nat.mul_comm])
      have hdigits' : digits ≠ 0 := by
        rintro rfl
        exact hlarge (Nat.lt_one_iff.mp hdiv)
      rw [List.cons_append,read,if_neg hmore,hdigit',or_digit hdecoded,
        ih hdiv hdigits' (by omega) (add_digit_lt hdecoded (Nat.mod_lt _ (by decide))),
        List.length_cons]
      have hsplit : value = value % 128 + 128 * (value / 128) := (Nat.mod_add_div value 128).symm
      have hvalue' : decoded + 128 ^ i * (value % 128) + 128 ^ (i + 1) * (value / 128) =
          decoded + 128 ^ i * value := by
        conv_rhs => rw [hsplit]
        rw [Nat.pow_succ,Nat.mul_add,Nat.mul_assoc,Nat.add_assoc]
      rw [hvalue',Nat.add_assoc,Nat.add_comm 1]

theorem read_bounds {left i decoded n value : Nat} {bytes : List UInt8}
    (h : read left i decoded bytes = some (n, value)) (hdecoded : decoded < 128 ^ i) :
    i < n ∧ n ≤ i + left ∧ n ≤ i + bytes.length ∧ value < 128 ^ n := by
  induction left generalizing i decoded bytes with
  | zero => cases h
  | succ left ih =>
    cases bytes with
    | nil => cases h
    | cons byte rest =>
      rw [read] at h
      have hnext := add_digit_lt hdecoded (digit_lt byte)
      rw [← or_digit hdecoded] at hnext
      split at h
      · obtain ⟨rfl,rfl⟩ := Prod.mk.inj (Option.some.inj h)
        rw [List.length_cons]
        exact ⟨by omega,by omega,by omega,hnext⟩
      · obtain ⟨hlow,hleft,hlength,hvalue⟩ := ih h hnext
        rw [List.length_cons]
        exact ⟨by omega,by omega,by omega,hvalue⟩

theorem readAt_eq {memory : Nat → Option UInt8} {left i : Nat} {bytes : List UInt8}
    (h : ∀ k < min bytes.length left, memory (i + k) = bytes[k]?) (decoded : Nat) :
    readAt memory (i + bytes.length) left i decoded = some (read left i decoded bytes) := by
  induction left generalizing i decoded bytes with
  | zero => rfl
  | succ left ih =>
    cases bytes with
    | nil => exact if_pos (Nat.le_refl i)
    | cons byte rest =>
      have hfirst : memory i = some byte := h 0 (by simp)
      have hrest (k : Nat) (hk : k < min rest.length left) : memory (i + 1 + k) = rest[k]? := by
        rw [Nat.add_assoc,Nat.add_comm 1]
        exact h (k + 1) (by rw [List.length_cons]; omega)
      rw [readAt,if_neg (by rw [List.length_cons]; omega),hfirst,List.length_cons,
        Nat.add_comm rest.length,← Nat.add_assoc]
      dsimp only [Option.bind_some]
      rw [read]
      split
      · rfl
      · exact ih hrest _
theorem length_encode (digits value : Nat) : (encode digits value).length = size digits value := by
  induction digits generalizing value with
  | zero => rfl
  | succ digits ih =>
    rw [encode,size]
    by_cases h : 128 ≤ value
    · rw [if_pos h,if_neg (by omega),List.length_cons,ih]
    · rw [if_neg h,if_pos (by omega)]
      rfl

theorem size_le {digits value n : Nat} (hn : n ≠ 0) (hvalue : value < 128 ^ n) :
    size digits value ≤ n := by
  induction digits generalizing value n with
  | zero => exact Nat.zero_le n
  | succ digits ih =>
    rw [size]
    split
    · rename_i hlarge
      obtain ⟨n,rfl⟩ := Nat.exists_eq_succ_of_ne_zero hn
      have hdiv : value / 128 < 128 ^ n := by
        rw [Nat.pow_succ] at hvalue
        exact Nat.div_lt_of_lt_mul (by rwa [Nat.mul_comm])
      have hn' : n ≠ 0 := by
        rintro rfl
        omega
      exact Nat.succ_le_succ (ih hn' hdiv)
    · omega

theorem size_pos (digits value : Nat) : 0 < size (digits + 1) value := by
  rw [size]
  split <;> omega
end LinDeX.Leb128
