import LinDeX.Library.Bytes

/-!
# Buffers as words

The 32-bit fields of a buffer at multiples of four are independent of each other and determine
the buffer: a write changes one of them, and two buffers with the same fields are the same.
-/
namespace LinDeX.Bytes
open List
variable {p q : List UInt8}
def ofBytes (a b c d : UInt8) : UInt32 :=
  a.toUInt32 ||| (b.toUInt32 <<< 8) ||| (c.toUInt32 <<< 16) ||| (d.toUInt32 <<< 24)

theorem or_shiftLeft_toNat {x y : Nat} (n : Nat) (hx : x < 2 ^ n) :
    x ||| y <<< n = x + 2 ^ n * y := by
  rw [Nat.shiftLeft_eq,Nat.mul_comm,Nat.or_comm,← Nat.two_pow_add_eq_or_of_lt hx,Nat.add_comm]

theorem ofBytes_toNat (a b c d : UInt8) : (ofBytes a b c d).toNat =
      a.toNat + 2 ^ 8 * b.toNat + 2 ^ 16 * c.toNat + 2 ^ 24 * d.toNat := by
  have ha := a.toNat_lt
  have hb := b.toNat_lt
  have hc := c.toNat_lt
  have hd := d.toNat_lt
  have hshift (x : UInt8) (n : UInt32) (k : Nat) (hk : n.toNat = k) (hk' : k ≤ 24) :
      (x.toUInt32 <<< n).toNat = x.toNat <<< k := by
    have hx := x.toNat_lt
    rw [UInt32.toNat_shiftLeft,UInt8.toNat_toUInt32,hk,Nat.mod_eq_of_lt (by omega : k < 32)]
    apply Nat.mod_eq_of_lt
    rw [Nat.shiftLeft_eq]
    calc x.toNat * 2 ^ k < 2 ^ 8 * 2 ^ k := Nat.mul_lt_mul_of_pos_right hx (Nat.two_pow_pos k)
      _ = 2 ^ (8 + k) := (Nat.pow_add ..).symm
      _ ≤ 2 ^ 32 := Nat.pow_le_pow_right (by decide) (by omega)
  simp only [ofBytes,UInt32.toNat_or,UInt8.toNat_toUInt32,hshift b 8 8 rfl (by decide),
    hshift c 16 16 rfl (by decide),hshift d 24 24 rfl (by decide)]
  rw [or_shiftLeft_toNat 8 (by omega),or_shiftLeft_toNat 16 (by omega),
    or_shiftLeft_toNat 24 (by omega)]
variable (v : UInt32)
theorem toUInt8_shiftRight_toNat (n : UInt32) (k : Nat) (hk : n.toNat = k)
    (hk' : k < 32) : (v >>> n).toUInt8.toNat = v.toNat / 2 ^ k % 2 ^ 8 := by
  rw [UInt32.toNat_toUInt8,UInt32.toNat_shiftRight,hk,Nat.mod_eq_of_lt hk',
    Nat.shiftRight_eq_div_pow]

theorem ofBytes_toUInt8 :
    ofBytes v.toUInt8 (v >>> 8).toUInt8 (v >>> 16).toUInt8 (v >>> 24).toUInt8 = v := by
  have hv := v.toNat_lt
  apply UInt32.toNat_inj.mp
  rw [ofBytes_toNat,UInt32.toNat_toUInt8,toUInt8_shiftRight_toNat v 8 8 rfl (by decide),
    toUInt8_shiftRight_toNat v 16 16 rfl (by decide),
    toUInt8_shiftRight_toNat v 24 24 rfl (by decide)]
  omega

theorem ofBytes_inj {a b c d a' b' c' d' : UInt8} (h : ofBytes a b c d = ofBytes a' b' c' d') :
    a = a' ∧ b = b' ∧ c = c' ∧ d = d' := by
  have hnat := congrArg UInt32.toNat h
  rw [ofBytes_toNat,ofBytes_toNat] at hnat
  have := a.toNat_lt
  have := b.toNat_lt
  have := c.toNat_lt
  have := a'.toNat_lt
  have := b'.toNat_lt
  have := c'.toNat_lt
  refine ⟨?_,?_,?_,?_⟩ <;> apply UInt8.toNat_inj.mp <;> omega

@[simp] theorem putByte_length (i : Nat) (v : UInt8) : (putByte p i v).length = p.length :=
  length_set

theorem byteAt_putByte (i j : Nat) (v : UInt8) (hi : i < p.length) :
    byteAt (putByte p i v) j = if j = i then v else byteAt p j := by
  unfold byteAt putByte
  by_cases hj : j = i
  · subst hj
    simp [List.getD_eq_getElem?_getD,hi]
  · simp [List.getD_eq_getElem?_getD,hj,List.getElem?_set_ne (Ne.symm hj)]
variable (off : Nat)
@[simp] theorem putU32_length (v : UInt32) : (putU32 p off v).length = p.length := by
  simp only [putU32,putByte_length]

theorem byteAt_putU32 (off j : Nat) (v : UInt32) (h : off + 4 ≤ p.length) :
    byteAt (putU32 p off v) j =
      if j = off + 3 then (v >>> 24).toUInt8
      else if j = off + 2 then (v >>> 16).toUInt8
      else if j = off + 1 then (v >>> 8).toUInt8
      else if j = off then v.toUInt8
      else byteAt p j := by
  unfold putU32
  rw [byteAt_putByte _ _ _ (by simp only [putByte_length]; omega),
    byteAt_putByte _ _ _ (by simp only [putByte_length]; omega),
    byteAt_putByte _ _ _ (by simp only [putByte_length]; omega),byteAt_putByte _ _ _ (by omega)]
variable {n : Nat}
theorem take_putU32 (v : UInt32) (h : n ≤ off) : (putU32 p off v).take n = p.take n := by
  simp only [putU32,putByte]
  rw [take_set_of_le (by omega),take_set_of_le (by omega),
    take_set_of_le (by omega),take_set_of_le h]

theorem drop_putU32 (v : UInt32) (h : off + 4 ≤ n) : (putU32 p off v).drop n = p.drop n := by
  simp only [putU32,putByte]
  rw [drop_set_of_lt (by omega),drop_set_of_lt (by omega),
    drop_set_of_lt (by omega),drop_set_of_lt (by omega)]

theorem getU32_eq_ofBytes : getU32 p off =
    ofBytes (byteAt p off) (byteAt p (off + 1)) (byteAt p (off + 2)) (byteAt p (off + 3)) := rfl
def word (p : List UInt8) (w : Nat) : UInt32 := getU32 p (4 * w)

theorem word_putU32 (w w' : Nat) (v : UInt32) (hw : 4 * w + 4 ≤ p.length) :
    word (putU32 p (4 * w) v) w' = if w' = w then v else word p w' := by
  unfold word
  rw [getU32_eq_ofBytes]
  simp only [byteAt_putU32 _ _ _ hw]
  by_cases h : w' = w
  · subst h
    simp [ofBytes_toUInt8]
  · have hne (a b : Nat) (ha : a < 4) (hb : b < 4) : 4 * w' + a ≠ 4 * w + b := by omega
    have hz (b : Nat) (hb : b < 4) : 4 * w' ≠ 4 * w + b := hne 0 b (by decide) hb
    have hz' (a : Nat) (ha : a < 4) : 4 * w' + a ≠ 4 * w := hne a 0 ha (by decide)
    have hzz : 4 * w' ≠ 4 * w := hne 0 0 (by decide) (by decide)
    rw [if_neg h,getU32_eq_ofBytes]
    simp [hne,hz,hz',hzz]
variable (w : Nat)
theorem getU64_eq :
    getU64 p (4 * w) = (word p w).toUInt64 ||| ((word p (w + 1)).toUInt64 <<< 32) := rfl

theorem ofWords_toNat (a b : UInt32) :
    (a.toUInt64 ||| (b.toUInt64 <<< 32)).toNat = a.toNat + 2 ^ 32 * b.toNat := by
  have ha := a.toNat_lt
  have hb := b.toNat_lt
  have hshift : (b.toUInt64 <<< 32).toNat = b.toNat <<< 32 := by
    rw [UInt64.toNat_shiftLeft,UInt32.toNat_toUInt64]
    apply Nat.mod_eq_of_lt
    rw [Nat.shiftLeft_eq]
    simp only [UInt64.reduceToNat,Nat.reduceMod]
    omega
  rw [UInt64.toNat_or,UInt32.toNat_toUInt64,hshift,or_shiftLeft_toNat 32 ha]

theorem ofWords_toUInt32 (v : UInt64) :
    v.toUInt32.toUInt64 ||| ((v >>> 32).toUInt32.toUInt64 <<< 32) = v := by
  have hv := v.toNat_lt
  apply UInt64.toNat_inj.mp
  rw [ofWords_toNat,UInt64.toNat_toUInt32,UInt64.toNat_toUInt32,UInt64.toNat_shiftRight,
    Nat.shiftRight_eq_div_pow]
  simp only [UInt64.reduceToNat,Nat.reduceMod]
  omega

theorem word_of_getU64 {w : Nat} {v : UInt64} (h : getU64 p (4 * w) = v) :
    word p w = v.toUInt32 ∧ word p (w + 1) = (v >>> 32).toUInt32 := by
  have hlow := (word p w).toNat_lt
  have hhigh := (word p (w + 1)).toNat_lt
  have hnat := congrArg UInt64.toNat h
  rw [getU64_eq,ofWords_toNat] at hnat
  refine ⟨?_,?_⟩ <;> apply UInt32.toNat_inj.mp
  · rw [UInt64.toNat_toUInt32,← hnat]
    omega
  · rw [UInt64.toNat_toUInt32,UInt64.toNat_shiftRight,← hnat,Nat.shiftRight_eq_div_pow]
    simp only [UInt64.reduceToNat,Nat.reduceMod]
    omega

theorem getU64_of_words {w : Nat} {v : UInt64} (hlow : word p w = v.toUInt32)
    (hhigh : word p (w + 1) = (v >>> 32).toUInt32) : getU64 p (4 * w) = v := by
  rw [getU64_eq,hlow,hhigh,ofWords_toUInt32]

theorem ext_words (hp : p.length = 4 * n) (hq : q.length = 4 * n)
    (h : ∀ w < n, word p w = word q w) : p = q := by
  refine ext_getElem (hp.trans hq.symm) fun i hi hi' => ?_
  have hbytes := ofBytes_inj (h (i / 4) (by omega))
  have hbyte (r : List UInt8) (j : Nat) (hj : j < r.length) : byteAt r j = r[j] := by
    simp [byteAt,List.getD_eq_getElem?_getD,hj]
  rw [← hbyte p i hi,← hbyte q i hi']
  have hsplit : i = 4 * (i / 4) + i % 4 := by omega
  have hlt : i % 4 < 4 := Nat.mod_lt _ (by decide)
  obtain ⟨h0,h1,h2,h3⟩ := hbytes
  rw [hsplit]
  generalize i % 4 = r at hlt
  generalize i / 4 = w at h0 h1 h2 h3
  match r, hlt with
  | 0, _ => exact h0
  | 1, _ => exact h1
  | 2, _ => exact h2
  | 3, _ => exact h3

theorem zeroRange_iff (off size : Nat) :
    zeroRange p off size = true ↔ ∀ i < size, byteAt p (off + i) = 0 := by
  simp [zeroRange]

theorem zeroRange_word_iff : zeroRange p (4 * w) 4 = true ↔ word p w = 0 := by
  rw [zeroRange_iff,word,getU32_eq_ofBytes]
  constructor
  · intro h
    rw [show byteAt p (4 * w) = 0 from h 0 (by decide),h 1 (by decide),h 2 (by decide),
      h 3 (by decide)]
    rfl
  · intro h
    obtain ⟨h0,h1,h2,h3⟩ := ofBytes_inj (h.trans (show 0 = ofBytes 0 0 0 0 from rfl))
    intro i hi
    match i, hi with
    | 0, _ => exact h0
    | 1, _ => exact h1
    | 2, _ => exact h2
    | 3, _ => exact h3

theorem zeroRange_words_iff (w n : Nat) :
    zeroRange p (4 * w) (4 * n) = true ↔ ∀ j < n, word p (w + j) = 0 := by
  simp only [← zeroRange_word_iff,zeroRange_iff]
  constructor
  · intro h j hj i hi
    have hbyte := h (4 * j + i) (by omega)
    rwa [← Nat.add_assoc,← Nat.mul_add] at hbyte
  · intro h i hi
    have hbyte := h (i / 4) (by omega) (i % 4) (Nat.mod_lt _ (by decide))
    rwa [Nat.mul_add,Nat.add_assoc,Nat.div_add_mod] at hbyte

theorem getU16_of_bytes {off : Nat} {v : UInt16} (hlow : byteAt p off = v.toUInt8)
    (hhigh : byteAt p (off + 1) = (v >>> 8).toUInt8) : getU16 p off = v := by
  have hv := v.toNat_lt
  apply UInt16.toNat_inj.mp
  rw [getU16,hlow,hhigh,UInt16.toNat_or,UInt8.toNat_toUInt16,UInt16.toNat_shiftLeft,
    UInt8.toNat_toUInt16,UInt16.toNat_toUInt8,UInt16.toNat_toUInt8,UInt16.toNat_shiftRight,
    Nat.shiftRight_eq_div_pow]
  simp only [UInt16.reduceToNat,Nat.reduceMod]
  have hmod : (v.toNat / 2 ^ 8 % 2 ^ 8) <<< 8 % 2 ^ 16 = (v.toNat / 2 ^ 8) <<< 8 := by
    rw [Nat.shiftLeft_eq,Nat.shiftLeft_eq]
    omega
  rw [hmod,or_shiftLeft_toNat 8 (by omega)]
  omega

@[simp] theorem putU16_length (v : UInt16) : (putU16 p off v).length = p.length := by
  simp only [putU16,putByte_length]

theorem byteAt_putU16 (off j : Nat) (v : UInt16) (h : off + 2 ≤ p.length) :
    byteAt (putU16 p off v) j =
      if j = off + 1 then (v >>> 8).toUInt8 else if j = off then v.toUInt8 else byteAt p j := by
  unfold putU16
  rw [byteAt_putByte _ _ _ (by rw [putByte_length]; omega),byteAt_putByte _ _ _ (by omega)]

theorem getU32_of_bytes {off : Nat} {v : UInt32} (h0 : byteAt p off = v.toUInt8)
    (h1 : byteAt p (off + 1) = (v >>> 8).toUInt8) (h2 : byteAt p (off + 2) = (v >>> 16).toUInt8)
    (h3 : byteAt p (off + 3) = (v >>> 24).toUInt8) : getU32 p off = v := by
  rw [getU32_eq_ofBytes,h0,h1,h2,h3,ofBytes_toUInt8]

theorem byteAt_append_left {i : Nat} (h : i < p.length) : byteAt (p ++ q) i = byteAt p i := by
  simp only [byteAt,List.getD_eq_getElem?_getD,List.getElem?_append_left h]

theorem getU16_append_left {off : Nat} (h : off + 2 ≤ p.length) :
    getU16 (p ++ q) off = getU16 p off := by
  rw [getU16,getU16,byteAt_append_left (by omega),byteAt_append_left (by omega)]

theorem getU32_append_left {off : Nat} (h : off + 4 ≤ p.length) :
    getU32 (p ++ q) off = getU32 p off := by
  rw [getU32_eq_ofBytes,getU32_eq_ofBytes,byteAt_append_left (by omega),
    byteAt_append_left (by omega),byteAt_append_left (by omega),byteAt_append_left (by omega)]

theorem getU64_append_left {off : Nat} (h : off + 8 ≤ p.length) :
    getU64 (p ++ q) off = getU64 p off := by
  rw [getU64,getU64,getU32_append_left (by omega),getU32_append_left (by omega)]

theorem zeroRange_append_left {off size : Nat} (h : off + size ≤ p.length) :
    zeroRange (p ++ q) off size = zeroRange p off size := by
  rw [Bool.eq_iff_iff,zeroRange_iff,zeroRange_iff]
  refine forall₂_congr fun i hi => ?_
  rw [byteAt_append_left (by omega)]
end LinDeX.Bytes
