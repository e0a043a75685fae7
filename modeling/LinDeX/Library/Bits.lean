import Mathlib.Algebra.GroupWithZero.Nat
import Mathlib.Data.Nat.Size

/-!
# Bit strings

Numbers as bit strings with the most significant bit first, the Exp-Golomb codes, and parsers that
take such strings apart again. A parser is always described on a string followed by anything else,
so that descriptions compose.
-/
namespace LinDeX.Bits
open List
variable {α β : Type}
/-- The lowest `count` bits of a number. -/
def ofNat : Nat → Nat → List Bool
  | 0, _ => []
  | count + 1, value => value.testBit count :: ofNat count value

@[simp] theorem length_ofNat (count value : Nat) : (ofNat count value).length = count := by
  induction count with
  | zero => rfl
  | succ count ih => rw [ofNat,length_cons,ih]

theorem getElem_ofNat (count value i : Nat) (h : i < (ofNat count value).length) :
    (ofNat count value)[i] = value.testBit (count - 1 - i) := by
  induction count generalizing i with
  | zero => cases h
  | succ count ih =>
    cases i with
    | zero => rfl
    | succ i =>
      have hi : count - 1 - i = count + 1 - 1 - (i + 1) := by omega
      rw [← hi]
      exact ih i (Nat.lt_of_succ_lt_succ h)

/-- The code of an unsigned number: as many zeros as there are bits behind the leading one. -/
def ue (value : Nat) : List Bool :=
  List.replicate ((value + 1).size - 1) false ++ ofNat (value + 1).size (value + 1)

def signedCode (value : Int) : Nat :=
  if value ≤ 0 then 2 * value.natAbs else 2 * value.natAbs - 1
def se (value : Int) : List Bool := ue (signedCode value)

theorem length_ue_le {value bits : Nat} (h : value + 1 < 2 ^ bits) :
    (ue value).length ≤ 2 * bits - 1 := by
  have hsize : (value + 1).size ≤ bits := Nat.size_le.mpr h
  rw [ue,length_append,length_replicate,length_ofNat]
  omega

def ofByte (byte : UInt8) : List Bool := ofNat 8 byte.toNat
def ofBytes (bytes : List UInt8) : List Bool := bytes.flatMap ofByte
@[simp] theorem ofBytes_nil : ofBytes [] = [] := rfl
variable (byte : UInt8) (bytes : List UInt8)
@[simp] theorem ofBytes_cons :
    ofBytes (byte :: bytes) = ofByte byte ++ ofBytes bytes := rfl
theorem ofBytes_append (bytes bytes' : List UInt8) :
    ofBytes (bytes ++ bytes') = ofBytes bytes ++ ofBytes bytes' := List.flatMap_append
@[simp] theorem length_ofByte : (ofByte byte).length = 8 := length_ofNat 8 _

@[simp] theorem length_ofBytes : (ofBytes bytes).length = 8 * bytes.length := by
  induction bytes with
  | nil => rfl
  | cons byte bytes ih =>
    rw [ofBytes_cons,length_append,length_ofByte,ih,length_cons]
    omega

theorem ofByte_or {i : Nat} (hi : i < 8) :
    ofByte (byte ||| UInt8.ofNat (1 <<< (7 - i))) = (ofByte byte).set i true := by
  have hshift : (UInt8.ofNat (1 <<< (7 - i))).toNat = 2 ^ (7 - i) := by
    rw [UInt8.toNat_ofNat',Nat.one_shiftLeft]
    exact Nat.mod_eq_of_lt (Nat.pow_lt_pow_right (by decide) (by omega))
  unfold ofByte
  refine ext_getElem (by simp) fun j hj hj' => ?_
  have hj8 : j < 8 := by simpa using hj
  rw [getElem_ofNat,UInt8.toNat_or,Nat.testBit_or,hshift,Nat.testBit_two_pow,List.getElem_set,
    getElem_ofNat]
  by_cases h : i = j
  · rw [if_pos h,decide_eq_true (by omega),Bool.or_true]
  · rw [if_neg h,decide_eq_false (by omega),Bool.or_false]

theorem ofBytes_modify {i : Nat} (hi : i < 8 * bytes.length) :
    ofBytes (bytes.modify (i / 8) fun byte => byte ||| UInt8.ofNat (1 <<< (7 - i % 8))) =
      (ofBytes bytes).set i true := by
  induction bytes generalizing i with
  | nil => exact absurd hi (Nat.not_lt_zero i)
  | cons byte bytes ih =>
    rw [length_cons] at hi
    by_cases hlow : i < 8
    · have hdiv : i / 8 = 0 := Nat.div_eq_of_lt hlow
      rw [hdiv,Nat.mod_eq_of_lt hlow,List.modify_zero_cons,ofBytes_cons,ofBytes_cons,
        ofByte_or byte hlow,set_append_left _ _ (by simpa using hlow)]
    · have hdiv : i / 8 = (i - 8) / 8 + 1 := by omega
      have hmod : i % 8 = (i - 8) % 8 := by omega
      rw [hdiv,hmod,List.modify_succ_cons,ofBytes_cons,ofBytes_cons,ih (by omega),
        set_append_right _ _ (by simpa using hlow),length_ofByte]

abbrev Parser := StateT (List Bool) Option

def readBit : Parser Bool
  | [] => none
  | bit :: rest => some (bit, rest)

def readBits : Nat → Parser Nat
  | 0 => pure 0
  | count + 1 => do
      let bit ← readBit
      let low ← readBits count
      return bit.toNat * 2 ^ count + low

def leadingZeros : Parser Nat
  | [] => none
  | true :: rest => some (0, rest)
  | false :: rest => (leadingZeros rest).map fun r => (r.1 + 1, r.2)

def readUe : Parser Nat := do
  let zeros ← leadingZeros
  let suffix ← readBits zeros
  return 2 ^ zeros - 1 + suffix

def readSe : Parser Int := do
  let code ← readUe
  return if code % 2 = 1 then ((code + 1) / 2 : Nat) else -((code / 2 : Nat) : Int)

def readMany (parser : Parser α) : Nat → Parser (List α)
  | 0 => pure []
  | count + 1 => do
      let first ← parser
      let rest ← readMany parser count
      return first :: rest

def readIf (c : Prop) [Decidable c] (parser : Parser α) : Parser (Option α) :=
  if c then some <$> parser else pure none
def Reads (parser : Parser α) (bits : List Bool) (a : α) : Prop :=
  ∀ rest, parser (bits ++ rest) = some (a, rest)

section
variable {parser : Parser α} {next : α → Parser β} {bits bits' : List Bool} {a : α} {b : β}
theorem Reads.pure (a : α) : Reads (Pure.pure a) [] a := fun _ => rfl
theorem Reads.cast {a' : α} (h : Reads parser bits a) (hbits : bits = bits') (ha : a = a') :
    Reads parser bits' a' := hbits ▸ ha ▸ h

theorem Reads.bind (h : Reads parser bits a) (h' : Reads (next a) bits' b) :
    Reads (parser >>= next) (bits ++ bits') b := by
  intro rest
  change (parser (bits ++ bits' ++ rest)).bind (fun r => next r.1 r.2) = _
  rw [append_assoc,h,Option.bind_some,h']

theorem Reads.map (f : α → β) (h : Reads parser bits a) : Reads (f <$> parser) bits (f a) := by
  intro rest
  change (parser (bits ++ rest)).bind (fun r => some (f r.1, r.2)) = _
  rw [h,Option.bind_some]

theorem Reads.bit (bit : Bool) : Reads readBit [bit] bit := fun _ => rfl

theorem Reads.ofNat (count value : Nat) :
    Reads (readBits count) (ofNat count value) (value % 2 ^ count) := by
  induction count with
  | zero =>
    rw [Nat.pow_zero,Nat.mod_one]
    exact Reads.pure 0
  | succ count ih =>
    have hvalue : (value.testBit count).toNat * 2 ^ count + value % 2 ^ count =
        value % 2 ^ (count + 1) := by
      rw [Nat.pow_succ,Nat.mod_mul,Nat.toNat_testBit,Nat.mul_comm,Nat.add_comm]
    have hread : Reads (readBits (count + 1))
        ([value.testBit count] ++ (Bits.ofNat count value ++ [])) _ :=
      (Reads.bit _).bind (ih.bind (Reads.pure _))
    exact hread.cast (by rw [append_nil]; rfl) hvalue

theorem Reads.leadingZeros (zeros : Nat) :
    Reads Bits.leadingZeros (List.replicate zeros false ++ [true]) zeros := by
  intro rest
  induction zeros with
  | zero => rfl
  | succ zeros ih =>
    rw [replicate_succ,cons_append,cons_append,Bits.leadingZeros,ih]
    rfl

theorem Reads.ue (value : Nat) : Reads readUe (ue value) value := by
  obtain ⟨zeros,hsize⟩ : ∃ zeros, (value + 1).size = zeros + 1 :=
    Nat.exists_eq_succ_of_ne_zero fun hzero => Nat.succ_ne_zero value (Nat.size_eq_zero.mp hzero)
  have hlow : 2 ^ zeros ≤ value + 1 := Nat.lt_size.mp (by omega)
  have hhigh : value + 1 < 2 ^ (zeros + 1) := Nat.size_le.mp (by omega)
  -- The leading one ends the run of zeros; what follows is the remainder.
  have hlead : (value + 1).testBit zeros = true :=
    Nat.testBit_of_two_pow_le_and_two_pow_add_one_gt hlow hhigh
  have hread : Reads readUe
      (List.replicate zeros false ++ [true] ++ (Bits.ofNat zeros (value + 1) ++ [])) _ :=
    (Reads.leadingZeros zeros).bind ((Reads.ofNat zeros _).bind (Reads.pure _))
  have hvalue : 2 ^ zeros - 1 + (value + 1) % 2 ^ zeros = value := by
    rw [Nat.pow_succ] at hhigh
    rw [Nat.mod_eq_sub_mod hlow,Nat.mod_eq_of_lt (by omega)]
    omega
  refine hread.cast ?_ hvalue
  rw [Bits.ue,hsize,Bits.ofNat,hlead]
  simp

theorem Reads.se (value : Int) : Reads readSe (se value) value := by
  have hcode : (if signedCode value % 2 = 1 then (((signedCode value + 1) / 2 : Nat) : Int)
      else -((signedCode value / 2 : Nat) : Int)) = value := by
    unfold signedCode
    split <;> split <;> omega
  have hread : Reads readSe (Bits.ue (signedCode value) ++ []) _ :=
    (Reads.ue _).bind (Reads.pure _)
  exact hread.cast (append_nil _) hcode

theorem Reads.present {c : Prop} [Decidable c] (hc : c) (h : Reads parser bits a) :
    Reads (readIf c parser) bits (some a) := by
  rw [readIf,if_pos hc]
  exact h.map some

theorem Reads.absent {c : Prop} [Decidable c] (hc : ¬ c) :
    Reads (readIf c parser) [] none := by
  rw [readIf,if_neg hc]
  exact Reads.pure none
end
end LinDeX.Bits
