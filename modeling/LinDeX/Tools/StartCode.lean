import Mathlib.Algebra.GroupWithZero.Nat
import Mathlib.Data.List.Basic

/-!
# Start codes

Both `advc_bitstream.c` and `advc_annexb.c` look for start codes of three or four bytes with a
function of their own; the two differ only in how they leave their loop.
-/
namespace LinDeX.Tools
/-- `find_start_code` on the data from position `i` on: where the first start code is, and its
length. -/
def findStartCode : List UInt8 → Nat → Option (Nat × Nat)
  | a :: b :: c :: rest, i =>
    if a ≠ 0 ∨ b ≠ 0 then findStartCode (b :: c :: rest) (i + 1)
    else if c = 1 then some (i, 3)
    else if c = 0 ∧ rest.head? = some 1 then some (i, 4)
    else findStartCode (b :: c :: rest) (i + 1)
  | _, _ => none

def StartsWithCode (data : List UInt8) (length : Nat) : Prop :=
  (length = 3 ∧ ∃ rest, data = 0 :: 0 :: 1 :: rest) ∨
    (length = 4 ∧ ∃ rest, data = 0 :: 0 :: 0 :: 1 :: rest)

theorem findStartCode_some {data : List UInt8} {i start length : Nat}
    (h : findStartCode data i = some (start, length)) :
    i ≤ start ∧ StartsWithCode (data.drop (start - i)) length := by
  induction data generalizing i with
  | nil => cases h
  | cons a data ih =>
    match data, h with
    | [], h => cases h
    | [_], h => cases h
    | b :: c :: rest, h =>
      have hlater (hrest : findStartCode (b :: c :: rest) (i + 1) = some (start, length)) :
          i ≤ start ∧ StartsWithCode ((a :: b :: c :: rest).drop (start - i)) length := by
        obtain ⟨hle,hcode⟩ := ih hrest
        have hsplit : start - i = (start - (i + 1)) + 1 := by omega
        rw [hsplit,List.drop_succ_cons]
        exact ⟨by omega,hcode⟩
      rw [findStartCode] at h
      split at h
      · exact hlater h
      rename_i hzeros
      simp only [ne_eq,not_or,not_not] at hzeros
      obtain ⟨rfl,rfl⟩ := hzeros
      split at h
      · rename_i hone
        cases h
        subst hone
        exact ⟨Nat.le_refl _,by rw [Nat.sub_self]; exact .inl ⟨rfl,rest,rfl⟩⟩
      split at h
      · rename_i hfour
        cases h
        obtain ⟨rfl,hhead⟩ := hfour
        obtain ⟨tail,rfl⟩ := List.head?_eq_some_iff.mp hhead
        exact ⟨Nat.le_refl _,by rw [Nat.sub_self]; exact .inr ⟨rfl,tail,rfl⟩⟩
      · exact hlater h
end LinDeX.Tools
