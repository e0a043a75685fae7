import Mathlib.Data.Finset.Card
import Mathlib.Data.Finset.Image
import Mathlib.Order.Interval.Finset.Nat

/-!
# A counter that skips taken values

A machine-word counter runs forward, wraps around, and hands out the first value that is not
taken. The search ends because it passes at most as many values as are taken.
-/
namespace LinDeX.Allocator
variable {α : Type*}
/-- Try `fuel` successive values from `next`; the value found and the counter behind it. -/
def scan (succ : α → α) (taken : α → Bool) : Nat → α → Option (α × α)
  | 0, _ => none
  | fuel + 1, next =>
    if taken next then scan succ taken fuel (succ next) else some (next, succ next)
variable {succ : α → α} {taken : α → Bool}
variable {fuel : Nat} {next : α}
theorem scan_free {r : α × α} (h : scan succ taken fuel next = some r) : taken r.1 = false := by
  induction fuel generalizing next with
  | zero => cases h
  | succ fuel ih =>
    rw [scan] at h
    split at h
    · exact ih h
    · cases h
      simpa using ‹¬taken next = true›

theorem taken_of_scan_none (h : scan succ taken fuel next = none)
    (i : Nat) (hi : i < fuel) : taken (succ^[i] next) = true := by
  induction fuel generalizing next i with
  | zero => omega
  | succ fuel ih =>
    rw [scan] at h
    split at h
    · cases i with
      | zero => assumption
      | succ i => exact ih h i (by omega)
    · cases h

theorem scan_isSome [DecidableEq α] (bad : Finset α) (hbad : ∀ a, taken a = true → a ∈ bad)
    (hinj : Set.InjOn (fun i => succ^[i] next) (Finset.range fuel)) (hcard : bad.card < fuel) :
    (scan succ taken fuel next).isSome := by
  by_contra hnone
  rw [Option.not_isSome_iff_eq_none] at hnone
  have hsub : (Finset.range fuel).image (fun i => succ^[i] next) ⊆ bad := by
    intro a ha
    obtain ⟨i,hi,rfl⟩ := Finset.mem_image.mp ha
    exact hbad _ (taken_of_scan_none hnone i (Finset.mem_range.mp hi))
  have hle := Finset.card_le_card hsub
  rw [Finset.card_image_of_injOn hinj,Finset.card_range] at hle
  omega

theorem scan_mono {fuel fuel' : Nat} {r : α × α} (hle : fuel ≤ fuel')
    (h : scan succ taken fuel next = some r) : scan succ taken fuel' next = some r := by
  induction fuel generalizing fuel' next with
  | zero => cases h
  | succ fuel ih =>
    obtain ⟨n,rfl⟩ : ∃ n, fuel' = n + 1 := ⟨fuel' - 1,by omega⟩
    rw [scan] at h ⊢
    split at h
    · rw [if_pos ‹_›]
      exact ih (by omega) h
    · rwa [if_neg ‹_›]
end LinDeX.Allocator
