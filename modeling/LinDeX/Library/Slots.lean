import Mathlib.Algebra.BigOperators.Fin
import Mathlib.Algebra.BigOperators.Group.Finset.Piecewise
import Mathlib.Data.Fin.Tuple.Basic
import Mathlib.Data.Multiset.Basic
import Mathlib.Tactic.Abel

/-!
# Fixed tables of slots

A C array of `n` records is a function `Fin n → α`. Writing one element is `update`,
a linear scan is `Fin.find?`, and a quantity attached to the whole table is a sum over it.
-/
namespace LinDeX.Slots
open Function
open scoped BigOperators
variable {n : Nat} {α M : Type*}
theorem sum_update_add [AddCommMonoid M] (t : Fin n → α) (k : Fin n) (v : α) (f : Fin n → α → M) :
    (∑ i, f i (update t k v i)) + f k (t k) = (∑ i, f i (t i)) + f k v := by
  have hrest : ∑ i ∈ Finset.univ.erase k, f i (update t k v i) =
      ∑ i ∈ Finset.univ.erase k, f i (t i) := by
    apply Finset.sum_congr rfl
    intro i hi
    rw [update_of_ne (Finset.ne_of_mem_erase hi)]
  rw [← Finset.add_sum_erase _ _ (Finset.mem_univ k),hrest,update_self,
    ← Finset.add_sum_erase _ (fun i => f i (t i)) (Finset.mem_univ k)]
  abel

theorem sum_update_of_eq [AddCommMonoid M] (t : Fin n → α) (k : Fin n) (v : α)
    (f : Fin n → α → M) (h : f k v = f k (t k)) :
    ∑ i, f i (update t k v i) = ∑ i, f i (t i) := by
  apply Finset.sum_congr rfl
  intro i _
  by_cases hi : i = k
  · subst hi
    rw [update_self,h]
  · rw [update_of_ne hi]

theorem eq_of_mem_of_nodup_sum {f : Fin n → Multiset α} (h : (∑ i, f i).Nodup) {i j : Fin n} {a : α}
    (hi : a ∈ f i) (hj : a ∈ f j) : i = j := by
  by_contra hne
  have hmem : j ∈ Finset.univ.erase i := Finset.mem_erase.mpr ⟨fun heq => hne heq.symm,Finset.mem_univ j⟩
  rw [← Finset.add_sum_erase _ _ (Finset.mem_univ i),← Finset.add_sum_erase _ _ hmem,
    Multiset.nodup_add] at h
  exact Multiset.disjoint_left.mp h.2.2 hi (Multiset.mem_add.mpr (.inl hj))

theorem forall_update {P : Fin n → α → Prop} {t : Fin n → α} {k : Fin n} {v : α}
    (h : ∀ i, P i (t i)) (hv : P k v) (i : Fin n) : P i (update t k v i) := by
  by_cases hi : i = k
  · subst hi
    rwa [update_self]
  · rw [update_of_ne hi]
    exact h i

theorem find_some {p : Fin n → Bool} {i : Fin n} (h : Fin.find? p = some i) : p i = true :=
  Fin.eq_true_of_find?_eq_some h
theorem find_none {p : Fin n → Bool} (h : Fin.find? p = none) (i : Fin n) : p i = false :=
  Fin.eq_false_of_find?_eq_none h i

theorem coe_map_filter {β : Type*} (l : List α) (p : α → Bool) (g : α → β) :
    (((l.filter p).map g : List β) : Multiset β) =
      (l.map fun a => if p a then ({g a} : Multiset β) else 0).sum := by
  induction l with
  | nil => rfl
  | cons a l ih =>
    by_cases ha : p a
    · rw [List.filter_cons_of_pos ha,List.map_cons,List.map_cons,List.sum_cons,if_pos ha,← ih,
        Multiset.singleton_add,Multiset.cons_coe]
    · rw [List.filter_cons_of_neg ha,List.map_cons,List.sum_cons,if_neg ha,zero_add,ih]
end LinDeX.Slots
