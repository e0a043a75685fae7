import LinDeX.Library.Program

/-!
# Clearing the entries of a table in a loop

A loop looks up each name of a list in a table and clears the entry it finds, in the table that the
earlier rounds left: a name that is listed twice is missed the second time.
-/
namespace LinDeX.Program
open List Option
variable {σ ι κ τ : Type}
/-- A table inside a state: the entry that a name stands for, the entries in use, what a cleared
entry holds, and how many lookups found nothing. -/
structure Table (σ ι κ τ : Type) where
  slot : ι → Option κ
  view : σ → κ → τ
  used : τ → Bool
  zero : τ
  missed : σ → Nat

def Table.find (T : Table σ ι κ τ) (s : σ) (a : ι) : Option κ :=
  (T.slot a).filter fun k => T.used (T.view s k)

/-- Two names never stand for one entry, and a cleared entry is not in use. -/
structure Table.Sound (T : Table σ ι κ τ) : Prop where
  slot_inj : ∀ {a b k}, T.slot a = some k → T.slot b = some k → a = b
  zero_unused : T.used T.zero = false

structure Table.Clears [DecidableEq κ] (T : Table σ ι κ τ) (g : ι → StateM σ PUnit) : Prop where
  found : ∀ {s a k}, T.find s a = some k →
    T.view (g a s).2 = Function.update (T.view s) k T.zero ∧ T.missed (g a s).2 = T.missed s
  lost : ∀ {s a}, T.find s a = none →
    T.view (g a s).2 = T.view s ∧ T.missed (g a s).2 = T.missed s + 1

namespace Table
variable {T : Table σ ι κ τ} {g : ι → StateM σ PUnit} {s : σ} {a : ι} {k : κ} {names : List ι}
theorem find_eq_some : T.find s a = some k ↔ T.slot a = some k ∧ T.used (T.view s k) = true :=
  filter_eq_some_iff
variable [DecidableEq κ]
theorem missed_le (hg : T.Clears g) (s : σ) (names : List ι) :
    T.missed s ≤ T.missed (names.forM g s).2 := by
  induction names generalizing s with
  | nil => exact Nat.le_refl _
  | cons a names ih =>
    refine Nat.le_trans ?_ (ih (g a s).2)
    cases hfind : T.find s a with
    | none => exact (hg.lost hfind).2 ▸ Nat.le_succ _
    | some k => exact Nat.le_of_eq (hg.found hfind).2.symm

theorem find_none_step (hT : T.Sound) (hg : T.Clears g) (h : T.find s a = none) (b : ι) :
    T.find (g b s).2 a = none := by
  refine eq_none_iff_forall_ne_some.mpr fun k hk => ?_
  obtain ⟨hslot,hused⟩ := find_eq_some.mp hk
  have hunused : T.used (T.view s k) ≠ true := fun hu =>
    eq_none_iff_forall_ne_some.mp h k (find_eq_some.mpr ⟨hslot,hu⟩)
  cases hfind : T.find s b with
  | none => exact hunused (by rwa [(hg.lost hfind).1] at hused)
  | some k' =>
    rw [(hg.found hfind).1] at hused
    by_cases hkk : k = k'
    · rw [hkk,Function.update_self,hT.zero_unused] at hused
      exact Bool.noConfusion hused
    · exact hunused (by rwa [Function.update_of_ne hkk] at hused)

theorem find_self (hT : T.Sound) (hg : T.Clears g) (s : σ) (a : ι) :
    T.find (g a s).2 a = none := by
  refine eq_none_iff_forall_ne_some.mpr fun k hk => ?_
  cases hfind : T.find s a with
  | none => exact eq_none_iff_forall_ne_some.mp (find_none_step hT hg hfind a) k hk
  | some k' =>
    obtain ⟨hslot,hused⟩ := find_eq_some.mp hk
    have hkk : k = k' := Option.some.inj (hslot.symm.trans (find_eq_some.mp hfind).1)
    rw [(hg.found hfind).1,hkk,Function.update_self,hT.zero_unused] at hused
    exact Bool.noConfusion hused

theorem missed_lt (hT : T.Sound) (hg : T.Clears g) (h : T.find s a = none) (ha : a ∈ names) :
    T.missed s < T.missed (names.forM g s).2 := by
  induction names generalizing s with
  | nil => exact absurd ha not_mem_nil
  | cons b names ih =>
    cases hfind : T.find s b with
    | none =>
      refine Nat.lt_of_lt_of_le ?_ (missed_le hg (g b s).2 names)
      rw [(hg.lost hfind).2]
      exact Nat.lt_succ_self _
    | some k =>
      have hab : a ≠ b := fun hab => by
        rw [hab,hfind] at h
        cases h
      rw [← (hg.found hfind).2]
      exact ih (find_none_step hT hg h b) ((mem_cons.mp ha).resolve_left hab)

/-- Over names that are all there to begin with, no lookup fails exactly if no name is listed
twice. -/
theorem missed_eq_iff (hT : T.Sound) (hg : T.Clears g) (h : ∀ a ∈ names, T.find s a ≠ none) :
    T.missed (names.forM g s).2 = T.missed s ↔ names.Nodup := by
  induction names generalizing s with
  | nil => exact iff_of_true rfl nodup_nil
  | cons b names ih =>
    obtain ⟨k,hfind⟩ := ne_none_iff_exists'.mp (h b mem_cons_self)
    rw [nodup_cons,← (hg.found hfind).2]
    by_cases hb : b ∈ names
    · have hlt := missed_lt hT hg (find_self hT hg s b) hb
      exact iff_of_false (fun heq => Nat.ne_of_gt hlt heq) fun hnodup => hnodup.1 hb
    · refine (ih fun a ha => ?_).trans (and_iff_right hb).symm
      -- another name stands for another entry, which this round leaves alone
      obtain ⟨k',hfind'⟩ := ne_none_iff_exists'.mp (h a (mem_cons_of_mem _ ha))
      have hne : k' ≠ k := fun hk => hb (hT.slot_inj (hk ▸ (find_eq_some.mp hfind').1)
        (find_eq_some.mp hfind).1 ▸ ha)
      refine ne_none_iff_exists'.mpr ⟨k',find_eq_some.mpr ⟨(find_eq_some.mp hfind').1,?_⟩⟩
      rw [(hg.found hfind).1,Function.update_of_ne hne]
      exact (find_eq_some.mp hfind').2

theorem view_forM (hg : T.Clears g) (hzero : T.used T.zero = false) (k : κ) :
    T.view (names.forM g s).2 k =
      if (∃ a ∈ names, T.slot a = some k) ∧ T.used (T.view s k) = true then T.zero
      else T.view s k := by
  induction names generalizing s with
  | nil => exact (if_neg fun h => absurd h.1 (by simp)).symm
  | cons b names ih =>
    apply (ih (s := (g b s).2)).trans
    cases hfind : T.find s b with
    | none =>
      have hb : T.slot b = some k → T.used (T.view s k) ≠ true := fun hslot hused =>
        eq_none_iff_forall_ne_some.mp hfind k (find_eq_some.mpr ⟨hslot,hused⟩)
      rw [(hg.lost hfind).1]
      refine if_congr (and_congr_left fun hused => ⟨?_,?_⟩) rfl rfl
      · rintro ⟨a,ha,hslot⟩
        exact ⟨a,mem_cons_of_mem _ ha,hslot⟩
      · rintro ⟨a,ha,hslot⟩
        exact ⟨a,(mem_cons.mp ha).resolve_left fun hab => hb (hab ▸ hslot) hused,hslot⟩
    | some k' =>
      obtain ⟨hslot,hused⟩ := find_eq_some.mp hfind
      rw [(hg.found hfind).1]
      by_cases hk : k = k'
      · subst hk
        rw [Function.update_self,hzero,if_neg (by simp),if_pos ⟨⟨b,mem_cons_self,hslot⟩,hused⟩]
      · have hb : T.slot b ≠ some k := fun h => hk (Option.some.inj (h.symm.trans hslot))
        rw [Function.update_of_ne hk]
        simp only [mem_cons,exists_eq_or_imp,hb,false_or]
end Table
end LinDeX.Program
