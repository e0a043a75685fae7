import Mathlib.Algebra.BigOperators.Group.List.Basic
import Mathlib.Algebra.Group.Defs
import Mathlib.Tactic.Abel

/-!
# Runs of a deterministic machine with an event log

A machine takes one call at a time and logs what it did; a trace is what a step relation can do.
An invariant, a conservation law or acceptance by an abstract machine is lifted from one step to all
of them.
-/
namespace LinDeX.Run
open Function List
variable {σ ι ε M τ : Type*}
def run (step : σ → ι → σ × List ε) : σ → List ι → σ × List ε
  | s, [] => (s, [])
  | s, i :: is =>
    let first := step s i
    let rest := run step first.1 is
    (rest.1, first.2 ++ rest.2)
variable {step : σ → ι → σ × List ε}
@[simp] theorem run_nil (s : σ) : run step s [] = (s, []) := rfl

theorem run_cons (s : σ) (i : ι) (is : List ι) :
    run step s (i :: is) =
      ((run step (step s i).1 is).1, (step s i).2 ++ (run step (step s i).1 is).2) := rfl

theorem run_append (s : σ) (is js : List ι) :
    run step s (is ++ js) = ((run step (run step s is).1 js).1,
        (run step s is).2 ++ (run step (run step s is).1 js).2) := by
  induction is generalizing s with
  | nil => simp
  | cons i is ih =>
    simp only [cons_append,run_cons,ih,append_assoc]

theorem foldl_eq_run (step : σ → ι → σ × List ε) (s : σ) (log : List ε) (is : List ι) :
    is.foldl (fun acc i => ((step acc.1 i).1, acc.2 ++ (step acc.1 i).2)) (s, log) =
      ((run step s is).1, log ++ (run step s is).2) := by
  induction is generalizing s log with
  | nil => simp
  | cons i is ih => rw [List.foldl_cons,ih,run_cons,append_assoc]

theorem run_log_flatMap [DecidableEq ι] (step : σ → ι → σ × List ε) (s : σ) {is : List ι} (hnodup : is.Nodup) :
    ∃ before : ι → σ, (run step s is).2 = is.flatMap fun i => (step (before i) i).2 := by
  induction is generalizing s with
  | nil => exact ⟨fun _ => s,rfl⟩
  | cons i is ih =>
    obtain ⟨hi,hnodup⟩ := nodup_cons.mp hnodup
    obtain ⟨before,hrest⟩ := ih (step s i).1 hnodup
    refine ⟨update before i s,?_⟩
    have hsame : (is.flatMap fun j => (step (update before i s j) j).2) =
        is.flatMap fun j => (step (before j) j).2 := by
      refine List.flatMap_congr fun j hj => ?_
      have hne : j ≠ i := fun h => hi (h ▸ hj)
      rw [update_of_ne hne]
    rw [List.flatMap_cons,update_self,hsame,← hrest]
    rfl
variable (Inv : σ → Prop)
theorem run_invariant (hstep : ∀ s i, Inv s → Inv (step s i).1)
    (s : σ) (is : List ι) (h : Inv s) : Inv (run step s is).1 := by
  induction is generalizing s with
  | nil => exact h
  | cons i is ih =>
    rw [run_cons]
    exact ih _ (hstep s i h)

theorem run_invariant_cost (Inv : Nat → σ → Prop) (cost : ι → Nat)
    (hstep : ∀ n s i, Inv n s → Inv (n + cost i) (step s i).1)
    (n : Nat) (s : σ) (is : List ι) (h : Inv n s) :
    Inv (n + (is.map cost).sum) (run step s is).1 := by
  induction is generalizing n s with
  | nil => exact h
  | cons i is ih =>
    rw [run_cons,map_cons,sum_cons,← Nat.add_assoc]
    exact ih _ _ (hstep n s i h)

def RunAllowed (step : σ → ι → σ × List ε) (Allowed : σ → ι → Prop) : σ → List ι → Prop
  | _, [] => True
  | s, i :: is => Allowed s i ∧ RunAllowed step Allowed (step s i).1 is

instance decidableRunAllowed {Allowed : σ → ι → Prop} [∀ s i,Decidable (Allowed s i)] :
    ∀ s is, Decidable (RunAllowed step Allowed s is)
  | _, [] => .isTrue trivial
  | s, i :: is =>
    have : Decidable (RunAllowed step Allowed (step s i).1 is) := decidableRunAllowed _ is
    inferInstanceAs (Decidable (Allowed s i ∧ RunAllowed step Allowed (step s i).1 is))

theorem run_forall_mem {Allowed : σ → ι → Prop} (P : ε → Prop)
    (hinv : ∀ s i, Inv s → Allowed s i → Inv (step s i).1)
    (hstep : ∀ s i, Inv s → ∀ e ∈ (step s i).2, P e) (s : σ) (is : List ι) (hs : Inv s)
    (hallowed : RunAllowed step Allowed s is) : ∀ e ∈ (run step s is).2, P e := by
  induction is generalizing s with
  | nil => exact nofun
  | cons i is ih =>
    intro e he
    rcases mem_append.mp he with he | he
    · exact hstep s i hs e he
    · exact ih _ (hinv s i hs hallowed.1) hallowed.2 e he

def weight [AddMonoid M] (f : ε → M) (log : List ε) : M := (log.map f).sum
variable (f : ε → M)
@[simp] theorem weight_nil [AddMonoid M] : weight f [] = 0 := rfl

@[simp] theorem weight_cons [AddMonoid M] (e : ε) (log : List ε) :
    weight f (e :: log) = f e + weight f log := by
  simp [weight]

@[simp] theorem weight_append [AddMonoid M] (log log' : List ε) :
    weight f (log ++ log') = weight f log + weight f log' := by
  simp [weight]

theorem weight_flatMap {δ : Type*} [AddMonoid M] (g : δ → List ε) (xs : List δ) :
    weight f (xs.flatMap g) = (xs.map fun x => weight f (g x)).sum := by
  induction xs with
  | nil => rfl
  | cons x xs ih => rw [List.flatMap_cons,weight_append,ih,map_cons,sum_cons]

theorem weight_map {δ : Type*} [AddMonoid M] (g : δ → ε) (log : List δ) :
    weight f (log.map g) = weight (fun x => f (g x)) log := by
  simp [weight,Function.comp_def]

theorem weight_eq_zero [AddMonoid M] (log : List ε) (h : ∀ e ∈ log, f e = 0) :
    weight f log = 0 := by
  induction log with
  | nil => rfl
  | cons e log ih =>
    rw [weight_cons,h e (by simp),ih (fun x hx => h x (mem_cons_of_mem _ hx)),add_zero]

/-- Feed a log to an abstract machine that may refuse an event. -/
def accepts (abs : τ → ε → Option τ) : τ → List ε → Option τ
  | t, [] => some t
  | t, e :: log => (abs t e).bind fun t' => accepts abs t' log
variable (abs : τ → ε → Option τ) (t : τ)
@[simp] theorem accepts_nil : accepts abs t [] = some t := rfl
@[simp] theorem accepts_cons (e : ε) (log : List ε) :
    accepts abs t (e :: log) = (abs t e).bind fun t' => accepts abs t' log := rfl

theorem accepts_append (log log' : List ε) :
    accepts abs t (log ++ log') = (accepts abs t log).bind fun t' => accepts abs t' log' := by
  induction log generalizing t with
  | nil => rfl
  | cons e log ih =>
    simp only [cons_append,accepts_cons,Option.bind_assoc]
    congr 1
    funext t'
    exact ih t'

/-- The states before and after an event of an accepted log. -/
theorem accepts_around {abs : τ → ε → Option τ} {t t' : τ} {before after : List ε} {e : ε}
    (h : accepts abs t (before ++ e :: after) = some t') : ∃ s s',
    accepts abs t before = some s ∧ abs s e = some s' ∧ accepts abs s' after = some t' := by
  rw [accepts_append] at h
  obtain ⟨s,hbefore,h⟩ := Option.bind_eq_some_iff.mp h
  obtain ⟨s',he,hafter⟩ := Option.bind_eq_some_iff.mp h
  exact ⟨s,s',hbefore,he,hafter⟩

/-- Steps of a relation one after the other, with their logs put together. -/
inductive Trace (R : σ → List ε → σ → Prop) : σ → List ε → σ → Prop
  | nil (s : σ) : Trace R s [] s
  | cons {s s₁ s₂ : σ} {log rest : List ε} (h : R s log s₁) (hrest : Trace R s₁ rest s₂) :
      Trace R s (log ++ rest) s₂

namespace Trace
variable {R : σ → List ε → σ → Prop} {s s' s'' : σ} {log log' : List ε}
theorem single (h : R s log s') : Trace R s log s' := by
  have htrace := Trace.cons h (.nil s')
  rwa [append_nil] at htrace

theorem append (h : Trace R s log s') (h' : Trace R s' log' s'') :
    Trace R s (log ++ log') s'' := by
  induction h with
  | nil => exact h'
  | cons hstep _ ih =>
    rw [append_assoc]
    exact .cons hstep (ih h')

theorem invariant (h : Trace R s log s') (Inv : σ → Prop)
    (hinv : ∀ s log s', R s log s' → Inv s → Inv s') (hs : Inv s) : Inv s' := by
  induction h with
  | nil => exact hs
  | cons hstep _ ih => exact ih (hinv _ _ _ hstep hs)

theorem forall_mem (h : Trace R s log s') (Inv : σ → Prop) (P : ε → Prop)
    (hinv : ∀ s log s', R s log s' → Inv s → Inv s')
    (hstep : ∀ s log s', R s log s' → Inv s → ∀ x ∈ log, P x) (hs : Inv s) :
    ∀ x ∈ log, P x := by
  induction h with
  | nil => intro x hx; cases hx
  | cons hfirst _ ih =>
    intro x hx
    obtain hx | hx := mem_append.mp hx
    · exact hstep _ _ _ hfirst hs x hx
    · exact ih (hinv _ _ _ hfirst hs) x hx

theorem history (h : Trace R s log s') (Inv : List ε → σ → Prop)
    (hinv : ∀ past s log s', R s log s' → Inv past s → Inv (past ++ log) s')
    (past : List ε) (hs : Inv past s) : Inv (past ++ log) s' := by
  induction h generalizing past with
  | nil => rwa [append_nil]
  | cons hstep _ ih =>
    rw [← append_assoc]
    exact ih _ (hinv _ _ _ _ hstep hs)

/-- Conservation: if every step turns what it gains into what it loses and what it holds,
then so does every trace. -/
theorem conserves [AddCommMonoid M] (h : Trace R s log s') (Inv : σ → Prop)
    (gained lost : ε → M) (held : σ → M) (hinv : ∀ s log s', R s log s' → Inv s → Inv s')
    (hstep : ∀ s log s', R s log s' → Inv s →
      weight gained log + held s = weight lost log + held s') (hs : Inv s) :
    weight gained log + held s = weight lost log + held s' := by
  induction h with
  | nil => rfl
  | cons hfirst _ ih =>
    rename_i s s1 s2 log rest _
    have hone := hstep _ _ _ hfirst hs
    have hrest := ih (hinv _ _ _ hfirst hs)
    simp only [weight_append]
    calc weight gained log + weight gained rest + held s
        = weight gained rest + (weight gained log + held s) := by abel
      _ = weight lost log + (weight gained rest + held s1) := by rw [hone]; abel
      _ = _ := by rw [hrest]; abel

/-- Simulation: if the abstract machine follows what can be observed of every step, it follows
what can be observed of every trace. -/
theorem accepted {δ : Type*} (h : Trace R s log s') (Inv : σ → Prop)
    (observe : List ε → List δ) (hnil : observe [] = [])
    (happend : ∀ xs ys, observe (xs ++ ys) = observe xs ++ observe ys)
    (abs : τ → δ → Option τ) (view : σ → τ) (hinv : ∀ s log s', R s log s' → Inv s → Inv s')
    (hstep : ∀ s log s', R s log s' → Inv s →
      accepts abs (view s) (observe log) = some (view s')) (hs : Inv s) :
    accepts abs (view s) (observe log) = some (view s') := by
  induction h with
  | nil => rw [hnil,accepts_nil]
  | cons hfirst _ ih =>
    rw [happend,accepts_append,hstep _ _ _ hfirst hs]
    exact ih (hinv _ _ _ hfirst hs)
end Trace

theorem run_trace {ρ : Type*} {R : ρ → List ε → ρ → Prop} (view : σ → ρ)
    (hinv : ∀ s i, Inv s → Inv (step s i).1)
    (hstep : ∀ s i, Inv s → R (view s) (step s i).2 (view (step s i).1))
    (s : σ) (is : List ι) (h : Inv s) :
    Trace R (view s) (run step s is).2 (view (run step s is).1) := by
  induction is generalizing s with
  | nil => exact .nil _
  | cons i is ih => exact .cons (hstep s i h) (ih _ (hinv s i h))
end LinDeX.Run
