import LinDeX.Library.Run
import LinDeX.Library.Slots
import Mathlib.Data.Multiset.Count

/-!
# Leases

Giving everything back exactly once. A desk obtains tokens one at a time. The token in hand is
returned or granted as a lease on a slot. A lease is ended once, with its token, and sees each kind
of transfer at most once.
-/
namespace LinDeX.Lease
open Function Option
open scoped BigOperators
variable {n : Nat} {τ κ : Type*} [DecidableEq τ] [DecidableEq κ]
/-- What can happen at the desk, over `n` slots, tokens `τ` and kinds of transfer `κ`. -/
inductive Event (n : Nat) (τ κ : Type*) where
  | obtained (token : τ)
  | returned (token : τ)
  | granted (slot : Fin n) (token : τ)
  | ended (slot : Fin n) (token : τ)
  | transferred (slot : Fin n) (kind : κ)
  deriving DecidableEq

structure Grant (τ κ : Type*) where
  token : τ
  seen : κ → Bool

structure Desk (n : Nat) (τ κ : Type*) where
  inHand : Option τ
  leases : Fin n → Option (Grant τ κ)

def Desk.empty : Desk n τ κ := ⟨none,fun _ => none⟩

/-- The protocol; `none` refuses the event. -/
def step (d : Desk n τ κ) : Event n τ κ → Option (Desk n τ κ)
  | .obtained t => if d.inHand = none then some { d with inHand := some t } else none
  | .returned t => if d.inHand = some t then some { d with inHand := none } else none
  | .granted j t =>
    if d.inHand = some t ∧ (d.leases j).isNone then
      some ⟨none,update d.leases j (some ⟨t,fun _ => false⟩)⟩
    else none
  | .ended j t =>
    if (d.leases j).map Grant.token = some t then
      some { d with leases := update d.leases j none }
    else none
  | .transferred j kind =>
    match d.leases j with
    | none => none
    | some lease =>
      if lease.seen kind then none
      else
        some { d with leases := update d.leases j
                        (some { lease with seen := update lease.seen kind true }) }

def Event.gained : Event n τ κ → Multiset τ
  | .obtained t => {t}
  | _ => 0

def Event.givenBack : Event n τ κ → Multiset τ
  | .returned t | .ended _ t => {t}
  | _ => 0

def Grant.held : Option (Grant τ κ) → Multiset τ
  | none => 0
  | some lease => {lease.token}

def inHandHeld : Option τ → Multiset τ
  | none => 0
  | some t => {t}

omit [DecidableEq τ] [DecidableEq κ] in
@[simp] theorem Grant.held_none : Grant.held (none : Option (Grant τ κ)) = 0 := rfl

omit [DecidableEq τ] [DecidableEq κ] in
@[simp] theorem Grant.held_some (lease : Grant τ κ) : Grant.held (some lease) = {lease.token} := rfl

omit [DecidableEq τ] in
@[simp] theorem inHandHeld_none : inHandHeld (none : Option τ) = 0 := rfl

omit [DecidableEq τ] in
@[simp] theorem inHandHeld_some (t : τ) : inHandHeld (some t) = {t} := rfl
def Desk.held (d : Desk n τ κ) : Multiset τ := inHandHeld d.inHand + ∑ j, Grant.held (d.leases j)

omit [DecidableEq τ] [DecidableEq κ] in
@[simp] theorem Desk.held_empty : (Desk.empty : Desk n τ κ).held = 0 := by
  simp [Desk.held,Desk.empty]
variable {d d' : Desk n τ κ}
theorem step_conserves {ev : Event n τ κ} (h : step d ev = some d') :
    ev.gained + d.held = ev.givenBack + d'.held := by
  cases ev with
  | obtained =>
    simp only [step,ite_none_right_eq_some,Option.some.injEq] at h
    obtain ⟨hnone,rfl⟩ := h
    simp [Event.gained,Event.givenBack,Desk.held,hnone]
  | returned =>
    simp only [step,ite_none_right_eq_some,Option.some.injEq] at h
    obtain ⟨hhand,rfl⟩ := h
    simp [Event.gained,Event.givenBack,Desk.held,hhand]
  | granted j t =>
    simp only [step,ite_none_right_eq_some,Option.some.injEq,isNone_iff_eq_none] at h
    obtain ⟨⟨hhand,hfree⟩,rfl⟩ := h
    have hset := Slots.sum_update_add d.leases j (some ⟨t,fun _ => false⟩) fun _ => Grant.held
    simp only [hfree,Grant.held_none,Grant.held_some,add_zero] at hset
    simp only [Event.gained,Event.givenBack,Desk.held,hhand,inHandHeld_none,inHandHeld_some,
      zero_add,hset]
    abel
  | ended j =>
    simp only [step,ite_none_right_eq_some,Option.some.injEq,map_eq_some_iff] at h
    obtain ⟨⟨lease,hlease,rfl⟩,rfl⟩ := h
    have hset := Slots.sum_update_add d.leases j none fun _ => Grant.held
    simp only [hlease,Grant.held_none,Grant.held_some,add_zero] at hset
    simp only [Event.gained,Event.givenBack,Desk.held,zero_add,← hset]
    abel
  | transferred j kind =>
    simp only [step] at h
    split at h
    · cases h
    · rename_i lease hlease
      split at h
      · cases h
      cases h
      have hset := Slots.sum_update_of_eq d.leases j
        (some { lease with seen := update lease.seen kind true })
        (fun _ => Grant.held) (by rw [hlease]; rfl)
      simp only [Event.gained,Event.givenBack,Desk.held,hset]
variable {log : List (Event n τ κ)}
theorem accepts_conserves (h : Run.accepts step d log = some d') :
    Run.weight Event.gained log + d.held = Run.weight Event.givenBack log + d'.held := by
  induction log generalizing d with
  | nil =>
    cases h
    rfl
  | cons ev log ih =>
    obtain ⟨mid,hfirst,hrest⟩ := bind_eq_some_iff.mp h
    have hstep := step_conserves hfirst
    have hlog := ih hrest
    rw [Run.weight_cons,Run.weight_cons]
    calc ev.gained + Run.weight Event.gained log + d.held
        = Run.weight Event.gained log + (ev.gained + d.held) := by abel
      _ = ev.givenBack + (Run.weight Event.gained log + mid.held) := by rw [hstep]; abel
      _ = _ := by rw [hlog]; abel

theorem step_slot {ev : Event n τ κ} (h : step d ev = some d') (j : Fin n) :
    d'.leases j = d.leases j ∨ (∃ t, ev = .granted j t ∧ d.leases j = none) ∨
    (∃ t, ev = .ended j t ∧ d'.leases j = none) ∨
    ∃ kind lease, ev = .transferred j kind ∧ d.leases j = some lease ∧ d'.leases j =
      some { lease with seen := update lease.seen kind true } := by
  cases ev with
  | obtained t | returned t =>
    simp only [step,ite_none_right_eq_some,Option.some.injEq] at h
    obtain ⟨-,rfl⟩ := h
    exact .inl rfl
  | granted i t =>
    simp only [step,ite_none_right_eq_some,Option.some.injEq,isNone_iff_eq_none] at h
    obtain ⟨⟨-,hfree⟩,rfl⟩ := h
    by_cases hij : j = i
    · subst hij
      exact .inr (.inl ⟨t,rfl,hfree⟩)
    · exact .inl (update_of_ne hij ..)
  | ended i t =>
    simp only [step,ite_none_right_eq_some,Option.some.injEq] at h
    obtain ⟨-,rfl⟩ := h
    by_cases hij : j = i
    · subst hij
      exact .inr (.inr (.inl ⟨t,rfl,update_self ..⟩))
    · exact .inl (update_of_ne hij ..)
  | transferred i kind =>
    simp only [step] at h
    split at h
    · cases h
    rename_i lease hlease
    split at h
    · cases h
    cases h
    by_cases hij : j = i
    · subst hij
      exact .inr (.inr (.inr ⟨kind,lease,rfl,hlease,update_self ..⟩))
    · exact .inl (update_of_ne hij ..)
variable {j : Fin n}
theorem seen_until_ended {kind : κ}
    (h : Run.accepts step d log = some d') (hlog : ∀ t, .ended j t ∉ log)
    (hseen : ∃ lease, d.leases j = some lease ∧ lease.seen kind = true) :
    ∃ lease, d'.leases j = some lease ∧ lease.seen kind = true := by
  induction log generalizing d with
  | nil =>
    cases h
    exact hseen
  | cons ev log ih =>
    obtain ⟨mid,hfirst,hrest⟩ := bind_eq_some_iff.mp h
    refine ih hrest (fun t ht => hlog t (List.mem_cons_of_mem _ ht)) ?_
    obtain ⟨lease,hlease,hkind⟩ := hseen
    obtain hsame | ⟨t, -,hfree⟩ | ⟨t,rfl, -⟩ | ⟨kind',lease', -,hlease',hnew⟩ :=
      step_slot hfirst j
    · exact ⟨lease,hsame.trans hlease,hkind⟩
    · rw [hlease] at hfree
      cases hfree
    · exact absurd List.mem_cons_self (hlog t)
    · rw [hlease] at hlease'
      cases hlease'
      refine ⟨_,hnew,?_⟩
      by_cases hk : kind = kind'
      · subst hk
        exact update_self ..
      · simpa [update_of_ne hk] using hkind

theorem ended_between_transfers {before mid after : List (Event n τ κ)} {kind : κ}
    (h : Run.accepts step d
      (before ++ .transferred j kind :: mid ++ .transferred j kind :: after) = some d') :
    ∃ t, .ended j t ∈ mid := by
  by_contra hnone
  push Not at hnone
  obtain ⟨d2,d4,h,hsecond, -⟩ := Run.accepts_around h
  obtain ⟨d1,d3, -,hfirst,hmid⟩ := Run.accepts_around h
  have hseen : ∃ lease, d3.leases j = some lease ∧ lease.seen kind = true := by
    simp only [step] at hfirst
    split at hfirst
    · cases hfirst
    split at hfirst
    · cases hfirst
    cases hfirst
    exact ⟨_,update_self ..,update_self ..⟩
  obtain ⟨lease,hlease,hkind⟩ := seen_until_ended hmid hnone hseen
  simp only [step,hlease,hkind,if_true] at hsecond
  cases hsecond

theorem free_until_granted (h : Run.accepts step d log = some d') (hlog : ∀ t, .granted j t ∉ log)
    (hfree : d.leases j = none) : d'.leases j = none := by
  induction log generalizing d with
  | nil =>
    cases h
    exact hfree
  | cons ev log ih =>
    obtain ⟨mid,hfirst,hrest⟩ := bind_eq_some_iff.mp h
    refine ih hrest (fun t ht => hlog t (List.mem_cons_of_mem _ ht)) ?_
    obtain hsame | ⟨t,rfl, -⟩ | ⟨t, -,hnone⟩ | ⟨kind,lease, -,hlease, -⟩ :=
      step_slot hfirst j
    · exact hsame.trans hfree
    · exact absurd List.mem_cons_self (hlog t)
    · exact hnone
    · rw [hfree] at hlease
      cases hlease

theorem granted_between_ends {before mid after : List (Event n τ κ)} {t t' : τ}
    (h : Run.accepts step d (before ++ .ended j t :: mid ++ .ended j t' :: after) = some d') :
    ∃ t'', .granted j t'' ∈ mid := by
  by_contra hnone
  push Not at hnone
  obtain ⟨d2,d4,h,hsecond, -⟩ := Run.accepts_around h
  obtain ⟨d1,d3, -,hfirst,hmid⟩ := Run.accepts_around h
  have hfree : d3.leases j = none := by
    simp only [step,ite_none_right_eq_some,Option.some.injEq] at hfirst
    obtain ⟨-,rfl⟩ := hfirst
    exact update_self ..
  have hstill := free_until_granted hmid hnone hfree
  simp only [step,hstill,map_none,reduceCtorEq,if_false] at hsecond

def endAll (leases : Fin n → Option (Grant τ κ)) (slots : List (Fin n)) : List (Event n τ κ) :=
  slots.flatMap fun j => (leases j).elim [] fun lease => [.ended j lease.token]

theorem accepts_endAll (leases : Fin n → Option (Grant τ κ)) (inHand : Option τ)
    {slots : List (Fin n)} (hnodup : slots.Nodup) :
    Run.accepts step ⟨inHand,leases⟩ (endAll leases slots) =
      some ⟨inHand,fun j => if j ∈ slots then none else leases j⟩ := by
  -- the leases of later slots are the ones the list was made from
  suffices hgen : ∀ current : Fin n → Option (Grant τ κ), (∀ j ∈ slots, current j = leases j) →
      Run.accepts step ⟨inHand,current⟩ (endAll leases slots) =
        some ⟨inHand,fun j => if j ∈ slots then none else current j⟩ from
    hgen leases fun _ _ => rfl
  induction slots with
  | nil => intro current _; simp [endAll]
  | cons i slots ih =>
    intro current hsame
    obtain ⟨hi,hnodup⟩ := List.nodup_cons.mp hnodup
    have hcurrent : current i = leases i := hsame i List.mem_cons_self
    have htail : ∀ j ∈ slots, update current i none j = leases j := by
      intro j hj
      have hne : j ≠ i := fun h => hi (h ▸ hj)
      rw [update_of_ne hne]
      exact hsame j (List.mem_cons_of_mem _ hj)
    have hdone : (fun j => if j ∈ slots then none else update current i none j) =
        fun j => if j ∈ i :: slots then none else current j := by
      funext j
      by_cases hj : j = i
      · subst hj
        simp [hi]
      · simp [hj]
    rw [endAll,List.flatMap_cons,← endAll,Run.accepts_append]
    cases hlease : leases i with
    | none =>
      have hclear : update current i none = current := by
        rw [← hlease,← hcurrent,update_eq_self]
      rw [← hdone,← ih hnodup _ htail,hclear]
      rfl
    | some lease =>
      simp only [Option.elim_some,Run.accepts_cons,step,hcurrent,hlease,map_some,if_true,
        bind_some,Run.accepts_nil]
      rw [← hdone]
      exact ih hnodup _ htail
end LinDeX.Lease
