import LinDeX.Library.Program
import LinDeX.Library.Run

/-!
# Programs that follow an abstract system

A program with a log follows an abstract system if, started in a state that stands for `a`, it ends
in one that stands for some `b`, and what it logged meanwhile is the log of a trace from `a` to
`b`.
-/
namespace LinDeX.Program
open Run
variable {σ ρ ε α : Type}
structure Abstraction (σ ρ ε : Type) where
  step : ρ → List ε → ρ → Prop
  standsFor : σ → ρ → Prop
  log : σ → List ε

namespace Abstraction
variable (A : Abstraction σ ρ ε)
/-- The state `t` is reached from `s` as the system goes from `a` to `b`. -/
def Goes (s : σ) (a : ρ) (t : σ) (b : ρ) : Prop :=
  A.standsFor t b ∧ ∃ events, Trace A.step a events b ∧ A.log t = A.log s ++ events
variable {A} {s t u : σ} {a b c : ρ} {events : List ε}
theorem Goes.trans (hst : A.Goes s a t b) (htu : A.Goes t b u c) : A.Goes s a u c := by
  obtain ⟨-,events,htrace,hlog⟩ := hst
  obtain ⟨hc,later,htrace',hlog'⟩ := htu
  refine ⟨hc,events ++ later,htrace.append htrace',?_⟩
  rw [hlog',hlog,List.append_assoc]

theorem Goes.act (hstep : A.step a events b) (hlog : A.log t = A.log s ++ events)
    (h : A.standsFor t b) : A.Goes s a t b := ⟨h,events,.single hstep,hlog⟩
theorem Goes.idle (hlog : A.log t = A.log s) (h : A.standsFor t a) : A.Goes s a t a :=
  ⟨h,[],.nil a,hlog.trans (List.append_nil _).symm⟩
end Abstraction
end LinDeX.Program
