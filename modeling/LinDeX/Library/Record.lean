import LinDeX.Library.Program

/-!
# Programs that keep a record of the services they use

A program that works through the services of an environment is run with services that write down
each use and its answer. It does the same, and a predicate describes what was written down.
-/
namespace LinDeX.Program
variable {σ α β ε : Type}
def record (m : StateM σ α) (event : α → ε) : StateM (σ × List ε) α :=
  fun s => ((m s.1).1, (m s.1).2, s.2 ++ [event (m s.1).1])

/-- `m'` does what `m` does and writes down events that fit the answer. -/
def Records (m' : StateM (σ × List ε) α) (m : StateM σ α) (Q : α → List ε → Prop) : Prop :=
  ∀ s log, ∃ events, m' (s, log) = ((m s).1, (m s).2, log ++ events) ∧ Q (m s).1 events
variable {m : StateM σ α} {m' : StateM (σ × List ε) α} {f : α → StateM σ β}
  {f' : α → StateM (σ × List ε) β} {P : α → List ε → Prop} {Q : β → List ε → Prop}

theorem Records.pure {a : α} (h : P a []) :
    Records (Pure.pure a) (Pure.pure a : StateM σ α) P :=
  fun s log => ⟨[],by rw [List.append_nil]; rfl,h⟩

theorem Records.bind (hm : Records m' m P)
    (hf : ∀ a events, P a events → Records (f' a) (f a) fun b later => Q b (events ++ later)) :
    Records (m' >>= f') (m >>= f) Q := by
  intro s log
  obtain ⟨first,hfirst,hP⟩ := hm s log
  obtain ⟨later,hlater,hQ⟩ := hf _ first hP (m s).2 (log ++ first)
  refine ⟨first ++ later,?_,hQ⟩
  have hrun : (m' >>= f') (s, log) = f' (m' (s, log)).1 (m' (s, log)).2 := rfl
  rw [hrun,hfirst,← List.append_assoc]
  exact hlater

theorem Records.ite {c : Prop} [Decidable c] {m₁ m₂ : StateM σ α}
    {m₁' m₂' : StateM (σ × List ε) α} (h₁ : c → Records m₁' m₁ P) (h₂ : ¬c → Records m₂' m₂ P) :
    Records (if c then m₁' else m₂') (if c then m₁ else m₂) P := by
  split
  · exact h₁ ‹_›
  · exact h₂ ‹_›

theorem Records.mono {P' : α → List ε → Prop} (h : Records m' m P)
    (himp : ∀ a events, P a events → P' a events) : Records m' m P' := by
  intro s log
  obtain ⟨events,hrun,hP⟩ := h s log
  exact ⟨events,hrun,himp _ _ hP⟩

theorem Records.bind_event {event : α → ε} (hm : Records m' m fun a events => events = [event a])
    (hf : ∀ a, Records (f' a) (f a) fun b later => Q b (event a :: later)) :
    Records (m' >>= f') (m >>= f) Q := by
  apply Records.bind hm
  rintro a events rfl
  exact hf a
end LinDeX.Program
