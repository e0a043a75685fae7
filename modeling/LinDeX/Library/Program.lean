import Mathlib.Tactic.Common

/-!
# Stateful programs: what they leave alone, and what they end in

Code that works on a shared state is a `StateM` program. A frame is a preorder on states, which a
program keeps if the state afterwards is related to the state before. Frames compose along
sequencing, branching and loops; `Ends` is the weakest precondition.
-/
namespace LinDeX.Program
variable {σ α β : Type}
def read (f : σ → α) : StateM σ α := fun s => (f s, s)
def update (f : σ → σ) : StateM σ Unit := fun s => ((), f s)
def whenever (c : Prop) [Decidable c] (m : StateM σ Unit) : StateM σ Unit :=
  if c then m else pure ()

structure Frame (σ : Type) where
  rel : σ → σ → Prop
  refl : ∀ s, rel s s
  trans : ∀ {s t u}, rel s t → rel t u → rel s u

/-- Nothing that `view` shows changes. -/
def Frame.same (view : σ → α) : Frame σ where
  rel s t := view t = view s
  refl _ := rfl
  trans h h' := h'.trans h

def Frame.on {τ : Type} (F : Frame σ) (part : τ → σ) : Frame τ where
  rel s t := F.rel (part s) (part t)
  refl _ := F.refl _
  trans := F.trans

/-- The program stays within the frame wherever it is started. -/
def Keeps (F : Frame σ) (m : StateM σ α) : Prop := ∀ s, F.rel s (m s).2

section
variable {F G : Frame σ} {m : StateM σ α} {f : α → StateM σ β}
theorem Keeps.pure (a : α) : Keeps F (Pure.pure a : StateM σ α) := fun s => F.refl s
theorem Keeps.bind (hm : Keeps F m) (hf : ∀ a, Keeps F (f a)) : Keeps F (m >>= f) :=
  fun s => F.trans (hm s) (hf _ _)
theorem Keeps.read (g : σ → α) : Keeps F (Program.read g) := fun s => F.refl s
theorem Keeps.read_bind {g : σ → α} (hf : ∀ a, Keeps F (f a)) : Keeps F (Program.read g >>= f) :=
  .bind (.read g) hf
theorem Keeps.update {g : σ → σ} (h : ∀ s, F.rel s (g s)) : Keeps F (Program.update g) := h

theorem Keeps.ite {c : Prop} [Decidable c] {m m' : StateM σ α} (hm : Keeps F m)
    (hm' : Keeps F m') : Keeps F (if c then m else m') := by
  split
  · exact hm
  · exact hm'

theorem Keeps.whenever {c : Prop} [Decidable c] {m : StateM σ Unit} (hm : Keeps F m) :
    Keeps F (Program.whenever c m) := .ite hm (.pure _)

theorem Keeps.forM {l : List β} {g : β → StateM σ PUnit} (h : ∀ b, Keeps F (g b)) :
    Keeps F (l.forM g) := by
  induction l with
  | nil => exact .pure _
  | cons b l ih => exact .bind (h b) fun _ => ih

theorem Keeps.mono (h : Keeps F m) (himp : ∀ s t, F.rel s t → G.rel s t) : Keeps G m :=
  fun s => himp _ _ (h s)
end

/-- Started in `s`, the program ends with a value and a state that satisfy `Q`. -/
def Ends (m : StateM σ α) (Q : α → σ → Prop) (s : σ) : Prop := Q (m s).1 (m s).2

section
variable {F : Frame σ} {m : StateM σ α} {f : α → StateM σ β} {Q Q' : α → σ → Prop}
  {P : β → σ → Prop} {s : σ}

theorem Ends.pure {a : α} (h : Q a s) : Ends (Pure.pure a) Q s := h
theorem Ends.bind (h : Ends m (fun a => Ends (f a) P) s) : Ends (m >>= f) P s := h
theorem Ends.read {g : σ → α} (h : Q (g s) s) : Ends (Program.read g) Q s := h
theorem Ends.read_bind {g : σ → α} (h : Ends (f (g s)) P s) : Ends (Program.read g >>= f) P s := h
theorem Ends.update {g : σ → σ} {Q : Unit → σ → Prop} (h : Q () (g s)) :
    Ends (Program.update g) Q s := h
theorem Ends.mono (h : Ends m Q s) (himp : ∀ a t, Q a t → Q' a t) : Ends m Q' s := himp _ _ h
theorem Ends.of_forall (h : ∀ a t, Q a t) : Ends m Q s := h _ _
theorem Keeps.ends (hm : Keeps F m) (h : ∀ a t, F.rel s t → Q a t) : Ends m Q s := h _ _ (hm s)

theorem Ends.forM {l : List β} {g : β → StateM σ PUnit} {I : List β → σ → Prop}
    (hstep : ∀ b l s, I (b :: l) s → Ends (g b) (fun _ => I l) s) (h : I l s) :
    Ends (l.forM g) (fun _ => I []) s := by
  induction l generalizing s with
  | nil => exact h
  | cons b l ih => exact .bind (.mono (hstep b l s h) fun _ _ hrest => ih hrest)

theorem Keeps.of_ends (h : ∀ s, Ends m (fun _ t => F.rel s t) s) : Keeps F m := h
end
end LinDeX.Program
