import Mathlib.Data.List.Basic

/-!
# Writes into a buffer

A buffer of fixed size with arbitrary content is filled by writes at offsets. Writes that fill
adjacent ranges compose.
-/
namespace LinDeX.Buffer
open List
variable {α : Type}
structure Write (α : Type) where
  offset : Nat
  data : List α

def Write.apply (buffer : List α) (w : Write α) : List α :=
  buffer.take w.offset ++ w.data ++ buffer.drop (w.offset + w.data.length)
def store (buffer : List α) (writes : List (Write α)) : List α := writes.foldl Write.apply buffer

/-- The writes put `data` at `offset` and touch nothing else. -/
structure Fills (writes : List (Write α)) (offset : Nat) (data : List α) : Prop where
  inside : ∀ w ∈ writes, offset ≤ w.offset ∧ w.offset + w.data.length ≤ offset + data.length
  store : ∀ buffer : List α, offset + data.length ≤ buffer.length →
    store buffer writes = Write.apply buffer ⟨offset,data⟩

theorem Write.length_apply {buffer : List α} {w : Write α}
    (h : w.offset + w.data.length ≤ buffer.length) : (w.apply buffer).length = buffer.length := by
  simp only [Write.apply,length_append,length_take,length_drop]
  omega

theorem Fills.nil (offset : Nat) : Fills ([] : List (Write α)) offset [] where
  inside := nofun
  store := fun buffer _ => by simp [Buffer.store,Write.apply]

theorem Fills.single (offset : Nat) (data : List α) : Fills [⟨offset,data⟩] offset data where
  inside := fun w hw => by
    rw [mem_singleton.mp hw]
    exact ⟨Nat.le_refl _,Nat.le_refl _⟩
  store := fun _ _ => rfl

theorem Fills.append {writes writes' : List (Write α)} {offset : Nat} {data data' : List α}
    (h : Fills writes offset data) (h' : Fills writes' (offset + data.length) data') :
    Fills (writes ++ writes') offset (data ++ data') where
  inside := fun w hw => by
    rw [length_append]
    rcases mem_append.mp hw with hw | hw
    · have := h.inside w hw
      omega
    · have := h'.inside w hw
      omega
  store := fun buffer hroom => by
    rw [length_append] at hroom
    have hfirst : offset + data.length ≤ buffer.length := by omega
    have hlength := @Write.length_apply _ buffer ⟨offset,data⟩ hfirst
    rw [Buffer.store,List.foldl_append]
    change Buffer.store (Buffer.store buffer writes) writes' = _
    rw [h.store buffer hfirst,h'.store _ (by rw [hlength]; omega)]
    have hfront : (buffer.take offset ++ data).length = offset + data.length := by
      rw [length_append,length_take]
      omega
    have htake : (buffer.take offset ++ data ++ buffer.drop (offset + data.length)).take
        (offset + data.length) = buffer.take offset ++ data := by
      rw [← hfront,take_left]
    have hdrop : (buffer.take offset ++ data ++ buffer.drop (offset + data.length)).drop
        (offset + data.length + data'.length) = buffer.drop (offset + (data ++ data').length) := by
      rw [← hfront,drop_length_add_append,drop_drop,hfront,length_append,Nat.add_assoc]
    unfold Write.apply
    rw [htake,hdrop,append_assoc (buffer.take offset) data]

theorem Fills.whole {writes : List (Write α)} {buffer data : List α} (h : Fills writes 0 data)
    (hlength : data.length = buffer.length) : Buffer.store buffer writes = data := by
  rw [h.store buffer (by omega)]
  simp [Write.apply,hlength]
end LinDeX.Buffer
