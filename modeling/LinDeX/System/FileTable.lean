import LinDeX.System.Files

/-!
# A kernel with a table of files

The smallest kernel that keeps files: descriptors are positions in a table, reads come four bytes
at a time, and everything that is not about files succeeds.
-/
namespace LinDeX
open Bytes List
/-- Open files, none of them larger than `off_t` can say. -/
structure FileTable where
  files : List File
  bounded : ∀ f ∈ files, f.content.length ≤ int64Max.toNat

namespace FileTable
def file (t : FileTable) (fd : Fd) : Option File := if 0 ≤ fd then t.files[fd.toNat]? else none

theorem file_mem {t : FileTable} {fd : Fd} {f : File} (h : t.file fd = some f) : f ∈ t.files := by
  unfold file at h
  split at h
  · exact mem_of_getElem? h
  · cases h

def set (t : FileTable) (fd : Fd) (f : File) (hf : f.content.length ≤ int64Max.toNat) : FileTable where
  files := t.files.set fd.toNat f
  bounded := fun g hg => by
    rcases mem_or_eq_of_mem_set hg with hg | rfl
    · exact t.bounded g hg
    · exact hf

theorem file_set {t : FileTable} {fd : Fd} {f g : File} {hf : f.content.length ≤ int64Max.toNat}
    (h : t.file fd = some g) : (t.set fd f hf).file fd = some f := by
  unfold file set at *
  split at h
  · rename_i hfd
    have hlt : fd.toNat < t.files.length := (List.getElem?_eq_some_iff.mp h).1
    rw [if_pos hfd,List.getElem?_set_self hlt]
  · cases h

def add (t : FileTable) (f : File) (hf : f.content.length ≤ int64Max.toNat) : FileTable where
  files := t.files ++ [f]
  bounded := fun g hg => by
    rcases mem_append.mp hg with hg | hg
    · exact t.bounded g hg
    · rw [mem_singleton.mp hg]
      exact hf

theorem file_add (t : FileTable) (f : File) (hf : f.content.length ≤ int64Max.toNat) :
    (t.add f hf).file t.files.length = some f := by
  simp [file,add]
end FileTable

/-- The content of a file after `ftruncate`. -/
def truncated (content : List UInt8) (size : Nat) : List UInt8 :=
  content.take size ++ zeros (size - content.length)

theorem truncated_length (content : List UInt8) (size : Nat) :
    (truncated content size).length = size := by
  simp only [truncated,zeros,length_append,length_take,length_replicate]
  omega

def tableOs : Os FileTable where
  dup w fd := (w, .ok fd.toNat)
  close w _ := w
  cloexec _ _ := true
  syncFileInfo _ _ := true
  memfdCreate w := (w.add ⟨[],0⟩ (Nat.zero_le _), some w.files.length)
  ftruncate w fd size :=
    match w.file fd with
    | none => (w, false)
    | some f =>
      if hsize : size ≤ int64Max.toNat then
        (w.set fd { f with content := truncated f.content size }
          (by rw [truncated_length]; exact hsize), true)
      else (w, false)
  pwrite w fd data offset :=
    match hfile : w.file fd with
    | none => (w, 0)
    | some f =>
      if hroom : offset + data.length ≤ f.content.length then
        (w.set fd { f with content := Buffer.Write.apply f.content ⟨offset,data⟩ }
          (by rw [Buffer.Write.length_apply hroom]
              exact w.bounded f (FileTable.file_mem hfile)), data.length)
      else (w, 0)
  addSeals w fd :=
    match hfile : w.file fd with
    | none => (w, false)
    | some f =>
      (w.set fd { f with seals := f.seals ||| outputSeals }
        (w.bounded f (FileTable.file_mem hfile)), true)
  fstat w fd := (w.file fd).map fun f => ⟨true,f.content.length⟩
  getSeals w fd := (w.file fd).map File.seals
  pread w fd size offset :=
    (w, match w.file fd with
      | none => []
      | some f => ((f.content.drop offset).take size).take 4)
  malloc w _ := (w, true)
  callocRegistry w := (w, .ok ())
  sendMessage w _ := (w, true)

def tableFiles : tableOs.Files where
  file := FileTable.file
  size_le := fun {w _ f} h => w.bounded f (FileTable.file_mem h)
  isFile := fun {w fd seals} h => by
    obtain ⟨f,hf, -⟩ := Option.map_eq_some_iff.mp h
    exact ⟨f,hf⟩
  fstat := fun h => by simp [tableOs,h]
  getSeals := fun h => by simp [tableOs,h]
  malloc := fun _ _ => rfl
  pread := fun {w fd f} size offset h hsize hoffset => by
    have hread : tableOs.pread w fd size offset =
        (w, ((f.content.drop offset).take size).take 4) := by
      simp only [tableOs,h]
    rw [hread]
    refine ⟨fun hnil => ?_,?_,rfl⟩
    · have hlength := congrArg List.length hnil
      simp only [length_take,length_drop,length_nil] at hlength
      omega
    · exact take_prefix _ _
  memfdCreate := fun {w w' fd} h => by
    simp only [tableOs,Prod.mk.injEq,Option.some.injEq] at h
    rw [← h.1,← h.2]
    exact w.file_add _ _
  ftruncate := fun {w fd f w'} size h hok => by
    simp only [tableOs,h] at hok
    split at hok
    · cases hok
      exact FileTable.file_set h
    · cases hok
  pwrite := fun {w fd f} data offset h => by
    dsimp only [tableOs]
    split
    · rename_i hnone
      rw [h] at hnone
      cases hnone
    · rename_i g hg
      obtain rfl : f = g := Option.some.inj (h.symm.trans hg)
      split
      · refine ⟨Nat.le_refl _,fun hroom => ?_⟩
        rw [take_length]
        refine @FileTable.file_set w fd _ f ?_ h
        rw [Buffer.Write.length_apply hroom]
        exact w.bounded f (FileTable.file_mem h)
      · rename_i hroom
        exact ⟨Nat.zero_le _,fun hfits => absurd hfits hroom⟩
  addSeals := fun {w fd f w'} h hok => by
    dsimp only [tableOs] at hok
    split at hok
    · cases hok
    · rename_i g hg
      obtain rfl : f = g := Option.some.inj (h.symm.trans hg)
      cases hok
      exact FileTable.file_set h
end LinDeX
