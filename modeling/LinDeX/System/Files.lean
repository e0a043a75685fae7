import LinDeX.System.Kernel
import LinDeX.Library.Buffer

/-!
# Files behind descriptors

A descriptor of a regular file in memory stands for that file, whatever its number, and a
descriptor that is sent arrives as another descriptor of the same file.
-/
namespace LinDeX
open Bytes
variable {ω ω' : Type}
structure File where
  content : List UInt8
  seals : UInt32
  deriving DecidableEq, Repr

/-- `F_SEAL_SHRINK | F_SEAL_GROW | F_SEAL_WRITE`, which keep the content of a file as it is. -/
def contentSeals : UInt32 := 14

/-- `F_ADD_SEALS` of `create_sealed_output`: these three and `F_SEAL_SEAL`. -/
def outputSeals : UInt32 := 15

def File.Sealed (f : File) : Prop := f.seals &&& contentSeals = contentSeals

/-- A kernel that answers about descriptors from the files behind them. Reads may be short, but
make progress inside the file; calls may fail, and change nothing else when they succeed. -/
structure Os.Files (os : Os ω) where
  file : ω → Fd → Option File
  size_le : ∀ {w fd f}, file w fd = some f → f.content.length ≤ int64Max.toNat
  /-- Only files in memory have seals. -/
  isFile : ∀ {w fd seals}, os.getSeals w fd = some seals → ∃ f, file w fd = some f
  fstat : ∀ {w fd f}, file w fd = some f → os.fstat w fd = some ⟨true,f.content.length⟩
  getSeals : ∀ {w fd f}, file w fd = some f → os.getSeals w fd = some f.seals
  malloc : ∀ w size, file (os.malloc w size).1 = file w
  pread : ∀ {w fd f} (size offset : Nat), file w fd = some f → 0 < size →
    offset < f.content.length → (os.pread w fd size offset).2 ≠ [] ∧
      (os.pread w fd size offset).2 <+: (f.content.drop offset).take size ∧
      file (os.pread w fd size offset).1 = file w
  memfdCreate : ∀ {w w' fd}, os.memfdCreate w = (w', some fd) → file w' fd = some ⟨[],0⟩
  ftruncate : ∀ {w fd f w'} (size : Nat), file w fd = some f →
    os.ftruncate w fd size = (w', true) →
      file w' fd = some { f with content := f.content.take size ++ zeros (size - f.content.length) }
  pwrite : ∀ {w fd f} (data : List UInt8) (offset : Nat), file w fd = some f →
    (os.pwrite w fd data offset).2 ≤ data.length ∧ (offset + data.length ≤ f.content.length →
      file (os.pwrite w fd data offset).1 fd = some { f with
        content := Buffer.Write.apply f.content
          ⟨offset,data.take (os.pwrite w fd data offset).2⟩ })
  addSeals : ∀ {w fd f w'}, file w fd = some f → os.addSeals w fd = (w', true) →
    file w' fd = some { f with seals := f.seals ||| outputSeals }

/-- Descriptors that were sent by one process in `w` and received by another in `w'`. What arrives
is open, new and close-on-exec, stands for the same file, and is a sync file if that was one. -/
structure Passed {os : Os ω} (k : os.Files) (w : ω) {os' : Os ω'} (k' : os'.Files) (w' : ω')
    (sent : List Fd) (received : List Nat) : Prop where
  length : received.length = sent.length
  nodup : received.Nodup
  cloexec : ∀ fd ∈ received, os'.cloexec w' fd = true
  file : ∀ p ∈ sent.zip received, k'.file w' p.2 = k.file w p.1
  syncFile : ∀ p ∈ sent.zip received, os.syncFileInfo w p.1 = true →
    os'.syncFileInfo w' p.2 = true
end LinDeX
