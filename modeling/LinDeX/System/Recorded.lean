import LinDeX.System.Kernel

/-!
# A kernel that writes down its calls

The same answers as another kernel gives, with a record of the descriptors that were opened and
closed on the way. A log that a program writes itself is compared with this record.
-/
namespace LinDeX
variable {ω ρ α : Type}
inductive Note where
  | opened (fd : Fd)
  | closed (fd : Fd)
  /-- A descriptor was handed to the backend. -/
  | given (fd : Fd)
  | dequeued (token : UInt64)
  | released (token : UInt64)
  /-- A native buffer was sent to the client. -/
  | sent
  deriving DecidableEq, Repr

/-- The result of a call that is not written down. -/
@[simp] def unnoted (l : ρ) (r : ω × α) : (ω × ρ) × α := ((r.1, l), r.2)

@[simp] def noted (l : List Note) (r : ω × α) (notes : List Note) : (ω × List Note) × α :=
  ((r.1, l ++ notes), r.2)

/-- What is written down of a descriptor that may be missing. -/
@[simp] def fdNote (note : Fd → Note) (fd : Fd) : List Note := if 0 ≤ fd then [note fd] else []

@[simp] def openedNote : Except Errno Nat → List Note
  | .error _ => []
  | .ok fd => [.opened fd]

/-- A kernel beside a record, which it leaves alone. -/
def Os.beside (os : Os ω) : Os (ω × ρ) where
  dup w fd := unnoted w.2 (os.dup w.1 fd)
  close w fd := (os.close w.1 fd, w.2)
  cloexec w := os.cloexec w.1
  syncFileInfo w := os.syncFileInfo w.1
  memfdCreate w := unnoted w.2 (os.memfdCreate w.1)
  ftruncate w fd size := unnoted w.2 (os.ftruncate w.1 fd size)
  pwrite w fd data offset := unnoted w.2 (os.pwrite w.1 fd data offset)
  addSeals w fd := unnoted w.2 (os.addSeals w.1 fd)
  fstat w := os.fstat w.1
  getSeals w := os.getSeals w.1
  pread w fd size offset := unnoted w.2 (os.pread w.1 fd size offset)
  malloc w size := unnoted w.2 (os.malloc w.1 size)
  callocRegistry w := unnoted w.2 (os.callocRegistry w.1)
  sendMessage w message := unnoted w.2 (os.sendMessage w.1 message)

def Os.recorded (os : Os ω) : Os (ω × List Note) :=
  { os.beside with
    dup := fun w fd => noted w.2 (os.dup w.1 fd) (openedNote (os.dup w.1 fd).2)
    close := fun w fd => (os.close w.1 fd, w.2 ++ [.closed fd])
    memfdCreate := fun w => noted w.2 (os.memfdCreate w.1)
      ((os.memfdCreate w.1).2.elim [] fun fd => [.opened fd]) }

/-- What an entry of a log says was called. -/
@[simp] def FdEvent.notes : FdEvent → List Note
  | .gain _ fd => [.opened fd]
  | .close _ fd => [.closed fd]
  | .give _ fd => [.given fd]
  | .reply .. | .drop .. => []

def fdNotes (events : List FdEvent) : List Note := events.flatMap FdEvent.notes
variable {os : Os ω} {w : ω} {l : List Note} {fd : Fd} {src : FdSource}
section
variable (fd : Fd)
@[simp] theorem recorded_cloexec : os.recorded.cloexec (w, l) = os.cloexec w := rfl

@[simp] theorem recorded_syncFileValidate :
    os.recorded.syncFileValidate (w, l) = os.syncFileValidate w := rfl

@[simp] theorem recorded_dup : os.recorded.dup (w, l) fd =
    noted l (os.dup w fd) (openedNote (os.dup w fd).2) := rfl

@[simp] theorem recorded_close :
    os.recorded.close (w, l) fd = (os.close w fd, l ++ [.closed fd]) := rfl

@[simp] theorem recorded_memfdCreate : os.recorded.memfdCreate (w, l) =
    noted l (os.memfdCreate w) ((os.memfdCreate w).2.elim [] fun fd => [.opened fd]) := rfl

@[simp] theorem recorded_ftruncate (size : Nat) :
    os.recorded.ftruncate (w, l) fd size = unnoted l (os.ftruncate w fd size) := rfl

@[simp] theorem recorded_pwrite (data : List UInt8) (offset : Nat) :
    os.recorded.pwrite (w, l) fd data offset = unnoted l (os.pwrite w fd data offset) := rfl

@[simp] theorem recorded_addSeals :
    os.recorded.addSeals (w, l) fd = unnoted l (os.addSeals w fd) := rfl

@[simp] theorem recorded_pread (size offset : Nat) :
    os.recorded.pread (w, l) fd size offset = unnoted l (os.pread w fd size offset) := rfl

@[simp] theorem recorded_malloc (size : Nat) :
    os.recorded.malloc (w, l) size = unnoted l (os.malloc w size) := rfl
end

@[simp] theorem recorded_closeIfOpen :
    os.recorded.closeIfOpen (w, l) fd = (os.closeIfOpen w fd, l ++ fdNote .closed fd) := by
  unfold Os.closeIfOpen fdNote
  split
  · rfl
  · rw [List.append_nil]

@[simp] theorem recorded_closeAll (fds : List Fd) :
    fds.foldl os.recorded.close (w, l) = (fds.foldl os.close w, l ++ fds.map .closed) := by
  induction fds generalizing w l with
  | nil => exact congrArg _ (List.append_nil l).symm
  | cons fd fds ih =>
    rw [List.foldl_cons,List.foldl_cons,List.map_cons,← List.singleton_append,← List.append_assoc]
    exact ih

/-- A loop whose rounds are written down. -/
theorem foldl_noted {ι σ : Type} {f : ω × σ → ι → ω × σ}
    {f' : (ω × List Note) × σ → ι → (ω × List Note) × σ} (notes : σ → List Note)
    (h : ∀ acc i, f' (noted l acc (notes acc.2)) i = noted l (f acc i) (notes (f acc i).2))
    {s : σ} (hs : notes s = []) (is : List ι) : is.foldl f' ((w, l), s) =
      noted l (is.foldl f (w, s)) (notes (is.foldl f (w, s)).2) := by
  have hinit : ((w, l), s) = noted l (w, s) (notes s) := by rw [hs,noted,List.append_nil]
  rw [hinit]
  exact List.foldl_hom (fun acc => noted l acc (notes acc.2)) h

@[simp] theorem fdNotes_nil : fdNotes [] = [] := rfl

@[simp] theorem fdNotes_cons (x : FdEvent) (events : List FdEvent) :
    fdNotes (x :: events) = x.notes ++ fdNotes events := List.flatMap_cons

@[simp] theorem fdNotes_append (events later : List FdEvent) :
    fdNotes (events ++ later) = fdNotes events ++ fdNotes later := List.flatMap_append

@[simp] theorem fdNotes_fdEvent (event : FdSource → Fd → FdEvent) :
    fdNotes (fdEvent event src fd) = if 0 ≤ fd then (event src fd).notes else [] := by
  unfold fdEvent
  split
  · exact List.append_nil _
  · rfl

theorem fdNotes_map (event : FdSource → Fd → FdEvent) (fds : List Fd) :
    fdNotes (fds.map (event src)) = fds.flatMap fun fd => (event src fd).notes :=
  List.flatMap_map ..
end LinDeX
