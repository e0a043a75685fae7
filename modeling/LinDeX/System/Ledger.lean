import LinDeX.Library.Run
import LinDeX.Library.Slots
import LinDeX.System.Kernel

/-!
# A ledger of descriptors

Every descriptor the broker comes to own is entered when it is gained and struck out when it is
closed, put into a reply or given away. One that is dropped is never struck out.
-/
namespace LinDeX
/-- A descriptor with its provenance; the same number may be live more than once over time. -/
abbrev Holding := Multiset (FdSource × Fd)

def holding (src : FdSource) (fd : Fd) : Holding := if 0 ≤ fd then {(src, fd)} else 0

def FdEvent.gained : FdEvent → Holding
  | .gain src fd => {(src, fd)}
  | _ => 0

def FdEvent.settled : FdEvent → Holding
  | .close src fd => {(src, fd)}
  | .reply src fd => {(src, fd)}
  | .give src fd => {(src, fd)}
  | _ => 0

def FdEvent.dropped : FdEvent → Holding
  | .drop src fd => {(src, fd)}
  | _ => 0

/-- Descriptors go where descriptors of their kind may go: no fence of the backend is given away,
no fence of the client is sent back, and only the fence of an output is ever lost. -/
def FdEvent.isOrderly : FdEvent → Bool
  | .gain _ _ | .close _ _ => true
  | .reply src _ => src != .ahbAcquire
  | .give src _ => !src.fromBackend
  | .drop src _ => src == .outputFence

def FdEvent.isSafe : FdEvent → Bool
  | .drop _ _ => false
  | event => event.isOrderly

def FdEvent.isPlain : FdEvent → Bool
  | .reply _ _ => false
  | event => event.isSafe

def gainedBy (events : List FdEvent) : Holding := Run.weight FdEvent.gained events
def settledBy (events : List FdEvent) : Holding := Run.weight FdEvent.settled events
def droppedBy (events : List FdEvent) : Holding := Run.weight FdEvent.dropped events
def Safe (events : List FdEvent) : Prop := ∀ ev ∈ events, ev.isSafe = true
def Plain (events : List FdEvent) : Prop := ∀ ev ∈ events, ev.isPlain = true

theorem FdEvent.isOrderly_of_isSafe {ev : FdEvent} (h : ev.isSafe = true) :
    ev.isOrderly = true := by
  cases ev <;> first | exact h | cases h

theorem Plain.safe {events : List FdEvent} (h : Plain events) : Safe events := by
  intro ev hev
  have hplain := h ev hev
  cases ev <;> first | rfl | exact hplain | cases hplain

theorem Safe.append {xs ys : List FdEvent} (hx : Safe xs) (hy : Safe ys) : Safe (xs ++ ys) :=
  fun ev hev => (List.mem_append.mp hev).elim (hx ev) (hy ev)

theorem Safe.map {event : Fd → FdEvent} (h : ∀ fd, (event fd).isSafe = true) (fds : List Fd) :
    Safe (fds.map event) := by
  intro ev hev
  obtain ⟨fd, -,rfl⟩ := List.mem_map.mp hev
  exact h fd
variable {event : FdSource → Fd → FdEvent}
theorem Safe.fdEvent {src : FdSource} {fd : Fd}
    (h : (event src fd).isSafe = true) : Safe (fdEvent event src fd) := by
  unfold LinDeX.fdEvent
  split
  · intro ev hev
    rwa [List.mem_singleton.mp hev]
  · exact fun _ hev => absurd hev List.not_mem_nil

theorem Safe.droppedBy {events : List FdEvent} (h : Safe events) : droppedBy events = 0 := by
  apply Run.weight_eq_zero
  intro ev hev
  have hsafe := h ev hev
  cases ev <;> first | rfl | cases hsafe

theorem Plain.nil : Plain [] := fun _ h => absurd h List.not_mem_nil
theorem Plain.append {xs ys : List FdEvent} (hx : Plain xs) (hy : Plain ys) : Plain (xs ++ ys) :=
  fun ev hev => (List.mem_append.mp hev).elim (hx ev) (hy ev)

theorem Plain.map {event : Fd → FdEvent} (h : ∀ fd, (event fd).isPlain = true) (fds : List Fd) :
    Plain (fds.map event) := by
  intro ev hev
  obtain ⟨fd, -,rfl⟩ := List.mem_map.mp hev
  exact h fd

theorem Plain.fdEvent {src : FdSource} {fd : Fd}
    (h : (event src fd).isPlain = true) : Plain (fdEvent event src fd) := by
  unfold LinDeX.fdEvent
  split
  · intro ev hev
    rwa [List.mem_singleton.mp hev]
  · exact Plain.nil


@[simp] theorem gainedBy_nil : gainedBy [] = 0 := rfl
@[simp] theorem settledBy_nil : settledBy [] = 0 := rfl
variable (xs ys : List FdEvent)
@[simp] theorem gainedBy_append :
    gainedBy (xs ++ ys) = gainedBy xs + gainedBy ys := Run.weight_append _ xs ys
@[simp] theorem settledBy_append :
    settledBy (xs ++ ys) = settledBy xs + settledBy ys := Run.weight_append _ xs ys
@[simp] theorem droppedBy_nil : droppedBy [] = 0 := rfl
@[simp] theorem droppedBy_append :
    droppedBy (xs ++ ys) = droppedBy xs + droppedBy ys := Run.weight_append _ xs ys
variable (src : FdSource)
@[simp] theorem holding_neg_one : holding src (-1) = 0 := rfl
theorem holding_of_neg {fd : Fd} (h : fd < 0) : holding src fd = 0 :=
  if_neg (Int.not_le.mpr h)

@[simp] theorem holding_natCast (fd : Nat) :
    holding src (fd : Int) = {(src, (fd : Int))} := by
  simp [holding]
variable (fd : Fd)
@[simp] theorem gainedBy_fdEvent_gain :
    gainedBy (fdEvent .gain src fd) = holding src fd := by
  unfold fdEvent holding
  split <;> simp [gainedBy,FdEvent.gained]

@[simp] theorem settledBy_fdEvent_gain :
    settledBy (fdEvent .gain src fd) = 0 := by
  unfold fdEvent
  split <;> simp [settledBy,FdEvent.settled]

def Settles (event : FdSource → Fd → FdEvent) : Prop :=
  ∀ src fd, (event src fd).gained = 0 ∧ (event src fd).settled = {(src, fd)}
theorem settles_close : Settles .close := fun _ _ => ⟨rfl,rfl⟩
theorem settles_reply : Settles .reply := fun _ _ => ⟨rfl,rfl⟩
theorem settles_give : Settles .give := fun _ _ => ⟨rfl,rfl⟩

theorem Settles.gainedBy (h : Settles event) (src : FdSource)
    (fd : Fd) : gainedBy (fdEvent event src fd) = 0 := by
  unfold fdEvent
  split <;> simp [LinDeX.gainedBy,(h src fd).1]

theorem Settles.settledBy (h : Settles event) (src : FdSource)
    (fd : Fd) : settledBy (fdEvent event src fd) = holding src fd := by
  unfold fdEvent holding
  split <;> simp [LinDeX.settledBy,(h src fd).2]

@[simp] theorem gainedBy_fdEvent_close :
    gainedBy (fdEvent .close src fd) = 0 := settles_close.gainedBy src fd
@[simp] theorem settledBy_fdEvent_close :
    settledBy (fdEvent .close src fd) = holding src fd := settles_close.settledBy src fd
@[simp] theorem gainedBy_fdEvent_reply :
    gainedBy (fdEvent .reply src fd) = 0 := settles_reply.gainedBy src fd
@[simp] theorem settledBy_fdEvent_reply :
    settledBy (fdEvent .reply src fd) = holding src fd := settles_reply.settledBy src fd
@[simp] theorem gainedBy_fdEvent_give :
    gainedBy (fdEvent .give src fd) = 0 := settles_give.gainedBy src fd
@[simp] theorem settledBy_fdEvent_give :
    settledBy (fdEvent .give src fd) = holding src fd := settles_give.settledBy src fd
@[simp] theorem droppedBy_fdEvent_gain :
    droppedBy (fdEvent .gain src fd) = 0 := (Safe.fdEvent rfl).droppedBy
@[simp] theorem droppedBy_fdEvent_close :
    droppedBy (fdEvent .close src fd) = 0 := (Safe.fdEvent rfl).droppedBy

@[simp] theorem droppedBy_fdEvent_give :
    droppedBy (fdEvent .give src fd) = 0 := by
  unfold fdEvent
  split <;> rfl

@[simp] theorem droppedBy_fdEvent_reply :
    droppedBy (fdEvent .reply src fd) = 0 := by
  unfold fdEvent
  split <;> rfl

@[simp] theorem gainedBy_fdEvent_drop :
    gainedBy (fdEvent .drop src fd) = 0 := by
  unfold fdEvent
  split <;> rfl

@[simp] theorem settledBy_fdEvent_drop :
    settledBy (fdEvent .drop src fd) = 0 := by
  unfold fdEvent
  split <;> rfl

@[simp] theorem droppedBy_fdEvent_drop :
    droppedBy (fdEvent .drop src fd) = holding src fd := by
  unfold fdEvent holding
  split <;> simp [droppedBy,FdEvent.dropped]

def holdings (src : FdSource) (fds : List Fd) : Holding := (fds : Multiset Fd).map (Prod.mk src)
@[simp] theorem holdings_nil : holdings src [] = 0 := rfl

@[simp] theorem holdings_cons (fds : List Fd) :
    holdings src (fd :: fds) = {(src, fd)} + holdings src fds := by
  rw [holdings,← Multiset.cons_coe,Multiset.map_cons,Multiset.singleton_add,holdings]

theorem gainedBy_map_gain (fds : List Fd) :
    gainedBy (fds.map (FdEvent.gain src)) = holdings src fds ∧
    settledBy (fds.map (FdEvent.gain src)) = 0 := by
  induction fds with
  | nil => exact ⟨rfl,rfl⟩
  | cons fd fds ih =>
    obtain ⟨hg,hs⟩ := ih
    constructor
    · rw [holdings_cons,← hg]
      exact Run.weight_cons _ _ _
    · rw [← hs]
      exact (Run.weight_cons _ _ _).trans (zero_add _)

theorem Settles.map (h : Settles event) (src : FdSource)
    (fds : List Fd) : LinDeX.gainedBy (fds.map (event src)) = 0 ∧
    LinDeX.settledBy (fds.map (event src)) = holdings src fds := by
  induction fds with
  | nil => exact ⟨rfl,rfl⟩
  | cons fd fds ih =>
    obtain ⟨hg,hs⟩ := ih
    constructor
    · apply (Run.weight_cons _ _ _).trans
      rw [(h src fd).1,zero_add]
      exact hg
    · apply (Run.weight_cons _ _ _).trans
      rw [(h src fd).2,holdings_cons,← hs]
      rfl

/-- Events that strike out what they enter, send nothing and lose nothing. -/
structure Balanced (events : List FdEvent) : Prop where
  balance : gainedBy events = settledBy events
  plain : Plain events

theorem Balanced.nil : Balanced [] := ⟨rfl,Plain.nil⟩

theorem Balanced.gain_then (h : Settles event)
    {src : FdSource} {fd : Fd} (hplain : (event src fd).isPlain = true) :
    Balanced (fdEvent .gain src fd ++ fdEvent event src fd) := by
  refine ⟨?_,(Plain.fdEvent rfl).append (Plain.fdEvent hplain)⟩
  rw [gainedBy_append,settledBy_append,gainedBy_fdEvent_gain,settledBy_fdEvent_gain,h.gainedBy,
    h.settledBy,add_zero,zero_add]
end LinDeX
