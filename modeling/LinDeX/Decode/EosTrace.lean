import Mathlib.Logic.Relation
import LinDeX.Decode.Eos
import LinDeX.Library.Record
import LinDeX.Library.Run

/-!
# The life of the end-of-stream machine

Every sequence of signal and progress calls over callbacks that answer as they like, run with a
record of their answers.
-/
namespace LinDeX.Decode
open Program Records
inductive EosEvent where
  | signalled (io : IoResult)
  | dequeued (io : IoResult) (output : EosOutput)
  | handled (output : EosOutput) (io : IoResult)
  | released (output : EosOutput) (io : IoResult)
  | marked
  deriving DecidableEq, Repr
variable {σ : Type}
def EosOps.logged (ops : EosOps σ) : EosOps (σ × List EosEvent) where
  trySignal := record ops.trySignal .signalled
  tryDequeue := record ops.tryDequeue fun dequeued => .dequeued dequeued.1 dequeued.2
  handleFrame output := record (ops.handleFrame output) (.handled output)
  releaseOutput output := record (ops.releaseOutput output) (.released output)
  markRemainingPendingFailed := record ops.markRemainingPendingFailed fun _ => .marked

section
variable (ops : EosOps σ) (output : EosOutput)
theorem EosOps.logged_trySignal :
    Records ops.logged.trySignal ops.trySignal fun io events => events = [.signalled io] :=
  fun _ _ => ⟨_,rfl,rfl⟩

theorem EosOps.logged_tryDequeue :
    Records ops.logged.tryDequeue ops.tryDequeue fun dequeued events =>
      events = [.dequeued dequeued.1 dequeued.2] :=
  fun _ _ => ⟨_,rfl,rfl⟩

theorem EosOps.logged_handleFrame :
    Records (ops.logged.handleFrame output) (ops.handleFrame output) fun io events =>
      events = [.handled output io] :=
  fun _ _ => ⟨_,rfl,rfl⟩

theorem EosOps.logged_releaseOutput :
    Records (ops.logged.releaseOutput output) (ops.releaseOutput output) fun io events =>
      events = [.released output io] :=
  fun _ _ => ⟨_,rfl,rfl⟩

theorem EosOps.logged_markRemainingPendingFailed :
    Records ops.logged.markRemainingPendingFailed ops.markRemainingPendingFailed
      fun _ events => events = [.marked] :=
  fun _ _ => ⟨_,rfl,rfl⟩
end

inductive EosCounter where
  | outputs | frames | controls
  deriving DecidableEq, Repr

def EosState.total (state : EosState) : EosCounter → UInt64
  | .outputs => state.outputsProcessedTotal
  | .frames => state.framesProcessedTotal
  | .controls => state.controlsReleasedTotal

def EosStatus.count (status : EosStatus) : EosCounter → UInt32
  | .outputs => status.outputsProcessed
  | .frames => status.framesProcessed
  | .controls => status.controlsReleased

def EosStatus.total (status : EosStatus) : EosCounter → UInt64
  | .outputs => status.outputsProcessedTotal
  | .frames => status.framesProcessedTotal
  | .controls => status.controlsReleasedTotal

def EosReturn.reported (answer : EosReturn) (counter : EosCounter) : Nat :=
  (answer.status.map fun status => (status.count counter).toNat).getD 0

def EosEvent.counts : EosEvent → EosCounter → Bool
  | .dequeued io _, .outputs => io = .ok
  | .handled _ io, .frames => io = .ok
  | .released output io, .controls => io = .ok ∧ output.kind = .control ∧ output.flags = outputFlagEos
  | _, _ => false

def tally (events : List EosEvent) (counter : EosCounter) : Nat :=
  events.countP (·.counts counter)
@[simp] theorem tally_nil (counter : EosCounter) : tally [] counter = 0 := rfl

theorem tally_cons (e : EosEvent) (events : List EosEvent) (counter : EosCounter) :
    tally (e :: events) counter = tally events counter + if e.counts counter then 1 else 0 :=
  List.countP_cons

theorem tally_append (events later : List EosEvent) (counter : EosCounter) :
    tally (events ++ later) counter = tally events counter + tally later counter :=
  List.countP_append

inductive PhaseStep : EosPhase → EosPhase → Prop
  | request : PhaseStep .opened .signalPending
  | queue : PhaseStep .signalPending .draining
  | complete : PhaseStep .draining .complete
  | failPending : PhaseStep .signalPending .failed
  | failDraining : PhaseStep .draining .failed

abbrev Advances : EosPhase → EosPhase → Prop := Relation.ReflTransGen PhaseStep

/-- Who holds an output that was dequeued: nobody, or the machine until it hands it on. An output
is consumed by a `handle_frame` that succeeds or by a `release_output`, whatever that answers; no
other output may be handled or released, and nothing else happens while one is held. -/
def custody : Option EosOutput → EosEvent → Option (Option EosOutput)
  | none, .dequeued io output => some (if io = .ok ∧ output.bufferId ≠ 0 then some output else none)
  | none, .signalled _ => some none
  | none, .marked => some none
  | some held, .handled output io =>
    if output = held then some (if io = .ok then none else some held) else none
  | some held, .released output _ => if output = held then some none else none
  | _, _ => none

inductive EosCall where
  | signal (status : Option EosStatus)
  | progress (maxOutputs : Nat) (status : Option EosStatus)

def EosCall.maxOutputs : EosCall → Nat
  | .signal _ => 0
  | .progress maxOutputs _ => maxOutputs

def EosCall.perform (ops : EosOps σ) (state : EosState) : EosCall → StateM σ EosReturn
  | .signal status => eosStateSignal ops status state
  | .progress maxOutputs status => eosStateProgress ops status maxOutputs state

structure EosRecord where
  call : EosCall
  before : EosState
  events : List EosEvent
  answer : EosReturn

def eosStep (ops : EosOps σ) (machine : EosState × σ) (call : EosCall) :
    (EosState × σ) × List EosRecord :=
  let made := call.perform ops.logged machine.1 (machine.2, [])
  ((made.1.state, made.2.1), [⟨call,machine.1,made.2.2,made.1⟩])

def once (c : Prop) [Decidable c] : Nat := if c then 1 else 0
@[simp] theorem once_true {c : Prop} [Decidable c] (h : c) : once c = 1 := if_pos h
@[simp] theorem once_false {c : Prop} [Decidable c] (h : ¬c) : once c = 0 := if_neg h

theorem once_le {c d : Prop} [Decidable c] [Decidable d] (h : c → d) : once c ≤ once d := by
  by_cases hc : c
  · rw [once_true hc,once_true (h hc)]
  · rw [once_false hc]
    exact Nat.zero_le _

def counters (outputs frames controls : Nat) : EosCounter → Nat
  | .outputs => outputs
  | .frames => frames
  | .controls => controls

/-- What the code does from a state to its return in at most `bound` rounds, having counted
`earlier` before. -/
structure EosSegment (bound : Nat) (state : EosState) (earlier : EosCounter → Nat)
    (answer : EosReturn) (events : List EosEvent) : Prop where
  advances : Advances state.phase answer.state.phase
  consumed : Run.accepts custody none events = some none
  bounded : ∀ counter, tally events counter ≤ bound
  signals : events.count (.signalled .ok) = 0
  marks : events.count .marked = once (answer.state.phase = .complete)
  totals : ∀ counter,
    answer.state.total counter = state.total counter + UInt64.ofNat (tally events counter)
  reports : ∃ status, answer.status = some status ∧ ∀ counter,
    status.count counter = UInt32.ofNat (earlier counter + tally events counter) ∧
      status.total counter = answer.state.total counter

structure EosRound (state : EosState) (earlier : EosCounter → Nat) (round : List EosEvent)
    (state' : EosState) (earlier' : EosCounter → Nat) : Prop where
  phase : state'.phase = state.phase
  consumed : Run.accepts custody none round = some none
  bounded : ∀ counter, tally round counter ≤ 1
  signals : round.count (.signalled .ok) = 0
  marks : round.count .marked = 0
  totals : ∀ counter,
    state'.total counter = state.total counter + UInt64.ofNat (tally round counter)
  counts : ∀ counter, earlier' counter = earlier counter + tally round counter

section
variable {state state' : EosState} {earlier earlier' : EosCounter → Nat}
  {round events log : List EosEvent} {answer : EosReturn} {bound : Nat}

theorem EosRound.segment (hround : EosRound state earlier round state' earlier')
    (h : EosSegment bound state' earlier' answer events) (hlog : log = round ++ events) :
    EosSegment (bound + 1) state earlier answer log := by
  subst hlog
  refine ⟨hround.phase ▸ h.advances,?_,fun counter => ?_,?_,?_,fun counter => ?_,?_⟩
  · rw [Run.accepts_append,hround.consumed]
    exact h.consumed
  · have hfirst := hround.bounded counter
    have hrest := h.bounded counter
    rw [tally_append]
    omega
  · rw [List.count_append,hround.signals,h.signals]
  · rw [List.count_append,hround.marks,h.marks,Nat.zero_add]
  · rw [h.totals,hround.totals,tally_append,UInt64.ofNat_add,UInt64.add_assoc]
  · obtain ⟨status,hstatus,hcounts⟩ := h.reports
    refine ⟨status,hstatus,fun counter => ⟨?_,(hcounts counter).2⟩⟩
    rw [(hcounts counter).1,hround.counts,tally_append,Nat.add_assoc]
variable {status : EosStatus} {result : EosResult} {transient : UInt32}
  {outputs frames controls : Nat}

/-- The code returns: whatever the last lines did, the record of the caller is filled from the
counters and the state. -/
theorem EosSegment.returned (hphase : Advances state.phase state'.phase)
    (htotals : ∀ counter, state'.total counter = state.total counter)
    (hevents : events = if state'.phase = .complete then [.marked] else []) :
    EosSegment bound state (counters outputs frames controls)
      (eosReturn state' (some status) result transient outputs frames controls) events := by
  have hquiet : ∀ counter, tally events counter = 0 := by
    intro counter
    rw [hevents]
    split <;> cases counter <;> rfl
  refine ⟨hphase,?_,fun counter => ?_,?_,?_,fun counter => ?_,?_⟩
  · rw [hevents]
    split <;> rfl
  · rw [hquiet]
    exact Nat.zero_le _
  · rw [hevents]
    split <;> rfl
  · have hanswer : (eosReturn state' (some status) result transient outputs frames controls).state =
        state' := rfl
    rw [hevents,hanswer,once]
    split <;> rfl
  · rw [hquiet]
    exact (htotals counter).trans (UInt64.add_zero _).symm
  · refine ⟨_,rfl,fun counter => ?_⟩
    rw [hquiet]
    cases counter <;> exact ⟨rfl,rfl⟩
end

def EosPhase.Working (phase : EosPhase) : Prop := phase = .signalPending ∨ phase = .draining

theorem EosPhase.Working.fails {phase : EosPhase} (h : phase.Working) : Advances phase .failed := by
  rcases h with rfl | rfl
  · exact .single .failPending
  · exact .single .failDraining

theorem EosPhase.Working.ne_complete {phase : EosPhase} (h : phase.Working) : phase ≠ .complete := by
  rcases h with rfl | rfl <;> decide

section
variable {state : EosState} {status : EosStatus} {outputs frames controls bound : Nat}
  {result : EosResult} {transient : UInt32} {output : EosOutput} {io : IoResult}

theorem EosSegment.unchanged (h : state.phase.Working) :
    EosSegment bound state (counters outputs frames controls)
      (eosReturn state (some status) result transient outputs frames controls) [] :=
  .returned .refl (fun _ => rfl) (if_neg h.ne_complete).symm

theorem EosSegment.failed (h : state.phase.Working) :
    EosSegment bound state (counters outputs frames controls)
      (failState state (some status) outputs frames controls) [] :=
  .returned h.fails (fun counter => by cases counter <;> rfl) rfl

theorem EosSegment.completed (h : state.phase = .draining) :
    EosSegment bound state (counters outputs frames controls)
      (eosReturn { state with outputEosSeen := true, phase := .complete } (some status) .complete 0
        outputs frames controls) [.marked] :=
  .returned (h ▸ .single .complete) (fun counter => by cases counter <;> rfl) rfl

def EosState.took (state : EosState) : EosState :=
  { state with outputsProcessedTotal := state.outputsProcessedTotal + 1 }

theorem EosRound.nothing (hio : io ≠ .ok) :
    EosRound state (counters outputs frames controls) [.dequeued io output] state
      (counters outputs frames controls) := by
  have hquiet : ∀ counter, tally [.dequeued io output] counter = 0 := by
    intro counter
    cases counter <;> simp [tally,EosEvent.counts,hio]
  refine ⟨rfl,?_,fun counter => ?_,rfl,rfl,fun counter => ?_,fun counter => ?_⟩
  · simp [custody,hio]
  · rw [hquiet]
    exact Nat.zero_le _
  · rw [hquiet]
    exact (UInt64.add_zero _).symm
  · rw [hquiet,Nat.add_zero]

theorem EosRound.taken {later : List EosEvent}
    (hconsumed : Run.accepts custody none (.dequeued .ok output :: later) = some none)
    (hquiet : ∀ counter, tally later counter = 0) (hsignals : later.count (.signalled .ok) = 0)
    (hmarks : later.count .marked = 0) :
    EosRound state (counters outputs frames controls) (.dequeued .ok output :: later) state.took
      (counters (outputs + 1) frames controls) := by
  refine ⟨rfl,hconsumed,fun counter => ?_,?_,?_,fun counter => ?_,fun counter => ?_⟩
  · cases counter <;> simp [tally_cons,hquiet,EosEvent.counts]
  · simp [hsignals]
  · simp [hmarks]
  · cases counter <;> simp [tally_cons,hquiet,EosEvent.counts,EosState.total,EosState.took]
  · cases counter <;> simp [tally_cons,hquiet,EosEvent.counts,counters]

theorem EosRound.handled (hid : output.bufferId ≠ 0) :
    EosRound state (counters outputs frames controls)
      [.dequeued .ok output,.handled output .ok]
      { state.took with framesProcessedTotal := state.framesProcessedTotal + 1 }
      (counters (outputs + 1) (frames + 1) controls) := by
  refine ⟨rfl,?_,fun counter => ?_,rfl,rfl,fun counter => ?_,fun counter => ?_⟩
  · simp [custody,hid]
  · cases counter <;> simp [tally_cons,EosEvent.counts]
  · cases counter <;> simp [tally_cons,EosEvent.counts,EosState.total,EosState.took]
  · cases counter <;> simp [tally_cons,EosEvent.counts,counters]

theorem EosRound.released (hid : output.bufferId ≠ 0) (hkind : output.kind = .control)
    (hflags : output.flags = outputFlagEos) :
    EosRound state (counters outputs frames controls)
      [.dequeued .ok output,.released output .ok]
      { state.took with controlsReleasedTotal := state.controlsReleasedTotal + 1 }
      (counters (outputs + 1) frames (controls + 1)) := by
  refine ⟨rfl,?_,fun counter => ?_,rfl,rfl,fun counter => ?_,fun counter => ?_⟩
  · simp [custody,hid]
  · cases counter <;> simp [tally_cons,EosEvent.counts,hkind,hflags]
  · cases counter <;>
      simp [tally_cons,EosEvent.counts,EosState.total,EosState.took,hkind,hflags]
  · cases counter <;> simp [tally_cons,EosEvent.counts,counters,hkind,hflags]

theorem released_uncounted (h : ¬(io = .ok ∧ output.kind = .control ∧ output.flags = outputFlagEos))
    (counter : EosCounter) : tally [.released output io] counter = 0 := by
  cases counter <;> simp [tally,EosEvent.counts]
  intro hio hkind
  exact fun hflags => h ⟨hio,hkind,hflags⟩
end
variable (ops : EosOps σ) (status : EosStatus)
theorem discardAndFail_records {state : EosState} {output : EosOutput}
    {outputs frames controls bound : Nat} {earlier : EosCounter → Nat} (before : List EosEvent)
    (hid : output.bufferId ≠ 0) (hworking : state.phase.Working)
    (hround : ∀ io, EosRound state earlier (before ++ [.released output io]) state.took
      (counters outputs frames controls)) :
    Records (discardAndFail ops.logged (some status) state.took output outputs frames controls)
      (discardAndFail ops (some status) state.took output outputs frames controls)
      fun answer later => EosSegment (bound + 1) state earlier answer (before ++ later) := by
  unfold discardAndFail
  rw [if_pos hid,if_pos hid]
  refine bind_event (ops.logged_releaseOutput output) fun io => Records.pure ?_
  exact (hround io).segment (.failed (by exact hworking)) (List.append_nil _).symm

theorem completeEos_records {state state' : EosState} {outputs frames controls bound : Nat}
    {earlier : EosCounter → Nat} {round : List EosEvent} (hphase : state'.phase = .draining)
    (hround : EosRound state earlier round state' (counters outputs frames controls)) :
    Records (completeEos ops.logged (some status) state' outputs frames controls)
      (completeEos ops (some status) state' outputs frames controls)
      fun answer later => EosSegment (bound + 1) state earlier answer (round ++ later) := by
  unfold completeEos
  refine bind_event ops.logged_markRemainingPendingFailed fun _ => Records.pure ?_
  exact hround.segment (.completed hphase) rfl

theorem eosLoop_records (remaining : Nat) (state : EosState) (outputs frames controls : Nat)
    (hworking : state.phase.Working) :
    Records (eosLoop ops.logged (some status) remaining state outputs frames controls)
      (eosLoop ops (some status) remaining state outputs frames controls)
      (EosSegment remaining state (counters outputs frames controls)) := by
  induction remaining generalizing state outputs frames controls with
  | zero => exact Records.pure (.unchanged hworking)
  | succ remaining ih =>
    unfold eosLoop
    refine bind_event ops.logged_tryDequeue fun dequeued => ?_
    obtain ⟨io,output⟩ := dequeued
    have hnothing (io : IoResult) (hio : io ≠ .ok) : EosRound state
        (counters outputs frames controls) [.dequeued io output] state
        (counters outputs frames controls) := .nothing hio
    cases io with
    | retry =>
      exact Records.pure ((hnothing .retry (by decide)).segment (.unchanged hworking) rfl)
    | outputWindowFull =>
      exact Records.pure ((hnothing .outputWindowFull (by decide)).segment (.unchanged hworking) rfl)
    | fatal =>
      exact Records.pure ((hnothing .fatal (by decide)).segment (.failed hworking) rfl)
    | ok =>
      refine ite (fun hid => ?_) fun hid => ?_
      · -- an output without an id is nobody's
        have hid : output.bufferId = 0 := hid
        have hround : EosRound state (counters outputs frames controls)
            [.dequeued .ok output] state.took (counters (outputs + 1) frames controls) :=
          EosRound.taken (by simp [custody,hid]) (fun _ => rfl) rfl rfl
        exact Records.pure (hround.segment (.failed (by exact hworking)) rfl)
      have hid : output.bufferId ≠ 0 := hid
      have hdiscard : ¬(output.kind = .control ∧ output.flags = outputFlagEos) → ∀ io,
          EosRound state (counters outputs frames controls)
            ([.dequeued .ok output] ++ [.released output io]) state.took
            (counters (outputs + 1) frames controls) := by
        intro hcontrol io
        refine EosRound.taken (by simp [custody,hid]) ?_ rfl rfl
        exact released_uncounted fun h => hcontrol h.2
      cases hkind : output.kind with
      | control =>
        refine ite (fun hflags => ?_) fun hflags => ?_
        · exact discardAndFail_records ops status _ hid hworking
            (hdiscard fun h => hflags h.2)
        have hflags : output.flags = outputFlagEos := not_not.mp hflags
        refine bind_event (ops.logged_releaseOutput output) fun released => ?_
        refine ite (fun hreleased => ?_) fun hreleased => ?_
        · have hround : EosRound state (counters outputs frames controls)
              [.dequeued .ok output,.released output released] state.took
              (counters (outputs + 1) frames controls) := by
            refine EosRound.taken (by simp [custody,hid]) ?_ rfl rfl
            exact released_uncounted fun h => hreleased h.1
          exact Records.pure (hround.segment (.failed (by exact hworking)) rfl)
        obtain rfl : released = .ok := not_not.mp hreleased
        have hround : EosRound state (counters outputs frames controls) _ _ _ :=
          .released hid hkind hflags
        refine ite (fun hphase => ?_) fun hphase => ?_
        · exact Records.pure (hround.segment (.failed (by exact hworking)) rfl)
        · exact completeEos_records ops status (not_not.mp hphase) hround
      | other =>
        exact discardAndFail_records ops status _ hid hworking (hdiscard (by simp [hkind]))
      | frame =>
        have hframe := hdiscard (by simp [hkind])
        refine ite (fun _ => ?_) fun heos => ?_
        · exact discardAndFail_records ops status _ hid hworking hframe
        refine bind_event (ops.logged_handleFrame output) fun handled => ?_
        refine ite (fun hhandled => ?_) fun hhandled => ?_
        · refine discardAndFail_records ops status
            [.dequeued .ok output,.handled output handled] hid hworking fun io => ?_
          refine EosRound.taken (by simp [custody,hid,hhandled]) (fun counter => ?_) rfl rfl
          show tally [.handled output handled,.released output io] counter = 0
          rw [tally_cons,released_uncounted (by simp [hkind])]
          cases counter <;> simp [EosEvent.counts,hhandled]
        obtain rfl : handled = .ok := not_not.mp hhandled
        have hround : EosRound state (counters outputs frames controls) _ _ _ :=
          .handled hid
        refine ite (fun hlast => ?_) fun _ => ?_
        · refine completeEos_records ops status ?_ hround
          by_contra hphase
          exact heos ⟨hlast,hphase⟩
        · refine (ih _ _ _ _ (by exact hworking)).mono fun answer later h => ?_
          exact hround.segment h rfl

def EosPhase.Begun (phase : EosPhase) : Prop := phase ≠ .opened ∧ phase ≠ .signalPending
instance (phase : EosPhase) : Decidable phase.Begun :=
  inferInstanceAs (Decidable (phase ≠ .opened ∧ phase ≠ .signalPending))

theorem EosPhase.Begun.advances {phase phase' : EosPhase} (h : phase.Begun)
    (hphase : Advances phase phase') : phase'.Begun := by
  induction hphase with
  | refl => exact h
  | tail _ hstep ih =>
    cases hstep with
    | request => exact absurd rfl ih.1
    | queue => decide
    | complete => decide
    | failPending => decide
    | failDraining => decide

structure EosRecord.Orderly (r : EosRecord) : Prop where
  advances : Advances r.before.phase r.answer.state.phase
  absorbing : r.before.phase = .complete ∨ r.before.phase = .failed →
    r.events = [] ∧ r.answer.state = r.before
  consumed : Run.accepts custody none r.events = some none
  bounded : tally r.events .outputs ≤ r.call.maxOutputs
  reported : ∀ counter, r.answer.reported counter = tally r.events counter
  totals : ∀ status ∈ r.answer.status, ∀ counter,
    status.total counter = r.answer.state.total counter

structure EosRecord.Counted (r : EosRecord) : Prop where
  signals : r.events.count (.signalled .ok) + once r.before.phase.Begun ≤
    once r.answer.state.phase.Begun
  marks : r.events.count .marked + once (r.before.phase = .complete) =
    once (r.answer.state.phase = .complete)
  totals : ∀ counter,
    r.answer.state.total counter = r.before.total counter + UInt64.ofNat (tally r.events counter)

section
variable {call : EosCall} {state state' : EosState} {answer : EosReturn} {events : List EosEvent}
variable {status : Option EosStatus} {result : EosResult}
theorem EosRecord.settled {transient : UInt32}
    (hphase : Advances state.phase state'.phase)
    (habsorbing : state.phase = .complete ∨ state.phase = .failed → events = [] ∧ state' = state)
    (hevents : events = [] ∨ ∃ io, events = [.signalled io])
    (hsignals : events.count (.signalled .ok) + once state.phase.Begun ≤ once state'.phase.Begun)
    (hcomplete : state.phase = .complete ↔ state'.phase = .complete)
    (htotals : ∀ counter, state'.total counter = state.total counter) :
    let r : EosRecord := ⟨call,state,events,eosReturn state' status result transient⟩
    r.Orderly ∧ r.Counted := by
  have hquiet : ∀ counter, tally events counter = 0 := by
    intro counter
    rcases hevents with rfl | ⟨io,rfl⟩ <;> cases counter <;> rfl
  have hmarks : events.count .marked = 0 := by
    rcases hevents with rfl | ⟨io,rfl⟩ <;> rfl
  refine ⟨⟨hphase,habsorbing,?_,?_,fun counter => ?_,?_⟩,⟨hsignals,?_,fun counter => ?_⟩⟩
  · rcases hevents with rfl | ⟨io,rfl⟩ <;> rfl
  · rw [hquiet]
    exact Nat.zero_le _
  · rw [hquiet]
    cases status <;> cases counter <;> rfl
  · intro written hwritten counter
    cases status with
    | none => cases hwritten
    | some status =>
      cases hwritten
      cases counter <;> rfl
  · have hboth : once (state.phase = .complete) = once (state'.phase = .complete) := by
      simp only [once,hcomplete]
    rw [hmarks,Nat.zero_add]
    exact hboth
  · rw [hquiet]
    exact (htotals counter).trans (UInt64.add_zero _).symm

theorem EosRecord.attempted {transient : UInt32}
    {io : IoResult} (hearly : state.phase = .opened ∨ state.phase = .signalPending)
    (hphase : Advances .signalPending state'.phase) (hbegun : io = .ok → state'.phase.Begun)
    (hcomplete : state'.phase ≠ .complete)
    (htotals : ∀ counter, state'.total counter = state.total counter) :
    let r : EosRecord := ⟨call,state,[.signalled io],eosReturn state' status result transient⟩
    r.Orderly ∧ r.Counted := by
  have hpending : Advances state.phase .signalPending := by
    rcases hearly with hearly | hearly <;> rw [hearly]
    exact .single .request
  refine EosRecord.settled (hpending.trans hphase) (fun hend => ?_) (.inr ⟨io,rfl⟩) ?_ ?_ htotals
  · rcases hearly with hearly | hearly <;> rw [hearly] at hend <;> simp at hend
  · have hunbegun : ¬state.phase.Begun := by
      rcases hearly with hearly | hearly <;> rw [hearly] <;> decide
    rw [once_false hunbegun,Nat.add_zero]
    by_cases hio : io = .ok
    · rw [once_true (hbegun hio)]
      exact List.count_le_length
    · simp [hio]
  · rcases hearly with hearly | hearly <;> simp [hearly,hcomplete]

theorem EosRecord.ignored :
    let r : EosRecord := ⟨call,state,[],eosReturn state status result⟩
    r.Orderly ∧ r.Counted :=
  EosRecord.settled .refl (fun _ => ⟨rfl,rfl⟩) (.inl rfl) (Nat.zero_add _).le .rfl fun _ => rfl

theorem EosRecord.looped (call : EosCall) (hworking : state.phase.Working) {bound : Nat}
    (hbound : bound ≤ eosMaxProgressOutputs) (hcall : call.maxOutputs = bound)
    (h : EosSegment bound state (counters 0 0 0) answer events) :
    let r : EosRecord := ⟨call,state,events,answer⟩
    r.Orderly ∧ r.Counted := by
  obtain ⟨status,hstatus,hcounts⟩ := h.reports
  refine ⟨⟨h.advances,fun hend => ?_,h.consumed,hcall ▸ h.bounded _,fun counter => ?_,?_⟩,
    ⟨?_,?_,h.totals⟩⟩
  · rcases hworking with hphase | hphase <;> rw [hphase] at hend <;> simp at hend
  · have hsmall := h.bounded counter
    have hnone : counters 0 0 0 counter = 0 := by cases counter <;> rfl
    show (answer.status.map fun status => (status.count counter).toNat).getD 0 = _
    rw [hstatus,Option.map_some,Option.getD_some,(hcounts counter).1,hnone,Nat.zero_add,
      UInt32.toNat_ofNat_of_lt']
    rw [eosMaxProgressOutputs] at hbound
    simp only [UInt32.size]
    omega
  · intro written hwritten counter
    rw [hstatus] at hwritten
    cases hwritten
    exact (hcounts counter).2
  · rw [h.signals,Nat.zero_add]
    exact once_le fun hbegun => hbegun.advances h.advances
  · rw [h.marks,once_false hworking.ne_complete,Nat.add_zero]
end

/-- A call writes what its record says, and does to the callbacks' own state what it does without
a record. -/
theorem EosCall.perform_records (call : EosCall) (state : EosState) :
    Records (call.perform ops.logged state) (call.perform ops state) fun answer events =>
      let r : EosRecord := ⟨call,state,events,answer⟩
      r.Orderly ∧ r.Counted := by
  cases call with
  | signal status =>
    show Records (eosStateSignal ops.logged status state) (eosStateSignal ops status state) _
    unfold eosStateSignal
    refine ite (fun _ => Records.pure EosRecord.ignored) fun _ => ?_
    cases hphase : state.phase with
    | failed | complete | draining => exact Records.pure EosRecord.ignored
    | opened | signalPending =>
      refine bind_event ops.logged_trySignal fun io => ?_
      cases io with
      | ok =>
        exact Records.pure (EosRecord.attempted (by simp [hphase]) (.single .queue)
          (fun _ => ⟨nofun,nofun⟩) nofun fun counter => by cases counter <;> rfl)
      | retry | outputWindowFull =>
        exact Records.pure (EosRecord.attempted (by simp [hphase]) .refl
          nofun nofun fun counter => by cases counter <;> rfl)
      | fatal =>
        exact Records.pure (EosRecord.attempted (by simp [hphase]) (.single .failPending)
          nofun nofun fun counter => by cases counter <;> rfl)
  | progress maxOutputs status =>
    show Records (eosStateProgress ops.logged status maxOutputs state)
      (eosStateProgress ops status maxOutputs state) _
    unfold eosStateProgress
    refine ite (fun _ => Records.pure EosRecord.ignored) fun hvalid => ?_
    simp only [Bool.or_eq_true,not_or,Bool.not_eq_true',decide_eq_true_eq] at hvalid
    obtain ⟨⟨hstatus,hmax⟩,hbound⟩ := hvalid
    cases status with
    | none => exact absurd rfl hstatus
    | some status =>
      have hloop (hworking : state.phase.Working) :=
        (eosLoop_records ops status maxOutputs state 0 0 0 hworking).mono fun _ _ h =>
          EosRecord.looped (.progress maxOutputs (some status)) hworking
            (Nat.not_lt.mp hbound) rfl h
      cases hphase : state.phase with
      | opened | failed | complete => exact Records.pure EosRecord.ignored
      | signalPending => exact hloop (.inl hphase)
      | draining => exact hloop (.inr hphase)

theorem eosStep_record (machine : EosState × σ) (call : EosCall) :
    ∃ r : EosRecord, (eosStep ops machine call).2 = [r] ∧ r.before = machine.1 ∧
    r.answer.state = (eosStep ops machine call).1.1 ∧ r.Orderly ∧ r.Counted := by
  obtain ⟨events,hrun,h⟩ := call.perform_records ops machine.1 machine.2 []
  refine ⟨_,rfl,rfl,rfl,?_⟩
  rw [hrun]
  exact h

structure EosAccount (state state' : EosState) (records : List EosRecord) : Prop where
  signals : (records.flatMap (·.events)).count (.signalled .ok) + once state.phase.Begun ≤
    once state'.phase.Begun
  marks : (records.flatMap (·.events)).count .marked + once (state.phase = .complete) =
    once (state'.phase = .complete)
  totals : ∀ counter, state'.total counter =
    state.total counter + UInt64.ofNat (records.map (·.answer.reported counter)).sum

theorem EosAccount.nil (state : EosState) : EosAccount state state [] :=
  ⟨(Nat.zero_add _).le,Nat.zero_add _,fun _ => (UInt64.add_zero _).symm⟩

theorem EosAccount.cons {r : EosRecord} {records : List EosRecord} {state' : EosState}
    (horderly : r.Orderly) (hcounted : r.Counted)
    (h : EosAccount r.answer.state state' records) : EosAccount r.before state' (r :: records) := by
  refine ⟨?_,?_,fun counter => ?_⟩
  · have hfirst := hcounted.signals
    have hrest := h.signals
    rw [List.flatMap_cons,List.count_append]
    omega
  · have hfirst := hcounted.marks
    have hrest := h.marks
    rw [List.flatMap_cons,List.count_append]
    omega
  · rw [h.totals,hcounted.totals,List.map_cons,List.sum_cons,UInt64.ofNat_add,
      horderly.reported,UInt64.add_assoc]

theorem eosRun_account (machine : EosState × σ) (calls : List EosCall) :
    let ended := Run.run (eosStep ops) machine calls
    (∀ r ∈ ended.2, r.Orderly) ∧ EosAccount machine.1 ended.1.1 ended.2 := by
  induction calls generalizing machine with
  | nil => exact ⟨fun r hr => absurd hr List.not_mem_nil,EosAccount.nil _⟩
  | cons call calls ih =>
    obtain ⟨r,hr,hbefore,hafter,horderly,hcounted⟩ := eosStep_record ops machine call
    obtain ⟨hrest,haccount⟩ := ih (eosStep ops machine call).1
    rw [Run.run_cons,hr]
    refine ⟨?_,?_⟩
    · exact List.forall_mem_cons.mpr ⟨horderly,hrest⟩
    · rw [← hafter] at haccount
      exact hbefore ▸ EosAccount.cons horderly hcounted haccount

/-- The life of an end-of-stream machine, for every sequence of calls and any callbacks. Each call
moves the phase along its order, hands on each output it dequeued exactly once, stays within its
limits and reports what it did. Over all calls the signal is queued at most once, the remaining
pictures are marked once if the machine completes, and the totals are the sums of the reports. -/
theorem eosRun_orderly (callbacks : σ) (calls : List EosCall) :
    let ended := Run.run (eosStep ops) (EosState.init, callbacks) calls
    let events := ended.2.flatMap (·.events)
    (∀ r ∈ ended.2, r.Orderly) ∧
      events.count (.signalled .ok) ≤ 1 ∧
      events.count .marked = once (ended.1.1.phase = .complete) ∧
      ∀ counter, ended.1.1.total counter =
        UInt64.ofNat (ended.2.map (·.answer.reported counter)).sum := by
  obtain ⟨horderly,haccount⟩ := eosRun_account ops (EosState.init, callbacks) calls
  refine ⟨horderly,?_,?_,fun counter => ?_⟩
  · have hsignals := haccount.signals
    have hone : once (Run.run (eosStep ops) (EosState.init, callbacks) calls).1.1.phase.Begun ≤ 1 := by
      unfold once
      split <;> simp
    omega
  · exact haccount.marks
  · have hzero : EosState.init.total counter = 0 := by cases counter <;> rfl
    rw [haccount.totals,hzero,UInt64.zero_add]
end LinDeX.Decode
