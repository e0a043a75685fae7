import LinDeX.Decode.State

/-!
# The private end-of-stream machine

`advc_vaapi_decode_eos.c`: a nonblocking state machine over five callbacks. The callbacks work on
a state of their own, which the machine itself never touches.
-/
namespace LinDeX.Decode
open Program
/-- `enum advc_vaapi_decode_eos_io_result`; every other value counts as fatal. -/
inductive IoResult where
  | ok | retry | outputWindowFull | fatal
  deriving DecidableEq, Repr

inductive OutputKind where
  | frame | control | other
  deriving DecidableEq, Repr

structure EosOutput where
  (bufferId ptsNs : UInt64)
  flags : UInt32
  kind : OutputKind
  deriving DecidableEq, Repr

structure EosOps (σ : Type) where
  trySignal : StateM σ IoResult
  tryDequeue : StateM σ (IoResult × EosOutput)
  handleFrame : EosOutput → StateM σ IoResult
  releaseOutput : EosOutput → StateM σ IoResult
  markRemainingPendingFailed : StateM σ Unit

inductive EosResult where
  | ok | wouldBlock | needOutputRelease | complete | notSignaled | disabled | invalidArgument
  | failed | invalidContext
  deriving DecidableEq, Repr

namespace EosFlag
def signalRequested : UInt32 := 1
def signalQueued : UInt32 := 2
def brokerEmpty : UInt32 := 4
def outputWindowFull : UInt32 := 8
def budgetExhausted : UInt32 := 16
def outputEosSeen : UInt32 := 32
def failed : UInt32 := 64
end EosFlag

/-- `struct advc_vaapi_decode_eos_status_v1`. -/
structure EosStatus where
  structSize : UInt32
  abiVersion : UInt32 := 0
  phase : EosPhase := .opened
  flags : UInt32 := 0
  lastResult : EosResult := .ok
  outputsProcessed : UInt32 := 0
  framesProcessed : UInt32 := 0
  controlsReleased : UInt32 := 0
  outputsProcessedTotal : UInt64 := 0
  framesProcessedTotal : UInt64 := 0
  controlsReleasedTotal : UInt64 := 0
  deriving DecidableEq, Repr

/-- `sizeof(struct advc_vaapi_decode_eos_status_v1)`. -/
def eosStatusSize : UInt32 := 88
def eosAbiVersion : UInt32 := 0x10000
def eosMaxProgressOutputs : Nat := 8
def outputFlagEos : UInt32 := 1

structure EosReturn where
  result : EosResult
  state : EosState
  status : Option EosStatus
  deriving DecidableEq, Repr

def persistentStatusFlags (state : EosState) : UInt32 :=
  (if state.signalRequested then EosFlag.signalRequested else 0) |||
    (if state.signalQueued then EosFlag.signalQueued else 0) |||
    (if state.outputEosSeen then EosFlag.outputEosSeen else 0) |||
    (if state.phase = .failed then EosFlag.failed else 0)

/-- `write_status` and the return after it. -/
def eosReturn (state : EosState) (status : Option EosStatus) (result : EosResult)
    (transient : UInt32 := 0) (outputs : Nat := 0) (frames : Nat := 0) (controls : Nat := 0) :
    EosReturn where
  result := result
  state := state
  status := status.map fun s =>
    { structSize := s.structSize
      abiVersion := eosAbiVersion
      phase := state.phase
      flags := transient ||| persistentStatusFlags state
      lastResult := result
      outputsProcessed := UInt32.ofNat outputs
      framesProcessed := UInt32.ofNat frames
      controlsReleased := UInt32.ofNat controls
      outputsProcessedTotal := state.outputsProcessedTotal
      framesProcessedTotal := state.framesProcessedTotal
      controlsReleasedTotal := state.controlsReleasedTotal }

def statusIsValid : Option EosStatus → Bool
  | none => false
  | some s => s.structSize ≥ eosStatusSize

def failState (state : EosState) (status : Option EosStatus) (outputs frames controls : Nat) :
    EosReturn :=
  eosReturn { state with phase := .failed } status .failed 0 outputs frames controls
variable {σ : Type} (ops : EosOps σ) (status : Option EosStatus)
def discardAndFail (state : EosState) (output : EosOutput) (outputs frames controls : Nat) :
    StateM σ EosReturn := do
  if output.bufferId ≠ 0 then
    let _ ← ops.releaseOutput output
    return failState state status outputs frames controls
  else
    return failState state status outputs frames controls

def eosStateSignal (state : EosState) : StateM σ EosReturn := do
  if !statusIsValid status then return eosReturn state status .invalidArgument
  match state.phase with
  | .failed => return eosReturn state status .failed
  | .complete => return eosReturn state status .complete
  | .draining => return eosReturn state status .ok
  | .opened | .signalPending =>
    let state := { state with signalRequested := true, phase := .signalPending }
    match ← ops.trySignal with
    | .ok =>
      return eosReturn { state with signalQueued := true, phase := .draining } status .ok
    | .retry => return eosReturn state status .wouldBlock
    | .outputWindowFull =>
      return eosReturn state status .needOutputRelease EosFlag.outputWindowFull
    | .fatal => return failState state status 0 0 0

def completeEos (state : EosState) (outputs frames controls : Nat) : StateM σ EosReturn := do
  ops.markRemainingPendingFailed
  return eosReturn { state with outputEosSeen := true, phase := .complete } status .complete 0
    outputs frames controls

/-- The loop of `advc_vaapi_decode_eos_state_progress`, with the rounds that remain. -/
def eosLoop : Nat → EosState → Nat → Nat → Nat → StateM σ EosReturn
  | 0, state, outputs, frames, controls =>
    return eosReturn state status .ok EosFlag.budgetExhausted outputs frames controls
  | remaining + 1, state, outputs, frames, controls => do
    let dequeued ← ops.tryDequeue
    match dequeued.1 with
    | .retry =>
      return eosReturn state status .wouldBlock EosFlag.brokerEmpty outputs frames controls
    | .outputWindowFull =>
      return eosReturn state status .needOutputRelease EosFlag.outputWindowFull outputs frames
        controls
    | .fatal => return failState state status outputs frames controls
    | .ok =>
      let output := dequeued.2
      let outputs := outputs + 1
      let state := { state with outputsProcessedTotal := state.outputsProcessedTotal + 1 }
      if output.bufferId = 0 then return failState state status outputs frames controls
      match output.kind with
      | .control =>
        if output.flags ≠ outputFlagEos then
          discardAndFail ops status state output outputs frames controls
        else
          let released ← ops.releaseOutput output
          if released ≠ .ok then return failState state status outputs frames controls
          let controls := controls + 1
          let state := { state with controlsReleasedTotal := state.controlsReleasedTotal + 1 }
          if state.phase ≠ .draining then return failState state status outputs frames controls
          completeEos ops status state outputs frames controls
      | .other => discardAndFail ops status state output outputs frames controls
      | .frame =>
        let eos := (output.flags &&& outputFlagEos) ≠ 0
        if eos ∧ state.phase ≠ .draining then
          discardAndFail ops status state output outputs frames controls
        else
          let handled ← ops.handleFrame output
          if handled ≠ .ok then
            discardAndFail ops status state output outputs frames controls
          else
            let frames := frames + 1
            let state := { state with framesProcessedTotal := state.framesProcessedTotal + 1 }
            if eos then completeEos ops status state outputs frames controls
            else eosLoop remaining state outputs frames controls

def eosStateProgress (maxOutputs : Nat) (state : EosState) : StateM σ EosReturn := do
  if !statusIsValid status || maxOutputs = 0 || maxOutputs > eosMaxProgressOutputs then
    return eosReturn state status .invalidArgument
  match state.phase with
  | .opened => return eosReturn state status .notSignaled
  | .failed => return eosReturn state status .failed
  | .complete => return eosReturn state status .complete
  | .signalPending | .draining => eosLoop ops status maxOutputs state 0 0 0

structure EosOps.Within (F : Frame σ) : Prop where
  trySignal : Keeps F ops.trySignal
  tryDequeue : Keeps F ops.tryDequeue
  handleFrame : ∀ output, Keeps F (ops.handleFrame output)
  releaseOutput : ∀ output, Keeps F (ops.releaseOutput output)
  markRemainingPendingFailed : Keeps F ops.markRemainingPendingFailed
variable {ops} {F : Frame σ}
theorem eosStateSignal_within (h : ops.Within F) (state : EosState) :
    Keeps F (eosStateSignal ops status state) := by
  unfold eosStateSignal
  refine .ite (.pure _) ?_
  split
  · exact .pure _
  · exact .pure _
  · exact .pure _
  all_goals
    refine .bind h.trySignal fun io => ?_
    cases io <;> exact .pure _

theorem discardAndFail_within (h : ops.Within F) (state : EosState) (output : EosOutput)
    (outputs frames controls : Nat) :
    Keeps F (discardAndFail ops status state output outputs frames controls) :=
  Keeps.ite (.bind (h.releaseOutput output) fun _ => .pure _) (.pure _)

theorem completeEos_within (h : ops.Within F) (state : EosState) (outputs frames controls : Nat) :
    Keeps F (completeEos ops status state outputs frames controls) :=
  Keeps.bind h.markRemainingPendingFailed fun _ => .pure _

theorem eosLoop_within (h : ops.Within F) (remaining : Nat) (state : EosState)
    (outputs frames controls : Nat) :
    Keeps F (eosLoop ops status remaining state outputs frames controls) := by
  induction remaining generalizing state outputs frames controls with
  | zero => exact .pure _
  | succ remaining ih =>
    refine .bind h.tryDequeue fun dequeued => ?_
    obtain ⟨io,output⟩ := dequeued
    cases io with
    | retry => exact .pure _
    | outputWindowFull => exact .pure _
    | fatal => exact .pure _
    | ok =>
      refine .ite (.pure _) ?_
      cases output.kind with
      | control =>
        refine .ite (discardAndFail_within status h _ _ _ _ _) ?_
        refine .bind (h.releaseOutput output) fun released => ?_
        refine .ite (.pure _) (.ite (.pure _) ?_)
        exact completeEos_within status h _ _ _ _
      | other => exact discardAndFail_within status h _ _ _ _ _
      | frame =>
        refine .ite (discardAndFail_within status h _ _ _ _ _) ?_
        refine .bind (h.handleFrame output) fun handled => ?_
        refine .ite (discardAndFail_within status h _ _ _ _ _) ?_
        exact .ite (completeEos_within status h _ _ _ _) (ih _ _ _ _)

theorem eosStateProgress_within (h : ops.Within F) (maxOutputs : Nat) (state : EosState) :
    Keeps F (eosStateProgress ops status maxOutputs state) := by
  unfold eosStateProgress
  refine .ite (.pure _) ?_
  split
  · exact .pure _
  · exact .pure _
  · exact .pure _
  all_goals exact eosLoop_within status h _ _ _ _ _
end LinDeX.Decode
