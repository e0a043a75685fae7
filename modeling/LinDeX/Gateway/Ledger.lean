import LinDeX.Gateway.Handlers
import Mathlib.Data.Multiset.Filter
import Mathlib.Data.Multiset.AddSub

/-!
# What is outstanding upstream

Which outputs the gateway has dequeued and which it has given back, read off the upstream traffic.
The ledger refuses traffic that makes no sense, and all traffic after the connection was poisoned.
-/
namespace LinDeX.Gateway
open Bytes
abbrev Handle := UInt32 × UInt64

inductive Link where
  | closed | up | down
  deriving DecidableEq, Repr

structure Ledger where
  link : Link
  (outstanding dequeued returned : Multiset Handle)

def Ledger.start : Ledger := ⟨.closed,0,0,0⟩

/-- The output that a reply to `DEQUEUE_OUTPUT` hands over in an Android hardware buffer. -/
def dequeuedHandle (request reply : Message) : Option Handle :=
  if reply.header.payloadSize = 112 ∧ getU32 reply.payload 28 = Transport.aHardwareBuffer ∧
      getU64 reply.payload 0 ≠ 0 then
    some (request.header.sessionId, getU64 reply.payload 0)
  else none

/-- The output that a `RELEASE_OUTPUT` request names. -/
def namedHandle (request : Message) : Handle := (request.header.sessionId, getU64 request.payload 0)
variable (l : Ledger)
def Ledger.dequeue (h : Handle) : Ledger :=
  { l with outstanding := l.outstanding + {h}, dequeued := l.dequeued + {h} }

def Ledger.giveBack (h : Handle) : Ledger :=
  if h ∈ l.outstanding then
    { l with outstanding := l.outstanding.erase h, returned := l.returned + {h} }
  else l

def Ledger.clear (sessionId : UInt32) : Ledger :=
  { l with
    outstanding := l.outstanding.filter fun h => ¬ h.1 = sessionId
    returned := l.returned + l.outstanding.filter fun h => h.1 = sessionId }

def Ledger.answer (request reply : Message) : Ledger :=
  match Opcode.ofCode request.header.opcode with
  | some .dequeueOutput =>
    match dequeuedHandle request reply with
    | some h => l.dequeue h
    | none => l
  | some .releaseOutput => if replyStatusIsOk reply then l.giveBack (namedHandle request) else l
  | some .flush | some .closeSession =>
    if replyStatusIsOk reply then l.clear request.header.sessionId else l
  | _ => l

def Ledger.step : Traffic → Option Ledger
  | .connected => if l.link = .closed then some { l with link := .up } else none
  | .answered request reply => if l.link = .up then some (l.answer request reply) else none
  | .released sessionId bufferId =>
    if l.link = .up ∧ (sessionId, bufferId) ∈ l.outstanding then
      some (l.giveBack (sessionId, bufferId))
    else none
  | .poisoned => if l.link = .up then some { l with link := .down } else none

def Ledger.Conserved : Prop := l.dequeued = l.returned + l.outstanding

theorem Ledger.Conserved.dequeue {l : Ledger} (h : l.Conserved) (p : Handle) :
    (l.dequeue p).Conserved := by
  rw [Conserved,Ledger.dequeue,← add_assoc,← show l.dequeued = _ from h]

theorem Ledger.Conserved.giveBack {l : Ledger} (h : l.Conserved) (p : Handle) :
    (l.giveBack p).Conserved := by
  unfold Ledger.giveBack
  split
  · rename_i hmem
    calc l.dequeued = l.returned + l.outstanding := h
      _ = l.returned + ({p} + l.outstanding.erase p) := by
          rw [Multiset.singleton_add,Multiset.cons_erase hmem]
      _ = _ := (add_assoc _ _ _).symm
  · exact h

theorem Ledger.Conserved.clear {l : Ledger} (h : l.Conserved) (s : UInt32) :
    (l.clear s).Conserved := by
  calc l.dequeued = l.returned + l.outstanding := h
    _ = l.returned + (l.outstanding.filter (fun p => p.1 = s) +
          l.outstanding.filter fun p => ¬ p.1 = s) := by rw [Multiset.filter_add_not]
    _ = _ := (add_assoc _ _ _).symm

theorem Ledger.Conserved.answer {l : Ledger} (h : l.Conserved) (request reply : Message) :
    (l.answer request reply).Conserved := by
  unfold Ledger.answer
  split
  · split
    · exact h.dequeue _
    · exact h
  · split
    · exact h.giveBack _
    · exact h
  · split
    · exact h.clear _
    · exact h
  · split
    · exact h.clear _
    · exact h
  · exact h

@[simp] theorem Ledger.giveBack_link (p : Handle) : (l.giveBack p).link = l.link := by
  unfold Ledger.giveBack
  split <;> rfl

@[simp] theorem Ledger.answer_link (request reply : Message) :
    (l.answer request reply).link = l.link := by
  unfold Ledger.answer
  split
  · split <;> rfl
  · split
    · exact l.giveBack_link _
    · rfl
  · split <;> rfl
  · split <;> rfl
  · rfl

theorem accepts_snoc {l l' : Ledger} {traffic : List Traffic} {event : Traffic}
    (h : Run.accepts Ledger.step Ledger.start traffic = some l) (hstep : l.step event = some l') :
    Run.accepts Ledger.step Ledger.start (traffic ++ [event]) = some l' := by
  rw [Run.accepts_append,h,Option.bind_some,Run.accepts_cons,hstep]
  rfl
end LinDeX.Gateway
