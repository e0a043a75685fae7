import LinDeX.Encode.Session
import LinDeX.Library.Simulation

/-!
# What the encode runtime is for: a ledger of frames

Each context has a queue of frames that wait for coded output, in the order in which the broker
took them; an output belongs to the head. The acts are all that can happen to the queues and to what
the coded buffers hold.
-/
namespace LinDeX.Encode
open Vaapi Function
structure Waiting where
  (surface buffer : UInt32)
  index : UInt64
  deriving DecidableEq

structure Ledger where
  queue : Fin 4 → List Waiting
  held : Fin 256 → List (List UInt8)

namespace Ledger
def setQueue (L : Ledger) (i : Fin 4) (q : List Waiting) : Ledger :=
  { L with queue := update L.queue i q }
def setHeld (L : Ledger) (b : Fin 256) (segments : List (List UInt8)) : Ledger :=
  { L with held := update L.held b segments }

section
variable (L : Ledger) (i j : Fin 4) (q : List Waiting) (b c : Fin 256)
  (segments : List (List UInt8))

@[simp] theorem setQueue_self : (L.setQueue i q).queue i = q := update_self ..
@[simp] theorem setQueue_held : (L.setQueue i q).held = L.held := rfl
@[simp] theorem setHeld_queue : (L.setHeld b segments).queue = L.queue := rfl
@[simp] theorem setHeld_self : (L.setHeld b segments).held b = segments := update_self ..
variable {i j b c}
theorem setQueue_of_ne (h : j ≠ i) : (L.setQueue i q).queue j = L.queue j :=
  update_of_ne h ..
theorem setHeld_of_ne (h : c ≠ b) : (L.setHeld b segments).held c = L.held c :=
  update_of_ne h ..
end
end Ledger

def Unfinished (parts : List Part) : Prop := ∀ p ∈ parts.dropLast, p.last = false
def IsUnit (parts : List Part) : Prop :=
  ∃ before p, parts = before ++ [p] ∧ p.last = true ∧ ∀ q ∈ before, q.last = false
def deliveries (i : Fin 4) (parts : List Part) : List Event := parts.map (.delivered i)

inductive Act : Ledger → List Event → Ledger → Prop
  | opened {L : Ledger} {i : Fin 4} (h : L.queue i = []) : Act L [.opened i] L
  | submit {L : Ledger} {i : Fin 4} (e : Waiting) (b : Fin 256)
      (hb : idIndex 256 typeBuffer e.buffer = some b) :
      Act L [.submitted i e.surface e.buffer] ((L.setQueue i (L.queue i ++ [e])).setHeld b [])
  /-- The broker takes a frame, but `end_picture` fails after that. -/
  | lose {L : Ledger} {i : Fin 4} (surface buffer : UInt32) :
      Act L [.submitted i surface buffer,.abandoned i] L
  | store {L : Ledger} {i : Fin 4} {e : Waiting} {rest : List Waiting} {b : Fin 256}
      {parts : List Part} {output : CodedOutput} (hqueue : L.queue i = e :: rest)
      (hb : idIndex 256 typeBuffer e.buffer = some b) (hunit : IsUnit parts)
      (houtput : output.segments = parts.map Part.bytes) :
      Act L (deliveries i parts ++ [.stored i e.surface e.buffer output])
        ((L.setQueue i rest).setHeld b output.segments)
  /-- A wait runs out of time; what it took is dropped. -/
  | block {L : Ledger} {i : Fin 4} {parts : List Part} (h : Unfinished parts) :
      Act L (deliveries i parts ++ [.timedOut i]) L
  | fail {L : Ledger} {i : Fin 4} (parts : List Part) (h : L.queue i ≠ []) :
      Act L (deliveries i parts ++ [.abandoned i]) (L.setQueue i [])
  | finish {L : Ledger} {i : Fin 4} (parts : List Part) (h : L.queue i = []) :
      Act L (deliveries i parts ++ [.closed i]) L
  | allocate {L : Ledger} (b : Fin 256) : Act L [.allocated b] (L.setHeld b [])
  | stray {L : Ledger} : Act L [.nullDereference] L
end LinDeX.Encode
