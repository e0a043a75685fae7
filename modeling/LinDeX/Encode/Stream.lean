import LinDeX.Encode.Mock

/-!
# The coded data of a context

The frames that the broker took from a context, those that coded data was stored for and those that
are pending.
-/
namespace LinDeX.Encode
open Vaapi Dmabuf Program Run List Option
variable {ω : Type} {s : Machine ω} {L M : Ledger} {i : Fin 4} {log events : List Event}
def Event.context : Event → Option (Fin 4)
  | .opened i | .submitted i _ _ | .delivered i _ | .stored i _ _ _ | .timedOut i | .abandoned i
  | .closed i => some i
  | .allocated _ | .orphaned _ | .nullDereference => none

def accepted (H : List Event) : List (UInt32 × UInt32) :=
  H.filterMap fun
    | .submitted _ surface buffer => some (surface, buffer)
    | _ => none

def outputs (H : List Event) : List ((UInt32 × UInt32) × CodedOutput) :=
  H.filterMap fun
    | .stored _ surface buffer output => some ((surface, buffer), output)
    | _ => none

section
variable (H₁ H₂ : List Event)
theorem accepted_append : accepted (H₁ ++ H₂) = accepted H₁ ++ accepted H₂ :=
  filterMap_append ..
theorem outputs_append : outputs (H₁ ++ H₂) = outputs H₁ ++ outputs H₂ :=
  filterMap_append ..
end

def Waiting.frame (e : Waiting) : UInt32 × UInt32 := (e.surface, e.buffer)

theorem Books.frame_pending {rt : Runtime} {e : Waiting} (h : Books rt L) (he : e ∈ L.queue i) :
    ∃ k b, getSurface rt e.surface = some k ∧ pendingFor rt i k = true ∧
    (rt.surfaces k).codedBuffer = e.buffer ∧ getBuffer rt e.buffer = some b := by
  obtain ⟨k,b,hkb⟩ := h.enters i e he
  exact ⟨k,b,hkb.surface,h.pendingFor_iff.mpr ⟨e,he,b,hkb⟩,hkb.coded,hkb.buffer⟩

theorem Books.nodup_frames {rt : Runtime} (h : Books rt L) (i : Fin 4) :
    ((L.queue i).map Waiting.frame).Nodup := by
  refine pairwise_map.mpr ((h.fits i).sorted.imp_of_mem fun {e f} he hf hlt hsame => ?_)
  obtain ⟨k,b,hkb⟩ := h.enters i e he
  obtain ⟨k',b',hkb'⟩ := h.enters i f hf
  have hsurface : e.surface = f.surface := congrArg Prod.fst hsame
  -- one surface has one submission
  obtain rfl : k = k' := some.inj (hkb.surface.symm.trans (hsurface ▸ hkb'.surface))
  exact UInt64.lt_irrefl _ (hkb.index.symm.trans hkb'.index ▸ hlt)

def history (i : Fin 4) (log : List Event) : List Event := log.filter fun e => e.context = some i

/-- The frames with an output and those that wait for one are among the frames that the broker
took, in the same order. -/
def Traced (log : List Event) (L : Ledger) : Prop :=
  ∀ i, (outputs (history i log)).map Prod.fst ++ (L.queue i).map Waiting.frame <+
    accepted (history i log)

theorem history_wait (i j : Fin 4) (parts : List Part) (e : Event) :
    outputs (history i (deliveries j parts ++ [e])) = outputs (history i [e]) ∧
      accepted (history i (deliveries j parts ++ [e])) = accepted (history i [e]) := by
  simp [history,deliveries,outputs,accepted,filterMap_filter,filterMap_map]

theorem Traced.wait {j : Fin 4} {e : Event} (h : Traced log L) (parts : List Part)
    (hi : e.context = some j) (hqueue : ∀ i, i ≠ j → M.queue i = L.queue i)
    (hj : (outputs [e]).map Prod.fst ++ (M.queue j).map Waiting.frame <+
      (L.queue j).map Waiting.frame ++ accepted [e]) :
    Traced (log ++ (deliveries j parts ++ [e])) M := by
  intro i
  rw [history,filter_append,← history,← history,outputs_append,accepted_append,
    (history_wait ..).1,(history_wait ..).2,map_append,append_assoc]
  by_cases hij : i = j
  · have hown : history i [e] = [e] := by simp [history,hi,hij]
    rw [hown,hij]
    refine (hj.append_left _).trans ?_
    rw [← append_assoc]
    exact (h j).append_right _
  · have hnone : history i [e] = [] := by simp [history,hi,Ne.symm hij]
    rw [hnone,hqueue i hij]
    simpa [outputs,accepted] using h i

theorem Act.traced (hact : Act L events M) (h : Traced log L) : Traced (log ++ events) M := by
  cases hact with
  | opened => exact h.wait [] rfl (fun _ _ => rfl) (by simp [outputs])
  | submit e =>
    refine h.wait [] rfl (fun _ hi => L.setQueue_of_ne _ hi) ?_
    simp [outputs,accepted,Waiting.frame]
  | @lose j surface buffer =>
    -- the frame was taken, but nothing will be stored for it
    have htaken : Traced (log ++ [.submitted j surface buffer]) L :=
      h.wait [] rfl (fun _ _ => rfl) (by simp [outputs])
    have hlost := htaken.wait (e := .abandoned j) [] rfl (fun _ _ => rfl) (by simp [outputs])
    rwa [append_assoc] at hlost
  | store hqueue =>
    refine h.wait _ rfl (fun _ hi => L.setQueue_of_ne _ hi) ?_
    simp [outputs,hqueue,Waiting.frame]
  | block | finish => exact h.wait _ rfl (fun _ _ => rfl) (by simp [outputs])
  | fail => exact h.wait _ rfl (fun _ hi => L.setQueue_of_ne _ hi) (by simp [outputs])
  | allocate | stray =>
    intro i
    simpa [history,Event.context] using h i

/-- Coded data was stored for frames that the broker took, in the order in which it took them and
once at most, and the frames that are pending, each once, come after them. -/
def StoredOnce (s : Machine ω) (i : Fin 4) : Prop :=
  ∃ waiting, (outputs (history i s.events)).map Prod.fst ++ waiting <+
      accepted (history i s.events) ∧ waiting.Nodup ∧
    waiting.length = (s.runtime.contexts i).pendingCount.toNat ∧
    ∀ f ∈ waiting, ∃ k b, getSurface s.runtime f.1 = some k ∧ pendingFor s.runtime i k = true ∧
      (s.runtime.surfaces k).codedBuffer = f.2 ∧ getBuffer s.runtime f.2 = some b

/-- Over all sessions of a context, whatever fails or is given up on the way. -/
theorem stored_at_most_once {env : Env ω} (h : Reachable env s) (i : Fin 4) : StoredOnce s i := by
  obtain ⟨L,hL,htrace⟩ := h.stands
  have htraced : Traced s.events L :=
    htrace.history Traced (fun _ _ _ _ hact => hact.traced) [] fun _ => Sublist.refl []
  refine ⟨(L.queue i).map Waiting.frame,htraced i,hL.1.nodup_frames i,?_,fun f hf => ?_⟩
  · rw [length_map,(hL.1.fits i).count]
  · obtain ⟨e,he,rfl⟩ := mem_map.mp hf
    exact hL.1.frame_pending he

def mockFrame (k : Nat) : Part := ⟨0,[2,UInt8.ofNat k]⟩
def twoPictures (completes : Nat → Bool) : Machine MockWorld :=
  mockRun (fun k => ⟨[some (mockFrame k)],completes k⟩)
    (mockSetup 2 ++ mockPicture 2 0 ++ mockPicture 2 1 ++ [.syncSurface (mockSurface 1) 1000000000])

theorem stored_at_most_once_shifted :
    outputs (history 0 (twoPictures (· != 0)).events) ≠ [] ∧ StoredOnce (twoPictures (· != 0)) 0 :=
  ⟨by decide +kernel,stored_at_most_once (mockRun_reachable _ _) 0⟩
end LinDeX.Encode
