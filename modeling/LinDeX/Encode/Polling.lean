import LinDeX.Encode.Mock

/-!
# Polling for a frame

What a wait with a timeout of zero should find. The wait gives up all frames of the context as soon
as there is a complete output, since the wait for the release fence refuses a timeout of zero.
-/
namespace LinDeX.Encode
open Vaapi Dmabuf Program Run List
variable {ω : Type} {env : Env ω} {s : Machine ω} {i : Fin 4} {k : Fin 64}
inductive Mapped (env : Env ω) (part : ClientOutput) : ω → List UInt8 → ω → Prop
  | empty {w : ω} (h : part.size = 0) : Mapped env part w [] w
  | pages {w w' : ω} {bytes : Fin part.size.toNat → UInt8} (h : part.size ≠ 0)
      (hfd : 0 ≤ part.dataFd)
      (hmapped : env.kernel.mmap w part.dataFd part.size.toNat = (w', .ok bytes)) :
      Mapped env part w (List.ofFn bytes) w'

def closeIfOpen (env : Env ω) (fd : Fd) (w : ω) : ω := if 0 ≤ fd then env.process.close w fd else w

inductive Handed (env : Env ω) (b : Broker) : ω → Part → ω → Prop
  | part {w w₁ w₂ w₃ : ω} {part : ClientOutput} {bytes : List UInt8}
      (hdequeued : env.client.dequeueOutput w b.fd b.sessionId = (w₁, .status Status.ok, part))
      (htransport : part.transport = Transport.bytes) (hsize : part.size ≤ 0xffffffff)
      (hmapped : Mapped env part w₁ bytes w₂)
      (hreleased : env.client.releaseOutput w₂ b.fd b.sessionId part.bufferId =
        (w₃, .status Status.ok)) :
      Handed env b w ⟨part.flags,bytes⟩
        (closeIfOpen env part.acquireFenceFd (closeIfOpen env part.dataFd w₃))

/-- The parts that are there before a call would block or up to the end of an output, and whether
they end one. -/
inductive Found (env : Env ω) (b : Broker) : ω → List Part → Bool → ω → Prop
  | nothing {w w' : ω} {part : ClientOutput}
      (h : env.client.dequeueOutput w b.fd b.sessionId = (w', .status Status.wouldBlock, part)) :
      Found env b w [] false w'
  | more {w w₁ w₂ : ω} {p : Part} {parts : List Part} {complete : Bool} (h : Handed env b w p w₁)
      (hp : p.last = false) (hrest : Found env b w₁ parts complete w₂) :
      Found env b w (p :: parts) complete w₂
  | last {w w₁ : ω} {p : Part} (h : Handed env b w p w₁) (hp : p.last = true) :
      Found env b w [p] true w₁

inductive Offered (env : Env ω) (b : Broker) : Nat → ω → Prop
  | none {w : ω} : Offered env b 0 w
  | next {n : Nat} {w w₁ : ω} {parts : List Part} (h : Found env b w parts true w₁)
      (hrest : Offered env b n w₁) : Offered env b (n + 1) w

def framesUpTo (rt : Runtime) (i : Fin 4) (k : Fin 64) : Nat :=
  (List.finRange 64).countP fun k' =>
    pendingFor rt i k' && (rt.surfaces k').submitIndex ≤ (rt.surfaces k).submitIndex

def asked (env : Env ω) (s : Machine ω) : ω := (env.kernel.monotonicMs s.world).1
def OutputAvailable (env : Env ω) (s : Machine ω) (i : Fin 4) (k : Fin 64) : Prop :=
  Offered env (s.runtime.contexts i).broker (framesUpTo s.runtime i k) (asked env s)

def FenceDone (env : Env ω) (s : Machine ω) (k : Fin 64) : Prop :=
  (s.runtime.surfaces k).link.releaseFenceFd < 0 ∨
    (env.process.poll (asked env s) (s.runtime.surfaces k).link.releaseFenceFd 0).2 = .ready

/-- A wait without any time to wait looks whether the frame is there and does no harm. -/
structure PurePoll (env : Env ω) (s : Machine ω) (i : Fin 4) (k : Fin 64)
    (r : VaStatus × Machine ω) : Prop where
  success : OutputAvailable env s i k → FenceDone env s k → r.1 = .success
  timedOut : ¬ (OutputAvailable env s i k ∧ FenceDone env s k) → r.1 = .timedOut
  harmless : ∀ k', ownedBy s.runtime i k' = true → (s.runtime.surfaces k').state ≠ .error →
    (r.2.runtime.surfaces k').state ≠ .error
variable {part : ClientOutput}
theorem Mapped.unique {w w₁ w₂ : ω} {bytes₁ bytes₂ : List UInt8}
    (h₁ : Mapped env part w bytes₁ w₁) (h₂ : Mapped env part w bytes₂ w₂) :
    bytes₁ = bytes₂ ∧ w₁ = w₂ := by
  cases h₁ with
  | empty h =>
    cases h₂ with
    | empty => exact ⟨rfl,rfl⟩
    | pages hne => exact absurd h hne
  | pages hne _ hmapped =>
    cases h₂ with
    | empty h => exact absurd h hne
    | pages _ _ hmapped' =>
      obtain ⟨rfl,hbytes⟩ := Prod.mk.inj (hmapped.symm.trans hmapped')
      obtain rfl := Except.ok.inj hbytes
      exact ⟨rfl,rfl⟩

variable {b : Broker} {w w₁ w₂ : ω}
theorem Handed.unique {p₁ p₂ : Part} (h₁ : Handed env b w p₁ w₁)
    (h₂ : Handed env b w p₂ w₂) : p₁ = p₂ ∧ w₁ = w₂ := by
  obtain ⟨hdequeued1, -, -,hmapped1,hreleased1⟩ := h₁
  obtain ⟨hdequeued2, -, -,hmapped2,hreleased2⟩ := h₂
  obtain ⟨rfl,hanswer⟩ := Prod.mk.inj (hdequeued1.symm.trans hdequeued2)
  obtain ⟨-,rfl⟩ := Prod.mk.inj hanswer
  obtain ⟨rfl,rfl⟩ := hmapped1.unique hmapped2
  obtain ⟨rfl, -⟩ := Prod.mk.inj (hreleased1.symm.trans hreleased2)
  exact ⟨rfl,rfl⟩

theorem Handed.not_blocked {p : Part} (h : Handed env b w p w₁)
    (hblocked : env.client.dequeueOutput w b.fd b.sessionId =
      (w₂, .status Status.wouldBlock, part)) : False := by
  obtain ⟨hdequeued, -, -, -, -⟩ := h
  obtain ⟨-,hanswer⟩ := Prod.mk.inj (hdequeued.symm.trans hblocked)
  exact absurd (Prod.mk.inj hanswer).1 (by decide)

theorem Found.unique {parts₁ parts₂ : List Part}
    {complete₁ complete₂ : Bool} (h₁ : Found env b w parts₁ complete₁ w₁)
    (h₂ : Found env b w parts₂ complete₂ w₂) : complete₁ = complete₂ := by
  induction h₁ generalizing parts₂ complete₂ w₂ with
  | nothing hblocked =>
    cases h₂ with
    | nothing => rfl
    | more h => exact (h.not_blocked hblocked).elim
    | last h => exact (h.not_blocked hblocked).elim
  | more h hp _ ih =>
    cases h₂ with
    | nothing hblocked => exact (h.not_blocked hblocked).elim
    | more h' _ hrest' =>
      obtain ⟨-,rfl⟩ := h.unique h'
      exact ih hrest'
    | last h' hp' =>
      obtain ⟨rfl, -⟩ := h.unique h'
      exact absurd (hp.symm.trans hp') Bool.false_ne_true
  | last h hp =>
    cases h₂ with
    | nothing hblocked => exact (h.not_blocked hblocked).elim
    | more h' hp' =>
      obtain ⟨rfl, -⟩ := h.unique h'
      exact absurd (hp'.symm.trans hp) Bool.false_ne_true
    | last => rfl

theorem Ends.io {α : Type} {f : ω → ω × α} {Q : α → Machine ω → Prop} {w : ω} {a : α}
    (h : f s.world = (w, a)) (hQ : Q a { s with world := w }) : Ends (io f) Q s := by
  show Q (f s.world).2 { s with world := (f s.world).1 }
  rwa [h]

theorem outputClose_ends {Q : Unit → Machine ω → Prop} (h : Q () { s with
      world := closeIfOpen env part.acquireFenceFd (closeIfOpen env part.dataFd s.world) }) :
    Ends (outputClose env part) Q s := by
  unfold closeIfOpen at h
  refine .bind ?_
  unfold closeFd
  split at h <;> split at h <;> simp only [*,if_true,if_false] <;> exact h

theorem mapPart_ends {bytes : List UInt8} {w : ω}
    {Q : Except Errno (List UInt8) → Machine ω → Prop} (h : Mapped env part s.world bytes w)
    (hQ : Q (.ok bytes) { s with world := w }) : Ends (mapPart env part) Q s := by
  unfold mapPart
  cases h with
  | empty h =>
    rw [if_pos h]
    exact .pure hQ
  | pages hne _ hmapped =>
    rw [if_neg hne]
    exact Ends.bind (Ends.io hmapped (Ends.pure hQ))

theorem handed_ends {b : Broker} {w : ω} {p : Part} {rounds : Nat} {output : CodedOutput}
    {deadline : UInt64} {Q : Except Errno CodedOutput → Machine ω → Prop}
    (hb : (s.runtime.contexts i).broker = b) (h : Handed env b s.world p w)
    (hfew : output.segments.length < maxCodedSegments)
    (hQ : ∀ ptsNs, Ends (if p.last = true then pure (.ok (output.append p ptsNs))
      else receiveLoop env i 0 deadline rounds (output.append p ptsNs)) Q
      { s with world := w, events := s.events ++ [.delivered i p] }) :
    Ends (receiveLoop env i 0 deadline (rounds + 1) output) Q s := by
  subst hb
  obtain ⟨hdequeued,htransport,hsize,hmapped,hreleased⟩ := h
  rename_i w1 w2 w3 part bytes
  have happendable : appendable output part = true := by
    have hfd : part.size = 0 ∨ 0 ≤ part.dataFd := by
      cases hmapped with
      | empty h => exact .inl h
      | pages _ hfd => exact .inr hfd
    simp only [appendable,htransport,bne_self_eq_false,Bool.or_false,Bool.not_eq_true',
      Bool.or_eq_false_iff,decide_eq_false_iff_not,Nat.not_le,Bool.and_eq_false_iff]
    refine ⟨⟨hfew,UInt64.not_lt.mpr hsize⟩,hfd.imp (fun hzero => ?_) Int.not_lt.mpr⟩
    rw [hzero]
    exact UInt64.lt_irrefl 0
  refine Ends.bind (Ends.read (Ends.bind (Ends.io hdequeued ?_)))
  dsimp only
  rw [if_neg (by decide),if_neg (by simp)]
  apply Ends.bind
  unfold appendOutput
  rw [if_neg (by simp [happendable])]
  refine Ends.bind (mapPart_ends hmapped ?_)
  refine Ends.bind (Ends.update (Ends.bind (Ends.read (Ends.bind (Ends.io hreleased ?_)))))
  refine Ends.pure (Ends.bind (outputClose_ends ?_))
  exact hQ part.ptsNs

theorem receiveLoop_found {b : Broker} {w w' : ω} {parts : List Part} {complete : Bool}
    {deadline : UInt64} (h : Found env b w parts complete w') {rounds : Nat} {output : CodedOutput}
    (hrounds : parts.length < rounds)
    (hfew : output.segments.length + parts.length ≤ maxCodedSegments)
    (hb : (s.runtime.contexts i).broker = b) (hw : s.world = w) :
    Ends (receiveLoop env i 0 deadline rounds output) (fun r t => t.runtime = s.runtime ∧
    (complete = false → r = .error .etimedout) ∧ (complete = true → ∃ o, r = .ok o)) s := by
  induction h generalizing s rounds output with
  | nothing hblocked =>
    obtain ⟨rounds,rfl⟩ := Nat.exists_eq_add_one_of_ne_zero (Nat.ne_of_gt hrounds)
    subst hb hw
    refine Ends.bind (Ends.read (Ends.bind (Ends.io hblocked ?_)))
    exact ⟨rfl,fun _ => rfl,fun hno => absurd hno Bool.false_ne_true⟩
  | more hhanded hp _ ih =>
    obtain ⟨rounds,rfl⟩ := Nat.exists_eq_add_one_of_ne_zero (Nat.ne_of_gt (Nat.zero_lt_of_lt hrounds))
    subst hw
    rw [length_cons] at hrounds hfew
    refine handed_ends hb hhanded (by omega) fun ptsNs => ?_
    rw [if_neg (by simp [hp])]
    refine ih (Nat.lt_of_succ_lt_succ hrounds) ?_ hb rfl
    rw [CodedOutput.append,length_append,length_singleton]
    omega
  | last hhanded hp =>
    obtain ⟨rounds,rfl⟩ := Nat.exists_eq_add_one_of_ne_zero (Nat.ne_of_gt (Nat.zero_lt_of_lt hrounds))
    subst hw
    rw [length_singleton] at hfew
    refine handed_ends hb hhanded (by omega) fun ptsNs => ?_
    rw [if_pos hp]
    exact Ends.pure ⟨rfl,fun hno => absurd hno.symm Bool.false_ne_true,fun _ => ⟨_,rfl⟩⟩

structure Answered (env : Env ω) (s : Machine ω) (i : Fin 4) (parts : List Part)
    (complete : Bool) : Prop where
  clock : ∃ now, (env.kernel.monotonicMs s.world).2 = .ok now ∧ now ≠ 0xffffffffffffffff
  found : ∃ w, Found env (s.runtime.contexts i).broker (asked env s) parts complete w
  fits : parts.length ≤ maxCodedSegments

section
variable {parts : List Part} {complete : Bool}
theorem brokerReceive_found (hvalid : (s.runtime.contexts i).broker.Valid)
    (h : Answered env s i parts complete) :
    Ends (brokerReceive env i 0) (fun r t => t.runtime = s.runtime ∧
    (complete = false → r = .error .etimedout) ∧ (complete = true → ∃ o, r = .ok o)) s := by
  obtain ⟨⟨now,hclock,hnow⟩,⟨w,hfound⟩,hfew⟩ := h
  apply Ends.read_bind
  rw [if_neg ?_]
  · have hread : env.kernel.monotonicMs s.world = (asked env s, .ok now) := Prod.ext rfl hclock
    refine Ends.bind (Ends.bind (Ends.io hread ?_))
    dsimp only
    rw [if_neg hnow]
    apply Ends.pure
    dsimp only
    rw [if_neg (by simp)]
    exact receiveLoop_found hfound (Nat.lt_of_le_of_lt hfew (by decide))
      (by simpa [CodedOutput.empty] using hfew) rfl rfl
  · rintro (hno | hno | hno)
    · exact absurd hvalid.1 (Int.not_le.mpr hno)
    · exact hvalid.2 hno
    · exact absurd hno (by decide)

theorem syncRound_found (hvalid : (s.runtime.contexts i).broker.Valid)
    (h : Answered env s i parts complete) :
    Ends (syncRound env i 0) (fun r t =>
      (complete = false → r = some .timedOut ∧ t.runtime = s.runtime) ∧
      (complete = true → r = some .encodingError)) s := by
  refine .bind ((brokerReceive_found hvalid h).mono fun received t ht => ?_)
  obtain ⟨hruntime,hblocked,hcomplete⟩ := ht
  cases complete with
  | false =>
    rw [hblocked rfl]
    refine .bind (.update (.pure ⟨fun _ => ⟨rfl,hruntime⟩,fun hno => ?_⟩))
    exact absurd hno Bool.false_ne_true
  | true =>
    obtain ⟨output,rfl⟩ := hcomplete rfl
    have hfail (u : Machine ω) : Ends (failRound i .encodingError) (fun r _ =>
        r = some .encodingError) u := .bind (.of_forall fun _ _ => .pure rfl)
    refine .mono (Q := fun r _ => r = some .encodingError) ?_
      fun r u hr => ⟨fun hno => absurd hno.symm Bool.false_ne_true,fun _ => hr⟩
    refine .bind (.of_forall fun _ u => ?_)
    split
    · exact hfail u
    refine .read_bind ?_
    iterate 3
      split
      · exact hfail u
    -- the wait for the release fence refuses a timeout of zero
    exact .bind (.pure (hfail u))

theorem syncSurfaceLocked_found {L : Ledger} (hbooks : Books s.runtime L)
    (hpending : pendingFor s.runtime i k = true) (h : Answered env s i parts complete) :
    Ends (syncSurfaceLocked env k 0) (fun r t =>
      (complete = false → r = .timedOut ∧ t.runtime = s.runtime) ∧
      (complete = true → r = .encodingError)) s := by
  obtain ⟨e,he,b,hkb⟩ := hbooks.pendingFor_iff.mp hpending
  have hused := (getSurface_eq_some.mp hkb.surface).2
  obtain ⟨j,hserved,howner⟩ := hbooks.served ⟨hused,hkb.state⟩
  obtain rfl : j = i := Option.some.inj (howner.symm.trans hkb.owner)
  have hvalid := (hbooks.fits j).session (ne_nil_of_mem he)
  refine .read_bind ?_
  rw [hkb.state]
  rw [hserved]
  refine .read_bind ?_
  rw [if_pos hkb.state]
  refine .bind ((syncRound_found hvalid h).mono fun r t ht => ?_)
  obtain ⟨hblocked,hcomplete⟩ := ht
  cases complete with
  | false =>
    obtain ⟨rfl,hruntime⟩ := hblocked rfl
    exact .pure ⟨fun _ => ⟨rfl,hruntime⟩,fun hno => absurd hno Bool.false_ne_true⟩
  | true =>
    obtain rfl := hcomplete rfl
    exact .pure ⟨fun hno => absurd hno.symm Bool.false_ne_true,fun _ => rfl⟩

theorem framesUpTo_pos (hpending : pendingFor s.runtime i k = true) :
    framesUpTo s.runtime i k ≠ 0 := by
  refine Nat.ne_of_gt (List.countP_pos_iff.mpr ⟨k,mem_finRange k,?_⟩)
  rw [hpending,Bool.true_and,decide_eq_true_eq]
  exact UInt64.le_refl _

theorem not_available (hpending : pendingFor s.runtime i k = true)
    (h : Answered env s i parts false) : ¬ OutputAvailable env s i k := by
  intro havailable
  obtain ⟨n,hn⟩ := Nat.exists_eq_add_one_of_ne_zero (framesUpTo_pos hpending)
  rw [OutputAvailable,hn] at havailable
  obtain ⟨w,hfound⟩ := h.found
  cases havailable with
  | next hcomplete => exact Bool.false_ne_true (hfound.unique hcomplete)

theorem purePoll_iff (hpending : pendingFor s.runtime i k = true)
    (h : Answered env s i parts complete) {m : Prog ω VaStatus}
    (hm : Ends m (fun r t => (complete = false → r = .timedOut ∧ t.runtime = s.runtime) ∧
    (complete = true → r = .encodingError)) s) :
    PurePoll env s i k (m s) ↔ complete = false := by
  obtain ⟨hblocked,hcomplete⟩ := hm
  cases complete with
  | false =>
    obtain ⟨hstatus,hruntime⟩ := hblocked rfl
    refine iff_of_true ⟨fun hno => absurd hno (not_available hpending h),fun _ => hstatus,
      fun k' _ hk' => ?_⟩ rfl
    rwa [hruntime]
  | true =>
    refine iff_of_false (fun hpure => ?_) (fun hno => Bool.false_ne_true hno.symm)
    have hstatus := hcomplete rfl
    by_cases hdone : OutputAvailable env s i k ∧ FenceDone env s k
    · exact absurd (hstatus.symm.trans (hpure.success hdone.1 hdone.2)) (by simp)
    · exact absurd (hstatus.symm.trans (hpure.timedOut hdone)) (by simp)

/-- A poll for a pending frame does what a poll should do exactly if there is no complete
output. -/
theorem poll_pure_iff (hreachable : Reachable env s) (hpending : pendingFor s.runtime i k = true)
    (h : Answered env s i parts complete) :
    (∀ surfaceId, getSurface s.runtime surfaceId = some k →
      (PurePoll env s i k (syncSurface env surfaceId 0 s) ↔ complete = false)) ∧
    ∀ bufferId b, getBuffer s.runtime bufferId = some b →
      getSurface s.runtime (s.runtime.buffers b).pendingSurface = some k →
      (PurePoll env s i k (syncBuffer env bufferId 0 s) ↔ complete = false) := by
  obtain ⟨L,hL, -⟩ := hreachable.stands
  have hlocked := syncSurfaceLocked_found hL.1 hpending h
  refine ⟨fun surfaceId hid => purePoll_iff hpending h ?_,fun bufferId b hb hk =>
    purePoll_iff hpending h ?_⟩
  · refine .read_bind ?_
    rw [hid]
    exact hlocked
  · have hinvalid := idIndex_ne_invalid (getSurface_eq_some.mp hk).1
    obtain ⟨j,e, -,k',hkb⟩ :=
      hL.1.frame_of_buffer ⟨(getBuffer_eq_some.mp hb).2,hinvalid⟩
    refine .read_bind ?_
    rw [hb,Option.filter_some,hkb.type,if_pos (by decide)]
    dsimp only
    rw [if_neg hinvalid,hk]
    exact hlocked
end

section
variable {frames : Nat → MockFrame} {b : Broker} {w : MockWorld} {p : Part}
  {rest : List (Option Part)}

theorem mockMapped {part : ClientOutput} {bytes : List UInt8} (hfd : 0 ≤ part.dataFd)
    (hsize : part.size.toNat = bytes.length) (hw : w.mapped = bytes) :
    Mapped (mockEnv frames) part w bytes w := by
  by_cases hempty : part.size = 0
  · obtain rfl : bytes = [] := length_eq_zero_iff.mp (hsize.symm.trans (by rw [hempty]; rfl))
    exact .empty hempty
  · have hbytes : List.ofFn (fun j : Fin part.size.toNat => w.mapped.getD j 0) = bytes := by
      subst hw
      refine ext_getElem (by rw [length_ofFn,hsize]) fun j hj hj' => ?_
      rw [List.getElem_ofFn]
      simp [List.getD,hj']
    have hpages : Mapped (mockEnv frames) part w (List.ofFn fun j => w.mapped.getD j 0) w :=
      .pages hempty hfd rfl
    rwa [hbytes] at hpages

theorem mockHanded (h : w.outputs = some p :: rest) (hsize : p.bytes.length < 2 ^ 32) :
    Handed (mockEnv frames) b w p { w with outputs := rest, mapped := p.bytes } := by
  have hlength : (UInt64.ofNat p.bytes.length).toNat = p.bytes.length :=
    UInt64.toNat_ofNat_of_lt' (Nat.lt_trans hsize (by decide))
  have hdequeued : (mockEnv frames).client.dequeueOutput w b.fd b.sessionId =
      ({ w with outputs := rest, mapped := p.bytes }, Reply.ok, { ClientOutput.none with
        bufferId := 1, size := UInt64.ofNat p.bytes.length, flags := p.flags, dataFd := 7,
        transport := Transport.bytes }) := by
    show mockDequeue w = _
    rw [mockDequeue,h]
  refine .part hdequeued rfl ?_ (mockMapped (Int.natCast_nonneg 7) hlength rfl) rfl
  rw [UInt64.le_iff_toNat_le,hlength]
  exact Nat.le_of_lt_succ hsize

theorem mockBlocked (h : w.outputs = none :: rest) :
    Found (mockEnv frames) b w [] false { w with outputs := rest } := by
  have hdequeued : (mockEnv frames).client.dequeueOutput w b.fd b.sessionId =
      ({ w with outputs := rest }, .status Status.wouldBlock, ClientOutput.none) := by
    show mockDequeue w = _
    rw [mockDequeue,h]
  exact .nothing hdequeued
end

def oneFrame (emits : List (Option Part)) : Machine MockWorld :=
  mockRun (fun _ => ⟨emits,true⟩) (mockSetup 1 ++ mockPicture 1 0)
def readyFrame : Part := ⟨0,[1,2]⟩

theorem readyFrame_found :
    Found (mockEnv fun _ => ⟨[some readyFrame],true⟩)
      ((oneFrame [some readyFrame]).runtime.contexts 0).broker
      (asked (mockEnv fun _ => ⟨[some readyFrame],true⟩) (oneFrame [some readyFrame]))
      [readyFrame] true ⟨[],1,readyFrame.bytes,0⟩ := by
  have hworld : asked (mockEnv fun _ => ⟨[some readyFrame],true⟩) (oneFrame [some readyFrame]) =
      ⟨[some readyFrame],1,[],0⟩ := by decide +kernel
  rw [hworld]
  exact .last (mockHanded rfl (by decide)) (by decide)

/-- The coded frame is there, it fits and has no release fence. The poll for it fails, and the
frame is given up. -/
theorem oneFrame_given_up :
    let s := oneFrame [some readyFrame]
    let env := mockEnv fun _ => ⟨[some readyFrame],true⟩
    Reachable env s ∧ pendingFor s.runtime 0 0 = true ∧ Answered env s 0 [readyFrame] true ∧
    OutputAvailable env s 0 0 ∧ FenceDone env s 0 ∧
    readyFrame.bytes.length ≤ (s.runtime.buffers 0).codedCapacity ∧
    (syncSurface env (mockSurface 0) 0 s).1 = .encodingError ∧
    ((syncSurface env (mockSurface 0) 0 s).2.runtime.surfaces 0).state = .error := by
  have hone : framesUpTo (oneFrame [some readyFrame]).runtime 0 0 = 1 := by decide +kernel
  refine ⟨mockRun_reachable _ _,by decide +kernel,
    ⟨⟨0,by decide +kernel,by decide⟩,⟨_,readyFrame_found⟩,by decide⟩,?_,
    .inl (by decide +kernel),by decide +kernel,by decide +kernel,by decide +kernel⟩
  rw [OutputAvailable,hone]
  exact .next readyFrame_found .none

/-- Nothing is there yet, and both polls say so. -/
theorem oneFrame_polled :
    let s := oneFrame [none]
    let env := mockEnv fun _ => ⟨[none],true⟩
    PurePoll env s 0 0 (syncSurface env (mockSurface 0) 0 s) ∧
    PurePoll env s 0 0 (syncBuffer env (mockCoded 0) 0 s) := by
  have hworld : asked (mockEnv fun _ => ⟨[none],true⟩) (oneFrame [none]) = ⟨[none],1,[],0⟩ := by
    decide +kernel
  have hanswered : Answered (mockEnv fun _ => ⟨[none],true⟩) (oneFrame [none]) 0 [] false := by
    refine ⟨⟨0,by decide +kernel,by decide⟩,⟨⟨[],1,[],0⟩,?_⟩,by decide⟩
    rw [hworld]
    exact mockBlocked rfl
  have h := poll_pure_iff (k := 0) (mockRun_reachable _ _) (by decide +kernel) hanswered
  exact ⟨(h.1 (mockSurface 0) (by decide +kernel)).mpr rfl,
    (h.2 (mockCoded 0) 0 (by decide +kernel) (by decide +kernel)).mpr rfl⟩
end LinDeX.Encode
