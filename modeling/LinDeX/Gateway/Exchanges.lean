import LinDeX.Gateway.State
import LinDeX.System.Recorded

/-!
# What the gateway says of its upstream traffic and what it exchanges

The gateway with an upstream connection that keeps a record of the requests and the answers.
-/

namespace LinDeX.Gateway
open Program Repack
variable {ω ρ : Type}

def gpuBeside (gpu : Gpu ω) : Gpu (ω × ρ) where
  attach w := unnoted w.2 (gpu.attach w.1)
  fileIdentity w := gpu.fileIdentity w.1
  importSource w d := unnoted w.2 (gpu.importSource w.1 d)
  createImage w width height := unnoted w.2 (gpu.createImage w.1 width height)
  exportMemory w d := unnoted w.2 (gpu.exportMemory w.1 d)
  copy w d source fence := unnoted w.2 (gpu.copy w.1 d source fence)
  errno w := gpu.errno w.1

abbrev Exchange := Message × Except Errno Client.Datagram

def Env.recorded (env : Env ω) : Env (ω × List Exchange) where
  os := env.os.beside
  gpu := gpuBeside env.gpu
  policy := env.policy
  connect w := unnoted w.2 (env.connect w.1)
  exchange w request :=
    let r := env.exchange w.1 request
    ((r.1, w.2 ++ [(request, r.2)]), r.2)
  nextRequestId w := unnoted w.2 (env.nextRequestId w.1)
  stack w := env.stack w.1
  errnoLeft w := env.errnoLeft w.1

/-- Releasing upstream exchanges one request, which names the session and the buffer, and writes
`released` exactly when the answer to it says success. A reply is `answered` only when it was
received for the request that went out. -/
structure Honest (env : Env ω) : Prop where
  released : ∀ sessionId bufferId fence c,
    Ends (releaseUpstreamOutput env.recorded sessionId bufferId fence) (fun ok c' =>
      ∃ id stack incoming,
      ok = succeeded (Client.releaseOutputFenced id sessionId bufferId stack incoming).status ∧
      c'.world.2 = c.world.2 ++ (if bufferId == 0 || sessionId == 0 then []
        else [(Client.releaseOutputRequest id sessionId bufferId fence, incoming)]) ∧
      c'.traffic = c.traffic ++ if ok then [.released sessionId bufferId]
        else if c.connected then [.poisoned] else []) c
  answered : ∀ request c, Ends (exchangeUpstream env.recorded request) (fun reply c' =>
      match reply with
      | none => ∀ request reply, .answered request reply ∈ c'.traffic →
        .answered request reply ∈ c.traffic
      | some reply => ∃ stack incoming received,
        (Client.receiveMessage maxPayload stack incoming).reply = .ok received ∧
        reply = Message.withMinor received request.header.versionMinor ∧
        c'.world.2 = c.world.2 ++
          [(Message.withMinor request (min request.header.versionMinor upstreamMinor), incoming)] ∧
        c'.traffic = c.traffic ++ (if c.connected then [] else [.connected]) ++
          [.answered request received]) c

/-- The record, and what the traffic is made from. -/
private def aside : Frame (Worker (ω × ρ)) :=
  Frame.same fun c => (c.world.2, c.traffic, c.connected)

variable {env : Env ω} {c : Worker (ω × List Exchange)}

private theorem closeFds_aside (fds : List Fd) : Keeps aside (closeFds env.recorded fds) := by
  have hclose (w : ω × List Exchange) : (fds.foldl env.recorded.os.close w).2 = w.2 := by
    induction fds generalizing w with
    | nil => rfl
    | cons fd fds ih => exact ih _
  intro c
  exact congrArg (·, c.traffic, c.connected) (hclose c.world)

private theorem poisonUpstream_traffic (c : Worker ω) : Ends poisonUpstream (fun _ c' =>
    c'.world = c.world ∧ c'.traffic = c.traffic ++ if c.connected then [.poisoned] else []) c := by
  refine .update ?_
  split
  · exact ⟨rfl, rfl⟩
  · exact ⟨rfl, (List.append_nil _).symm⟩

private theorem exchange_ends {z : Bool} {e : Errno} (request : Message) :
    Ends (outside fun w => if z then (w, .error e) else env.recorded.exchange w request)
      (fun incoming c' => c'.world.2 = c.world.2 ++ (if z then [] else [(request, incoming)]) ∧
        c'.traffic = c.traffic ∧ c'.connected = c.connected) c := by
  cases z
  · exact ⟨rfl, rfl, rfl⟩
  · exact ⟨(List.append_nil _).symm, rfl, rfl⟩

private theorem ensureUpstream_traffic : Ends (ensureUpstream env.recorded) (fun ok c' =>
    c'.world.2 = c.world.2 ∧ c'.traffic =
      c.traffic ++ if ok = true ∧ c.connected = false then [.connected] else []) c := by
  refine .read_bind ?_
  cases hconnected : c.connected
  · have hconnect : Keeps aside (outside env.recorded.connect) := fun _ => rfl
    refine .bind (hconnect.ends fun ok c1 h1 => ?_)
    simp only [aside,Frame.same,Prod.mk.injEq] at h1
    cases ok
    · exact ⟨h1.1, h1.2.1.trans (List.append_nil _).symm⟩
    · exact ⟨h1.1, congrArg (· ++ [Traffic.connected]) h1.2.1⟩
  · exact ⟨rfl, (List.append_nil _).symm⟩

theorem honest (env : Env ω) : Honest env := by
  constructor
  · intro sessionId bufferId fence c
    have hid : Keeps aside (outside env.recorded.nextRequestId) := fun _ => rfl
    refine .bind (hid.ends fun id c1 h1 => .bind (.mono (exchange_ends _) ?_))
    rintro incoming c2 ⟨hworld, htraffic, hconnected⟩
    refine .read_bind (.bind ((closeFds_aside _).ends fun _ c3 h3 => ?_))
    simp only [aside,Frame.same,Prod.mk.injEq] at h1 h3
    have hbefore : c3.traffic = c.traffic ∧ c3.connected = c.connected :=
      ⟨h3.2.1.trans (htraffic.trans h1.2.1), h3.2.2.trans (hconnected.trans h1.2.2)⟩
    rw [h1.1] at hworld
    split
    next hok =>
      exact ⟨id, _, incoming, hok.symm, h3.1.trans hworld, congrArg (· ++ _) hbefore.1⟩
    next hok =>
      refine .bind (.mono (poisonUpstream_traffic c3) fun _ c' hpoisoned => ?_)
      refine ⟨id, _, incoming, (Bool.eq_false_iff.2 hok).symm, ?_, ?_⟩
      · exact (congrArg Prod.snd hpoisoned.1).trans (h3.1.trans hworld)
      · exact hbefore.1 ▸ hbefore.2 ▸ hpoisoned.2
  · intro request c
    refine .bind (.mono ensureUpstream_traffic ?_)
    rintro ok c1 ⟨hworld, htraffic⟩
    have hsame {request reply} (hmem : .answered request reply ∈ c1.traffic) :
        .answered request reply ∈ c.traffic := by
      rw [htraffic] at hmem
      split at hmem <;> simpa using hmem
    have hpoison {c4 : Worker (ω × List Exchange)} (h4 : c4.traffic = c1.traffic) :
        Ends poisonUpstream (fun _ c' => ∀ request reply, .answered request reply ∈ c'.traffic →
          .answered request reply ∈ c.traffic) c4 := by
      refine .mono (poisonUpstream_traffic c4) fun _ c' hpoisoned _ _ hmem => hsame ?_
      rw [hpoisoned.2,h4] at hmem
      split at hmem <;> simpa using hmem
    cases ok
    · exact fun _ _ => hsame
    refine .bind (.mono (exchange_ends (z := false) (e := .einval) _) ?_)
    rintro incoming c2 ⟨hworld2, htraffic2, -⟩
    refine .read_bind (.bind ((closeFds_aside _).ends fun _ c3 h3 => ?_))
    simp only [aside,Frame.same,Prod.mk.injEq] at h3
    have htraffic3 := h3.2.1.trans htraffic2
    split
    · exact .bind (hpoison htraffic3)
    next received hreply =>
      split
      · refine .bind ((closeFds_aside _).ends fun _ c4 h4 => ?_)
        simp only [aside,Frame.same,Prod.mk.injEq] at h4
        exact .bind (hpoison (h4.2.1.trans htraffic3))
      · refine ⟨_, incoming, received, hreply, rfl, ?_, ?_⟩
        · exact (h3.1.trans hworld2).trans (hworld ▸ rfl)
        · refine congrArg (· ++ [Traffic.answered request received]) (htraffic3.trans ?_)
          cases hconnected : c.connected <;> simpa [hconnected] using htraffic
end LinDeX.Gateway
