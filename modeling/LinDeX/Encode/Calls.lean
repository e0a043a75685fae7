import LinDeX.Encode.Finish

/-!
# Every call follows the ledger

The other calls of the runtime, and with them all runs: what the tables hold after any calls is
what a trace of acts leaves in a ledger that was empty, and the log is the log of that trace.
-/
namespace LinDeX.Encode
open Vaapi Dmabuf Program Run Function List
variable {ω α : Type} {s t u : Machine ω} {L M : Ledger} {i : Fin 4} {k : Fin 64} {b : Fin 256}
def follows : Frame (Machine ω) where
  rel s t := ∀ L, Books s.runtime L → ∃ M, Moves s L t M
  refl _ L h := ⟨L,.refl h⟩
  trans hst htu L h := by
    obtain ⟨M,hM⟩ := hst L h
    obtain ⟨N,hN⟩ := htu M hM.books
    exact ⟨N,hM.trans hN⟩
variable {m : Prog ω α}
theorem keeps_follows_of_quiet (h : Keeps quiet m) : Keeps follows m :=
  h.mono fun _ _ hst L hL => ⟨L,.of_quiet hL hst⟩
theorem keeps_follows_of_silent (h : Keeps silent m) : Keeps follows m :=
  keeps_follows_of_quiet (keeps_quiet_of_silent h)

theorem keeps_follows_of_moves
    (h : ∀ s L, Books s.runtime L → Ends m (fun _ t => ∃ M, Moves s L t M) s) :
    Keeps follows m := fun s L hL => h s L hL

theorem setContext_moves {c : Context} (h : Books s.runtime L) (hc : c.Fits (L.queue i))
    (heos : c.eos = (s.runtime.contexts i).eos ∨ c.eos = EosState.init) :
    Moves s L { s with runtime := s.runtime.setContext i c } L := by
  refine .idle rfl (h.setContext hc) fun j => ?_
  by_cases hj : j = i
  · subst hj
    simpa only [Runtime.setContext,update_self] using heos
  · simp only [Runtime.setContext,update_of_ne hj,true_or]

theorem setSurface_moves {v : Surface} (h : Books s.runtime L)
    (hv : v.book = (s.runtime.surfaces k).book ∨ ¬ (s.runtime.surfaces k).Waits ∧ ¬ v.Waits) :
    Moves s L { s with runtime := s.runtime.setSurface k v } L :=
  .idle rfl (h.setSurface hv) (eosKept_of_contexts rfl)

theorem allocate_moves {v : Buffer} (h : Books s.runtime L) (hold : ¬ (s.runtime.buffers b).Awaits)
    (hnew : ¬ v.Awaits) (houtput : v.output.segments = []) :
    Moves s L { s with runtime := s.runtime.setBuffer b v, events := s.events ++ [.allocated b] }
      (L.setHeld b []) := by
  refine .act (.allocate b) rfl ?_ (eosKept_of_contexts rfl)
  refine h.setBuffer (.inr ⟨hold,hnew⟩) (fun _ => ?_) (fun b' hb' => ?_) rfl
  · rw [houtput,Ledger.setHeld_self]
  · exact Ledger.setHeld_of_ne _ _ hb'

theorem zeroBuffer_moves (h : Books s.runtime L) (hold : ¬ (s.runtime.buffers b).Awaits) :
    Moves s L { s with runtime := s.runtime.setBuffer b Buffer.zero } L := by
  refine .idle rfl ?_ (eosKept_of_contexts rfl)
  refine h.setBuffer (.inr ⟨hold,fun hno => absurd hno.1 Bool.false_ne_true⟩) (fun hno => ?_)
    (fun _ _ => rfl) rfl
  exact absurd hno Bool.false_ne_true

theorem modifyBuffer_follows (b : Fin 256) {f : Buffer → Buffer}
    (hbook : ∀ v, (f v).book = v.book) (houtput : ∀ v, (f v).output = v.output) :
    Keeps follows (modifyBuffer b f : Prog ω Unit) := by
  refine .update fun s L h => ⟨L,.idle rfl ?_ (eosKept_of_contexts rfl)⟩
  refine h.setBuffer (.inl (hbook _)) (fun hused => ?_) (fun _ _ => rfl) rfl
  have hsame := hbook (s.runtime.buffers b)
  simp only [Buffer.book,Prod.mk.injEq] at hsame
  rw [houtput]
  exact h.held b (hsame.1 ▸ hused)

theorem modifyContext_follows (i : Fin 4) {f : Context → Context}
    (h : ∀ c q, c.Fits q → (f c).Fits q) (heos : ∀ c, (f c).eos = c.eos) :
    Keeps follows (modifyContext i f : Prog ω Unit) :=
  Keeps.update fun _ L hL => ⟨L,setContext_moves hL (h _ _ (hL.fits i)) (.inl (heos _))⟩

theorem modifyConfig_follows (c : Fin 8) (f : Config → Config) :
    Keeps follows (modifyConfig c f : Prog ω Unit) :=
  keeps_follows_of_quiet fun _ => quiet_iff.mpr ⟨rfl,fun _ => rfl,rfl,rfl⟩

section
variable (env : Env ω)
theorem createConfig_follows (profile : VaProfile) (entrypoint : VaEntrypoint)
    (attributes : List ConfigAttrib) :
    Keeps follows (createConfig profile entrypoint attributes : Prog ω _) := by
  refine .read_bind fun rt => ?_
  split
  · exact .pure _
  split
  · exact .pure _
  · exact .bind (modifyConfig_follows _ _) fun _ => .pure _

theorem destroyConfig_follows (configId : UInt32) :
    Keeps follows (destroyConfig configId : Prog ω _) := by
  refine .read_bind fun rt => ?_
  split
  · exact .pure _
  · exact .ite (.pure _)
      (.bind (modifyConfig_follows _ _) fun _ => .pure _)

theorem cleared_moves (h : Books s.runtime L) (hk : ¬ (s.runtime.surfaces k).Waits)
    (hst : Cleared k s t) : Moves s L t L := by
  refine .idle hst.2 ?_ (eosKept_of_contexts (by rw [hst.1]; rfl))
  rw [hst.1]
  exact h.setSurface (.inr ⟨hk,fun hno => Bool.false_ne_true hno.1⟩)

theorem forM_clearSurface_moves (slots : List (Fin 64)) (h : Books s.runtime L)
    (hslots : ∀ k ∈ slots, ¬ (s.runtime.surfaces k).Waits) :
    Ends (slots.forM (clearSurface env)) (fun _ t => Moves s L t L) s := by
  have hloop : Ends (slots.forM (clearSurface env)) (fun _ t => Moves s L t L ∧ _) s :=
    Ends.forM (I := fun left (t : Machine ω) => Moves s L t L ∧
      ∀ k ∈ left, ¬ (t.runtime.surfaces k).Waits)
      (fun k left t ht => ?_) ⟨.refl h,hslots⟩
  · exact hloop.1
  refine (clearSurface_cleared env k t).mono fun _ u hu => ?_
  refine ⟨ht.1.trans (cleared_moves ht.1.books (ht.2 k mem_cons_self) hu),fun k' hk' => ?_⟩
  rw [hu.1]
  by_cases hkk : k' = k
  · rw [hkk,setSurface_self]
    exact fun hno => Bool.false_ne_true hno.1
  · rw [setSurface_of_ne _ _ hkk]
    exact ht.2 k' (mem_cons_of_mem _ hk')

theorem not_waits_of_unused {v : Surface} (h : v.used = false) : ¬ v.Waits :=
  fun hno => absurd (h.symm.trans hno.1) Bool.false_ne_true

theorem allocateSurfaces_moves (width height : UInt32) (count : Nat)
    (attributes : List SurfaceAttrib) (slots allocated : List (Fin 64)) (h : Books s.runtime L)
    (hallocated : ∀ k ∈ allocated, ¬ (s.runtime.surfaces k).Waits) :
    Ends (allocateSurfaces env width height count attributes slots allocated) (fun r t =>
      Moves s L t L ∧ ∀ k ∈ r.2, ¬ (t.runtime.surfaces k).Waits) s := by
  induction slots generalizing s allocated with
  | nil => exact .pure ⟨.refl h,hallocated⟩
  | cons k slots ih =>
    refine .read_bind ?_
    split
    · exact .pure ⟨.refl h,hallocated⟩
    split
    · exact ih allocated h hallocated
    rename_i hfree
    have hunused : ¬ (s.runtime.surfaces k).Waits :=
      not_waits_of_unused (Bool.eq_false_iff.mpr hfree)
    -- what is written to the slot is without a frame
    have hset {t : Machine ω} (ht : Moves s L t L ∧ ∀ k' ∈ k :: allocated,
        ¬ (t.runtime.surfaces k').Waits) {v : Surface} (hv : ¬ v.Waits) :
        Moves s L { t with runtime := t.runtime.setSurface k v } L ∧
          ∀ k' ∈ k :: allocated, ¬ ((t.runtime.setSurface k v).surfaces k').Waits := by
      refine ⟨ht.1.trans (setSurface_moves ht.1.books
        (.inr ⟨ht.2 k mem_cons_self,hv⟩)),fun k' hk' => ?_⟩
      by_cases hkk : k' = k
      · rwa [hkk,setSurface_self]
      · rw [setSurface_of_ne _ _ hkk]
        exact ht.2 k' hk'
    have hstart : ∀ k' ∈ k :: allocated, ¬ (s.runtime.surfaces k').Waits :=
      forall_mem_cons.mpr ⟨hunused,hallocated⟩
    have hcleared : ¬ Surface.cleared.Waits := not_waits_of_unused rfl
    refine .bind (.update (.bind ?_))
    refine (acquirePrime_silent env _ _ _ _ _ _).ends fun prime t1 h1 => ?_
    have ht1 : Moves s L t1 L ∧ ∀ k' ∈ k :: allocated, ¬ (t1.runtime.surfaces k').Waits := by
      obtain ⟨hmoves,hwaits⟩ := hset ⟨.refl h,hstart⟩ hcleared
      refine ⟨hmoves.trans (.of_silent hmoves.books h1),?_⟩
      rw [(silent_iff.mp h1).1]
      exact hwaits
    split
    · exact .pure ⟨ht1.1,fun k' hk' => ht1.2 k' (mem_cons_of_mem _ hk')⟩
    rename_i prime
    have hfresh : ¬ (Surface.fresh width height prime).Waits := fun hno => by
      exact absurd hno.2 (by simp [Surface.fresh,Surface.cleared,Surface.zero])
    obtain ⟨hmoves,hwaits⟩ := hset ht1 hfresh
    refine .bind (.update ((ih (allocated ++ [k]) hmoves.books ?_).mono fun r t ht => ?_))
    · intro k' hk'
      apply hwaits k'
      obtain hk' | hk' := mem_append.mp hk'
      · exact mem_cons_of_mem _ hk'
      · exact mem_singleton.mp hk' ▸ mem_cons_self
    · exact ⟨hmoves.trans ht.1,ht.2⟩

theorem createSurfaces_follows (format width height : UInt32) (count : Nat)
    (attributes : List SurfaceAttrib) :
    Keeps follows (createSurfaces env format width height count attributes) := by
  refine keeps_follows_of_moves fun s L h => ?_
  unfold createSurfaces
  iterate 2
    split
    · exact .pure ⟨L,.refl h⟩
  refine .bind ((allocateSurfaces_moves env width height count attributes _ [] h
    (fun _ hk => absurd hk not_mem_nil)).mono fun created t ht => ?_)
  split
  · refine .bind ((forM_clearSurface_moves env created.2 ht.1.books ht.2).mono fun _ u hu => ?_)
    exact .pure ⟨L,ht.1.trans hu⟩
  · exact .pure ⟨L,ht.1⟩
variable {rt : Runtime}
theorem not_waits_of_accepted {id : UInt32} (h : destroyRefused rt id = none)
    (hk : idIndex 64 typeSurface id = some k) : ¬ (rt.surfaces k).Waits := by
  intro hno
  have hfound : getSurface rt id = some k := getSurface_eq_some.mpr ⟨hk,hno.1⟩
  simp only [destroyRefused,hfound,hno.2,true_or,if_true] at h
  cases h

theorem destroySurfaces_follows (ids : List UInt32) : Keeps follows (destroySurfaces env ids) := by
  refine keeps_follows_of_moves fun s L h => .read_bind ?_
  split
  · exact .pure ⟨L,.refl h⟩
  rename_i hnone
  have hids : ∀ id ∈ ids, ∀ k, idIndex 64 typeSurface id = some k →
      ¬ (s.runtime.surfaces k).Waits := fun id hid k hk =>
    not_waits_of_accepted (List.findSome?_eq_none_iff.mp hnone id hid) hk
  have hloop : Ends (ids.forM (destroySurface env)) (fun _ t => Moves s L t L ∧ _) s :=
    Ends.forM (I := fun left (t : Machine ω) => Moves s L t L ∧
      ∀ id ∈ left, ∀ k, idIndex 64 typeSurface id = some k → ¬ (t.runtime.surfaces k).Waits)
      (fun id left t ht => ?_) ⟨.refl h,hids⟩
  · exact .bind (hloop.mono fun _ t ht => .pure ⟨L,ht.1⟩)
  have hleft := (forall_mem_cons.mp ht.2).2
  refine .read_bind ?_
  split
  · -- the lookup found nothing, and the log says so
    exact .update ⟨ht.1.trans (.act .stray rfl ht.1.books (eosKept_of_contexts rfl)),hleft⟩
  rename_i k hk
  refine (clearSurface_cleared env k t).mono fun _ u hu => ⟨?_,fun id' hid' k' hk' => ?_⟩
  · exact ht.1.trans (cleared_moves ht.1.books
      (ht.2 id mem_cons_self k (getSurface_eq_some.mp hk).1) hu)
  · rw [hu.1]
    by_cases hkk : k' = k
    · rw [hkk,setSurface_self]
      exact not_waits_of_unused rfl
    · rw [setSurface_of_ne _ _ hkk]
      exact hleft id' hid' k' hk'

theorem Books.queue_of_unused (h : Books rt L)
    (hunused : (rt.contexts i).used = false) : L.queue i = [] := by
  by_contra hne
  exact absurd (hunused.symm.trans ((h.fits i).live hne).1) Bool.false_ne_true

theorem createContext_follows (configId : UInt32) (width height : Int) (targets : List UInt32) :
    Keeps follows (createContext configId width height targets : Prog ω _) := by
  refine keeps_follows_of_moves fun s L h => ?_
  unfold createContext
  split
  · exact .pure ⟨L,.refl h⟩
  refine .read_bind ?_
  dsimp only
  iterate 4
    split
    · exact .pure ⟨L,.refl h⟩
  rename_i i hi
  have hempty : L.queue i = [] := by
    apply h.queue_of_unused
    simpa using Fin.eq_true_of_find?_eq_some hi
  have hset {c : Context} (hcount : c.pendingCount = 0) (heos : c.eos = EosState.init) :
      Moves s L { s with runtime := s.runtime.setContext i c } L :=
    setContext_moves h (hempty ▸ .nil hcount) (.inr heos)
  split
  · exact .bind (.update (.pure ⟨L,hset rfl rfl⟩))
  · exact .bind (.update (.pure ⟨L,hset rfl rfl⟩))

theorem not_awaits_of_unused {v : Buffer} (h : v.used = false) : ¬ v.Awaits :=
  fun hno => absurd (h.symm.trans hno.1) Bool.false_ne_true
variable (contextId : UInt32)
theorem createBuffer_follows (type : EncBufferType)
    (size numElements : UInt32) (data : Option (List UInt8)) :
    Keeps follows (createBuffer env contextId type size numElements data) := by
  refine keeps_follows_of_moves fun s L h => ?_
  unfold createBuffer
  iterate 2
    split
    · exact Ends.pure ⟨L,.refl h⟩
  apply Ends.read_bind
  iterate 2
    split
    · exact Ends.pure ⟨L,.refl h⟩
  rename_i b hb
  have hunused : (s.runtime.buffers b).used = false := by
    simpa using Fin.eq_true_of_find?_eq_some hb
  split
  · refine Ends.bind (Ends.update (Ends.bind (Ends.update (Ends.pure ⟨L.setHeld b [],?_⟩))))
    exact allocate_moves h (not_awaits_of_unused hunused) (fun hno => hno.2 rfl) rfl
  refine Ends.bind ((io_silent _).ends fun allocated t1 h1 => ?_)
  have hmoves1 := Moves.of_silent h h1
  have hunused1 : ¬ (t1.runtime.buffers b).Awaits := by
    rw [(silent_iff.mp h1).1]
    exact not_awaits_of_unused hunused
  split
  · exact Ends.bind (Ends.update (Ends.pure ⟨_,hmoves1.trans
      (zeroBuffer_moves hmoves1.books hunused1)⟩))
  · refine Ends.bind (Ends.update (Ends.bind (Ends.update (Ends.pure
      ⟨L.setHeld b [],hmoves1.trans ?_⟩))))
    exact allocate_moves hmoves1.books hunused1 (fun hno => hno.2 rfl) rfl

theorem bufferSetNumElements_follows (bufferId numElements : UInt32) :
    Keeps follows (bufferSetNumElements bufferId numElements : Prog ω _) := by
  refine .ite (.pure _) (.read_bind fun rt => ?_)
  split
  · exact .pure _
  refine .ite (.pure _) ?_
  exact .bind (modifyBuffer_follows _ (fun _ => rfl) fun _ => rfl) fun _ => .pure _

theorem awaitBuffer_follows (b : Fin 256) : Keeps follows (awaitBuffer env b) := by
  refine keeps_follows_of_moves fun s L h => .read_bind ?_
  iterate 2
    split
    · exact .pure ⟨L,.refl h⟩
  · rename_i k hk
    exact syncSurfaceLocked_moves env h (getSurface_eq_some.mp hk).2 _
variable (bufferId : UInt32)
theorem mapBuffer_follows : Keeps follows (mapBuffer env bufferId) := by
  refine .read_bind fun rt => ?_
  split
  · exact .pure _
  refine .ite (.pure _) (.bind (awaitBuffer_follows env _) fun status => ?_)
  refine .ite (.pure _) (.read_bind fun rt => .ite (.pure _) ?_)
  exact .bind (modifyBuffer_follows _ (fun _ => rfl) fun _ => rfl) fun _ => .pure _

theorem unmapBuffer_follows :
    Keeps follows (unmapBuffer bufferId : Prog ω _) := by
  refine .read_bind fun rt => ?_
  split
  · exact .pure _
  refine .ite (.pure _) ?_
  exact .bind (modifyBuffer_follows _ (fun _ => rfl) fun _ => rfl) fun _ => .pure _

theorem writeMapped_follows (bytes : List UInt8) :
    Keeps follows (writeMapped bufferId bytes : Prog ω _) := by
  refine .read_bind fun rt => ?_
  split
  · exact .pure _
  · exact .whenever (modifyBuffer_follows _ (fun _ => rfl) fun _ => rfl)

theorem destroyBuffer_follows :
    Keeps follows (destroyBuffer bufferId : Prog ω _) := by
  refine keeps_follows_of_moves fun s L h => .read_bind ?_
  iterate 2
    split
    · exact .pure ⟨L,.refl h⟩
  rename_i hfree
  have hold : ¬ (s.runtime.buffers _).Awaits := fun hno => hfree (.inr hno.2)
  exact .bind (.update (.pure
    ⟨_,zeroBuffer_moves h hold⟩))

theorem Context.Fits.of_picture {c c' : Context} {q : List Waiting} (h : c.Fits q)
    (hsame : c'.pendingCount = c.pendingCount ∧ c'.frameIndex = c.frameIndex ∧
    c'.used = c.used ∧ c'.brokerOpen = c.brokerOpen ∧ c'.broker = c.broker)
    (hactive : c'.pictureActive = true → q.length < 4 ∧ ∀ e ∈ q, e.surface ≠ c'.target) :
    c'.Fits q := by
  obtain ⟨hcount,hindex,hused,hopen,hbroker⟩ := hsame
  refine ⟨hcount ▸ h.count,h.bound,h.sorted,hindex ▸ h.indexed,fun hne => ?_,
    hbroker ▸ h.session,hactive⟩
  rw [hused,hopen]
  exact h.live hne

theorem not_waits_of_state {v : Surface} (h : v.state ≠ .pending) : ¬ v.Waits := fun hno => h hno.2

theorem beginPicture_follows (contextId target : UInt32) :
    Keeps follows (beginPicture env contextId target) := by
  refine keeps_follows_of_moves fun s L h => .read_bind ?_
  split
  · exact .pure ⟨L,.refl h⟩
  rename_i i hi
  dsimp only
  split
  · exact .pure ⟨L,.refl h⟩
  rename_i k hk
  have htarget := (Option.filter_eq_some_iff.mp hk).1
  split
  · exact .pure ⟨L,.refl h⟩
  refine .read_bind ?_
  split
  · exact .pure ⟨L,.refl h⟩
  rename_i hbusy
  simp only [beginBusy,Bool.or_eq_true,not_or,decide_eq_true_eq,beq_iff_eq] at hbusy
  obtain ⟨⟨⟨⟨-, -⟩,hroom⟩,hstate⟩, -⟩ := hbusy
  have hfits := h.fits i
  have hlength : (L.queue i).length < 4 := by
    rw [← hfits.count]
    exact Nat.lt_of_not_le hroom
  have hother : ∀ e ∈ L.queue i, e.surface ≠ target := by
    rintro e he rfl
    obtain ⟨k',b,hkb⟩ := h.enters i e he
    have hkk : k' = k := Option.some.inj (hkb.surface.symm.trans htarget)
    exact hstate (hkk ▸ hkb.state)
  have hbegun := setContext_moves h (c := { s.runtime.contexts i with
    frame := (s.runtime.contexts i).frame.begin, pictureActive := true, target := target })
    (hfits.of_picture ⟨rfl,rfl,rfl,rfl,rfl⟩ fun _ => ⟨hlength,hother⟩) (.inl rfl)
  refine .bind (.update (.bind (.update (.pure ⟨L,hbegun.trans ?_⟩))))
  refine setSurface_moves hbegun.books (.inr ⟨not_waits_of_state hstate,not_waits_of_state ?_⟩)
  simp

theorem renderBuffers_follows (i : Fin 4) (contextId : UInt32) (ids : List UInt32) :
    Keeps follows (renderBuffers env i contextId ids) := by
  induction ids with
  | nil => exact .pure _
  | cons id ids ih =>
    refine .read_bind fun rt => ?_
    split
    · exact .pure _
    dsimp only
    split
    · exact .pure _
    refine .ite (.pure _) ?_
    split
    · exact .pure _
    refine .bind (modifyContext_follows i (fun c q h => ?_) fun _ => rfl) fun _ => ih
    exact h.of_picture ⟨rfl,rfl,rfl,rfl,rfl⟩ h.active

theorem renderPicture_follows (ids : List UInt32) :
    Keeps follows (renderPicture env contextId ids) := by
  refine .read_bind fun rt => ?_
  split
  · exact .pure _
  · exact .ite (.pure _) (renderBuffers_follows env _ _ _)

theorem cancelPicture_follows (i : Fin 4) (status : VaStatus) :
    Keeps follows (cancelPicture i status : Prog ω _) := by
  refine .bind (modifyContext_follows i (fun c q h => ?_) fun _ => rfl) fun _ => .pure _
  exact h.of_picture ⟨rfl,rfl,rfl,rfl,rfl⟩ fun hno => absurd hno Bool.false_ne_true

theorem Moves.then {m : Prog ω α} (hst : Moves s L t M) (hm : Keeps follows m) :
    Ends m (fun _ u => ∃ N, Moves s L u N) t := by
  obtain ⟨N,hN⟩ := hm t M hst.books
  exact ⟨N,hst.trans hN⟩

theorem cancelSurface_moves (hst : Moves s L t M) (hk : ¬ (t.runtime.surfaces k).Waits)
    (e : Errno) : Ends (cancelSurface i k e) (fun _ u => ∃ N, Moves s L u N) t := by
  refine Ends.bind (Ends.update (Moves.then (M := M) (hst.trans ?_) (cancelPicture_follows i _)))
  exact setSurface_moves hst.books (.inr ⟨hk,not_waits_of_state (by simp)⟩)

theorem Submittable.of_quiet (h : Submittable s.runtime i k b) (hst : quiet.rel s t) :
    Submittable t.runtime i k b := by
  obtain ⟨hcontexts,hsurfaces,hbuffers, -⟩ := quiet_iff.mp hst
  have hbook := hsurfaces k
  simp only [Surface.book,Prod.mk.injEq] at hbook
  have hsurface : getSurface t.runtime = getSurface s.runtime := by
    refine getSurface_congr fun k' => ?_
    have hbook' := hsurfaces k'
    simp only [Surface.book,Prod.mk.injEq] at hbook'
    exact hbook'.1
  have hbuffer : getBuffer t.runtime = getBuffer s.runtime :=
    getBuffer_congr fun b' => by rw [hbuffers]
  refine ⟨?_,?_,?_,?_,?_,?_,?_⟩
  · exact hcontexts ▸ h.used
  · exact hcontexts ▸ h.opened
  · exact hcontexts ▸ h.active
  · rw [hsurface,hcontexts]
    exact h.surface
  · rw [hbuffer,hcontexts]
    exact h.buffer
  · rw [hbook.2.2.1]
    exact h.owner
  · rw [hbook.2.2.1,hbuffers]
    exact h.ready

def Machine.logged (s : Machine ω) (events : List Event) : Machine ω :=
  { s with events := s.events ++ events }
def Context.submission (c : Context) (i : Fin 4) : Event :=
  .submitted i c.target c.frame.codedBuffer

/-- A submission fails before the broker takes the frame or after it, or succeeds. -/
inductive Submitted (i : Fin 4) (s : Machine ω) : Bool → Machine ω → Prop
  | refused {t : Machine ω} (h : quiet.rel s t) : Submitted i s false t
  | lost {t : Machine ω}
      (h : quiet.rel (s.logged [(s.runtime.contexts i).submission i,.abandoned i]) t) :
      Submitted i s false t
  | taken {t : Machine ω} (hsession : (s.runtime.contexts i).broker.Valid)
      (h : quiet.rel (s.logged [(s.runtime.contexts i).submission i]) t) : Submitted i s true t

theorem Submitted.then_quiet {ok : Bool} (h : Submitted i s ok t) (htu : quiet.rel t u) :
    Submitted i s ok u := by
  cases h with
  | refused h => exact .refused (quiet.trans h htu)
  | lost h => exact .lost (quiet.trans h htu)
  | taken hsession h => exact .taken hsession (quiet.trans h htu)

theorem logged_silent (h : silent.rel s t) (events : List Event) :
    silent.rel (s.logged events) (t.logged events) := by
  obtain ⟨hruntime,hevents⟩ := silent_iff.mp h
  refine silent_iff.mpr ⟨hruntime,?_⟩
  simp only [Machine.logged,hevents]

theorem logged_logged (s : Machine ω) (events later : List Event) :
    (s.logged events).logged later = s.logged (events ++ later) := by
  simp only [Machine.logged,append_assoc]

theorem brokerSubmitSurface_submitted (bufferId ptsNs : UInt64) (fence : Fd) (s : Machine ω) :
    Ends (brokerSubmitSurface env i bufferId ptsNs fence)
      (fun r t => Submitted i s r.toOption.isSome t) s := by
  refine .read_bind ?_
  dsimp only
  split
  · exact .pure (.refused (quiet.refl s))
  rename_i hvalid
  have hsession : (s.runtime.contexts i).broker.Valid :=
    ⟨Int.not_lt.mp fun hno => hvalid (.inl hno),fun hno => hvalid (.inr (.inl hno))⟩
  refine .bind ((io_silent _).ends fun queued t1 h1 => ?_)
  split
  · exact .pure (.refused (quiet_of_silent h1))
  refine .bind (.update (.bind ((io_silent _).ends fun completed t2 h2 => ?_)))
  have hlogged := silent.trans (logged_silent h1 [(s.runtime.contexts i).submission i]) h2
  split
  · refine .bind ((closeFd_silent env _).ends fun _ t3 h3 => ?_)
    refine .bind (.update (.pure (.lost (quiet_of_silent ?_))))
    have hlost := logged_silent (silent.trans hlogged h3) [.abandoned i]
    rwa [logged_logged] at hlost
  · exact .pure (.taken hsession (quiet_of_silent hlogged))

theorem linkSubmit_submitted (ptsNs : UInt64) (s : Machine ω) :
    Ends (linkSubmit env i k ptsNs) (fun r t => Submitted i s r.toOption.isSome t) s := by
  refine .read_bind ?_
  iterate 2
    split
    · exact .pure (.refused (quiet.refl s))
  refine .bind ((brokerSubmitSurface_submitted env _ _ _ s).mono fun r t1 h1 => ?_)
  split
  · exact .pure h1
  refine .bind ((keeps_quiet_of_silent (closeFd_silent env _)).ends fun _ t2 h2 => ?_)
  refine .bind ((modifyLink_quiet k _).ends fun _ t3 h3 => .pure ?_)
  exact h1.then_quiet (quiet.trans h2 h3)

theorem framePtsNs_index {index : UInt64} {fps : UInt32} {ptsNs : UInt64}
    (h : framePtsNs index fps = some ptsNs) : index.toNat + 1 < 2 ^ 64 := by
  unfold framePtsNs at h
  split at h
  · cases h
  · rename_i hnot
    have hle := UInt64.le_iff_toNat_le.mp (UInt64.not_lt.mp fun hlt => hnot (.inr hlt))
    exact lt_of_le_of_lt (Nat.succ_le_succ hle) (by decide)

theorem logged_moves {events : List Event} (h : Books s.runtime L) (hact : Act L events L) :
    Moves s L (s.logged events) L := .act hact rfl h (eosKept_of_contexts rfl)

theorem enqueueFrame_moves {ptsNs : UInt64} (h : Books s.runtime L)
    (hs : Submittable s.runtime i k b) (hsession : (s.runtime.contexts i).broker.Valid)
    (hindex : (s.runtime.contexts i).frameIndex.toNat + 1 < 2 ^ 64)
    (hst : quiet.rel (s.logged [(s.runtime.contexts i).submission i]) t) :
    ∃ M, Moves s L { t with runtime := enqueueFrame t.runtime i k b ptsNs } M := by
  have hbooks : Books t.runtime L := Books.of_quiet (s := s.logged _) h hst
  have hsubmit : Submittable t.runtime i k b := Submittable.of_quiet (s := s.logged _) hs hst
  obtain ⟨hcontexts, -, -,hevents⟩ := quiet_iff.mp hst
  have hcontext : t.runtime.contexts i = s.runtime.contexts i := congrFun hcontexts i
  refine ⟨_,.act (.submit (i := i) (t.runtime.contexts i).entry b
    (getBuffer_eq_some.mp hsubmit.buffer).1) ?_ (hbooks.enqueue hsubmit ?_ ?_ ptsNs)
    fun j => .inl ?_⟩
  · rw [hcontext]
    exact hevents
  · rwa [hcontext]
  · rwa [hcontext]
  · have hsame : t.runtime.contexts j = s.runtime.contexts j := congrFun hcontexts j
    by_cases hj : j = i
    · subst hj
      simp only [enqueueFrame,update_self,hsame]
    · simp only [enqueueFrame,update_of_ne hj,hsame]

theorem submitFrame_moves (h : Books s.runtime L) (hs : Submittable s.runtime i k b) :
    Ends (submitFrame env i k b) (fun _ t => ∃ M, Moves s L t M) s := by
  have hlose : Moves s L (s.logged [(s.runtime.contexts i).submission i,.abandoned i]) L :=
    logged_moves h (.lose _ _)
  have hfree {t : Machine ω} {events : List Event} (hst : quiet.rel (s.logged events) t) :
      ¬ (t.runtime.surfaces k).Waits :=
    (Books.of_quiet (s := s.logged events) h hst).surface_free
      (Submittable.of_quiet (s := s.logged events) hs hst)
  refine .read_bind ?_
  split
  · exact .bind (.read (cancelSurface_moves (.refl h) (h.surface_free hs) _))
  rename_i ptsNs hpts
  refine .bind ((linkSubmit_submitted env ptsNs s).mono fun r t1 h1 => ?_)
  split
  · cases h1 with
    | refused hst =>
      exact cancelSurface_moves (.of_quiet h hst)
        ((h.of_quiet hst).surface_free (hs.of_quiet hst)) _
    | lost hst => exact cancelSurface_moves (hlose.trans (.of_quiet hlose.books hst)) (hfree hst) _
  cases h1 with
  | taken hsession hst =>
    have hsignal (c : Bool) : Keeps silent (if c = true then
        brokerSignalEos env (s.runtime.contexts i).broker ptsNs else pure (.ok ())) :=
      Keeps.ite (brokerSignalEos_silent env _ _) (.pure _)
    refine .bind (.read (.bind ((hsignal _).ends fun signalled t2 h2 => ?_)))
    have hst2 := quiet.trans hst (quiet_of_silent h2)
    split
    · refine .bind (.update ?_)
      have hlost : quiet.rel (s.logged [(s.runtime.contexts i).submission i,.abandoned i])
          (t2.logged [.abandoned i]) := by
        obtain ⟨hcontexts,hsurfaces,hbuffers,hevents⟩ := quiet_iff.mp hst2
        refine quiet_iff.mpr ⟨hcontexts,hsurfaces,hbuffers,?_⟩
        simp only [Machine.logged] at hevents ⊢
        rw [hevents,append_assoc]
        rfl
      exact cancelSurface_moves (hlose.trans (.of_quiet hlose.books hlost)) (hfree hlost) _
    · refine .bind (.update (.pure ?_))
      exact enqueueFrame_moves h hs hsession (framePtsNs_index hpts) hst2

structure Ready (rt : Runtime) (i : Fin 4) (contextId : UInt32) (k : Fin 64) (b : Fin 256) :
    Prop where
  context : getContext rt contextId = some i
  active : (rt.contexts i).pictureActive = true
  surface : getSurface rt (rt.contexts i).target = some k
  buffer : getBuffer rt (rt.contexts i).frame.codedBuffer = some b
  coded : codedBufferReady (rt.buffers b) contextId = true

theorem Ready.connected {contextId : UInt32} (h : Ready rt i contextId k b)
    (session : Broker) (frameSession : Bool) :
    Ready (rt.setContext i ((rt.contexts i).connected session frameSession)) i contextId k b := by
  have hself : (rt.setContext i ((rt.contexts i).connected session frameSession)).contexts i =
      (rt.contexts i).connected session frameSession := update_self ..
  obtain ⟨hid,hused⟩ := getContext_eq_some.mp h.context
  refine ⟨getContext_eq_some.mpr ⟨hid,?_⟩,?_,?_,?_,h.coded⟩
  · rw [hself]
    exact hused
  · rw [hself]
    exact h.active
  · rw [hself]
    exact h.surface
  · rw [hself]
    exact h.buffer

theorem ensureBroker_moves {contextId : UInt32} (h : Books s.runtime L)
    (hr : Ready s.runtime i contextId k b) :
    Ends (ensureBroker env i) (fun r t => Moves s L t L ∧ (r = .ok () →
      (t.runtime.contexts i).brokerOpen = true ∧ Ready t.runtime i contextId k b)) s := by
  apply Ends.read_bind
  split
  · rename_i hopen
    exact .pure ⟨.refl h,fun _ => ⟨hopen,hr⟩⟩
  rename_i hclosed
  refine Ends.bind ((brokerOpen_silent env _ _ _ _ _ _).ends fun opened t1 h1 => ?_)
  have hmoves1 := Moves.of_silent h h1
  split
  · exact .pure ⟨hmoves1,fun hno => by cases hno⟩
  rename_i session
  have hempty : L.queue i = [] := by
    by_contra hne
    exact hclosed ((h.fits i).live hne).2
  have hcount : (t1.runtime.contexts i).pendingCount = 0 := by
    have hlength := (hmoves1.books.fits i).count
    rw [hempty] at hlength
    exact UInt32.toNat_inj.mp hlength
  have hfits (frameSession : Bool) :
      ((t1.runtime.contexts i).connected session frameSession).Fits (L.queue i) := by
    rw [hempty]
    exact .nil hcount
  have hconnected (frameSession : Bool) :=
    setContext_moves hmoves1.books (hfits frameSession) (.inr rfl)
  refine .bind (.read (.bind (.update (.bind (.update (.pure ?_))))))
  refine ⟨(hmoves1.trans (hconnected _)).trans (logged_moves (hconnected _).books (.opened hempty)),
    fun _ => ⟨?_,?_⟩⟩
  · simp only [Runtime.setContext,update_self,Context.connected]
  · have hready : Ready t1.runtime i contextId k b := (silent_iff.mp h1).1 ▸ hr
    exact hready.connected session _

theorem linkSurface_moves (h : Books s.runtime L) (hs : Submittable s.runtime i k b) :
    Ends (linkSurface env i k) (fun r t => Moves s L t L ∧ (r = .ok () → quiet.rel s t)) s := by
  refine Ends.bind (Ends.read (Ends.bind ?_))
  have hfence : Keeps quiet (if (s.runtime.surfaces k).writeExported = true then
      takeAcquireFence env k else pure (.ok ())) :=
    Keeps.ite (takeAcquireFence_quiet env k) (Keeps.pure _)
  refine hfence.ends fun fenced t1 h1 => ?_
  split
  · refine Ends.bind (Ends.update (Ends.pure ⟨?_,fun hno => by cases hno⟩))
    refine (Moves.of_quiet h h1).trans (setSurface_moves (h.of_quiet h1) (.inr ⟨?_,?_⟩))
    · exact (h.of_quiet h1).surface_free (hs.of_quiet h1)
    · exact not_waits_of_state (by simp)
  · refine Keeps.ends (F := quiet) ?_ fun r t ht =>
      ⟨.of_quiet h (quiet.trans h1 ht),fun _ => quiet.trans h1 ht⟩
    refine Keeps.bind (modifySurface_quiet k fun _ => rfl) fun _ => ?_
    refine Keeps.read_bind fun v => Keeps.ite (Keeps.pure _) ?_
    refine Keeps.bind (linkRegister_quiet env i k) fun r => ?_
    split <;> exact Keeps.pure _

theorem endFrame_moves {contextId : UInt32} (h : Books s.runtime L)
    (hr : Ready s.runtime i contextId k b) :
    Ends (endFrame env i contextId k b) (fun _ t => ∃ M, Moves s L t M) s := by
  refine .bind ((ensureBroker_moves env h hr).mono fun ensured t1 h1 => ?_)
  obtain ⟨hmoves1,hok⟩ := h1
  split
  · exact hmoves1.then (cancelPicture_follows i _)
  obtain ⟨hopen,hr1⟩ := hok rfl
  obtain ⟨hid,hused⟩ := getContext_eq_some.mp hr1.context
  -- a surface that waits has an owner, so that it is left as it is
  have howned : Moves t1 L { t1 with
      runtime := t1.runtime.setSurface k ((t1.runtime.surfaces k).claimed contextId) } L := by
    apply setSurface_moves hmoves1.books
    by_cases hwaits : (t1.runtime.surfaces k).Waits
    · refine .inl ?_
      obtain ⟨j,e, -,b',hkb⟩ := hmoves1.books.frame_of_surface hwaits
      have hne : (t1.runtime.surfaces k).ownerContext ≠ 0 := fun hzero => by
        have howner := hkb.owner
        rw [hzero,idIndex_context_zero] at howner
        cases howner
      simp only [Surface.claimed,Surface.book,if_neg hne]
    · exact .inr ⟨hwaits,hwaits⟩
  have hmoves2 := hmoves1.trans howned
  refine .bind (.update (.read_bind ?_))
  split
  · exact hmoves2.then (cancelPicture_follows i _)
  rename_i howner
  have howner := not_not.mp howner
  rw [setSurface_self] at howner
  have hs2 : Submittable
      (t1.runtime.setSurface k ((t1.runtime.surfaces k).claimed contextId)) i k b := by
    have hsurface : getSurface (t1.runtime.setSurface k
        ((t1.runtime.surfaces k).claimed contextId)) = getSurface t1.runtime := by
      refine getSurface_congr fun k' => ?_
      by_cases hk : k' = k
      · rw [hk,setSurface_self]
        rfl
      · rw [setSurface_of_ne _ _ hk]
    refine ⟨hused,hopen,hr1.active,hsurface ▸ hr1.surface,hr1.buffer,?_,?_⟩
    · rw [setSurface_self,howner]
      exact hid
    · rw [setSurface_self,howner]
      exact hr1.coded
  refine .bind ((prepareEncodeInput_quiet env i k).ends fun prepared t3 h3 => ?_)
  have hmoves3 := hmoves2.trans (.of_quiet hmoves2.books h3)
  split
  · exact hmoves3.then (cancelPicture_follows i _)
  refine .bind ((linkSurface_moves env hmoves3.books (Submittable.of_quiet hs2 h3)).mono
    fun linked t4 h4 => ?_)
  split
  · exact (hmoves3.trans h4.1).then (cancelPicture_follows i _)
  refine (submitFrame_moves env h4.1.books
    (Submittable.of_quiet (Submittable.of_quiet hs2 h3) (h4.2 rfl))).mono fun _ t ht => ?_
  obtain ⟨M,hM⟩ := ht
  exact ⟨M,(hmoves3.trans h4.1).trans hM⟩

theorem endPicture_follows : Keeps follows (endPicture env contextId) := by
  refine keeps_follows_of_moves fun s L h => .read_bind ?_
  split
  · exact .pure ⟨L,.refl h⟩
  rename_i i hi
  dsimp only
  split
  · exact .pure ⟨L,.refl h⟩
  rename_i hactive
  split
  · exact (Moves.refl h).then (cancelPicture_follows i _)
  rename_i k hk
  iterate 2
    split
    · exact (Moves.refl h).then (cancelPicture_follows i _)
  rename_i b hb
  obtain ⟨hbuffer,hcoded⟩ := Option.filter_eq_some_iff.mp hb
  exact endFrame_moves env h ⟨hi,by simpa using hactive,hk,hbuffer,hcoded⟩
variable (surfaceId : UInt32)
theorem syncSurface_follows (timeoutNs : UInt64) :
    Keeps follows (syncSurface env surfaceId timeoutNs) := by
  refine keeps_follows_of_moves fun s L h => .read_bind ?_
  split
  · exact .pure ⟨L,.refl h⟩
  · rename_i k hk
    exact syncSurfaceLocked_moves env h (getSurface_eq_some.mp hk).2 _

theorem syncBuffer_follows (timeoutNs : UInt64) :
    Keeps follows (syncBuffer env bufferId timeoutNs) := by
  refine keeps_follows_of_moves fun s L h => .read_bind ?_
  iterate 3
    split
    · exact .pure ⟨L,.refl h⟩
  · rename_i k hk
    exact syncSurfaceLocked_moves env h (getSurface_eq_some.mp hk).2 _

theorem awaitSurface_moves (h : Books s.runtime L) (hused : (s.runtime.surfaces k).used = true) :
    Ends (awaitSurface env k) (fun _ t => ∃ M, Moves s L t M) s := by
  refine .read_bind ?_
  split
  · exact syncSurfaceLocked_moves env h hused _
  · exact .pure ⟨L,.refl h⟩

theorem exportSurface_follows (surfaceId memType flags : UInt32) :
    Keeps follows (exportSurface env surfaceId memType flags) := by
  refine keeps_follows_of_moves fun s L h => ?_
  unfold exportSurface
  split
  · exact .pure ⟨L,.refl h⟩
  refine .read_bind ?_
  split
  · exact .pure ⟨L,.refl h⟩
  rename_i k hk
  refine .bind ((awaitSurface_moves env h (getSurface_eq_some.mp hk).2).mono fun r t ht => ?_)
  obtain ⟨M,hM⟩ := ht
  split
  · exact .pure ⟨M,hM⟩
  refine hM.then (.bind ?_ fun checked => .ite (.pure _) ?_)
  · exact .ite (keeps_follows_of_silent (checkWriteExport_silent env k)) (.pure _)
  refine .read_bind fun v => ?_
  refine .bind (keeps_follows_of_silent (io_silent _)) fun status => ?_
  refine .bind (.whenever ?_) fun _ => .pure _
  exact keeps_follows_of_quiet (modifySurface_quiet k fun _ => rfl)

theorem imageAcquireSurface_follows (write : Bool) :
    Keeps follows (imageAcquireSurface env surfaceId write) := by
  refine keeps_follows_of_moves fun s L h => .read_bind ?_
  split
  · exact .pure ⟨L,.refl h⟩
  rename_i k hk
  split
  · exact .pure ⟨L,.refl h⟩
  refine .bind ((awaitSurface_moves env h (getSurface_eq_some.mp hk).2).mono fun r t ht => ?_)
  obtain ⟨M,hM⟩ := ht
  split
  · exact .pure ⟨M,hM⟩
  refine hM.then (.read_bind fun v => .ite (.pure _) ?_)
  refine .read_bind fun valid => .ite (.pure _) ?_
  refine .bind (keeps_follows_of_silent (duplicateFds_silent env _ _ _)) fun dup => ?_
  split
  · exact .pure _
  refine .bind (keeps_follows_of_silent (.forM (closeFd_silent env))) fun _ => ?_
  exact .read_bind fun _ => .pure _

def Stands (s : Machine ω) (L : Ledger) : Prop :=
  Books s.runtime L ∧ ∀ i, (s.runtime.contexts i).eos = EosState.init

theorem stands_of_follows {m : Prog ω α} (hm : Keeps follows m) (h : Stands s L) :
    ∃ M, Stands (m s).2 M ∧ books.Goes s L (m s).2 M := by
  obtain ⟨M,hM⟩ := hm s L h.1
  exact ⟨M,⟨hM.books,fun i => (hM.2 i).elim (fun hsame => hsame.trans (h.2 i)) id⟩,hM.1⟩

theorem step_stands (h : Stands s L) (call : Call) :
    ∃ M, Stands (step env s call) M ∧ books.Goes s L (step env s call) M := by
  cases call with
  | createConfig => exact stands_of_follows (createConfig_follows _ _ _) h
  | destroyConfig => exact stands_of_follows (destroyConfig_follows _) h
  | createSurfaces => exact stands_of_follows (createSurfaces_follows env _ _ _ _ _) h
  | destroySurfaces => exact stands_of_follows (destroySurfaces_follows env _) h
  | createContext => exact stands_of_follows (createContext_follows _ _ _ _) h
  | destroyContext contextId =>
    obtain ⟨⟨M,hM⟩,heos, -⟩ := destroyContext_goes env contextId h.1 h.2
    exact ⟨M,⟨hM.1,heos⟩,hM⟩
  | createBuffer contextId type size numElements data =>
    exact stands_of_follows (createBuffer_follows env contextId type size numElements data) h
  | setNumElements => exact stands_of_follows (bufferSetNumElements_follows _ _) h
  | mapBuffer => exact stands_of_follows (mapBuffer_follows env _) h
  | writeMapped =>
    exact stands_of_follows (.bind (writeMapped_follows _ _) fun _ => .pure VaStatus.success) h
  | unmapBuffer => exact stands_of_follows (unmapBuffer_follows _) h
  | destroyBuffer => exact stands_of_follows (destroyBuffer_follows _) h
  | beginPicture => exact stands_of_follows (beginPicture_follows env _ _) h
  | renderPicture => exact stands_of_follows (renderPicture_follows env _ _) h
  | endPicture => exact stands_of_follows (endPicture_follows env _) h
  | syncSurface => exact stands_of_follows (syncSurface_follows env _ _) h
  | syncBuffer => exact stands_of_follows (syncBuffer_follows env _ _) h
  | querySurfaceStatus => exact ⟨L,h,.idle rfl h.1⟩
  | exportSurface => exact stands_of_follows (exportSurface_follows env _ _ _) h
  | imageAcquireSurface => exact stands_of_follows (imageAcquireSurface_follows env _ _) h

inductive Reachable : Machine ω → Prop
  | start (policy : Policy) (mode : ModifierMode) (writeExportReady : Bool) (w : ω) :
      Reachable (.start policy mode writeExportReady w)
  | step {s : Machine ω} (h : Reachable s) (call : Call) : Reachable (step env s call)

theorem Reachable.calls (h : Reachable env s) (calls : List Call) :
    Reachable env (calls.foldl (Encode.step env) s) := by
  induction calls generalizing s with
  | nil => exact h
  | cons call calls ih => exact ih (h.step call)

def Ledger.blank : Ledger := ⟨fun _ => [],fun _ => []⟩

theorem Reachable.stands (h : Reachable env s) :
    ∃ L, Stands s L ∧ Trace Act Ledger.blank s.events L := by
  induction h with
  | start policy mode writeExportReady =>
    exact ⟨_,⟨Books.start ..,fun _ => rfl⟩,.nil _⟩
  | step _ call ih =>
    obtain ⟨L,hL,htrace⟩ := ih
    obtain ⟨M,hM, -,events,hacts,hevents⟩ := step_stands env hL call
    refine ⟨M,hM,?_⟩
    rw [show (Encode.step env _ call).events = _ from hevents]
    exact htrace.append hacts
end
end LinDeX.Encode
