import LinDeX.Dmabuf.Registry
import LinDeX.System.Ledger
import Mathlib.Algebra.Order.BigOperators.Group.Finset
import Mathlib.Tactic.IntervalCases

/-!
# What the registry calls do

One specification for each registry call: either it fails and leaves the registry as it was, or
it makes one named change. The descriptors it duplicates are accounted for in both cases.
-/
namespace LinDeX.Dmabuf
open Function List
open scoped BigOperators
variable {ω : Type} {os : Os ω} {w : ω} {r : Registry} {id : UInt64} {i : Fin 16}
/-- What object `i` of a record with `count` objects holds for the registry. -/
def objectHeld (count : Nat) (i : Fin 4) (o : Object) : Holding :=
  if i.val < count then holding .registryObject o.fd else 0

def Descriptor.held (d : Descriptor) : Holding :=
  ∑ i, objectHeld d.objectCount.toNat i (d.objects i)
def Entry.held (e : Entry) : Holding := if e.inUse then e.descriptor.held else 0
def Registry.held (r : Registry) : Holding := ∑ i, (r.entries i).held

/-- What the registry keeps of its table: a slot that is not in use is cleared, identifiers in
use are distinct and not zero, and the two counters count. -/
structure Registry.WellFormed (r : Registry) : Prop where
  cleared : ∀ i, (r.entries i).inUse = false → r.entries i = Entry.zero
  idNeZero : ∀ i, (r.entries i).inUse = true → (r.entries i).descriptor.bufferId ≠ 0
  idInj : ∀ i i', (r.entries i).inUse = true → (r.entries i').inUse = true →
    (r.entries i).descriptor.bufferId = (r.entries i').descriptor.bufferId → i = i'
  registered : r.registeredCount = ∑ i, (r.entries i).inUse.toNat
  inflight : r.inflightCount = ∑ i, (r.entries i).inFlight.toNat

/-- The registry with a new entry in slot `i`. -/
def Registry.add (r : Registry) (i : Fin 16) (d : Descriptor) : Registry :=
  { r.setEntry i ⟨d,false,true⟩ with registeredCount := r.registeredCount + 1 }

/-- The registry without its entry in slot `i`. -/
def Registry.drop (r : Registry) (i : Fin 16) : Registry :=
  { r.setEntry i Entry.zero with registeredCount := r.registeredCount - 1 }

/-- The entry in slot `i` marked in flight. -/
def Registry.mark (r : Registry) (i : Fin 16) : Registry :=
  { r.setEntry i { r.entries i with inFlight := true } with
    inflightCount := r.inflightCount + 1 }

/-- The entry in slot `i` no longer in flight. -/
def Registry.unmark (r : Registry) (i : Fin 16) : Registry :=
  { r.setEntry i { r.entries i with inFlight := false } with
    inflightCount := r.inflightCount - 1 }

theorem findEntry_some (h : findEntry r id = some i) :
    (r.entries i).inUse = true ∧ (r.entries i).descriptor.bufferId = id := by
  simpa using Slots.find_some h

theorem findEntry_none (h : findEntry r id = none) (i : Fin 16)
    (hi : (r.entries i).inUse = true) : (r.entries i).descriptor.bufferId ≠ id := by
  simpa [hi] using Slots.find_none h i

theorem findEntry_eq (hr : r.WellFormed) (hi : (r.entries i).inUse = true) :
    findEntry r (r.entries i).descriptor.bufferId = some i := by
  cases hf : findEntry r (r.entries i).descriptor.bufferId with
  | none => exact absurd rfl (findEntry_none hf i hi)
  | some i' =>
    obtain ⟨hu,hid⟩ := findEntry_some hf
    rw [hr.idInj i' i hu hi hid]

theorem Registry.WellFormed.inUse_of_inFlight (hr : r.WellFormed)
    (h : (r.entries i).inFlight = true) : (r.entries i).inUse = true := by
  by_contra hu
  rw [hr.cleared i (by simpa using hu)] at h
  exact absurd h (by decide)

/-- A table stays well formed when slot `i` gets an entry whose identifier no other slot has, and
the counters follow. -/
theorem Registry.WellFormed.set (hr : r.WellFormed) {e : Entry} {registered inflight : Nat}
    (hcleared : e.inUse = false → e = Entry.zero)
    (hid : e.inUse = true → e.descriptor.bufferId ≠ 0)
    (hnew : ∀ j, j ≠ i → (r.entries j).inUse = true → e.inUse = true →
      (r.entries j).descriptor.bufferId ≠ e.descriptor.bufferId)
    (hregistered : registered + (r.entries i).inUse.toNat = r.registeredCount + e.inUse.toNat)
    (hinflight : inflight + (r.entries i).inFlight.toNat = r.inflightCount + e.inFlight.toNat) :
    Registry.WellFormed ⟨update r.entries i e,registered,inflight⟩ where
  cleared := (forall_update_iff r.entries fun _ e => e.inUse = false → e = Entry.zero).mpr
    ⟨hcleared,fun j _ => hr.cleared j⟩
  idNeZero := (forall_update_iff r.entries fun _ e => e.inUse = true →
    e.descriptor.bufferId ≠ 0).mpr ⟨hid,fun j _ => hr.idNeZero j⟩
  idInj j j' hj hj' heq := by
    by_cases h : j = i <;> by_cases h' : j' = i
    · rw [h,h']
    · subst h
      simp only [update_self,update_of_ne h'] at hj hj' heq
      exact absurd heq.symm (hnew j' h' hj' hj)
    · subst h'
      simp only [update_self,update_of_ne h] at hj hj' heq
      exact absurd heq (hnew j h hj hj')
    · simp only [update_of_ne h,update_of_ne h'] at hj hj' heq
      exact hr.idInj j j' hj hj' heq
  registered := by
    have hsum := Slots.sum_update_add r.entries i e fun _ (e : Entry) => e.inUse.toNat
    rw [← hr.registered] at hsum
    exact Nat.add_right_cancel (hregistered.trans hsum.symm)
  inflight := by
    have hsum := Slots.sum_update_add r.entries i e fun _ (e : Entry) => e.inFlight.toNat
    rw [← hr.inflight] at hsum
    exact Nat.add_right_cancel (hinflight.trans hsum.symm)

/-- Writing the in-flight mark of a used entry keeps the table well formed; `count` is the new
value of the counter. -/
private theorem wellFormed_setInFlight (hr : r.WellFormed) (hi : (r.entries i).inUse = true)
    (flag : Bool) (count : Nat)
    (hcount : count + (r.entries i).inFlight.toNat = r.inflightCount + flag.toNat) :
    Registry.WellFormed { r.setEntry i { r.entries i with inFlight := flag } with
      inflightCount := count } :=
  hr.set (fun h => absurd (hi.symm.trans h) nofun) (fun _ => hr.idNeZero i hi)
    (fun j hj hu _ heq => hj (hr.idInj j i hu hi heq)) rfl hcount

theorem Registry.WellFormed.mark (hr : r.WellFormed) (hi : (r.entries i).inUse = true)
    (hf : (r.entries i).inFlight = false) : (r.mark i).WellFormed :=
  wellFormed_setInFlight hr hi true _ (by simp [hf])

theorem Registry.WellFormed.inflightCount_pos (hr : r.WellFormed)
    (hf : (r.entries i).inFlight = true) : 0 < r.inflightCount := by
  rw [hr.inflight]
  exact Finset.sum_pos' (fun _ _ => Nat.zero_le _) ⟨i,Finset.mem_univ i,by simp [hf]⟩

theorem Registry.WellFormed.registeredCount_pos (hr : r.WellFormed)
    (hi : (r.entries i).inUse = true) : 0 < r.registeredCount := by
  rw [hr.registered]
  exact Finset.sum_pos' (fun _ _ => Nat.zero_le _) ⟨i,Finset.mem_univ i,by simp [hi]⟩

theorem Registry.WellFormed.unmark (hr : r.WellFormed)
    (hf : (r.entries i).inFlight = true) : (r.unmark i).WellFormed := by
  have hpos := hr.inflightCount_pos hf
  exact wellFormed_setInFlight hr (hr.inUse_of_inFlight hf) false _ (by simp [hf]; omega)

theorem Registry.WellFormed.add (hr : r.WellFormed) (hi : (r.entries i).inUse = false)
    {d : Descriptor} (hid : d.bufferId ≠ 0) (hnew : findEntry r d.bufferId = none) :
    (r.add i d).WellFormed :=
  hr.set nofun (fun _ => hid) (fun j _ hu _ => findEntry_none hnew j hu) (by rw [hi]; rfl)
    (by rw [hr.cleared i hi]; rfl)

theorem Registry.WellFormed.drop (hr : r.WellFormed) (hi : (r.entries i).inUse = true)
    (hf : (r.entries i).inFlight = false) : (r.drop i).WellFormed :=
  hr.set (fun _ => rfl) nofun (fun _ _ _ => nofun)
    (by rw [hi]; exact Nat.sub_add_cancel (hr.registeredCount_pos hi)) (by rw [hf]; rfl)

theorem Registry.wellFormed_empty : Registry.empty.WellFormed :=
  ⟨fun _ _ => rfl,fun _ h => absurd h (by simp [Registry.empty,Entry.zero]),
    fun _ _ h => absurd h (by simp [Registry.empty,Entry.zero]),rfl,rfl⟩
variable (d : Descriptor)
theorem holdings_declaredFds :
    holdings .registryObject (declaredFds d) = d.held := by
  rw [holdings,declaredFds,Multiset.map_coe,map_map,Slots.coe_map_filter,Descriptor.held,
    Fin.sum_univ_def]
  congr 1
  apply map_congr_left
  intro i _
  by_cases hi : i.val < d.objectCount.toNat <;> by_cases hfd : 0 ≤ (d.objects i).fd <;>
    simp [objectHeld,holding,hi,hfd]

theorem held_clearFds : d.clearFds.held = 0 := by
  apply Finset.sum_eq_zero
  intro i _
  unfold objectHeld
  split <;> rfl

theorem held_setObject (i : Fin 4) (hi : i.val < d.objectCount.toNat)
    (hfree : (d.objects i).fd = -1) (fd : Nat) :
    (d.setObject i { d.objects i with fd := fd }).held =
      d.held + {(FdSource.registryObject, (fd : Int))} := by
  have hsum := Slots.sum_update_add d.objects i { d.objects i with fd := (fd : Int) }
    (objectHeld d.objectCount.toNat)
  have hold : objectHeld d.objectCount.toNat i (d.objects i) = 0 := by
    simp [objectHeld,hfree]
  have hnew : objectHeld d.objectCount.toNat i { d.objects i with fd := (fd : Int) } =
      {(FdSource.registryObject, (fd : Int))} := by
    simp [objectHeld,hi]
  rw [hold,hnew,add_zero] at hsum
  exact hsum

theorem dupObjects_held (os : Os ω) (src : Descriptor) (is : List (Fin 4)) (hnodup : is.Nodup) (w : ω)
    (d : Descriptor) (events : List FdEvent) (hfree : ∀ i ∈ is, (d.objects i).fd = -1)
    (hcount : d.objectCount = src.objectCount) :
    let copy := dupObjects os src is w d events
    copy.2.1.bufferId = d.bufferId ∧
      gainedBy copy.2.2.1 + d.held = gainedBy events + copy.2.1.held ∧
      settledBy copy.2.2.1 = settledBy events ∧ (Plain events → Plain copy.2.2.1) := by
  induction is generalizing w d events with
  | nil => exact ⟨rfl,rfl,rfl,id⟩
  | cons i is ih =>
    have hnd := nodup_cons.mp hnodup
    simp only [dupObjects]
    split
    · rename_i hi
      split
      · exact ⟨rfl,rfl,rfl,id⟩
      · rename_i w' fd _
        have hrest : ∀ k ∈ is,
            ((d.setObject i { d.objects i with fd := fd }).objects k).fd = -1 := by
          intro k hk
          have hne : k ≠ i := fun h => hnd.1 (h ▸ hk)
          simpa [Descriptor.setObject,hne] using hfree k (mem_cons_of_mem _ hk)
        obtain ⟨hid,hgain,hsettle,hplain⟩ := ih hnd.2 w'
          (d.setObject i { d.objects i with fd := fd })
          (events ++ [.gain .registryObject fd]) hrest hcount
        refine ⟨hid,?_,?_,fun h =>
          hplain (h.append (Plain.map (fun _ => rfl) [(fd : Int)]))⟩
        · rw [held_setObject d i (by rw [hcount]; exact hi) (hfree i (by simp)) fd,
            gainedBy_append] at hgain
          have hone : gainedBy [FdEvent.gain .registryObject (fd : Int)] =
              {(FdSource.registryObject, (fd : Int))} := by
            simp [gainedBy,FdEvent.gained]
          rw [hone,← add_assoc,add_right_comm (gainedBy events)] at hgain
          exact add_right_cancel hgain
        · rw [hsettle,settledBy_append]
          simp [settledBy,FdEvent.settled]
    · exact ih hnd.2 w d events (fun k hk => hfree k (mem_cons_of_mem _ hk)) hcount

variable (os : Os ω) (w : ω)
theorem closeDescriptor_events (d : Descriptor) :
    gainedBy (closeDescriptor os w d).2 = 0 ∧ settledBy (closeDescriptor os w d).2 = d.held ∧
    Plain (closeDescriptor os w d).2 := by
  rw [← holdings_declaredFds]
  obtain ⟨hgain,hsettle⟩ := settles_close.map .registryObject (declaredFds d)
  exact ⟨hgain,hsettle,Plain.map (fun _ => rfl) _⟩
variable {cloexec : Fd → Bool}
variable {d : Descriptor}
theorem bufferId_ne_zero_of_valid
    (h : descriptorValidate cloexec d = true) : d.bufferId ≠ 0 := by
  intro hzero
  simp [descriptorValidate,headValid,hzero] at h

theorem setEntry_zero_of_unused (hr : r.WellFormed) (hi : (r.entries i).inUse = false) :
    r.setEntry i Entry.zero = r := by
  rw [Registry.setEntry,← hr.cleared i hi,update_eq_self]

theorem register_cases (os : Os ω) (hr : r.WellFormed)
    (allowed : ω → Descriptor → ω × Int × Option Errno) (w : ω) (d : Descriptor) :
    let x := register os allowed w r d
    (∃ e, x.result = .error e ∧ x.registry = r ∧ gainedBy x.events = settledBy x.events ∧
        Plain x.events) ∨
      ∃ i d', x.result = .ok () ∧ x.registry = r.add i d' ∧ (r.entries i).inUse = false ∧
        d'.bufferId ≠ 0 ∧ findEntry r d'.bufferId = none ∧
        gainedBy x.events = d'.held ∧ settledBy x.events = 0 ∧ Plain x.events := by
  intro x
  have hx : x = register os allowed w r d := rfl
  unfold register at hx
  split at hx
  · exact .inl (hx ▸ ⟨_,rfl,rfl,rfl,Plain.nil⟩)
  rename_i hvalid
  split at hx
  · exact .inl (hx ▸ ⟨_,rfl,rfl,rfl,Plain.nil⟩)
  rename_i hnew
  split at hx
  · exact .inl (hx ▸ ⟨_,rfl,rfl,rfl,Plain.nil⟩)
  dsimp only at hx
  iterate 2
    split at hx
    · exact .inl (hx ▸ ⟨_,rfl,rfl,rfl,Plain.nil⟩)
  rename_i i hslot
  have hunused : (r.entries i).inUse = false := by simpa using Slots.find_some hslot
  obtain ⟨hid,hgain,hsettle,hplain⟩ := dupObjects_held os d (List.finRange 4)
    (nodup_finRange 4) (allowed w d).1 d.clearFds [] (fun _ _ => rfl) rfl
  rw [held_clearFds,add_zero,gainedBy_nil,zero_add] at hgain
  split at hx
  · refine .inl ⟨_,by rw [hx],by rw [hx]; exact setEntry_zero_of_unused hr hunused,?_,?_⟩
    · rw [hx,gainedBy_append,settledBy_append,hgain,hsettle,(closeDescriptor_events os _ _).1,
        (closeDescriptor_events os _ _).2.1,settledBy_nil,add_zero,zero_add]
    · rw [hx]
      exact (hplain Plain.nil).append (closeDescriptor_events os _ _).2.2
  · refine .inr ⟨i,_,by rw [hx],by rw [hx]; rfl,hunused,?_,?_,by rw [hx]; exact hgain,
      by rw [hx]; exact hsettle,by rw [hx]; exact hplain Plain.nil⟩
    · rw [hid]
      exact bufferId_ne_zero_of_valid (d := d) (by simpa using hvalid)
    · rw [hid]
      change findEntry r d.bufferId = none
      simpa using hnew

/-- `unregister` either fails and touches nothing, or drops an entry that is not in flight and
closes its objects. -/
theorem unregister_cases (r : Registry) (id : UInt64) :
    let x := unregister os w r id
    (∃ e, x.result = .error e ∧ x.registry = r ∧ x.events = []) ∨
      ∃ i, x.result = .ok () ∧ x.registry = r.drop i ∧ (r.entries i).inUse = true ∧
        (r.entries i).descriptor.bufferId = id ∧ (r.entries i).inFlight = false ∧
        gainedBy x.events = 0 ∧ settledBy x.events = (r.entries i).descriptor.held ∧
        Plain x.events := by
  intro x
  have hx : x = unregister os w r id := rfl
  unfold unregister at hx
  iterate 2
    split at hx
    · exact .inl (hx ▸ ⟨_,rfl,rfl,rfl⟩)
  rename_i i hfind
  split at hx
  · exact .inl (hx ▸ ⟨_,rfl,rfl,rfl⟩)
  rename_i hflight
  obtain ⟨hu,hid⟩ := findEntry_some hfind
  refine .inr ⟨i,by rw [hx],by rw [hx]; rfl,hu,hid,by simpa using hflight,?_⟩
  rw [hx]
  exact closeDescriptor_events os w _

theorem begin_cases (r : Registry) (s : Submission) :
    let x := begin os w r s
    (∃ e, x.result = .error e ∧ x.registry = r ∧ x.events = []) ∨
      ∃ i job, x.result = .ok job ∧ x.registry = r.mark i ∧ (r.entries i).inUse = true ∧
        (r.entries i).descriptor.bufferId = s.bufferId ∧ (r.entries i).inFlight = false ∧
        job.bufferId = s.bufferId ∧ job.descriptor = some (r.entries i).descriptor ∧
        x.events = fdEvent .gain .jobAcquire job.acquireFenceFd := by
  intro x
  have hx : x = begin os w r s := rfl
  unfold begin at hx
  iterate 2
    split at hx
    · exact .inl (hx ▸ ⟨_,rfl,rfl,rfl⟩)
  rename_i i hfind
  split at hx
  · exact .inl (hx ▸ ⟨_,rfl,rfl,rfl⟩)
  rename_i hflight
  split at hx
  · exact .inl (hx ▸ ⟨_,rfl,rfl,rfl⟩)
  obtain ⟨hu,hid⟩ := findEntry_some hfind
  split at hx
  · exact .inl (hx ▸ ⟨_,rfl,rfl,rfl⟩)
  · exact .inr ⟨i,_,by rw [hx],by rw [hx]; rfl,hu,hid,by simpa using hflight,rfl,rfl,by rw [hx]⟩

theorem finish_inFlight (hr : r.WellFormed) (hf : (r.entries i).inFlight = true) :
    finish r (r.entries i).descriptor.bufferId = (r.unmark i, .ok ()) := by
  have hu := hr.inUse_of_inFlight hf
  have hid := hr.idNeZero i hu
  simp [finish,hid,findEntry_eq hr hu,hf,Registry.unmark]

theorem unmark_mark (hf : (r.entries i).inFlight = false) : (r.mark i).unmark i = r := by
  have hentry : ({ r.entries i with inFlight := false } : Entry) = r.entries i := by
    rw [← hf]
  simp [Registry.unmark,Registry.mark,Registry.setEntry,hentry]

theorem finish_mark (hr : r.WellFormed) (hu : (r.entries i).inUse = true)
    (hf : (r.entries i).inFlight = false) :
    finish (r.mark i) (r.entries i).descriptor.bufferId = (r, .ok ()) := by
  have hmark := hr.mark hu hf
  have hflag : ((r.mark i).entries i).inFlight = true := by
    simp [Registry.mark,Registry.setEntry]
  have hsame : ((r.mark i).entries i).descriptor = (r.entries i).descriptor := by
    simp [Registry.mark,Registry.setEntry]
  rw [← hsame,finish_inFlight hmark hflag,unmark_mark hf]

theorem objectValid_of_valid
    (h : descriptorValidate cloexec d = true) (i : Fin 4) : objectValid cloexec d i = true := by
  simp only [descriptorValidate,Bool.and_eq_true,all_eq_true] at h
  exact h.1.2 i (mem_finRange i)

theorem objectCount_le_of_valid
    (h : descriptorValidate cloexec d = true) : d.objectCount.toNat ≤ 4 := by
  by_contra hgt
  have hlt : d.objectCount > 4 := UInt32.lt_iff_toNat_lt.mpr (by simpa using hgt)
  simp [descriptorValidate,headValid,hlt] at h

theorem registrationEncode_fds {payload : List UInt8}
    {fds : List Fd} (h : registrationEncode cloexec d = some (payload, fds)) :
    closableFds d = fds ∧ closableFds (d.dropFds fds.length) = [] := by
  unfold registrationEncode at h
  split at h
  swap
  · cases h
  rename_i hvalid
  simp only [Option.some.injEq,Prod.mk.injEq] at h
  obtain ⟨-,rfl⟩ := h
  have hlen : ((List.finRange 4).filter fun i => i.val < d.objectCount.toNat).length =
      d.objectCount.toNat := by
    have hle := objectCount_le_of_valid hvalid
    interval_cases d.objectCount.toNat <;> decide
  constructor
  · rw [closableFds,← filterMap_eq_map,filterMap_filter]
    apply filterMap_congr
    intro i _
    have hobject := objectValid_of_valid hvalid i
    by_cases hi : i.val < d.objectCount.toNat
    · simp only [objectValid,hi,if_true,Bool.and_eq_true] at hobject
      simp only [hi,decide_true,hobject.1.1.1.1,hobject.2,Bool.and_self,if_true,
        Function.comp_apply]
    · simp [hi]
  · rw [length_map,hlen,closableFds]
    apply filterMap_eq_nil_iff.mpr
    intro i _
    by_cases hi : i.val < d.objectCount.toNat <;> simp [Descriptor.dropFds,hi]

theorem held_add (hi : (r.entries i).inUse = false) (d : Descriptor) :
    (r.add i d).held = r.held + d.held := by
  have hsum := Slots.sum_update_add r.entries i ⟨d,false,true⟩ fun _ => Entry.held
  have hold : (r.entries i).held = 0 := by simp [Entry.held,hi]
  rw [hold,add_zero] at hsum
  exact hsum

theorem held_drop (hi : (r.entries i).inUse = true) :
    (r.drop i).held + (r.entries i).descriptor.held = r.held := by
  have hsum := Slots.sum_update_add r.entries i Entry.zero fun _ => Entry.held
  have hold : (r.entries i).held = (r.entries i).descriptor.held := by simp [Entry.held,hi]
  have hnew : Entry.zero.held = 0 := rfl
  rw [hold,hnew,add_zero] at hsum
  exact hsum

private theorem held_setInFlight (r : Registry) (i : Fin 16) (flag : Bool) :
    ∑ j, (update r.entries i { r.entries i with inFlight := flag } j).held = r.held :=
  Slots.sum_update_of_eq r.entries i _ (fun _ => Entry.held) rfl

theorem held_mark (r : Registry) (i : Fin 16) : (r.mark i).held = r.held :=
  held_setInFlight r i true
theorem held_unmark (r : Registry) (i : Fin 16) : (r.unmark i).held = r.held :=
  held_setInFlight r i false

theorem held_finish (r : Registry) (id : UInt64) : (finish r id).1.held = r.held := by
  unfold finish
  split
  · rfl
  split
  · rfl
  split
  · rfl
  · exact held_unmark r _

theorem registryDestroy_events (r : Registry) :
    gainedBy (registryDestroy os w r).2 = 0 ∧ settledBy (registryDestroy os w r).2 = r.held ∧
    Plain (registryDestroy os w r).2 := by
  have hloop : ∀ (is : List (Fin 16)) (acc : ω × List FdEvent),
      let out := is.foldl (fun acc i =>
        if (r.entries i).inUse then
          let closed := closeDescriptor os acc.1 (r.entries i).descriptor
          (closed.1, acc.2 ++ closed.2)
        else acc) acc
      gainedBy out.2 = gainedBy acc.2 ∧
        settledBy out.2 = settledBy acc.2 + (is.map fun i => (r.entries i).held).sum ∧
        (Plain acc.2 → Plain out.2) := by
    intro is
    induction is with
    | nil => intro acc; simp
    | cons i is ih =>
      intro acc
      rw [List.foldl_cons]
      by_cases hu : (r.entries i).inUse = true
      · obtain ⟨hg,hs,hp⟩ := ih ((closeDescriptor os acc.1 (r.entries i).descriptor).1,
          acc.2 ++ (closeDescriptor os acc.1 (r.entries i).descriptor).2)
        rw [if_pos hu]
        refine ⟨hg.trans ?_,hs.trans ?_,fun h => hp (h.append (closeDescriptor_events os _ _).2.2)⟩
        · rw [gainedBy_append,(closeDescriptor_events os _ _).1,add_zero]
        · rw [settledBy_append,(closeDescriptor_events os _ _).2.1,map_cons,sum_cons,Entry.held,
            if_pos hu,add_assoc]
      · obtain ⟨hg,hs,hp⟩ := ih acc
        rw [if_neg hu]
        refine ⟨hg,hs.trans ?_,hp⟩
        rw [map_cons,sum_cons,Entry.held,if_neg hu,zero_add]
  obtain ⟨hg,hs,hp⟩ := hloop (List.finRange 16) (w, [])
  refine ⟨hg,hs.trans ?_,hp Plain.nil⟩
  rw [settledBy_nil,zero_add,Registry.held,Fin.sum_univ_def]
end LinDeX.Dmabuf
