import LinDeX.Library.Run
import LinDeX.Repack.Steps
import Mathlib.Tactic.IntervalCases

/-!
# Extent of reserved destinations

A reservation is meant to get an image of the coded size, both sides rounded up to 16. But a pooled
repack leaves images of the size of its source, and one of the visible size is handed out as it is.
-/
namespace LinDeX.Repack
open Dmabuf
variable {ω : Type} {n : Nat}
inductive Op where
  | reserve (width height : UInt32) (reservationId : UInt64)
  | repack (source : Descriptor) (fence : Fd) (bufferId : UInt64)
  | repackReserved (token : UInt64) (source : Descriptor) (fence : Fd) (bufferId : UInt64)
  | release (token : UInt64) (fence : Fd)
  | discard (token : UInt64)

abbrev Running (ω : Type) (n : Nat) := ω × Pool n
def Outcome.state {α : Type} (out : Outcome ω n α) : Running ω n := (out.world, out.pool)

def Outcome.errors {α : Type} (out : Outcome ω n α) : List Errno :=
  match out.result with
  | .error e => [e]
  | .ok _ => []

def step (gpu : Gpu ω) (os : Os ω) (s : Running ω n) : Op → Running ω n × List Errno
  | .reserve width height reservationId =>
    let out := reserve gpu os s.1 s.2 width height reservationId
    (out.state, out.errors)
  | .repack source fence bufferId =>
    let out := repackLinearPooled gpu os s.1 s.2 source fence bufferId
    (out.state, out.errors)
  | .repackReserved token source fence bufferId =>
    let out := repackLinearReserved gpu os s.1 s.2 token source fence bufferId
    (out.state, out.errors)
  | .release token fence =>
    let out := poolRelease gpu os s.1 s.2 token fence
    (out.state, out.errors)
  | .discard token =>
    let out := poolDiscard gpu os s.1 s.2 token
    (out.state, out.errors)

def history (gpu : Gpu ω) (os : Os ω) (n : Nat) (w : ω) (ops : List Op) : Running ω n :=
  (Run.run (step gpu os) (w, Pool.create n) ops).1

structure ImagesKept (p p' : Pool n) : Prop where
  sound : (∀ i, (p.destinations i).Sound) → ∀ i, (p'.destinations i).Sound
  shape : ∀ i, (p.leases i).leased = true → (p'.leases i).leased = true →
    (p'.destinations i).shape = (p.destinations i).shape

theorem Kept.imagesKept {p p' : Pool n} (h : Kept p p') : ImagesKept p p' := by
  refine ⟨fun hsound i => ?_,fun i _ _ => ?_⟩
  · rw [h.destinations]
    exact hsound i
  · rw [h.destinations]
variable {slot : Destination} {width height : UInt32} {token : UInt64}
theorem Wrote.imagesKept {p p' : Pool n} {i : Fin n} {key : LeaseKey}
    (h : Wrote p p' i key slot) (hsound : (p.destinations i).Sound → slot.Sound)
    (hshape : slot.shape = (p.destinations i).shape ∨ (p.leases i).leased = false ∨
    key.leased = false) : ImagesKept p p' := by
  refine ⟨fun hall j => ?_,fun j hbefore hafter => ?_⟩
  · rw [h.destinations]
    exact Slots.forall_update (P := fun _ d => Destination.Sound d) hall (hsound (hall i)) j
  · by_cases hj : j = i
    · subst hj
      rw [h.destination]
      rcases hshape with hshape | hfree | hfree
      · exact hshape
      · cases hfree.symm.trans hbefore
      · rw [h.lease] at hafter
        cases hfree.symm.trans hafter
    · rw [h.destinations,Function.update_of_ne hj]
variable {p : Pool n}
theorem LeaseStep.imagesKept {signature : Signature}
    {out : Outcome ω n Repacked} (h : LeaseStep p width height signature out) :
    ImagesKept p out.pool := by
  unfold LeaseStep at h
  split at h
  · cases h with
    | kept hkept => exact hkept.imagesKept
    | emptied _ hfree hwrote => exact hwrote.imagesKept (fun _ => .empty) (.inr (.inl hfree))
  · obtain ⟨i,slot,hleased,hshaped⟩ := h
    exact hleased.wrote.imagesKept hshaped.sound (.inr (.inl hleased.fresh.free))

theorem ReservedStep.imagesKept {out : Outcome ω n Repacked}
    (h : ReservedStep p token out) : ImagesKept p out.pool := by
  rcases h with ⟨hkept,_⟩ | ⟨i,_,hslot⟩
  · exact hkept.imagesKept
  · unfold SlotStep at hslot
    split at hslot
    · exact hslot.imagesKept (fun _ => .empty) (.inr (.inr rfl))
    · obtain ⟨_,slot,hwrote,hshape⟩ := hslot
      exact hwrote.imagesKept (fun hsound => hsound.of_shape hshape) (.inl hshape)

theorem EndStep.imagesKept {out : Outcome ω n Unit}
    (h : EndStep p token out) : ImagesKept p out.pool := by
  unfold EndStep at h
  split at h
  · rw [h]
    exact (Kept.refl p).imagesKept
  · obtain ⟨i,slot,_,hwrote,hslot⟩ := h
    refine hwrote.imagesKept (fun hsound => ?_) (.inr (.inr rfl))
    rcases hslot with rfl | hshape
    · exact .empty
    · exact hsound.of_shape hshape

theorem step_imagesKept (gpu : Gpu ω) (os : Os ω) (s : Running ω n) (op : Op) :
    ImagesKept s.2 (step gpu os s op).1.2 := by
  cases op with
  | reserve => exact (reserve_step gpu os ..).imagesKept
  | repack => exact (repackLinearPooled_step gpu os ..).imagesKept
  | repackReserved => exact (repackLinearReserved_step gpu os ..).imagesKept
  | release => exact (poolRelease_step gpu os ..).imagesKept
  | discard => exact (poolDiscard_step gpu os ..).imagesKept

theorem history_sound (gpu : Gpu ω) (os : Os ω) (w : ω) (ops : List Op) (i : Fin n) :
    ((history gpu os n w ops).2.destinations i).Sound := by
  refine Run.run_invariant (fun s : Running ω n => ∀ i, (s.2.destinations i).Sound) ?_ _ ops ?_ i
  · intro s op hsound
    exact (step_imagesKept gpu os s op).sound hsound
  · intro _
    exact .empty

/-- After the call, slot `i` is leased under the token. -/
def StaysLeased (gpu : Gpu ω) (os : Os ω) (i : Fin n) (token : UInt64) (s : Running ω n) (op : Op) :
    Prop := (step gpu os s op).1.2.leases i = ⟨true,token⟩
variable {gpu : Gpu ω} {os : Os ω}
theorem run_shape {i : Fin n} {s : Running ω n}
    {ops : List Op} (hlease : s.2.leases i = ⟨true,token⟩)
    (hstays : Run.RunAllowed (step gpu os) (StaysLeased gpu os i token) s ops) :
    ((Run.run (step gpu os) s ops).1.2.destinations i).shape = (s.2.destinations i).shape := by
  induction ops generalizing s with
  | nil => rfl
  | cons op ops ih =>
    obtain ⟨hafter,hrest⟩ := hstays
    rw [Run.run_cons,ih hafter hrest]
    apply (step_imagesKept gpu os s op).shape i
    · rw [hlease]
    · rw [hafter]

def codedSide (side : UInt32) : Nat := 16 * ((side.toNat + 15) / 16)
def Covers (slot : Destination) (width height : UInt32) : Prop :=
  codedSide width ≤ slot.extent.1.toNat ∧ codedSide height ≤ slot.extent.2.toNat
def WithinCoded (source : Descriptor) (width height : UInt32) : Prop :=
  source.width.toNat ≤ codedSide width ∧ source.height.toNat ≤ codedSide height

/-- The slot that a reservation would get holds an image of exactly the visible size, and the
visible size is not the coded size. -/
def Recycles (p : Pool n) (width height : UInt32) : Prop :=
  ∃ i, Fin.find? (fun i => !(p.leases i).leased) = some i ∧
    (p.destinations i).sized width height = true ∧ ¬ (16 ∣ width.toNat ∧ 16 ∣ height.toNat)

instance (slot : Destination) (width height : UInt32) : Decidable (Covers slot width height) :=
  inferInstanceAs (Decidable (_ ∧ _))

theorem and_not_fifteen (x : BitVec 32) : x &&& 0xfffffff0#32 = x >>> 4 <<< 4 := by
  apply BitVec.eq_of_getLsbD_eq
  intro i hi
  rw [BitVec.getLsbD_and,BitVec.getLsbD_shiftLeft,BitVec.getLsbD_ushiftRight]
  interval_cases i <;> simp

theorem align16_toNat {side : UInt32} (h : side ≤ 8192) : (align16 side).toNat = codedSide side := by
  have hle : side.toNat ≤ 8192 := UInt32.le_iff_toNat_le.mp h
  have hadd : (side + 15).toNat = side.toNat + 15 := by
    rw [UInt32.toNat_add]
    exact Nat.mod_eq_of_lt (by
      have : (15 : UInt32).toNat = 15 := rfl
      omega)
  have hmask : (align16 side).toBitVec = (side + 15).toBitVec >>> 4 <<< 4 :=
    and_not_fifteen (side + 15).toBitVec
  rw [← UInt32.toNat_toBitVec,hmask,BitVec.toNat_shiftLeft,BitVec.toNat_ushiftRight,
    UInt32.toNat_toBitVec,hadd,Nat.shiftRight_eq_div_pow,Nat.shiftLeft_eq,codedSide]
  rw [Nat.mod_eq_of_lt (by omega)]
  omega

theorem codedSide_le_iff (side : UInt32) : codedSide side ≤ side.toNat ↔ 16 ∣ side.toNat := by
  unfold codedSide
  omega

theorem covers_iff_admits
    (hvalid : slot.signatureValid = true) (hsound : slot.Sound) (hwidth : width ≤ 8192)
    (hheight : height ≤ 8192) :
    Covers slot width height ↔
      ∀ source, WithinCoded source width height → slotAdmits slot (.make source) = true := by
  have hextent := hsound hvalid
  have hadmits (source : Descriptor) : slotAdmits slot (.make source) = true ↔
      source.width ≤ slot.signature.width ∧ source.height ≤ slot.signature.height := by
    unfold slotAdmits
    rw [hvalid,Bool.not_eq_true',Bool.or_eq_false_iff,Bool.or_eq_false_iff,
      decide_eq_false_iff_not,decide_eq_false_iff_not,UInt32.not_lt,UInt32.not_lt]
    exact ⟨fun h => ⟨h.1.2,h.2⟩,fun h => ⟨⟨rfl,h.1⟩,h.2⟩⟩
  unfold Covers
  rw [hextent]
  constructor
  · rintro ⟨hw,hh⟩ source ⟨hsw,hsh⟩
    rw [hadmits]
    exact ⟨UInt32.le_iff_toNat_le.mpr (hsw.trans hw),UInt32.le_iff_toNat_le.mpr (hsh.trans hh)⟩
  · intro h
    have hlargest := h { Descriptor.zero with width := align16 width, height := align16 height }
      ⟨(align16_toNat hwidth).le,(align16_toNat hheight).le⟩
    rw [hadmits] at hlargest
    rw [← align16_toNat hwidth,← align16_toNat hheight]
    exact ⟨UInt32.le_iff_toNat_le.mp hlargest.1,UInt32.le_iff_toNat_le.mp hlargest.2⟩

theorem sized_iff :
    slot.sized width height = true ↔
      slot.signatureValid = true ∧ slot.signature.width = width ∧ slot.signature.height = height := by
  simp [Destination.sized,and_assoc]

theorem shape_eq_iff {slot slot' : Destination} : slot.shape = slot'.shape ↔
    slot.signatureValid = slot'.signatureValid ∧ slot.signature = slot'.signature ∧
    slot.extent = slot'.extent := by
  simp [Destination.shape]

theorem reserve_arguments {w : ω} {reservationId : UInt64} {r : Repacked}
    (h : (reserve gpu os w p width height reservationId).result = .ok r) :
    width ≤ 8192 ∧ height ≤ 8192 := by
  unfold reserve at h
  split at h
  · cases h
  · rename_i hvalid
    simp only [reserveArgumentsValid,Bool.not_not,Bool.or_eq_true,not_or,decide_eq_true_eq,
      gt_iff_lt,UInt32.not_lt] at hvalid
    exact ⟨hvalid.1.1.1.1.2,hvalid.1.1.2⟩

theorem reserve_covers_iff {w : ω}
    {reservationId : UInt64} {r : Repacked} (hsound : ∀ i, (p.destinations i).Sound)
    (h : (reserve gpu os w p width height reservationId).result = .ok r) :
    ∃ i, (reserve gpu os w p width height reservationId).pool.leases i = ⟨true,r.leaseToken⟩ ∧
    ((reserve gpu os w p width height reservationId).pool.destinations i).signatureValid = true ∧
    (Covers ((reserve gpu os w p width height reservationId).pool.destinations i) width height ↔
      ¬ Recycles p width height) := by
  obtain ⟨hwidth,hheight⟩ := reserve_arguments h
  have hstep := reserve_step gpu os w p width height reservationId
  unfold LeaseStep at hstep
  rw [h] at hstep
  obtain ⟨i,slot,hleased,provided,hprovided,hshape⟩ := hstep
  refine ⟨i,hleased.wrote.lease,?_⟩
  rw [hleased.wrote.destination]
  obtain ⟨hvalid,hsignature,hextent⟩ := shape_eq_iff.mp hshape
  have hfirst : ∀ j, Fin.find? (fun i => !(p.leases i).leased) = some j → j = i := by
    intro j hj
    exact Option.some.inj (hj.symm.trans hleased.first)
  unfold Provided at hprovided
  unfold Covers
  rw [hvalid,hextent]
  split at hprovided
  · rename_i hsized
    subst hprovided
    obtain ⟨hv,hw,hh⟩ := sized_iff.mp hsized
    refine ⟨hv,?_⟩
    rw [hsound i hv,hw,hh,codedSide_le_iff,codedSide_le_iff]
    constructor
    · rintro haligned ⟨j,_,_,hunaligned⟩
      exact hunaligned haligned
    · intro hnot
      by_contra hunaligned
      exact hnot ⟨i,hleased.first,hsized,hunaligned⟩
  · rename_i hsized
    refine ⟨hprovided.valid,?_⟩
    rw [hprovided.extent]
    have hcovers : codedSide width ≤ (align16 width).toNat ∧
        codedSide height ≤ (align16 height).toNat :=
      ⟨(align16_toNat hwidth).ge,(align16_toNat hheight).ge⟩
    apply iff_of_true hcovers
    rintro ⟨j,hj,hjsized,_⟩
    rw [hfirst j hj] at hjsized
    exact hsized hjsized

/-- After any history, a reservation that succeeds leases a slot that covers the coded size exactly
if it does not recycle an image of the visible size. As long as the lease is held, the extent check
then admits every source within the coded size, and only then. -/
theorem reserve_extent (gpu : Gpu ω) (os : Os ω) (w : ω) (ops : List Op) (width height : UInt32)
    (reservationId : UInt64) (r : Repacked)
    (hok : (reserve gpu os (history gpu os n w ops).1 (history gpu os n w ops).2 width height
      reservationId).result = .ok r) :
    let before := (history gpu os n w ops).2
    let after := (step gpu os (history gpu os n w ops) (.reserve width height reservationId)).1
    ∃ i, after.2.leases i = ⟨true,r.leaseToken⟩ ∧
      (Covers (after.2.destinations i) width height ↔ ¬ Recycles before width height) ∧
      ∀ later, Run.RunAllowed (step gpu os) (StaysLeased gpu os i r.leaseToken) after later →
        ((∀ source, WithinCoded source width height →
            slotAdmits ((Run.run (step gpu os) after later).1.2.destinations i)
              (.make source) = true) ↔
          ¬ Recycles before width height) := by
  intro before after
  have hsound := history_sound (n := n) gpu os w ops
  obtain ⟨hwidth,hheight⟩ := reserve_arguments hok
  obtain ⟨i,hlease,hvalid,hcovers⟩ := reserve_covers_iff hsound hok
  refine ⟨i,hlease,hcovers,fun later hstays => ?_⟩
  have hafter : (after.2.destinations i).Sound :=
    (step_imagesKept gpu os (history gpu os n w ops) _).sound hsound i
  have hshape := run_shape hlease hstays
  obtain ⟨hsameValid,hsameSignature,hsameExtent⟩ := shape_eq_iff.mp hshape
  rw [← covers_iff_admits (hsameValid.trans hvalid) (hafter.of_shape hshape) hwidth hheight,Covers,
    hsameExtent]
  exact hcovers

/-- A descriptor table in which every descriptor is a close-on-exec sync file. -/
def idleOs : Os Unit :=
  { dup := fun _ fd => ((), .ok fd.toNat)
    close := fun _ _ => ()
    cloexec := fun _ _ => true
    syncFileInfo := fun _ _ => true
    memfdCreate := fun _ => ((), none)
    ftruncate := fun _ _ _ => ((), false)
    pwrite := fun _ _ _ _ => ((), 0)
    addSeals := fun _ _ => ((), false)
    fstat := fun _ _ => none
    getSeals := fun _ _ => none
    pread := fun _ _ _ _ => ((), [])
    malloc := fun _ _ => ((), true)
    callocRegistry := fun _ => ((), .ok ())
    sendMessage := fun _ _ => ((), true) }

def linearGpu : Gpu Unit :=
  { attach := fun _ => ((), .ok ())
    fileIdentity := fun _ fd => .ok ⟨1,fd.toNat.toUInt64,0⟩
    importSource := fun _ _ => ((), .ok ())
    createImage := fun _ width height =>
      let pitch := width.toUInt64
      let luma := pitch * height.toUInt64
      ((), .ok ⟨luma + luma / 2,fun i => if i = 0 then ⟨0,pitch⟩ else ⟨luma,pitch⟩⟩)
    exportMemory := fun _ _ => ((), .ok 20)
    copy := fun _ _ _ _ => ((), .ok (21, 22))
    errno := fun _ => .eio }

def compressedFrame (width height : UInt32) : Descriptor :=
  { Descriptor.zero.clearFds with
    bufferId := 5
    width := width
    height := height
    drmFourcc := nv12
    explicitFlags := explicitAll
    drmModifier := qcomCompressed
    cropWidth := width
    cropHeight := height
    objectCount := 1
    planeCount := 2
    objects := fun i => if i = 0 then ⟨10,4194304⟩ else ⟨-1,0⟩
    planes := fun i => if i = 0 then ⟨0,0,2048⟩ else if i = 1 then ⟨0,2621440,2048⟩
      else ⟨0,0,0⟩ }

/-- A frame of 1920x1080 is repacked and released. The reservation for 1920x1080 then gets its
image, eight rows short of the coded height, and the repack of the 1920x1088 output is refused. -/
theorem reserve_recycles_visible_size :
    let s := history linearGpu idleOs 1 ()
      [.repack (compressedFrame 1920 1080) (-1) 5,.release 1 (-1)]
    let after := step linearGpu idleOs s (.reserve 1920 1080 0x8000000000000000)
    after.2 = [] ∧ after.1.2.leases 0 = ⟨true,2⟩ ∧
      (after.1.2.destinations 0).extent = (1920, 1080) ∧
      ¬ Covers (after.1.2.destinations 0) 1920 1080 ∧
      (step linearGpu idleOs after.1
        (.repackReserved 2 (compressedFrame 1920 1088) (-1) 6)).2 = [.eproto] := by
  decide +kernel

/-- On a new pool the image is made for the reservation and takes every output of the coded size. -/
theorem reserve_extent_new_pool :
    let after := (step linearGpu idleOs (history linearGpu idleOs 1 () [])
      (.reserve 1920 1080 0x8000000000000000)).1
    ∃ i, after.2.leases i = ⟨true,1⟩ ∧ Covers (after.2.destinations i) 1920 1080 ∧
      ∀ source, WithinCoded source 1920 1080 →
        slotAdmits (after.2.destinations i) (.make source) = true := by
  obtain ⟨i,hlease,hcovers,hadmits⟩ := reserve_extent linearGpu idleOs () [] 1920 1080
    0x8000000000000000
    ⟨exportedDescriptor _ (reserveMetadata 1920 1080 0x8000000000000000) 0x8000000000000000 20,
      -1, -1,1⟩ (n := 1) rfl
  have hnew : ¬Recycles (history linearGpu idleOs 1 () []).2 1920 1080 := by
    rintro ⟨j, -,hsized, -⟩
    cases hsized
  exact ⟨i,hlease,hcovers.mpr hnew,(hadmits [] trivial).mpr hnew⟩
end LinDeX.Repack
