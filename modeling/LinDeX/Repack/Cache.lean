import LinDeX.Dmabuf.Descriptor
import LinDeX.Library.Allocator
import LinDeX.Library.Slots
import Mathlib.Data.Multiset.UnionInter

/-!
# Keys of the repack pool

`turnip_repack_cache.c`: the signature of a dma-buf layout, the choice of a source slot, and the
table of leases on destination slots. A pool has `n` slots of each kind, from 1 to 32.
-/
namespace LinDeX.Repack
open Dmabuf Function
open scoped BigOperators
structure Identity where
  (device inode rdevice : UInt64)
  deriving DecidableEq, Repr

structure Signature where
  (width height drmFourcc explicitFlags : UInt32)
  drmModifier : UInt64
  (cropLeft cropTop cropWidth cropHeight objectCount planeCount colorPrimaries : UInt32)
  (colorTransfer colorMatrix colorRange chromaHorizontal chromaVertical : UInt32)
  objectSizes : Fin 4 → UInt64
  planes : Fin 4 → Plane
  deriving DecidableEq

def Signature.make (d : Descriptor) : Signature :=
  { width := d.width
    height := d.height
    drmFourcc := d.drmFourcc
    explicitFlags := d.explicitFlags
    drmModifier := d.drmModifier
    cropLeft := d.cropLeft
    cropTop := d.cropTop
    cropWidth := d.cropWidth
    cropHeight := d.cropHeight
    objectCount := d.objectCount
    planeCount := d.planeCount
    colorPrimaries := d.colorPrimaries
    colorTransfer := d.colorTransfer
    colorMatrix := d.colorMatrix
    colorRange := d.colorRange
    chromaHorizontal := d.chromaHorizontal
    chromaVertical := d.chromaVertical
    objectSizes := fun i => if i.val < d.objectCount.toNat then (d.objects i).size else 0
    planes := fun i => if i.val < d.planeCount.toNat then d.planes i else ⟨0,0,0⟩ }

def Signature.zero : Signature := Signature.make Descriptor.zero

structure SourceKey where
  occupied : Bool
  identity : Identity
  signature : Signature
  lastUse : UInt64

def SourceKey.zero : SourceKey := ⟨false,⟨0,0,0⟩,Signature.zero,0⟩
variable {n : Nat}
/-- What the scan of `advc_repack_source_key_select` has seen. -/
structure Seen (n : Nat) where
  (sameIdentity empty lru : Option (Fin n))
  oldest : UInt64

def selectFrom (keys : Fin n → SourceKey) (identity : Identity) (signature : Signature) :
    Seen n → List (Fin n) → Option (Fin n) × Bool
  | seen, [] => (seen.sameIdentity.or (seen.empty.or seen.lru), false)
  | seen, i :: is =>
    let key := keys i
    if !key.occupied then
      selectFrom keys identity signature { seen with empty := seen.empty.or (some i) } is
    else if key.identity == identity && key.signature == signature then (some i, true)
    else
      let seen :=
        if key.identity == identity then
          { seen with sameIdentity := seen.sameIdentity.or (some i) }
        else seen
      let seen :=
        if seen.lru.isNone || key.lastUse < seen.oldest then
          { seen with lru := some i, oldest := key.lastUse }
        else seen
      selectFrom keys identity signature seen is

/-- `advc_repack_source_key_select`: the slot, and whether it is an exact match. -/
def sourceKeySelect (keys : Fin n → SourceKey) (identity : Identity) (signature : Signature) :
    Option (Fin n) × Bool :=
  selectFrom keys identity signature ⟨none,none,none,0xffffffffffffffff⟩ (List.finRange n)

structure LeaseKey where
  leased : Bool
  token : UInt64
  deriving DecidableEq, Repr

def LeaseKey.clear : LeaseKey := ⟨false,0⟩

/-- `++*next_token`, and once more past zero. -/
def succToken (t : UInt64) : UInt64 := if t + 1 = 0 then t + 1 + 1 else t + 1

def tokenTaken (keys : Fin n → LeaseKey) (token : UInt64) : Bool :=
  (List.finRange n).any fun i => (keys i).leased && (keys i).token == token

/-- `allocate_token`: the token, zero if every attempt collided, and the counter afterwards. -/
def allocateToken (keys : Fin n → LeaseKey) (next : UInt64) : UInt64 × UInt64 :=
  match Allocator.scan succToken (tokenTaken keys) (n + 1) (succToken next) with
  | some (token, _) => (token, token)
  | none => (0, succToken^[n + 1] next)

/-- What `advc_repack_lease_acquire` leaves behind. -/
structure Acquired (n : Nat) where
  keys : Fin n → LeaseKey
  next : UInt64
  result : Except Errno (Fin n × UInt64)

def leaseAcquire (keys : Fin n → LeaseKey) (next : UInt64) : Acquired n :=
  match Fin.find? fun i => !(keys i).leased with
  | none => ⟨keys,next,.error .enospc⟩
  | some i =>
    let (token, next) := allocateToken keys next
    if token == 0 then ⟨keys,next,.error .eoverflow⟩
    else ⟨update keys i ⟨true,token⟩,next,.ok (i, token)⟩

def leaseFind (keys : Fin n → LeaseKey) (token : UInt64) : Except Errno (Fin n) :=
  if token == 0 then .error .einval
  else
    match Fin.find? fun i => (keys i).leased && (keys i).token == token with
    | none => .error .enoent
    | some i => .ok i

theorem succToken_ne_zero (t : UInt64) : succToken t ≠ 0 := by
  unfold succToken
  split
  · rename_i h
    rw [h]
    decide
  · assumption
variable {keys : Fin n → LeaseKey} {token : UInt64}
theorem tokenTaken_eq_false_iff :
    tokenTaken keys token = false ↔ ∀ i, (keys i).leased = true → (keys i).token ≠ token := by
  simp [tokenTaken]
variable {next : UInt64}
theorem scan_succToken_ne_zero {taken : UInt64 → Bool} {fuel : Nat}
    {r : UInt64 × UInt64} (hnext : next ≠ 0)
    (h : Allocator.scan succToken taken fuel next = some r) : r.1 ≠ 0 := by
  induction fuel generalizing next with
  | zero => cases h
  | succ fuel ih =>
    rw [Allocator.scan] at h
    split at h
    · exact ih (succToken_ne_zero next) h
    · cases h
      exact hnext

structure Fresh (keys : Fin n → LeaseKey) (i : Fin n) (token : UInt64) : Prop where
  free : (keys i).leased = false
  ne_zero : token ≠ 0
  unused : ∀ j, (keys j).leased = true → (keys j).token ≠ token
variable {i : Fin n}
theorem leaseAcquire_ok (h : (leaseAcquire keys next).result = .ok (i, token)) :
    Fresh keys i token ∧ (leaseAcquire keys next).keys = update keys i ⟨true,token⟩ ∧
    Fin.find? (fun i => !(keys i).leased) = some i ∧ (leaseAcquire keys next).next = token := by
  unfold leaseAcquire at h ⊢
  cases hfind : Fin.find? fun i => !(keys i).leased with
  | none =>
    rw [hfind] at h
    cases h
  | some j =>
    rw [hfind] at h
    have hfree := Slots.find_some hfind
    unfold allocateToken at h ⊢
    cases hscan : Allocator.scan succToken (tokenTaken keys) (n + 1) (succToken next) with
    | none =>
      rw [hscan] at h
      cases h
    | some r =>
      rw [hscan] at h
      have hne := scan_succToken_ne_zero (succToken_ne_zero next) hscan
      have htaken := tokenTaken_eq_false_iff.mp (Allocator.scan_free hscan)
      simp only [beq_iff_eq,hne,if_false] at h ⊢
      cases h
      exact ⟨⟨by simpa using hfree,hne,htaken⟩,rfl,rfl,rfl⟩

theorem leaseAcquire_error {e : Errno}
    (h : (leaseAcquire keys next).result = .error e) : (leaseAcquire keys next).keys = keys := by
  unfold leaseAcquire at h ⊢
  split
  · rfl
  · rename_i j hfind
    rw [hfind] at h
    dsimp only at h ⊢
    split
    · rfl
    · rename_i hne
      rw [if_neg hne] at h
      cases h

theorem leaseFind_ok (h : leaseFind keys token = .ok i) : keys i = ⟨true,token⟩ ∧ token ≠ 0 := by
  unfold leaseFind at h
  split at h
  · cases h
  · rename_i hne
    split at h
    · cases h
    · rename_i j hfind
      cases h
      have hkey := Slots.find_some hfind
      simp only [Bool.and_eq_true,beq_iff_eq] at hkey hne
      refine ⟨?_,hne⟩
      rw [← hkey.1,← hkey.2]

theorem leaseFind_error {e : Errno}
    (h : leaseFind keys token = .error e) (hne : token ≠ 0) (i : Fin n)
    (hi : (keys i).leased = true) : (keys i).token ≠ token := by
  unfold leaseFind at h
  rw [if_neg (by simpa using hne)] at h
  split at h
  · rename_i hfind
    have hkey := Slots.find_none hfind i
    simp only [hi,Bool.true_and,beq_eq_false_iff_ne] at hkey
    exact hkey
  · cases h

def LeaseKey.held (key : LeaseKey) : Multiset UInt64 := if key.leased then {key.token} else 0
def liveTokens (keys : Fin n → LeaseKey) : Multiset UInt64 := ∑ i, (keys i).held
@[simp] theorem LeaseKey.held_clear : LeaseKey.clear.held = 0 := rfl
@[simp] theorem LeaseKey.held_mk (token : UInt64) : (LeaseKey.mk true token).held = {token} := rfl

theorem LeaseKey.held_of_free {key : LeaseKey} (h : key.leased = false) : key.held = 0 := by
  rw [LeaseKey.held,h]
  rfl

theorem mem_liveTokens :
    token ∈ liveTokens keys ↔ ∃ i, (keys i).leased = true ∧ (keys i).token = token := by
  rw [liveTokens,Multiset.mem_sum]
  constructor
  · rintro ⟨i,_,hi⟩
    unfold LeaseKey.held at hi
    split at hi
    · exact ⟨i,‹_›,(Multiset.mem_singleton.mp hi).symm⟩
    · cases hi
  · rintro ⟨i,hleased,rfl⟩
    refine ⟨i,Finset.mem_univ i,?_⟩
    rw [LeaseKey.held,if_pos hleased]
    exact Multiset.mem_singleton_self _

theorem liveTokens_acquire (token : UInt64) (h : (keys i).leased = false) :
    liveTokens (update keys i ⟨true,token⟩) = liveTokens keys + {token} := by
  have hsum := Slots.sum_update_add keys i ⟨true,token⟩ fun _ => LeaseKey.held
  rwa [LeaseKey.held_of_free h,add_zero] at hsum

theorem liveTokens_clear (h : keys i = ⟨true,token⟩) :
    liveTokens (update keys i .clear) + {token} = liveTokens keys := by
  have hsum := Slots.sum_update_add keys i .clear fun _ => LeaseKey.held
  rwa [h,LeaseKey.held_mk,LeaseKey.held_clear,add_zero] at hsum

theorem Fresh.notMem (h : Fresh keys i token) : token ∉ liveTokens keys := by
  rw [mem_liveTokens]
  rintro ⟨j,hj,htoken⟩
  exact h.unused j hj htoken
end LinDeX.Repack
