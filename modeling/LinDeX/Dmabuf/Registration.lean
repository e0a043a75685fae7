import LinDeX.Dmabuf.Descriptor
import LinDeX.Library.Words
import Mathlib.Algebra.Group.End
import Mathlib.Data.Fintype.Card

/-!
# The registration record on the wire

The 256 bytes of a registration are 64 words. The decoder accepts exactly what is determined by a
valid descriptor and a permutation of the descriptor list.
-/
namespace LinDeX.Dmabuf
open Bytes List
/-- Words 0 to 23: the fixed fields, then reserved words. -/
def headWord (d : Descriptor) : Nat → UInt32
  | 0 => d.bufferId.toUInt32
  | 1 => (d.bufferId >>> 32).toUInt32
  | 2 => d.width
  | 3 => d.height
  | 4 => d.drmFourcc
  | 5 => d.explicitFlags
  | 6 => d.drmModifier.toUInt32
  | 7 => (d.drmModifier >>> 32).toUInt32
  | 8 => d.cropLeft
  | 9 => d.cropTop
  | 10 => d.cropWidth
  | 11 => d.cropHeight
  | 12 => d.objectCount
  | 13 => d.planeCount
  | 14 => d.colorPrimaries
  | 15 => d.colorTransfer
  | 16 => d.colorMatrix
  | 17 => d.colorRange
  | 18 => d.chromaHorizontal
  | 19 => d.chromaVertical
  | _ => 0

def objectWord (index : UInt32) (size : UInt64) : Nat → UInt32
  | 0 => index
  | 2 => size.toUInt32
  | 3 => (size >>> 32).toUInt32
  | _ => 0

def planeWord (plane : Plane) : Nat → UInt32
  | 0 => plane.objectIndex
  | 2 => plane.offset.toUInt32
  | 3 => (plane.offset >>> 32).toUInt32
  | 4 => plane.pitch
  | _ => 0

structure Record (index : Fin 4 → UInt32) (d : Descriptor) (p : List UInt8) : Prop where
  head : ∀ w < 24, word p w = headWord d w
  object : ∀ i : Fin 4, i.val < d.objectCount.toNat → ∀ r < 4,
    word p (24 + 4 * i.val + r) = objectWord (index i) (d.objects i).size r
  noObject : ∀ i : Fin 4, ¬ i.val < d.objectCount.toNat → ∀ r < 4,
    word p (24 + 4 * i.val + r) = 0
  plane : ∀ i : Fin 4, i.val < d.planeCount.toNat → ∀ r < 6,
    word p (40 + 6 * i.val + r) = planeWord (d.planes i) r
  noPlane : ∀ i : Fin 4, ¬ i.val < d.planeCount.toNat → ∀ r < 6,
    word p (40 + 6 * i.val + r) = 0

theorem Record.unique {index : Fin 4 → UInt32} {d : Descriptor} {p q : List UInt8}
    (hp : Record index d p) (hq : Record index d q) (hplen : p.length = 256)
    (hqlen : q.length = 256) : p = q := by
  refine ext_words (n := 64) hplen hqlen fun w hw => ?_
  by_cases hhead : w < 24
  · rw [hp.head w hhead,hq.head w hhead]
  by_cases hobject : w < 40
  · obtain ⟨i,r,hr,rfl⟩ : ∃ (i : Fin 4) (r : Nat), r < 4 ∧ w = 24 + 4 * i.val + r :=
      ⟨⟨(w - 24) / 4,by omega⟩,(w - 24) % 4,by omega,by simp only; omega⟩
    by_cases hi : i.val < d.objectCount.toNat
    · rw [hp.object i hi r hr,hq.object i hi r hr]
    · rw [hp.noObject i hi r hr,hq.noObject i hi r hr]
  · obtain ⟨i,r,hr,rfl⟩ : ∃ (i : Fin 4) (r : Nat), r < 6 ∧ w = 40 + 6 * i.val + r :=
      ⟨⟨(w - 40) / 6,by omega⟩,(w - 40) % 6,by omega,by simp only; omega⟩
    by_cases hi : i.val < d.planeCount.toNat
    · rw [hp.plane i hi r hr,hq.plane i hi r hr]
    · rw [hp.noPlane i hi r hr,hq.noPlane i hi r hr]

section
variable {p : List UInt8} {d : Descriptor}
theorem word_zeros (n w : Nat) : word (zeros n) w = 0 := by
  have hbyte (i : Nat) : byteAt (zeros n) i = 0 := by
    by_cases hi : i < n <;> simp [byteAt,zeros,List.getD_eq_getElem?_getD,hi]
  rw [word,getU32_eq_ofBytes,hbyte,hbyte,hbyte,hbyte]
  rfl

def putWords (p : List UInt8) (entries : List (Nat × UInt32)) : List UInt8 :=
  entries.foldl (fun p e => putU32 p (4 * e.1) e.2) p

theorem putWords_length (entries : List (Nat × UInt32)) :
    (putWords p entries).length = p.length := by
  induction entries generalizing p with
  | nil => rfl
  | cons e entries ih => exact (ih (p := putU32 p (4 * e.1) e.2)).trans (putU32_length ..)

theorem putWords_append (entries entries' : List (Nat × UInt32)) :
    putWords p (entries ++ entries') = putWords (putWords p entries) entries' :=
  List.foldl_append
variable {w : Nat}
theorem word_putWords {entries : List (Nat × UInt32)} {v : UInt32}
    (hfits : ∀ e ∈ entries, 4 * e.1 + 4 ≤ p.length) (hagree : ∀ e ∈ entries, e.1 = w → e.2 = v)
    (hsome : word p w = v ∨ ∃ e ∈ entries, e.1 = w) : word (putWords p entries) w = v := by
  induction entries generalizing p with
  | nil => exact hsome.resolve_right nofun
  | cons e entries ih =>
    refine ih (p := putU32 p (4 * e.1) e.2) (fun e' he' => ?_)
      (fun e' he' => hagree e' (mem_cons_of_mem _ he')) ?_
    · rw [putU32_length]
      exact hfits e' (mem_cons_of_mem _ he')
    · rw [word_putU32 _ _ _ (hfits e mem_cons_self)]
      by_cases hw : w = e.1
      · rw [if_pos hw]
        exact .inl (hagree e mem_cons_self hw.symm)
      · rw [if_neg hw]
        refine hsome.imp_right fun ⟨e',he',hw'⟩ => ⟨e',?_,hw'⟩
        refine (mem_cons.mp he').resolve_left fun h => hw ?_
        rw [← hw',h]

theorem word_putWords_zeros {size : Nat} {positions : List Nat} (f : Nat → UInt32)
    (hfits : ∀ i ∈ positions, 4 * i + 4 ≤ size) (hrest : w ∉ positions → f w = 0) :
    word (putWords (zeros size) (positions.map fun i => (i, f i))) w = f w := by
  refine word_putWords (fun e he => ?_) (fun e he hew => ?_) ?_
  · obtain ⟨i,hi,rfl⟩ := mem_map.mp he
    rw [zeros,length_replicate]
    exact hfits i hi
  · obtain ⟨i,hi,rfl⟩ := mem_map.mp he
    rw [← hew]
  · by_cases hw : w ∈ positions
    · exact .inr ⟨_,mem_map.mpr ⟨w,hw,rfl⟩,rfl⟩
    · left
      rw [word_zeros,hrest hw]

def headEntries (d : Descriptor) : List (Nat × UInt32) :=
  (List.range 20).map fun w => (w, headWord d w)

theorem putHead_eq : putHead p d = putWords p (headEntries d) := by
  simp only [putHead,putWords,headEntries,putU64,List.range_succ,List.range_zero,nil_append,
    cons_append,map_cons,map_nil,List.foldl_cons,
    List.foldl_nil,headWord,Nat.reduceMul,Nat.reduceAdd]

def objectEntries (index : Fin 4 → UInt32) (d : Descriptor) (i : Fin 4) : List (Nat × UInt32) :=
  if i.val < d.objectCount.toNat then
    [(24 + 4 * i.val, index i),(26 + 4 * i.val, (d.objects i).size.toUInt32),
      (27 + 4 * i.val, ((d.objects i).size >>> 32).toUInt32)]
  else []

def planeEntries (d : Descriptor) (i : Fin 4) : List (Nat × UInt32) :=
  if i.val < d.planeCount.toNat then
    [(40 + 6 * i.val, (d.planes i).objectIndex),(42 + 6 * i.val, (d.planes i).offset.toUInt32),
      (43 + 6 * i.val, ((d.planes i).offset >>> 32).toUInt32),(44 + 6 * i.val, (d.planes i).pitch)]
  else []

theorem putObject_eq (i : Fin 4) :
    putObject d p i = putWords p (objectEntries (fun i => UInt32.ofNat i.val) d i) := by
  unfold putObject objectEntries
  have hrecord : objectRecord i = 4 * (24 + 4 * i.val) := by unfold objectRecord; omega
  split
  · simp only [putWords,List.foldl_cons,List.foldl_nil,putU64,hrecord]
    congr 2 <;> omega
  · rfl

theorem putPlane_eq (i : Fin 4) : putPlane d p i = putWords p (planeEntries d i) := by
  unfold putPlane planeEntries
  have hrecord : planeRecord i = 4 * (40 + 6 * i.val) := by unfold planeRecord; omega
  split
  · simp only [putWords,List.foldl_cons,List.foldl_nil,putU64,hrecord]
    congr 2 <;> try omega
    congr 2
    omega
  · rfl

theorem foldl_putWords {α : Type} {put : List UInt8 → α → List UInt8}
    {entries : α → List (Nat × UInt32)} (h : ∀ p a, put p a = putWords p (entries a))
    (l : List α) : l.foldl put p = putWords p (l.flatMap entries) := by
  induction l generalizing p with
  | nil => rfl
  | cons a l ih => rw [List.foldl_cons,List.flatMap_cons,putWords_append,ih,h]

/-- The payload of `advc_dmabuf_registration_encode`. -/
def registrationPayload (d : Descriptor) : List UInt8 :=
  (List.finRange 4).foldl (putPlane d) ((List.finRange 4).foldl (putObject d)
    (putHead (zeros 256) d))

def registrationFds (d : Descriptor) : List Fd :=
  ((List.finRange 4).filter fun i => i.val < d.objectCount.toNat).map fun i => (d.objects i).fd

theorem registrationEncode_eq (cloexec : Fd → Bool) (d : Descriptor) :
    registrationEncode cloexec d =
      if descriptorValidate cloexec d then some (registrationPayload d, registrationFds d)
      else none := rfl

def registrationEntries (d : Descriptor) : List (Nat × UInt32) :=
  headEntries d ++ (List.finRange 4).flatMap (objectEntries (fun i => UInt32.ofNat i.val) d) ++
    (List.finRange 4).flatMap (planeEntries d)

theorem registrationPayload_eq (d : Descriptor) :
    registrationPayload d = putWords (zeros 256) (registrationEntries d) := by
  rw [registrationPayload,foldl_putWords (fun _ => putObject_eq),
    foldl_putWords (fun _ => putPlane_eq),putHead_eq,registrationEntries,putWords_append,
    putWords_append]

theorem registrationPayload_length (d : Descriptor) : (registrationPayload d).length = 256 := by
  rw [registrationPayload_eq,putWords_length,zeros,length_replicate]

theorem mem_registrationEntries {e : Nat × UInt32} (he : e ∈ registrationEntries d) :
    (∃ w < 20, e = (w, headWord d w)) ∨ (∃ i : Fin 4, i.val < d.objectCount.toNat ∧ ∃ r < 4,
      e = (24 + 4 * i.val + r, objectWord (UInt32.ofNat i.val) (d.objects i).size r)) ∨
    ∃ i : Fin 4, i.val < d.planeCount.toNat ∧ ∃ r < 6,
      e = (40 + 6 * i.val + r, planeWord (d.planes i) r) := by
  simp only [registrationEntries,mem_append,headEntries,mem_map,mem_range,mem_flatMap,
    mem_finRange,true_and] at he
  rcases he with (⟨w,hw,rfl⟩ | ⟨i,hi⟩) | ⟨i,hi⟩
  · exact .inl ⟨w,hw,rfl⟩
  · unfold objectEntries at hi
    split at hi
    · rename_i hlt
      refine .inr (.inl ⟨i,hlt,?_⟩)
      simp only [mem_cons,not_mem_nil,or_false] at hi
      rcases hi with rfl | rfl | rfl
      · exact ⟨0,by decide,rfl⟩
      · exact ⟨2,by decide,by rw [Nat.add_right_comm]; rfl⟩
      · exact ⟨3,by decide,by rw [Nat.add_right_comm]; rfl⟩
    · cases hi
  · unfold planeEntries at hi
    split at hi
    · rename_i hlt
      refine .inr (.inr ⟨i,hlt,?_⟩)
      simp only [mem_cons,not_mem_nil,or_false] at hi
      rcases hi with rfl | rfl | rfl | rfl
      · exact ⟨0,by decide,rfl⟩
      · exact ⟨2,by decide,by rw [Nat.add_right_comm]; rfl⟩
      · exact ⟨3,by decide,by rw [Nat.add_right_comm]; rfl⟩
      · exact ⟨4,by decide,by rw [Nat.add_right_comm]; rfl⟩
    · cases hi

theorem headEntry_mem (d : Descriptor) (hw : w < 20) :
    (w, headWord d w) ∈ registrationEntries d := by
  simp only [registrationEntries,mem_append,headEntries,mem_map,mem_range]
  exact .inl (.inl ⟨w,hw,rfl⟩)

theorem objectEntry_mem {i : Fin 4} (hi : i.val < d.objectCount.toNat) {r : Nat} (hr : r < 4)
    (hr' : r ≠ 1) : ∃ e ∈ registrationEntries d, e.1 = 24 + 4 * i.val + r := by
  have hmem (e : Nat × UInt32) (he : e ∈ objectEntries (fun i => UInt32.ofNat i.val) d i) :
      e ∈ registrationEntries d := by
    simp only [registrationEntries,mem_append,mem_flatMap]
    exact .inl (.inr ⟨i,mem_finRange i,he⟩)
  simp only [objectEntries,if_pos hi,mem_cons,not_mem_nil,or_false] at hmem
  match r, hr, hr' with
  | 0, _, _ => exact ⟨_,hmem _ (.inl rfl),rfl⟩
  | 2, _, _ => exact ⟨_,hmem _ (.inr (.inl rfl)),by dsimp only; omega⟩
  | 3, _, _ => exact ⟨_,hmem _ (.inr (.inr rfl)),by dsimp only; omega⟩

theorem planeEntry_mem {i : Fin 4} (hi : i.val < d.planeCount.toNat) {r : Nat} (hr : r < 6)
    (hr' : r ≠ 1 ∧ r ≠ 5) : ∃ e ∈ registrationEntries d, e.1 = 40 + 6 * i.val + r := by
  have hmem (e : Nat × UInt32) (he : e ∈ planeEntries d i) : e ∈ registrationEntries d := by
    simp only [registrationEntries,mem_append,mem_flatMap]
    exact .inr ⟨i,mem_finRange i,he⟩
  simp only [planeEntries,if_pos hi,mem_cons,not_mem_nil,or_false] at hmem
  match r, hr, hr' with
  | 0, _, _ => exact ⟨_,hmem _ (.inl rfl),rfl⟩
  | 2, _, _ => exact ⟨_,hmem _ (.inr (.inl rfl)),by dsimp only; omega⟩
  | 3, _, _ => exact ⟨_,hmem _ (.inr (.inr (.inl rfl))),by dsimp only; omega⟩
  | 4, _, _ => exact ⟨_,hmem _ (.inr (.inr (.inr rfl))),by dsimp only; omega⟩
  | 1, _, h => exact absurd rfl h.1
  | 5, _, h => exact absurd rfl h.2

theorem registrationPayload_record (d : Descriptor) :
    Record (fun i => UInt32.ofNat i.val) d (registrationPayload d) := by
  have hfits : ∀ e ∈ registrationEntries d, 4 * e.1 + 4 ≤ (zeros 256).length := by
    intro e he
    rw [zeros,length_replicate]
    rcases mem_registrationEntries he with ⟨w,hw,rfl⟩ | ⟨i,_,r,hr,rfl⟩ | ⟨i,_,r,hr,rfl⟩ <;>
      dsimp only <;> omega
  have hword {w : Nat} {v : UInt32} (hagree : ∀ e ∈ registrationEntries d, e.1 = w → e.2 = v)
      (hsome : v = 0 ∨ ∃ e ∈ registrationEntries d, e.1 = w) :
      word (registrationPayload d) w = v := by
    rw [registrationPayload_eq]
    refine word_putWords hfits hagree (hsome.imp_left fun hv => ?_)
    rw [word_zeros,hv]
  refine ⟨fun w hw => ?_,fun i hi r hr => ?_,fun i hi r hr => ?_,fun i hi r hr => ?_,
    fun i hi r hr => ?_⟩
  · refine hword (fun e he hew => ?_) ?_
    · rcases mem_registrationEntries he with ⟨w',hw',rfl⟩ | ⟨i,_,r,hr,rfl⟩ |
        ⟨i,_,r,hr,rfl⟩ <;> dsimp only at hew
      · rw [hew]
      · omega
      · omega
    · by_cases hlow : w < 20
      · exact .inr ⟨_,headEntry_mem d hlow,rfl⟩
      · obtain ⟨k,rfl⟩ : ∃ k, w = k + 20 := ⟨w - 20,by omega⟩
        exact .inl rfl
  · refine hword (fun e he hew => ?_) ?_
    · rcases mem_registrationEntries he with ⟨w',hw',rfl⟩ | ⟨i',_,r',hr',rfl⟩ |
        ⟨i',_,r',hr',rfl⟩ <;> dsimp only at hew
      · omega
      · have hi' : i' = i := Fin.ext (by omega)
        have hr' : r' = r := by rw [hi'] at hew; omega
        rw [hi',hr']
      · omega
    · by_cases hr' : r = 1
      · exact .inl (hr' ▸ rfl)
      · exact .inr (objectEntry_mem hi hr hr')
  · refine hword (fun e he hew => ?_) (.inl rfl)
    rcases mem_registrationEntries he with ⟨w',hw',rfl⟩ | ⟨i',hlt,r',hr',rfl⟩ |
      ⟨i',_,r',hr',rfl⟩ <;> dsimp only at hew
    · omega
    · exact absurd hlt (by rw [show i'.val = i.val by omega]; exact hi)
    · omega
  · refine hword (fun e he hew => ?_) ?_
    · rcases mem_registrationEntries he with ⟨w',hw',rfl⟩ | ⟨i',_,r',hr',rfl⟩ |
        ⟨i',_,r',hr',rfl⟩ <;> dsimp only at hew
      · omega
      · omega
      · have hi' : i' = i := Fin.ext (by omega)
        have hr' : r' = r := by rw [hi'] at hew; omega
        rw [hi',hr']
    · by_cases hr' : r = 1 ∨ r = 5
      · rcases hr' with rfl | rfl <;> exact .inl rfl
      · exact .inr (planeEntry_mem hi hr (not_or.mp hr'))
  · refine hword (fun e he hew => ?_) (.inl rfl)
    rcases mem_registrationEntries he with ⟨w',hw',rfl⟩ | ⟨i',_,r',hr',rfl⟩ |
      ⟨i',hlt,r',hr',rfl⟩ <;> dsimp only at hew
    · omega
    · omega
    · exact absurd hlt (by rw [show i'.val = i.val by omega]; exact hi)

def putFdIndices (index : Fin 4 → UInt32) (d : Descriptor) (p : List UInt8) : List UInt8 :=
  (List.finRange 4).foldl
    (fun p i => if i.val < d.objectCount.toNat then putU32 p (objectRecord i) (index i) else p) p

def fdIndexEntries (index : Fin 4 → UInt32) (d : Descriptor) (i : Fin 4) : List (Nat × UInt32) :=
  if i.val < d.objectCount.toNat then [(24 + 4 * i.val, index i)] else []
variable (index : Fin 4 → UInt32)
theorem putFdIndices_eq :
    putFdIndices index d p = putWords p ((List.finRange 4).flatMap (fdIndexEntries index d)) := by
  refine foldl_putWords (fun p i => ?_) _
  have hrecord : objectRecord i = 4 * (24 + 4 * i.val) := by unfold objectRecord; omega
  unfold fdIndexEntries
  rw [hrecord]
  split <;> rfl

theorem Record.putFdIndices {index₀ : Fin 4 → UInt32}
    (h : Record index₀ d p) (hlength : p.length = 256) :
    Record index d (putFdIndices index d p) := by
  have hmem {e : Nat × UInt32} (he : e ∈ (List.finRange 4).flatMap (fdIndexEntries index d)) :
      ∃ i : Fin 4, i.val < d.objectCount.toNat ∧ e = (24 + 4 * i.val, index i) := by
    obtain ⟨i,_,hi⟩ := mem_flatMap.mp he
    unfold fdIndexEntries at hi
    split at hi
    · rename_i hlt
      exact ⟨i,hlt,mem_singleton.mp hi⟩
    · cases hi
  have hfits : ∀ e ∈ (List.finRange 4).flatMap (fdIndexEntries index d),
      4 * e.1 + 4 ≤ p.length := by
    intro e he
    obtain ⟨i,_,rfl⟩ := hmem he
    omega
  have hkept {w : Nat} (hw : ∀ i : Fin 4, i.val < d.objectCount.toNat → w ≠ 24 + 4 * i.val) :
      word (Dmabuf.putFdIndices index d p) w = word p w := by
    rw [putFdIndices_eq]
    refine word_putWords hfits (fun e he hew => ?_) (.inl rfl)
    obtain ⟨i,hi,rfl⟩ := hmem he
    exact absurd hew.symm (hw i hi)
  refine ⟨fun w hw => ?_,fun i hi r hr => ?_,fun i hi r hr => ?_,fun i hi r hr => ?_,
    fun i hi r hr => ?_⟩
  · rw [hkept fun i _ => by omega,h.head w hw]
  · by_cases hr' : r = 0
    · subst hr'
      rw [putFdIndices_eq]
      refine word_putWords hfits (fun e he hew => ?_) (.inr ⟨(24 + 4 * i.val, index i),?_,rfl⟩)
      · obtain ⟨i',hi',rfl⟩ := hmem he
        have heq : i' = i := Fin.ext (by dsimp only at hew; omega)
        rw [heq]
        rfl
      · refine mem_flatMap.mpr ⟨i,mem_finRange i,?_⟩
        rw [fdIndexEntries,if_pos hi]
        exact mem_singleton_self _
    · rw [hkept fun i' _ => by omega,h.object i hi r hr]
      match r, hr, hr' with
      | 1, _, _ => rfl
      | 2, _, _ => rfl
      | 3, _, _ => rfl
  · rw [hkept fun i' hi' => ?_,h.noObject i hi r hr]
    omega
  · rw [hkept fun i' _ => by omega,h.plane i hi r hr]
  · rw [hkept fun i' _ => by omega,h.noPlane i hi r hr]

theorem putFdIndices_length : (putFdIndices index d p).length = p.length := by
  rw [putFdIndices_eq,putWords_length]
end

section
variable {p : List UInt8} {fds : List Fd} {fdCount : UInt16} {d d' : Descriptor}
def fdIndex (p : List UInt8) (i : Fin 4) : UInt32 := word p (24 + 4 * i.val)
variable (i : Fin 4)
theorem objectRecord_eq (r : Nat) :
    objectRecord i + 4 * r = 4 * (24 + 4 * i.val + r) := by
  unfold objectRecord
  omega

theorem planeRecord_eq (r : Nat) :
    planeRecord i + 4 * r = 4 * (40 + 6 * i.val + r) := by
  unfold planeRecord
  omega

def readObject (p : List UInt8) (fds : List Fd) (i : Fin 4) : Object :=
  ⟨fds.getD (fdIndex p i).toNat (-1),getU64 p (4 * (26 + 4 * i.val))⟩
def readPlane (p : List UInt8) (i : Fin 4) : Plane :=
  ⟨word p (40 + 6 * i.val),getU64 p (4 * (42 + 6 * i.val)),word p (44 + 6 * i.val)⟩

theorem mask_insert (m a b : UInt32) (ha : a < 4) (hb : b < 4) :
    (m ||| (1 : UInt32) <<< a) &&& (1 : UInt32) <<< b = 0 ↔
      m &&& (1 : UInt32) <<< b = 0 ∧ a ≠ b := by
  have hcases (x : UInt32) (hx : x < 4) : x = 0 ∨ x = 1 ∨ x = 2 ∨ x = 3 := by
    have hnat := UInt32.lt_iff_toNat_lt.mp hx
    simp only [← UInt32.toNat_inj]
    simp at hnat ⊢
    omega
  have hdistrib (x y : UInt32) : (m ||| x) &&& y = (m &&& y) ||| (x &&& y) := by
    refine UInt32.toBitVec_inj.mp (BitVec.eq_of_getLsbD_eq fun j hj => ?_)
    simp [Bool.and_or_distrib_right]
  have hor (x y : UInt32) : x ||| y = 0 ↔ x = 0 ∧ y = 0 := by
    simp [← UInt32.toNat_inj]
  rw [hdistrib,hor]
  refine and_congr_right fun _ => ?_
  rcases hcases a ha with rfl | rfl | rfl | rfl <;>
    rcases hcases b hb with rfl | rfl | rfl | rfl <;> decide

inductive ObjectRound (p : List UInt8) (fds : List Fd) (fdCount : UInt16) (i : Fin 4)
    (d : Descriptor) (m : UInt32) : Descriptor → UInt32 → Prop
  | used (hi : i.val < d.objectCount.toNat) (hreserved : word p (25 + 4 * i.val) = 0)
      (hindex : fdIndex p i < fdCount.toUInt32) (hfresh : m &&& (1 : UInt32) <<< fdIndex p i = 0) :
      ObjectRound p fds fdCount i d m (d.setObject i (readObject p fds i))
        (m ||| (1 : UInt32) <<< fdIndex p i)
  | unused (hi : ¬ i.val < d.objectCount.toNat) (hzero : ∀ r < 4, word p (24 + 4 * i.val + r) = 0) :
      ObjectRound p fds fdCount i d m d m

theorem decodeObject_eq_some_iff {m m' : UInt32} (i : Fin 4) :
    decodeObject p fds fdCount (some (d, m)) i = some (d', m') ↔
      ObjectRound p fds fdCount i d m d' m' := by
  have hreserved : zeroRange p (objectRecord i + 4) 4 = true ↔ word p (25 + 4 * i.val) = 0 := by
    rw [objectRecord_eq i 1,zeroRange_word_iff,Nat.add_right_comm]
  have hzero : zeroRange p (objectRecord i) 16 = true ↔
      ∀ r < 4, word p (24 + 4 * i.val + r) = 0 := by
    rw [show objectRecord i = 4 * (24 + 4 * i.val) from objectRecord_eq i 0]
    exact zeroRange_words_iff _ 4
  have hsize : getU64 p (objectRecord i + 8) = getU64 p (4 * (26 + 4 * i.val)) := by
    rw [objectRecord_eq i 2,Nat.add_right_comm]
  have hindex : getU32 p (objectRecord i) = fdIndex p i := by
    rw [show objectRecord i = 4 * (24 + 4 * i.val) from objectRecord_eq i 0]
    rfl
  simp only [decodeObject,Option.bind_some,hsize,hindex]
  constructor
  · intro h
    split at h
    · rename_i hi
      split at h
      · cases h
      rename_i hcheck
      simp only [Bool.or_eq_true,Bool.not_eq_true',decide_eq_true_eq,bne_iff_ne,not_or,
        Bool.not_eq_false,ne_eq,not_not,hreserved] at hcheck
      obtain ⟨rfl,rfl⟩ := Prod.mk.inj (Option.some.inj h)
      exact .used hi hcheck.1.1 (UInt32.not_le.mp hcheck.1.2) hcheck.2
    · rename_i hi
      split at h
      · cases h
      rename_i hcheck
      obtain ⟨rfl,rfl⟩ := Prod.mk.inj (Option.some.inj h)
      exact .unused hi (hzero.mp (by simpa using hcheck))
  · intro h
    cases h with
    | used hi hr hlt hfresh =>
      rw [if_pos hi,if_neg]
      · rfl
      · simp only [Bool.or_eq_true,Bool.not_eq_true',decide_eq_true_eq,bne_iff_ne,not_or,
          Bool.not_eq_false,ne_eq,not_not,hreserved]
        exact ⟨⟨hr,UInt32.not_le.mpr hlt⟩,hfresh⟩
    | unused hi hz =>
      rw [if_neg hi,if_neg]
      simpa using hzero.mpr hz
variable (l : List (Fin 4))
theorem foldl_decodeObject_none :
    l.foldl (decodeObject p fds fdCount) none = none := by
  induction l with
  | nil => rfl
  | cons i l ih => exact ih

theorem foldl_decodeObject_cons {m m' : UInt32} :
    (i :: l).foldl (decodeObject p fds fdCount) (some (d, m)) = some (d', m') ↔
      ∃ d₁ m₁, ObjectRound p fds fdCount i d m d₁ m₁ ∧
      l.foldl (decodeObject p fds fdCount) (some (d₁, m₁)) = some (d', m') := by
  simp only [← decodeObject_eq_some_iff,List.foldl_cons]
  cases h : decodeObject p fds fdCount (some (d, m)) i with
  | none => simp [foldl_decodeObject_none]
  | some r =>
    obtain ⟨d₁,m₁⟩ := r
    simp

/-- What the object loop asks of the records in a list, with the positions in `m` taken. -/
structure ObjectsRead (p : List UInt8) (fdCount : UInt16) (n : Nat) (l : List (Fin 4))
    (m : UInt32) : Prop where
  reserved : ∀ i ∈ l, i.val < n → word p (25 + 4 * i.val) = 0
  index : ∀ i ∈ l, i.val < n → fdIndex p i < fdCount.toUInt32
  fresh : ∀ i ∈ l, i.val < n → m &&& (1 : UInt32) <<< fdIndex p i = 0
  distinct : l.Pairwise fun i j => i.val < n → j.val < n → fdIndex p i ≠ fdIndex p j
  zero : ∀ i ∈ l, ¬ i.val < n → ∀ r < 4, word p (24 + 4 * i.val + r) = 0

def withObjects (p : List UInt8) (fds : List Fd) (l : List (Fin 4)) (d : Descriptor) :
    Descriptor :=
  { d with objects := fun i =>
      if i ∈ l ∧ i.val < d.objectCount.toNat then readObject p fds i else d.objects i }

variable (i : Fin 4)
theorem withObjects_cons (hi : i.val < d.objectCount.toNat) :
    withObjects p fds l (d.setObject i (readObject p fds i)) = withObjects p fds (i :: l) d := by
  unfold withObjects Descriptor.setObject
  congr 1
  funext j
  by_cases hj : j = i
  · subst hj
    simp [hi]
  · simp [hj]

theorem withObjects_cons_unused (hi : ¬ i.val < d.objectCount.toNat) :
    withObjects p fds (i :: l) d = withObjects p fds l d := by
  unfold withObjects
  congr 1
  funext j
  by_cases hj : j = i
  · subst hj
    simp [hi]
  · simp [hj]

theorem foldl_decodeObject_iff (hcount : fdCount ≤ 4) (l : List (Fin 4)) (d : Descriptor)
    (m : UInt32) :
    (∃ m', l.foldl (decodeObject p fds fdCount) (some (d, m)) = some (d', m')) ↔
      ObjectsRead p fdCount d.objectCount.toNat l m ∧ d' = withObjects p fds l d := by
  have hfour {a : UInt32} (ha : a < fdCount.toUInt32) : a < 4 := by
    rw [UInt32.lt_iff_toNat_lt] at ha ⊢
    have hle := UInt16.le_iff_toNat_le.mp hcount
    rw [UInt16.toNat_toUInt32] at ha
    exact Nat.lt_of_lt_of_le ha hle
  induction l generalizing d m with
  | nil =>
    have hnil : withObjects p fds [] d = d := by simp [withObjects]
    rw [hnil]
    constructor
    · rintro ⟨m',h⟩
      cases h
      exact ⟨⟨nofun,nofun,nofun,.nil,nofun⟩,rfl⟩
    · rintro ⟨_,rfl⟩
      exact ⟨m,rfl⟩
  | cons i l ih =>
    simp only [foldl_decodeObject_cons]
    constructor
    · rintro ⟨m',d1,m1,hround,hrest⟩
      cases hround with
      | used hi hreserved hindex hfresh =>
        obtain ⟨hread,rfl⟩ := (ih _ _).mp ⟨m',hrest⟩
        have hmask (j : Fin 4) (hj : j ∈ l) (hjn : j.val < d.objectCount.toNat) :=
          (mask_insert m _ _ (hfour hindex) (hfour (hread.index j hj hjn))).mp
            (hread.fresh j hj hjn)
        refine ⟨⟨?_,?_,?_,?_,?_⟩,withObjects_cons l i hi⟩
        · exact forall_mem_cons.mpr ⟨fun _ => hreserved,hread.reserved⟩
        · exact forall_mem_cons.mpr ⟨fun _ => hindex,hread.index⟩
        · exact forall_mem_cons.mpr ⟨fun _ => hfresh,fun j hj hjn => (hmask j hj hjn).1⟩
        · exact pairwise_cons.mpr ⟨fun j hj _ hjn => (hmask j hj hjn).2,hread.distinct⟩
        · exact forall_mem_cons.mpr ⟨fun h => absurd hi h,hread.zero⟩
      | unused hi hzero =>
        obtain ⟨hread,rfl⟩ := (ih _ _).mp ⟨m',hrest⟩
        refine ⟨⟨?_,?_,?_,?_,?_⟩,(withObjects_cons_unused l i hi).symm⟩
        · exact forall_mem_cons.mpr ⟨fun h => absurd h hi,hread.reserved⟩
        · exact forall_mem_cons.mpr ⟨fun h => absurd h hi,hread.index⟩
        · exact forall_mem_cons.mpr ⟨fun h => absurd h hi,hread.fresh⟩
        · exact pairwise_cons.mpr ⟨fun j _ h => absurd h hi,hread.distinct⟩
        · exact forall_mem_cons.mpr ⟨fun _ => hzero,hread.zero⟩
    · rintro ⟨hread,rfl⟩
      have hreserved := forall_mem_cons.mp hread.reserved
      have hindex := forall_mem_cons.mp hread.index
      have hfresh := forall_mem_cons.mp hread.fresh
      have hdistinct := pairwise_cons.mp hread.distinct
      have hzero := forall_mem_cons.mp hread.zero
      by_cases hi : i.val < d.objectCount.toNat
      · have hrest (j : Fin 4) (hj : j ∈ l) (hjn : j.val < d.objectCount.toNat) :=
          (mask_insert m _ _ (hfour (hindex.1 hi)) (hfour (hindex.2 j hj hjn))).mpr
            ⟨hfresh.2 j hj hjn,hdistinct.1 j hj hi hjn⟩
        obtain ⟨m',hfold⟩ := (ih (d.setObject i (readObject p fds i)) _).mpr
          ⟨⟨hreserved.2,hindex.2,hrest,hdistinct.2,hzero.2⟩,(withObjects_cons l i hi).symm⟩
        exact ⟨m',_,_,.used hi (hreserved.1 hi) (hindex.1 hi) (hfresh.1 hi),hfold⟩
      · obtain ⟨m',hfold⟩ := (ih d m).mpr ⟨⟨hreserved.2,hindex.2,hfresh.2,hdistinct.2,hzero.2⟩,
          withObjects_cons_unused l i hi⟩
        exact ⟨m',_,_,.unused hi (hzero.1 hi),hfold⟩

inductive PlaneRound (p : List UInt8) (i : Fin 4) (d : Descriptor) : Descriptor → Prop
  | used (hi : i.val < d.planeCount.toNat) (hreserved : word p (41 + 6 * i.val) = 0)
      (hpadding : word p (45 + 6 * i.val) = 0) :
      PlaneRound p i d { d with planes := Function.update d.planes i (readPlane p i) }
  | unused (hi : ¬ i.val < d.planeCount.toNat) (hzero : ∀ r < 6, word p (40 + 6 * i.val + r) = 0) :
      PlaneRound p i d d

theorem decodePlane_eq_some_iff :
    decodePlane p (some d) i = some d' ↔ PlaneRound p i d d' := by
  have hword (r : Nat) : zeroRange p (planeRecord i + 4 * r) 4 = true ↔
      word p (40 + r + 6 * i.val) = 0 := by
    rw [planeRecord_eq i r,zeroRange_word_iff,Nat.add_right_comm]
  have hzero : zeroRange p (planeRecord i) 24 = true ↔
      ∀ r < 6, word p (40 + 6 * i.val + r) = 0 := by
    rw [show planeRecord i = 4 * (40 + 6 * i.val) from planeRecord_eq i 0]
    exact zeroRange_words_iff _ 6
  have hplane : (⟨getU32 p (planeRecord i),getU64 p (planeRecord i + 8),
      getU32 p (planeRecord i + 16)⟩ : Plane) = readPlane p i := by
    rw [planeRecord_eq i 2,planeRecord_eq i 4,
      show planeRecord i = 4 * (40 + 6 * i.val) from planeRecord_eq i 0,
      Nat.add_right_comm 40 _ 2,Nat.add_right_comm 40 _ 4]
    rfl
  simp only [decodePlane,Option.bind_some,hplane]
  constructor
  · intro h
    split at h
    · rename_i hi
      split at h
      · cases h
      rename_i hcheck
      simp only [Bool.or_eq_true,Bool.not_eq_true',not_or,Bool.not_eq_false] at hcheck
      cases h
      exact .used hi ((hword 1).mp hcheck.1) ((hword 5).mp hcheck.2)
    · rename_i hi
      split at h
      · cases h
      rename_i hcheck
      cases h
      exact .unused hi (hzero.mp (by simpa using hcheck))
  · intro h
    cases h with
    | used hi hreserved hpadding =>
      rw [if_pos hi,if_neg]
      simp only [Bool.or_eq_true,Bool.not_eq_true',not_or,Bool.not_eq_false]
      exact ⟨(hword 1).mpr hreserved,(hword 5).mpr hpadding⟩
    | unused hi hz =>
      rw [if_neg hi,if_neg]
      simpa using hzero.mpr hz

theorem foldl_decodePlane_none : l.foldl (decodePlane p) none = none := by
  induction l with
  | nil => rfl
  | cons i l ih => exact ih

theorem foldl_decodePlane_cons : (i :: l).foldl (decodePlane p) (some d) = some d' ↔
      ∃ d₁, PlaneRound p i d d₁ ∧ l.foldl (decodePlane p) (some d₁) = some d' := by
  simp only [← decodePlane_eq_some_iff,List.foldl_cons]
  cases h : decodePlane p (some d) i with
  | none => simp [foldl_decodePlane_none]
  | some d₁ => simp

structure PlanesRead (p : List UInt8) (n : Nat) (l : List (Fin 4)) : Prop where
  reserved : ∀ i ∈ l, i.val < n → word p (41 + 6 * i.val) = 0 ∧ word p (45 + 6 * i.val) = 0
  zero : ∀ i ∈ l, ¬ i.val < n → ∀ r < 6, word p (40 + 6 * i.val + r) = 0

def withPlanes (p : List UInt8) (l : List (Fin 4)) (d : Descriptor) : Descriptor :=
  { d with planes := fun i =>
      if i ∈ l ∧ i.val < d.planeCount.toNat then readPlane p i else d.planes i }

theorem withPlanes_cons (hi : i.val < d.planeCount.toNat) :
    withPlanes p l { d with planes := Function.update d.planes i (readPlane p i) } =
      withPlanes p (i :: l) d := by
  unfold withPlanes
  congr 1
  funext j
  by_cases hj : j = i
  · subst hj
    simp [hi]
  · simp [hj]

theorem withPlanes_cons_unused
    (hi : ¬ i.val < d.planeCount.toNat) : withPlanes p (i :: l) d = withPlanes p l d := by
  unfold withPlanes
  congr 1
  funext j
  by_cases hj : j = i
  · subst hj
    simp [hi]
  · simp [hj]

theorem foldl_decodePlane_iff (d : Descriptor) :
    l.foldl (decodePlane p) (some d) = some d' ↔
      PlanesRead p d.planeCount.toNat l ∧ d' = withPlanes p l d := by
  induction l generalizing d with
  | nil =>
    have hnil : withPlanes p [] d = d := by simp [withPlanes]
    rw [hnil]
    constructor
    · intro h
      cases h
      exact ⟨⟨nofun,nofun⟩,rfl⟩
    · rintro ⟨_,rfl⟩
      rfl
  | cons i l ih =>
    rw [foldl_decodePlane_cons]
    constructor
    · rintro ⟨d1,hround,hrest⟩
      cases hround with
      | used hi hreserved hpadding =>
        obtain ⟨hread,rfl⟩ := (ih _).mp hrest
        refine ⟨⟨?_,?_⟩,withPlanes_cons l i hi⟩
        · exact forall_mem_cons.mpr ⟨fun _ => ⟨hreserved,hpadding⟩,hread.reserved⟩
        · exact forall_mem_cons.mpr ⟨fun h => absurd hi h,hread.zero⟩
      | unused hi hzero =>
        obtain ⟨hread,rfl⟩ := (ih _).mp hrest
        refine ⟨⟨?_,?_⟩,(withPlanes_cons_unused l i hi).symm⟩
        · exact forall_mem_cons.mpr ⟨fun h => absurd h hi,hread.reserved⟩
        · exact forall_mem_cons.mpr ⟨fun _ => hzero,hread.zero⟩
    · rintro ⟨hread,rfl⟩
      have hreserved := forall_mem_cons.mp hread.reserved
      have hzero := forall_mem_cons.mp hread.zero
      by_cases hi : i.val < d.planeCount.toNat
      · refine ⟨_,.used hi (hreserved.1 hi).1 (hreserved.1 hi).2,(ih _).mpr ⟨?_,?_⟩⟩
        · exact ⟨hreserved.2,hzero.2⟩
        · exact (withPlanes_cons l i hi).symm
      · refine ⟨_,.unused hi (hzero.1 hi),(ih _).mpr ⟨⟨hreserved.2,hzero.2⟩,?_⟩⟩
        exact withPlanes_cons_unused l i hi

theorem head_iff : (∀ w < 24, word p w = headWord d w) ↔ zeroRange p 80 16 = true ∧
    getHead p = { d with objects := fun _ => ⟨-1,0⟩, planes := fun _ => ⟨0,0,0⟩ } := by
  have hzero : zeroRange p 80 16 = true ↔ ∀ r < 4, word p (20 + r) = 0 := zeroRange_words_iff 20 4
  constructor
  · intro h
    refine ⟨hzero.mpr fun r hr => (h (20 + r) (by omega)).trans ?_,?_⟩
    · match r, hr with
      | 0, _ => rfl
      | 1, _ => rfl
      | 2, _ => rfl
      | 3, _ => rfl
    · simp only [getHead,Descriptor.zero,Descriptor.mk.injEq,and_true]
      have hid : getU64 p 0 = d.bufferId :=
        getU64_of_words (w := 0) (h 0 (by decide)) (h 1 (by decide))
      have hmodifier : getU64 p 24 = d.drmModifier :=
        getU64_of_words (w := 6) (h 6 (by decide)) (h 7 (by decide))
      exact ⟨hid,h 2 (by decide),h 3 (by decide),h 4 (by decide),h 5 (by decide),hmodifier,
        h 8 (by decide),h 9 (by decide),h 10 (by decide),h 11 (by decide),h 12 (by decide),
        h 13 (by decide),h 14 (by decide),h 15 (by decide),h 16 (by decide),h 17 (by decide),
        h 18 (by decide),h 19 (by decide)⟩
  · rintro ⟨hreserved,hhead⟩
    simp only [getHead,Descriptor.zero,Descriptor.mk.injEq,and_true] at hhead
    obtain ⟨hid,h2,h3,h4,h5,hmodifier,h8,h9,h10,h11,h12,h13,h14,h15,h16,h17,h18,h19⟩ := hhead
    have hid := word_of_getU64 (w := 0) hid
    have hmodifier := word_of_getU64 (w := 6) hmodifier
    intro w hw
    by_cases hlow : 20 ≤ w
    · obtain ⟨r,rfl⟩ := Nat.exists_eq_add_of_le hlow
      rw [hzero.mp hreserved r (by omega),Nat.add_comm]
      rfl
    · match w, hlow with
      | 0, _ => exact hid.1
      | 1, _ => exact hid.2
      | 2, _ => exact h2
      | 3, _ => exact h3
      | 4, _ => exact h4
      | 5, _ => exact h5
      | 6, _ => exact hmodifier.1
      | 7, _ => exact hmodifier.2
      | 8, _ => exact h8
      | 9, _ => exact h9
      | 10, _ => exact h10
      | 11, _ => exact h11
      | 12, _ => exact h12
      | 13, _ => exact h13
      | 14, _ => exact h14
      | 15, _ => exact h15
      | 16, _ => exact h16
      | 17, _ => exact h17
      | 18, _ => exact h18
      | 19, _ => exact h19
      | _ + 20, h => exact absurd (Nat.le_add_left ..) h

def readDescriptor (p : List UInt8) (fds : List Fd) : Descriptor :=
  withPlanes p (List.finRange 4) (withObjects p fds (List.finRange 4) (getHead p))

/-- The checks that `advc_dmabuf_registration_decode` makes before it validates the result. -/
structure Readable (p : List UInt8) (payloadSize : UInt32) (fdCount : UInt16) : Prop where
  size : payloadSize = 256
  count : fdCount ≤ 4
  reserved : zeroRange p 80 16 = true
  objectCount : (getHead p).objectCount = fdCount.toUInt32
  objects : ObjectsRead p fdCount (getHead p).objectCount.toNat (List.finRange 4) 0
  planes : PlanesRead p (getHead p).planeCount.toNat (List.finRange 4)

variable {cloexec : Fd → Bool}
theorem descriptorValidate_counts (h : descriptorValidate cloexec d = true) :
    d.objectCount ≠ 0 ∧ d.objectCount ≤ 4 ∧ d.planeCount ≠ 0 ∧ d.planeCount ≤ 4 := by
  simp only [descriptorValidate,Bool.and_eq_true,headValid,Bool.not_eq_true',
    Bool.or_eq_false_iff,beq_eq_false_iff_ne,decide_eq_false_iff_not,UInt32.not_lt,gt_iff_lt] at h
  exact ⟨h.1.1.1.1.1.1.1.1.1.2,h.1.1.1.1.1.1.1.1.2,h.1.1.1.1.1.1.1.2,h.1.1.1.1.1.1.2⟩

theorem descriptorValidate_unused (h : descriptorValidate cloexec d = true) :
    (∀ i : Fin 4, ¬ i.val < d.objectCount.toNat → d.objects i = ⟨-1,0⟩) ∧
    ∀ i : Fin 4, ¬ i.val < d.planeCount.toNat → d.planes i = ⟨0,0,0⟩ := by
  simp only [descriptorValidate,Bool.and_eq_true,all_eq_true] at h
  refine ⟨fun i hi => ?_,fun i hi => ?_⟩
  · have hobject := h.1.2 i (mem_finRange i)
    simp only [objectValid,if_neg hi,Bool.and_eq_true,beq_iff_eq] at hobject
    exact Object.mk.injEq .. ▸ hobject
  · have hplane := h.2 i (mem_finRange i)
    simp only [planeValid,if_neg hi,Bool.and_eq_true,beq_iff_eq] at hplane
    cases hp : d.planes i
    simp only [hp] at hplane
    simp only [hplane]

variable {payloadSize : UInt32}
theorem registrationDecode_eq_ok_iff :
    registrationDecode cloexec p payloadSize fds fdCount = .ok d ↔
      Readable p payloadSize fdCount ∧ d = readDescriptor p fds ∧
      descriptorValidate cloexec d = true := by
  unfold registrationDecode
  constructor
  · intro h
    simp only at h
    split at h
    · cases h
    rename_i hsize
    simp only [Bool.or_eq_true,bne_iff_ne,decide_eq_true_eq,not_or,ne_eq,not_not,gt_iff_lt,
      UInt16.not_lt] at hsize
    split at h
    · cases h
    rename_i hhead
    simp only [Bool.or_eq_true,Bool.not_eq_true',bne_iff_ne,not_or,ne_eq,not_not,
      Bool.not_eq_false] at hhead
    split at h
    · cases h
    rename_i d1 m hfold
    obtain ⟨hread,rfl⟩ := (foldl_decodeObject_iff hsize.2 _ _ _).mp
      ⟨m,hfold⟩
    split at h
    · cases h
    rename_i d2 hfold2
    obtain ⟨hplanes,rfl⟩ := (foldl_decodePlane_iff _ _).mp hfold2
    split at h
    · rename_i hvalid
      cases h
      exact ⟨⟨hsize.1,hsize.2,hhead.1.1.1.1.1,hhead.1.1.1.1.2,hread,hplanes⟩,rfl,hvalid⟩
    · cases h
  · rintro ⟨hread,rfl,hvalid⟩
    obtain ⟨hobject,hobject',hplane,hplane'⟩ := descriptorValidate_counts hvalid
    obtain ⟨m,hfold⟩ := (@foldl_decodeObject_iff p fds _ _ hread.count _ _ _).mpr
      ⟨hread.objects,rfl⟩
    have hfold2 := (foldl_decodePlane_iff (List.finRange 4)
      (withObjects p fds (List.finRange 4) (getHead p))).mpr ⟨hread.planes,rfl⟩
    simp only
    rw [if_neg,if_neg,hfold]
    · simp only [hfold2]
      exact if_pos hvalid
    · simp only [Bool.or_eq_true,Bool.not_eq_true',bne_iff_ne,not_or,ne_eq,not_not,
        Bool.not_eq_false,beq_iff_eq,decide_eq_true_eq,gt_iff_lt,UInt32.not_lt]
      exact ⟨⟨⟨⟨⟨hread.reserved,hread.objectCount⟩,hobject⟩,hobject'⟩,hplane⟩,hplane'⟩
    · simp only [Bool.or_eq_true,bne_iff_ne,decide_eq_true_eq,not_or,ne_eq,not_not,gt_iff_lt,
        UInt16.not_lt]
      exact ⟨hread.size,hread.count⟩

/-- A payload that is the record of a descriptor whose objects lie in a descriptor list, each at
the position that its record names. -/
structure Placed (p : List UInt8) (fds : List Fd) (d : Descriptor) : Prop where
  length : p.length = 256
  fdsLength : fds.length = d.objectCount.toNat
  record : Record (fdIndex p) d p
  range : ∀ i : Fin 4, i.val < d.objectCount.toNat → (fdIndex p i).toNat < d.objectCount.toNat
  distinct : ∀ i j : Fin 4, i.val < d.objectCount.toNat → j.val < d.objectCount.toNat →
    fdIndex p i = fdIndex p j → i = j
  fd : ∀ i : Fin 4, i.val < d.objectCount.toNat →
    (d.objects i).fd = fds.getD (fdIndex p i).toNat (-1)

variable {i : Fin 4}
theorem readObject_words {r : Nat} (hr : r < 4)
    (hreserved : word p (25 + 4 * i.val) = 0) :
    word p (24 + 4 * i.val + r) = objectWord (fdIndex p i) (readObject p fds i).size r := by
  have hsize := word_of_getU64 (p := p) (w := 26 + 4 * i.val) rfl
  match r, hr with
  | 0, _ => rfl
  | 1, _ => rw [Nat.add_right_comm]; exact hreserved
  | 2, _ => rw [Nat.add_right_comm]; exact hsize.1
  | 3, _ => exact (congrArg (word p) (by omega)).trans hsize.2

theorem readPlane_words {r : Nat} (hr : r < 6)
    (hreserved : word p (41 + 6 * i.val) = 0 ∧ word p (45 + 6 * i.val) = 0) :
    word p (40 + 6 * i.val + r) = planeWord (readPlane p i) r := by
  have hoffset := word_of_getU64 (p := p) (w := 42 + 6 * i.val) rfl
  match r, hr with
  | 0, _ => rfl
  | 1, _ => rw [Nat.add_right_comm]; exact hreserved.1
  | 2, _ => rw [Nat.add_right_comm]; exact hoffset.1
  | 3, _ => exact (congrArg (word p) (by omega)).trans hoffset.2
  | 4, _ => rw [Nat.add_right_comm]; rfl
  | 5, _ => rw [Nat.add_right_comm]; exact hreserved.2

theorem readObject_eq {o : Object} (hfd : o.fd = fds.getD (fdIndex p i).toNat (-1))
    (hwords : ∀ r < 4, word p (24 + 4 * i.val + r) = objectWord (fdIndex p i) o.size r) :
    readObject p fds i = o := by
  have hsize : getU64 p (4 * (26 + 4 * i.val)) = o.size := by
    apply getU64_of_words
    · exact (congrArg (word p) (by omega)).trans (hwords 2 (by decide))
    · exact (congrArg (word p) (by omega)).trans (hwords 3 (by decide))
  rw [readObject,hsize,← hfd]

theorem readPlane_eq {q : Plane}
    (hwords : ∀ r < 6, word p (40 + 6 * i.val + r) = planeWord q r) : readPlane p i = q := by
  have hoffset : getU64 p (4 * (42 + 6 * i.val)) = q.offset := by
    apply getU64_of_words
    · exact (congrArg (word p) (by omega)).trans (hwords 2 (by decide))
    · exact (congrArg (word p) (by omega)).trans (hwords 3 (by decide))
  have hindex : word p (40 + 6 * i.val) = q.objectIndex := hwords 0 (by decide)
  have hpitch : word p (44 + 6 * i.val) = q.pitch :=
    (congrArg (word p) (by omega)).trans (hwords 4 (by decide))
  rw [readPlane,hoffset,hindex,hpitch]

theorem Readable.placed (h : Readable p payloadSize fdCount)
    (hsize : p.length = payloadSize.toNat) (hcount : fds.length = fdCount.toNat) :
    Placed p fds (readDescriptor p fds) := by
  have hobjectCount : (readDescriptor p fds).objectCount.toNat = fdCount.toNat := by
    rw [← UInt16.toNat_toUInt32,← h.objectCount]
    rfl
  have hmem (i : Fin 4) : i ∈ List.finRange 4 := mem_finRange i
  have hobject (i : Fin 4) (hi : i.val < (readDescriptor p fds).objectCount.toNat) :
      (readDescriptor p fds).objects i = readObject p fds i := if_pos ⟨hmem i,hi⟩
  have hplane (i : Fin 4) (hi : i.val < (readDescriptor p fds).planeCount.toNat) :
      (readDescriptor p fds).planes i = readPlane p i := if_pos ⟨hmem i,hi⟩
  refine ⟨?_,?_,?_,?_,?_,?_⟩
  · rw [hsize,h.size]
    rfl
  · rw [hcount,hobjectCount]
  · refine ⟨?_,fun i hi r hr => ?_,fun i hi => h.objects.zero i (hmem i) hi,
      fun i hi r hr => ?_,fun i hi => h.planes.zero i (hmem i) hi⟩
    · exact head_iff.mpr ⟨h.reserved,rfl⟩
    · rw [hobject i hi]
      exact readObject_words hr (h.objects.reserved i (hmem i) hi)
    · rw [hplane i hi]
      exact readPlane_words hr (h.planes.reserved i (hmem i) hi)
  · intro i hi
    have hlt := UInt32.lt_iff_toNat_lt.mp (h.objects.index i (hmem i) hi)
    rwa [UInt16.toNat_toUInt32,← hobjectCount] at hlt
  · intro i j hi hj heq
    by_contra hne
    have hsymm : Std.Symm fun i j : Fin 4 => i.val < (getHead p).objectCount.toNat →
        j.val < (getHead p).objectCount.toNat → fdIndex p i ≠ fdIndex p j :=
      ⟨fun _ _ h hj hi => (h hi hj).symm⟩
    exact h.objects.distinct.forall (hmem i) (hmem j) hne hi hj heq
  · intro i hi
    rw [hobject i hi]
    rfl

theorem Placed.readable (h : Placed p fds d) (hle : d.objectCount ≤ 4)
    (hsize : p.length = payloadSize.toNat) (hcount : fds.length = fdCount.toNat) :
    Readable p payloadSize fdCount := by
  obtain ⟨hreserved,hhead⟩ := head_iff.mp h.record.head
  have hfdCount : d.objectCount = fdCount.toUInt32 := by
    apply UInt32.toNat_inj.mp
    rw [← h.fdsLength,hcount,UInt16.toNat_toUInt32]
  refine ⟨?_,?_,hreserved,by rw [hhead]; exact hfdCount,?_,?_⟩
  · apply UInt32.toNat_inj.mp
    rw [← hsize,h.length]
    rfl
  · rw [hfdCount,UInt32.le_iff_toNat_le,UInt16.toNat_toUInt32] at hle
    exact UInt16.le_iff_toNat_le.mpr hle
  · rw [hhead]
    refine ⟨fun i _ hi => ?_,fun i _ hi => ?_,fun i _ _ => ?_,?_,
      fun i _ hi => h.record.noObject i hi⟩
    · rw [← Nat.add_right_comm 24 _ 1]
      exact h.record.object i hi 1 (by decide)
    · rw [UInt32.lt_iff_toNat_lt,← hfdCount]
      exact h.range i hi
    · exact UInt32.zero_and
    · refine (nodup_finRange 4).imp fun {i j} hne hi hj heq => hne ?_
      exact h.distinct i j hi hj heq
  · rw [hhead]
    refine ⟨fun i _ hi => ⟨?_,?_⟩,fun i _ hi => h.record.noPlane i hi⟩
    · rw [← Nat.add_right_comm 40 _ 1]
      exact h.record.plane i hi 1 (by decide)
    · rw [← Nat.add_right_comm 40 _ 5]
      exact h.record.plane i hi 5 (by decide)

theorem Placed.readDescriptor_eq (h : Placed p fds d)
    (hvalid : descriptorValidate cloexec d = true) : d = readDescriptor p fds := by
  obtain ⟨hobjects,hplanes⟩ := descriptorValidate_unused hvalid
  rw [readDescriptor,(head_iff.mp h.record.head).2]
  unfold withPlanes withObjects
  cases d
  simp only [Descriptor.mk.injEq,true_and]
  refine ⟨funext fun i => ?_,funext fun i => ?_⟩
  · split
    · rename_i hi
      exact (readObject_eq (h.fd i hi.2) (h.record.object i hi.2)).symm
    · rename_i hi
      exact hobjects i fun h => hi ⟨mem_finRange i,h⟩
  · split
    · rename_i hi
      exact (readPlane_eq (h.record.plane i hi.2)).symm
    · rename_i hi
      exact hplanes i fun h => hi ⟨mem_finRange i,h⟩

/-- The decoder accepts a payload and a descriptor list exactly when they place a valid
descriptor. -/
theorem registrationDecode_iff_placed
    (hsize : p.length = payloadSize.toNat) (hcount : fds.length = fdCount.toNat) :
    registrationDecode cloexec p payloadSize fds fdCount = .ok d ↔
      descriptorValidate cloexec d = true ∧ Placed p fds d := by
  rw [registrationDecode_eq_ok_iff]
  constructor
  · rintro ⟨hread,rfl,hvalid⟩
    exact ⟨hvalid,hread.placed hsize hcount⟩
  · rintro ⟨hvalid,hplaced⟩
    exact ⟨hplaced.readable (descriptorValidate_counts hvalid).2.1 hsize hcount,
      hplaced.readDescriptor_eq hvalid,hvalid⟩
end

section
variable {cloexec : Fd → Bool} {d : Descriptor} {p : List UInt8} {fds : List Fd}
theorem Record.congr {index index' : Fin 4 → UInt32} (h : Record index d p)
    (hindex : ∀ i : Fin 4, i.val < d.objectCount.toNat → index i = index' i) :
    Record index' d p :=
  { h with object := fun i hi r hr => hindex i hi ▸ h.object i hi r hr }
variable {index : Fin 4 → UInt32}
theorem Record.fdIndex_eq (h : Record index d p) {i : Fin 4}
    (hi : i.val < d.objectCount.toNat) : fdIndex p i = index i := h.object i hi 0 (by decide)

theorem registrationFds_length (hvalid : descriptorValidate cloexec d = true) :
    (registrationFds d).length = d.objectCount.toNat := by
  have hle := UInt32.le_iff_toNat_le.mp (descriptorValidate_counts hvalid).2.1
  have hall : ∀ n ≤ 4, ((List.finRange 4).filter fun i => i.val < n).length = n := by decide
  rw [registrationFds,length_map]
  exact hall _ hle

theorem registrationFds_getD (hvalid : descriptorValidate cloexec d = true) {i : Fin 4}
    (hi : i.val < d.objectCount.toNat) :
    (registrationFds d).getD i.val (-1) = (d.objects i).fd := by
  have hle := UInt32.le_iff_toNat_le.mp (descriptorValidate_counts hvalid).2.1
  have hall : ∀ n ≤ 4, ∀ i : Fin 4, i.val < n →
      ((List.finRange 4).filter fun i => i.val < n)[i.val]? = some i := by decide
  rw [registrationFds,List.getD_eq_getElem?_getD,List.getElem?_map,hall _ hle i hi]
  rfl

/-- Distinct positions below the object count are a permutation that keeps the positions in
use. -/
theorem exists_perm {n : Nat} (hn : n ≤ 4) (hrange : ∀ i : Fin 4, i.val < n → (index i).toNat < n)
    (hdistinct : ∀ i j : Fin 4, i.val < n → j.val < n → index i = index j → i = j) :
    ∃ σ : Equiv.Perm (Fin 4), ∀ i : Fin 4, i.val < n → (σ i).val = (index i).toNat := by
  let place (i : { i : Fin 4 // i.val < n }) : { i : Fin 4 // i.val < n } :=
    ⟨⟨(index i.val).toNat,Nat.lt_of_lt_of_le (hrange i.val i.property) hn⟩,hrange i.val i.property⟩
  have hplace : Function.Injective place := by
    intro i j hij
    have heq : (index i.val).toNat = (index j.val).toNat :=
      congrArg (fun k : { i : Fin 4 // i.val < n } => k.val.val) hij
    exact Subtype.ext (hdistinct i.val j.val i.property j.property (UInt32.toNat_inj.mp heq))
  let used := Equiv.ofBijective place (Finite.injective_iff_bijective.mp hplace)
  exact ⟨Equiv.Perm.ofSubtype used,fun i hi =>
    congrArg Fin.val (Equiv.Perm.ofSubtype_apply_of_mem used hi)⟩

/-- The payload and the descriptor list of an encoding whose objects were moved in the list, and
whose index fields follow them. -/
structure Permuted (σ : Equiv.Perm (Fin 4)) (d : Descriptor) (encoded : List UInt8 × List Fd)
    (p : List UInt8) (fds : List Fd) : Prop where
  range : ∀ i : Fin 4, i.val < d.objectCount.toNat → (σ i).val < d.objectCount.toNat
  payload : p = putFdIndices (fun i => UInt32.ofNat (σ i).val) d encoded.1
  length : fds.length = encoded.2.length
  fds : ∀ i : Fin 4, i.val < d.objectCount.toNat →
    fds.getD (σ i).val (-1) = encoded.2.getD i.val (-1)

theorem fin4_toNat (i : Fin 4) : (UInt32.ofNat i.val).toNat = i.val :=
  UInt32.toNat_ofNat_of_lt' (Nat.lt_trans i.isLt (by decide))

theorem placed_iff_permuted (hvalid : descriptorValidate cloexec d = true) :
    Placed p fds d ↔ ∃ σ, Permuted σ d (registrationPayload d, registrationFds d) p fds := by
  constructor
  · intro h
    have hle := UInt32.le_iff_toNat_le.mp (descriptorValidate_counts hvalid).2.1
    obtain ⟨σ,hσ⟩ := exists_perm hle h.range h.distinct
    refine ⟨σ,fun i hi => ?_,?_,?_,fun i hi => ?_⟩
    · rw [hσ i hi]
      exact h.range i hi
    · have hrecord : Record (fun i => UInt32.ofNat (σ i).val) d p := by
        refine h.record.congr fun i hi => UInt32.toNat_inj.mp ?_
        rw [fin4_toNat,hσ i hi]
      refine hrecord.unique ((registrationPayload_record d).putFdIndices _
        (registrationPayload_length d)) h.length ?_
      rw [putFdIndices_length,registrationPayload_length]
    · rw [h.fdsLength,registrationFds_length hvalid]
    · rw [hσ i hi,← h.fd i hi,registrationFds_getD hvalid hi]
  · rintro ⟨σ,hσ⟩
    have hrecord : Record (fun i => UInt32.ofNat (σ i).val) d p := by
      rw [hσ.payload]
      exact (registrationPayload_record d).putFdIndices _ (registrationPayload_length d)
    have hindex {i : Fin 4} (hi : i.val < d.objectCount.toNat) :
        (fdIndex p i).toNat = (σ i).val := by
      rw [hrecord.fdIndex_eq hi,fin4_toNat]
    refine ⟨?_,?_,hrecord.congr fun i hi => (hrecord.fdIndex_eq hi).symm,fun i hi => ?_,
      fun i j hi hj hij => σ.injective (Fin.ext ?_),fun i hi => ?_⟩
    · rw [hσ.payload,putFdIndices_length,registrationPayload_length]
    · rw [hσ.length,registrationFds_length hvalid]
    · rw [hindex hi]
      exact hσ.range i hi
    · rw [← hindex hi,hij,hindex hj]
    · rw [hindex hi,hσ.fds i hi,registrationFds_getD hvalid hi]

theorem registrationPayload_placed (hvalid : descriptorValidate cloexec d = true) :
    Placed (registrationPayload d) (registrationFds d) d := by
  have hrecord := registrationPayload_record d
  have hindex {i : Fin 4} (hi : i.val < d.objectCount.toNat) :
      (fdIndex (registrationPayload d) i).toNat = i.val := by
    rw [hrecord.fdIndex_eq hi,fin4_toNat]
  refine ⟨registrationPayload_length d,registrationFds_length hvalid,
    hrecord.congr fun i hi => (hrecord.fdIndex_eq hi).symm,fun i hi => ?_,
    fun i j hi hj hij => Fin.ext ?_,fun i hi => ?_⟩
  · rw [hindex hi]
    exact hi
  · rw [← hindex hi,hij,hindex hj]
  · rw [hindex hi,registrationFds_getD hvalid hi]

theorem registrationDecode_encode (hvalid : descriptorValidate cloexec d = true) :
    registrationDecode cloexec (registrationPayload d) 256 (registrationFds d)
      (UInt16.ofNat (registrationFds d).length) = .ok d := by
  have hle := UInt32.le_iff_toNat_le.mp (descriptorValidate_counts hvalid).2.1
  refine (registrationDecode_iff_placed (registrationPayload_length d) ?_).mpr
    ⟨hvalid,registrationPayload_placed hvalid⟩
  refine (UInt16.toNat_ofNat_of_lt' ?_).symm
  rw [registrationFds_length hvalid]
  exact Nat.lt_of_le_of_lt hle (by decide)
end

/-- The registration record as a format. A valid descriptor survives encoding and decoding. What
is accepted is a valid descriptor that survives it again, and is one of the encodings of this
descriptor with the list of descriptors permuted. No two descriptors have the same encoding. -/
theorem registration_format (cloexec : Fd → Bool) :
    (∀ d, descriptorValidate cloexec d = true → ∃ payload fds,
      registrationEncode cloexec d = some (payload, fds) ∧ payload.length = 256 ∧
      registrationDecode cloexec payload 256 fds (UInt16.ofNat fds.length) = .ok d) ∧
    (∀ payload payloadSize fds fdCount, payload.length = payloadSize.toNat →
      fds.length = fdCount.toNat → ∀ d,
        (registrationDecode cloexec payload payloadSize fds fdCount = .ok d →
          descriptorValidate cloexec d = true ∧ ∃ payload' fds',
            registrationEncode cloexec d = some (payload', fds') ∧
            registrationDecode cloexec payload' 256 fds' (UInt16.ofNat fds'.length) = .ok d) ∧
        (registrationDecode cloexec payload payloadSize fds fdCount = .ok d ↔
          ∃ encoded, registrationEncode cloexec d = some encoded ∧
          ∃ σ, Permuted σ d encoded payload fds)) ∧
    ∀ d d' encoded, registrationEncode cloexec d = some encoded →
      registrationEncode cloexec d' = some encoded → d = d' := by
  have hencode {d : Descriptor} (hvalid : descriptorValidate cloexec d = true) :
      registrationEncode cloexec d = some (registrationPayload d, registrationFds d) := by
    rw [registrationEncode_eq,if_pos hvalid]
  have hencoded {d : Descriptor} {encoded : List UInt8 × List Fd}
      (h : registrationEncode cloexec d = some encoded) :
      descriptorValidate cloexec d = true ∧ encoded = (registrationPayload d, registrationFds d) := by
    rw [registrationEncode_eq] at h
    split at h
    · rename_i hvalid
      cases h
      exact ⟨hvalid,rfl⟩
    · cases h
  refine ⟨fun d hvalid => ?_,fun payload payloadSize fds fdCount hsize hcount d => ⟨?_,?_⟩,
    fun d d' encoded h h' => ?_⟩
  · exact ⟨_,_,hencode hvalid,registrationPayload_length d,registrationDecode_encode hvalid⟩
  · intro h
    have hvalid := ((registrationDecode_iff_placed hsize hcount).mp h).1
    exact ⟨hvalid,_,_,hencode hvalid,registrationDecode_encode hvalid⟩
  · rw [registrationDecode_iff_placed hsize hcount]
    constructor
    · rintro ⟨hvalid,hplaced⟩
      exact ⟨_,hencode hvalid,(placed_iff_permuted hvalid).mp hplaced⟩
    · rintro ⟨encoded,h,hσ⟩
      obtain ⟨hvalid,rfl⟩ := hencoded h
      exact ⟨hvalid,(placed_iff_permuted hvalid).mpr hσ⟩
  · obtain ⟨hvalid,rfl⟩ := hencoded h
    obtain ⟨hvalid',heq⟩ := hencoded h'
    have hdecode := registrationDecode_encode hvalid
    have hdecode' := registrationDecode_encode hvalid'
    rw [Prod.mk.injEq] at heq
    rw [← heq.1,← heq.2,hdecode] at hdecode'
    exact Except.ok.inj hdecode'

def twoObjects : Descriptor :=
  { Descriptor.zero with
    bufferId := 9
    width := 128
    height := 64
    drmFourcc := 0x3231564e
    explicitFlags := explicitAll
    cropWidth := 128
    cropHeight := 64
    objectCount := 2
    planeCount := 2
    objects := fun i => match i with
      | 0 => ⟨5,8192⟩
      | 1 => ⟨7,4096⟩
      | _ => ⟨-1,0⟩
    planes := fun i => match i with
      | 0 => ⟨0,0,128⟩
      | 1 => ⟨1,0,128⟩
      | _ => ⟨0,0,0⟩ }

def exchanged : List UInt8 :=
  putU32 (putU32 (registrationPayload twoObjects) 96 1) 112 0

theorem registration_format_twoObjects :
    (descriptorValidate (fun _ => true) twoObjects = true ∧ ∃ payload fds,
      registrationEncode (fun _ => true) twoObjects = some (payload, fds) ∧ payload.length = 256 ∧
      registrationDecode (fun _ => true) payload 256 fds (UInt16.ofNat fds.length) =
        .ok twoObjects) ∧ Permuted (Equiv.swap 0 1) twoObjects
        (registrationPayload twoObjects, registrationFds twoObjects) exchanged [7,5] ∧
      registrationDecode (fun _ => true) exchanged 256 [7,5] 2 = .ok twoObjects := by
  have hvalid : descriptorValidate (fun _ => true) twoObjects = true := by decide +kernel
  have hpermuted : Permuted (Equiv.swap 0 1) twoObjects
      (registrationPayload twoObjects, registrationFds twoObjects) exchanged [7,5] :=
    ⟨by decide +kernel,by decide +kernel,by decide +kernel,by decide +kernel⟩
  have hlength : exchanged.length = (256 : UInt32).toNat := by decide +kernel
  obtain ⟨hencode,haccept,_⟩ := registration_format fun _ => true
  refine ⟨⟨hvalid,hencode twoObjects hvalid⟩,hpermuted,
    (haccept exchanged 256 [7,5] 2 hlength rfl twoObjects).2.mpr ⟨_,?_,_,hpermuted⟩⟩
  rw [registrationEncode_eq,if_pos hvalid]
end LinDeX.Dmabuf
