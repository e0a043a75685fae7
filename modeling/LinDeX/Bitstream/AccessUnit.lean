import Mathlib.Data.List.DropRight
import LinDeX.Library.AnnexB
import LinDeX.Protocol.Wire

/-!
# Access units of H.264 and HEVC

Both builders put a start code of four bytes in front of every slice, measuring first. What they
write falls apart into the units of the slices again.
-/
namespace LinDeX.AccessUnit
open AnnexB List
def pieces : List UInt8 → List (List UInt8)
  | [] => [[]]
  | 0 :: 0 :: 1 :: rest => [] :: pieces rest
  | byte :: rest => (pieces rest).modifyHead (List.cons byte)

/-- The units of a stream. Zeros in front of a start code belong to the start code. -/
def split (stream : List UInt8) : List (List UInt8) :=
  (pieces stream).tail.map (rdropWhile (· == 0))

structure Plain (nal : List UInt8) : Prop where
  noCode : ¬[0,0,1] <:+: nal
  last : nal.getLast? ≠ some 0
variable {nal : List UInt8}
theorem Plain.tail {byte : UInt8} (h : Plain (byte :: nal)) : Plain nal where
  noCode := fun hin => h.noCode (hin.trans (suffix_cons byte nal).isInfix)
  last := by
    cases nal with
    | nil => decide
    | cons next nal => exact fun hlast => h.last hlast

theorem Plain.pieces_append (h : Plain nal) (rest : List UInt8) :
    pieces (nal ++ rest) = (pieces rest).modifyHead (nal ++ ·) := by
  induction nal with
  | nil => exact (congrFun List.modifyHead_id _).symm
  | cons byte nal ih =>
    rw [cons_append,pieces]
    · rw [ih h.tail,List.modifyHead_modifyHead]
      rfl
    · -- A start code in front would be in the unit, or the unit would end with a zero.
      rintro later rfl heq
      rcases nal with _ | ⟨b,_ | ⟨c,nal⟩⟩
      · exact h.last rfl
      · exact h.last (by rw [(List.cons.inj heq).1]; rfl)
      · obtain ⟨rfl,hrest⟩ := List.cons.inj heq
        obtain ⟨rfl, -⟩ := List.cons.inj hrest
        exact h.noCode ⟨[],nal,rfl⟩

theorem pieces_framed (unit : List UInt8) : pieces (framed unit) = [0] :: pieces unit := rfl

theorem Plain.trim (h : Plain nal) : nal.rdropWhile (· == 0) = nal := by
  refine rdropWhile_eq_self_iff.mpr fun hne hzero => h.last ?_
  rw [List.getLast?_eq_getLast_of_ne_nil hne,beq_iff_eq.mp hzero]

theorem map_pieces {nals : List (List UInt8)} (hnal : Plain nal) (hnals : ∀ n ∈ nals, Plain n) :
    (pieces (nal ++ nals.flatMap framed)).map (rdropWhile (· == 0)) = nal :: nals := by
  induction nals generalizing nal with
  | nil =>
    rw [hnal.pieces_append,List.flatMap_nil,pieces,List.modifyHead_cons,append_nil,
      map_singleton,hnal.trim]
  | cons next nals ih =>
    have hframed : (next :: nals).flatMap framed = framed (next ++ nals.flatMap framed) := rfl
    rw [hnal.pieces_append,hframed,pieces_framed,List.modifyHead_cons,map_cons,
      ih (hnals next mem_cons_self) fun n hn => hnals n (mem_cons_of_mem _ hn),
      rdropWhile_concat_pos _ _ _ (by decide),hnal.trim]

theorem split_framed {nals : List (List UInt8)} (h : ∀ n ∈ nals, Plain n) :
    split (nals.flatMap framed) = nals := by
  cases nals with
  | nil => rfl
  | cons nal nals =>
    exact map_pieces (h nal mem_cons_self) fun n hn => h n (mem_cons_of_mem _ hn)

abbrev Reader := StateT (List Bool) (Except Errno)

def readBit : Reader Bool
  | [] => .error .eproto
  | bit :: rest => .ok (bit, rest)

def ueZeros : Nat → Reader Nat
  | _, [] => .error .eproto
  | zeros, true :: rest => .ok (zeros, rest)
  | zeros, false :: rest => if 31 < zeros + 1 then .error .eoverflow else ueZeros (zeros + 1) rest

def ueSuffix : Nat → UInt32 → Reader UInt32
  | 0, suffix => pure suffix
  | count + 1, suffix => do
    let bit ← readBit
    ueSuffix count ((suffix <<< 1) ||| bit.toUInt32)

def readUe : Reader UInt32 := do
  let zeros ← ueZeros 0
  let suffix ← ueSuffix zeros 0
  return (1 <<< zeros.toUInt32) - 1 + suffix

def annexbPrefixSize : List UInt8 → Nat
  | 0 :: 0 :: 0 :: 1 :: _ => 4
  | 0 :: 0 :: 1 :: _ => 3
  | _ => 0
variable (data : List UInt8)
/-- A slice without the start code it may come with. -/
def nalUnit : List UInt8 := data.drop (annexbPrefixSize data)

/-- The bits of a `bit_reader`, whose buffer holds 128 bytes. -/
def readerBits (payload : List UInt8) : Except Errno (List Bool) :=
  let bytes := (unescape 0 payload).take 128
  if bytes = [] then .error .einval else .ok (Bits.ofBytes bytes)

structure H264Identity where
  (firstMbInSlice sliceType ppsId : UInt32)
  isIdr : Bool
  deriving DecidableEq, Repr

/-- `advc_h264_parse_slice_identity`, with its `init_slice_reader`. -/
def h264ParseSliceIdentity : Except Errno H264Identity :=
  match nalUnit data with
  | [] => .error .einval
  | header :: payload =>
    if header &&& 0x80 ≠ 0 ∨ header &&& 0x1f ≠ 1 ∧ header &&& 0x1f ≠ 5 then .error .enotsup
    else do
      let bits ← readerBits payload
      let (firstMbInSlice, bits) ← readUe bits
      let (sliceType, bits) ← readUe bits
      let (ppsId, _) ← readUe bits
      if 9 < sliceType ∨ 255 < ppsId then .error .enotsup
      else .ok ⟨firstMbInSlice,sliceType,ppsId,header &&& 0x1f == 5⟩

structure HevcIdentity where
  ppsId : UInt32
  (nalUnitType temporalIdPlus1 : UInt8)
  (firstSliceSegmentInPicFlag noOutputOfPriorPicsFlag : Bool)
  deriving DecidableEq, Repr

def irap (nalUnitType : UInt8) : Bool := decide (16 ≤ nalUnitType) && decide (nalUnitType ≤ 23)
def noOutputOfPriorPics (nalUnitType : UInt8) : Reader Bool :=
  if irap nalUnitType then readBit else pure false

/-- `advc_hevc_parse_slice_identity`, with its `init_slice_reader`. -/
def hevcParseSliceIdentity : Except Errno HevcIdentity :=
  match nalUnit data with
  | first :: second :: byte :: payload =>
    let type := (first >>> 1) &&& 0x3f
    if first &&& 0x80 ≠ 0 ∨ 31 < type ∨ ((first &&& 1) <<< 5) ||| (second >>> 3) ≠ 0 ∨
        second &&& 7 ≠ 1 then .error .enotsup
    else do
      let bits ← readerBits (byte :: payload)
      let (firstSlice, bits) ← readBit bits
      let (noOutput, bits) ← noOutputOfPriorPics type bits
      let (ppsId, _) ← readUe bits
      if 63 < ppsId then .error .enotsup
      else .ok ⟨ppsId,type,second &&& 7,firstSlice,noOutput⟩
  | _ => .error .einval

section
variable {σ : Type} (bytes : σ → List UInt8) (identify : Nat → σ → Except Errno (UInt32 × Bool))
structure Measured where
  size : Nat
  ppsId : UInt32
  key : Bool
  deriving DecidableEq, Repr

/-- The first loop of a builder, with what it checks about one slice. -/
def measureLoop : Nat → Measured → List σ → Except Errno Measured
  | _, m, [] => .ok m
  | i, m, slice :: rest =>
    match identify i slice with
    | .error e => .error e
    | .ok (ppsId, key) =>
      if i ≠ 0 ∧ ppsId ≠ m.ppsId then .error .enotsup
      else if maxInputBytes.toNat - 4 < m.size ∨
          maxInputBytes.toNat - m.size - 4 < (nalUnit (bytes slice)).length then .error .eoverflow
      else measureLoop (i + 1) ⟨m.size + (4 + (nalUnit (bytes slice)).length),
        if i = 0 then ppsId else m.ppsId,m.key || key⟩ rest

def measure (slices : List σ) : Except Errno Measured :=
  if slices = [] ∨ 256 < slices.length then .error .einval
  else measureLoop bytes identify 0 ⟨0,0,false⟩ slices

structure Built where
  data : List UInt8
  size : Nat
  ppsId : UInt32
  key : Bool
  deriving DecidableEq, Repr

/-- A builder; `malloc` tells whether there was memory for the unit. -/
def build (malloc : Bool) (slices : List σ) : Except Errno Built :=
  match measure bytes identify slices with
  | .error e => .error e
  | .ok m =>
    if malloc then
      let data := slices.flatMap fun slice => framed (nalUnit (bytes slice))
      .ok ⟨data,data.length,m.ppsId,m.key⟩
    else .error .enomem
end

structure H264Slice where
  data : List UInt8
  expectedFirstMbInSlice : UInt16
  expectedSliceType : UInt8
  deriving DecidableEq, Repr
variable (errno : Option Errno)
/-- A slice that is not the expected one is an error, but an old `errno` stays. -/
def h264Identify (_ : Nat) (slice : H264Slice) :
    Except Errno (UInt32 × Bool) :=
  match h264ParseSliceIdentity slice.data with
  | .error e => .error e
  | .ok identity =>
    if identity.firstMbInSlice ≠ slice.expectedFirstMbInSlice.toUInt32 ∨
        identity.sliceType % 5 ≠ slice.expectedSliceType.toUInt32 % 5 then
      .error (errno.getD .eproto)
    else .ok (identity.ppsId, identity.isIdr)

def h264BuildAccessUnit (malloc : Bool) (slices : List H264Slice) :
    Except Errno Built :=
  build H264Slice.data (h264Identify errno) malloc slices

structure HevcSlice where
  data : List UInt8
  expectedSliceSegmentAddress : UInt32
  expectedLastSlice : UInt8
  deriving DecidableEq, Repr

/-- The checks of one slice among `count`; the first one, and no other, begins a picture. -/
def hevcIdentify (count i : Nat) (slice : HevcSlice) :
    Except Errno (UInt32 × Bool) :=
  if slice.data = [] then .error (errno.getD (.other 0))
  else
    match hevcParseSliceIdentity slice.data with
    | .error e => .error e
    | .ok identity =>
      if decide (slice.expectedSliceSegmentAddress = 0) ≠ identity.firstSliceSegmentInPicFlag then
        .error .eproto
      else if decide (i + 1 = count) ≠ decide (slice.expectedLastSlice ≠ 0) then .error .eproto
      else if i = 0 ∧ identity.firstSliceSegmentInPicFlag = false then .error .eproto
      else if i ≠ 0 ∧ identity.firstSliceSegmentInPicFlag = true then .error .enotsup
      else .ok (identity.ppsId, irap identity.nalUnitType)

def hevcBuildAccessUnit (malloc : Bool) (slices : List HevcSlice) :
    Except Errno Built :=
  build HevcSlice.data (hevcIdentify errno slices.length) malloc slices

section
variable {σ : Type} {bytes : σ → List UInt8} {identify : Nat → σ → Except Errno (UInt32 × Bool)}
  {pps : σ → UInt32 → Prop} {key : σ → Prop}

def Identifies (identify : Nat → σ → Except Errno (UInt32 × Bool)) (pps : σ → UInt32 → Prop)
    (key : σ → Prop) : Prop :=
  ∀ i slice id k, identify i slice = .ok (id, k) → pps slice id ∧ (k = true ↔ key slice)

theorem measureLoop_ok (hid : Identifies identify pps key) {i : Nat} {m m' : Measured}
    {slices : List σ} (h : measureLoop bytes identify i m slices = .ok m')
    (hm : m.size ≤ maxInputBytes.toNat) :
    m'.size = m.size + (slices.flatMap fun slice => framed (nalUnit (bytes slice))).length ∧
    m'.size ≤ maxInputBytes.toNat ∧ (i ≠ 0 → m'.ppsId = m.ppsId) ∧
    (∀ slice ∈ slices, pps slice m'.ppsId) ∧
    (m'.key = true ↔ m.key = true ∨ ∃ slice ∈ slices, key slice) := by
  induction slices generalizing i m with
  | nil =>
    cases h
    exact ⟨rfl,hm,fun _ => rfl,by simp,by simp⟩
  | cons slice slices ih =>
    rw [measureLoop] at h
    split at h
    · cases h
    rename_i id k hslice
    obtain ⟨hpps,hkey⟩ := hid i slice id k hslice
    split at h
    · cases h
    rename_i hsame
    split at h
    · cases h
    rename_i hroom
    have hlimit : maxInputBytes.toNat = 16777216 := rfl
    obtain ⟨hsize,hbound,hkept,hall,hany⟩ := ih h (by dsimp only; omega)
    have hid' : m'.ppsId = id := by
      rw [hkept (Nat.succ_ne_zero i)]
      split
      · rfl
      · rename_i hi
        exact (not_not.mp fun hne => hsame ⟨hi,hne⟩).symm
    refine ⟨?_,hbound,fun hi => ?_,fun s hs => ?_,?_⟩
    · rw [hsize,List.flatMap_cons,length_append]
      simp only [framed,length_cons]
      omega
    · rw [hkept (Nat.succ_ne_zero i)]
      exact if_neg hi
    · rcases mem_cons.mp hs with rfl | hs
      · rw [hid']
        exact hpps
      · exact hall s hs
    · rw [hany,Bool.or_eq_true,hkey,exists_mem_cons_iff,or_assoc]

structure Lossless (nals : List (List UInt8)) (measured : Except Errno Measured)
    (slices : List σ) (pps : σ → UInt32 → Prop) (key : σ → Prop) (unit : Built) : Prop where
  split : (∀ nal ∈ nals, Plain nal) → split unit.data = nals
  measured : ∃ m, measured = .ok m ∧ m.size = unit.size
  written : unit.data.length = unit.size
  bound : unit.size ≤ maxInputBytes.toNat
  pps : ∀ slice ∈ slices, pps slice unit.ppsId
  key : unit.key = true ↔ ∃ slice ∈ slices, key slice

theorem build_lossless (hid : Identifies identify pps key) {malloc : Bool} {slices : List σ}
    {unit : Built} (h : build bytes identify malloc slices = .ok unit) :
    Lossless (slices.map fun slice => nalUnit (bytes slice)) (measure bytes identify slices) slices
      pps key unit := by
  unfold build at h
  split at h
  · cases h
  rename_i m hmeasure
  split at h
  · cases h
    have hloop := hmeasure
    unfold measure at hloop
    split at hloop
    · cases hloop
    obtain ⟨hsize,hbound, -,hpps,hkey⟩ := measureLoop_ok hid hloop (Nat.zero_le _)
    rw [Nat.zero_add] at hsize
    refine ⟨fun hplain => ?_,⟨m,hmeasure,hsize⟩,rfl,hsize ▸ hbound,hpps,by simpa using hkey⟩
    have hdata := split_framed hplain
    rwa [List.flatMap_map] at hdata
  · cases h
end

def h264Pps (slice : H264Slice) (id : UInt32) : Prop :=
  ∃ identity, h264ParseSliceIdentity slice.data = .ok identity ∧ identity.ppsId = id
def hevcPps (slice : HevcSlice) (id : UInt32) : Prop :=
  ∃ identity, hevcParseSliceIdentity slice.data = .ok identity ∧ identity.ppsId = id

theorem h264Identify_identifies : Identifies (h264Identify errno) h264Pps
    fun slice => (nalUnit slice.data).headD 0 &&& 0x1f = 5 := by
  intro i slice id k h
  unfold h264Identify at h
  split at h
  · cases h
  rename_i identity hparse
  split at h
  · cases h
  cases h
  refine ⟨⟨identity,hparse,rfl⟩,?_⟩
  unfold h264ParseSliceIdentity at hparse
  split at hparse
  · cases hparse
  rename_i header payload hnal
  split at hparse
  · cases hparse
  simp only [bind,Except.bind] at hparse
  iterate 4
    split at hparse
    · cases hparse
  split at hparse
  · cases hparse
  cases hparse
  dsimp only
  rw [hnal,List.headD_cons,beq_iff_eq]

theorem hevcIdentify_identifies (count : Nat) :
    Identifies (hevcIdentify errno count) hevcPps
      fun slice => irap (((nalUnit slice.data).headD 0 >>> 1) &&& 0x3f) = true := by
  intro i slice id k h
  unfold hevcIdentify at h
  split at h
  · cases h
  split at h
  · cases h
  rename_i identity hparse
  iterate 4
    split at h
    · cases h
  cases h
  refine ⟨⟨identity,hparse,rfl⟩,?_⟩
  unfold hevcParseSliceIdentity at hparse
  split at hparse
  · rename_i first second byte payload hnal
    dsimp only at hparse
    split at hparse
    · cases hparse
    simp only [bind,Except.bind] at hparse
    iterate 4
      split at hparse
      · cases hparse
    split at hparse
    · cases hparse
    cases hparse
    dsimp only
    rw [hnal,List.headD_cons]
  · cases hparse

/-- Access units are lossless. Split at its start codes a unit gives the units of its slices, if
these can be told from start codes; it has the size that was measured and one picture parameter
set, and it is a key unit exactly if one of its slices is. -/
theorem buildAccessUnit_lossless (errno : Option Errno) (malloc : Bool) :
    (∀ slices unit, h264BuildAccessUnit errno malloc slices = .ok unit →
      Lossless (slices.map fun slice => nalUnit slice.data)
        (measure H264Slice.data (h264Identify errno) slices) slices h264Pps
        (fun slice => (nalUnit slice.data).headD 0 &&& 0x1f = 5) unit) ∧
    ∀ slices unit, hevcBuildAccessUnit errno malloc slices = .ok unit →
      Lossless (slices.map fun slice => nalUnit slice.data)
        (measure HevcSlice.data (hevcIdentify errno slices.length) slices) slices hevcPps
        (fun slice => irap (((nalUnit slice.data).headD 0 >>> 1) &&& 0x3f) = true) unit :=
  ⟨fun _ _ => build_lossless (h264Identify_identifies errno),
    fun _ _ => build_lossless (hevcIdentify_identifies errno _)⟩

def twoSlices : List H264Slice :=
  [⟨[0x65,0x88,0x84],0,7⟩,⟨[0,0,1,0x65,0x42,0x31],1,7⟩]

theorem buildAccessUnit_lossless_twoSlices :
    ∃ unit, h264BuildAccessUnit none true twoSlices = .ok unit ∧ unit.size = 14 ∧
    split unit.data = [[0x65,0x88,0x84],[0x65,0x42,0x31]] := by
  have hbuilt : h264BuildAccessUnit none true twoSlices =
      .ok ⟨[0,0,0,1,0x65,0x88,0x84,0,0,0,1,0x65,0x42,0x31],14,0,true⟩ := by
    decide +kernel
  refine ⟨_,hbuilt,rfl,((buildAccessUnit_lossless none true).1 _ _ hbuilt).split ?_⟩
  have hplain : ∀ nal ∈ [[0x65,0x88,0x84],[0x65,0x42,0x31]],
      ¬([0,0,1] : List UInt8) <:+: nal ∧ nal.getLast? ≠ some 0 := by
    decide
  exact fun nal hnal => ⟨(hplain nal hnal).1,(hplain nal hnal).2⟩
end LinDeX.AccessUnit
