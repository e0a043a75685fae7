import LinDeX.Tools.ByteStream

/-!
# Codec configuration records

The records of ISO/IEC 14496-15 that hold the parameter sets of a stream. The inspection takes a
record apart up to its last byte, and nothing that starts like one passes for another framing.
-/
namespace LinDeX.Tools
open Bytes List
variable {codec : CodecKind} {data rest unit : List UInt8} {stats stats' : BitstreamStats}
variable (n : Nat)
def be16 : List UInt8 := [UInt8.ofNat (n / 256),UInt8.ofNat n]
def sizedUnits (units : List (List UInt8)) : List UInt8 :=
  units.flatMap fun unit => be16 unit.length ++ unit

theorem sizedUnits_cons (unit : List UInt8) (units : List (List UInt8)) :
    sizedUnits (unit :: units) = be16 unit.length ++ (unit ++ sizedUnits units) := by
  rw [sizedUnits,List.flatMap_cons,append_assoc]
  rfl

structure Member (codec : CodecKind) (minimum : Nat) (expected : UInt8 → Bool)
    (unit : List UInt8) : Prop where
  minimum : minimum ≤ unit.length
  size : unit.length < 65536
  expected : expected (unit.headD 0) = true
  kind : (nalKind codec unit).isSome

def countNal (codec : CodecKind) (stats : BitstreamStats) (unit : List UInt8) : BitstreamStats :=
  (nalKind codec unit).elim stats stats.count

theorem getBe16_toNat (a b : UInt8) (rest : List UInt8) :
    (getBe16 (a :: b :: rest)).toNat = 256 * a.toNat + b.toNat := by
  have ha := a.toNat_lt
  have hb := b.toNat_lt
  rw [getBe16,UInt16.toNat_or,UInt16.toNat_shiftLeft,UInt8.toNat_toUInt16,UInt8.toNat_toUInt16,
    Nat.or_comm]
  have hshift : a.toNat <<< ((8 : UInt16).toNat % 16) % 2 ^ 16 = a.toNat <<< 8 := by
    simp only [UInt16.reduceToNat,Nat.reduceMod,Nat.shiftLeft_eq]
    omega
  rw [hshift,or_shiftLeft_toNat 8 hb]
  omega

theorem getBe16_be16 {n : Nat} (h : n < 65536) (rest : List UInt8) :
    (getBe16 (be16 n ++ rest)).toNat = n := by
  rw [be16,cons_append,cons_append,getBe16_toNat,UInt8.toNat_ofNat',UInt8.toNat_ofNat']
  omega

theorem drop_be16 (rest : List UInt8) : (be16 n ++ rest).drop 2 = rest := rfl

theorem be16_getBe16 (a b : UInt8) (rest : List UInt8) :
    be16 (getBe16 (a :: b :: rest)).toNat = [a,b] := by
  have hb := b.toNat_lt
  have hhigh : UInt8.ofNat ((256 * a.toNat + b.toNat) / 256) = a := by
    rw [Nat.mul_add_div (by decide),Nat.div_eq_of_lt hb,Nat.add_zero,UInt8.ofNat_toNat]
  have hlow : UInt8.ofNat (256 * a.toNat + b.toNat) = b := by
    apply UInt8.toNat_inj.mp
    rw [UInt8.toNat_ofNat']
    omega
  rw [getBe16_toNat,be16,hhigh,hlow]

theorem addNal_eq (stats : BitstreamStats)
    (h : (nalKind codec unit).isSome) : addNal codec unit stats = some (countNal codec stats unit) := by
  obtain ⟨kind,hkind⟩ := Option.isSome_iff_exists.mp h
  rw [addNal,countNal,hkind]
  rfl

theorem nalArray_iff {minimum n : Nat} {expected : UInt8 → Bool} (hpos : 0 < minimum) :
    nalArray codec minimum expected n data stats = some (rest, stats') ↔
      ∃ units, units.length = n ∧ data = sizedUnits units ++ rest ∧
      (∀ unit ∈ units, Member codec minimum expected unit) ∧
      stats' = units.foldl (countNal codec) stats := by
  induction n generalizing data stats with
  | zero =>
    rw [nalArray,Option.some.injEq,Prod.mk.injEq]
    constructor
    · rintro ⟨rfl,rfl⟩
      exact ⟨[],rfl,rfl,by simp,rfl⟩
    · rintro ⟨units,hunits,rfl, -,rfl⟩
      rw [length_eq_zero_iff.mp hunits]
      exact ⟨rfl,rfl⟩
  | succ n ih =>
    constructor
    · intro h
      rw [nalArray] at h
      split at h
      · cases h
      rename_i hlong
      obtain ⟨a,data,rfl⟩ := exists_cons_of_length_pos (l := data) (by omega)
      rw [length_cons] at hlong
      obtain ⟨b,data,rfl⟩ := exists_cons_of_length_pos (l := data) (by omega)
      dsimp only at h
      have hsize := be16_getBe16 a b data
      have hlt := (getBe16 (a :: b :: data)).toNat_lt
      generalize (getBe16 (a :: b :: data)).toNat = size at h hsize hlt
      split at h
      · cases h
      rename_i hchecks
      simp only [drop_succ_cons,drop_zero,not_or,Nat.not_lt,Bool.not_eq_false]
        at hchecks h
      obtain ⟨hmin,hfits,hexpected⟩ := hchecks
      split at h
      · cases h
      rename_i counted hcounted
      obtain ⟨units,hlength,hdata,hmembers,hstats⟩ := ih.mp h
      have htake : (data.take size).length = size := length_take_of_le hfits
      have hhead : (data.take size).headD 0 = data.headD 0 := by
        obtain ⟨k,rfl⟩ := Nat.exists_eq_add_of_lt (Nat.lt_of_lt_of_le hpos hmin)
        cases data <;> rfl
      have hkind : (nalKind codec (data.take size)).isSome := by
        obtain ⟨kind,hkind, -⟩ := Option.map_eq_some_iff.mp hcounted
        rw [hkind]
        rfl
      refine ⟨data.take size :: units,congrArg (· + 1) hlength,?_,fun unit hunit => ?_,?_⟩
      · rw [sizedUnits_cons,htake,hsize,append_assoc,append_assoc,← hdata,take_append_drop]
        rfl
      · rcases mem_cons.mp hunit with rfl | hunit
        · exact ⟨by omega,by omega,by rw [hhead]; exact hexpected,hkind⟩
        · exact hmembers unit hunit
      · rw [addNal_eq stats hkind,Option.some.injEq] at hcounted
        rw [List.foldl_cons,hcounted]
        exact hstats
    · rintro ⟨units,hunits,rfl,hmembers,rfl⟩
      obtain ⟨unit,units,rfl⟩ := exists_cons_of_length_eq_add_one hunits
      have hunit := hmembers unit mem_cons_self
      rw [length_cons,Nat.add_right_cancel_iff] at hunits
      have hsize := getBe16_be16 hunit.size (unit ++ (sizedUnits units ++ rest))
      have hhead : (unit ++ (sizedUnits units ++ rest)).headD 0 = unit.headD 0 := by
        have := hunit.minimum
        cases unit with
        | nil => exact absurd this (by rw [length_nil]; omega)
        | cons => rfl
      rw [sizedUnits_cons,append_assoc,append_assoc,nalArray,if_neg (by simp [be16])]
      dsimp only
      rw [hsize]
      rw [drop_be16,hhead,take_left,drop_left,addNal_eq stats hunit.kind,if_neg]
      · exact ih.mpr ⟨units,hunits,rfl,fun u hu => hmembers u (mem_cons_of_mem _ hu),rfl⟩
      · rw [hunit.expected,length_append]
        have := hunit.minimum
        simp only [Bool.true_eq_false,or_false]
        omega

theorem foldl_countNal {units : List (List UInt8)} (format : BitstreamFormat)
    (hvalid : ∀ unit ∈ units, (nalKind codec unit).isSome) (hroom : units.length < 2 ^ 32) :
    (units.foldl (countNal codec) (.start format)).format = format ∧
    Tallies codec units (units.foldl (countNal codec) (.start format)) := by
  induction units using reverseRecOn with
  | nil => exact ⟨rfl,.nil codec format⟩
  | append_singleton _ unit ih =>
    rw [length_append,length_singleton] at hroom
    obtain ⟨hformat,htallies⟩ := ih (fun u hu => hvalid u (mem_append_left _ hu)) (by omega)
    obtain ⟨kind,hkind⟩ := Option.isSome_iff_exists.mp
      (hvalid unit (mem_append_right _ mem_cons_self))
    rw [List.foldl_append,List.foldl_cons,List.foldl_nil,countNal,hkind]
    exact ⟨hformat,htallies.concat hkind hroom⟩

theorem or_and_of_and {a b m : UInt32} (h : a &&& m = m ∨ b &&& m = m) : (a ||| b) &&& m = m := by
  rw [← UInt32.toBitVec_inj,← UInt32.toBitVec_inj] at h
  rw [← UInt32.toBitVec_inj]
  simp only [UInt32.toBitVec_and,UInt32.toBitVec_or] at h ⊢
  rw [BitVec.and_or_distrib_right]
  rcases h with h | h <;> rw [h] <;> ext i hi <;> simp

theorem and_or_of_and {a m m' : UInt32} (h : a &&& m = m) (h' : a &&& m' = m') :
    a &&& (m ||| m') = m ||| m' := by
  rw [← UInt32.toBitVec_inj] at h h' ⊢
  simp only [UInt32.toBitVec_and,UInt32.toBitVec_or] at h h' ⊢
  rw [BitVec.and_or_distrib_left,h,h']

theorem foldl_countNal_mask {units : List (List UInt8)} {kind : NalKind} {bit : UInt32}
    (stats : BitstreamStats) (hunit : unit ∈ units)
    (hkind : nalKind codec unit = some kind) (hbit : kind.mask = some bit) :
    (units.foldl (countNal codec) stats).parameterSetMask &&& bit = bit := by
  have hkept (stats : BitstreamStats) (u : List UInt8)
      (h : stats.parameterSetMask &&& bit = bit) :
      (countNal codec stats u).parameterSetMask &&& bit = bit := by
    unfold countNal
    cases nalKind codec u with
    | none => exact h
    | some k => exact or_and_of_and (.inl h)
  have hlater (units : List (List UInt8)) (stats : BitstreamStats)
      (h : stats.parameterSetMask &&& bit = bit) :
      (units.foldl (countNal codec) stats).parameterSetMask &&& bit = bit := by
    induction units generalizing stats with
    | nil => exact h
    | cons u units ih => exact ih _ (hkept stats u h)
  obtain ⟨before,after,rfl⟩ := append_of_mem hunit
  rw [List.foldl_append,List.foldl_cons]
  refine hlater after _ ?_
  rw [countNal,hkind]
  refine or_and_of_and (.inr ?_)
  rw [hbit]
  exact UInt32.and_self

structure AvcExtension where
  (chroma lumaDepth chromaDepth : UInt8)
  units : List (List UInt8)

def AvcExtension.encode (e : AvcExtension) : List UInt8 :=
  e.chroma :: e.lumaDepth :: e.chromaDepth :: UInt8.ofNat e.units.length :: sizedUnits e.units

/-- `AVCDecoderConfigurationRecord`; two of its bytes hold reserved bits as well. -/
structure AvcRecord where
  (profile compatibility level lengthByte countByte : UInt8)
  (sps pps : List (List UInt8))
  extension : Option AvcExtension

def AvcRecord.encode (r : AvcRecord) : List UInt8 :=
  1 :: r.profile :: r.compatibility :: r.level :: r.lengthByte :: r.countByte ::
    (sizedUnits r.sps ++ UInt8.ofNat r.pps.length ::
      (sizedUnits r.pps ++ r.extension.elim [] AvcExtension.encode))

def AvcRecord.units (r : AvcRecord) : List (List UInt8) :=
  r.sps ++ r.pps ++ r.extension.elim [] AvcExtension.units
def avcMember (type : UInt8) : List UInt8 → Prop :=
  Member .avc 1 fun header => header &&& 0x1f == type

structure AvcExtension.WellFormed (e : AvcExtension) : Prop where
  chroma : e.chroma &&& 0xfc = 0xfc
  lumaDepth : e.lumaDepth &&& 0xf8 = 0xf8
  chromaDepth : e.chromaDepth &&& 0xf8 = 0xf8
  count : e.units.length < 256
  units : ∀ unit ∈ e.units, avcMember 13 unit

structure AvcRecord.WellFormed (r : AvcRecord) : Prop where
  lengthByte : r.lengthByte &&& 0xfc = 0xfc
  reserved : r.countByte &&& 0xe0 = 0xe0
  spsCount : r.sps.length = (r.countByte &&& 0x1f).toNat
  sps_ne : r.sps ≠ []
  pps_ne : r.pps ≠ []
  ppsCount : r.pps.length < 256
  sps : ∀ unit ∈ r.sps, avcMember 7 unit
  pps : ∀ unit ∈ r.pps, avcMember 8 unit
  extension : ∀ e ∈ r.extension, r.profile ∉ ([66,77,88] : List UInt8) ∧ e.WellFormed

/-- The inspection does not know all profiles of records that may have an extension. -/
def AvcRecord.KnownProfile (r : AvcRecord) : Prop :=
  ∀ e ∈ r.extension, extensionProfile r.profile = true

theorem extensionProfile_base {profile : UInt8} (h : extensionProfile profile = true) :
    profile ∉ ([66,77,88] : List UInt8) := by
  intro hbase
  simp only [mem_cons,not_mem_nil,or_false] at hbase
  rcases hbase with rfl | rfl | rfl <;> revert h <;> decide

theorem toNat_ofNat_length {n : Nat} (h : n < 256) : (UInt8.ofNat n).toNat = n := by
  rw [UInt8.toNat_ofNat']
  exact Nat.mod_eq_of_lt h

theorem avccExtensions_iff {profile : UInt8} :
    avccExtensions profile data stats = some ([], stats') ↔
      ∃ e : Option AvcExtension, (∀ x ∈ e, extensionProfile profile = true ∧ x.WellFormed) ∧
      data = e.elim [] AvcExtension.encode ∧
      stats' = (e.elim [] AvcExtension.units).foldl (countNal .avc) stats := by
  constructor
  · intro h
    unfold avccExtensions at h
    split at h
    · rename_i hnil
      cases h
      exact ⟨none,by simp,hnil,rfl⟩
    split at h
    · cases h
    rename_i hchecks
    rcases data with _ | ⟨a,_ | ⟨b,_ | ⟨c,_ | ⟨d,data⟩⟩⟩⟩
    iterate 4
      · simp at hchecks
    obtain ⟨units,hcount,hdata,hmembers,hstats⟩ := (nalArray_iff (by decide)).mp h
    have hlength : units.length < 256 := hcount ▸ d.toNat_lt
    simp at hchecks
    refine ⟨some ⟨a,b,c,units⟩,fun x hx => ?_,?_,hstats⟩
    · cases hx
      exact ⟨hchecks.1.1.1,hchecks.1.1.2,hchecks.1.2,hchecks.2,hlength,hmembers⟩
    · rw [append_nil] at hdata
      rw [Option.elim_some,AvcExtension.encode,hcount,← hdata]
      simp
  · rintro ⟨_ | e,hwf,rfl,rfl⟩
    · rfl
    · obtain ⟨hprofile,he⟩ := hwf e rfl
      rw [avccExtensions,if_neg (by simp [AvcExtension.encode]),if_neg]
      · refine (nalArray_iff (by decide)).mpr ⟨e.units,?_,(append_nil _).symm,he.units,rfl⟩
        exact (toNat_ofNat_length he.count).symm
      · simp [AvcExtension.encode,hprofile,he.chroma,he.lumaDepth,he.chromaDepth]
        exact decide_eq_false (by omega)

theorem AvcRecord.WellFormed.mask {r : AvcRecord} (h : r.WellFormed) (stats : BitstreamStats) :
    (r.units.foldl (countNal .avc) stats).parameterSetMask &&& 3 = 3 := by
  have hbit {type : UInt8} {bit : UInt32} {units : List (List UInt8)} (hne : units ≠ [])
      (hin : ∀ unit ∈ units, unit ∈ r.units) (hmembers : ∀ unit ∈ units, avcMember type unit)
      (htype : ∀ header rest kind, header &&& 0x1f = type → nalKind .avc (header :: rest) = some kind →
        kind.mask = some bit) :
      (r.units.foldl (countNal .avc) stats).parameterSetMask &&& bit = bit := by
    obtain ⟨unit,units,rfl⟩ := exists_cons_of_ne_nil hne
    have hunit := hmembers unit mem_cons_self
    obtain ⟨kind,hkind⟩ := Option.isSome_iff_exists.mp hunit.kind
    apply foldl_countNal_mask stats (hin unit mem_cons_self) hkind
    cases unit with
    | nil => exact absurd hunit.minimum (by decide)
    | cons header rest => exact htype header rest kind (beq_iff_eq.mp hunit.expected) hkind
  have hmask {type : UInt8} (bit : UInt32) (hseven : type = 7 ∧ bit = 1 ∨ type = 8 ∧ bit = 2)
      (header : UInt8) (rest : List UInt8) (kind : NalKind) (htype : header &&& 0x1f = type)
      (hkind : nalKind .avc (header :: rest) = some kind) : kind.mask = some bit := by
    unfold nalKind at hkind
    dsimp only at hkind
    rw [htype] at hkind
    split at hkind
    · cases hkind
    split at hkind
    · cases hkind
    cases hkind
    rcases hseven with ⟨rfl,rfl⟩ | ⟨rfl,rfl⟩ <;> rfl
  exact and_or_of_and
    (hbit h.sps_ne (fun u hu => by simp [AvcRecord.units,hu]) h.sps (hmask 1 (.inl ⟨rfl,rfl⟩)))
    (hbit h.pps_ne (fun u hu => by simp [AvcRecord.units,hu]) h.pps (hmask 2 (.inr ⟨rfl,rfl⟩)))

theorem inspectAvcc_iff :
    inspectAvcc data stats = some stats' ↔ ∃ r : AvcRecord, (r.WellFormed ∧ r.KnownProfile) ∧
      data = r.encode ∧ stats' = r.units.foldl (countNal .avc) stats := by
  constructor
  · intro h
    unfold inspectAvcc at h
    split at h
    · cases h
    rename_i hchecks
    rcases data with _ | ⟨a,_ | ⟨b,_ | ⟨c,_ | ⟨d,_ | ⟨e,_ | ⟨f,data⟩⟩⟩⟩⟩⟩
    iterate 6
      · simp at hchecks
    simp at hchecks
    obtain ⟨-,rfl,hlength,hreserved,hcount⟩ := hchecks
    obtain ⟨⟨afterSps,stats1⟩,hsps,h⟩ := Option.bind_eq_some_iff.mp h
    obtain ⟨sps,hspsCount,hdata,hspsMembers,rfl⟩ := (nalArray_iff (by decide)).mp hsps
    dsimp only at h
    split at h
    · cases h
    rename_i hppsByte
    obtain ⟨⟨afterPps,stats2⟩,hpps,h⟩ := Option.bind_eq_some_iff.mp h
    obtain ⟨pps,hppsCount,hppsData,hppsMembers,rfl⟩ := (nalArray_iff (by decide)).mp hpps
    obtain ⟨⟨rest,stats3⟩,hext,h⟩ := Option.bind_eq_some_iff.mp h
    dsimp only at h
    split at h
    · rename_i hend
      cases h
      rw [hend.1] at hext
      obtain ⟨ext,hextension,rfl,rfl⟩ := avccExtensions_iff.mp hext
      obtain ⟨count,afterSps,rfl⟩ : ∃ count rest, afterSps = count :: rest :=
        exists_cons_of_ne_nil fun hnil => hppsByte (by rw [hnil]; rfl)
      refine ⟨⟨b,c,d,e,f,sps,pps,ext⟩,⟨⟨hlength,hreserved,hspsCount,fun hnil => ?_,
        fun hnil => ?_,hppsCount ▸ count.toNat_lt,hspsMembers,hppsMembers,fun x hx =>
        (hextension x hx).imp_left extensionProfile_base⟩,fun x hx => (hextension x hx).1⟩,?_,?_⟩
      · dsimp only at hnil
        rw [hnil] at hspsCount
        exact hcount (UInt8.toNat_inj.mp hspsCount.symm)
      · dsimp only at hnil
        rw [hnil] at hppsCount
        exact hppsByte (UInt8.toNat_inj.mp hppsCount.symm)
      · have hbyte : UInt8.ofNat pps.length = count := by
          rw [hppsCount]
          exact UInt8.ofNat_toNat
        simp only [drop_succ_cons,drop_zero] at hdata hppsData
        rw [AvcRecord.encode]
        rw [hbyte,← hppsData,← hdata]
      · simp only [AvcRecord.units,List.foldl_append]
    · cases h
  · rintro ⟨r,⟨hr,hprofile⟩,rfl,rfl⟩
    have hspsPos : ¬(r.countByte &&& 0x1f = 0) := fun hzero =>
      hr.sps_ne (length_eq_zero_iff.mp (by rw [hr.spsCount,hzero]; rfl))
    have hppsPos : ¬(UInt8.ofNat r.pps.length = 0) := fun hzero =>
      hr.pps_ne (length_eq_zero_iff.mp (by rw [← toNat_ofNat_length hr.ppsCount,hzero]; rfl))
    have hsps : nalArray .avc 1 (fun header => header &&& 0x1f == 7) (r.countByte &&& 0x1f).toNat
        (r.encode.drop 6) stats = some (_, _) :=
      (nalArray_iff (by decide)).mpr ⟨r.sps,hr.spsCount,rfl,hr.sps,rfl⟩
    have hpps (stats : BitstreamStats) : nalArray .avc 1 (fun header => header &&& 0x1f == 8)
        (UInt8.ofNat r.pps.length).toNat (sizedUnits r.pps ++ r.extension.elim [] AvcExtension.encode)
        stats = some (_, _) :=
      (nalArray_iff (by decide)).mpr
        ⟨r.pps,(toNat_ofNat_length hr.ppsCount).symm,rfl,hr.pps,rfl⟩
    have hext (stats : BitstreamStats) : avccExtensions r.profile
        (r.extension.elim [] AvcExtension.encode) stats = some ([], _) :=
      avccExtensions_iff.mpr ⟨r.extension,fun e he => ⟨hprofile e he,(hr.extension e he).2⟩,rfl,rfl⟩
    have hmask := hr.mask stats
    unfold inspectAvcc
    rw [if_neg]
    · have hcountByte : r.encode.getD 5 0 = r.countByte := rfl
      have hprofile : r.encode.getD 1 0 = r.profile := rfl
      simp only [AvcRecord.units,List.foldl_append] at hmask ⊢
      rw [hcountByte,hprofile,hsps]
      simp only [Option.bind_eq_bind,Option.bind_some,List.headD_cons,drop_succ_cons,drop_zero,
        hpps,hext,if_neg hppsPos,hmask,and_self,if_true]
    · simp [AvcRecord.encode,hr.lengthByte,hr.reserved,hspsPos]
      omega

structure HevcArray where
  typeByte : UInt8
  units : List (List UInt8)

def HevcArray.encode (a : HevcArray) : List UInt8 :=
  a.typeByte :: (be16 a.units.length ++ sizedUnits a.units)

structure HevcArray.WellFormed (a : HevcArray) : Prop where
  count : a.units.length < 65536
  units : ∀ unit ∈ a.units,
    Member .hevc 2 (fun header => (header >>> 1) &&& 0x3f == a.typeByte &&& 0x3f) unit

/-- `HEVCDecoderConfigurationRecord`, with the bytes in front of its arrays. -/
structure HevcRecord where
  header : List UInt8
  arrays : List HevcArray

def HevcRecord.encode (r : HevcRecord) : List UInt8 :=
  r.header ++ UInt8.ofNat r.arrays.length :: r.arrays.flatMap HevcArray.encode
def HevcRecord.units (r : HevcRecord) : List (List UInt8) := r.arrays.flatMap HevcArray.units

structure HevcRecord.WellFormed (r : HevcRecord) : Prop where
  header : r.header.length = 22
  version : r.header.headD 0 = 1
  count : r.arrays.length < 256
  arrays : ∀ a ∈ r.arrays, a.WellFormed

def HevcRecord.Complete (r : HevcRecord) : Prop :=
  ∀ type : UInt8, type = 32 ∨ type = 33 ∨ type = 34 →
    ∃ unit ∈ r.units, (unit.headD 0 >>> 1) &&& 0x3f = type

def HevcRecord.Filled (r : HevcRecord) : Prop := ∀ a ∈ r.arrays, a.units ≠ []

theorem hvccArrays_iff {n : Nat} :
    hvccArrays n data stats = some (rest, stats') ↔ ∃ arrays : List HevcArray, arrays.length = n ∧
      data = arrays.flatMap HevcArray.encode ++ rest ∧
      (∀ a ∈ arrays, a.WellFormed ∧ a.units ≠ []) ∧
      stats' = (arrays.flatMap HevcArray.units).foldl (countNal .hevc) stats := by
  induction n generalizing data stats with
  | zero =>
    rw [hvccArrays,Option.some.injEq,Prod.mk.injEq]
    constructor
    · rintro ⟨rfl,rfl⟩
      exact ⟨[],rfl,rfl,by simp,rfl⟩
    · rintro ⟨arrays,harrays,rfl, -,rfl⟩
      rw [length_eq_zero_iff.mp harrays]
      exact ⟨rfl,rfl⟩
  | succ n ih =>
    constructor
    · intro h
      rw [hvccArrays] at h
      split at h
      · cases h
      rename_i hchecks
      rcases data with _ | ⟨a,_ | ⟨b,_ | ⟨c,data⟩⟩⟩
      iterate 3
        · simp at hchecks
      simp only [drop_succ_cons,drop_zero,not_or] at hchecks h
      have hcount := be16_getBe16 b c data
      have hlt := (getBe16 (b :: c :: data)).toNat_lt
      generalize (getBe16 (b :: c :: data)).toNat = count at h hchecks hcount hlt
      split at h
      · cases h
      rename_i hunits
      obtain ⟨units,hlength,rfl,hmembers,rfl⟩ := (nalArray_iff (by decide)).mp hunits
      obtain ⟨arrays,harrays,rfl,hwf,hstats⟩ := ih.mp h
      refine ⟨⟨a,units⟩ :: arrays,congrArg (· + 1) harrays,?_,fun x hx => ?_,?_⟩
      · simp only [List.flatMap_cons,HevcArray.encode,hlength,hcount,cons_append,append_assoc,
          nil_append]
      · rcases mem_cons.mp hx with rfl | hx
        · refine ⟨⟨hlength ▸ hlt,hmembers⟩,fun hnil => hchecks.2 ?_⟩
          rw [← hlength]
          exact length_eq_zero_iff.mpr hnil
        · exact hwf x hx
      · rw [List.flatMap_cons,List.foldl_append]
        exact hstats
    · rintro ⟨arrays,harrays,rfl,hwf,rfl⟩
      obtain ⟨a,arrays,rfl⟩ := exists_cons_of_length_eq_add_one harrays
      obtain ⟨ha,hne⟩ := hwf a mem_cons_self
      rw [length_cons,Nat.add_right_cancel_iff] at harrays
      have hcount := getBe16_be16 ha.count
        (sizedUnits a.units ++ (arrays.flatMap HevcArray.encode ++ rest))
      have hdata : (a :: arrays).flatMap HevcArray.encode ++ rest = a.typeByte ::
          (be16 a.units.length ++
            (sizedUnits a.units ++ (arrays.flatMap HevcArray.encode ++ rest))) := by
        simp only [List.flatMap_cons,HevcArray.encode,cons_append,append_assoc]
      have hunits : nalArray .hevc 2
          (fun header => (header >>> 1) &&& 0x3f == a.typeByte &&& 0x3f) a.units.length
          (sizedUnits a.units ++ (arrays.flatMap HevcArray.encode ++ rest)) stats = some (_, _) :=
        (nalArray_iff (by decide)).mpr ⟨a.units,rfl,rfl,ha.units,rfl⟩
      have hpos := length_pos_iff.mpr hne
      rw [hdata,hvccArrays]
      simp only [drop_succ_cons,drop_zero,List.getD_cons_zero,hcount]
      rw [if_neg (by simp only [length_cons,length_append,be16,length_nil]; omega)]
      rw [drop_be16,hunits]
      refine ih.mpr ⟨arrays,harrays,rfl,fun x hx => hwf x (mem_cons_of_mem _ hx),?_⟩
      rw [List.flatMap_cons,List.foldl_append]
variable {r : HevcRecord}
theorem HevcRecord.WellFormed.mask (h : r.WellFormed) (hcomplete : r.Complete)
    (stats : BitstreamStats) :
    (r.units.foldl (countNal .hevc) stats).parameterSetMask &&& 7 = 7 := by
  have hbit (type : UInt8) (htype : type = 32 ∨ type = 33 ∨ type = 34) :
      (r.units.foldl (countNal .hevc) stats).parameterSetMask &&& (1 <<< (type - 32).toUInt32) =
        1 <<< (type - 32).toUInt32 := by
    obtain ⟨unit,hunit,hhead⟩ := hcomplete type htype
    obtain ⟨a,ha,hunit'⟩ := mem_flatMap.mp hunit
    have hmember := (h.arrays a ha).units unit hunit'
    obtain ⟨kind,hkind⟩ := Option.isSome_iff_exists.mp hmember.kind
    apply foldl_countNal_mask stats hunit hkind
    rcases unit with _ | ⟨first,_ | ⟨second,rest⟩⟩
    · cases hkind
    · cases hkind
    · rw [List.headD_cons] at hhead
      unfold nalKind at hkind
      dsimp only at hkind
      rw [hhead] at hkind
      split at hkind
      · cases hkind
      split at hkind
      · cases hkind
      cases hkind
      rfl
  exact and_or_of_and (and_or_of_and (hbit 32 (.inl rfl)) (hbit 33 (.inr (.inl rfl))))
    (hbit 34 (.inr (.inr rfl)))

/-- What the inspection accepts is a well-formed HEVC record; one with a parameter set of every kind
is accepted. -/
theorem inspectHvcc_record (h : inspectHvcc data stats = some stats') :
    ∃ r : HevcRecord, (r.WellFormed ∧ r.Filled) ∧ data = r.encode ∧
    stats' = r.units.foldl (countNal .hevc) stats := by
  unfold inspectHvcc at h
  split at h
  · cases h
  rename_i hchecks
  simp only [not_or,Nat.not_lt,not_not] at hchecks
  obtain ⟨hlong,hversion, -⟩ := hchecks
  obtain ⟨⟨rest,stats1⟩,harrays,h⟩ := Option.bind_eq_some_iff.mp h
  dsimp only at h
  split at h
  · rename_i hend
    cases h
    rw [hend.1] at harrays
    obtain ⟨arrays,hlength,hdata,hwf,rfl⟩ := hvccArrays_iff.mp harrays
    rw [append_nil] at hdata
    have hbyte : UInt8.ofNat arrays.length = data.getD 22 0 := by
      rw [hlength]
      exact UInt8.ofNat_toNat
    refine ⟨⟨data.take 22,arrays⟩,⟨⟨length_take_of_le (by omega),?_,
      hlength ▸ (data.getD 22 0).toNat_lt,fun a ha => (hwf a ha).1⟩,fun a ha => (hwf a ha).2⟩,?_,rfl⟩
    · rw [← hversion]
      cases data <;> rfl
    · rw [HevcRecord.encode,hbyte,← hdata,List.getD_eq_getElem?_getD,
        List.getElem?_eq_getElem (by omega),Option.getD_some,← drop_eq_getElem_cons,
        take_append_drop]
  · cases h

theorem inspectHvcc_encode (hr : r.WellFormed) (hfilled : r.Filled) (hcomplete : r.Complete)
    (stats : BitstreamStats) :
    inspectHvcc r.encode stats = some (r.units.foldl (countNal .hevc) stats) := by
  have hcount : r.encode.getD 22 0 = UInt8.ofNat r.arrays.length := by
    rw [HevcRecord.encode,List.getD_eq_getElem?_getD,
      List.getElem?_append_right (Nat.le_of_eq hr.header),hr.header]
    rfl
  have hversion : r.encode.getD 0 0 = 1 := by
    rw [← hr.version,HevcRecord.encode]
    have hheader := hr.header
    cases hlist : r.header with
    | nil => simp [hlist] at hheader
    | cons => rfl
  have hdrop : r.encode.drop 23 = r.arrays.flatMap HevcArray.encode ++ [] := by
    rw [HevcRecord.encode,append_cons,append_nil,drop_left']
    rw [length_append,hr.header]
    rfl
  have harrays : hvccArrays (UInt8.ofNat r.arrays.length).toNat (r.encode.drop 23) stats =
      some ([], _) :=
    hvccArrays_iff.mpr ⟨r.arrays,(toNat_ofNat_length hr.count).symm,hdrop,
      fun a ha => ⟨hr.arrays a ha,hfilled a ha⟩,rfl⟩
  have hmask := hr.mask hcomplete stats
  have hne : ¬UInt8.ofNat r.arrays.length = 0 := by
    intro hzero
    have hnil : r.arrays = [] :=
      length_eq_zero_iff.mp (by rw [← toNat_ofNat_length hr.count,hzero]; rfl)
    obtain ⟨unit,hunit, -⟩ := hcomplete 32 (.inl rfl)
    simp [HevcRecord.units,hnil] at hunit
  unfold inspectHvcc
  rw [hcount,hversion,if_neg]
  · rw [harrays]
    exact if_pos ⟨rfl,hmask⟩
  · rw [HevcRecord.encode,length_append,hr.header,length_cons]
    simp only [ne_eq,not_true_eq_false,hne,or_self,or_false,Nat.not_lt]
    omega

/-- A byte of the buffer. A read outside of it is nothing, where a rejection is `some none`. -/
def read (data : List UInt8) (i : Nat) : OptionT Option UInt8 := OptionT.lift data[i]?

/-- `nalArray` with its reads. -/
def nalArrayRead (codec : CodecKind) (minimum : Nat) (expected : UInt8 → Bool) :
    Nat → List UInt8 → BitstreamStats → OptionT Option (List UInt8 × BitstreamStats)
  | 0, data, stats => pure (data, stats)
  | count + 1, data, stats => do
      if data.length < 2 then failure
      let nalSize := (getBe16 [← read data 0,← read data 1]).toNat
      let rest := data.drop 2
      if nalSize < minimum ∨ rest.length < nalSize then failure
      if expected (← read rest 0) = false then failure
      match addNal codec (rest.take nalSize) stats with
      | none => failure
      | some stats => nalArrayRead codec minimum expected count (rest.drop nalSize) stats

def avccExtensionsRead (profile : UInt8) (data : List UInt8) (stats : BitstreamStats) :
    OptionT Option (List UInt8 × BitstreamStats) := do
  if data = [] then return (data, stats)
  if !extensionProfile profile || decide (data.length < 4) then failure
  if (← read data 0) &&& 0xfc != 0xfc || (← read data 1) &&& 0xf8 != 0xf8 ||
      (← read data 2) &&& 0xf8 != 0xf8 then failure
  nalArrayRead .avc 1 (fun header => header &&& 0x1f == 13) (← read data 3).toNat (data.drop 4) stats

/-- `inspectAvcc` with its reads. -/
def inspectAvccRead (data : List UInt8) (stats : BitstreamStats) :
    OptionT Option BitstreamStats := do
  if data.length < 7 then failure
  let count ← read data 5
  if (← read data 0) ≠ 1 ∨ (← read data 4) &&& 0xfc ≠ 0xfc ∨ count &&& 0xe0 ≠ 0xe0 ∨
      count &&& 0x1f = 0 then failure
  let (rest, stats) ← nalArrayRead .avc 1 (fun header => header &&& 0x1f == 7)
    (count &&& 0x1f).toNat (data.drop 6) stats
  if rest = [] then failure
  let count ← read rest 0
  if count = 0 then failure
  let (rest, stats) ← nalArrayRead .avc 1 (fun header => header &&& 0x1f == 8) count.toNat
    (rest.drop 1) stats
  let (rest, stats) ← avccExtensionsRead (← read data 1) rest stats
  if rest = [] ∧ stats.parameterSetMask &&& 3 = 3 then return stats else failure

def hvccArraysRead : Nat → List UInt8 → BitstreamStats →
    OptionT Option (List UInt8 × BitstreamStats)
  | 0, data, stats => pure (data, stats)
  | arrays + 1, data, stats => do
      if data.length < 3 then failure
      let expectedType := (← read data 0) &&& 0x3f
      let count := (getBe16 [← read data 1,← read data 2]).toNat
      if count = 0 then failure
      let (rest, stats) ← nalArrayRead .hevc 2
        (fun header => (header >>> 1) &&& 0x3f == expectedType) count (data.drop 3) stats
      hvccArraysRead arrays rest stats

/-- `inspectHvcc` with its reads. -/
def inspectHvccRead (data : List UInt8) (stats : BitstreamStats) :
    OptionT Option BitstreamStats := do
  if data.length < 23 then failure
  let arrays ← read data 22
  if (← read data 0) ≠ 1 ∨ arrays = 0 then failure
  let (rest, stats) ← hvccArraysRead arrays.toNat (data.drop 23) stats
  if rest = [] ∧ stats.parameterSetMask &&& 7 = 7 then return stats else failure

theorem read_inside {i : Nat} (h : i < data.length) :
    read data i = pure (data.getD i 0) := by
  rw [read,List.getElem?_eq_getElem h,List.getD_eq_getElem?_getD,List.getElem?_eq_getElem h]
  rfl

theorem found_bind {α β : Type} (a : α) (f : α → OptionT Option β) :
    OptionT.mk (some (some a)) >>= f = f a := rfl
theorem headD_eq_getD (data : List UInt8) : data.headD 0 = data.getD 0 0 := by
  cases data <;> rfl

theorem nalArrayRead_eq {minimum : Nat} (hpos : 0 < minimum) (codec : CodecKind)
    (expected : UInt8 → Bool) (n : Nat) (data : List UInt8) (stats : BitstreamStats) :
    nalArrayRead codec minimum expected n data stats =
      OptionT.mk (some (nalArray codec minimum expected n data stats)) := by
  induction n generalizing data stats with
  | zero => rfl
  | succ n ih =>
    rw [nalArrayRead,nalArray]
    by_cases hshort : data.length < 2
    · rw [if_pos hshort,if_pos hshort]
      rfl
    rw [if_neg hshort,if_neg hshort,read_inside (by omega),read_inside (by omega)]
    have hbytes : getBe16 [data.getD 0 0,data.getD 1 0] = getBe16 data := by
      rcases data with _ | ⟨a,_ | ⟨b,data⟩⟩
      · simp at hshort
      · simp at hshort
      · rfl
    simp only [pure_bind,hbytes,headD_eq_getD]
    by_cases hsize : (getBe16 data).toNat < minimum ∨ (data.drop 2).length < (getBe16 data).toNat
    · rw [if_pos hsize,if_pos (or_assoc.mp (.inl hsize))]
      rfl
    rw [if_neg hsize,read_inside (by omega),pure_bind]
    by_cases hexpected : expected ((data.drop 2).getD 0 0) = false
    · rw [if_pos hexpected,if_pos (.inr (.inr hexpected))]
      rfl
    rw [if_neg hexpected,if_neg fun h => (or_assoc.mpr h).elim hsize hexpected]
    cases addNal codec ((data.drop 2).take (getBe16 data).toNat) stats with
    | none => rfl
    | some stats => exact ih _ _

theorem avccExtensionsRead_eq (profile : UInt8) (data : List UInt8) (stats : BitstreamStats) :
    avccExtensionsRead profile data stats =
      OptionT.mk (some (avccExtensions profile data stats)) := by
  unfold avccExtensionsRead avccExtensions
  by_cases hnil : data = []
  · rw [if_pos hnil,if_pos hnil]
    rfl
  rw [if_neg hnil,if_neg hnil]
  by_cases hprofile : (!extensionProfile profile || decide (data.length < 4)) = true
  · rw [if_pos hprofile,hprofile]
    rfl
  rw [if_neg hprofile]
  have hlong : 4 ≤ data.length := by
    simp only [Bool.or_eq_true,decide_eq_true_eq,not_or,Nat.not_lt] at hprofile
    exact hprofile.2
  rw [Bool.not_eq_true] at hprofile
  rw [read_inside (by omega),read_inside (by omega),read_inside (by omega),read_inside (by omega)]
  simp only [pure_bind,hprofile,Bool.false_or,nalArrayRead_eq Nat.one_pos]
  split <;> rfl

section
variable (data : List UInt8) (stats : BitstreamStats)
theorem inspectAvccRead_eq :
    inspectAvccRead data stats = OptionT.mk (some (inspectAvcc data stats)) := by
  unfold inspectAvccRead inspectAvcc
  by_cases hshort : data.length < 7
  · rw [if_pos hshort,if_pos (.inl hshort)]
    rfl
  rw [if_neg hshort,read_inside (by omega),read_inside (by omega),read_inside (by omega),
    read_inside (by omega)]
  simp only [pure_bind,hshort,false_or,nalArrayRead_eq Nat.one_pos,avccExtensionsRead_eq]
  split
  · rfl
  cases nalArray .avc 1 (fun header => header &&& 0x1f == 7) (data.getD 5 0 &&& 0x1f).toNat
    (data.drop 6) stats with
  | none => rfl
  | some found =>
    obtain ⟨rest,stats⟩ := found
    simp only [found_bind,Option.bind_eq_bind,Option.bind_some]
    cases rest with
    | nil => rfl
    | cons count rest =>
      rw [if_neg (cons_ne_nil count rest),read_inside (Nat.zero_lt_succ _),pure_bind,
        List.headD_cons,List.getD_cons_zero]
      split
      · rfl
      cases nalArray .avc 1 (fun header => header &&& 0x1f == 8) count.toNat
        ((count :: rest).drop 1) stats with
      | none => rfl
      | some found =>
        simp only [found_bind,Option.bind_some]
        cases avccExtensions (data.getD 1 0) found.1 found.2 with
        | none => rfl
        | some found =>
          simp only [found_bind,Option.bind_some]
          split <;> rfl

theorem hvccArraysRead_eq :
    hvccArraysRead n data stats = OptionT.mk (some (hvccArrays n data stats)) := by
  induction n generalizing data stats with
  | zero => rfl
  | succ n ih =>
    rw [hvccArraysRead,hvccArrays]
    by_cases hshort : data.length < 3
    · rw [if_pos hshort,if_pos (.inl hshort)]
      rfl
    rw [if_neg hshort,read_inside (by omega),read_inside (by omega),read_inside (by omega)]
    have hbytes : getBe16 [data.getD 1 0,data.getD 2 0] = getBe16 (data.drop 1) := by
      rcases data with _ | ⟨a,_ | ⟨b,_ | ⟨c,data⟩⟩⟩
      iterate 3
        · simp at hshort
      rfl
    simp only [pure_bind,hbytes,hshort,false_or,nalArrayRead_eq Nat.two_pos]
    split
    · rfl
    cases nalArray .hevc 2 (fun header => (header >>> 1) &&& 0x3f == data.getD 0 0 &&& 0x3f)
      (getBe16 (data.drop 1)).toNat (data.drop 3) stats with
    | none => rfl
    | some found => exact ih _ _

theorem inspectHvccRead_eq :
    inspectHvccRead data stats = OptionT.mk (some (inspectHvcc data stats)) := by
  unfold inspectHvccRead inspectHvcc
  by_cases hshort : data.length < 23
  · rw [if_pos hshort,if_pos (.inl hshort)]
    rfl
  rw [if_neg hshort,read_inside (by omega),read_inside (by omega)]
  simp only [pure_bind,hshort,false_or,hvccArraysRead_eq]
  split
  · rfl
  cases hvccArrays (data.getD 22 0).toNat (data.drop 23) stats with
  | none => rfl
  | some found =>
    simp only [found_bind,Option.bind_eq_bind,Option.bind_some]
    split <;> rfl
end

theorem length_le_sizedUnits (units : List (List UInt8)) :
    units.length ≤ (sizedUnits units).length := by
  induction units with
  | nil => exact Nat.le_refl _
  | cons unit units ih =>
    rw [sizedUnits_cons,length_append,length_append,length_cons,be16,length_cons]
    omega

theorem AvcRecord.units_le (r : AvcRecord) : r.units.length ≤ r.encode.length := by
  have hsps := length_le_sizedUnits r.sps
  have hpps := length_le_sizedUnits r.pps
  unfold AvcRecord.units AvcRecord.encode
  simp only [length_append,length_cons]
  cases r.extension with
  | none => simp only [Option.elim_none,length_nil]; omega
  | some e =>
    have hext := length_le_sizedUnits e.units
    simp only [Option.elim_some,AvcExtension.encode,length_cons]
    omega

theorem HevcRecord.units_le (r : HevcRecord) : r.units.length ≤ r.encode.length := by
  have harrays : (r.arrays.flatMap HevcArray.units).length ≤
      (r.arrays.flatMap HevcArray.encode).length := by
    induction r.arrays with
    | nil => exact Nat.le_refl _
    | cons a arrays ih =>
      have ha := length_le_sizedUnits a.units
      simp only [List.flatMap_cons,length_append,HevcArray.encode,length_cons]
      omega
  rw [HevcRecord.units,HevcRecord.encode,length_append,length_cons]
  omega

theorem bitstreamInspect_one {mime : String} {tail : List UInt8}
    (hmime : codecForMime mime = some codec) (hdata : data = 1 :: tail)
    (hsize : data.length < 2 ^ 24) (hlong : 4 ≤ data.length)
    (hrecord : tryConfigRecord codec data = some stats) :
    bitstreamInspect mime data = .ok stats := by
  subst hdata
  have hannex : tryAnnexB codec (1 :: tail) = none := by
    unfold tryAnnexB inspectAnnexB
    cases hfound : findStartCode (1 :: tail) 0 with
    | none => rfl
    | some found =>
      obtain ⟨-,hcode⟩ := findStartCode_some hfound
      rcases hstart : found.1 with _ | start
      · rw [hstart] at hcode
        rcases hcode with ⟨-,rest,heq⟩ | ⟨-,rest,heq⟩ <;>
        · exact absurd (List.cons.inj heq).1 (by decide)
      · simp [hstart]
  have hlengths : inspectLengthPrefixed codec (1 :: tail) (.start .lengthPrefixed) = none := by
    rcases tail with _ | ⟨a,_ | ⟨b,_ | ⟨c,tail⟩⟩⟩
    iterate 3
      · simp at hlong
    have hbig : 2 ^ 24 ≤ (getBe32 (1 :: a :: b :: c :: tail)).toNat := by
      rw [getBe32_cons,ofBytes_toNat]
      have : (1 : UInt8).toNat = 1 := rfl
      omega
    simp only [length_cons] at hsize
    rw [inspectLengthPrefixed,length_cons,lengthPrefixedLoop,if_neg (by simp)]
    · dsimp only
      rw [if_pos (.inr (by simp only [drop_succ_cons,drop_zero]; omega))]
      rfl
    · simp
  rw [bitstreamInspect,if_neg (by simp),hmime]
  dsimp only
  rw [hannex,hlengths,hrecord]

theorem AvcRecord.WellFormed.kinds {r : AvcRecord} (h : r.WellFormed) :
    ∀ unit ∈ r.units, (nalKind .avc unit).isSome := by
  intro unit hunit
  rw [AvcRecord.units,mem_append,mem_append] at hunit
  rcases hunit with (hsps | hpps) | hext
  · exact (h.sps unit hsps).kind
  · exact (h.pps unit hpps).kind
  · cases hextension : r.extension with
    | none => rw [hextension] at hext; cases hext
    | some e =>
      rw [hextension] at hext
      exact ((h.extension e hextension).2.units unit hext).kind

theorem HevcRecord.WellFormed.kinds (h : r.WellFormed) :
    ∀ unit ∈ r.units, (nalKind .hevc unit).isSome := by
  intro unit hunit
  obtain ⟨a,ha,hunit⟩ := mem_flatMap.mp hunit
  exact ((h.arrays a ha).units unit hunit).kind

theorem lengthPrefixedLoop_format {fuel : Nat}
    (h : lengthPrefixedLoop codec fuel data stats = some stats') :
    stats'.format = stats.format := by
  induction fuel generalizing data stats with
  | zero =>
    cases data with
    | nil => cases h; rfl
    | cons a data => cases h
  | succ fuel ih =>
    cases data with
    | nil => cases h; rfl
    | cons a data =>
      rw [lengthPrefixedLoop.eq_3 _ _ _ _ (cons_ne_nil a data)] at h
      split at h
      · cases h
      dsimp only at h
      split at h
      · cases h
      split at h
      · cases h
      rename_i counted hcounted
      obtain ⟨kind, -,rfl⟩ := Option.map_eq_some_iff.mp hcounted
      exact (ih h).trans rfl

theorem bitstreamInspect_record {mime : String} (h : bitstreamInspect mime data = .ok stats)
    (hformat : stats.format = .codecConfigRecord) :
    (∃ r : AvcRecord, (r.WellFormed ∧ r.KnownProfile) ∧ data = r.encode ∧
    (inspectAvccRead data (.start .codecConfigRecord)).run = some (some stats)) ∨
    ∃ r : HevcRecord, (r.WellFormed ∧ r.Filled) ∧ data = r.encode ∧
    (inspectHvccRead data (.start .codecConfigRecord)).run = some (some stats) := by
  unfold bitstreamInspect at h
  split at h
  · cases h
  split at h
  · cases h
  rename_i codec hcodec
  split at h
  · rename_i found hannex
    cases h
    rw [tryAnnexB_format hannex] at hformat
    cases hformat
  split at h
  · rename_i found hlengths
    cases h
    rw [lengthPrefixedLoop_format (Option.filter_eq_some_iff.mp hlengths).1] at hformat
    cases hformat
  split at h
  · rename_i found hrecord
    cases h
    cases codec with
    | avc =>
      obtain ⟨r,hr,hdata, -⟩ := inspectAvcc_iff.mp hrecord
      exact .inl ⟨r,hr,hdata,(inspectAvccRead_eq ..).trans (congrArg some hrecord)⟩
    | hevc =>
      obtain ⟨r,hr,hdata, -⟩ := inspectHvcc_record hrecord
      exact .inr ⟨r,hr,hdata,(inspectHvccRead_eq ..).trans (congrArg some hrecord)⟩
  · cases h

def avcRecord (profile : UInt8) (extension : Option AvcExtension) : AvcRecord :=
  ⟨profile,0,30,0xff,0xe1,[[0x67,66]],[[0x68,1]],extension⟩

def plainExtension : AvcExtension := ⟨0xff,0xf8,0xf8,[[0x6d,1]]⟩

theorem avcRecord_wellFormed {profile : UInt8} (h : profile ∉ ([66,77,88] : List UInt8)) :
    (avcRecord profile (some plainExtension)).WellFormed := by
  have hmember {type : UInt8} {unit : List UInt8} (hunit : unit.length = 2)
      (htype : (unit.headD 0 &&& 0x1f == type) = true) (hkind : (nalKind .avc unit).isSome) :
      avcMember type unit :=
    ⟨by omega,by omega,htype,hkind⟩
  have hlength : (0xff : UInt8) &&& 0xfc = 0xfc := by decide
  have hreserved : (0xe1 : UInt8) &&& 0xe0 = 0xe0 := by decide
  have hcount : 1 = ((0xe1 : UInt8) &&& 0x1f).toNat := by decide
  refine ⟨hlength,hreserved,hcount,cons_ne_nil _ _,cons_ne_nil _ _,Nat.lt_of_sub_eq_succ rfl,
    forall_mem_singleton.mpr ?_,forall_mem_singleton.mpr ?_,fun e he => ?_⟩
  · exact hmember rfl (by decide) (by decide)
  · exact hmember rfl (by decide) (by decide)
  · cases he
    refine ⟨h,by decide,by decide,by decide,by decide,forall_mem_singleton.mpr ?_⟩
    exact hmember rfl (by decide) (by decide)

def emptyArrayRecord : HevcRecord :=
  ⟨1 :: List.replicate 21 0,[⟨32,[[0x40,1]]⟩,⟨33,[[0x42,1]]⟩,⟨34,[[0x44,1]]⟩,⟨39,[]⟩]⟩

end LinDeX.Tools
