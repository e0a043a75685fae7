import Mathlib.Data.List.Count
import Mathlib.Data.List.DropRight
import LinDeX.Library.Words
import LinDeX.Protocol.Wire
import LinDeX.Tools.StartCode

/-!
# Telling the framing of an output packet

`advc_bitstream.c` tries Annex B framing, four-byte lengths and configuration records in this order
on the same bytes, and counts the NAL units. Lengths may look like a start code.
-/
namespace LinDeX.Tools
open Bytes List
inductive CodecKind where
  | avc | hevc
  deriving DecidableEq, Repr

inductive BitstreamFormat where
  | unknown | annexB | lengthPrefixed | codecConfigRecord
  deriving DecidableEq, Repr

structure BitstreamStats where
  format : BitstreamFormat
  (nalUnits parameterSets parameterSetMask vclUnits keyVclUnits : UInt32)
  deriving DecidableEq, Repr

def BitstreamStats.start (format : BitstreamFormat) : BitstreamStats := ⟨format,0,0,0,0,0⟩

def getBe16 : List UInt8 → UInt16
  | a :: b :: _ => (a.toUInt16 <<< 8) ||| b.toUInt16
  | _ => 0

def getBe32 : List UInt8 → UInt32
  | a :: b :: c :: d :: _ =>
    (a.toUInt32 <<< 24) ||| (b.toUInt32 <<< 16) ||| (c.toUInt32 <<< 8) ||| d.toUInt32
  | _ => 0

structure NalKind where
  mask : Option UInt32
  (vcl key : Bool)
  deriving DecidableEq, Repr

/-- The checks of `add_nal`, and what it counts. -/
def nalKind (codec : CodecKind) (data : List UInt8) : Option NalKind :=
  match codec, data with
  | .avc, header :: _ =>
    let type := header &&& 0x1f
    if header &&& 0x80 ≠ 0 then none
    else if type = 0 ∨ 24 ≤ type then none
    else
      some { mask := if type = 7 then some 1 else if type = 8 then some 2 else none
             vcl := decide (1 ≤ type ∧ type ≤ 5)
             key := type == 5 }
  | .hevc, first :: second :: _ =>
    let type := (first >>> 1) &&& 0x3f
    if first &&& 0x80 ≠ 0 ∨ second &&& 0x07 = 0 then none
    else if 40 < type then none
    else
      some { mask := if type = 32 ∨ type = 33 ∨ type = 34 then
               some (1 <<< (type - 32).toUInt32) else none
             vcl := decide (type ≤ 31)
             key := decide (16 ≤ type ∧ type ≤ 23) }
  | _, _ => none

def BitstreamStats.count (stats : BitstreamStats) (kind : NalKind) : BitstreamStats :=
  { stats with
    nalUnits := stats.nalUnits + 1
    parameterSets := if kind.mask.isSome then stats.parameterSets + 1 else stats.parameterSets
    parameterSetMask := stats.parameterSetMask ||| kind.mask.getD 0
    vclUnits := if kind.vcl then stats.vclUnits + 1 else stats.vclUnits
    keyVclUnits := if kind.vcl && kind.key then stats.keyVclUnits + 1 else stats.keyVclUnits }

def addNal (codec : CodecKind) (data : List UInt8) (stats : BitstreamStats) :
    Option BitstreamStats :=
  (nalKind codec data).map stats.count
variable (data : List UInt8)
/-- The end of a unit without the zeros before it: `while (end > payload && data[end - 1] == 0)`. -/
def trimZeros : List UInt8 := data.rdropWhile (· == 0)

/-- The loop of `inspect_annex_b` from a start code on; every round passes one. -/
def annexBLoop (codec : CodecKind) (data : List UInt8) :
    Nat → Nat → Nat → BitstreamStats → Option BitstreamStats
  | 0, _, _, _ => none
  | fuel + 1, start, startLength, stats =>
    let payload := start + startLength
    if data.length ≤ payload then none
    else
      let next := findStartCode (data.drop payload) payload
      let finish := (next.map Prod.fst).getD data.length
      match addNal codec (trimZeros ((data.drop payload).take (finish - payload))) stats with
      | none => none
      | some stats =>
        match next with
        | none => some stats
        | some (start, startLength) => annexBLoop codec data fuel start startLength stats

def inspectAnnexB (codec : CodecKind) (data : List UInt8) (stats : BitstreamStats) :
    Option BitstreamStats :=
  match findStartCode data 0 with
  | none => none
  | some (start, startLength) =>
    if (data.take start).any (· != 0) then none
    else
      (annexBLoop codec data data.length start startLength stats).filter fun stats =>
        decide (0 < stats.nalUnits)

/-- The loop of `inspect_length_prefixed` on the data that is left. -/
def lengthPrefixedLoop (codec : CodecKind) :
    Nat → List UInt8 → BitstreamStats → Option BitstreamStats
  | _, [], stats => some stats
  | 0, _, _ => none
  | fuel + 1, data, stats =>
    if data.length < 4 then none
    else
      let nalSize := (getBe32 data).toNat
      let rest := data.drop 4
      if nalSize = 0 ∨ rest.length < nalSize then none
      else
        match addNal codec (rest.take nalSize) stats with
        | none => none
        | some stats => lengthPrefixedLoop codec fuel (rest.drop nalSize) stats

def inspectLengthPrefixed (codec : CodecKind) (data : List UInt8) (stats : BitstreamStats) :
    Option BitstreamStats :=
  (lengthPrefixedLoop codec data.length data stats).filter fun stats => decide (0 < stats.nalUnits)

/-- So many NAL units with lengths of two bytes, each of at least `minimum` bytes and with a first
byte that `expected` accepts: what is left, and the statistics. -/
def nalArray (codec : CodecKind) (minimum : Nat) (expected : UInt8 → Bool) :
    Nat → List UInt8 → BitstreamStats → Option (List UInt8 × BitstreamStats)
  | 0, data, stats => some (data, stats)
  | count + 1, data, stats =>
    if data.length < 2 then none
    else
      let nalSize := (getBe16 data).toNat
      let rest := data.drop 2
      if nalSize < minimum ∨ rest.length < nalSize ∨ expected (rest.headD 0) = false then none
      else
        match addNal codec (rest.take nalSize) stats with
        | none => none
        | some stats => nalArray codec minimum expected count (rest.drop nalSize) stats

def extensionProfile (profile : UInt8) : Bool :=
  profile ∈ ([100,110,122,144,83,86,118,128,138,139,134,135] : List UInt8)

def avccExtensions (profile : UInt8) (data : List UInt8) (stats : BitstreamStats) :
    Option (List UInt8 × BitstreamStats) :=
  if data = [] then some (data, stats)
  else if !extensionProfile profile || decide (data.length < 4) ||
      data.getD 0 0 &&& 0xfc != 0xfc || data.getD 1 0 &&& 0xf8 != 0xf8 ||
      data.getD 2 0 &&& 0xf8 != 0xf8 then none
  else
    nalArray .avc 1 (fun header => header &&& 0x1f == 13) (data.getD 3 0).toNat (data.drop 4) stats

def inspectAvcc (stats : BitstreamStats) : Option BitstreamStats := do
  if data.length < 7 ∨ data.getD 0 0 ≠ 1 ∨ data.getD 4 0 &&& 0xfc ≠ 0xfc ∨
      data.getD 5 0 &&& 0xe0 ≠ 0xe0 ∨ data.getD 5 0 &&& 0x1f = 0 then none
  else
    let (rest, stats) ← nalArray .avc 1 (fun header => header &&& 0x1f == 7)
      (data.getD 5 0 &&& 0x1f).toNat (data.drop 6) stats
    if rest.headD 0 = 0 then none
    else
      let (rest, stats) ← nalArray .avc 1 (fun header => header &&& 0x1f == 8)
        (rest.headD 0).toNat (rest.drop 1) stats
      let (rest, stats) ← avccExtensions (data.getD 1 0) rest stats
      if rest = [] ∧ stats.parameterSetMask &&& 3 = 3 then some stats else none

def hvccArrays : Nat → List UInt8 → BitstreamStats → Option (List UInt8 × BitstreamStats)
  | 0, data, stats => some (data, stats)
  | arrays + 1, data, stats =>
    let expectedType := data.getD 0 0 &&& 0x3f
    let count := (getBe16 (data.drop 1)).toNat
    if data.length < 3 ∨ count = 0 then none
    else
      match nalArray .hevc 2 (fun header => (header >>> 1) &&& 0x3f == expectedType) count
        (data.drop 3) stats with
      | none => none
      | some (rest, stats) => hvccArrays arrays rest stats

def inspectHvcc (stats : BitstreamStats) : Option BitstreamStats := do
  if data.length < 23 ∨ data.getD 0 0 ≠ 1 ∨ data.getD 22 0 = 0 then none
  else
    let (rest, stats) ← hvccArrays (data.getD 22 0).toNat (data.drop 23) stats
    if rest = [] ∧ stats.parameterSetMask &&& 7 = 7 then some stats else none

def codecForMime (mime : String) : Option CodecKind :=
  if mime = "video/avc" then some .avc
  else if mime = "video/hevc" then some .hevc
  else none

/-- The Annex B attempt of `advc_bitstream_inspect`. -/
def tryAnnexB (codec : CodecKind) (data : List UInt8) : Option BitstreamStats :=
  match findStartCode data 0 with
  | none => none
  | some (start, _) =>
    if start ≤ 3 then inspectAnnexB codec data (.start .annexB) else none

def tryConfigRecord (codec : CodecKind) (data : List UInt8) : Option BitstreamStats :=
  match codec with
  | .avc => inspectAvcc data (.start .codecConfigRecord)
  | .hevc => inspectHvcc data (.start .codecConfigRecord)

def bitstreamInspect (mime : String) (data : List UInt8) : Except Errno BitstreamStats :=
  if data.length = 0 then .error .einval
  else
    match codecForMime mime with
    | none => .error .einval
    | some codec =>
      match tryAnnexB codec data with
      | some stats => .ok stats
      | none =>
        match inspectLengthPrefixed codec data (.start .lengthPrefixed) with
        | some stats => .ok stats
        | none =>
          match tryConfigRecord codec data with
          | some stats => .ok stats
          | none => .error .eproto

def be32 (v : UInt32) : List UInt8 :=
  [(v >>> 24).toUInt8,(v >>> 16).toUInt8,(v >>> 8).toUInt8,v.toUInt8]
variable (units : List (List UInt8))
def lengthPrefixed : List UInt8 :=
  units.flatMap fun unit => be32 (UInt32.ofNat unit.length) ++ unit

structure Tallies (codec : CodecKind) (units : List (List UInt8)) (stats : BitstreamStats) :
    Prop where
  nalUnits : stats.nalUnits.toNat = units.length
  parameterSets : stats.parameterSets.toNat =
    units.countP fun unit => (nalKind codec unit).any fun kind => kind.mask.isSome
  parameterSetMask : stats.parameterSetMask =
    units.foldl (fun mask unit => mask ||| ((nalKind codec unit).bind NalKind.mask).getD 0) 0
  vclUnits : stats.vclUnits.toNat =
    units.countP fun unit => (nalKind codec unit).any NalKind.vcl
  keyVclUnits : stats.keyVclUnits.toNat =
    units.countP fun unit => (nalKind codec unit).any fun kind => kind.vcl && kind.key

structure Reports (codec : CodecKind) (units : List (List UInt8)) (stats : BitstreamStats) : Prop
    extends Tallies codec units stats where
  format : stats.format = .lengthPrefixed

theorem Tallies.nil (codec : CodecKind) (format : BitstreamFormat) :
    Tallies codec [] (.start format) := ⟨rfl,rfl,rfl,rfl,rfl⟩

def LooksLikeStartCode (length : Nat) : Prop := length = 1 ∨ (256 ≤ length ∧ length < 512)
instance (length : Nat) : Decidable (LooksLikeStartCode length) :=
  inferInstanceAs (Decidable (_ ∨ _))

theorem getBe32_cons (a b c d : UInt8) (rest : List UInt8) :
    getBe32 (a :: b :: c :: d :: rest) = ofBytes d c b a := by
  rw [getBe32,ofBytes]
  generalize a.toUInt32 <<< 24 = a', b.toUInt32 <<< 16 = b', c.toUInt32 <<< 8 = c'
  ac_rfl

theorem getBe32_be32 (v : UInt32) (rest : List UInt8) : getBe32 (be32 v ++ rest) = v :=
  (getBe32_cons _ _ _ _ rest).trans (ofBytes_toUInt8 v)
variable {a b c d : UInt8}
theorem be32_toNat {v : UInt32} (h : be32 v = [a,b,c,d]) :
    v.toNat = d.toNat + 2 ^ 8 * c.toNat + 2 ^ 16 * b.toNat + 2 ^ 24 * a.toNat := by
  have hv := getBe32_be32 v []
  rw [h] at hv
  rw [← hv,append_nil,getBe32_cons,ofBytes_toNat]
variable {codec : CodecKind} {stats : BitstreamStats}
theorem Tallies.concat {units : List (List UInt8)} {unit : List UInt8} {kind : NalKind}
    (h : Tallies codec units stats) (hkind : nalKind codec unit = some kind)
    (hroom : units.length + 1 < 2 ^ 32) : Tallies codec (units ++ [unit]) (stats.count kind) := by
  have hincrement (n : UInt32) {k : Nat} (hn : n.toNat = k) (hk : k ≤ units.length) :
      (n + 1).toNat = k + 1 := by
    rw [UInt32.toNat_add,hn]
    exact Nat.mod_eq_of_lt (by change k + 1 < 2 ^ 32; omega)
  have hcount (n : UInt32) (p : NalKind → Bool)
      (hn : n.toNat = units.countP fun unit => (nalKind codec unit).any p) :
      (if p kind = true then n + 1 else n).toNat =
        (units ++ [unit]).countP fun unit => (nalKind codec unit).any p := by
    rw [List.countP_append,List.countP_singleton,hkind,Option.any_some]
    split
    · exact hincrement n hn List.countP_le_length
    · exact hn
  refine ⟨?_,?_,?_,?_,?_⟩
  · rw [length_append]
    exact hincrement _ h.nalUnits (Nat.le_refl _)
  · exact hcount _ (fun kind => kind.mask.isSome) h.parameterSets
  · rw [List.foldl_append,← h.parameterSetMask,List.foldl_cons,hkind]
    rfl
  · exact hcount _ NalKind.vcl h.vclUnits
  · exact hcount _ (fun kind => kind.vcl && kind.key) h.keyVclUnits

theorem lengthPrefixedLoop_reports {seen units : List (List UInt8)} {fuel : Nat}
    (h : Reports codec seen stats)
    (hvalid : ∀ unit ∈ units, (nalKind codec unit).isSome)
    (hsizes : ∀ unit ∈ units, unit.length < 2 ^ 32)
    (hroom : seen.length + units.length < 2 ^ 32) (hfuel : units.length ≤ fuel) :
    ∃ stats', lengthPrefixedLoop codec fuel (lengthPrefixed units) stats = some stats' ∧
    Reports codec (seen ++ units) stats' := by
  induction units generalizing seen stats fuel with
  | nil =>
    refine ⟨stats,?_,by rwa [append_nil]⟩
    unfold lengthPrefixedLoop
    rfl
  | cons unit units ih =>
    obtain ⟨fuel,rfl⟩ := Nat.exists_eq_succ_of_ne_zero (Nat.ne_zero_of_lt hfuel)
    obtain ⟨kind,hkind⟩ := Option.isSome_iff_exists.mp (hvalid unit mem_cons_self)
    rw [length_cons] at hroom hfuel
    have hone : Reports codec (seen ++ [unit]) (stats.count kind) :=
      ⟨h.concat hkind (by omega),h.format⟩
    obtain ⟨stats',hloop,hreports⟩ := ih hone
      (fun u hu => hvalid u (mem_cons_of_mem _ hu))
      (fun u hu => hsizes u (mem_cons_of_mem _ hu))
      (by rw [length_append,length_singleton]; omega) (Nat.le_of_succ_le_succ hfuel)
    rw [append_assoc,singleton_append] at hreports
    refine ⟨stats',?_,hreports⟩
    have hne : unit ≠ [] := by
      rintro rfl
      cases codec <;> cases hkind
    have hsize : (UInt32.ofNat unit.length).toNat = unit.length := by
      rw [UInt32.toNat_ofNat']
      exact Nat.mod_eq_of_lt (hsizes unit mem_cons_self)
    have hdata : lengthPrefixed (unit :: units) =
        be32 (UInt32.ofNat unit.length) ++ (unit ++ lengthPrefixed units) := by
      rw [lengthPrefixed,List.flatMap_cons,append_assoc]
      rfl
    rw [hdata]
    change (if (be32 (UInt32.ofNat unit.length) ++ (unit ++ lengthPrefixed units)).length < 4
      then none else _) = _
    rw [if_neg (by rw [length_append]; exact Nat.not_lt.mpr (Nat.le_add_right 4 _))]
    have hdrop : (be32 (UInt32.ofNat unit.length) ++ (unit ++ lengthPrefixed units)).drop 4 =
      unit ++ lengthPrefixed units := rfl
    rw [getBe32_be32,hsize,hdrop,if_neg]
    · rw [take_left,drop_left,addNal,hkind]
      exact hloop
    · rw [length_append]
      have := length_pos_iff.mpr hne
      omega

theorem lengthPrefixed_length :
    (lengthPrefixed units).length = (units.map fun unit => 4 + unit.length).sum := by
  induction units with
  | nil => rfl
  | cons unit units ih =>
    rw [lengthPrefixed,List.flatMap_cons,length_append,length_append,map_cons,sum_cons,← ih]
    rfl

theorem lengthPrefixed_bounds :
    units.length ≤ (lengthPrefixed units).length ∧
    ∀ unit ∈ units, unit.length ≤ (lengthPrefixed units).length := by
  rw [lengthPrefixed_length]
  induction units with
  | nil => exact ⟨Nat.le_refl _,nofun⟩
  | cons unit units ih =>
    rw [map_cons,sum_cons,length_cons]
    refine ⟨by omega,fun u hu => ?_⟩
    rcases mem_cons.mp hu with rfl | hu
    · omega
    · have := ih.2 u hu
      omega

theorem inspectLengthPrefixed_reports {units : List (List UInt8)}
    (hne : units ≠ []) (hvalid : ∀ unit ∈ units, (nalKind codec unit).isSome)
    (hlimit : (lengthPrefixed units).length < 2 ^ 32) :
    ∃ stats, inspectLengthPrefixed codec (lengthPrefixed units) (.start .lengthPrefixed) =
      some stats ∧ Reports codec units stats := by
  obtain ⟨hcount,hsizes⟩ := lengthPrefixed_bounds units
  have hstart : Reports codec [] (.start .lengthPrefixed) := ⟨.nil codec _,rfl⟩
  obtain ⟨stats,hloop,hreports⟩ := lengthPrefixedLoop_reports hstart hvalid
    (fun unit hu => Nat.lt_of_le_of_lt (hsizes unit hu) hlimit)
    (by rw [length_nil]; omega) hcount
  rw [nil_append] at hreports
  refine ⟨stats,?_,hreports⟩
  have hpos : 0 < stats.nalUnits := by
    rw [UInt32.lt_iff_toNat_lt,hreports.nalUnits]
    exact length_pos_iff.mpr hne
  rw [inspectLengthPrefixed,hloop,Option.filter_some,if_pos (decide_eq_true hpos)]

theorem annexBLoop_format {data : List UInt8} {fuel start startLength : Nat}
    {stats stats' : BitstreamStats}
    (h : annexBLoop codec data fuel start startLength stats = some stats') :
    stats'.format = stats.format := by
  induction fuel generalizing start startLength stats with
  | zero => cases h
  | succ fuel ih =>
    rw [annexBLoop] at h
    dsimp only at h
    split at h
    · cases h
    split at h
    · cases h
    rename_i counted hcounted
    have hformat : counted.format = stats.format := by
      obtain ⟨kind, -,rfl⟩ := Option.map_eq_some_iff.mp hcounted
      rfl
    split at h
    · cases h
      exact hformat
    · exact (ih h).trans hformat

theorem tryAnnexB_format {data : List UInt8}
    (h : tryAnnexB codec data = some stats) : stats.format = .annexB := by
  unfold tryAnnexB at h
  split at h
  · cases h
  split at h
  · unfold inspectAnnexB at h
    split at h
    · cases h
    split at h
    · cases h
    · exact annexBLoop_format (Option.filter_eq_some_iff.mp h).1
  · cases h

theorem lengthPrefixed_head {first : List UInt8} (rest : List (List UInt8))
    (hsize : first.length < 2 ^ 32) :
    ∃ a b c d tail, lengthPrefixed (first :: rest) = a :: b :: c :: d :: tail ∧
    first.length = d.toNat + 2 ^ 8 * c.toNat + 2 ^ 16 * b.toNat + 2 ^ 24 * a.toNat := by
  refine ⟨_,_,_,_,_,rfl,?_⟩
  have hnat := be32_toNat (v := UInt32.ofNat first.length) rfl
  rwa [UInt32.toNat_ofNat',Nat.mod_eq_of_lt hsize] at hnat

theorem looksLikeStartCode {tail : List UInt8} {start startLength length : Nat}
    (hlength : length = d.toNat + 2 ^ 8 * c.toNat + 2 ^ 16 * b.toNat + 2 ^ 24 * a.toNat)
    (hpos : 0 < length) (hstart : start ≤ 3)
    (hzeros : ((a :: b :: c :: d :: tail).take start).any (· != 0) = false)
    (hcode : StartsWithCode ((a :: b :: c :: d :: tail).drop start) startLength) :
    LooksLikeStartCode length := by
  have hd := d.toNat_lt
  match start, hstart with
  | 0, _ =>
    rcases hcode with ⟨-,rest,hcode⟩ | ⟨-,rest,hcode⟩
    · obtain ⟨rfl,rfl,rfl, -⟩ : a = 0 ∧ b = 0 ∧ c = 1 ∧ _ := by simpa using hcode
      exact .inr (by simp at hlength; omega)
    · obtain ⟨rfl,rfl,rfl,rfl, -⟩ : a = 0 ∧ b = 0 ∧ c = 0 ∧ d = 1 ∧ _ := by
        simpa using hcode
      exact .inl (by simp at hlength; omega)
  | 1, _ =>
    obtain rfl : a = 0 := by simpa using hzeros
    rcases hcode with ⟨-,rest,hcode⟩ | ⟨-,rest,hcode⟩
    · obtain ⟨rfl,rfl,rfl, -⟩ : b = 0 ∧ c = 0 ∧ d = 1 ∧ _ := by simpa using hcode
      exact .inl (by simp at hlength; omega)
    · obtain ⟨rfl,rfl,rfl, -⟩ : b = 0 ∧ c = 0 ∧ d = 0 ∧ _ := by simpa using hcode
      simp at hlength
      omega
  | 2, _ =>
    obtain ⟨rfl,rfl⟩ : a = 0 ∧ b = 0 := by simpa using hzeros
    rcases hcode with ⟨-,rest,hcode⟩ | ⟨-,rest,hcode⟩ <;>
    · obtain ⟨rfl,rfl, -⟩ : c = 0 ∧ d = 0 ∧ _ := by simpa using hcode
      simp at hlength
      omega
  | 3, _ =>
    obtain ⟨rfl,rfl,rfl⟩ : a = 0 ∧ b = 0 ∧ c = 0 := by simpa using hzeros
    rcases hcode with ⟨-,rest,hcode⟩ | ⟨-,rest,hcode⟩ <;>
    · obtain ⟨rfl, -⟩ : d = 0 ∧ _ := by simpa using hcode
      simp at hlength
      omega

theorem findStartCode_length (tail : List UInt8) {length : Nat}
    (hlength : length = d.toNat + 2 ^ 8 * c.toNat + 2 ^ 16 * b.toNat + 2 ^ 24 * a.toNat)
    (h : LooksLikeStartCode length) :
    ∃ startLength, findStartCode (a :: b :: c :: d :: tail) 0 = some (0, startLength) := by
  have hbyte (x : UInt8) (n : Nat) (hn : n < 256) (hx : x.toNat = n) : x = UInt8.ofNat n := by
    rw [← hx,UInt8.ofNat_toNat]
  have hd := d.toNat_lt
  rcases h with hone | hmany
  · obtain rfl : a = 0 := hbyte a 0 (by decide) (by omega)
    obtain rfl : b = 0 := hbyte b 0 (by decide) (by omega)
    obtain rfl : c = 0 := hbyte c 0 (by decide) (by omega)
    obtain rfl : d = 1 := hbyte d 1 (by decide) (by omega)
    exact ⟨4,rfl⟩
  · obtain rfl : a = 0 := hbyte a 0 (by decide) (by omega)
    obtain rfl : b = 0 := hbyte b 0 (by decide) (by omega)
    obtain rfl : c = 1 := hbyte c 1 (by decide) (by omega)
    exact ⟨3,rfl⟩

theorem tryAnnexB_lengthPrefixed {first : List UInt8}
    {rest : List (List UInt8)} (hfirst : first ≠ []) (hsize : first.length < 2 ^ 32) :
    (tryAnnexB codec (lengthPrefixed (first :: rest))).isSome ↔ LooksLikeStartCode first.length ∧
      (inspectAnnexB codec (lengthPrefixed (first :: rest)) (.start .annexB)).isSome := by
  obtain ⟨a,b,c,d,tail,hdata,hlength⟩ := lengthPrefixed_head rest hsize
  have hpos := length_pos_iff.mpr hfirst
  rw [hdata]
  constructor
  · intro h
    unfold tryAnnexB at h
    split at h
    · cases h
    rename_i start startLength hfound
    split at h
    · rename_i hstart
      refine ⟨?_,h⟩
      rw [inspectAnnexB,hfound] at h
      dsimp only at h
      split at h
      · cases h
      · rename_i hzeros
        exact looksLikeStartCode hlength hpos hstart (by simpa using hzeros)
          (findStartCode_some hfound).2
    · cases h
  · rintro ⟨hlooks,hannex⟩
    obtain ⟨startLength,hfound⟩ := findStartCode_length tail hlength hlooks
    rw [tryAnnexB,hfound]
    exact hannex

/-- A packet of NAL units with lengths is reported as such, with the counts of its units, unless its
first length looks like a start code and the packet passes as Annex B. -/
theorem bitstreamInspect_lengthPrefixed_iff {mime : String} {codec : CodecKind}
    {first : List UInt8} {rest : List (List UInt8)} (hmime : codecForMime mime = some codec)
    (hvalid : ∀ unit ∈ first :: rest, (nalKind codec unit).isSome)
    (hlimit : (lengthPrefixed (first :: rest)).length ≤ maxInputBytes.toNat) :
    (∃ stats, bitstreamInspect mime (lengthPrefixed (first :: rest)) = .ok stats ∧
    Reports codec (first :: rest) stats) ↔ ¬(LooksLikeStartCode first.length ∧
    (inspectAnnexB codec (lengthPrefixed (first :: rest)) (.start .annexB)).isSome) := by
  have hsmall : (lengthPrefixed (first :: rest)).length < 2 ^ 32 :=
    Nat.lt_of_le_of_lt hlimit (by decide)
  have hfirst : first ≠ [] := by
    rintro rfl
    have hkind := hvalid [] mem_cons_self
    cases codec <;> cases hkind
  have hsize : first.length < 2 ^ 32 :=
    Nat.lt_of_le_of_lt ((lengthPrefixed_bounds _).2 first mem_cons_self) hsmall
  have hdata : (lengthPrefixed (first :: rest)).length ≠ 0 :=
    Nat.ne_zero_of_lt (lengthPrefixed_bounds (first :: rest)).1
  obtain ⟨stats,hinspect,hreports⟩ :=
    inspectLengthPrefixed_reports (cons_ne_nil first rest) hvalid hsmall
  rw [← tryAnnexB_lengthPrefixed hfirst hsize,bitstreamInspect,if_neg hdata,hmime]
  dsimp only
  cases hannex : tryAnnexB codec (lengthPrefixed (first :: rest)) with
  | some other =>
    refine iff_of_false ?_ (by simp)
    rintro ⟨stats',hok,hreports'⟩
    cases hok
    have hformat := tryAnnexB_format hannex
    rw [hreports'.format] at hformat
    cases hformat
  | none =>
    refine iff_of_true ⟨stats,?_,hreports⟩ (by simp)
    rw [hinspect]

/-- An access unit delimiter and a slice of two bytes each. -/
theorem bitstreamInspect_lengthPrefixed_iff_twoUnits :
    ∃ stats, bitstreamInspect "video/avc" (lengthPrefixed [[0x09,0xf0],[0x65,0x88]]) = .ok stats ∧
    Reports .avc [[0x09,0xf0],[0x65,0x88]] stats := by
  refine (bitstreamInspect_lengthPrefixed_iff (by decide) (by decide) (by decide)).mpr ?_
  decide

/-- A key slice of 321 bytes: the length is taken for a start code and its last byte for the header
of a slice that is no key slice. -/
theorem bitstreamInspect_keySlice :
    (nalKind .avc (0x65 :: List.replicate 320 0x80)) = some ⟨none,true,true⟩ ∧
    bitstreamInspect "video/avc" (lengthPrefixed [0x65 :: List.replicate 320 0x80]) =
      .ok ⟨.annexB,1,0,0,1,0⟩ := by
  decide +kernel
end LinDeX.Tools
