import LinDeX.Tools.Bitstream

/-!
# Byte streams of NAL units

Annex B puts a start code of three or four bytes in front of every unit and allows zeros around it.
The search finds the start codes that were written and no others.
-/
namespace LinDeX.Tools
open List
structure FramedUnit where
  gap : Nat
  long : Bool
  bytes : List UInt8
  deriving DecidableEq, Repr

def startCode (long : Bool) : List UInt8 := if long then [0,0,0,1] else [0,0,1]
def FramedUnit.encode (u : FramedUnit) : List UInt8 :=
  List.replicate u.gap 0 ++ startCode u.long ++ u.bytes
def byteStream (units : List FramedUnit) (trailing : Nat) : List UInt8 :=
  units.flatMap FramedUnit.encode ++ List.replicate trailing 0

structure Clean (bytes : List UInt8) : Prop where
  noZeros : ¬[0,0,0] <:+: bytes
  noCode : ¬[0,0,1] <:+: bytes
  last : bytes.getLast? ≠ some 0

def FramedUnit.zeros (u : FramedUnit) : Nat := u.gap + if u.long then 3 else 2
def FramedUnit.lead (u : FramedUnit) : Nat := u.zeros - 3
def FramedUnit.codeLength (u : FramedUnit) : Nat := min u.zeros 3 + 1
variable (u : FramedUnit)
theorem FramedUnit.two_le_zeros : 2 ≤ u.zeros := by
  unfold FramedUnit.zeros
  split <;> omega

theorem FramedUnit.lead_add_codeLength : u.lead + u.codeLength = u.zeros + 1 := by
  unfold FramedUnit.lead FramedUnit.codeLength
  omega

theorem FramedUnit.encode_eq :
    u.encode = List.replicate u.zeros 0 ++ 1 :: u.bytes := by
  unfold FramedUnit.encode FramedUnit.zeros startCode
  rw [replicate_add]
  cases u.long <;> simp [replicate_succ]

variable (units : List FramedUnit)
theorem byteStream_cons (trailing : Nat) :
    byteStream (u :: units) trailing =
      List.replicate u.zeros 0 ++ 1 :: (u.bytes ++ byteStream units trailing) := by
  rw [byteStream,List.flatMap_cons,FramedUnit.encode_eq,byteStream]
  simp only [append_assoc,cons_append]
variable {a : UInt8}
theorem findStartCode_cons {data : List UInt8} (i : Nat)
    (h : ∀ length, ¬StartsWithCode (a :: data) length) :
    findStartCode (a :: data) i = findStartCode data (i + 1) := by
  rcases data with _ | ⟨b,_ | ⟨c,rest⟩⟩
  · rfl
  · rfl
  · rw [findStartCode]
    split
    · rfl
    rename_i hzeros
    simp only [ne_eq,not_or,not_not] at hzeros
    obtain ⟨rfl,rfl⟩ := hzeros
    split
    · rename_i hone
      exact absurd (.inl ⟨rfl,rest,by rw [hone]⟩) (h 3)
    split
    · rename_i hfour
      obtain ⟨rfl,hhead⟩ := hfour
      obtain ⟨tail,rfl⟩ := List.head?_eq_some_iff.mp hhead
      exact absurd (.inr ⟨rfl,tail,rfl⟩) (h 4)
    · rfl

variable {bytes : List UInt8}
theorem Clean.tail (h : Clean (a :: bytes)) : Clean bytes where
  noZeros := fun hin => h.noZeros (hin.trans (suffix_cons a bytes).isInfix)
  noCode := fun hin => h.noCode (hin.trans (suffix_cons a bytes).isInfix)
  last := by
    cases bytes with
    | nil => decide
    | cons b bytes => exact fun hlast => h.last hlast

theorem Clean.not_startsWithCode (h : Clean (a :: bytes))
    (rest : List UInt8) (length : Nat) : ¬StartsWithCode (a :: (bytes ++ rest)) length := by
  have hthree {x : UInt8} {tail : List UInt8} (hx : x = 0 ∨ x = 1)
      (heq : a :: (bytes ++ rest) = 0 :: 0 :: x :: tail) : False := by
    rcases bytes with _ | ⟨b,_ | ⟨c,bytes⟩⟩
    · exact h.last (by rw [(List.cons.inj heq).1]; rfl)
    · exact h.last (by rw [(List.cons.inj (List.cons.inj heq).2).1]; rfl)
    · simp only [cons_append,List.cons.injEq] at heq
      obtain ⟨rfl,rfl,rfl, -⟩ := heq
      rcases hx with rfl | rfl
      · exact h.noZeros ⟨[],bytes,rfl⟩
      · exact h.noCode ⟨[],bytes,rfl⟩
  rintro (⟨-,tail,heq⟩ | ⟨-,tail,heq⟩)
  · exact hthree (.inr rfl) heq
  · exact hthree (.inl rfl) heq

theorem Clean.findStartCode (h : Clean bytes) (rest : List UInt8) (i : Nat) :
    findStartCode (bytes ++ rest) i = findStartCode rest (i + bytes.length) := by
  induction bytes generalizing i with
  | nil => rfl
  | cons a bytes ih =>
    rw [cons_append,findStartCode_cons i (h.not_startsWithCode rest),ih h.tail,length_cons]
    congr 1
    omega

theorem findStartCode_zeros (n i : Nat) : findStartCode (List.replicate n 0) i = none := by
  induction n generalizing i with
  | zero => rfl
  | succ n ih =>
    rw [replicate_succ,findStartCode_cons,ih]
    rintro length (⟨-,rest,heq⟩ | ⟨-,rest,heq⟩) <;>
    · have hone : (1 : UInt8) ∈ 0 :: List.replicate n 0 := by
        rw [heq]
        simp
      rw [← replicate_succ] at hone
      exact absurd (eq_of_mem_replicate hone) (by decide)

theorem findStartCode_code {n : Nat} (hn : 2 ≤ n) (rest : List UInt8) (i : Nat) :
    findStartCode (List.replicate n 0 ++ 1 :: rest) i = some (i + (n - 3), min n 3 + 1) := by
  induction n, hn using Nat.le_induction generalizing i with
  | base => rfl
  | succ n hn ih =>
    obtain rfl | hlt := Nat.eq_or_lt_of_le hn
    · rfl
    obtain ⟨m,rfl⟩ := Nat.exists_eq_add_of_le' (Nat.succ_le_of_lt hlt)
    rw [replicate_succ,cons_append,findStartCode_cons,ih]
    · congr 2 <;> omega
    · rintro length (⟨-,tail,heq⟩ | ⟨-,tail,heq⟩)
      · simp [replicate_succ] at heq
      · simp [replicate_succ] at heq

def firstCode : List FramedUnit → Nat → Option (Nat × Nat)
  | [], _ => none
  | u :: _, i => some (i + u.lead, u.codeLength)

def gapAfter : List FramedUnit → Nat → Nat
  | [], trailing => trailing
  | u :: _, _ => u.lead

theorem findStartCode_byteStream (trailing i : Nat) :
    findStartCode (byteStream units trailing) i = firstCode units i := by
  cases units with
  | nil => exact findStartCode_zeros trailing i
  | cons u units =>
    rw [byteStream_cons]
    exact findStartCode_code u.two_le_zeros _ i

theorem byteStream_take (trailing : Nat) :
    (byteStream units trailing).take (gapAfter units trailing) =
      List.replicate (gapAfter units trailing) 0 := by
  cases units with
  | nil => exact take_of_length_le (by rw [byteStream,gapAfter]; simp)
  | cons u units =>
    rw [byteStream_cons,gapAfter,take_append_of_le_length,take_replicate]
    · congr 1
      unfold FramedUnit.lead
      omega
    · rw [length_replicate]
      unfold FramedUnit.lead
      omega

/-- A stream opens with the start code of its first unit, and only zeros stand in front of it. -/
theorem byteStream_opening {u : FramedUnit} (units : List FramedUnit) (trailing : Nat)
    (hne : u.bytes ≠ []) :
    findStartCode (byteStream (u :: units) trailing) 0 = some (u.lead, u.codeLength) ∧
    4 ≤ (byteStream (u :: units) trailing).length ∧
    ((byteStream (u :: units) trailing).take u.lead).any (· != 0) = false := by
  refine ⟨?_,?_,?_⟩
  · rw [findStartCode_byteStream,firstCode,Nat.zero_add]
  · have hpos := length_pos_iff.mpr hne
    have hzeros := u.two_le_zeros
    rw [byteStream_cons,length_append,length_replicate,length_cons,length_append]
    omega
  · have htake := byteStream_take (u :: units) trailing
    rw [gapAfter] at htake
    rw [htake]
    simp

section
variable {data bytes : List UInt8} {units : List FramedUnit} {trailing p : Nat}
theorem drop_unit {u : FramedUnit} (h : data.drop p = byteStream (u :: units) trailing) :
    data.drop (p + u.lead + u.codeLength) = u.bytes ++ byteStream units trailing := by
  rw [Nat.add_assoc,u.lead_add_codeLength,← drop_drop,h,byteStream_cons,append_cons]
  have hlength : (List.replicate u.zeros (0 : UInt8) ++ [1]).length = u.zeros + 1 := by simp
  rw [← hlength,drop_left]

theorem next_unit (h : data.drop p = bytes ++ byteStream units trailing) (hp : p ≤ data.length)
    (hclean : Clean bytes) :
    findStartCode (data.drop p) p = firstCode units (p + bytes.length) ∧
    ((findStartCode (data.drop p) p).map Prod.fst).getD data.length =
      p + bytes.length + gapAfter units trailing := by
  have hfind : findStartCode (data.drop p) p = firstCode units (p + bytes.length) := by
    rw [h,hclean.findStartCode,findStartCode_byteStream]
  refine ⟨hfind,?_⟩
  rw [hfind]
  cases units with
  | cons u units => rfl
  | nil =>
    have hlength := congrArg List.length h
    rw [length_drop,length_append,byteStream,List.flatMap_nil,nil_append,
      length_replicate] at hlength
    change data.length = p + bytes.length + trailing
    omega
end

variable {codec : CodecKind}
structure FramedUnit.Valid (codec : CodecKind) (u : FramedUnit) : Prop where
  kind : (nalKind codec u.bytes).isSome
  clean : Clean u.bytes

theorem FramedUnit.Valid.ne_nil {u : FramedUnit} (h : u.Valid codec) :
    u.bytes ≠ [] := by
  intro hnil
  have hkind := h.kind
  rw [hnil] at hkind
  cases codec <;> cases hkind

theorem Clean.trimZeros {bytes : List UInt8} (h : Clean bytes) (n : Nat) :
    trimZeros (bytes ++ List.replicate n 0) = bytes := by
  unfold Tools.trimZeros
  rw [rdropWhile,reverse_append,reverse_replicate,List.dropWhile_append,List.dropWhile_replicate]
  simp only [beq_self_eq_true,if_true,isEmpty_nil]
  have hlast : bytes.reverse.head? ≠ some 0 := by
    rw [List.head?_reverse]
    exact h.last
  cases hrev : bytes.reverse with
  | nil => exact (reverse_eq_nil_iff.mp hrev).symm
  | cons a rest =>
    rw [hrev] at hlast
    rw [List.dropWhile_cons_of_neg (by simpa using hlast),← hrev,reverse_reverse]

theorem annexBLoop_round {data : List UInt8} {trailing p : Nat} (fuel : Nat)
    {u : FramedUnit} {units : List FramedUnit} (stats : BitstreamStats)
    (hdrop : data.drop p = byteStream (u :: units) trailing) (hu : u.Valid codec) :
    annexBLoop codec data (fuel + 1) (p + u.lead) u.codeLength stats =
      (addNal codec u.bytes stats).bind fun stats =>
        match firstCode units (p + u.lead + u.codeLength + u.bytes.length) with
        | none => some stats
        | some (start, startLength) => annexBLoop codec data fuel start startLength stats := by
  have hunit := drop_unit hdrop
  have hlength := congrArg List.length hunit
  have hpos := length_pos_iff.mpr hu.ne_nil
  rw [length_drop,length_append] at hlength
  obtain ⟨hnext,hfinish⟩ := next_unit hunit (by omega) hu.clean
  rw [annexBLoop]
  dsimp only
  rw [if_neg (by omega),hfinish,hnext,hunit]
  have htake : (u.bytes ++ byteStream units trailing).take
      (p + u.lead + u.codeLength + u.bytes.length + gapAfter units trailing -
        (p + u.lead + u.codeLength)) =
      u.bytes ++ List.replicate (gapAfter units trailing) 0 := by
    have hsize : p + u.lead + u.codeLength + u.bytes.length + gapAfter units trailing -
        (p + u.lead + u.codeLength) = u.bytes.length + gapAfter units trailing := by
      omega
    rw [hsize,take_length_add_append,byteStream_take]
  rw [htake,hu.clean.trimZeros]
  cases addNal codec u.bytes stats <;> rfl

theorem annexBLoop_tallies {data : List UInt8} {trailing fuel p : Nat}
    {u : FramedUnit} {units : List FramedUnit} {seen : List (List UInt8)} {stats : BitstreamStats}
    (hdrop : data.drop p = byteStream (u :: units) trailing)
    (hvalid : ∀ v ∈ u :: units, v.Valid codec) (hfuel : units.length < fuel)
    (hseen : Tallies codec seen stats) (hroom : seen.length + units.length + 1 < 2 ^ 32) :
    ∃ stats', annexBLoop codec data fuel (p + u.lead) u.codeLength stats = some stats' ∧
    Tallies codec (seen ++ (u :: units).map FramedUnit.bytes) stats' := by
  induction units generalizing u p fuel seen stats with
  | nil =>
    have hu := hvalid u mem_cons_self
    obtain ⟨fuel,rfl⟩ := Nat.exists_eq_succ_of_ne_zero (Nat.ne_zero_of_lt hfuel)
    obtain ⟨kind,hkind⟩ := Option.isSome_iff_exists.mp hu.kind
    rw [annexBLoop_round fuel stats hdrop hu,addNal,hkind]
    exact ⟨_,rfl,hseen.concat hkind hroom⟩
  | cons v units ih =>
    have hu := hvalid u mem_cons_self
    obtain ⟨fuel,rfl⟩ := Nat.exists_eq_succ_of_ne_zero (Nat.ne_zero_of_lt hfuel)
    obtain ⟨kind,hkind⟩ := Option.isSome_iff_exists.mp hu.kind
    rw [length_cons] at hfuel hroom
    have hnext : data.drop (p + u.lead + u.codeLength + u.bytes.length) =
        byteStream (v :: units) trailing := by
      rw [← drop_drop,drop_unit hdrop,drop_left]
    obtain ⟨stats',hloop,htallies⟩ := ih hnext
      (fun w hw => hvalid w (mem_cons_of_mem _ hw)) (Nat.lt_of_succ_lt_succ hfuel)
      (hseen.concat hkind (by omega))
      (by rw [length_append,length_singleton]; omega)
    rw [annexBLoop_round fuel stats hdrop hu,addNal,hkind]
    rw [append_assoc] at htallies
    exact ⟨stats',hloop,htallies⟩

theorem length_le_byteStream (units : List FramedUnit) (trailing : Nat) :
    units.length ≤ (byteStream units trailing).length := by
  induction units with
  | nil => exact Nat.zero_le _
  | cons u units ih =>
    rw [byteStream_cons,length_append,length_cons,length_cons,length_append]
    omega

/-- A byte stream of valid units, with at most three zeros in front of its first start code, is
reported as Annex B with the counts of its units, if the counters have room for them. They are of
32 bits. -/
theorem bitstreamInspect_byteStream_iff {mime : String} {codec : CodecKind} {u : FramedUnit}
    {units : List FramedUnit} (trailing : Nat) (hmime : codecForMime mime = some codec)
    (hvalid : ∀ v ∈ u :: units, v.Valid codec) (hgap : u.gap ≤ 3) :
    (∃ stats, bitstreamInspect mime (byteStream (u :: units) trailing) = .ok stats ∧
    stats.format = .annexB ∧ Tallies codec ((u :: units).map FramedUnit.bytes) stats) ↔
    (u :: units).length < 2 ^ 32 := by
  constructor
  · rintro ⟨stats, -, -,htallies⟩
    have hcount := htallies.nalUnits
    rw [length_map] at hcount
    rw [← hcount]
    exact stats.nalUnits.toNat_lt
  · intro hroom
    have hlead : u.lead ≤ 3 := by
      unfold FramedUnit.lead FramedUnit.zeros
      split <;> omega
    have hlength := length_le_byteStream (u :: units) trailing
    rw [length_cons] at hlength hroom
    obtain ⟨stats,hloop,htallies⟩ := annexBLoop_tallies (p := 0) (drop_zero) hvalid
      (Nat.lt_of_succ_le hlength) (Tallies.nil codec .annexB)
      (by rw [length_nil]; omega)
    rw [Nat.zero_add] at hloop
    rw [nil_append] at htallies
    have hpos : 0 < stats.nalUnits := by
      rw [UInt32.lt_iff_toNat_lt,htallies.nalUnits]
      exact Nat.zero_lt_succ _
    obtain ⟨hfound, -,hzeros⟩ :=
      byteStream_opening units trailing (hvalid u mem_cons_self).ne_nil
    have hannex : tryAnnexB codec (byteStream (u :: units) trailing) = some stats := by
      rw [tryAnnexB,inspectAnnexB,hfound]
      dsimp only
      rw [if_pos hlead,hzeros,hloop,Option.filter_some,if_pos (decide_eq_true hpos)]
      rfl
    refine ⟨stats,?_,tryAnnexB_format hannex,htallies⟩
    rw [bitstreamInspect,if_neg (by omega),hmime]
    dsimp only
    rw [hannex]

/-- Parameter sets and a key slice, with start codes of both lengths and zeros between them. -/
theorem bitstreamInspect_byteStream_iff_threeUnits :
    ∃ stats, bitstreamInspect "video/avc" (byteStream [⟨0,true,[0x67,0x42]⟩,
        ⟨0,false,[0x68,0xce]⟩,⟨2,true,[0x65,0,0,3,0x88]⟩] 1) = .ok stats ∧
      stats.format = .annexB ∧
      Tallies .avc [[0x67,0x42],[0x68,0xce],[0x65,0,0,3,0x88]] stats := by
  have hmime : codecForMime "video/avc" = some .avc := by decide
  refine (bitstreamInspect_byteStream_iff 1 hmime ?_ (by decide)).mpr (by decide)
  intro v hv
  simp only [mem_cons,not_mem_nil,or_false] at hv
  rcases hv with rfl | rfl | rfl <;>
  · exact ⟨by decide,by decide,by decide,by decide⟩

def delimiters : List FramedUnit := List.replicate (2 ^ 32) ⟨0,false,[0x09,0xf0]⟩

/-- No statistics count them. -/
theorem bitstreamInspect_delimiters :
    delimiters.length = 2 ^ 32 ∧ (∀ v ∈ delimiters, v.Valid .avc ∧ v.gap = 0) ∧
    ¬∃ stats, bitstreamInspect "video/avc" (byteStream delimiters 0) = .ok stats ∧
    stats.format = .annexB ∧ Tallies .avc (delimiters.map FramedUnit.bytes) stats := by
  have hlength : delimiters.length = 2 ^ 32 := length_replicate
  refine ⟨hlength,fun v hv => ?_,?_⟩
  · rw [eq_of_mem_replicate hv]
    exact ⟨⟨by decide,by decide,by decide,by decide⟩,rfl⟩
  · rintro ⟨stats, -, -,htallies⟩
    have hlt := stats.nalUnits.toNat_lt
    rw [htallies.nalUnits,length_map,hlength] at hlt
    exact absurd hlt (Nat.lt_irrefl _)
end LinDeX.Tools
