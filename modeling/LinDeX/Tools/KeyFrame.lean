import LinDeX.Tools.AnnexB
import LinDeX.Tools.ByteStream

/-!
# Splitting off the parameter sets of a key frame

`advc_avc_annexb_split` cuts a stream with one key access unit into the parameter sets at its head
and the rest. A unit that is only a header passes only with a spare zero behind it.
-/
namespace LinDeX.Tools
open List
structure AnnexBParts where
  (configOffset configSize frameOffset frameSize : Nat)
  deriving DecidableEq, Repr

/-- The variables of the loop; `frame_offset` is `SIZE_MAX` at first. -/
structure PartsState where
  frameOffset : Option Nat
  (sawSps sawPps sawIdr : Bool)
  deriving DecidableEq, Repr

def PartsState.init : PartsState := ⟨none,false,false,false⟩
def besideSlices (type : UInt8) : Bool :=
  type == 6 || type == 9 || type == 10 || type == 11 || type == 12

/-- A round of the loop of `advc_avc_annexb_split`, for the unit of this type that starts here. -/
def partsUnit (s : PartsState) (start : Nat) (type : UInt8) : Option PartsState :=
  match s.frameOffset with
  | none =>
    if type = 7 then some { s with sawSps := true }
    else if type = 8 then some { s with sawPps := true }
    else if type = 5 then
      if !s.sawSps || !s.sawPps then none
      else some { s with frameOffset := some start, sawIdr := true }
    else if besideSlices type then
      if !s.sawSps || !s.sawPps then none else some { s with frameOffset := some start }
    else none
  | some _ =>
    if 1 ≤ type ∧ type ≤ 4 then none
    else if type = 5 then some { s with sawIdr := true }
    else if !besideSlices type then none
    else some s

def partsLoop (data : List UInt8) : Nat → Nat → Nat → PartsState → Option PartsState
  | 0, _, _, _ => none
  | fuel + 1, start, startLength, s => do
      let header := start + startLength
      if data.length ≤ header then none
      else
        let next := findStartCode (data.drop (header + 1)) (header + 1)
        let finish := (next.map Prod.fst).getD data.length
        let type := data.getD header 0 &&& 0x1f
        if finish ≤ header + 1 ∨ data.getD header 0 &&& 0x80 ≠ 0 then none
        else if type = 0 ∨ 23 < type then none
        else
          let s ← partsUnit s start type
          match next with
          | none => return s
          | some (start, startLength) => partsLoop data fuel start startLength s

def avcAnnexBSplit (data : List UInt8) : Except Errno AnnexBParts :=
  if data.length < 4 then .error .einval
  else
    match findStartCode data 0 with
    | none => .error .einval
    | some (start, startLength) =>
      if (data.take start).any (· != 0) then .error .einval
      else
        match partsLoop data data.length start startLength .init with
        | none => .error .einval
        | some s =>
          match s.frameOffset with
          | none => .error .einval
          | some frameOffset =>
            if !s.sawIdr ∨ frameOffset = 0 ∨ data.length ≤ frameOffset then .error .einval
            else .ok ⟨0,frameOffset,frameOffset,data.length - frameOffset⟩

def FramedUnit.type (u : FramedUnit) : UInt8 := u.bytes.headD 0 &&& 0x1f

structure FramedUnit.WellFormed (u : FramedUnit) : Prop where
  ne_nil : u.bytes ≠ []
  forbidden : u.bytes.headD 0 &&& 0x80 = 0
  clean : Clean u.bytes

def EndsBehindHeader : List FramedUnit → Nat → Prop
  | [], _ => True
  | u :: units, trailing =>
    1 < u.bytes.length + gapAfter units trailing ∧ EndsBehindHeader units trailing

/-- All rounds for a list of units of which the first one begins at `p`. -/
def partsUnits (p : Nat) (s : PartsState) : List FramedUnit → Option PartsState
  | [] => some s
  | u :: units =>
    (partsUnit s (p + u.lead) u.type).bind fun s =>
      partsUnits (p + u.encode.length) s units

theorem partsLoop_round {data : List UInt8} {trailing p : Nat} (fuel : Nat) {u : FramedUnit}
    {units : List FramedUnit} (s : PartsState)
    (hdrop : data.drop p = byteStream (u :: units) trailing) (hu : u.WellFormed)
    (htype : u.type ≠ 0 ∧ u.type ≤ 23) :
    partsLoop data (fuel + 1) (p + u.lead) u.codeLength s =
      if 1 < u.bytes.length + gapAfter units trailing then
        (partsUnit s (p + u.lead) u.type).bind fun s =>
          match firstCode units (p + u.encode.length) with
          | none => some s
          | some (start, startLength) => partsLoop data fuel start startLength s
      else none := by
  obtain ⟨header,body,hbytes⟩ := exists_cons_of_ne_nil hu.ne_nil
  have hunit := drop_unit hdrop
  rw [hbytes,cons_append] at hunit
  have hheader : data.getD (p + u.lead + u.codeLength) 0 = header := by
    rw [List.getD_eq_getElem?_getD,← List.head?_drop,hunit]
    rfl
  have hbody : data.drop (p + u.lead + u.codeLength + 1) = body ++ byteStream units trailing := by
    rw [← drop_drop,hunit]
    rfl
  have hlength := congrArg List.length hunit
  rw [length_drop,length_cons] at hlength
  have hclean := hu.clean
  rw [hbytes] at hclean
  obtain ⟨hnext,hfinish⟩ := next_unit hbody (by omega) hclean.tail
  have hcode := u.lead_add_codeLength
  have hencode : p + u.encode.length = p + u.lead + u.codeLength + 1 + body.length := by
    rw [u.encode_eq,length_append,length_replicate,length_cons,hbytes,length_cons]
    omega
  have hkind : u.type = header &&& 0x1f := by rw [FramedUnit.type,hbytes,List.headD_cons]
  have hforbidden : header &&& 0x80 = 0 := by
    have := hu.forbidden
    rwa [hbytes,List.headD_cons] at this
  rw [partsLoop]
  dsimp only
  rw [if_neg (by omega),hheader,hfinish,hnext,← hkind,hencode,hbytes,length_cons]
  by_cases hroom : 1 < body.length + 1 + gapAfter units trailing
  · rw [if_pos hroom,if_neg,if_neg]
    · rfl
    · rintro (hzero | hlarge)
      · exact htype.1 hzero
      · exact absurd hlarge (UInt8.not_lt.mpr htype.2)
    · rintro (hshort | hset)
      · omega
      · exact hset hforbidden
  · rw [if_neg hroom,if_pos (.inl (by omega))]

/-- The loop ends as the rounds do, if every unit ends behind its header, and in an error
otherwise. -/
theorem partsLoop_eq {data : List UInt8} {trailing fuel p : Nat} {u : FramedUnit}
    {units : List FramedUnit} {s : PartsState}
    (hdrop : data.drop p = byteStream (u :: units) trailing)
    (hwf : ∀ v ∈ u :: units, v.WellFormed) (htypes : ∀ v ∈ u :: units, v.type ≠ 0 ∧ v.type ≤ 23)
    (hfuel : units.length < fuel) :
    (EndsBehindHeader (u :: units) trailing →
      partsLoop data fuel (p + u.lead) u.codeLength s = partsUnits p s (u :: units)) ∧
    (¬EndsBehindHeader (u :: units) trailing →
      partsLoop data fuel (p + u.lead) u.codeLength s = none) := by
  induction units generalizing u p fuel s with
  | nil =>
    obtain ⟨fuel,rfl⟩ := Nat.exists_eq_succ_of_ne_zero (Nat.ne_zero_of_lt hfuel)
    rw [partsLoop_round fuel s hdrop (hwf u mem_cons_self) (htypes u mem_cons_self)]
    refine ⟨fun hends => ?_,fun hends => ?_⟩
    · rw [if_pos hends.1]
      rfl
    · exact if_neg fun hroom => hends ⟨hroom,trivial⟩
  | cons v units ih =>
    obtain ⟨fuel,rfl⟩ := Nat.exists_eq_succ_of_ne_zero (Nat.ne_zero_of_lt hfuel)
    have hnext : data.drop (p + u.encode.length) = byteStream (v :: units) trailing := by
      rw [← drop_drop,hdrop,byteStream,List.flatMap_cons,append_assoc,drop_left]
      rfl
    have hrest (s : PartsState) := ih (s := s) hnext
      (fun w hw => hwf w (mem_cons_of_mem _ hw))
      (fun w hw => htypes w (mem_cons_of_mem _ hw)) (Nat.lt_of_succ_lt_succ hfuel)
    rw [partsLoop_round fuel s hdrop (hwf u mem_cons_self) (htypes u mem_cons_self)]
    refine ⟨fun hends => ?_,fun hends => ?_⟩
    · rw [if_pos hends.1,partsUnits]
      exact congrArg _ (funext fun s => (hrest s).1 hends.2)
    · split
      · rename_i hroom
        have hlater : ¬EndsBehindHeader (v :: units) trailing := fun hlater =>
          hends ⟨hroom,hlater⟩
        cases hunit : partsUnit s (p + u.lead) u.type with
        | none => rfl
        | some s' => exact (hrest s').2 hlater
      · rfl

theorem partsUnits_config {p : Nat} {s : PartsState} {config : List FramedUnit}
    (rest : List FramedUnit) (hconfig : ∀ u ∈ config, u.type = 7 ∨ u.type = 8)
    (hstart : s.frameOffset = none) :
    partsUnits p s (config ++ rest) = partsUnits (p + (config.flatMap FramedUnit.encode).length)
        { s with
          sawSps := s.sawSps || config.any fun u => u.type == 7
          sawPps := s.sawPps || config.any fun u => u.type == 8 } rest := by
  induction config generalizing p s with
  | nil => simp
  | cons u config ih =>
    have hrest := fun v hv => hconfig v (mem_cons_of_mem u hv)
    rw [cons_append,partsUnits,partsUnit,hstart]
    rcases hconfig u mem_cons_self with hsps | hpps
    · simp [hsps,ih hrest,Nat.add_assoc]
    · simp [hpps,ih hrest,Nat.add_assoc]

def InFrame (type : UInt8) : Prop := type = 5 ∨ besideSlices type = true

theorem InFrame.cases {type : UInt8} (h : InFrame type) :
    type = 5 ∨ type = 6 ∨ type = 9 ∨ type = 10 ∨ type = 11 ∨ type = 12 := by
  simpa [InFrame,besideSlices,or_assoc] using h

theorem partsUnits_frame {p offset : Nat} {s : PartsState} {frame : List FramedUnit}
    (hframe : ∀ u ∈ frame, InFrame u.type) (hstart : s.frameOffset = some offset) :
    partsUnits p s frame =
      some { s with sawIdr := s.sawIdr || frame.any fun u => u.type == 5 } := by
  induction frame generalizing p s with
  | nil => simp [partsUnits]
  | cons u frame ih =>
    have hrest := fun v hv => hframe v (mem_cons_of_mem u hv)
    rw [partsUnits,partsUnit,hstart]
    rcases (hframe u mem_cons_self).cases with h | h | h | h | h | h <;>
    · simp [h,ih hrest,besideSlices,hstart]

theorem partsUnit_first {type : UInt8} (sawIdr : Bool) (start : Nat) (htype : InFrame type) :
    partsUnit ⟨none,true,true,sawIdr⟩ start type =
      some ⟨some start,true,true,sawIdr || type == 5⟩ := by
  rw [partsUnit]
  rcases htype.cases with rfl | rfl | rfl | rfl | rfl | rfl <;> simp [besideSlices]

theorem partsUnits_keyFrame {config frame : List FramedUnit} {first : FramedUnit}
    (hconfig : ∀ u ∈ config, u.type = 7 ∨ u.type = 8) (hsps : ∃ u ∈ config, u.type = 7)
    (hpps : ∃ u ∈ config, u.type = 8) (hframe : ∀ u ∈ first :: frame, InFrame u.type)
    (hidr : ∃ u ∈ first :: frame, u.type = 5) :
    partsUnits 0 .init (config ++ first :: frame) =
      some ⟨some ((config.flatMap FramedUnit.encode).length + first.lead),true,true,true⟩ := by
  have hany {type : UInt8} {units : List FramedUnit} (h : ∃ u ∈ units, u.type = type) :
      (units.any fun u => u.type == type) = true := by
    obtain ⟨u,hu,htype⟩ := h
    exact any_eq_true.mpr ⟨u,hu,beq_iff_eq.mpr htype⟩
  have hsaw := hany hidr
  rw [any_cons] at hsaw
  have hrest := fun v hv => hframe v (mem_cons_of_mem first hv)
  rw [partsUnits_config (first :: frame) hconfig rfl,hany hsps,hany hpps,Bool.or_true,Nat.zero_add]
  dsimp only [PartsState.init]
  rw [Bool.or_true,partsUnits,partsUnit_first _ _ (hframe first mem_cons_self),Option.bind_some,
    partsUnits_frame hrest rfl]
  rw [Bool.false_or,hsaw]

/-- The split of a key frame: parameter sets, then slices and what stands beside them. It is
accepted, and cut before the first unit that is no parameter set, exactly if every unit is found to
end behind its header. -/
theorem avcAnnexBSplit_keyFrame_iff {config frame : List FramedUnit} (trailing : Nat)
    (hwf : ∀ u ∈ config ++ frame, u.WellFormed)
    (hconfig : ∀ u ∈ config, u.type = 7 ∨ u.type = 8) (hsps : ∃ u ∈ config, u.type = 7)
    (hpps : ∃ u ∈ config, u.type = 8) (hframe : ∀ u ∈ frame, InFrame u.type)
    (hidr : ∃ u ∈ frame, u.type = 5) :
    (∃ parts, avcAnnexBSplit (byteStream (config ++ frame) trailing) = .ok parts ∧
    parts.configOffset = 0 ∧ parts.frameOffset = parts.configSize ∧
    (byteStream (config ++ frame) trailing).take parts.configSize =
      byteStream config (gapAfter frame trailing) ∧
    parts.frameOffset + parts.frameSize = (byteStream (config ++ frame) trailing).length) ↔
    EndsBehindHeader (config ++ frame) trailing := by
  obtain ⟨first,frame,rfl⟩ : ∃ first rest, frame = first :: rest := by
    obtain ⟨u,hu, -⟩ := hidr
    exact exists_cons_of_ne_nil (ne_nil_of_mem hu)
  obtain ⟨sps,config',hhead⟩ : ∃ sps rest, config = sps :: rest := by
    obtain ⟨u,hu, -⟩ := hsps
    exact exists_cons_of_ne_nil (ne_nil_of_mem hu)
  have hrounds := partsUnits_keyFrame hconfig hsps hpps hframe hidr
  -- Where the frame is found, and that it lies inside of the data.
  have hdata : byteStream (config ++ first :: frame) trailing =
      config.flatMap FramedUnit.encode ++ byteStream (first :: frame) trailing := by
    rw [byteStream,List.flatMap_append,append_assoc]
    rfl
  have hlead : (byteStream (first :: frame) trailing).take first.lead =
      List.replicate first.lead 0 := byteStream_take (first :: frame) trailing
  have hinside : first.lead < (byteStream (first :: frame) trailing).length := by
    rw [byteStream_cons,length_append,length_replicate,length_cons]
    unfold FramedUnit.lead
    omega
  have hpositive : 0 < (config.flatMap FramedUnit.encode).length := by
    rw [hhead,List.flatMap_cons,sps.encode_eq,length_append,length_append,length_cons]
    omega
  obtain ⟨hfound,hfour,hzeros⟩ := byteStream_opening (config' ++ first :: frame) trailing
    (hwf sps (by rw [hhead]; exact mem_cons_self)).ne_nil
  rw [← cons_append,← hhead] at hfound hfour hzeros
  have htypes : ∀ v ∈ config ++ first :: frame, v.type ≠ 0 ∧ v.type ≤ 23 := by
    intro v hv
    rcases mem_append.mp hv with hv | hv
    · rcases hconfig v hv with h | h <;> rw [h] <;> decide
    · rcases (hframe v hv).cases with h | h | h | h | h | h <;> rw [h] <;> decide
  have hdrop : (byteStream (config ++ first :: frame) trailing).drop 0 =
      byteStream (sps :: (config' ++ first :: frame)) trailing := by
    rw [drop_zero,hhead,cons_append]
  have hfuel : (config' ++ first :: frame).length <
      (byteStream (config ++ first :: frame) trailing).length := by
    have hle := length_le_byteStream (config ++ first :: frame) trailing
    have hcount := congrArg List.length hhead
    rw [length_append] at hle ⊢
    rw [length_cons] at hcount
    omega
  have hloop := partsLoop_eq (s := .init) hdrop (by rwa [← cons_append,← hhead])
    (by rwa [← cons_append,← hhead]) hfuel
  rw [← cons_append,← hhead,Nat.zero_add,hrounds] at hloop
  rw [avcAnnexBSplit,if_neg (by omega),hfound]
  dsimp only
  rw [if_neg (by rw [hzeros]; decide)]
  constructor
  · rintro ⟨parts,hok, -⟩
    by_contra hends
    rw [hloop.2 hends] at hok
    cases hok
  · intro hends
    rw [hloop.1 hends]
    dsimp only
    rw [if_neg]
    · refine ⟨_,rfl,rfl,rfl,?_,?_⟩
      · rw [hdata,take_length_add_append,hlead]
        rfl
      · dsimp only
        rw [hdata,length_append]
        omega
    · rw [hdata,length_append]
      simp only [Bool.not_true,Bool.false_eq_true,false_or]
      omega

/-- Parameter sets, a slice, and an end of stream with a zero behind it. -/
theorem avcAnnexBSplit_keyFrame_iff_padded :
    ∃ parts, avcAnnexBSplit (byteStream ([⟨0,true,[0x67,0x42]⟩,⟨0,true,[0x68,0xce]⟩] ++
        [⟨0,false,[0x65,0x88]⟩,⟨0,false,[0x0b]⟩]) 1) = .ok parts ∧ parts.configOffset = 0 ∧
      parts.frameOffset = parts.configSize ∧
      (byteStream ([⟨0,true,[0x67,0x42]⟩,⟨0,true,[0x68,0xce]⟩] ++
        [⟨0,false,[0x65,0x88]⟩,⟨0,false,[0x0b]⟩]) 1).take parts.configSize =
        byteStream [⟨0,true,[0x67,0x42]⟩,⟨0,true,[0x68,0xce]⟩] 0 ∧
      parts.frameOffset + parts.frameSize =
        (byteStream ([⟨0,true,[0x67,0x42]⟩,⟨0,true,[0x68,0xce]⟩] ++
          [⟨0,false,[0x65,0x88]⟩,⟨0,false,[0x0b]⟩]) 1).length := by
  refine (avcAnnexBSplit_keyFrame_iff 1 ?_ (by decide) (by decide) (by decide) ?_
    (by decide)).mpr ⟨by decide,by decide,by decide,by decide,trivial⟩
  · intro u hu
    simp only [mem_append,mem_cons,not_mem_nil,or_false] at hu
    rcases hu with (rfl | rfl) | rfl | rfl <;>
    · exact ⟨by decide,by decide,by decide,by decide,by decide⟩
  · intro u hu
    simp only [mem_cons,not_mem_nil,or_false] at hu
    rcases hu with rfl | rfl
    · exact .inl (by decide)
    · exact .inr (by decide)

/-- The same without the zero: the end of stream is nothing but a header, and the key frame is
refused. -/
theorem avcAnnexBSplit_endOfStream :
    avcAnnexBSplit (byteStream ([⟨0,true,[0x67,0x42]⟩,⟨0,true,[0x68,0xce]⟩] ++
      [⟨0,false,[0x65,0x88]⟩,⟨0,false,[0x0b]⟩]) 0) = .error .einval := by
  decide
end LinDeX.Tools
