import LinDeX.Protocol.Wire
import LinDeX.Tools.StartCode

/-!
# Splitting an Annex B stream into frames

`advc_avc_annexb_split_single_slice_stream` cuts a stream of one slice for each picture into the
parameter sets at its head and one frame for each slice.
-/
namespace LinDeX.Tools
open List Option
def maxSmokeFrames : Nat := 256

structure AnnexBFrame where
  (offset size : Nat)
  keyFrame : Bool
  deriving DecidableEq, Repr

structure AnnexBStream where
  (configOffset configSize : Nat)
  frames : List AnnexBFrame
  deriving DecidableEq, Repr

/-- The stream so far and the variables of the loop; `frame_start` is `SIZE_MAX` at first. -/
structure SplitState extends AnnexBStream where
  frameStart : Option Nat
  (sawSps sawPps sawVcl firstVcl currentKey : Bool)
  deriving DecidableEq, Repr

def SplitState.init : SplitState :=
  { configOffset := 0, configSize := 0, frames := [], frameStart := none, sawSps := false
    sawPps := false, sawVcl := false, firstVcl := true, currentKey := false }

def IsVcl (type : UInt8) : Prop := 1 ≤ type ∧ type ≤ 5
instance (type : UInt8) : Decidable (IsVcl type) := inferInstanceAs (Decidable (_ ∧ _))
def SplitState.beginning (s : SplitState) (start : Nat) : SplitState :=
  { s with frameStart := some start, configOffset := 0, configSize := start }

def beginFrames (s : SplitState) (start : Nat) (type : UInt8) : Option SplitState :=
  if s.frameStart ≠ none then some s
  else if type = 7 then some { s with sawSps := true }
  else if type = 8 then some { s with sawPps := true }
  else if !s.sawSps || !s.sawPps then none
  else some (s.beginning start)

def endFrame (s : SplitState) (start : Nat) : Option SplitState :=
  if !s.sawVcl then some s
  else if maxSmokeFrames ≤ s.frames.length then none
  else
    let frameStart := s.frameStart.getD 0
    some { s with
      frames := s.frames ++ [⟨frameStart,start - frameStart,s.currentKey⟩]
      frameStart := some start
      currentKey := false }

def splitUnit (s : SplitState) (start : Nat) (type : UInt8) : Option SplitState := do
  let s ← beginFrames s start type
  if IsVcl type then
    if s.firstVcl ∧ type ≠ 5 then none
    else
      let s ← endFrame s start
      return { s with currentKey := s.currentKey || type == 5, sawVcl := true, firstVcl := false }
  else return s

def splitLoop (data : List UInt8) : Nat → Nat → Nat → SplitState → Option SplitState
  | 0, _, _, _ => none
  | fuel + 1, start, startLength, s => do
      let header := start + startLength
      if data.length ≤ header then none
      else
        let next := findStartCode (data.drop (header + 1)) (header + 1)
        let finish := (next.map Prod.fst).getD data.length
        let type := data.getD header 0 &&& 0x1f
        if finish ≤ header + 1 ∨ data.getD header 0 &&& 0x80 ≠ 0 then none
        else if type = 0 ∨ 23 < type then none
        else
          let s ← splitUnit s start type
          match next with
          | none => return s
          | some (start, startLength) => splitLoop data fuel start startLength s

def splitSingleSliceStream (data : List UInt8) : Except Errno AnnexBStream :=
  match findStartCode data 0 with
  | none => .error .einval
  | some (start, startLength) =>
    if data.length < 4 ∨ (data.take start).any (· != 0) then .error .einval
    else
      match splitLoop data data.length start startLength SplitState.init with
      | none => .error .einval
      | some s =>
        match s.frameStart with
        | none => .error .einval
        | some frameStart =>
          if !s.sawVcl ∨ data.length ≤ frameStart ∨ maxSmokeFrames ≤ s.frames.length then
            .error .einval
          else
            .ok { s.toAnnexBStream with
              frames := s.frames ++
                [⟨frameStart,data.length - frameStart,s.currentKey⟩] }

structure NalUnit where
  start : Nat
  header : UInt8
  deriving DecidableEq, Repr

def NalUnit.type (u : NalUnit) : UInt8 := u.header &&& 0x1f

def unitsFrom (data : List UInt8) : Nat → Nat → Nat → List NalUnit
  | 0, _, _ => []
  | fuel + 1, start, startLength =>
    ⟨start,data.getD (start + startLength) 0⟩ ::
      match findStartCode (data.drop (start + startLength + 1)) (start + startLength + 1) with
      | none => []
      | some (start, startLength) => unitsFrom data fuel start startLength

def nalUnits (data : List UInt8) : List NalUnit :=
  match findStartCode data 0 with
  | none => []
  | some (start, startLength) => unitsFrom data data.length start startLength

def splitUnits (s : SplitState) (units : List NalUnit) : Option SplitState :=
  units.foldlM (fun s u => splitUnit s u.start u.type) s
variable {s s' t : SplitState} {u : NalUnit}
theorem splitLoop_units {data : List UInt8} {fuel start startLength : Nat}
    (h : splitLoop data fuel start startLength s = some t) :
    splitUnits s (unitsFrom data fuel start startLength) = some t ∧
    ∀ u ∈ unitsFrom data fuel start startLength, u.start < data.length := by
  induction fuel generalizing start startLength s with
  | zero => cases h
  | succ fuel ih =>
    rw [splitLoop] at h
    dsimp only at h
    split at h
    · cases h
    rename_i hheader
    split at h
    · cases h
    split at h
    · cases h
    obtain ⟨s',hunit,h⟩ := bind_eq_some_iff.mp h
    rw [unitsFrom,splitUnits,List.foldlM_cons]
    have hstart : start < data.length := by omega
    cases hnext : findStartCode (data.drop (start + startLength + 1)) (start + startLength + 1) with
    | none =>
      rw [hnext] at h
      cases h
      refine ⟨by rw [NalUnit.type,hunit]; rfl,fun u hu => ?_⟩
      rw [mem_singleton.mp hu]
      exact hstart
    | some next =>
      rw [hnext] at h
      obtain ⟨hrest,hbound⟩ := ih h
      exact ⟨by rw [NalUnit.type,hunit]; exact hrest,forall_mem_cons.mpr ⟨hstart,hbound⟩⟩

theorem unitsFrom_sorted (data : List UInt8) (fuel start startLength : Nat) :
    (unitsFrom data fuel start startLength).Pairwise (fun u v => u.start < v.start) ∧
    ∀ u ∈ unitsFrom data fuel start startLength, start ≤ u.start := by
  induction fuel generalizing start startLength with
  | zero => exact ⟨.nil,nofun⟩
  | succ fuel ih =>
    rw [unitsFrom]
    cases hnext : findStartCode (data.drop (start + startLength + 1)) (start + startLength + 1) with
    | none =>
      refine ⟨pairwise_singleton _ _,fun u hu => ?_⟩
      exact mem_singleton.mp hu ▸ Nat.le_refl _
    | some next =>
      obtain ⟨hsorted,hbound⟩ := ih next.1 next.2
      have hle := (findStartCode_some hnext).1
      refine ⟨pairwise_cons.mpr ⟨fun v hv => ?_,hsorted⟩,fun u hu => ?_⟩
      · have := hbound v hv
        change start < v.start
        omega
      · rcases mem_cons.mp hu with rfl | hu
        · exact Nat.le_refl _
        · have := hbound u hu
          omega

structure Group where
  slice : NalUnit
  others : List NalUnit

def Group.units (g : Group) : List NalUnit := g.slice :: g.others

structure Group.WellFormed (g : Group) : Prop where
  slice : IsVcl g.slice.type
  others : ∀ u ∈ g.others, ¬IsVcl u.type

def NalUnit.isKey (u : NalUnit) : Bool := u.type == 5

/-- Frames that end where the slice of the next group starts: the first one starts at `offset`. -/
def framesFrom (offset : Nat) (key : Bool) (finish : Nat) : List Group → List AnnexBFrame
  | [] => [⟨offset,finish - offset,key⟩]
  | g :: groups =>
    ⟨offset,g.slice.start - offset,key⟩ ::
      framesFrom g.slice.start g.slice.isKey finish groups

def SplitState.finished (s : SplitState) (finish : Nat) : List AnnexBFrame :=
  s.frames ++ [⟨s.frameStart.getD 0,finish - s.frameStart.getD 0,s.currentKey⟩]

theorem splitUnits_cons {units : List NalUnit} (h : splitUnits s (u :: units) = some t) :
    ∃ s', splitUnit s u.start u.type = some s' ∧ splitUnits s' units = some t := by
  rw [splitUnits,List.foldlM_cons] at h
  exact bind_eq_some_iff.mp h

theorem splitUnit_other {start : Nat} {type : UInt8} (htype : ¬IsVcl type)
    (h : splitUnit s start type = some s') : beginFrames s start type = some s' := by
  obtain ⟨s1,hbegin,h⟩ := bind_eq_some_iff.mp h
  rw [if_neg htype] at h
  rw [hbegin,← h]
  rfl

section
variable {start offset : Nat} {type : UInt8}
theorem beginFrames_started (hstart : s.frameStart = some offset) :
    beginFrames s start type = some s := by
  rw [beginFrames,if_pos (by rw [hstart]; nofun)]

theorem splitUnit_vcl (htype : IsVcl type) (hstart : s.frameStart = some offset)
    (h : splitUnit s start type = some s') :
    ∃ e, endFrame s start = some e ∧ s' = { e with
      currentKey := e.currentKey || type == 5, sawVcl := true, firstVcl := false } := by
  rw [splitUnit,beginFrames_started hstart,Option.bind_eq_bind,Option.bind_some,if_pos htype] at h
  split at h
  · cases h
  obtain ⟨e,hframe,h⟩ := bind_eq_some_iff.mp h
  cases h
  exact ⟨e,hframe,rfl⟩

theorem splitUnit_slice
    (htype : IsVcl type) (hstart : s.frameStart = some offset) (hvcl : s.sawVcl = true)
    (h : splitUnit s start type = some s') :
    s' = { s with
      frames := s.frames ++ [⟨offset,start - offset,s.currentKey⟩]
      frameStart := some start, currentKey := type == 5, sawVcl := true, firstVcl := false } := by
  obtain ⟨e,hframe,rfl⟩ := splitUnit_vcl htype hstart h
  rw [endFrame,hvcl,if_neg (by decide)] at hframe
  split at hframe
  · cases hframe
  cases hframe
  simp [hstart]

theorem splitUnit_firstSlice (htype : IsVcl type) (hstart : s.frameStart = some offset)
    (hvcl : s.sawVcl = false)
    (hkey : s.currentKey = false) (h : splitUnit s start type = some s') :
    s' = { s with currentKey := type == 5, sawVcl := true, firstVcl := false } := by
  obtain ⟨e,hframe,rfl⟩ := splitUnit_vcl htype hstart h
  rw [endFrame,hvcl] at hframe
  cases hframe
  rw [hkey,Bool.false_or]
end

variable {units : List NalUnit}
theorem splitUnits_slices {offset : Nat}
    (hstart : s.frameStart = some offset) (hvcl : s.sawVcl = true)
    (h : splitUnits s units = some t) (finish : Nat) :
    ∃ others groups, units = others ++ groups.flatMap Group.units ∧
    (∀ u ∈ others, ¬IsVcl u.type) ∧ (∀ g ∈ groups, g.WellFormed) ∧
    t.configOffset = s.configOffset ∧ t.configSize = s.configSize ∧
    t.finished finish = s.frames ++ framesFrom offset s.currentKey finish groups := by
  induction units generalizing s offset with
  | nil =>
    cases h
    refine ⟨[],[],rfl,nofun,nofun,rfl,rfl,?_⟩
    rw [SplitState.finished,hstart]
    rfl
  | cons u units ih =>
    obtain ⟨s',hunit,hrest⟩ := splitUnits_cons h
    by_cases htype : IsVcl u.type
    · rw [splitUnit_slice htype hstart hvcl hunit] at hrest
      obtain ⟨others,groups,rfl,hothers,hgroups,hoffset,hsize,hfinished⟩ := ih rfl rfl hrest
      refine ⟨[],⟨u,others⟩ :: groups,rfl,nofun,?_,hoffset,hsize,?_⟩
      · exact forall_mem_cons.mpr ⟨⟨htype,hothers⟩,hgroups⟩
      · rw [hfinished,append_assoc]
        rfl
    · have hbegin := splitUnit_other htype hunit
      rw [beginFrames_started hstart] at hbegin
      cases hbegin
      obtain ⟨others,groups,rfl,hothers,hgroups,hends⟩ := ih hstart hvcl hrest
      exact ⟨u :: others,groups,rfl,forall_mem_cons.mpr ⟨htype,hothers⟩,hgroups,hends⟩

theorem splitUnits_firstFrame {offset : Nat}
    (hstart : s.frameStart = some offset) (hvcl : s.sawVcl = false)
    (hkey : s.currentKey = false) (h : splitUnits s units = some t) (hend : t.sawVcl = true)
    (finish : Nat) :
    ∃ lead first groups, units = lead ++ (first :: groups).flatMap Group.units ∧
    (∀ u ∈ lead, ¬IsVcl u.type) ∧ (∀ g ∈ first :: groups, g.WellFormed) ∧
    t.configOffset = s.configOffset ∧ t.configSize = s.configSize ∧
    t.finished finish = s.frames ++ framesFrom offset first.slice.isKey finish groups := by
  induction units generalizing s with
  | nil =>
    cases h
    rw [hvcl] at hend
    cases hend
  | cons u units ih =>
    obtain ⟨s',hunit,hrest⟩ := splitUnits_cons h
    by_cases htype : IsVcl u.type
    · rw [splitUnit_firstSlice htype hstart hvcl hkey hunit] at hrest
      obtain ⟨others,groups,rfl,hothers,hgroups,hends⟩ :=
        splitUnits_slices (by exact hstart) (by rfl) hrest finish
      exact ⟨[],⟨u,others⟩,groups,rfl,nofun,forall_mem_cons.mpr ⟨⟨htype,hothers⟩,hgroups⟩,hends⟩
    · have hbegin := splitUnit_other htype hunit
      rw [beginFrames_started hstart] at hbegin
      cases hbegin
      obtain ⟨lead,first,groups,rfl,hlead,hends⟩ := ih hstart hvcl hkey hrest
      exact ⟨u :: lead,first,groups,rfl,forall_mem_cons.mpr ⟨htype,hlead⟩,hends⟩

def NalUnit.isSet (u : NalUnit) : Bool := u.type == 7 || u.type == 8

theorem NalUnit.not_isVcl_of_isSet (h : u.isSet = true) : ¬IsVcl u.type := by
  simp only [isSet,Bool.or_eq_true,beq_iff_eq] at h
  rcases h with h | h <;> rw [h] <;> decide

structure Division (units : List NalUnit) where
  (config lead : List NalUnit)
  first : Group
  groups : List Group
  units_eq : units = config ++ (lead ++ (first :: groups).flatMap Group.units)
  config_sets : ∀ u ∈ config, u.isSet = true
  boundary : ∀ u ∈ (lead ++ first.units).head?, u.isSet = false
  lead_other : ∀ u ∈ lead, ¬IsVcl u.type
  wellFormed : ∀ g ∈ first :: groups, g.WellFormed

def Division.offset {units : List NalUnit} (d : Division units) : Nat :=
  ((d.lead ++ d.first.units).head?.map NalUnit.start).getD 0

theorem splitUnit_begin (hstart : s.frameStart = none) (h : splitUnit s u.start u.type = some s') :
    (u.isSet = true ∧ ∃ sps pps, s' = { s with sawSps := sps, sawPps := pps }) ∨
      u.isSet = false ∧ splitUnit (s.beginning u.start) u.start u.type = some s' := by
  have hfirst : ¬s.frameStart ≠ none := not_not.mpr hstart
  cases hset : u.isSet with
  | true =>
    have hbegin := splitUnit_other (NalUnit.not_isVcl_of_isSet hset) h
    rw [beginFrames,if_neg hfirst] at hbegin
    split at hbegin
    · cases hbegin
      exact .inl ⟨rfl,true,s.sawPps,rfl⟩
    next hsps =>
      rw [if_pos (by simpa [NalUnit.isSet,hsps] using hset)] at hbegin
      cases hbegin
      exact .inl ⟨rfl,s.sawSps,true,rfl⟩
  | false =>
    refine .inr ⟨rfl,?_⟩
    simp only [NalUnit.isSet,Bool.or_eq_false_iff,beq_eq_false_iff_ne] at hset
    obtain ⟨s1,hbegin,h⟩ := bind_eq_some_iff.mp h
    rw [beginFrames,if_neg hfirst,if_neg hset.1,if_neg hset.2] at hbegin
    split at hbegin
    · cases hbegin
    cases hbegin
    rw [splitUnit,beginFrames_started (s := s.beginning u.start) rfl]
    exact h

theorem splitUnits_division
    (hstart : s.frameStart = none) (hvcl : s.sawVcl = false) (hkey : s.currentKey = false)
    (hframes : s.frames = []) (h : splitUnits s units = some t) (hend : t.sawVcl = true)
    (finish : Nat) :
    ∃ d : Division units, t.configOffset = 0 ∧ t.configSize = d.offset ∧
    t.finished finish = framesFrom d.offset d.first.slice.isKey finish d.groups := by
  induction units generalizing s with
  | nil =>
    cases h
    rw [hvcl] at hend
    cases hend
  | cons u units ih =>
    obtain ⟨s',hunit,hrest⟩ := splitUnits_cons h
    rcases splitUnit_begin hstart hunit with ⟨hset,sps,pps,rfl⟩ | ⟨hset,hbegin⟩
    · obtain ⟨d,hends⟩ :=
        ih (by exact hstart) (by exact hvcl) (by exact hkey) (by exact hframes) hrest
      exact ⟨⟨u :: d.config,d.lead,d.first,d.groups,congrArg (u :: ·) d.units_eq,
        forall_mem_cons.mpr ⟨hset,d.config_sets⟩,d.boundary,d.lead_other,d.wellFormed⟩,hends⟩
    · have hall : splitUnits (s.beginning u.start) (u :: units) = some t := by
        rw [splitUnits,List.foldlM_cons]
        exact bind_eq_some_iff.mpr ⟨s',hbegin,hrest⟩
      obtain ⟨lead,first,groups,heq,hlead,hgroups,hoffset,hsize,hfinished⟩ :=
        splitUnits_firstFrame (by rfl) (by exact hvcl) (by exact hkey) hall hend finish
      have hhead : (lead ++ first.units).head? = some u := by
        rw [List.flatMap_cons,← append_assoc] at heq
        cases hchunk : lead ++ first.units with
        | nil => cases lead <;> cases hchunk
        | cons v rest =>
          rw [hchunk,cons_append] at heq
          rw [(List.cons.inj heq).1]
          rfl
      have hboundary : ∀ v ∈ (lead ++ first.units).head?, v.isSet = false := fun v hv => by
        rwa [← Option.some.inj (hhead.symm.trans hv)]
      have hstart : ((lead ++ first.units).head?.map NalUnit.start).getD 0 = u.start := by
        rw [hhead]
        rfl
      refine ⟨⟨[],lead,first,groups,heq,nofun,hboundary,hlead,hgroups⟩,hoffset,?_,?_⟩
      · exact hsize.trans hstart.symm
      · rw [hfinished,Division.offset,hstart]
        change s.frames ++ _ = _
        rw [hframes,nil_append]

def AnnexBFrame.Holds (f : AnnexBFrame) (u : NalUnit) : Prop :=
  f.offset ≤ u.start ∧ u.start < f.offset + f.size

def Tiles : Nat → List AnnexBFrame → Nat → Prop
  | offset, [], finish => offset = finish
  | offset, f :: frames, finish =>
    f.offset = offset ∧ 0 < f.size ∧ Tiles (offset + f.size) frames finish

structure SliceOf (units : List NalUnit) (f : AnnexBFrame) (v : NalUnit) : Prop where
  mem : v ∈ units
  holds : f.Holds v
  slice : IsVcl v.type
  only : ∀ u ∈ units, f.Holds u → IsVcl u.type → u = v
  key : f.keyFrame = true ↔ v.type = 5

theorem Tiles.exists_holds {offset finish : Nat} {frames : List AnnexBFrame}
    (h : Tiles offset frames finish) (hoffset : offset ≤ u.start)
    (hfinish : u.start < finish) : ∃ f ∈ frames, f.Holds u := by
  induction frames generalizing offset with
  | nil =>
    have hend : offset = finish := h
    omega
  | cons f frames ih =>
    obtain ⟨rfl, -,hrest⟩ := h
    by_cases hin : u.start < f.offset + f.size
    · exact ⟨f,mem_cons_self,hoffset,hin⟩
    · obtain ⟨g,hg,hholds⟩ := ih hrest (by omega)
      exact ⟨g,mem_cons_of_mem _ hg,hholds⟩

theorem framesFrom_spec {g : Group} {groups : List Group} {offset finish : Nat}
    (hsorted : (g :: groups).Pairwise fun a b => a.slice.start < b.slice.start)
    (hoffset : offset ≤ g.slice.start) (hfinish : ∀ a ∈ g :: groups, a.slice.start < finish) :
    Tiles offset (framesFrom offset g.slice.isKey finish groups) finish ∧
    ∀ f ∈ framesFrom offset g.slice.isKey finish groups, offset ≤ f.offset ∧
    ∃ a ∈ g :: groups, f.Holds a.slice ∧ f.keyFrame = a.slice.isKey ∧
    (∀ b ∈ g :: groups, f.Holds b.slice → b.slice = a.slice) ∧
    (f.offset = offset ∨ f.offset = a.slice.start) := by
  induction groups generalizing g offset with
  | nil =>
    have hlast := hfinish g mem_cons_self
    refine ⟨⟨rfl,?_,?_⟩,fun f hf => ?_⟩
    · change 0 < finish - offset
      omega
    · change offset + (finish - offset) = finish
      omega
    · rw [mem_singleton.mp hf]
      refine ⟨Nat.le_refl _,g,mem_cons_self,⟨hoffset,?_⟩,rfl,fun b hb _ => ?_,.inl rfl⟩
      · change g.slice.start < offset + (finish - offset)
        omega
      · rw [mem_singleton.mp hb]
  | cons next groups ih =>
    obtain ⟨hfirst,hrest⟩ := pairwise_cons.mp hsorted
    have hnext := hfirst next mem_cons_self
    obtain ⟨htiles,hframes⟩ := ih hrest (Nat.le_refl _)
      fun a ha => hfinish a (mem_cons_of_mem _ ha)
    refine ⟨⟨rfl,?_,?_⟩,fun f hf => ?_⟩
    · change 0 < next.slice.start - offset
      omega
    · change Tiles (offset + (next.slice.start - offset)) _ finish
      have hsum : offset + (next.slice.start - offset) = next.slice.start := by omega
      rw [hsum]
      exact htiles
    · rcases mem_cons.mp hf with rfl | hf
      · refine ⟨Nat.le_refl _,g,mem_cons_self,⟨hoffset,?_⟩,rfl,fun b hb hholds => ?_,.inl rfl⟩
        · change g.slice.start < offset + (next.slice.start - offset)
          omega
        · rcases mem_cons.mp hb with rfl | hb
          · rfl
          · -- the other slices start where the frame ends, or later
            have hlater : next.slice.start ≤ b.slice.start := by
              rcases mem_cons.mp hb with rfl | hb
              · exact Nat.le_refl _
              · exact Nat.le_of_lt ((pairwise_cons.mp hrest).1 b hb)
            have hbefore : b.slice.start < offset + (next.slice.start - offset) := hholds.2
            omega
      · obtain ⟨hle,a,ha,hholds,hkey,honly,hstart⟩ := hframes f hf
        refine ⟨by omega,a,mem_cons_of_mem _ ha,hholds,hkey,fun b hb hb' => ?_,?_⟩
        · rcases mem_cons.mp hb with rfl | hb
          · have hbefore := hb'.1
            omega
          · exact honly b hb hb'
        · rcases hstart with hstart | hstart
          · right
            have heq : a.slice = next.slice :=
              (honly next mem_cons_self ⟨Nat.le_of_eq hstart,by
                have := hholds.1
                have := hholds.2
                omega⟩).symm
            rw [hstart,heq]
          · exact .inr hstart

section
variable {units : List NalUnit}
abbrev Sorted (units : List NalUnit) : Prop := units.Pairwise fun u v => u.start < v.start

theorem Sorted.rel {R : NalUnit → NalUnit → Prop} (hsorted : Sorted units)
    (h : units.Pairwise R) {u v : NalUnit} (hu : u ∈ units) (hv : v ∈ units)
    (hlt : u.start < v.start) : R u v := by
  refine Pairwise.forall_of_forall_of_flip (R := fun u v => u.start < v.start → R u v)
    (fun _ _ hself => absurd hself (Nat.lt_irrefl _)) (h.imp ?_) (hsorted.imp ?_) hu hv hlt
  · exact fun hR _ => hR
  · exact fun hlt hback => absurd hlt (Nat.lt_asymm hback)

theorem Sorted.eq_of_start (hsorted : Sorted units) {u v : NalUnit} (hu : u ∈ units)
    (hv : v ∈ units) (heq : u.start = v.start) : u = v := by
  refine Pairwise.forall_of_forall_of_flip (R := fun u v => u.start = v.start → u = v)
    (fun _ _ _ => rfl) (hsorted.imp ?_) (hsorted.imp ?_) hu hv heq
  · exact fun hlt heq => absurd heq (Nat.ne_of_lt hlt)
  · exact fun hlt heq => absurd heq (Nat.ne_of_gt hlt)
variable (d : Division units)
theorem Division.slice_mem {g : Group} (hg : g ∈ d.first :: d.groups) : g.slice ∈ units := by
  rw [d.units_eq]
  refine mem_append_right _ (mem_append_right _ ?_)
  exact mem_flatMap.mpr ⟨g,hg,mem_cons_self⟩

theorem Division.eq_slice {u : NalUnit} (hu : u ∈ units) (htype : IsVcl u.type) :
    ∃ g ∈ d.first :: d.groups, u = g.slice := by
  rw [d.units_eq] at hu
  rcases mem_append.mp hu with hu | hu
  · exact absurd htype (NalUnit.not_isVcl_of_isSet (d.config_sets u hu))
  rcases mem_append.mp hu with hu | hu
  · exact absurd htype (d.lead_other u hu)
  obtain ⟨g,hg,hu⟩ := mem_flatMap.mp hu
  rcases mem_cons.mp hu with rfl | hu
  · exact ⟨g,hg,rfl⟩
  · exact absurd htype ((d.wellFormed g hg).others u hu)

theorem slices_sublist (groups : List Group) :
    (groups.map Group.slice).Sublist (groups.flatMap Group.units) := by
  induction groups with
  | nil => exact .slnil
  | cons g groups ih =>
    rw [map_cons,List.flatMap_cons]
    exact ((nil_sublist g.others).append ih).cons_cons g.slice

theorem Division.slices_sorted (hsorted : Sorted units) :
    (d.first :: d.groups).Pairwise fun a b => a.slice.start < b.slice.start := by
  have hsub : ((d.first :: d.groups).map Group.slice).Sublist units := by
    have hall := (slices_sublist (d.first :: d.groups)).trans
      ((sublist_append_right d.lead _).trans (sublist_append_right d.config _))
    rwa [← d.units_eq] at hall
  have hslices : ((d.first :: d.groups).map Group.slice).Pairwise fun u v => u.start < v.start :=
    hsorted.sublist hsub
  rwa [pairwise_map] at hslices

theorem Division.offset_le (hsorted : Sorted units) : d.offset ≤ d.first.slice.start := by
  have hchunk : Sorted (d.lead ++ d.first.units) := by
    have hall : (d.lead ++ d.first.units).Sublist
        (d.config ++ (d.lead ++ (d.first :: d.groups).flatMap Group.units)) := by
      rw [List.flatMap_cons,← append_assoc d.lead]
      exact (sublist_append_left _ _).trans (sublist_append_right _ _)
    rw [← d.units_eq] at hall
    exact hsorted.sublist hall
  rw [Division.offset]
  cases hlead : d.lead with
  | nil => exact Nat.le_refl _
  | cons u lead =>
    rw [hlead] at hchunk
    exact Nat.le_of_lt ((pairwise_cons.mp hchunk).1 d.first.slice
      (mem_append_right _ mem_cons_self))

/-- The first frame starts with the first unit that is no parameter set. -/
theorem Division.offset_eq : (units.find? (!·.isSet)).map NalUnit.start = some d.offset := by
  obtain ⟨u,rest,hrest⟩ : ∃ u rest, d.lead ++ d.first.units = u :: rest :=
    exists_cons_of_ne_nil (by simp [Group.units])
  have hset := d.boundary u (by rw [hrest]; rfl)
  have hunits : units = d.config ++ (u :: rest ++ d.groups.flatMap Group.units) :=
    d.units_eq.trans (by rw [List.flatMap_cons,← append_assoc d.lead,hrest])
  have hconfig : d.config.find? (!·.isSet) = none :=
    find?_eq_none.mpr fun v hv => by simp [d.config_sets v hv]
  rw [Division.offset,hrest,hunits,find?_append,hconfig,cons_append,
    find?_cons_of_pos (by simp [hset])]
  rfl

theorem Division.frames_spec (hsorted : Sorted units) {finish : Nat}
    (hfinish : ∀ u ∈ units, u.start < finish) :
    Tiles d.offset (framesFrom d.offset d.first.slice.isKey finish d.groups) finish ∧
    ∀ f ∈ framesFrom d.offset d.first.slice.isKey finish d.groups,
      ∃ v, SliceOf units f v ∧ (f.offset = d.offset ∨ f.offset = v.start) := by
  obtain ⟨htiles,hframes⟩ := framesFrom_spec (d.slices_sorted hsorted) (d.offset_le hsorted)
    fun a ha => hfinish _ (d.slice_mem ha)
  refine ⟨htiles,fun f hf => ?_⟩
  obtain ⟨-,a,ha,hholds,hkey,honly,hstart⟩ := hframes f hf
  refine ⟨a.slice,⟨d.slice_mem ha,hholds,(d.wellFormed a ha).slice,fun u hu hu' htype => ?_,?_⟩,
    hstart⟩
  · obtain ⟨b,hb,rfl⟩ := d.eq_slice hu htype
    exact honly b hb hu'
  · rw [hkey]
    exact beq_iff_eq
end

theorem splitSingleSliceStream_ok {data : List UInt8} {stream : AnnexBStream}
    (h : splitSingleSliceStream data = .ok stream) :
    Sorted (nalUnits data) ∧ (∀ u ∈ nalUnits data, u.start < data.length) ∧
    ∃ d : Division (nalUnits data), stream.configOffset = 0 ∧ stream.configSize = d.offset ∧
    stream.frames = framesFrom d.offset d.first.slice.isKey data.length d.groups := by
  unfold splitSingleSliceStream at h
  unfold nalUnits
  split at h
  · cases h
  rename_i start startLength hfound
  split at h
  · cases h
  split at h
  · cases h
  rename_i s hloop
  obtain ⟨hunits,hbound⟩ := splitLoop_units hloop
  split at h
  · cases h
  rename_i frameStart hstart
  split at h
  · cases h
  rename_i hchecks
  simp only [not_or,Bool.not_eq_true',Bool.not_eq_false] at hchecks
  cases h
  obtain ⟨d,hoffset,hsize,hfinished⟩ :=
    splitUnits_division rfl rfl rfl rfl hunits hchecks.1 data.length
  refine ⟨(unitsFrom_sorted ..).1,hbound,d,hoffset,hsize,?_⟩
  rw [SplitState.finished,hstart] at hfinished
  exact hfinished

def SlicesLast (units : List NalUnit) : Prop :=
  units.Pairwise fun u v => IsVcl u.type → IsVcl v.type
instance (units : List NalUnit) : Decidable (SlicesLast units) :=
  inferInstanceAs (Decidable (units.Pairwise _))

/-- The configuration, which consists of the parameter sets at the head, and the frames partition the
data, and every frame has one slice, which comes last in it and tells whether it is a key frame. -/
structure Splits (data : List UInt8) (stream : AnnexBStream) : Prop where
  config : stream.configOffset = 0
  sets : ((nalUnits data).find? (!·.isSet)).map NalUnit.start = some stream.configSize
  tiles : Tiles stream.configSize stream.frames data.length
  frames : ∀ f ∈ stream.frames, ∃ v, SliceOf (nalUnits data) f v ∧
    ∀ u ∈ nalUnits data, f.Holds u → u.start ≤ v.start

def plainStream : List UInt8 :=
  [0,0,0,1,0x67,0x42,0,0,0,1,0x68,0xce,0,0,1,0x06,0x05,0,0,1,0x65,0x88,0,0,1,0x41,0x9a]

def delimitedStream : List UInt8 :=
  [0,0,0,1,0x67,0x42,0,0,0,1,0x68,0xce,0,0,1,0x65,0x88,0,0,1,0x06,0x05,0,0,1,0x41,0x9a]

end LinDeX.Tools
