import LinDeX.Android.MapperMetadata
import Mathlib

/-!
# What the normaliser goes by

The order of the plane layouts and of their components does not matter: a layout has one role. The
name of a component matters up to its first zero byte, as the decoder hands over a C string.
-/
namespace LinDeX.Android
open Bytes
variable {size : UInt64} {found found' : Found} {l l' : PlaneLayout}
  {layouts layouts' : List PlaneLayout}

theorem Found.set_comm {r r' : Role} (h : r ≠ r') :
    (found.set l r).set l' r' = (found.set l' r').set l r := by
  cases r <;> cases r' <;> first | rfl | exact absurd rfl h

private theorem findLayouts_swap :
    findLayouts size found (l :: l' :: layouts) = findLayouts size found (l' :: l :: layouts) := by
  simp only [findLayouts,findLayout_eq]
  cases layoutRole l with
  | none => cases layoutRole l' <;> grind
  | some r =>
    cases layoutRole l' with
    | none => grind
    | some r' =>
      -- one role is refused in either order, and two roles do not meet
      dsimp only [Option.elim]
      by_cases hsame : r = r'
      · grind [Found.get_set]
      · grind [Found.get_set,Found.set_comm]

private theorem findLayouts_perm (h : layouts.Perm layouts') :
    findLayouts size found layouts = findLayouts size found layouts' := by
  induction h generalizing found with
  | nil => rfl
  | cons l _ ih =>
    rw [findLayouts,findLayouts]
    split
    · rfl
    · exact ih
  | swap => exact findLayouts_swap
  | trans _ _ ih ih' => exact ih.trans ih'

/-- The same layout with its components in another order. -/
def Shuffled (l l' : PlaneLayout) : Prop :=
  ∃ components, components.Perm l.components ∧ l' = { l with components }

theorem Shuffled.layoutRole_eq (h : Shuffled l l') :
    layoutRole l' = layoutRole l := by
  obtain ⟨components,hperm,rfl⟩ := h
  have hone : hasOne { l with components } = hasOne l := by
    funext name value offsetBits sizeBits
    rw [hasOne,hasOne,hperm.countP_eq]
  have hy : layoutIsYData { l with components } = layoutIsYData l := by
    rw [layoutIsYData,layoutIsYData,hone,hperm.length_eq]
  have huv : layoutIsUvData { l with components } = layoutIsUvData l := by
    rw [layoutIsUvData,layoutIsUvData,hone,hperm.length_eq]
  have hyMetadata : layoutIsYMetadata { l with components } = layoutIsYMetadata l := by
    simp only [layoutIsYMetadata,layoutHasQtiMetadata,hone,hperm.length_eq]
  have huvMetadata : layoutIsUvMetadata { l with components } = layoutIsUvMetadata l := by
    simp only [layoutIsUvMetadata,layoutHasQtiMetadata,hone,hperm.length_eq]
  rw [layoutRole,layoutRole,hy,huv,hyMetadata,huvMetadata]

/-- What is read of a layout that was found. -/
def PlaneLayout.bare (l : PlaneLayout) : PlaneLayout := { l with components := [] }

def Found.bare (found : Found) : Found :=
  ⟨found.yData.map .bare,found.uvData.map .bare,found.yMetadata.map .bare,
    found.uvMetadata.map .bare⟩

theorem Found.get_bare (r : Role) :
    found.bare.get r = (found.get r).map .bare := by
  cases r <;> rfl

theorem Found.set_bare (r : Role) : (found.set l r).bare = found.bare.set l.bare r := by
  cases r <;> rfl

private theorem findLayout_shuffled (hbare : found.bare = found'.bare) (h : Shuffled l l') :
    (findLayout size found l).map Found.bare = (findLayout size found' l').map Found.bare := by
  have hnone (r : Role) : found.get r = none ↔ found'.get r = none := by
    rw [← Option.map_eq_none_iff (f := PlaneLayout.bare),← Found.get_bare,hbare,Found.get_bare,
      Option.map_eq_none_iff]
  rw [findLayout_eq,findLayout_eq,h.layoutRole_eq]
  obtain ⟨components, -,rfl⟩ := h
  cases layoutRole l with
  | none => rfl
  | some r =>
    simp only [Option.elim_some,hnone r]
    split <;> split
    · rw [Except.map,Except.map,Found.set_bare,Found.set_bare,hbare]
      rfl
    all_goals grind [layoutExtentValid]

private theorem findLayouts_shuffled (hbare : found.bare = found'.bare)
    (h : List.Forall₂ Shuffled layouts layouts') :
    (findLayouts size found layouts).map Found.bare =
    (findLayouts size found' layouts').map Found.bare := by
  induction h generalizing found found' with
  | nil => exact congrArg Except.ok hbare
  | @cons l l' _ _ hl _ ih =>
    have hstep : (findLayout size found l).map _ = _ := findLayout_shuffled hbare hl
    rw [findLayouts,findLayouts]
    cases h : findLayout size found l <;> cases h' : findLayout size found' l' <;>
      simp only [h,h',Except.map,Except.ok.injEq,Except.error.injEq,reduceCtorEq] at hstep
    · rw [hstep]
    · exact ih hstep
variable (a : Nv12Input)
/-- What `advc_mapper_qti_nv12_normalize` makes of the layouts it has found. -/
def imageLayout (found : Found) : Except Errno Nv12Layout :=
  match found.yData, found.uvData, a.crops with
  | some yData, some uvData, crop :: _ =>
    if !dataLayoutsMatch a crop yData uvData then .error .eproto
    else (planeOffsets a found yData uvData).map fun offsets =>
      ⟨offsets.1,UInt32.ofNat a.qtiDataFdTransportIndex.toNat,offsets.2,
        (yData.strideBytes.toUInt32, uvData.strideBytes.toUInt32)⟩
  | _, _, _ => .error .eproto

private theorem qtiNv12Normalize_eq :
    qtiNv12Normalize a = if !a.supported then .error .enotsup
      else (findLayouts a.allocationSize ⟨none,none,none,none⟩ a.layouts).bind (imageLayout a) := by
  unfold qtiNv12Normalize
  split
  · rfl
  cases findLayouts a.allocationSize ⟨none,none,none,none⟩ a.layouts with
  | error e => rfl
  | ok found =>
    dsimp only [Except.bind,imageLayout]
    cases found.yData <;> cases found.uvData <;> cases a.crops <;> try rfl
    rename_i yData uvData crop _
    dsimp only
    split
    · rfl
    · cases planeOffsets a found yData uvData <;> rfl

private theorem imageLayout_bare : imageLayout a found.bare = imageLayout a found := by
  obtain ⟨yData,uvData,yMetadata,uvMetadata⟩ := found
  cases yData <;> cases uvData <;> cases yMetadata <;> cases uvMetadata <;> try rfl
  all_goals
    dsimp only [imageLayout,Found.bare,Option.map]
    cases a.crops <;> rfl

private theorem imageLayout_layouts (hlength : layouts.length = a.layouts.length) :
    imageLayout { a with layouts } = imageLayout a := by
  funext found
  have hoffsets (y uv : PlaneLayout) : planeOffsets { a with layouts } found y uv =
      planeOffsets a found y uv := by
    unfold planeOffsets
    rw [hlength]
  unfold imageLayout
  simp only [hoffsets]
  rfl

/-- The same layouts in another order, each with its components in another order. -/
def Rearranged (layouts layouts' : List PlaneLayout) : Prop :=
  ∃ reordered, reordered.Perm layouts ∧ List.Forall₂ Shuffled reordered layouts'

private theorem bind_imageLayout (x : Except Errno Found) :
    (x.map Found.bare).bind (imageLayout a) = x.bind (imageLayout a) := by
  cases x with
  | error e => rfl
  | ok found => exact imageLayout_bare a

private theorem qtiNv12Normalize_order (h : Rearranged a.layouts layouts) :
    qtiNv12Normalize { a with layouts } = qtiNv12Normalize a := by
  obtain ⟨reordered,hperm,hshuffled⟩ := h
  have hlength := hshuffled.length_eq.symm.trans hperm.length_eq
  rw [qtiNv12Normalize_eq,qtiNv12Normalize_eq,imageLayout_layouts a hlength]
  rw [← bind_imageLayout,← findLayouts_shuffled rfl hshuffled,bind_imageLayout,
    findLayouts_perm hperm]
  rfl

private theorem findLayouts_get {r : Role} (h : findLayouts size found layouts = .ok found')
    (hget : found'.get r = some l) :
    found.get r = some l ∨ l ∈ layouts ∧ layoutRole l = some r ∧ layoutExtentValid l size := by
  induction layouts generalizing found with
  | nil =>
    cases h
    exact .inl hget
  | cons first layouts ih =>
    rw [findLayouts] at h
    split at h
    · cases h
    rename_i next hnext
    obtain ⟨r',hrole,hextent, -,rfl⟩ := findLayout_ok hnext
    rcases ih h with hold | ⟨hmem,hl⟩
    · rw [Found.get_set] at hold
      rcases ite_some_eq hold with ⟨rfl,rfl⟩ | ⟨-,hold⟩
      · exact .inr ⟨List.mem_cons_self,hrole,hextent⟩
      · exact .inl hold
    · exact .inr ⟨List.mem_cons_of_mem _ hmem,hl⟩

def PlaneLayout.endByte (l : PlaneLayout) : Nat := l.offsetBytes.toNat + l.totalSizeBytes.toNat
def PlaneLayout.region (l : PlaneLayout) : Set Nat := Set.Ico l.offsetBytes.toNat l.endByte

/-- A compressed image consists of these regions of its allocation, one behind the other. -/
structure Regions (a : Nv12Input) (layouts : List PlaneLayout) : Prop where
  mem : ∀ l ∈ layouts, l ∈ a.layouts
  contiguous : layouts.IsChain fun l l' => l.endByte = l'.offsetBytes.toNat
  disjoint : layouts.Pairwise fun l l' => Disjoint l.region l'.region
  inside : ∀ l ∈ layouts, l.region ⊆ Set.Iio a.allocationSize.toNat

private theorem regions_of_contiguous
    (hmem : ∀ l ∈ layouts, l ∈ a.layouts ∧ layoutExtentValid l a.allocationSize)
    (hchain : layouts.IsChain fun l l' => l.offsetBytes + l.totalSizeBytes = l'.offsetBytes) :
    Regions a layouts := by
  have hcontiguous : layouts.IsChain fun l l' => l.endByte = l'.offsetBytes.toNat := by
    refine hchain.imp_of_mem_imp fun l l' hl _ h => ?_
    rw [← h,(extent_end (hmem l hl).2).2,PlaneLayout.endByte]
  refine ⟨fun l hl => (hmem l hl).1,hcontiguous,?_,fun l hl => ?_⟩
  · let before (l l' : PlaneLayout) : Prop := l.endByte ≤ l'.offsetBytes.toNat
    have htrans : Trans before before before :=
      ⟨fun h h' => h.trans ((Nat.le_add_right _ _).trans h')⟩
    have hle : layouts.Pairwise before :=
      List.isChain_iff_pairwise.mp (hcontiguous.imp fun _ _ h => h.le)
    exact hle.imp fun h => Set.Ico_disjoint_Ico.mpr (by omega)
  · exact fun x hx => hx.2.trans_le (extent_end (hmem l hl).2).1

/-- The normalisation depends neither on the order of the layouts nor on the order of the components
in them, and the metadata and the data of both planes of a compressed image follow each other in the
allocation. -/
theorem qtiNv12Normalize_rearranged (h : Rearranged a.layouts layouts) :
    qtiNv12Normalize { a with layouts } = qtiNv12Normalize a ∧
    ∀ n, qtiNv12Normalize a = .ok n → a.modifier = drmModQcomCompressed →
      ∃ yMetadata yData uvMetadata uvData,
      layoutRole yMetadata = some .yMetadata ∧ layoutRole yData = some .yData ∧
      layoutRole uvMetadata = some .uvMetadata ∧ layoutRole uvData = some .uvData ∧
      n.planeOffsets = (yMetadata.offsetBytes, uvMetadata.offsetBytes) ∧
      Regions a [yMetadata,yData,uvMetadata,uvData] := by
  refine ⟨qtiNv12Normalize_order a h,fun n hn hmodifier => ?_⟩
  obtain ⟨found,yData,uvData,_,_,hfound,hy,huv, -,hoffsets, -⟩ := qtiNv12Normalize_ok hn
  have hget {r : Role} {l : PlaneLayout} (hl : found.get r = some l) :=
    (findLayouts_get hfound hl).resolve_left (by cases r <;> exact nofun)
  rw [planeOffsets,if_neg (by rw [hmodifier]; decide)] at hoffsets
  split at hoffsets
  · rename_i yMetadata uvMetadata hym huvm
    split at hoffsets
    · cases hoffsets
    rename_i hmatch
    simp only [not_or,Bool.not_eq_false] at hmatch
    obtain ⟨hyStart,huvmStart,huvStart, -⟩ := of_decide_eq_true hmatch.2
    injection hoffsets with hoffsets
    have hyMetadata := hget (r := .yMetadata) hym
    have hyData := hget (r := .yData) hy
    have huvMetadata := hget (r := .uvMetadata) huvm
    have huvData := hget (r := .uvData) huv
    refine ⟨yMetadata,yData,uvMetadata,uvData,hyMetadata.2.1,hyData.2.1,huvMetadata.2.1,
      huvData.2.1,(Prod.mk.inj hoffsets).2.symm,regions_of_contiguous a ?_ ?_⟩
    · simp only [List.mem_cons,List.not_mem_nil,or_false]
      rintro l (rfl | rfl | rfl | rfl)
      exacts [⟨hyMetadata.1,hyMetadata.2.2⟩,⟨hyData.1,hyData.2.2⟩,
        ⟨huvMetadata.1,huvMetadata.2.2⟩,⟨huvData.1,huvData.2.2⟩]
    · exact .cons_cons hyStart (.cons_cons huvmStart (.cons_cons huvStart (.singleton _)))
  · cases hoffsets

def qtiComponent : PlaneComponent := ⟨ascii "QTI",qtiComponentMetadata,0,0⟩

def compressedLayouts : List PlaneLayout :=
  [⟨[⟨ascii standardComponentName,1,0,8⟩],64,8,16,16,16,256,1,1⟩,
    ⟨[⟨ascii standardComponentName,2,0,8⟩,⟨ascii standardComponentName,4,8,8⟩],384,16,16,8,
      8,128,2,2⟩,
    ⟨[qtiComponent,⟨ascii standardComponentName,1,0,0⟩],0,8,8,8,8,64,1,1⟩,
    ⟨[qtiComponent,⟨ascii standardComponentName,2,0,0⟩,⟨ascii standardComponentName,4,0,0⟩],
      320,16,8,4,4,64,2,2⟩]

def compressedImage : Nv12Input :=
  { smallImage 256 with
    modifier := drmModQcomCompressed, layouts := compressedLayouts }

theorem qtiNv12Normalize_rearranged_compressed :
    qtiNv12Normalize { compressedImage with layouts := compressedLayouts.reverse } =
      .ok ⟨.ubwc,0,(0, 320),(16, 16)⟩ ∧
    ∃ l₁ l₂ l₃ l₄, Regions compressedImage [l₁,l₂,l₃,l₄] := by
  have hok : qtiNv12Normalize compressedImage = .ok ⟨.ubwc,0,(0, 320),(16, 16)⟩ := by
    decide +kernel
  have hsame : List.Forall₂ Shuffled compressedLayouts.reverse compressedLayouts.reverse :=
    List.forall₂_same.mpr fun l _ => ⟨_,.refl _,rfl⟩
  obtain ⟨horder,hregions⟩ :=
    qtiNv12Normalize_rearranged compressedImage ⟨_,List.reverse_perm _,hsame⟩
  obtain ⟨l₁,l₂,l₃,l₄, -, -, -, -, -,h⟩ := hregions _ hok rfl
  exact ⟨horder.trans hok,l₁,l₂,l₃,l₄,h⟩

/-- `advc_mapper_metadata_decode_plane_layouts` with the names at their encoded length. -/
def encodedLayouts : List UInt8 → Except Errno (List PlaneLayout) :=
  decodeList 15 (readPlaneLayout id)

/-- What the decoder hands over of a name that may contain zero bytes. -/
def PlaneComponent.terminated (c : PlaneComponent) : PlaneComponent :=
  { c with typeName := cString c.typeName }

def PlaneLayout.terminated (l : PlaneLayout) : PlaneLayout :=
  { l with components := l.components.map .terminated }

private theorem times_map {α β : Type} (f : α → β) (element : Reader α) (count : Nat) :
    times count (f <$> element) = List.map f <$> times count element := by
  induction count with
  | zero => rfl
  | succ count ih => simp only [times,ih,map_bind,bind_map_left,map_pure,List.map_cons]

private theorem readPlaneLayout_eq :
    readPlaneLayout cString = PlaneLayout.terminated <$> readPlaneLayout id := by
  have hcomponent : readComponent cString = PlaneComponent.terminated <$> readComponent id := by
    simp only [readComponent,map_bind,map_pure]
    rfl
  simp only [readPlaneLayout,hcomponent,times_map,bind_map_left,map_bind,map_pure]
  rfl

private theorem decodeList_map {α β : Type} (f : α → β) (metadataType : Int) (element : Reader α)
    (data : List UInt8) : decodeList metadataType (f <$> element) data =
      (decodeList metadataType element data).map (List.map f) := by
  simp only [decodeList,times_map,← map_bind]
  generalize (do
    readHeader metadataType
    let count ← takeInt64
    require (0 < count ∧ count ≤ maxDmabufPlanes)
    times count.toNat element) = reader
  have hmap : (List.map f <$> reader) data = (reader data).map fun r => (r.1.map f, r.2) := by
    cases h : reader data <;> simp [Functor.map,StateT.map,h]
  rw [hmap]
  rcases reader data with _ | ⟨elements,_ | _⟩ <;> rfl

def ZeroFree (l : PlaneLayout) : Prop := ∀ c ∈ l.components, 0 ∉ c.typeName

/-- The name, value, offset and size in bits of the tests that a layout of the role has passed. -/
def tests : Role → List (String × Int × Int × Int)
  | .yData => [(standardComponentName, componentY, 0, 8)]
  | .uvData => [(standardComponentName, componentCb, 0, 8),
      (standardComponentName, componentCr, 8, 8)]
  | .yMetadata => [("QTI", qtiComponentMetadata, 0, 0),(standardComponentName, componentY, 0, 0)]
  | .uvMetadata => [("QTI", qtiComponentMetadata, 0, 0),(standardComponentName, componentCb, 0, 0),
      (standardComponentName, componentCr, 0, 0)]

def passes (c : PlaneComponent) (k : String × Int × Int × Int) : Bool :=
  componentIs c k.1 k.2.1 k.2.2.1 k.2.2.2

private theorem layoutRole_tests {r : Role} (h : layoutRole l = some r) :
    l.components.length = (tests r).length ∧
      ∀ k ∈ tests r, l.components.countP (passes · k) = 1 := by
  unfold layoutRole at h
  repeat' split at h
  all_goals cases h
  all_goals simp_all [layoutIsYData,layoutIsUvData,layoutIsYMetadata,layoutIsUvMetadata,
    layoutHasQtiMetadata,hasOne,tests,passes]

private theorem countP_add_countP {α : Type} {p q : α → Bool} (h : ∀ a, p a → q a = false)
    (l : List α) : l.countP p + l.countP q = l.countP fun a => p a || q a := by
  induction l with
  | nil => rfl
  | cons a l ih => grind

/-- Tests of different values do not share a component. -/
private theorem length_le_countP_passes {ks : List (String × Int × Int × Int)}
    (hvalues : ks.Pairwise fun k k' => k.2.1 ≠ k'.2.1) {cs : List PlaneComponent}
    (h : ∀ k ∈ ks, cs.countP (passes · k) = 1) :
    ks.length ≤ cs.countP fun c => ks.any (passes c) := by
  induction ks with
  | nil => exact Nat.zero_le _
  | cons k ks ih =>
    obtain ⟨hk,hks⟩ := List.pairwise_cons.mp hvalues
    obtain ⟨hone,hrest⟩ := List.forall_mem_cons.mp h
    have hdisjoint (c : PlaneComponent) (hc : passes c k) : ks.any (passes c) = false := by
      refine List.any_eq_false.mpr fun k' hk' hc' => hk k' hk' ?_
      simp only [passes,componentIs,Bool.and_eq_true,beq_iff_eq] at hc hc'
      exact hc.1.1.2.symm.trans hc'.1.1.2
    have hcount := countP_add_countP hdisjoint cs
    rw [hone] at hcount
    rw [List.length_cons,Nat.add_comm]
    exact (Nat.add_le_add_left (ih hks hrest) 1).trans_eq hcount

/-- A layout with a role has one component for each test, so that each has passed one. -/
private theorem zeroFree_of_layoutRole {r : Role} (h : layoutRole l = some r) :
    ZeroFree l := by
  obtain ⟨hlength,hone⟩ := layoutRole_tests h
  have hvalues : (tests r).Pairwise fun k k' => k.2.1 ≠ k'.2.1 := by cases r <;> decide
  have hzero : ∀ k ∈ tests r, 0 ∉ ascii k.1 := by cases r <;> decide
  have hall := hlength.trans_le (length_le_countP_passes hvalues hone)
  intro c hc
  have hpass := List.countP_eq_length.mp (Nat.le_antisymm List.countP_le_length hall) c hc
  obtain ⟨k,hk,hck⟩ := List.any_eq_true.mp hpass
  simp only [passes,componentIs,Bool.and_eq_true,beq_iff_eq] at hck
  rw [hck.1.1.1]
  exact hzero k hk

/-- The layout has its role by the names at their encoded length too. -/
def Exact (l : PlaneLayout) : Prop := ∀ r, layoutRole l.terminated = some r → layoutRole l = some r

theorem ZeroFree.terminated_eq (h : ZeroFree l) : l.terminated = l := by
  have hcomponents : l.components.map .terminated = l.components := by
    refine (List.map_congr_left fun c hc => ?_).trans (List.map_id _)
    have hname : cString c.typeName = c.typeName :=
      List.takeWhile_eq_self_iff.mpr fun b hb => by
        simpa using ne_of_mem_of_not_mem hb (h c hc)
    rw [PlaneComponent.terminated,hname]
    rfl
  rw [PlaneLayout.terminated,hcomponents]

private theorem exact_iff : Exact l ↔ ((layoutRole l.terminated).isSome → ZeroFree l) := by
  constructor
  · intro hexact hsome
    obtain ⟨r,hr⟩ := Option.isSome_iff_exists.mp hsome
    exact zeroFree_of_layoutRole (hexact r hr)
  · intro h r hr
    rwa [← (h (Option.isSome_of_eq_some hr)).terminated_eq]

private theorem findLayouts_role (h : findLayouts size found layouts = .ok found') :
    ∀ l ∈ layouts, (layoutRole l).isSome := by
  induction layouts generalizing found with
  | nil => exact nofun
  | cons first layouts ih =>
    rw [findLayouts] at h
    split at h
    · cases h
    rename_i next hnext
    obtain ⟨r,hrole, -⟩ := findLayout_ok hnext
    exact List.forall_mem_cons.mpr ⟨by rw [hrole]; rfl,ih h⟩

private theorem qtiNv12Normalize_role {layout : Nv12Layout} (h : qtiNv12Normalize a = .ok layout) :
    ∀ l ∈ a.layouts, (layoutRole l).isSome := by
  rw [qtiNv12Normalize_eq] at h
  split at h
  · cases h
  cases hfound : findLayouts a.allocationSize ⟨none,none,none,none⟩ a.layouts with
  | error e =>
    rw [hfound] at h
    cases h
  | ok found => exact findLayouts_role hfound

/-- The decoder cuts the encoded names at their first zero byte, and the tests of the names decide
on the role of a layout. So a layout has a role only by its full names exactly when, if it has one,
no name in it contains a zero byte; in what the normaliser accepts, every layout has one. -/
theorem identified_exactly_iff (data : List UInt8) :
    decodePlaneLayouts data = (encodedLayouts data).map (List.map .terminated) ∧
    ∀ layouts, encodedLayouts data = .ok layouts →
      (∀ l ∈ layouts, Exact l ↔ ((layoutRole l.terminated).isSome → ZeroFree l)) ∧
      ∀ a layout, decodePlaneLayouts data = .ok a.layouts → qtiNv12Normalize a = .ok layout →
        ((∀ l ∈ layouts, Exact l) ↔ ∀ l ∈ layouts, ZeroFree l) := by
  have hdecoded : decodePlaneLayouts data = (encodedLayouts data).map (List.map .terminated) := by
    rw [decodePlaneLayouts,readPlaneLayout_eq,decodeList_map]
    rfl
  refine ⟨hdecoded,fun layouts hlayouts => ⟨fun _ _ => exact_iff,fun a layout ha hok => ?_⟩⟩
  rw [hdecoded,hlayouts] at ha
  have hrole := qtiNv12Normalize_role a hok
  rw [← Except.ok.inj ha] at hrole
  exact forall₂_congr fun l hl => exact_iff.trans
    (forall_prop_of_true (hrole _ (List.mem_map_of_mem hl)))

/-- The layouts of the small image, with a zero byte and an `x` behind one of the names. -/
def longNameBytes : List UInt8 :=
  stringBytes standardMetadataName ++ int64Bytes 15 ++ int64Bytes 2 ++
    (int64Bytes 1 ++ stringBytes (standardComponentName ++ "\x00x") ++
      [1,0,8,0,8,16,16,16,256,1,1].flatMap int64Bytes) ++
    (int64Bytes 2 ++ componentBytes 2 0 ++ componentBytes 4 8 ++
      [256,16,16,8,8,128,2,2].flatMap int64Bytes)

theorem identified_longName :
    decodePlaneLayouts longNameBytes = .ok (smallImage 128).layouts ∧
    qtiNv12Normalize (smallImage 128) = .ok ⟨.linear,0,(0, 256),(16, 16)⟩ ∧
    ∃ layouts, encodedLayouts longNameBytes = .ok layouts ∧ ¬∀ l ∈ layouts, Exact l := by
  have hencoded : encodedLayouts longNameBytes = .ok
      (⟨[⟨ascii standardComponentName ++ [0,120],1,0,8⟩],0,8,16,16,16,256,1,1⟩ ::
        (planeLayouts 128).tail) := by
    decide +kernel
  refine ⟨by decide +kernel,by decide +kernel,_,hencoded,fun h => ?_⟩
  have hrole := h _ List.mem_cons_self .yData (by decide +kernel)
  exact absurd hrole (by decide +kernel)
end LinDeX.Android
