import LinDeX.Protocol.Wire

/-!
# Layouts of NV12 images from mapper metadata

`stable_mapper_metadata.c` decodes plane layouts and crops. It checks the extent of a plane by the
size that its layout states, while an importer goes by offset, stride and number of rows.
-/
namespace LinDeX.Android
open Bytes List
/-- `struct metadata_reader`: the bytes that remain. -/
abbrev Reader := StateT (List UInt8) Option

def take (size : Nat) : Reader (List UInt8) := fun rest =>
  if rest.length < size then none else some (rest.take size, rest.drop size)
def takeInt64 : Reader Int := do return (getU64 (← take 8) 0).toBitVec.toInt
def takeInt32 : Reader Int := do return (getU32 (← take 4) 0).toBitVec.toInt
def require (c : Prop) [Decidable c] : Reader Unit := fun rest => if c then some ((), rest) else none
def standardMetadataName : String := "android.hardware.graphics.common.StandardMetadataType"
def standardComponentName : String := "android.hardware.graphics.common.PlaneLayoutComponentType"

def skipString (requireStandard : Bool) : Reader Unit := do
  let length ← takeInt64
  require (0 ≤ length)
  let text ← take length.toNat
  require (requireStandard = true → text = ascii standardMetadataName)

def readString (valueSize : Nat) : Reader (List UInt8) := do
  let length ← takeInt64
  require (0 ≤ length ∧ length.toNat < valueSize)
  take length.toNat

def readHeader (expectedType : Int) : Reader Unit := do
  skipString true
  let actualType ← takeInt64
  require (actualType = expectedType)

/-- `struct advc_mapper_plane_component`; the name is what stands before its terminating zero. -/
structure PlaneComponent where
  typeName : List UInt8
  (typeValue offsetBits sizeBits : Int)
  deriving DecidableEq, Repr

structure PlaneLayout where
  components : List PlaneComponent
  (offsetBytes sampleIncrementBits strideBytes widthSamples heightSamples totalSizeBytes : UInt64)
  (horizontalSubsampling verticalSubsampling : UInt64)
  deriving DecidableEq, Repr

structure Crop where
  (left top right bottom : Int)
  deriving DecidableEq, Repr

def times {α : Type} (count : Nat) (element : Reader α) : Reader (List α) :=
  match count with
  | 0 => return []
  | count + 1 => do
      let first ← element
      let rest ← times count element
      return first :: rest

/-- A component with its name as `seen` shows the bytes that were copied. -/
def readComponent (seen : List UInt8 → List UInt8) : Reader PlaneComponent := do
  let typeName ← readString 256
  let typeValue ← takeInt64
  let offsetBits ← takeInt64
  let sizeBits ← takeInt64
  return ⟨seen typeName,typeValue,offsetBits,sizeBits⟩

def readField : Reader UInt64 := do
  let value ← takeInt64
  require (0 ≤ value)
  return UInt64.ofInt value

def readPlaneLayout (seen : List UInt8 → List UInt8) : Reader PlaneLayout := do
  let components ← takeInt64
  require (0 ≤ components ∧ components ≤ 16)
  let components ← times components.toNat (readComponent seen)
  let offsetBytes ← readField
  let sampleIncrementBits ← readField
  let strideBytes ← readField
  let widthSamples ← readField
  let heightSamples ← readField
  let totalSizeBytes ← readField
  let horizontalSubsampling ← readField
  let verticalSubsampling ← readField
  require (strideBytes ≠ 0 ∧ strideBytes ≤ 0xffffffff ∧ totalSizeBytes ≠ 0)
  return ⟨components,offsetBytes,sampleIncrementBits,strideBytes,widthSamples,heightSamples,
    totalSizeBytes,horizontalSubsampling,verticalSubsampling⟩

def readCrop : Reader Crop := do
  let left ← takeInt32
  let top ← takeInt32
  let right ← takeInt32
  let bottom ← takeInt32
  require (0 ≤ left ∧ 0 ≤ top ∧ left < right ∧ top < bottom)
  return ⟨left,top,right,bottom⟩

def decodeList {α : Type} (metadataType : Int) (element : Reader α) (data : List UInt8) :
    Except Errno (List α) :=
  let reader : Reader (List α) := do
    readHeader metadataType
    let count ← takeInt64
    require (0 < count ∧ count ≤ maxDmabufPlanes)
    times count.toNat element
  match reader data with
  | some (elements, []) => .ok elements
  | _ => .error .eproto

def decodePlaneLayouts : List UInt8 → Except Errno (List PlaneLayout) :=
  decodeList 15 (readPlaneLayout cString)
def decodeCrops : List UInt8 → Except Errno (List Crop) := decodeList 16 readCrop
def drmFormatNv12 : UInt32 := 0x3231564e
def drmModLinear : UInt64 := 0
def drmModQcomCompressed : UInt64 := 0x0500000000000001
def componentY : Int := 1
def componentCb : Int := 2
def componentCr : Int := 4
def qtiComponentMetadata : Int := -2147483648

def componentIs (c : PlaneComponent) (name : String) (value offsetBits sizeBits : Int) : Bool :=
  c.typeName == ascii name && c.typeValue == value && c.offsetBits == offsetBits &&
    c.sizeBits == sizeBits
variable (layout : PlaneLayout)
def hasOne (name : String) (value offsetBits sizeBits : Int) : Bool :=
  layout.components.countP (componentIs · name value offsetBits sizeBits) == 1
def layoutIsYData : Bool :=
  layout.components.length == 1 && hasOne layout standardComponentName componentY 0 8

def layoutIsUvData : Bool :=
  layout.components.length == 2 && hasOne layout standardComponentName componentCb 0 8 &&
    hasOne layout standardComponentName componentCr 8 8

def layoutHasQtiMetadata : Bool :=
  hasOne layout "QTI" qtiComponentMetadata 0 0

def layoutIsYMetadata : Bool :=
  layout.components.length == 2 && layoutHasQtiMetadata layout &&
    hasOne layout standardComponentName componentY 0 0

def layoutIsUvMetadata : Bool :=
  layout.components.length == 3 && layoutHasQtiMetadata layout &&
    hasOne layout standardComponentName componentCb 0 0 &&
    hasOne layout standardComponentName componentCr 0 0

def layoutExtentValid (allocationSize : UInt64) : Bool :=
  decide (0 < layout.strideBytes ∧ layout.strideBytes ≤ 0xffffffff ∧
    layout.offsetBytes < allocationSize ∧ 0 < layout.totalSizeBytes ∧
    layout.totalSizeBytes ≤ allocationSize - layout.offsetBytes)

def cropCoversImage (crop : Crop) (width height stride : UInt32) (yData : PlaneLayout) : Bool :=
  decide (crop.left = 0 ∧ crop.top = 0 ∧ 0 ≤ crop.right ∧ 0 ≤ crop.bottom ∧
    (width.toNat : Int) ≤ crop.right ∧ (height.toNat : Int) ≤ crop.bottom ∧
    crop.right ≤ stride.toNat ∧
    crop.bottom ≤ ((yData.totalSizeBytes / yData.strideBytes).toNat : Int))

structure Found where
  (yData uvData yMetadata uvMetadata : Option PlaneLayout)

def findLayout (allocationSize : UInt64) (found : Found) (layout : PlaneLayout) :
    Except Errno Found :=
  if !layoutExtentValid layout allocationSize then .error .eproto
  else if layoutIsYData layout then
    if found.yData.isSome then .error .eproto else .ok { found with yData := some layout }
  else if layoutIsUvData layout then
    if found.uvData.isSome then .error .eproto else .ok { found with uvData := some layout }
  else if layoutIsYMetadata layout then
    if found.yMetadata.isSome then .error .eproto else .ok { found with yMetadata := some layout }
  else if layoutIsUvMetadata layout then
    if found.uvMetadata.isSome then .error .eproto
    else .ok { found with uvMetadata := some layout }
  else .error .eproto

def findLayouts (allocationSize : UInt64) : Found → List PlaneLayout → Except Errno Found
  | found, [] => .ok found
  | found, layout :: layouts =>
    match findLayout allocationSize found layout with
    | .error e => .error e
    | .ok found => findLayouts allocationSize found layouts

/-- The arguments of `advc_mapper_qti_nv12_normalize`. -/
structure Nv12Input where
  fourcc : UInt32
  (modifier allocationSize : UInt64)
  (width height stride transportFds : UInt32)
  transportFdSizes : List UInt64
  qtiDataFdTransportIndex : Int
  qtiDataFdValid : Bool
  qtiDataFdSize : UInt64
  layouts : List PlaneLayout
  crops : List Crop

/-- `enum advc_mapper_qti_nv12_layout_kind`. -/
inductive Nv12Kind where
  | linear | ubwc
  deriving DecidableEq, Repr

/-- `struct advc_mapper_qti_nv12_layout`; `plane_count` is always 2. -/
structure Nv12Layout where
  kind : Nv12Kind
  imageTransportIndex : UInt32
  planeOffsets : UInt64 × UInt64
  planeStrides : UInt32 × UInt32
  deriving DecidableEq, Repr
variable (a : Nv12Input)
def Nv12Input.supported : Bool :=
  decide (a.fourcc = drmFormatNv12 ∧
    (a.modifier = drmModLinear ∨ a.modifier = drmModQcomCompressed) ∧
    a.allocationSize ≠ 0 ∧ a.width ≠ 0 ∧ a.height ≠ 0 ∧ a.width ≤ a.stride ∧
    a.transportFds ≠ 0 ∧ a.transportFds.toNat ≤ maxDmabufObjects ∧ a.qtiDataFdValid ∧
    0 ≤ a.qtiDataFdTransportIndex ∧ a.qtiDataFdTransportIndex.toNat < a.transportFds.toNat ∧
    a.qtiDataFdSize = a.allocationSize ∧
    a.transportFdSizes.getD a.qtiDataFdTransportIndex.toNat 0 = a.allocationSize ∧
    a.crops.length = 1)

def dataLayoutsMatch (crop : Crop) (yData uvData : PlaneLayout) : Bool :=
  decide (yData.strideBytes = a.stride.toUInt64 ∧ uvData.strideBytes = a.stride.toUInt64 ∧
    yData.widthSamples = a.width.toUInt64 ∧ yData.heightSamples = a.height.toUInt64 ∧
    yData.horizontalSubsampling = 1 ∧ yData.verticalSubsampling = 1 ∧
    uvData.widthSamples = ((a.width + 1) / 2).toUInt64 ∧
    uvData.heightSamples = ((a.height + 1) / 2).toUInt64 ∧
    uvData.horizontalSubsampling = 2 ∧ uvData.verticalSubsampling = 2) &&
  cropCoversImage crop a.width a.height a.stride yData

def ubwcLayoutsMatch (yMetadata yData uvMetadata uvData : PlaneLayout) : Bool :=
  decide (yMetadata.offsetBytes + yMetadata.totalSizeBytes = yData.offsetBytes ∧
    yData.offsetBytes + yData.totalSizeBytes = uvMetadata.offsetBytes ∧
    uvMetadata.offsetBytes + uvMetadata.totalSizeBytes = uvData.offsetBytes ∧
    yMetadata.strideBytes < yData.strideBytes ∧ uvMetadata.strideBytes < uvData.strideBytes)

def planeOffsets (found : Found) (yData uvData : PlaneLayout) :
    Except Errno (Nv12Kind × UInt64 × UInt64) :=
  if a.modifier = drmModLinear then
    if a.layouts.length ≠ 2 ∨ found.yMetadata.isSome ∨ found.uvMetadata.isSome ∨
        uvData.offsetBytes < yData.offsetBytes + yData.totalSizeBytes then .error .eproto
    else .ok (.linear, yData.offsetBytes, uvData.offsetBytes)
  else
    match found.yMetadata, found.uvMetadata with
    | some yMetadata, some uvMetadata =>
      if a.layouts.length ≠ 4 ∨ ubwcLayoutsMatch yMetadata yData uvMetadata uvData = false then
        .error .eproto
      else .ok (.ubwc, yMetadata.offsetBytes, uvMetadata.offsetBytes)
    | _, _ => .error .eproto

def qtiNv12Normalize : Except Errno Nv12Layout :=
  if !a.supported then .error .enotsup
  else
    match findLayouts a.allocationSize ⟨none,none,none,none⟩ a.layouts with
    | .error e => .error e
    | .ok found =>
      match found.yData, found.uvData, a.crops with
      | some yData, some uvData, crop :: _ =>
        if !dataLayoutsMatch a crop yData uvData then .error .eproto
        else
          match planeOffsets a found yData uvData with
          | .error e => .error e
          | .ok (kind, offsets) =>
            .ok { kind := kind
                  imageTransportIndex := UInt32.ofNat a.qtiDataFdTransportIndex.toNat
                  planeOffsets := offsets
                  planeStrides := (yData.strideBytes.toUInt32, uvData.strideBytes.toUInt32) }
      | _, _, _ => .error .eproto

/-- What a layout is taken for in the loop of `advc_mapper_qti_nv12_normalize`. -/
inductive Role where
  | yData | uvData | yMetadata | uvMetadata
  deriving DecidableEq

def layoutRole : Option Role :=
  if layoutIsYData layout then some .yData
  else if layoutIsUvData layout then some .uvData
  else if layoutIsYMetadata layout then some .yMetadata
  else if layoutIsUvMetadata layout then some .uvMetadata
  else none

def Found.get (found : Found) : Role → Option PlaneLayout
  | .yData => found.yData
  | .uvData => found.uvData
  | .yMetadata => found.yMetadata
  | .uvMetadata => found.uvMetadata

def Found.set (found : Found) : Role → Found
  | .yData => { found with yData := some layout }
  | .uvData => { found with uvData := some layout }
  | .yMetadata => { found with yMetadata := some layout }
  | .uvMetadata => { found with uvMetadata := some layout }

theorem Found.get_set (found : Found) (r r' : Role) :
    (found.set layout r).get r' = if r' = r then some layout else found.get r' := by
  cases r <;> cases r' <;> rfl

theorem findLayout_eq (allocationSize : UInt64) (found : Found) :
    findLayout allocationSize found layout = (layoutRole layout).elim (.error .eproto) fun r =>
      if layoutExtentValid layout allocationSize = true ∧ found.get r = none then
        .ok (found.set layout r)
      else .error .eproto := by
  unfold findLayout layoutRole
  by_cases hextent : layoutExtentValid layout allocationSize
  · simp only [hextent,Bool.not_true,Bool.false_eq_true,if_false,true_and,
      Option.isSome_iff_ne_none,ite_not]
    repeat' split
    all_goals first | rfl | simp_all [Found.get,Found.set]
  · simp only [hextent,Bool.not_false,if_true]
    repeat' split
    all_goals rfl

theorem findLayout_ok {layout : PlaneLayout} {allocationSize : UInt64} {found found' : Found}
    (h : findLayout allocationSize found layout = .ok found') :
    ∃ r, layoutRole layout = some r ∧ layoutExtentValid layout allocationSize ∧
    found.get r = none ∧ found' = found.set layout r := by
  rw [findLayout_eq] at h
  cases hrole : layoutRole layout with
  | none =>
    rw [hrole] at h
    cases h
  | some r =>
    rw [hrole,Option.elim_some] at h
    split at h
    · rename_i hvalid
      cases h
      exact ⟨r,rfl,hvalid.1,hvalid.2,rfl⟩
    · cases h

/-- The layouts found in a list: the data layouts are among those that were looked at, and a chroma
layout that was looked at is the one found. -/
structure FoundIn (allocationSize : UInt64) (layouts : List PlaneLayout) (found : Found) : Prop where
  extent : ∀ l ∈ layouts, layoutExtentValid l allocationSize
  yData : ∀ y, found.yData = some y → y ∈ layouts
  uvData : ∀ uv, found.uvData = some uv → uv ∈ layouts ∧ layoutIsUvData uv
  onlyUv : ∀ l ∈ layouts, layoutIsUvData l → found.uvData = some l

theorem layoutRole_of_isUvData {l : PlaneLayout} (h : layoutIsUvData l) :
    layoutRole l = some .uvData := by
  have hnot : layoutIsYData l = false := by
    simp only [layoutIsUvData,Bool.and_eq_true,beq_iff_eq] at h
    rw [layoutIsYData,h.1.1]
    rfl
  rw [layoutRole,hnot,h]
  rfl

theorem isUvData_of_layoutRole {l : PlaneLayout} (h : layoutRole l = some .uvData) :
    layoutIsUvData l := by
  unfold layoutRole at h
  split at h
  · cases h
  split at h
  · assumption
  split at h
  · cases h
  split at h <;> cases h
variable {allocationSize : UInt64}
theorem ite_some_eq {c : Prop} [Decidable c] {x l : PlaneLayout} {y : Option PlaneLayout}
    (h : (if c then some x else y) = some l) : c ∧ x = l ∨ ¬c ∧ y = some l := by
  split at h
  · exact .inl ⟨‹c›,Option.some.inj h⟩
  · exact .inr ⟨‹¬c›,h⟩

theorem findLayout_foundIn {layouts : List PlaneLayout}
    {found found' : Found} {layout : PlaneLayout} (h : FoundIn allocationSize layouts found)
    (hok : findLayout allocationSize found layout = .ok found') :
    FoundIn allocationSize (layouts ++ [layout]) found' := by
  obtain ⟨r,hrole,hextent,hnone,rfl⟩ := findLayout_ok hok
  have hget := found.get_set layout r
  refine ⟨fun l hl => ?_,fun y hy => ?_,fun uv huv => ?_,fun l hl hluv => ?_⟩
  · rcases mem_append.mp hl with hl | hl
    · exact h.extent l hl
    · rwa [mem_singleton.mp hl]
  · rcases (hget .yData).symm.trans hy |> ite_some_eq with ⟨-,rfl⟩ | ⟨-,hy⟩
    · exact mem_append_right _ mem_cons_self
    · exact mem_append_left _ (h.yData y hy)
  · rcases (hget .uvData).symm.trans huv |> ite_some_eq with ⟨rfl,rfl⟩ | ⟨-,huv⟩
    · exact ⟨mem_append_right _ mem_cons_self,isUvData_of_layoutRole hrole⟩
    · exact ⟨mem_append_left _ (h.uvData uv huv).1,(h.uvData uv huv).2⟩
  · refine (hget .uvData).trans ?_
    rcases mem_append.mp hl with hl | hl
    · have huv := h.onlyUv l hl hluv
      rw [if_neg,Found.get,huv]
      rintro rfl
      exact absurd (hnone.symm.trans huv) nofun
    · rw [mem_singleton.mp hl] at hluv ⊢
      rw [layoutRole_of_isUvData hluv] at hrole
      cases hrole
      exact if_pos rfl

theorem findLayouts_foundIn {seen layouts : List PlaneLayout}
    {found found' : Found} (h : FoundIn allocationSize seen found)
    (hok : findLayouts allocationSize found layouts = .ok found') :
    FoundIn allocationSize (seen ++ layouts) found' := by
  induction layouts generalizing seen found with
  | nil =>
    cases hok
    rwa [append_nil]
  | cons layout layouts ih =>
    rw [findLayouts] at hok
    split at hok
    · cases hok
    · rename_i next hnext
      have hrest := ih (findLayout_foundIn h hnext) hok
      rwa [append_assoc,singleton_append] at hrest

def chromaRows (height : UInt32) : Nat := (height.toNat + 1) / 2

/-- Both planes that are exported lie inside the allocation, the luma plane first, and no end of a
layout is lost in an overflow. -/
structure PlanesInside (a : Nv12Input) (n : Nv12Layout) : Prop where
  luma : n.planeOffsets.1.toNat + n.planeStrides.1.toNat * a.height.toNat ≤ a.allocationSize.toNat
  chroma : n.planeOffsets.2.toNat + n.planeStrides.2.toNat * chromaRows a.height ≤
    a.allocationSize.toNat
  disjoint : n.planeOffsets.1.toNat + n.planeStrides.1.toNat * a.height.toNat ≤
    n.planeOffsets.2.toNat
  ends : ∀ l ∈ a.layouts,
    (l.offsetBytes + l.totalSizeBytes).toNat = l.offsetBytes.toNat + l.totalSizeBytes.toNat

def ChromaFits : Prop :=
  ∀ l ∈ a.layouts, layoutIsUvData l →
    l.offsetBytes.toNat + a.stride.toNat * chromaRows a.height ≤ a.allocationSize.toNat

instance (a : Nv12Input) : Decidable (ChromaFits a) :=
  inferInstanceAs (Decidable (∀ l ∈ a.layouts, _))

theorem extent_end {l : PlaneLayout} (h : layoutExtentValid l allocationSize) :
    l.offsetBytes.toNat + l.totalSizeBytes.toNat ≤ allocationSize.toNat ∧
    (l.offsetBytes + l.totalSizeBytes).toNat = l.offsetBytes.toNat + l.totalSizeBytes.toNat := by
  obtain ⟨-, -,hoffset, -,htotal⟩ := of_decide_eq_true h
  rw [UInt64.lt_iff_toNat_lt] at hoffset
  rw [UInt64.le_iff_toNat_le,UInt64.toNat_sub_of_le _ _ (UInt64.le_of_lt
    (UInt64.lt_iff_toNat_lt.mpr hoffset))] at htotal
  have hbound := allocationSize.toNat_lt
  have hle : l.offsetBytes.toNat + l.totalSizeBytes.toNat ≤ allocationSize.toNat := by omega
  refine ⟨hle,?_⟩
  rw [UInt64.toNat_add]
  exact Nat.mod_eq_of_lt (by omega)

theorem cropCoversImage_rows {crop : Crop} {width height stride : UInt32} {y : PlaneLayout}
    (h : cropCoversImage crop width height stride y) (hstride : y.strideBytes = stride.toUInt64) :
    stride.toNat * height.toNat ≤ y.totalSizeBytes.toNat := by
  obtain ⟨-, -, -, -, -,hbottom, -,hrows⟩ := of_decide_eq_true h
  have hheight : height.toNat ≤ (y.totalSizeBytes / y.strideBytes).toNat := by omega
  rw [UInt64.toNat_div,hstride,UInt32.toNat_toUInt64] at hheight
  calc stride.toNat * height.toNat
      ≤ stride.toNat * (y.totalSizeBytes.toNat / stride.toNat) := Nat.mul_le_mul_left _ hheight
    _ ≤ y.totalSizeBytes.toNat := Nat.mul_div_le _ _

theorem qtiNv12Normalize_ok {a : Nv12Input} {n : Nv12Layout} (h : qtiNv12Normalize a = .ok n) :
    ∃ found y uv crop kind,
    findLayouts a.allocationSize ⟨none,none,none,none⟩ a.layouts = .ok found ∧
    found.yData = some y ∧ found.uvData = some uv ∧ dataLayoutsMatch a crop y uv ∧
    planeOffsets a found y uv = .ok (kind, n.planeOffsets) ∧
    n.planeStrides = (y.strideBytes.toUInt32, uv.strideBytes.toUInt32) := by
  unfold qtiNv12Normalize at h
  split at h
  · cases h
  split at h
  · cases h
  rename_i found hfound
  split at h
  · rename_i y uv crop _ hy huv _
    split at h
    · cases h
    rename_i hmatch
    split at h
    · cases h
    rename_i kind offsets hoffsets
    cases h
    exact ⟨found,y,uv,crop,kind,hfound,hy,huv,by simpa using hmatch,hoffsets,rfl⟩
  · cases h

theorem qtiNv12Normalize_linear {a : Nv12Input} {n : Nv12Layout}
    (h : qtiNv12Normalize a = .ok n) (hlinear : a.modifier = drmModLinear) :
    ∃ found y uv crop, FoundIn a.allocationSize a.layouts found ∧ found.yData = some y ∧
    found.uvData = some uv ∧ dataLayoutsMatch a crop y uv ∧
    y.offsetBytes + y.totalSizeBytes ≤ uv.offsetBytes ∧
    n.planeOffsets = (y.offsetBytes, uv.offsetBytes) ∧
    n.planeStrides = (y.strideBytes.toUInt32, uv.strideBytes.toUInt32) := by
  obtain ⟨found,y,uv,crop,kind,hfound,hy,huv,hmatch,hoffsets,hstrides⟩ :=
    qtiNv12Normalize_ok h
  have hstart : FoundIn a.allocationSize [] ⟨none,none,none,none⟩ :=
    ⟨nofun,nofun,nofun,nofun⟩
  have hfoundIn := findLayouts_foundIn hstart hfound
  rw [nil_append] at hfoundIn
  rw [planeOffsets,if_pos hlinear] at hoffsets
  split at hoffsets
  · cases hoffsets
  rename_i horder
  simp only [not_or,UInt64.not_lt] at horder
  injection hoffsets with hoffsets
  exact ⟨found,y,uv,crop,hfoundIn,hy,huv,hmatch,horder.2.2.2,(Prod.mk.inj hoffsets).2.symm,
    hstrides⟩

/-- For a linear image the luma plane always lies inside the allocation and before the chroma plane,
and no sum overflows. The chroma plane lies inside if and only if its rows fit behind the offset of
its layout, which is not checked. -/
theorem qtiNv12Normalize_planes {a : Nv12Input} {n : Nv12Layout}
    (h : qtiNv12Normalize a = .ok n) (hlinear : a.modifier = drmModLinear) :
    (n.planeOffsets.1.toNat + n.planeStrides.1.toNat * a.height.toNat ≤ a.allocationSize.toNat ∧
    n.planeOffsets.1.toNat + n.planeStrides.1.toNat * a.height.toNat ≤ n.planeOffsets.2.toNat ∧
    ∀ l ∈ a.layouts,
      (l.offsetBytes + l.totalSizeBytes).toNat = l.offsetBytes.toNat + l.totalSizeBytes.toNat) ∧
    (PlanesInside a n ↔ ChromaFits a) := by
  obtain ⟨found,y,uv,crop,hfound,hy,huv,hmatch,horder,hoffsets,hstrides⟩ :=
    qtiNv12Normalize_linear h hlinear
  rw [dataLayoutsMatch,Bool.and_eq_true] at hmatch
  obtain ⟨hdata,hcrop⟩ := hmatch
  obtain ⟨hyStride,huvStride, -⟩ := of_decide_eq_true hdata
  have hstride : a.stride.toUInt64.toUInt32 = a.stride := by simp
  rw [hyStride,huvStride,hstride] at hstrides
  have hends : ∀ l ∈ a.layouts, (l.offsetBytes + l.totalSizeBytes).toNat =
      l.offsetBytes.toNat + l.totalSizeBytes.toNat :=
    fun l hl => (extent_end (hfound.extent l hl)).2
  obtain ⟨hyEnd,hySum⟩ := extent_end (hfound.extent y (hfound.yData y hy))
  have hrows := cropCoversImage_rows hcrop hyStride
  rw [UInt64.le_iff_toNat_le,hySum] at horder
  have hluma : n.planeOffsets.1.toNat + n.planeStrides.1.toNat * a.height.toNat ≤
      a.allocationSize.toNat := by
    rw [hoffsets,hstrides]
    dsimp only
    omega
  have hdisjoint : n.planeOffsets.1.toNat + n.planeStrides.1.toNat * a.height.toNat ≤
      n.planeOffsets.2.toNat := by
    rw [hoffsets,hstrides]
    dsimp only
    omega
  refine ⟨⟨hluma,hdisjoint,hends⟩,fun hinside l hl hluv => ?_,fun hfits => ?_⟩
  · have hchroma := hinside.chroma
    rw [hoffsets,hstrides] at hchroma
    have hsame := hfound.onlyUv l hl hluv
    rw [huv] at hsame
    cases hsame
    exact hchroma
  · refine ⟨hluma,?_,hdisjoint,hends⟩
    rw [hoffsets,hstrides]
    obtain ⟨hmem,hisUv⟩ := hfound.uvData uv huv
    exact hfits uv hmem hisUv

def int64Bytes (value : UInt64) : List UInt8 := putU64 (zeros 8) 0 value
def stringBytes (text : String) : List UInt8 :=
  int64Bytes (UInt64.ofNat (ascii text).length) ++ ascii text
def componentBytes (value offsetBits : UInt64) : List UInt8 :=
  stringBytes standardComponentName ++ int64Bytes value ++ int64Bytes offsetBits ++ int64Bytes 8
variable (chromaSize : UInt64)
def planeLayoutBytes : List UInt8 :=
  stringBytes standardMetadataName ++ int64Bytes 15 ++ int64Bytes 2 ++
    (int64Bytes 1 ++ componentBytes 1 0 ++ [0,8,16,16,16,256,1,1].flatMap int64Bytes) ++
    (int64Bytes 2 ++ componentBytes 2 0 ++ componentBytes 4 8 ++
      [256,16,16,8,8,chromaSize,2,2].flatMap int64Bytes)

def cropBytes : List UInt8 :=
  stringBytes standardMetadataName ++ int64Bytes 16 ++ int64Bytes 1 ++
    ([0,0,16,16] : List UInt32).flatMap (putU32 (zeros 4) 0)

def planeLayouts : List PlaneLayout :=
  [⟨[⟨ascii standardComponentName,1,0,8⟩],0,8,16,16,16,256,1,1⟩,
    ⟨[⟨ascii standardComponentName,2,0,8⟩,⟨ascii standardComponentName,4,8,8⟩],256,16,16,8,
      8,chromaSize,2,2⟩]

def smallImage : Nv12Input :=
  { fourcc := drmFormatNv12, modifier := drmModLinear, allocationSize := 256 + chromaSize
    width := 16, height := 16, stride := 16, transportFds := 1
    transportFdSizes := [256 + chromaSize], qtiDataFdTransportIndex := 0, qtiDataFdValid := true
    qtiDataFdSize := 256 + chromaSize, layouts := planeLayouts chromaSize
    crops := [⟨0,0,16,16⟩] }

theorem qtiNv12Normalize_planes_smallImage :
    qtiNv12Normalize (smallImage 128) = .ok ⟨.linear,0,(0, 256),(16, 16)⟩ ∧
    PlanesInside (smallImage 128) ⟨.linear,0,(0, 256),(16, 16)⟩ := by
  have hok : qtiNv12Normalize (smallImage 128) = .ok ⟨.linear,0,(0, 256),(16, 16)⟩ := by
    decide +kernel
  exact ⟨hok,(qtiNv12Normalize_planes hok rfl).2.mpr (by decide +kernel)⟩

/-- A chroma layout of one byte is decoded and accepted, and its eight rows end 127 bytes behind the
allocation. -/
theorem qtiNv12Normalize_shortChroma :
    decodePlaneLayouts (planeLayoutBytes 1) = .ok (smallImage 1).layouts ∧
    decodeCrops cropBytes = .ok (smallImage 1).crops ∧
    qtiNv12Normalize (smallImage 1) = .ok ⟨.linear,0,(0, 256),(16, 16)⟩ ∧
    (smallImage 1).allocationSize.toNat + 127 = 256 + 16 * chromaRows 16 := by
  decide +kernel
end LinDeX.Android
