import LinDeX.Bitstream.HevcSyntax
import LinDeX.Bitstream.Writer

/-!
# Codec configuration for HEVC

`advc_hevc_build_codec_config` writes a video, a sequence and a picture parameter set. A parser of
the standard syntax reads back what went in, as long as the flags are zero or one.
-/
namespace LinDeX.Hevc
open Bits AnnexB Bitstream List Codes
structure ParameterInput where
  (visibleWidth visibleHeight : UInt32)
  (picWidthInLumaSamples picHeightInLumaSamples : UInt16)
  (chromaFormatIdc separateColourPlaneFlag bitDepthLumaMinus8 bitDepthChromaMinus8 : UInt8)
  (spsMaxDecPicBufferingMinus1 noPicReorderingFlag log2MinLumaCodingBlockSizeMinus3 : UInt8)
  (log2DiffMaxMinLumaCodingBlockSize log2MinTransformBlockSizeMinus2 : UInt8)
  (log2DiffMaxMinTransformBlockSize maxTransformHierarchyDepthIntra : UInt8)
  (maxTransformHierarchyDepthInter scalingListEnabledFlag ampEnabledFlag : UInt8)
  (sampleAdaptiveOffsetEnabledFlag pcmEnabledFlag strongIntraSmoothingEnabledFlag : UInt8)
  (numShortTermRefPicSets longTermRefPicsPresentFlag numLongTermRefPicSps : UInt8)
  (spsTemporalMvpEnabledFlag log2MaxPicOrderCntLsbMinus4 dependentSliceSegmentsEnabledFlag : UInt8)
  (outputFlagPresentFlag numExtraSliceHeaderBits signDataHidingEnabledFlag : UInt8)
  (cabacInitPresentFlag numRefIdxL0DefaultActiveMinus1 numRefIdxL1DefaultActiveMinus1 : UInt8)
  initQpMinus26 : Int8
  (constrainedIntraPredFlag transformSkipEnabledFlag cuQpDeltaEnabledFlag : UInt8)
  diffCuQpDeltaDepth : UInt8
  (ppsCbQpOffset ppsCrQpOffset : Int8)
  (ppsSliceChromaQpOffsetsPresentFlag weightedPredFlag weightedBipredFlag : UInt8)
  (transquantBypassEnabledFlag tilesEnabledFlag entropyCodingSyncEnabledFlag : UInt8)
  (numTileColumnsMinus1 numTileRowsMinus1 : UInt8)
  columnWidthMinus1 : Fin 19 → UInt16
  rowHeightMinus1 : Fin 21 → UInt16
  (loopFilterAcrossTilesEnabledFlag ppsLoopFilterAcrossSlicesEnabledFlag : UInt8)
  (deblockingFilterOverrideEnabledFlag ppsDisableDeblockingFilterFlag : UInt8)
  (ppsBetaOffsetDiv2 ppsTcOffsetDiv2 : Int8)
  (listsModificationPresentFlag log2ParallelMergeLevelMinus2 : UInt8)
  sliceSegmentHeaderExtensionPresentFlag : UInt8

/-- `ADVC_HEVC_MAX_CONFIG_BYTES`, and the `uint64_t` of `put_bits`. -/
def format : Format := ⟨2048,64,by decide⟩

/-- `struct advc_hevc_codec_config`, with the bytes in use. -/
structure CodecConfig where
  data : List UInt8
  ppsId : UInt32
  deriving DecidableEq, Repr

/-- What `validate_parameters` computes. -/
structure Geometry where
  (cropRight cropBottom ctbWidth ctbHeight : UInt32)
  deriving DecidableEq, Repr

def ParameterInput.columns (input : ParameterInput) : List UInt16 :=
  (List.ofFn input.columnWidthMinus1).take input.numTileColumnsMinus1.toNat
def ParameterInput.rows (input : ParameterInput) : List UInt16 :=
  (List.ofFn input.rowHeightMinus1).take input.numTileRowsMinus1.toNat

def tilesFit (size : UInt32) : UInt32 → List UInt16 → Bool
  | _, [] => true
  | sum, tile :: rest =>
    let sum := sum + (tile.toUInt32 + 1)
    if size ≤ sum then false else tilesFit size sum rest

def ParameterInput.ctbLog2 (input : ParameterInput) : UInt32 :=
  input.log2MinLumaCodingBlockSizeMinus3.toUInt32 + 3 +
    input.log2DiffMaxMinLumaCodingBlockSize.toUInt32

def ParameterInput.geometry (input : ParameterInput) : Geometry :=
  let ctbSize : UInt32 := 1 <<< input.ctbLog2
  { cropRight := (input.picWidthInLumaSamples.toUInt32 - input.visibleWidth) / 2
    cropBottom := (input.picHeightInLumaSamples.toUInt32 - input.visibleHeight) / 2
    ctbWidth := (input.picWidthInLumaSamples.toUInt32 + ctbSize - 1) / ctbSize
    ctbHeight := (input.picHeightInLumaSamples.toUInt32 + ctbSize - 1) / ctbSize }

def validateParameters (input : ParameterInput) : Except Errno Geometry :=
  let g := input.geometry
  if input.visibleWidth = 0 ∨ input.visibleHeight = 0 ∨ input.visibleWidth > 8192 ∨
      input.visibleHeight > 8192 ∨ input.picWidthInLumaSamples = 0 ∨
      input.picHeightInLumaSamples = 0 then .error .einval
  else if input.chromaFormatIdc ≠ 1 ∨ input.separateColourPlaneFlag ≠ 0 ∨
      input.bitDepthLumaMinus8 ≠ 0 ∨ input.bitDepthChromaMinus8 ≠ 0 ∨
      input.scalingListEnabledFlag ≠ 0 ∨ input.pcmEnabledFlag ≠ 0 ∨
      input.numShortTermRefPicSets ≠ 0 ∨ input.longTermRefPicsPresentFlag ≠ 0 ∨
      input.numLongTermRefPicSps ≠ 0 ∨ input.log2MaxPicOrderCntLsbMinus4 > 12 ∨
      input.log2MinLumaCodingBlockSizeMinus3 > 3 ∨ input.log2DiffMaxMinLumaCodingBlockSize > 3 ∨
      input.log2MinTransformBlockSizeMinus2 > 3 ∨ input.log2DiffMaxMinTransformBlockSize > 3 ∨
      input.spsMaxDecPicBufferingMinus1 > 15 ∨ input.numRefIdxL0DefaultActiveMinus1 > 14 ∨
      input.numRefIdxL1DefaultActiveMinus1 > 14 ∨ input.numExtraSliceHeaderBits > 7 ∨
      input.numTileColumnsMinus1 ≥ 20 ∨ input.numTileRowsMinus1 ≥ 22 then .error .enotsup
  else if input.visibleWidth > input.picWidthInLumaSamples.toUInt32 ∨
      input.visibleHeight > input.picHeightInLumaSamples.toUInt32 ∨
      (input.picWidthInLumaSamples.toUInt32 - input.visibleWidth) % 2 ≠ 0 ∨
      (input.picHeightInLumaSamples.toUInt32 - input.visibleHeight) % 2 ≠ 0 then .error .enotsup
  else if input.ctbLog2 > 6 then .error .enotsup
  else if input.tilesEnabledFlag = 0 then
    if input.numTileColumnsMinus1 ≠ 0 ∨ input.numTileRowsMinus1 ≠ 0 then .error .enotsup
    else .ok g
  else if input.numTileColumnsMinus1.toUInt32 + 1 > g.ctbWidth ∨
      input.numTileRowsMinus1.toUInt32 + 1 > g.ctbHeight then .error .enotsup
  else if !tilesFit g.ctbWidth 0 input.columns then .error .enotsup
  else if !tilesFit g.ctbHeight 0 input.rows then .error .enotsup
  else .ok g

def putProfileTierLevelMain : Put := do
  putBits format 0 2
  putBit format 0
  putBits format 1 5
  putBits format 0x40000000 32
  putBits format 0 48
  putBits format 186 8

def ParameterInput.maxReorder (input : ParameterInput) : UInt8 :=
  if input.noPicReorderingFlag ≠ 0 then 0 else input.spsMaxDecPicBufferingMinus1

def putOrdering (input : ParameterInput) : Put := do
  putBit format 0
  putUe format input.spsMaxDecPicBufferingMinus1.toNat
  putUe format input.maxReorder.toNat
  putUe format 0

def putVps (input : ParameterInput) : Put := do
  putBits format 0 4
  putBit format 1
  putBit format 1
  putBits format 0 6
  putBits format 0 3
  putBit format 1
  putBits format 0xffff 16
  putProfileTierLevelMain
  putOrdering input
  putBits format 0 6
  putUe format 0
  putBit format 0
  putBit format 0

def Geometry.cropped (g : Geometry) : Bool := g.cropRight != 0 || g.cropBottom != 0

def putWindow (g : Geometry) : Put := do
  putUe format 0
  putUe format g.cropRight.toNat
  putUe format 0
  putUe format g.cropBottom.toNat

def putSps (input : ParameterInput) (g : Geometry) : Put := do
  putBits format 0 4
  putBits format 0 3
  putBit format 1
  putProfileTierLevelMain
  putUe format 0
  putUe format input.chromaFormatIdc.toNat
  putUe format input.picWidthInLumaSamples.toNat
  putUe format input.picHeightInLumaSamples.toNat
  putBit format g.cropped.toNat
  putWhen (g.cropped = true) (putWindow g)
  putUe format input.bitDepthLumaMinus8.toNat
  putUe format input.bitDepthChromaMinus8.toNat
  putUe format input.log2MaxPicOrderCntLsbMinus4.toNat
  putOrdering input
  putUe format input.log2MinLumaCodingBlockSizeMinus3.toNat
  putUe format input.log2DiffMaxMinLumaCodingBlockSize.toNat
  putUe format input.log2MinTransformBlockSizeMinus2.toNat
  putUe format input.log2DiffMaxMinTransformBlockSize.toNat
  putUe format input.maxTransformHierarchyDepthInter.toNat
  putUe format input.maxTransformHierarchyDepthIntra.toNat
  putBit format input.scalingListEnabledFlag.toNat
  putBit format input.ampEnabledFlag.toNat
  putBit format input.sampleAdaptiveOffsetEnabledFlag.toNat
  putBit format input.pcmEnabledFlag.toNat
  putUe format input.numShortTermRefPicSets.toNat
  putBit format input.longTermRefPicsPresentFlag.toNat
  putBit format input.spsTemporalMvpEnabledFlag.toNat
  putBit format input.strongIntraSmoothingEnabledFlag.toNat
  putBit format 0 -- vui_parameters_present_flag
  putBit format 0 -- sps_extension_present_flag

def putTiles (input : ParameterInput) : Put := do
  putUe format input.numTileColumnsMinus1.toNat
  putUe format input.numTileRowsMinus1.toNat
  putBit format 0 -- explicit column/row widths
  putEach format input.columns
  putEach format input.rows
  putBit format input.loopFilterAcrossTilesEnabledFlag.toNat

def putDeblocking (input : ParameterInput) : Put := do
  putBit format input.deblockingFilterOverrideEnabledFlag.toNat
  putBit format input.ppsDisableDeblockingFilterFlag.toNat
  putWhen (input.ppsDisableDeblockingFilterFlag = 0) do
    putSe format input.ppsBetaOffsetDiv2.toInt
    putSe format input.ppsTcOffsetDiv2.toInt

def putPps (input : ParameterInput) (ppsId : UInt32) : Put := do
  putUe format ppsId.toNat
  putUe format 0
  putBit format input.dependentSliceSegmentsEnabledFlag.toNat
  putBit format input.outputFlagPresentFlag.toNat
  putBits format input.numExtraSliceHeaderBits.toNat 3
  putBit format input.signDataHidingEnabledFlag.toNat
  putBit format input.cabacInitPresentFlag.toNat
  putUe format input.numRefIdxL0DefaultActiveMinus1.toNat
  putUe format input.numRefIdxL1DefaultActiveMinus1.toNat
  putSe format input.initQpMinus26.toInt
  putBit format input.constrainedIntraPredFlag.toNat
  putBit format input.transformSkipEnabledFlag.toNat
  putBit format input.cuQpDeltaEnabledFlag.toNat
  putWhen (input.cuQpDeltaEnabledFlag ≠ 0) (putUe format input.diffCuQpDeltaDepth.toNat)
  putSe format input.ppsCbQpOffset.toInt
  putSe format input.ppsCrQpOffset.toInt
  putBit format input.ppsSliceChromaQpOffsetsPresentFlag.toNat
  putBit format input.weightedPredFlag.toNat
  putBit format input.weightedBipredFlag.toNat
  putBit format input.transquantBypassEnabledFlag.toNat
  putBit format input.tilesEnabledFlag.toNat
  putBit format input.entropyCodingSyncEnabledFlag.toNat
  putWhen (input.tilesEnabledFlag ≠ 0) (putTiles input)
  putBit format input.ppsLoopFilterAcrossSlicesEnabledFlag.toNat
  putBit format 1 -- deblocking_filter_control_present_flag
  putDeblocking input
  putBit format 0 -- pps_scaling_list_data_present_flag
  putBit format input.listsModificationPresentFlag.toNat
  putUe format input.log2ParallelMergeLevelMinus2.toNat
  putBit format input.sliceSegmentHeaderExtensionPresentFlag.toNat
  putBit format 0 -- pps_extension_present_flag

/-- The NAL unit header of `append_annexb_nal`; the types in use are below 64. -/
def nalHeader (nalUnitType : UInt8) : List UInt8 := [nalUnitType <<< 1,1]

/-- `advc_hevc_build_codec_config`. An id that is too large leaves `errno` as it was. -/
def buildCodecConfig (errno : Errno) (input : ParameterInput) (ppsId : UInt32) :
    Except Errno CodecConfig := do
  if ppsId > 63 then throw errno
  else
    let g ← validateParameters input
    let vps ← rbsp format (putVps input)
    let sps ← rbsp format (putSps input g)
    let pps ← rbsp format (putPps input ppsId)
    let data ← appendAnnexbNal format [] (nalHeader 32) vps
    let data ← appendAnnexbNal format data (nalHeader 33) sps
    let data ← appendAnnexbNal format data (nalHeader 34) pps
    return ⟨data,ppsId⟩

structure ParameterInput.FlagsBinary (input : ParameterInput) : Prop where
  ampEnabledFlag : input.ampEnabledFlag ≤ 1
  sampleAdaptiveOffsetEnabledFlag : input.sampleAdaptiveOffsetEnabledFlag ≤ 1
  strongIntraSmoothingEnabledFlag : input.strongIntraSmoothingEnabledFlag ≤ 1
  spsTemporalMvpEnabledFlag : input.spsTemporalMvpEnabledFlag ≤ 1
  dependentSliceSegmentsEnabledFlag : input.dependentSliceSegmentsEnabledFlag ≤ 1
  outputFlagPresentFlag : input.outputFlagPresentFlag ≤ 1
  signDataHidingEnabledFlag : input.signDataHidingEnabledFlag ≤ 1
  cabacInitPresentFlag : input.cabacInitPresentFlag ≤ 1
  constrainedIntraPredFlag : input.constrainedIntraPredFlag ≤ 1
  transformSkipEnabledFlag : input.transformSkipEnabledFlag ≤ 1
  cuQpDeltaEnabledFlag : input.cuQpDeltaEnabledFlag ≤ 1
  ppsSliceChromaQpOffsetsPresentFlag : input.ppsSliceChromaQpOffsetsPresentFlag ≤ 1
  weightedPredFlag : input.weightedPredFlag ≤ 1
  weightedBipredFlag : input.weightedBipredFlag ≤ 1
  transquantBypassEnabledFlag : input.transquantBypassEnabledFlag ≤ 1
  tilesEnabledFlag : input.tilesEnabledFlag ≤ 1
  entropyCodingSyncEnabledFlag : input.entropyCodingSyncEnabledFlag ≤ 1
  loopFilterAcrossTilesEnabledFlag : input.loopFilterAcrossTilesEnabledFlag ≤ 1
  ppsLoopFilterAcrossSlicesEnabledFlag : input.ppsLoopFilterAcrossSlicesEnabledFlag ≤ 1
  deblockingFilterOverrideEnabledFlag : input.deblockingFilterOverrideEnabledFlag ≤ 1
  ppsDisableDeblockingFilterFlag : input.ppsDisableDeblockingFilterFlag ≤ 1
  listsModificationPresentFlag : input.listsModificationPresentFlag ≤ 1
  sliceSegmentHeaderExtensionPresentFlag : input.sliceSegmentHeaderExtensionPresentFlag ≤ 1

structure Accepted (input : ParameterInput) (g : Geometry) : Prop where
  geometry : g = input.geometry
  picWidth : 0 < input.picWidthInLumaSamples.toNat
  picHeight : 0 < input.picHeightInLumaSamples.toNat
  chroma : input.chromaFormatIdc = 1
  separate : input.separateColourPlaneFlag = 0
  scalingList : input.scalingListEnabledFlag = 0
  pcm : input.pcmEnabledFlag = 0
  shortTerm : input.numShortTermRefPicSets = 0
  longTerm : input.longTermRefPicsPresentFlag = 0
  longTermCount : input.numLongTermRefPicSps = 0
  extraBits : input.numExtraSliceHeaderBits.toNat ≤ 7
  columns : input.numTileColumnsMinus1.toNat ≤ 19
  rows : input.numTileRowsMinus1.toNat ≤ 21
  width : 2 * g.cropRight.toNat + input.visibleWidth.toNat = input.picWidthInLumaSamples.toNat
  height : 2 * g.cropBottom.toNat + input.visibleHeight.toNat = input.picHeightInLumaSamples.toNat
  ctb : input.ctbLog2 ≤ 6
  tiles : input.tilesEnabledFlag ≠ 0 →
    tilesFit g.ctbWidth 0 input.columns = true ∧ tilesFit g.ctbHeight 0 input.rows = true

variable {input : ParameterInput} {g : Geometry}
theorem accepted_of_validateParameters
    (h : validateParameters input = .ok g) : Accepted input g := by
  unfold validateParameters at h
  dsimp only at h
  iterate 4
    split at h
    · cases h
  rename_i hempty hfields hsizes hctb
  simp only [not_or,not_not] at hempty hfields hsizes
  obtain ⟨-, -, -, -,hpicWidth,hpicHeight⟩ := hempty
  obtain ⟨hchroma,hseparate, -, -,hscaling,hpcm,hshort,hlong,hlongCount, -, -, -, -, -, -, -,
    -,hextra,hcolumns,hrows⟩ := hfields
  obtain ⟨hwidth,hheight,hwidthEven,hheightEven⟩ := hsizes
  -- What does not depend on the tiles.
  have haccept (hg : input.geometry = g) (htiles : input.tilesEnabledFlag ≠ 0 →
      tilesFit g.ctbWidth 0 input.columns = true ∧ tilesFit g.ctbHeight 0 input.rows = true) :
      Accepted input g := by
    subst hg
    exact
      { geometry := rfl
        picWidth := Nat.pos_of_ne_zero fun hzero => hpicWidth (UInt16.toNat_inj.mp hzero)
        picHeight := Nat.pos_of_ne_zero fun hzero => hpicHeight (UInt16.toNat_inj.mp hzero)
        chroma := hchroma
        separate := hseparate
        scalingList := hscaling
        pcm := hpcm
        shortTerm := hshort
        longTerm := hlong
        longTermCount := hlongCount
        extraBits := UInt8.le_iff_toNat_le.mp (UInt8.not_lt.mp hextra)
        columns := Nat.le_of_lt_succ (UInt8.lt_iff_toNat_lt.mp (UInt8.not_le.mp hcolumns))
        rows := Nat.le_of_lt_succ (UInt8.lt_iff_toNat_lt.mp (UInt8.not_le.mp hrows))
        width := (cropping_exact hwidth hwidthEven).trans (UInt16.toNat_toUInt32 _)
        height := (cropping_exact hheight hheightEven).trans (UInt16.toNat_toUInt32 _)
        ctb := UInt32.not_lt.mp hctb
        tiles := htiles }
  split at h
  · rename_i hoff
    split at h
    · cases h
    · exact haccept (Except.ok.inj h) fun hon => absurd hoff hon
  · split at h
    · cases h
    split at h
    · cases h
    split at h
    · cases h
    rename_i hcolumnsFit hrowsFit
    have hg := Except.ok.inj h
    subst hg
    exact haccept rfl fun _ => ⟨by simpa using hcolumnsFit,by simpa using hrowsFit⟩

theorem tilesFit_sum {size sum : UInt32} {tiles : List UInt16} (h : tilesFit size sum tiles = true)
    (hsum : sum.toNat < size.toNat) (hroom : sum.toNat + 65536 * tiles.length < 2 ^ 32) :
    sum.toNat + (tiles.map fun tile => tile.toNat + 1).sum < size.toNat := by
  induction tiles generalizing sum with
  | nil => exact hsum
  | cons tile rest ih =>
    rw [tilesFit] at h
    split at h
    · cases h
    · rename_i hnext
      have htile := tile.toNat_lt
      have hadd : (sum + (tile.toUInt32 + 1)).toNat = sum.toNat + (tile.toNat + 1) := by
        rw [length_cons] at hroom
        simp only [UInt32.toNat_add,UInt16.toNat_toUInt32,UInt32.reduceToNat]
        omega
      have hlt := UInt32.lt_iff_toNat_lt.mp (UInt32.not_le.mp hnext)
      rw [length_cons] at hroom
      have hrest := ih h hlt (by omega)
      rw [map_cons,sum_cons]
      omega

/-- `put_profile_tier_level_main` as it is read. -/
def mainProfile : ProfileTierLevel := ⟨0,false,1,0x40000000,0,186,[]⟩

def ParameterInput.ordering (input : ParameterInput) : Ordering :=
  ⟨input.spsMaxDecPicBufferingMinus1.toNat,input.maxReorder.toNat,0⟩

def ParameterInput.vps (input : ParameterInput) : Vps :=
  { videoParameterSetId := 0
    baseLayerInternalFlag := true
    baseLayerAvailableFlag := true
    maxLayersMinus1 := 0
    maxSubLayersMinus1 := 0
    temporalIdNestingFlag := true
    reserved := 0xffff
    profileTierLevel := mainProfile
    orderings := [input.ordering]
    maxLayerId := 0
    layerSets := []
    timing := none }

def Geometry.window (g : Geometry) : Window := ⟨0,g.cropRight.toNat,0,g.cropBottom.toNat⟩

def ParameterInput.sps (input : ParameterInput) (g : Geometry) : Sps :=
  { videoParameterSetId := 0
    maxSubLayersMinus1 := 0
    temporalIdNestingFlag := true
    profileTierLevel := mainProfile
    seqParameterSetId := 0
    chromaFormatIdc := input.chromaFormatIdc.toNat
    separateColourPlaneFlag := none
    picWidthInLumaSamples := input.picWidthInLumaSamples.toNat
    picHeightInLumaSamples := input.picHeightInLumaSamples.toNat
    conformanceWindow := if g.cropped = true then some g.window else none
    bitDepthLumaMinus8 := input.bitDepthLumaMinus8.toNat
    bitDepthChromaMinus8 := input.bitDepthChromaMinus8.toNat
    log2MaxPicOrderCntLsbMinus4 := input.log2MaxPicOrderCntLsbMinus4.toNat
    orderings := [input.ordering]
    log2MinLumaCodingBlockSizeMinus3 := input.log2MinLumaCodingBlockSizeMinus3.toNat
    log2DiffMaxMinLumaCodingBlockSize := input.log2DiffMaxMinLumaCodingBlockSize.toNat
    log2MinLumaTransformBlockSizeMinus2 := input.log2MinTransformBlockSizeMinus2.toNat
    log2DiffMaxMinLumaTransformBlockSize := input.log2DiffMaxMinTransformBlockSize.toNat
    maxTransformHierarchyDepthInter := input.maxTransformHierarchyDepthInter.toNat
    maxTransformHierarchyDepthIntra := input.maxTransformHierarchyDepthIntra.toNat
    scalingListEnabledFlag := false
    scalingLists := none
    ampEnabledFlag := coded input.ampEnabledFlag
    sampleAdaptiveOffsetEnabledFlag := coded input.sampleAdaptiveOffsetEnabledFlag
    pcm := none
    shortTermRefPicSets := []
    longTermRefPics := none
    temporalMvpEnabledFlag := coded input.spsTemporalMvpEnabledFlag
    strongIntraSmoothingEnabledFlag := coded input.strongIntraSmoothingEnabledFlag }

def ParameterInput.tiles (input : ParameterInput) : Tiles :=
  { numTileColumnsMinus1 := input.numTileColumnsMinus1.toNat
    numTileRowsMinus1 := input.numTileRowsMinus1.toNat
    uniformSpacingFlag := false
    columnWidthMinus1 := input.columns.map UInt16.toNat
    rowHeightMinus1 := input.rows.map UInt16.toNat
    loopFilterAcrossTilesEnabledFlag := coded input.loopFilterAcrossTilesEnabledFlag }

def ParameterInput.deblocking (input : ParameterInput) : Deblocking :=
  { overrideEnabledFlag := coded input.deblockingFilterOverrideEnabledFlag
    disabledFlag := coded input.ppsDisableDeblockingFilterFlag
    offsets :=
      if input.ppsDisableDeblockingFilterFlag = 0 then
        some (input.ppsBetaOffsetDiv2.toInt, input.ppsTcOffsetDiv2.toInt)
      else none }

def ParameterInput.pps (input : ParameterInput) (ppsId : UInt32) : Pps :=
  { picParameterSetId := ppsId.toNat
    seqParameterSetId := 0
    dependentSliceSegmentsEnabledFlag := coded input.dependentSliceSegmentsEnabledFlag
    outputFlagPresentFlag := coded input.outputFlagPresentFlag
    numExtraSliceHeaderBits := input.numExtraSliceHeaderBits.toNat
    signDataHidingEnabledFlag := coded input.signDataHidingEnabledFlag
    cabacInitPresentFlag := coded input.cabacInitPresentFlag
    numRefIdxL0DefaultActiveMinus1 := input.numRefIdxL0DefaultActiveMinus1.toNat
    numRefIdxL1DefaultActiveMinus1 := input.numRefIdxL1DefaultActiveMinus1.toNat
    initQpMinus26 := input.initQpMinus26.toInt
    constrainedIntraPredFlag := coded input.constrainedIntraPredFlag
    transformSkipEnabledFlag := coded input.transformSkipEnabledFlag
    diffCuQpDeltaDepth :=
      if input.cuQpDeltaEnabledFlag ≠ 0 then some input.diffCuQpDeltaDepth.toNat else none
    cbQpOffset := input.ppsCbQpOffset.toInt
    crQpOffset := input.ppsCrQpOffset.toInt
    sliceChromaQpOffsetsPresentFlag := coded input.ppsSliceChromaQpOffsetsPresentFlag
    weightedPredFlag := coded input.weightedPredFlag
    weightedBipredFlag := coded input.weightedBipredFlag
    transquantBypassEnabledFlag := coded input.transquantBypassEnabledFlag
    entropyCodingSyncEnabledFlag := coded input.entropyCodingSyncEnabledFlag
    tiles := if input.tilesEnabledFlag ≠ 0 then some input.tiles else none
    loopFilterAcrossSlicesEnabledFlag := coded input.ppsLoopFilterAcrossSlicesEnabledFlag
    deblocking := some input.deblocking
    scalingLists := none
    listsModificationPresentFlag := coded input.listsModificationPresentFlag
    log2ParallelMergeLevelMinus2 := input.log2ParallelMergeLevelMinus2.toNat
    sliceSegmentHeaderExtensionPresentFlag := coded input.sliceSegmentHeaderExtensionPresentFlag }

theorem codes_bits {value count : Nat} (hcount : count ≤ 64) (hvalue : value < 2 ^ count) :
    Codes format count (putBits format value count) (readBits count) value :=
  ofNat hcount hvalue

theorem codes_mainProfile :
    Codes format 96 putProfileTierLevelMain (readProfileTierLevel 0) mainProfile := by
  refine (codes_bits (by decide) (by decide)).bind rfl ?_
  apply Codes.zero.bind rfl
  iterate 3 refine (codes_bits (by decide) (by decide)).bind rfl ?_
  exact (codes_bits (by decide) (by decide)).last rfl fun _ => rfl

theorem codes_ordering (input : ParameterInput) :
    Codes format 190 (putOrdering input) (readOrderings 0) [input.ordering] := by
  have hordering : Codes format 189 (do
      putUe format input.spsMaxDecPicBufferingMinus1.toNat
      putUe format input.maxReorder.toNat
      putUe format 0) readOrdering input.ordering :=
    (ue8 _).bind rfl <| (ue8 _).bind rfl <|
      zeroUe.last rfl (Reads.pure _)
  exact Codes.zero.bind rfl (hordering.last rfl fun _ => rfl)

theorem codes_vps (input : ParameterInput) :
    Codes format 400 (putVps input) readVps input.vps := by
  refine (codes_bits (by decide) (by decide)).bind rfl ?_
  apply one.bind rfl
  apply one.bind rfl
  iterate 2 refine (codes_bits (by decide) (by decide)).bind rfl ?_
  apply one.bind rfl
  refine (codes_bits (by decide) (by decide)).bind rfl ?_
  apply codes_mainProfile.bind rfl
  apply (codes_ordering input).bind rfl
  refine (codes_bits (by decide) (by decide)).bind rfl ?_
  -- There is one layer set and nothing to say about it.
  refine zeroUe.bind rfl (nothing (Reads.pure []) ?_)
  refine Codes.zero.bind rfl (skip nofun ?_)
  exact Codes.zero.last rfl (Reads.pure _)

theorem codes_window (h : Accepted input g) :
    Codes format 252 (putWindow g) readWindow g.window := by
  have hwidth := h.width
  have hheight := h.height
  have hpicWidth := input.picWidthInLumaSamples.toNat_lt
  have hpicHeight := input.picHeightInLumaSamples.toNat_lt
  have hright : g.cropRight.toNat + 1 < 2 ^ 32 := by omega
  have hbottom : g.cropBottom.toNat + 1 < 2 ^ 32 := by omega
  exact zeroUe.bind rfl <| (ue hright).bind rfl <|
    zeroUe.bind rfl <| (ue hbottom).last rfl (Reads.pure _)

theorem codes_sps (h : Accepted input g) :
    Codes format 1600 (putSps input g) readSps (input.sps g) := by
  have hchroma : ¬ input.chromaFormatIdc.toNat = 3 := by
    rw [h.chroma]
    decide
  have hoff {flag : UInt8} (hflag : flag = 0) :
      Codes format 1 (putBit format flag.toNat) readBit false := by
    rw [hflag]
    exact Codes.zero
  have hshort : Codes format 63 (putUe format input.numShortTermRefPicSets.toNat) readUe 0 := by
    rw [h.shortTerm]
    exact zeroUe
  iterate 2 refine (codes_bits (by decide) (by decide)).bind rfl ?_
  apply one.bind rfl
  apply codes_mainProfile.bind rfl
  apply zeroUe.bind rfl
  refine (ue8 _).bind rfl (skip hchroma ?_)
  apply (ue16 _).bind rfl
  apply (ue16 _).bind rfl
  apply (bool _).bind rfl
  refine (when Iff.rfl fun _ => codes_window h).bind rfl ?_
  iterate 3 apply (ue8 _).bind rfl
  apply (codes_ordering input).bind rfl
  iterate 6 apply (ue8 _).bind rfl
  refine (hoff h.scalingList).bind rfl (skip nofun ?_)
  apply (flag _).bind rfl
  apply (flag _).bind rfl
  refine (hoff h.pcm).bind rfl (skip nofun ?_)
  refine hshort.bind rfl (nothing (Reads.pure []) ?_)
  refine (hoff h.longTerm).bind rfl (skip nofun ?_)
  apply (flag _).bind rfl
  apply (flag _).bind rfl
  apply Codes.zero.bind rfl
  exact Codes.zero.last rfl (Reads.pure _)

theorem codes_sizes {n : Nat} (sizes : Fin n → UInt16) {count : UInt8} (h : count.toNat ≤ n) :
    Codes format (63 * n) (putEach format ((List.ofFn sizes).take count.toNat))
      (readMany readUe count.toNat) (((List.ofFn sizes).take count.toNat).map UInt16.toNat) := by
  have hlength : ((List.ofFn sizes).take count.toNat).length = count.toNat := by
    rw [length_take,length_ofFn,Nat.min_eq_left h]
  have heach := each (f := format) ((List.ofFn sizes).take count.toNat)
  rw [hlength] at heach
  exact heach.mono (Nat.mul_le_mul_left 63 h)

theorem codes_tiles (h : Accepted input g) :
    Codes format 2648 (putTiles input) readTiles input.tiles := by
  apply (ue8 _).bind rfl
  apply (ue8 _).bind rfl
  apply Codes.zero.bind rfl
  apply (codes_sizes input.columnWidthMinus1 h.columns).bind rfl
  apply (codes_sizes input.rowHeightMinus1 h.rows).bind rfl
  exact (flag _).last rfl (Reads.pure _)

theorem codes_offsets (input : ParameterInput) :
    Codes format 126 (do
      putSe format input.ppsBetaOffsetDiv2.toInt
      putSe format input.ppsTcOffsetDiv2.toInt) (do
        let betaOffsetDiv2 ← readSe
        let tcOffsetDiv2 ← readSe
        return (betaOffsetDiv2, tcOffsetDiv2))
      (input.ppsBetaOffsetDiv2.toInt, input.ppsTcOffsetDiv2.toInt) :=
  (se8 _).bind rfl ((se8 _).last rfl (Reads.pure _))

theorem codes_deblocking {input : ParameterInput} (hflags : input.FlagsBinary) :
    Codes format 128 (putDeblocking input) readDeblocking input.deblocking := by
  have hdisabled : coded input.ppsDisableDeblockingFilterFlag = false ↔
      input.ppsDisableDeblockingFilterFlag = 0 := by
    rw [← Bool.not_eq_true,coded_iff hflags.ppsDisableDeblockingFilterFlag,not_not]
  apply (flag _).bind rfl
  apply (flag _).bind rfl
  exact (when hdisabled fun _ => codes_offsets input).last rfl (Reads.pure _)

theorem codes_ppsId {ppsId : UInt32} (hid : ppsId ≤ 63) :
    Codes format 63 (putUe format ppsId.toNat) readUe ppsId.toNat := by
  have hle : ppsId.toNat ≤ 63 := UInt32.le_iff_toNat_le.mp hid
  exact .ue (by omega)

theorem codes_pps (h : Accepted input g)
    (hflags : input.FlagsBinary) {ppsId : UInt32} (hid : ppsId ≤ 63) :
    Codes format 3450 (putPps input ppsId) readPps (input.pps ppsId) := by
  apply (codes_ppsId hid).bind rfl
  apply zeroUe.bind rfl
  apply (flag _).bind rfl
  apply (flag _).bind rfl
  refine (codes_bits (by decide) (Nat.lt_succ_of_le h.extraBits)).bind rfl ?_
  apply (flag _).bind rfl
  apply (flag _).bind rfl
  apply (ue8 _).bind rfl
  apply (ue8 _).bind rfl
  apply (se8 _).bind rfl
  iterate 3 apply (flag _).bind rfl
  refine (when (coded_iff hflags.cuQpDeltaEnabledFlag) fun _ =>
    ue8 _).bind rfl ?_
  apply (se8 _).bind rfl
  apply (se8 _).bind rfl
  iterate 6 apply (flag _).bind rfl
  refine (when (coded_iff hflags.tilesEnabledFlag) fun _ => codes_tiles h).bind rfl ?_
  apply (flag _).bind rfl
  apply one.bind rfl
  apply ((codes_deblocking hflags).present rfl).bind rfl
  refine Codes.zero.bind rfl (skip nofun ?_)
  apply (flag _).bind rfl
  apply (ue8 _).bind rfl
  apply (flag _).bind rfl
  exact Codes.zero.last rfl (Reads.pure _)

theorem fits_pps (h : Accepted input g) {ppsId : UInt32}
    (hid : ppsId ≤ 63) : Fits format 3450 (putPps input ppsId) := by
  have hflag (flag : UInt8) : Fits format 1 (putBit format flag.toNat) := (Codes.flag flag).fits
  have hue (value : UInt8) : Fits format 63 (putUe format value.toNat) := (Codes.ue8 value).fits
  have hse (value : Int8) : Fits format 63 (putSe format value.toInt) := (Codes.se8 value).fits
  have hdeblocking : Fits format 128 (putDeblocking input) :=
    (hflag _).bind rfl <| (hflag _).bind rfl (codes_offsets input).fits.when
  apply (codes_ppsId hid).fits.bind rfl
  apply zeroUe.fits.bind rfl
  apply (hflag _).bind rfl
  apply (hflag _).bind rfl
  refine (codes_bits (by decide) (Nat.lt_succ_of_le h.extraBits)).fits.bind rfl ?_
  apply (hflag _).bind rfl
  apply (hflag _).bind rfl
  apply (hue _).bind rfl
  apply (hue _).bind rfl
  apply (hse _).bind rfl
  iterate 3 apply (hflag _).bind rfl
  apply (hue _).when.bind rfl
  apply (hse _).bind rfl
  apply (hse _).bind rfl
  iterate 6 apply (hflag _).bind rfl
  apply (codes_tiles h).fits.when.bind rfl
  apply (hflag _).bind rfl
  apply one.fits.bind rfl
  apply hdeblocking.bind rfl
  apply Codes.zero.fits.bind rfl
  apply (hflag _).bind rfl
  apply (hue _).bind rfl
  apply (hflag _).bind rfl
  exact Codes.zero.fits.mono (by decide)

/-- The tiles of the parameter set are those of the input, and the last column and the last row
have something left. -/
structure DescribesTiles (input : ParameterInput) (sps : Sps) (tiles : Tiles) : Prop where
  numTileColumnsMinus1 : tiles.numTileColumnsMinus1 = input.numTileColumnsMinus1.toNat
  numTileRowsMinus1 : tiles.numTileRowsMinus1 = input.numTileRowsMinus1.toNat
  uniformSpacingFlag : tiles.uniformSpacingFlag = false
  columnWidthMinus1 : tiles.columnWidthMinus1 = input.columns.map UInt16.toNat
  columnCount : tiles.columnWidthMinus1.length = tiles.numTileColumnsMinus1
  rowHeightMinus1 : tiles.rowHeightMinus1 = input.rows.map UInt16.toNat
  rowCount : tiles.rowHeightMinus1.length = tiles.numTileRowsMinus1
  loopFilterAcrossTilesEnabledFlag : tiles.loopFilterAcrossTilesEnabledFlag.toNat =
    input.loopFilterAcrossTilesEnabledFlag.toNat
  lastColumn : (tiles.columnWidthMinus1.map (· + 1)).sum < sps.picWidthInCtbs
  lastRow : (tiles.rowHeightMinus1.map (· + 1)).sum < sps.picHeightInCtbs

structure DescribesDeblocking (input : ParameterInput) (deblocking : Deblocking) : Prop where
  overrideEnabledFlag :
    deblocking.overrideEnabledFlag.toNat = input.deblockingFilterOverrideEnabledFlag.toNat
  disabledFlag : deblocking.disabledFlag.toNat = input.ppsDisableDeblockingFilterFlag.toNat
  offsets : deblocking.offsets = if input.ppsDisableDeblockingFilterFlag = 0 then
    some (input.ppsBetaOffsetDiv2.toInt, input.ppsTcOffsetDiv2.toInt) else none

structure Describes (input : ParameterInput) (ppsId : UInt32) (vps : Vps) (sps : Sps) (pps : Pps) :
    Prop where
  vpsOrdering : vps.orderings = [input.ordering]
  vpsId : sps.videoParameterSetId = vps.videoParameterSetId
  spsId : pps.seqParameterSetId = sps.seqParameterSetId
  chromaFormatIdc : sps.chromaFormatIdc = input.chromaFormatIdc.toNat
  separateColourPlaneFlag :
    (sps.separateColourPlaneFlag.getD false).toNat = input.separateColourPlaneFlag.toNat
  picWidthInLumaSamples : sps.picWidthInLumaSamples = input.picWidthInLumaSamples.toNat
  picHeightInLumaSamples : sps.picHeightInLumaSamples = input.picHeightInLumaSamples.toNat
  visibleWidth : sps.visibleWidth = input.visibleWidth.toNat
  visibleHeight : sps.visibleHeight = input.visibleHeight.toNat
  bitDepthLumaMinus8 : sps.bitDepthLumaMinus8 = input.bitDepthLumaMinus8.toNat
  bitDepthChromaMinus8 : sps.bitDepthChromaMinus8 = input.bitDepthChromaMinus8.toNat
  log2MaxPicOrderCntLsbMinus4 :
    sps.log2MaxPicOrderCntLsbMinus4 = input.log2MaxPicOrderCntLsbMinus4.toNat
  spsOrdering : sps.orderings = [input.ordering]
  log2MinLumaCodingBlockSizeMinus3 :
    sps.log2MinLumaCodingBlockSizeMinus3 = input.log2MinLumaCodingBlockSizeMinus3.toNat
  log2DiffMaxMinLumaCodingBlockSize :
    sps.log2DiffMaxMinLumaCodingBlockSize = input.log2DiffMaxMinLumaCodingBlockSize.toNat
  log2MinTransformBlockSizeMinus2 :
    sps.log2MinLumaTransformBlockSizeMinus2 = input.log2MinTransformBlockSizeMinus2.toNat
  log2DiffMaxMinTransformBlockSize :
    sps.log2DiffMaxMinLumaTransformBlockSize = input.log2DiffMaxMinTransformBlockSize.toNat
  maxTransformHierarchyDepthInter :
    sps.maxTransformHierarchyDepthInter = input.maxTransformHierarchyDepthInter.toNat
  maxTransformHierarchyDepthIntra :
    sps.maxTransformHierarchyDepthIntra = input.maxTransformHierarchyDepthIntra.toNat
  scalingListEnabledFlag : sps.scalingListEnabledFlag.toNat = input.scalingListEnabledFlag.toNat
  ampEnabledFlag : sps.ampEnabledFlag.toNat = input.ampEnabledFlag.toNat
  sampleAdaptiveOffsetEnabledFlag :
    sps.sampleAdaptiveOffsetEnabledFlag.toNat = input.sampleAdaptiveOffsetEnabledFlag.toNat
  pcmEnabledFlag : sps.pcm.isSome.toNat = input.pcmEnabledFlag.toNat
  numShortTermRefPicSets : sps.shortTermRefPicSets.length = input.numShortTermRefPicSets.toNat
  longTermRefPicsPresentFlag :
    sps.longTermRefPics.isSome.toNat = input.longTermRefPicsPresentFlag.toNat
  numLongTermRefPicSps : (sps.longTermRefPics.getD []).length = input.numLongTermRefPicSps.toNat
  spsTemporalMvpEnabledFlag :
    sps.temporalMvpEnabledFlag.toNat = input.spsTemporalMvpEnabledFlag.toNat
  strongIntraSmoothingEnabledFlag :
    sps.strongIntraSmoothingEnabledFlag.toNat = input.strongIntraSmoothingEnabledFlag.toNat
  picParameterSetId : pps.picParameterSetId = ppsId.toNat
  dependentSliceSegmentsEnabledFlag :
    pps.dependentSliceSegmentsEnabledFlag.toNat = input.dependentSliceSegmentsEnabledFlag.toNat
  outputFlagPresentFlag : pps.outputFlagPresentFlag.toNat = input.outputFlagPresentFlag.toNat
  numExtraSliceHeaderBits : pps.numExtraSliceHeaderBits = input.numExtraSliceHeaderBits.toNat
  signDataHidingEnabledFlag :
    pps.signDataHidingEnabledFlag.toNat = input.signDataHidingEnabledFlag.toNat
  cabacInitPresentFlag : pps.cabacInitPresentFlag.toNat = input.cabacInitPresentFlag.toNat
  numRefIdxL0DefaultActiveMinus1 :
    pps.numRefIdxL0DefaultActiveMinus1 = input.numRefIdxL0DefaultActiveMinus1.toNat
  numRefIdxL1DefaultActiveMinus1 :
    pps.numRefIdxL1DefaultActiveMinus1 = input.numRefIdxL1DefaultActiveMinus1.toNat
  initQpMinus26 : pps.initQpMinus26 = input.initQpMinus26.toInt
  constrainedIntraPredFlag :
    pps.constrainedIntraPredFlag.toNat = input.constrainedIntraPredFlag.toNat
  transformSkipEnabledFlag :
    pps.transformSkipEnabledFlag.toNat = input.transformSkipEnabledFlag.toNat
  cuQpDeltaEnabledFlag : pps.diffCuQpDeltaDepth.isSome.toNat = input.cuQpDeltaEnabledFlag.toNat
  diffCuQpDeltaDepth : ∀ depth ∈ pps.diffCuQpDeltaDepth, depth = input.diffCuQpDeltaDepth.toNat
  ppsCbQpOffset : pps.cbQpOffset = input.ppsCbQpOffset.toInt
  ppsCrQpOffset : pps.crQpOffset = input.ppsCrQpOffset.toInt
  ppsSliceChromaQpOffsetsPresentFlag :
    pps.sliceChromaQpOffsetsPresentFlag.toNat = input.ppsSliceChromaQpOffsetsPresentFlag.toNat
  weightedPredFlag : pps.weightedPredFlag.toNat = input.weightedPredFlag.toNat
  weightedBipredFlag : pps.weightedBipredFlag.toNat = input.weightedBipredFlag.toNat
  transquantBypassEnabledFlag :
    pps.transquantBypassEnabledFlag.toNat = input.transquantBypassEnabledFlag.toNat
  entropyCodingSyncEnabledFlag :
    pps.entropyCodingSyncEnabledFlag.toNat = input.entropyCodingSyncEnabledFlag.toNat
  tilesEnabledFlag : pps.tiles.isSome.toNat = input.tilesEnabledFlag.toNat
  tiles : ∀ tiles ∈ pps.tiles, DescribesTiles input sps tiles
  ppsLoopFilterAcrossSlicesEnabledFlag : pps.loopFilterAcrossSlicesEnabledFlag.toNat =
    input.ppsLoopFilterAcrossSlicesEnabledFlag.toNat
  deblocking : ∃ deblocking ∈ pps.deblocking, DescribesDeblocking input deblocking
  listsModificationPresentFlag :
    pps.listsModificationPresentFlag.toNat = input.listsModificationPresentFlag.toNat
  log2ParallelMergeLevelMinus2 :
    pps.log2ParallelMergeLevelMinus2 = input.log2ParallelMergeLevelMinus2.toNat
  sliceSegmentHeaderExtensionPresentFlag : pps.sliceSegmentHeaderExtensionPresentFlag.toNat =
    input.sliceSegmentHeaderExtensionPresentFlag.toNat

theorem ctbLog2_toNat (input : ParameterInput) :
    input.ctbLog2.toNat = input.log2MinLumaCodingBlockSizeMinus3.toNat + 3 +
      input.log2DiffMaxMinLumaCodingBlockSize.toNat := by
  have := input.log2MinLumaCodingBlockSizeMinus3.toNat_lt
  have := input.log2DiffMaxMinLumaCodingBlockSize.toNat_lt
  simp only [ParameterInput.ctbLog2,UInt32.toNat_add,UInt8.toNat_toUInt32,UInt32.reduceToNat]
  omega

theorem ctbCount {log2 size : UInt32} (hlog2 : log2 ≤ 6) (hshift : size = 1 <<< log2)
    (side : UInt16) :
    ((side.toUInt32 + size - 1) / size).toNat =
      (side.toNat + 2 ^ log2.toNat - 1) / 2 ^ log2.toNat := by
  have hle : log2.toNat ≤ 6 := UInt32.le_iff_toNat_le.mp hlog2
  have hpow : 2 ^ log2.toNat ≤ 2 ^ 6 := Nat.pow_le_pow_right (by decide) hle
  have hpos : 1 ≤ 2 ^ log2.toNat := Nat.one_le_two_pow
  have hsize : size.toNat = 2 ^ log2.toNat := by
    have hsmall : log2.toNat % 32 = log2.toNat := Nat.mod_eq_of_lt (by omega)
    rw [hshift,UInt32.toNat_shiftLeft,hsmall,UInt32.toNat_one,Nat.one_shiftLeft,
      Nat.mod_eq_of_lt (by omega)]
  have hside := side.toNat_lt
  have hsum : (side.toUInt32 + size).toNat = side.toNat + 2 ^ log2.toNat := by
    rw [UInt32.toNat_add,hsize,UInt16.toNat_toUInt32]
    omega
  have hone : (1 : UInt32) ≤ side.toUInt32 + size := by
    rw [UInt32.le_iff_toNat_le,hsum]
    exact Nat.le_trans hpos (Nat.le_add_left _ _)
  rw [UInt32.toNat_div,UInt32.toNat_sub_of_le _ _ hone,hsum,hsize]
  rfl

theorem ctbCount_pos {log2 side : Nat} (h : 0 < side) : 0 < (side + 2 ^ log2 - 1) / 2 ^ log2 :=
  Nat.div_pos (by omega) (Nat.two_pow_pos log2)

section
theorem window_getD (g : Geometry) :
    (if g.cropped = true then some g.window else none).getD ⟨0,0,0,0⟩ = g.window := by
  split
  · rfl
  · rename_i hnone
    simp only [Geometry.cropped,Bool.or_eq_true,bne_iff_ne,not_or,not_not] at hnone
    rw [Geometry.window,hnone.1,hnone.2]
    rfl

theorem sum_lt_ctbs {n : Nat} {sizes : Fin n → UInt16} {count : Nat} {side : UInt16}
    {log2 size : UInt32} (hn : n ≤ 21) (hlog2 : log2 ≤ 6) (hshift : size = 1 <<< log2)
    (hside : 0 < side.toNat)
    (hfit : tilesFit ((side.toUInt32 + size - 1) / size) 0 ((List.ofFn sizes).take count) = true) :
    ((((List.ofFn sizes).take count).map UInt16.toNat).map (· + 1)).sum <
      (side.toNat + 2 ^ log2.toNat - 1) / 2 ^ log2.toNat := by
  have hlength : ((List.ofFn sizes).take count).length ≤ 21 := by
    rw [length_take,length_ofFn]
    omega
  have hcount := ctbCount hlog2 hshift side
  have hsum := tilesFit_sum hfit
    (by rw [hcount]; exact ctbCount_pos hside)
    (by rw [UInt32.toNat_zero]; omega)
  rw [hcount,UInt32.toNat_zero,Nat.zero_add] at hsum
  rw [map_map]
  exact hsum

theorem describes_tiles (h : Accepted input g) (hflags : input.FlagsBinary)
    (hon : input.tilesEnabledFlag ≠ 0) : DescribesTiles input (input.sps g) input.tiles := by
  obtain ⟨hcolumns,hrows⟩ := h.tiles hon
  rw [h.geometry] at hcolumns hrows
  have hctb : (input.sps g).ctbSize = 2 ^ input.ctbLog2.toNat := by
    rw [ctbLog2_toNat]
    rfl
  exact
    { numTileColumnsMinus1 := rfl
      numTileRowsMinus1 := rfl
      uniformSpacingFlag := rfl
      columnWidthMinus1 := rfl
      columnCount := by
        change (input.columns.map UInt16.toNat).length = input.numTileColumnsMinus1.toNat
        rw [length_map,ParameterInput.columns,length_take,length_ofFn,Nat.min_eq_left h.columns]
      rowHeightMinus1 := rfl
      rowCount := by
        change (input.rows.map UInt16.toNat).length = input.numTileRowsMinus1.toNat
        rw [length_map,ParameterInput.rows,length_take,length_ofFn,Nat.min_eq_left h.rows]
      loopFilterAcrossTilesEnabledFlag := coded_toNat hflags.loopFilterAcrossTilesEnabledFlag
      lastColumn := by
        rw [Sps.picWidthInCtbs,hctb]
        exact sum_lt_ctbs (by decide) h.ctb rfl h.picWidth hcolumns
      lastRow := by
        rw [Sps.picHeightInCtbs,hctb]
        exact sum_lt_ctbs (by decide) h.ctb rfl h.picHeight hrows }

theorem describes (h : Accepted input g) (hflags : input.FlagsBinary) (ppsId : UInt32) :
    Describes input ppsId input.vps (input.sps g) (input.pps ppsId) where
  vpsOrdering := rfl
  vpsId := rfl
  spsId := rfl
  chromaFormatIdc := rfl
  separateColourPlaneFlag := by rw [h.separate]; rfl
  picWidthInLumaSamples := rfl
  picHeightInLumaSamples := rfl
  visibleWidth := by
    have hwidth := h.width
    change input.picWidthInLumaSamples.toNat - 2 *
      (((if g.cropped = true then some g.window else none).getD ⟨0,0,0,0⟩).left +
        ((if g.cropped = true then some g.window else none).getD ⟨0,0,0,0⟩).right) = _
    rw [window_getD]
    change _ - 2 * (0 + g.cropRight.toNat) = _
    omega
  visibleHeight := by
    have hheight := h.height
    change input.picHeightInLumaSamples.toNat - 2 *
      (((if g.cropped = true then some g.window else none).getD ⟨0,0,0,0⟩).top +
        ((if g.cropped = true then some g.window else none).getD ⟨0,0,0,0⟩).bottom) = _
    rw [window_getD]
    change _ - 2 * (0 + g.cropBottom.toNat) = _
    omega
  bitDepthLumaMinus8 := rfl
  bitDepthChromaMinus8 := rfl
  log2MaxPicOrderCntLsbMinus4 := rfl
  spsOrdering := rfl
  log2MinLumaCodingBlockSizeMinus3 := rfl
  log2DiffMaxMinLumaCodingBlockSize := rfl
  log2MinTransformBlockSizeMinus2 := rfl
  log2DiffMaxMinTransformBlockSize := rfl
  maxTransformHierarchyDepthInter := rfl
  maxTransformHierarchyDepthIntra := rfl
  scalingListEnabledFlag := by rw [h.scalingList]; rfl
  ampEnabledFlag := coded_toNat hflags.ampEnabledFlag
  sampleAdaptiveOffsetEnabledFlag := coded_toNat hflags.sampleAdaptiveOffsetEnabledFlag
  pcmEnabledFlag := by rw [h.pcm]; rfl
  numShortTermRefPicSets := by rw [h.shortTerm]; rfl
  longTermRefPicsPresentFlag := by rw [h.longTerm]; rfl
  numLongTermRefPicSps := by rw [h.longTermCount]; rfl
  spsTemporalMvpEnabledFlag := coded_toNat hflags.spsTemporalMvpEnabledFlag
  strongIntraSmoothingEnabledFlag := coded_toNat hflags.strongIntraSmoothingEnabledFlag
  picParameterSetId := rfl
  dependentSliceSegmentsEnabledFlag := coded_toNat hflags.dependentSliceSegmentsEnabledFlag
  outputFlagPresentFlag := coded_toNat hflags.outputFlagPresentFlag
  numExtraSliceHeaderBits := rfl
  signDataHidingEnabledFlag := coded_toNat hflags.signDataHidingEnabledFlag
  cabacInitPresentFlag := coded_toNat hflags.cabacInitPresentFlag
  numRefIdxL0DefaultActiveMinus1 := rfl
  numRefIdxL1DefaultActiveMinus1 := rfl
  initQpMinus26 := rfl
  constrainedIntraPredFlag := coded_toNat hflags.constrainedIntraPredFlag
  transformSkipEnabledFlag := coded_toNat hflags.transformSkipEnabledFlag
  cuQpDeltaEnabledFlag := present_toNat hflags.cuQpDeltaEnabledFlag
  diffCuQpDeltaDepth := by
    intro depth hdepth
    obtain ⟨-,hsome⟩ := Option.ite_none_right_eq_some.mp hdepth
    exact (Option.some.inj hsome).symm
  ppsCbQpOffset := rfl
  ppsCrQpOffset := rfl
  ppsSliceChromaQpOffsetsPresentFlag := coded_toNat hflags.ppsSliceChromaQpOffsetsPresentFlag
  weightedPredFlag := coded_toNat hflags.weightedPredFlag
  weightedBipredFlag := coded_toNat hflags.weightedBipredFlag
  transquantBypassEnabledFlag := coded_toNat hflags.transquantBypassEnabledFlag
  entropyCodingSyncEnabledFlag := coded_toNat hflags.entropyCodingSyncEnabledFlag
  tilesEnabledFlag := present_toNat hflags.tilesEnabledFlag
  tiles := by
    intro tiles htiles
    obtain ⟨hon,hsome⟩ := Option.ite_none_right_eq_some.mp htiles
    rw [← Option.some.inj hsome]
    exact describes_tiles h hflags hon
  ppsLoopFilterAcrossSlicesEnabledFlag := coded_toNat hflags.ppsLoopFilterAcrossSlicesEnabledFlag
  deblocking := ⟨input.deblocking,rfl,
    { overrideEnabledFlag := coded_toNat hflags.deblockingFilterOverrideEnabledFlag
      disabledFlag := coded_toNat hflags.ppsDisableDeblockingFilterFlag
      offsets := rfl }⟩
  listsModificationPresentFlag := coded_toNat hflags.listsModificationPresentFlag
  log2ParallelMergeLevelMinus2 := rfl
  sliceSegmentHeaderExtensionPresentFlag :=
    coded_toNat hflags.sliceSegmentHeaderExtensionPresentFlag
end

def configUnits (vps sps pps : BitWriter) : List (List UInt8) :=
  [nalHeader 32 ++ escape 0 vps.data,nalHeader 33 ++ escape 0 sps.data,
    nalHeader 34 ++ escape 0 pps.data]

theorem append_units {vps sps pps : BitWriter} (hvps : Finished 400 vps) (hsps : Finished 1600 sps)
    (hpps : Finished 3450 pps) (ppsId : UInt32) :
    (do
      let data ← appendAnnexbNal format [] (nalHeader 32) vps
      let data ← appendAnnexbNal format data (nalHeader 33) sps
      let data ← appendAnnexbNal format data (nalHeader 34) pps
      return CodecConfig.mk data ppsId) =
      .ok ⟨(configUnits vps sps pps).flatMap framed,ppsId⟩ := by
  have hcapacity : format.capacity = 2048 := rfl
  have hheader (nalUnitType : UInt8) : (nalHeader nalUnitType).length = 2 := rfl
  have hvpsLength := hvps.length_framed (nalHeader 32)
  have hspsLength := hsps.length_framed (nalHeader 33)
  rw [hheader] at hvpsLength hspsLength
  have hfirst := hvps.append (f := format) [] (nalHeader 32) (by decide)
  have hsecond := hsps.append (f := format) (framed (nalHeader 32 ++ escape 0 vps.data))
    (nalHeader 33) (by rw [hheader,hcapacity]; omega)
  have hthird := hpps.append (f := format)
    (framed (nalHeader 32 ++ escape 0 vps.data) ++ framed (nalHeader 33 ++ escape 0 sps.data))
    (nalHeader 34) (by rw [length_append,hheader,hcapacity]; omega)
  rw [nil_append] at hfirst
  rw [hfirst,ok_bind,hsecond,ok_bind,hthird,ok_bind]
  simp only [configUnits,List.flatMap_cons,List.flatMap_nil,append_nil,append_assoc]
  rfl

theorem nalHeader_ne_zero {nalUnitType : UInt8} (h : nalUnitType <<< 1 ≠ 0) :
    ∀ byte ∈ nalHeader nalUnitType, byte ≠ 0 :=
  forall_mem_cons.mpr ⟨h,forall_mem_singleton.mpr (by decide)⟩

theorem readConfig_units {vps sps pps : BitWriter} {v : Vps} {s : Sps} {p : Pps}
    (hvps : Payload readVps v vps) (hsps : Payload readSps s sps) (hpps : Payload readPps p pps) :
    readConfig ((configUnits vps sps pps).flatMap framed) = some (v, s, p) := by
  have hunits : units ((configUnits vps sps pps).flatMap framed) =
      some (configUnits vps sps pps) := by
    refine units_of_delimited (forall_mem_cons.mpr ⟨?_,forall_mem_cons.mpr ⟨?_,
      forall_mem_singleton.mpr ?_⟩⟩)
    · exact hvps.delimited (nalHeader 32) (nalHeader_ne_zero (by decide))
    · exact hsps.delimited (nalHeader 33) (nalHeader_ne_zero (by decide))
    · exact hpps.delimited (nalHeader 34) (nalHeader_ne_zero (by decide))
  have hvpsUnit := hvps.decoded (nalHeader 32)
  have hspsUnit := hsps.decoded (nalHeader 33)
  have hppsUnit := hpps.decoded (nalHeader 34)
  have hheader (nalUnitType : UInt8) : (nalHeader nalUnitType).length = 2 := rfl
  rw [hheader] at hvpsUnit hspsUnit hppsUnit
  rw [readConfig,hunits]
  simp only [configUnits,hvpsUnit,hspsUnit,hppsUnit,Option.bind_eq_bind,Option.bind_some]
  rfl

/-- For everything that the validator accepts the configuration is built. If the flags are flags, a
parser of the standard syntax takes it apart into three parameter sets, each up to its trailing
bits, which say what the input says. -/
theorem buildCodecConfig_describes (errno : Errno) (input : ParameterInput) (ppsId : UInt32)
    (hvalid : (validateParameters input).isOk = true) (hid : ppsId ≤ 63) :
    ∃ config, buildCodecConfig errno input ppsId = .ok config ∧ config.ppsId = ppsId ∧
    (input.FlagsBinary → ∃ vps sps pps, readConfig config.data = some (vps, sps, pps) ∧
    Describes input ppsId vps sps pps) := by
  obtain ⟨g,hg⟩ : ∃ g, validateParameters input = .ok g := by
    cases hresult : validateParameters input with
    | error e => rw [hresult] at hvalid; cases hvalid
    | ok g => exact ⟨g,rfl⟩
  have haccepted := accepted_of_validateParameters hg
  obtain ⟨vps,hvps,hvpsFinished,hvpsPayload⟩ := (codes_vps input).payload (by decide)
    fun _ _ _ hread => hread _
  obtain ⟨sps,hsps,hspsFinished,hspsPayload⟩ := (codes_sps haccepted).payload (by decide)
    fun _ _ _ hread => hread _
  obtain ⟨pps,hpps,hppsFinished⟩ := (fits_pps haccepted hid).finish (by decide)
  refine ⟨⟨(configUnits vps sps pps).flatMap framed,ppsId⟩,?_,rfl,fun hflags => ?_⟩
  · rw [buildCodecConfig,if_neg (UInt32.not_lt.mpr hid),hg,ok_bind,hvps,ok_bind,hsps,ok_bind,
      hpps,ok_bind]
    exact append_units hvpsFinished hspsFinished hppsFinished ppsId
  · obtain ⟨pps',hpps', -,hppsPayload⟩ := (codes_pps haccepted hflags hid).payload (by decide)
      fun _ _ _ hread => hread _
    rw [Except.ok.inj (hpps.symm.trans hpps')]
    exact ⟨input.vps,input.sps g,input.pps ppsId,
      readConfig_units hvpsPayload hspsPayload hppsPayload,describes haccepted hflags ppsId⟩

def tiledHd : ParameterInput :=
  { visibleWidth := 1920
    visibleHeight := 1080
    picWidthInLumaSamples := 1920
    picHeightInLumaSamples := 1088
    chromaFormatIdc := 1
    separateColourPlaneFlag := 0
    bitDepthLumaMinus8 := 0
    bitDepthChromaMinus8 := 0
    spsMaxDecPicBufferingMinus1 := 4
    noPicReorderingFlag := 0
    log2MinLumaCodingBlockSizeMinus3 := 0
    log2DiffMaxMinLumaCodingBlockSize := 3
    log2MinTransformBlockSizeMinus2 := 0
    log2DiffMaxMinTransformBlockSize := 3
    maxTransformHierarchyDepthIntra := 1
    maxTransformHierarchyDepthInter := 2
    scalingListEnabledFlag := 0
    ampEnabledFlag := 1
    sampleAdaptiveOffsetEnabledFlag := 1
    pcmEnabledFlag := 0
    strongIntraSmoothingEnabledFlag := 1
    numShortTermRefPicSets := 0
    longTermRefPicsPresentFlag := 0
    numLongTermRefPicSps := 0
    spsTemporalMvpEnabledFlag := 1
    log2MaxPicOrderCntLsbMinus4 := 4
    dependentSliceSegmentsEnabledFlag := 0
    outputFlagPresentFlag := 0
    numExtraSliceHeaderBits := 0
    signDataHidingEnabledFlag := 1
    cabacInitPresentFlag := 1
    numRefIdxL0DefaultActiveMinus1 := 3
    numRefIdxL1DefaultActiveMinus1 := 1
    initQpMinus26 := -2
    constrainedIntraPredFlag := 0
    transformSkipEnabledFlag := 1
    cuQpDeltaEnabledFlag := 1
    diffCuQpDeltaDepth := 1
    ppsCbQpOffset := -3
    ppsCrQpOffset := 2
    ppsSliceChromaQpOffsetsPresentFlag := 0
    weightedPredFlag := 0
    weightedBipredFlag := 0
    transquantBypassEnabledFlag := 0
    tilesEnabledFlag := 1
    entropyCodingSyncEnabledFlag := 0
    numTileColumnsMinus1 := 1
    numTileRowsMinus1 := 1
    columnWidthMinus1 := fun i => if i = 0 then 14 else 0
    rowHeightMinus1 := fun i => if i = 0 then 8 else 0
    loopFilterAcrossTilesEnabledFlag := 1
    ppsLoopFilterAcrossSlicesEnabledFlag := 1
    deblockingFilterOverrideEnabledFlag := 0
    ppsDisableDeblockingFilterFlag := 0
    ppsBetaOffsetDiv2 := 0
    ppsTcOffsetDiv2 := -1
    listsModificationPresentFlag := 0
    log2ParallelMergeLevelMinus2 := 0
    sliceSegmentHeaderExtensionPresentFlag := 0 }

theorem buildCodecConfig_describes_tiledHd :
    ∃ config vps sps pps, buildCodecConfig .eio tiledHd 1 = .ok config ∧
    readConfig config.data = some (vps, sps, pps) ∧ Describes tiledHd 1 vps sps pps := by
  obtain ⟨config,hbuild, -,hread⟩ :=
    buildCodecConfig_describes .eio tiledHd 1 (by decide) (by decide)
  obtain ⟨vps,sps,pps,hparsed,hdescribes⟩ := hread (by constructor <;> decide)
  exact ⟨config,vps,sps,pps,hbuild,hparsed,hdescribes⟩

/-- With a tile flag of two the sizes of the tiles are written, but the flag is not. The validator
accepts this, and the configuration cannot be read any more. -/
theorem buildCodecConfig_evenFlag :
    let input := { tiledHd with tilesEnabledFlag := 2 }
    (validateParameters input).isOk = true ∧
      (buildCodecConfig .eio input 1).toOption.map (fun config => readConfig config.data) =
        some none := by
  decide +kernel
end LinDeX.Hevc
