import LinDeX.Library.AnnexB

/-!
# Parameter sets of H.265

Video, sequence and picture parameter sets in the syntax of the standard for the Main profile. The
parser gives up on VUI and HRD parameters and on extensions. Names are those of the syntax tables.
-/
namespace LinDeX.Hevc
open Bits AnnexB
/-- `profile_tier_level`. The 32 compatibility flags are one number, and so are the 48 bits of
source and constraint flags. -/
structure ProfileTierLevel where
  profileSpace : Nat
  tierFlag : Bool
  (profileIdc compatibilityFlags constraintFlags levelIdc : Nat)
  subLayers : List (Option Nat × Option Nat)
  deriving DecidableEq, Repr

def readProfileTierLevel (maxSubLayersMinus1 : Nat) : Parser ProfileTierLevel := do
  let profileSpace ← readBits 2
  let tierFlag ← readBit
  let profileIdc ← readBits 5
  let compatibilityFlags ← readBits 32
  let constraintFlags ← readBits 48
  let levelIdc ← readBits 8
  let flags : Parser (Bool × Bool) := do
    let profilePresentFlag ← readBit
    let levelPresentFlag ← readBit
    return (profilePresentFlag, levelPresentFlag)
  let present ← readMany flags maxSubLayersMinus1
  let _ ← readIf (0 < maxSubLayersMinus1) (readMany (readBits 2) (8 - maxSubLayersMinus1))
  let subLayers ← present.mapM fun (profilePresentFlag, levelPresentFlag) => do
    let profile ← readIf (profilePresentFlag = true) (readBits 88)
    let level ← readIf (levelPresentFlag = true) (readBits 8)
    return (profile, level)
  return ⟨profileSpace,tierFlag,profileIdc,compatibilityFlags,constraintFlags,levelIdc,subLayers⟩

structure Ordering where
  (maxDecPicBufferingMinus1 maxNumReorderPics maxLatencyIncreasePlus1 : Nat)
  deriving DecidableEq, Repr

def readOrdering : Parser Ordering := do
  let maxDecPicBufferingMinus1 ← readUe
  let maxNumReorderPics ← readUe
  let maxLatencyIncreasePlus1 ← readUe
  return ⟨maxDecPicBufferingMinus1,maxNumReorderPics,maxLatencyIncreasePlus1⟩

def readOrderings (maxSubLayersMinus1 : Nat) : Parser (List Ordering) := do
  let infoPresentFlag ← readBit
  readMany readOrdering (if infoPresentFlag then maxSubLayersMinus1 + 1 else 1)

inductive ScalingList where
  | predicted (matrixIdDelta : Nat)
  | explicit (dcCoefMinus8 : Option Int) (deltaCoefs : List Int)
  deriving DecidableEq, Repr

def readScalingList (sizeId : Nat) : Parser ScalingList := do
  let predModeFlag ← readBit
  if predModeFlag then
    let dcCoefMinus8 ← readIf (1 < sizeId) readSe
    let deltaCoefs ← readMany readSe (min 64 (2 ^ (4 + 2 * sizeId)))
    return .explicit dcCoefMinus8 deltaCoefs
  else .predicted <$> readUe

/-- `scaling_list_data`: six matrices for each size but the largest, which has two. -/
def readScalingLists : Parser (List ScalingList) :=
  [0,0,0,0,0,0,1,1,1,1,1,1,2,2,2,2,2,2,3,3].mapM readScalingList

structure VpsTiming where
  (numUnitsInTick timeScale : Nat)
  numTicksPocDiffOneMinus1 : Option Nat
  deriving DecidableEq, Repr

def readVpsTiming : Parser VpsTiming := do
  let numUnitsInTick ← readBits 32
  let timeScale ← readBits 32
  let pocProportionalToTimingFlag ← readBit
  let numTicksPocDiffOneMinus1 ← readIf (pocProportionalToTimingFlag = true) readUe
  let numHrdParameters ← readUe
  if 0 < numHrdParameters then failure
  else return ⟨numUnitsInTick,timeScale,numTicksPocDiffOneMinus1⟩

/-- `video_parameter_set_rbsp`. -/
structure Vps where
  videoParameterSetId : Nat
  (baseLayerInternalFlag baseLayerAvailableFlag : Bool)
  (maxLayersMinus1 maxSubLayersMinus1 : Nat)
  temporalIdNestingFlag : Bool
  reserved : Nat
  profileTierLevel : ProfileTierLevel
  orderings : List Ordering
  maxLayerId : Nat
  layerSets : List (List Bool)
  timing : Option VpsTiming
  deriving DecidableEq, Repr

def readVps : Parser Vps := do
  let videoParameterSetId ← readBits 4
  let baseLayerInternalFlag ← readBit
  let baseLayerAvailableFlag ← readBit
  let maxLayersMinus1 ← readBits 6
  let maxSubLayersMinus1 ← readBits 3
  let temporalIdNestingFlag ← readBit
  let reserved ← readBits 16
  let profileTierLevel ← readProfileTierLevel maxSubLayersMinus1
  let orderings ← readOrderings maxSubLayersMinus1
  let maxLayerId ← readBits 6
  let numLayerSetsMinus1 ← readUe
  let layerSets ← readMany (readMany readBit (maxLayerId + 1)) numLayerSetsMinus1
  let timingInfoPresentFlag ← readBit
  let timing ← readIf (timingInfoPresentFlag = true) readVpsTiming
  let extensionFlag ← readBit
  if extensionFlag then failure
  else
    return ⟨videoParameterSetId,baseLayerInternalFlag,baseLayerAvailableFlag,maxLayersMinus1,
      maxSubLayersMinus1,temporalIdNestingFlag,reserved,profileTierLevel,orderings,maxLayerId,
      layerSets,timing⟩

structure Window where
  (left right top bottom : Nat)
  deriving DecidableEq, Repr

def readWindow : Parser Window := do
  let left ← readUe
  let right ← readUe
  let top ← readUe
  let bottom ← readUe
  return ⟨left,right,top,bottom⟩

structure Pcm where
  (sampleBitDepthLumaMinus1 sampleBitDepthChromaMinus1 log2MinLumaCodingBlockSizeMinus3 : Nat)
  log2DiffMaxMinLumaCodingBlockSize : Nat
  loopFilterDisabledFlag : Bool
  deriving DecidableEq, Repr

def readPcm : Parser Pcm := do
  let sampleBitDepthLumaMinus1 ← readBits 4
  let sampleBitDepthChromaMinus1 ← readBits 4
  let log2MinLumaCodingBlockSizeMinus3 ← readUe
  let log2DiffMaxMinLumaCodingBlockSize ← readUe
  let loopFilterDisabledFlag ← readBit
  return ⟨sampleBitDepthLumaMinus1,sampleBitDepthChromaMinus1,log2MinLumaCodingBlockSizeMinus3,
    log2DiffMaxMinLumaCodingBlockSize,loopFilterDisabledFlag⟩

inductive RefPicSet where
  | predicted (deltaRpsSign : Bool) (absDeltaRpsMinus1 : Nat) (flags : List (Bool × Option Bool))
  | explicit (numNegativePics : Nat) (pics : List (Nat × Bool))
  deriving DecidableEq, Repr

def RefPicSet.numDeltaPocs : RefPicSet → Nat
  | .predicted _ _ flags => flags.countP fun f => f.1 || f.2.getD false
  | .explicit _ pics => pics.length

def readRefPicSet (previous : Option RefPicSet) : Parser RefPicSet := do
  let predicted ← readIf (previous.isSome = true) readBit
  if predicted = some true then
    let deltaRpsSign ← readBit
    let absDeltaRpsMinus1 ← readUe
    let flags : Parser (Bool × Option Bool) := do
      let usedByCurrPicFlag ← readBit
      let useDeltaFlag ← readIf (usedByCurrPicFlag = false) readBit
      return (usedByCurrPicFlag, useDeltaFlag)
    .predicted deltaRpsSign absDeltaRpsMinus1 <$>
      readMany flags ((previous.map RefPicSet.numDeltaPocs).getD 0 + 1)
  else
    let numNegativePics ← readUe
    let numPositivePics ← readUe
    let pic : Parser (Nat × Bool) := do
      let deltaPocMinus1 ← readUe
      let usedByCurrPicFlag ← readBit
      return (deltaPocMinus1, usedByCurrPicFlag)
    .explicit numNegativePics <$> readMany pic (numNegativePics + numPositivePics)

def readRefPicSets (previous : Option RefPicSet) : Nat → Parser (List RefPicSet)
  | 0 => pure []
  | count + 1 => do
      let first ← readRefPicSet previous
      let rest ← readRefPicSets first count
      return first :: rest

/-- `seq_parameter_set_rbsp`. -/
structure Sps where
  (videoParameterSetId maxSubLayersMinus1 : Nat)
  temporalIdNestingFlag : Bool
  profileTierLevel : ProfileTierLevel
  (seqParameterSetId chromaFormatIdc : Nat)
  separateColourPlaneFlag : Option Bool
  (picWidthInLumaSamples picHeightInLumaSamples : Nat)
  conformanceWindow : Option Window
  (bitDepthLumaMinus8 bitDepthChromaMinus8 log2MaxPicOrderCntLsbMinus4 : Nat)
  orderings : List Ordering
  (log2MinLumaCodingBlockSizeMinus3 log2DiffMaxMinLumaCodingBlockSize : Nat)
  (log2MinLumaTransformBlockSizeMinus2 log2DiffMaxMinLumaTransformBlockSize : Nat)
  (maxTransformHierarchyDepthInter maxTransformHierarchyDepthIntra : Nat)
  scalingListEnabledFlag : Bool
  scalingLists : Option (Option (List ScalingList))
  (ampEnabledFlag sampleAdaptiveOffsetEnabledFlag : Bool)
  pcm : Option Pcm
  shortTermRefPicSets : List RefPicSet
  longTermRefPics : Option (List (Nat × Bool))
  (temporalMvpEnabledFlag strongIntraSmoothingEnabledFlag : Bool)
  deriving DecidableEq, Repr

def readSps : Parser Sps := do
  let videoParameterSetId ← readBits 4
  let maxSubLayersMinus1 ← readBits 3
  let temporalIdNestingFlag ← readBit
  let profileTierLevel ← readProfileTierLevel maxSubLayersMinus1
  let seqParameterSetId ← readUe
  let chromaFormatIdc ← readUe
  let separateColourPlaneFlag ← readIf (chromaFormatIdc = 3) readBit
  let picWidthInLumaSamples ← readUe
  let picHeightInLumaSamples ← readUe
  let conformanceWindowFlag ← readBit
  let conformanceWindow ← readIf (conformanceWindowFlag = true) readWindow
  let bitDepthLumaMinus8 ← readUe
  let bitDepthChromaMinus8 ← readUe
  let log2MaxPicOrderCntLsbMinus4 ← readUe
  let orderings ← readOrderings maxSubLayersMinus1
  let log2MinLumaCodingBlockSizeMinus3 ← readUe
  let log2DiffMaxMinLumaCodingBlockSize ← readUe
  let log2MinLumaTransformBlockSizeMinus2 ← readUe
  let log2DiffMaxMinLumaTransformBlockSize ← readUe
  let maxTransformHierarchyDepthInter ← readUe
  let maxTransformHierarchyDepthIntra ← readUe
  let scalingListEnabledFlag ← readBit
  let scalingLists ← readIf (scalingListEnabledFlag = true) do
    let dataPresentFlag ← readBit
    readIf (dataPresentFlag = true) readScalingLists
  let ampEnabledFlag ← readBit
  let sampleAdaptiveOffsetEnabledFlag ← readBit
  let pcmEnabledFlag ← readBit
  let pcm ← readIf (pcmEnabledFlag = true) readPcm
  let numShortTermRefPicSets ← readUe
  let shortTermRefPicSets ← readRefPicSets none numShortTermRefPicSets
  let longTermRefPicsPresentFlag ← readBit
  let longTermRefPics ← readIf (longTermRefPicsPresentFlag = true) do
    let numLongTermRefPics ← readUe
    let pic : Parser (Nat × Bool) := do
      let pocLsb ← readBits (log2MaxPicOrderCntLsbMinus4 + 4)
      let usedByCurrPicFlag ← readBit
      return (pocLsb, usedByCurrPicFlag)
    readMany pic numLongTermRefPics
  let temporalMvpEnabledFlag ← readBit
  let strongIntraSmoothingEnabledFlag ← readBit
  let vuiParametersPresentFlag ← readBit
  let extensionPresentFlag ← readBit
  if vuiParametersPresentFlag || extensionPresentFlag then failure
  else
    return ⟨videoParameterSetId,maxSubLayersMinus1,temporalIdNestingFlag,profileTierLevel,
      seqParameterSetId,chromaFormatIdc,separateColourPlaneFlag,picWidthInLumaSamples,
      picHeightInLumaSamples,conformanceWindow,bitDepthLumaMinus8,bitDepthChromaMinus8,
      log2MaxPicOrderCntLsbMinus4,orderings,log2MinLumaCodingBlockSizeMinus3,
      log2DiffMaxMinLumaCodingBlockSize,log2MinLumaTransformBlockSizeMinus2,
      log2DiffMaxMinLumaTransformBlockSize,maxTransformHierarchyDepthInter,
      maxTransformHierarchyDepthIntra,scalingListEnabledFlag,scalingLists,ampEnabledFlag,
      sampleAdaptiveOffsetEnabledFlag,pcm,shortTermRefPicSets,longTermRefPics,
      temporalMvpEnabledFlag,strongIntraSmoothingEnabledFlag⟩
variable (sps : Sps)
def Sps.visibleWidth : Nat :=
  let window := sps.conformanceWindow.getD ⟨0,0,0,0⟩
  sps.picWidthInLumaSamples - 2 * (window.left + window.right)

def Sps.visibleHeight : Nat :=
  let window := sps.conformanceWindow.getD ⟨0,0,0,0⟩
  sps.picHeightInLumaSamples - 2 * (window.top + window.bottom)

/-- `CtbSizeY`. -/
def Sps.ctbSize : Nat :=
  2 ^ (sps.log2MinLumaCodingBlockSizeMinus3 + 3 + sps.log2DiffMaxMinLumaCodingBlockSize)

/-- `PicWidthInCtbsY`. -/
def Sps.picWidthInCtbs : Nat :=
  (sps.picWidthInLumaSamples + sps.ctbSize - 1) / sps.ctbSize

/-- `PicHeightInCtbsY`. -/
def Sps.picHeightInCtbs : Nat :=
  (sps.picHeightInLumaSamples + sps.ctbSize - 1) / sps.ctbSize

structure Tiles where
  (numTileColumnsMinus1 numTileRowsMinus1 : Nat)
  uniformSpacingFlag : Bool
  (columnWidthMinus1 rowHeightMinus1 : List Nat)
  loopFilterAcrossTilesEnabledFlag : Bool
  deriving DecidableEq, Repr

def readTiles : Parser Tiles := do
  let numTileColumnsMinus1 ← readUe
  let numTileRowsMinus1 ← readUe
  let uniformSpacingFlag ← readBit
  let columnWidthMinus1 ← readMany readUe (if uniformSpacingFlag then 0 else numTileColumnsMinus1)
  let rowHeightMinus1 ← readMany readUe (if uniformSpacingFlag then 0 else numTileRowsMinus1)
  let loopFilterAcrossTilesEnabledFlag ← readBit
  return ⟨numTileColumnsMinus1,numTileRowsMinus1,uniformSpacingFlag,columnWidthMinus1,
    rowHeightMinus1,loopFilterAcrossTilesEnabledFlag⟩

structure Deblocking where
  (overrideEnabledFlag disabledFlag : Bool)
  offsets : Option (Int × Int)
  deriving DecidableEq, Repr

def readDeblocking : Parser Deblocking := do
  let overrideEnabledFlag ← readBit
  let disabledFlag ← readBit
  let offsets ← readIf (disabledFlag = false) do
    let betaOffsetDiv2 ← readSe
    let tcOffsetDiv2 ← readSe
    return (betaOffsetDiv2, tcOffsetDiv2)
  return ⟨overrideEnabledFlag,disabledFlag,offsets⟩

/-- `pic_parameter_set_rbsp`. -/
structure Pps where
  (picParameterSetId seqParameterSetId : Nat)
  (dependentSliceSegmentsEnabledFlag outputFlagPresentFlag : Bool)
  numExtraSliceHeaderBits : Nat
  (signDataHidingEnabledFlag cabacInitPresentFlag : Bool)
  (numRefIdxL0DefaultActiveMinus1 numRefIdxL1DefaultActiveMinus1 : Nat)
  initQpMinus26 : Int
  (constrainedIntraPredFlag transformSkipEnabledFlag : Bool)
  diffCuQpDeltaDepth : Option Nat
  (cbQpOffset crQpOffset : Int)
  (sliceChromaQpOffsetsPresentFlag weightedPredFlag weightedBipredFlag : Bool)
  (transquantBypassEnabledFlag entropyCodingSyncEnabledFlag : Bool)
  tiles : Option Tiles
  loopFilterAcrossSlicesEnabledFlag : Bool
  deblocking : Option Deblocking
  scalingLists : Option (List ScalingList)
  listsModificationPresentFlag : Bool
  log2ParallelMergeLevelMinus2 : Nat
  sliceSegmentHeaderExtensionPresentFlag : Bool
  deriving DecidableEq, Repr

def readPps : Parser Pps := do
  let picParameterSetId ← readUe
  let seqParameterSetId ← readUe
  let dependentSliceSegmentsEnabledFlag ← readBit
  let outputFlagPresentFlag ← readBit
  let numExtraSliceHeaderBits ← readBits 3
  let signDataHidingEnabledFlag ← readBit
  let cabacInitPresentFlag ← readBit
  let numRefIdxL0DefaultActiveMinus1 ← readUe
  let numRefIdxL1DefaultActiveMinus1 ← readUe
  let initQpMinus26 ← readSe
  let constrainedIntraPredFlag ← readBit
  let transformSkipEnabledFlag ← readBit
  let cuQpDeltaEnabledFlag ← readBit
  let diffCuQpDeltaDepth ← readIf (cuQpDeltaEnabledFlag = true) readUe
  let cbQpOffset ← readSe
  let crQpOffset ← readSe
  let sliceChromaQpOffsetsPresentFlag ← readBit
  let weightedPredFlag ← readBit
  let weightedBipredFlag ← readBit
  let transquantBypassEnabledFlag ← readBit
  let tilesEnabledFlag ← readBit
  let entropyCodingSyncEnabledFlag ← readBit
  let tiles ← readIf (tilesEnabledFlag = true) readTiles
  let loopFilterAcrossSlicesEnabledFlag ← readBit
  let deblockingFilterControlPresentFlag ← readBit
  let deblocking ← readIf (deblockingFilterControlPresentFlag = true) readDeblocking
  let scalingListDataPresentFlag ← readBit
  let scalingLists ← readIf (scalingListDataPresentFlag = true) readScalingLists
  let listsModificationPresentFlag ← readBit
  let log2ParallelMergeLevelMinus2 ← readUe
  let sliceSegmentHeaderExtensionPresentFlag ← readBit
  let extensionPresentFlag ← readBit
  if extensionPresentFlag then failure
  else
    return ⟨picParameterSetId,seqParameterSetId,dependentSliceSegmentsEnabledFlag,
      outputFlagPresentFlag,numExtraSliceHeaderBits,signDataHidingEnabledFlag,
      cabacInitPresentFlag,numRefIdxL0DefaultActiveMinus1,numRefIdxL1DefaultActiveMinus1,
      initQpMinus26,constrainedIntraPredFlag,transformSkipEnabledFlag,diffCuQpDeltaDepth,
      cbQpOffset,crQpOffset,sliceChromaQpOffsetsPresentFlag,weightedPredFlag,
      weightedBipredFlag,transquantBypassEnabledFlag,entropyCodingSyncEnabledFlag,tiles,
      loopFilterAcrossSlicesEnabledFlag,deblocking,scalingLists,listsModificationPresentFlag,
      log2ParallelMergeLevelMinus2,sliceSegmentHeaderExtensionPresentFlag⟩

def isHeader (nalUnitType : UInt8) (header : List UInt8) : Prop := header = [nalUnitType <<< 1,1]
instance (nalUnitType : UInt8) (header : List UInt8) : Decidable (isHeader nalUnitType header) :=
  inferInstanceAs (Decidable (_ = _))

def readConfig (stream : List UInt8) : Option (Vps × Sps × Pps) := do
  match ← units stream with
  | [first,second,third] =>
    let (vpsHeader, vps) ← decodeUnit 2 readVps first
    let (spsHeader, sps) ← decodeUnit 2 readSps second
    let (ppsHeader, pps) ← decodeUnit 2 readPps third
    if isHeader 32 vpsHeader ∧ isHeader 33 spsHeader ∧ isHeader 34 ppsHeader then
      return (vps, sps, pps)
    else none
  | _ => none
end LinDeX.Hevc
