import LinDeX.Library.AnnexB

/-!
# Parameter sets of H.264

Sequence and picture parameter sets in the syntax of the standard, for the profiles without the
fields of the High profiles. Names are those of the syntax tables.
-/
namespace LinDeX.H264
open Bits AnnexB
structure Cropping where
  (left right top bottom : Nat)
  deriving DecidableEq, Repr

def readCropping : Parser Cropping := do
  let left ← readUe
  let right ← readUe
  let top ← readUe
  let bottom ← readUe
  return ⟨left,right,top,bottom⟩

structure OrderCycle where
  deltaPicOrderAlwaysZeroFlag : Bool
  (offsetForNonRefPic offsetForTopToBottomField : Int)
  offsetForRefFrame : List Int
  deriving DecidableEq, Repr

def readOrderCycle : Parser OrderCycle := do
  let deltaPicOrderAlwaysZeroFlag ← readBit
  let offsetForNonRefPic ← readSe
  let offsetForTopToBottomField ← readSe
  let count ← readUe
  let offsetForRefFrame ← readMany readSe count
  return ⟨deltaPicOrderAlwaysZeroFlag,offsetForNonRefPic,offsetForTopToBottomField,
    offsetForRefFrame⟩

structure AspectRatio where
  idc : Nat
  sar : Option (Nat × Nat)
  deriving DecidableEq, Repr

def readAspectRatio : Parser AspectRatio := do
  let idc ← readBits 8
  let sar ← readIf (idc = 255) do
    let width ← readBits 16
    let height ← readBits 16
    return (width, height)
  return ⟨idc,sar⟩

structure VideoSignal where
  format : Nat
  fullRangeFlag : Bool
  colour : Option (Nat × Nat × Nat)
  deriving DecidableEq, Repr

def readVideoSignal : Parser VideoSignal := do
  let format ← readBits 3
  let fullRangeFlag ← readBit
  let described ← readBit
  let colour ← readIf (described = true) do
    let primaries ← readBits 8
    let transfer ← readBits 8
    let matrix ← readBits 8
    return (primaries, transfer, matrix)
  return ⟨format,fullRangeFlag,colour⟩

structure Timing where
  (numUnitsInTick timeScale : Nat)
  fixedFrameRateFlag : Bool
  deriving DecidableEq, Repr

def readTiming : Parser Timing := do
  let numUnitsInTick ← readBits 32
  let timeScale ← readBits 32
  let fixedFrameRateFlag ← readBit
  return ⟨numUnitsInTick,timeScale,fixedFrameRateFlag⟩

/-- `hrd_parameters`. -/
structure Hrd where
  scales : Nat × Nat
  schedules : List (Nat × Nat × Bool)
  lengths : List Nat
  deriving DecidableEq, Repr

def readHrd : Parser Hrd := do
  let cpbCntMinus1 ← readUe
  let bitRateScale ← readBits 4
  let cpbSizeScale ← readBits 4
  let schedule : Parser (Nat × Nat × Bool) := do
    let bitRateValueMinus1 ← readUe
    let cpbSizeValueMinus1 ← readUe
    let cbrFlag ← readBit
    return (bitRateValueMinus1, cpbSizeValueMinus1, cbrFlag)
  let schedules ← readMany schedule (cpbCntMinus1 + 1)
  let lengths ← readMany (readBits 5) 4
  return ⟨(bitRateScale, cpbSizeScale),schedules,lengths⟩

structure BitstreamRestriction where
  motionVectorsOverPicBoundariesFlag : Bool
  (maxBytesPerPicDenom maxBitsPerMbDenom log2MaxMvLengthHorizontal log2MaxMvLengthVertical : Nat)
  (maxNumReorderFrames maxDecFrameBuffering : Nat)
  deriving DecidableEq, Repr

def readBitstreamRestriction : Parser BitstreamRestriction := do
  let motionVectorsOverPicBoundariesFlag ← readBit
  let maxBytesPerPicDenom ← readUe
  let maxBitsPerMbDenom ← readUe
  let log2MaxMvLengthHorizontal ← readUe
  let log2MaxMvLengthVertical ← readUe
  let maxNumReorderFrames ← readUe
  let maxDecFrameBuffering ← readUe
  return ⟨motionVectorsOverPicBoundariesFlag,maxBytesPerPicDenom,maxBitsPerMbDenom,
    log2MaxMvLengthHorizontal,log2MaxMvLengthVertical,maxNumReorderFrames,maxDecFrameBuffering⟩

/-- `vui_parameters`. -/
structure Vui where
  aspectRatio : Option AspectRatio
  overscanAppropriateFlag : Option Bool
  videoSignal : Option VideoSignal
  chromaLoc : Option (Nat × Nat)
  timing : Option Timing
  (nalHrd vclHrd : Option Hrd)
  lowDelayHrdFlag : Option Bool
  picStructPresentFlag : Bool
  bitstreamRestriction : Option BitstreamRestriction
  deriving DecidableEq, Repr

def readVui : Parser Vui := do
  let aspectRatioInfoPresentFlag ← readBit
  let aspectRatio ← readIf (aspectRatioInfoPresentFlag = true) readAspectRatio
  let overscanInfoPresentFlag ← readBit
  let overscanAppropriateFlag ← readIf (overscanInfoPresentFlag = true) readBit
  let videoSignalTypePresentFlag ← readBit
  let videoSignal ← readIf (videoSignalTypePresentFlag = true) readVideoSignal
  let chromaLocInfoPresentFlag ← readBit
  let chromaLoc ← readIf (chromaLocInfoPresentFlag = true) do
    let top ← readUe
    let bottom ← readUe
    return (top, bottom)
  let timingInfoPresentFlag ← readBit
  let timing ← readIf (timingInfoPresentFlag = true) readTiming
  let nalHrdParametersPresentFlag ← readBit
  let nalHrd ← readIf (nalHrdParametersPresentFlag = true) readHrd
  let vclHrdParametersPresentFlag ← readBit
  let vclHrd ← readIf (vclHrdParametersPresentFlag = true) readHrd
  let lowDelayHrdFlag ←
    readIf (nalHrdParametersPresentFlag = true ∨ vclHrdParametersPresentFlag = true) readBit
  let picStructPresentFlag ← readBit
  let bitstreamRestrictionFlag ← readBit
  let bitstreamRestriction ← readIf (bitstreamRestrictionFlag = true) readBitstreamRestriction
  return ⟨aspectRatio,overscanAppropriateFlag,videoSignal,chromaLoc,timing,nalHrd,vclHrd,
    lowDelayHrdFlag,picStructPresentFlag,bitstreamRestriction⟩

/-- `seq_parameter_set_data`. The six constraint flags and the two reserved bits are one number. -/
structure Sps where
  (profileIdc constraintFlags levelIdc seqParameterSetId log2MaxFrameNumMinus4 : Nat)
  picOrderCntType : Nat
  log2MaxPicOrderCntLsbMinus4 : Option Nat
  orderCycle : Option OrderCycle
  maxNumRefFrames : Nat
  gapsInFrameNumValueAllowedFlag : Bool
  (picWidthInMbsMinus1 picHeightInMapUnitsMinus1 : Nat)
  frameMbsOnlyFlag : Bool
  mbAdaptiveFrameFieldFlag : Option Bool
  direct8x8InferenceFlag : Bool
  cropping : Option Cropping
  vui : Option Vui
  deriving DecidableEq, Repr

def highProfiles : List Nat := [100,110,122,244,44,83,86,118,128,138,139,134,135]

def readSps : Parser Sps := do
  let profileIdc ← readBits 8
  if profileIdc ∈ highProfiles then failure
  else
    let constraintFlags ← readBits 8
    let levelIdc ← readBits 8
    let seqParameterSetId ← readUe
    let log2MaxFrameNumMinus4 ← readUe
    let picOrderCntType ← readUe
    let log2MaxPicOrderCntLsbMinus4 ← readIf (picOrderCntType = 0) readUe
    let orderCycle ← readIf (picOrderCntType = 1) readOrderCycle
    let maxNumRefFrames ← readUe
    let gapsInFrameNumValueAllowedFlag ← readBit
    let picWidthInMbsMinus1 ← readUe
    let picHeightInMapUnitsMinus1 ← readUe
    let frameMbsOnlyFlag ← readBit
    let mbAdaptiveFrameFieldFlag ← readIf (frameMbsOnlyFlag = false) readBit
    let direct8x8InferenceFlag ← readBit
    let frameCroppingFlag ← readBit
    let cropping ← readIf (frameCroppingFlag = true) readCropping
    let vuiParametersPresentFlag ← readBit
    let vui ← readIf (vuiParametersPresentFlag = true) readVui
    return ⟨profileIdc,constraintFlags,levelIdc,seqParameterSetId,log2MaxFrameNumMinus4,
      picOrderCntType,log2MaxPicOrderCntLsbMinus4,orderCycle,maxNumRefFrames,
      gapsInFrameNumValueAllowedFlag,picWidthInMbsMinus1,picHeightInMapUnitsMinus1,
      frameMbsOnlyFlag,mbAdaptiveFrameFieldFlag,direct8x8InferenceFlag,cropping,vui⟩

def Sps.visibleWidth (sps : Sps) : Nat :=
  let crop := sps.cropping.getD ⟨0,0,0,0⟩
  16 * (sps.picWidthInMbsMinus1 + 1) - 2 * (crop.left + crop.right)

def Sps.visibleHeight (sps : Sps) : Nat :=
  let crop := sps.cropping.getD ⟨0,0,0,0⟩
  let fields := 2 - sps.frameMbsOnlyFlag.toNat
  fields * (16 * (sps.picHeightInMapUnitsMinus1 + 1)) - 2 * fields * (crop.top + crop.bottom)

inductive SliceGroups where
  | interleaved (runLengthMinus1 : List Nat)
  | dispersed
  | foreground (corners : List (Nat × Nat))
  | changing (mapType : Nat) (directionFlag : Bool) (rateMinus1 : Nat)
  | explicit (ids : List Nat)
  deriving DecidableEq, Repr

def readSliceGroups (numSliceGroupsMinus1 : Nat) : Parser SliceGroups := do
  let mapType ← readUe
  match mapType with
  | 0 => .interleaved <$> readMany readUe (numSliceGroupsMinus1 + 1)
  | 1 => return .dispersed
  | 2 =>
    let corner : Parser (Nat × Nat) := do
      let topLeft ← readUe
      let bottomRight ← readUe
      return (topLeft, bottomRight)
    .foreground <$> readMany corner numSliceGroupsMinus1
  | 6 => do
      let picSizeInMapUnitsMinus1 ← readUe
      let width := numSliceGroupsMinus1.size
      .explicit <$> readMany (readBits width) (picSizeInMapUnitsMinus1 + 1)
  | _ =>
    if 6 < mapType then failure
    else do
      let directionFlag ← readBit
      let rateMinus1 ← readUe
      return .changing mapType directionFlag rateMinus1

/-- What follows if there is more data; scaling matrices are not read. -/
structure PpsExtension where
  transform8x8ModeFlag : Bool
  secondChromaQpIndexOffset : Int
  deriving DecidableEq, Repr

def readPpsExtension : Parser PpsExtension := do
  let transform8x8ModeFlag ← readBit
  let picScalingMatrixPresentFlag ← readBit
  if picScalingMatrixPresentFlag then failure
  else
    let secondChromaQpIndexOffset ← readSe
    return ⟨transform8x8ModeFlag,secondChromaQpIndexOffset⟩

/-- `pic_parameter_set_rbsp`. -/
structure Pps where
  (picParameterSetId seqParameterSetId : Nat)
  (entropyCodingModeFlag bottomFieldPicOrderInFramePresentFlag : Bool)
  numSliceGroupsMinus1 : Nat
  sliceGroups : Option SliceGroups
  (numRefIdxL0DefaultActiveMinus1 numRefIdxL1DefaultActiveMinus1 : Nat)
  weightedPredFlag : Bool
  weightedBipredIdc : Nat
  (picInitQpMinus26 picInitQsMinus26 chromaQpIndexOffset : Int)
  (deblockingFilterControlPresentFlag constrainedIntraPredFlag redundantPicCntPresentFlag : Bool)
  extension : Option PpsExtension
  deriving DecidableEq, Repr

def readPpsFields : Parser Pps := do
  let picParameterSetId ← readUe
  let seqParameterSetId ← readUe
  let entropyCodingModeFlag ← readBit
  let bottomFieldPicOrderInFramePresentFlag ← readBit
  let numSliceGroupsMinus1 ← readUe
  let sliceGroups ← readIf (0 < numSliceGroupsMinus1) (readSliceGroups numSliceGroupsMinus1)
  let numRefIdxL0DefaultActiveMinus1 ← readUe
  let numRefIdxL1DefaultActiveMinus1 ← readUe
  let weightedPredFlag ← readBit
  let weightedBipredIdc ← readBits 2
  let picInitQpMinus26 ← readSe
  let picInitQsMinus26 ← readSe
  let chromaQpIndexOffset ← readSe
  let deblockingFilterControlPresentFlag ← readBit
  let constrainedIntraPredFlag ← readBit
  let redundantPicCntPresentFlag ← readBit
  return ⟨picParameterSetId,seqParameterSetId,entropyCodingModeFlag,
    bottomFieldPicOrderInFramePresentFlag,numSliceGroupsMinus1,sliceGroups,
    numRefIdxL0DefaultActiveMinus1,numRefIdxL1DefaultActiveMinus1,weightedPredFlag,
    weightedBipredIdc,picInitQpMinus26,picInitQsMinus26,chromaQpIndexOffset,
    deblockingFilterControlPresentFlag,constrainedIntraPredFlag,redundantPicCntPresentFlag,none⟩

def readPps : Parser Pps := do
  let pps ← readPpsFields
  let more ← moreData
  let extension ← readIf (more = true) readPpsExtension
  return { pps with extension }

def Pps.secondChromaQpIndexOffset (pps : Pps) : Int :=
  (pps.extension.map PpsExtension.secondChromaQpIndexOffset).getD pps.chromaQpIndexOffset
def Pps.transform8x8ModeFlag (pps : Pps) : Bool :=
  (pps.extension.map PpsExtension.transform8x8ModeFlag).getD false

def readConfig (stream : List UInt8) : Option (Sps × Pps) := do
  match ← units stream with
  | [first,second] =>
    let (spsHeader, sps) ← decodeUnit 1 readSps first
    let (ppsHeader, pps) ← decodeUnit 1 readPps second
    if spsHeader.map (· &&& 0x9f) = [7] ∧ ppsHeader.map (· &&& 0x9f) = [8] then
      return (sps, pps)
    else none
  | _ => none
end LinDeX.H264
